import Elfutils.Varlocs.HandleDie

/-!
# The function walk of `varlocs`

Without `--exprlocs`, `varlocs` hands every function DIE of a unit to `handle_function`. A
function with code is printed by `print_varlocs`; an abstract inline function is not, but each
of its inlined instances is (`handle_instance`). `print_varlocs` prints the frame base of the
function, then the location of each variable and parameter: one expression at every range of the
function, or a location list whose entries are checked against `dwarf_getlocation_addr`.

`print_varlocs` first sets the global `has_frame_base` that `print_expr` reads for
`DW_OP_fbreg`. An inlined instance has no frame base of its own; it uses the one of the
subprogram it is inlined into, if that has one: the first scope that is a subprogram with a frame
base, which is there exactly when any is (`searchScopes_eq_any`).

Every expression is printed by `print_expr_block` at depth `0`, so the function walk, like the
`--exprlocs` walk, is bounded by the fuel of every level of `print_expr` (`handleFunction_bounded`).
-/

set_option autoImplicit false

namespace Elfutils.Varlocs

/-- `DW_TAG_compile_unit`. -/
def dwTagCompileUnit : Nat := 0x11

/-- `DW_TAG_inlined_subroutine`. -/
def dwTagInlinedSubroutine : Nat := 0x1d

/-- `DW_TAG_subprogram`. -/
def dwTagSubprogram : Nat := 0x2e

/-- `DW_TAG_variable`. -/
def dwTagVariable : Nat := 0x34

/-- A child of a function DIE as `print_varlocs` reads it. -/
structure VarDie where
  info : DieInfo
  /-- `dwarf_hasattr (child, DW_AT_location)`. -/
  hasLocation : Bool
  /-- `dwarf_attr (child, DW_AT_location, &attr)`, or libdw's message for `NULL`. -/
  location : Except String Attribute
  /-- `dwarf_hasattr (child, DW_AT_const_value)`. -/
  hasConstValue : Bool

/-- A function DIE, or the DIE of an inlined instance, as `print_varlocs` reads it. -/
structure FuncDie where
  info : DieInfo
  /-- `dwarf_hasattr (funcdie, DW_AT_frame_base)`. -/
  hasFrameBase : Bool
  /-- `dwarf_attr (funcdie, DW_AT_frame_base, &fb_attr)`, or libdw's message for `NULL`. -/
  frameBase : Except String Attribute
  /-- `dwarf_getscopes_die (funcdie, &scopes)`: for each scope, innermost first, its tag and
  whether it has a `DW_AT_frame_base`; or libdw's message when it returns `n <= 0`. -/
  scopes : Except String {s : List (Nat × Bool) // s ≠ []}
  /-- The ranges successive calls of `dwarf_ranges (funcdie, offset, ...)` give, in order. -/
  ranges : List (UInt64 × UInt64)
  /-- libdw's message if those calls end with `-1` rather than `0`. -/
  rangesError : Option String
  /-- The children `dwarf_child` and `dwarf_siblingof` reach, none when `dwarf_haschildren`
  says there are none or `dwarf_child` finds the list empty; or libdw's message when
  `dwarf_child` fails. -/
  children : Except String (List VarDie)

/-- A function DIE as `handle_function` reads it. -/
structure FunctionDie where
  die : FuncDie
  /-- `dwarf_func_inline (funcdie) > 0`: an abstract inline definition. -/
  inlined : Bool
  /-- The instances `dwarf_func_inline_instances` hands to `handle_instance`, in order. -/
  instances : List FuncDie
  /-- libdw's message if `dwarf_func_inline_instances` then fails. -/
  instancesError : Option String

/-- `error (EXIT_FAILURE, 0, msg)` in the walks. -/
def failWith {α : Type} (msg : String) : Out Stop α := Out.fail (.failed (.error msg))

/-- A libdw call of the walks checked as `if (call fails) error (EXIT_FAILURE, 0, "...%s",
dwarf_errmsg (-1))`, `lead` being the text before libdw's message. -/
def checkCall {α : Type} (lead : String) : Except String α → Out Stop α
  | .ok a => pure a
  | .error msg => failWith (lead ++ msg)

/-- The check after a loop over successive libdw calls: `error (EXIT_FAILURE, 0, ...)` if they
ended with `-1`. -/
def checkEnd (lead : String) : Option String → Out Stop Unit
  | none => pure ()
  | some msg => failWith (lead ++ msg)

/-- `print_die (die, what, indent)`. -/
def printDie (die : DieInfo) (what : String) (indent : Nat) : Out Stop Unit :=
  Out.print (spaces (indent * 2) ++ "[" ++ hex die.offset.toNat ++ "] " ++ what ++ " '" ++
    die.name.getD "<unknown>" ++ "'" ++
    (match die.entrypc with
     | .ok entrypc => "@" ++ hex entrypc.toNat
     | .error _ => "") ++ "\n")

/-! ## The frame base -/

/-- The frame base over the whole function, printed from its entry pc. -/
def printFrameBaseExpr (g : Globals) (lib : Libdw) (fuel : Nat) (fbAttr : Attribute)
    (fbExpr : List Op) (entrypc : UInt64) : Out Stop Unit :=
  -- XXX bad DWARF?
  if entrypc = 0 then Out.print "XXX zero address"
  else printExprBlock g lib fuel (some fbAttr) fbExpr entrypc 0

/-- An entry of the location list of a frame base. -/
def printFrameBaseEntry (g : Globals) (lib : Libdw) (fuel : Nat) (fbAttr : Attribute)
    (startAddr endAddr : UInt64) (fbExpr : List Op) : Out Stop Unit := do
  Out.print ("      (" ++ hex startAddr.toNat ++ "," ++ hex endAddr.toNat ++ ") ")
  printExprBlock g lib fuel (some fbAttr) fbExpr startAddr 0
  Out.print "\n"

/-- The frame base of a function that has one: one expression that covers all of the function,
or a location list. -/
def printFrameBase (g : Globals) (lib : Libdw) (w : Walk) (fuel : Nat) (f : FuncDie)
    (fbAttr : Attribute) : Out Stop Unit :=
  match lib.getlocation fbAttr with
  | .ok fbExpr => do
    let entrypc ← checkCall "dwarf_entrypc: " f.info.entrypc
    Out.print "    frame_base: "
    printFrameBaseExpr g lib fuel fbAttr fbExpr entrypc
    Out.print "\n"
  | .error _ => do
    Out.print "    frame_base:\n"
    (w.getlocations fbAttr).forM fun (startAddr, endAddr, fbExpr) =>
      printFrameBaseEntry g lib fuel fbAttr startAddr endAddr fbExpr
    checkEnd "dwarf_getlocations fb: " (w.getlocationsError fbAttr)

/-- The loop of `print_varlocs` over the scopes of an inlined subroutine, from the outermost in:
whether one of them is a subprogram with a frame base. -/
def searchScopes : List (Nat × Bool) → Bool
  | [] => false
  | (tag, hasFrameBase) :: rest =>
    if tag == dwTagSubprogram && hasFrameBase then true else searchScopes rest

/-- The start of `print_varlocs`: prints the frame base of a function that has one, and returns
the `has_frame_base` its variables are printed with. -/
def frameBase (g : Globals) (lib : Libdw) (w : Walk) (fuel : Nat) (f : FuncDie) :
    Out Stop Bool :=
  if f.hasFrameBase then do
    let fbAttr ← checkCall "dwarf_attr fb: " f.frameBase
    printFrameBase { g with hasFrameBase := true } lib w fuel f fbAttr
    pure true
  else if f.info.tag = dwTagInlinedSubroutine then do
    let scopes ← checkCall "dwarf_getscopes_die: " f.scopes
    pure (searchScopes scopes.val.reverse)
  else pure false

/-! ## The variables -/

/-- A variable whose location is one expression, at one range of the function. -/
def printRange (g : Globals) (lib : Libdw) (fuel : Nat) (attr : Attribute) (expr : List Op)
    (beginAddr endAddr : UInt64) : Out Stop Unit :=
  if expr.isEmpty then
    Out.print ("      (" ++ hex beginAddr.toNat ++ "," ++ hex endAddr.toNat ++
      ") <empty expression>\n")
  else printExprBlockAddrs g lib fuel attr beginAddr endAddr expr

/-- `assert (locs == 1)` after `dwarf_getlocation_addr (..., 1)`. -/
def checkOneLocation (locs : Except String (Option (List Op))) : Out Stop Unit :=
  let found := match locs with
    | .ok (some _) => true
    | _ => false
  (check found "locs == 1").mapError .failed

/-- An entry of a variable's location list; a nonempty range is checked against
`dwarf_getlocation_addr` at its first and its last address. -/
def printLocationEntry (g : Globals) (lib : Libdw) (fuel : Nat) (attr : Attribute)
    (beginAddr endAddr : UInt64) (expr : List Op) : Out Stop Unit :=
  -- XXX report?
  if endAddr ≤ beginAddr then
    Out.print ("      (" ++ hex beginAddr.toNat ++ "," ++ hex endAddr.toNat ++ ") <empty range>\n")
  else do
    printExprBlockAddrs g lib fuel attr beginAddr endAddr expr
    checkOneLocation (lib.getlocationAddr attr beginAddr)
    checkOneLocation (lib.getlocationAddr attr (endAddr - 1))

/-- The location of a variable: one expression at every range of the function, or a location
list. -/
def printLocation (g : Globals) (lib : Libdw) (w : Walk) (fuel : Nat) (f : FuncDie)
    (attr : Attribute) : Out Stop Unit :=
  match lib.getlocation attr with
  | .ok expr => do
    f.ranges.forM fun (beginAddr, endAddr) => printRange g lib fuel attr expr beginAddr endAddr
    checkEnd "dwarf_ranges: " f.rangesError
  | .error _ => do
    (w.getlocations attr).forM fun (beginAddr, endAddr, expr) =>
      printLocationEntry g lib fuel attr beginAddr endAddr expr
    checkEnd "dwarf_getlocations: " (w.getlocationsError attr)

/-- The value of a variable or parameter: its location, or whether it has a constant value. -/
def printValue (g : Globals) (lib : Libdw) (w : Walk) (fuel : Nat) (f : FuncDie) (v : VarDie) :
    Out Stop Unit :=
  if v.hasLocation then do
    let attr ← checkCall "dwarf_attr: " v.location
    printLocation g lib w fuel f attr
  -- Lookup type and print.
  else if v.hasConstValue then Out.print "      <constant value>\n"
  else Out.print "      <no value>\n"

/-- The body of the loop of `print_varlocs` over the children of the function: a variable or a
parameter is printed with its value, any other child is passed over. -/
def printVar (g : Globals) (lib : Libdw) (w : Walk) (fuel : Nat) (f : FuncDie) (v : VarDie) :
    Out Stop Unit :=
  if v.info.tag = dwTagVariable ∨ v.info.tag = dwTagFormalParameter then do
    printDie v.info (if v.info.tag = dwTagVariable then "variable" else "parameter") 2
    printValue g lib w fuel f v
  else pure ()

/-- `print_varlocs (funcdie)`. -/
def printVarlocs (g : Globals) (lib : Libdw) (w : Walk) (fuel : Nat) (f : FuncDie) :
    Out Stop Unit := do
  let hasFrameBase ← frameBase g lib w fuel f
  let children ← checkCall "dwarf_child: " f.children
  children.forM (printVar { g with hasFrameBase } lib w fuel f)

/-- `handle_instance (funcdie, arg)`. -/
def handleInstance (g : Globals) (lib : Libdw) (w : Walk) (fuel : Nat) (f : FuncDie) :
    Out Stop Unit := do
  printDie f.info "inlined function" 1
  printVarlocs g lib w fuel f

/-- `handle_function (funcdie, arg)`: the inlined instances of an abstract inline function, or a
function that contains actual code, not just a declaration. -/
def handleFunction (g : Globals) (lib : Libdw) (w : Walk) (fuel : Nat) (fn : FunctionDie) :
    Out Stop Unit :=
  if fn.inlined then do
    fn.instances.forM (handleInstance g lib w fuel)
    checkEnd "dwarf_func_inline_instances: " fn.instancesError
  else
    match fn.die.info.entrypc with
    | .ok _ => do
      printDie fn.die.info "function" 1
      printVarlocs g lib w fuel fn.die
    | .error _ => pure ()

/-! ## The function walk terminates -/

section Bounded

variable (g : Globals) (lib : Libdw) (w : Walk)

theorem checkCall_bounded {α : Type} (lead : String) (e : Except String α) :
    FuelBounded fun _ => checkCall lead e :=
  .const (by cases e <;> simp [checkCall, failWith, Out.fail])

theorem checkEnd_bounded (lead : String) (e : Option String) :
    FuelBounded fun _ => checkEnd lead e :=
  .const (by cases e <;> simp [checkEnd, failWith, Out.fail])

theorem printFrameBaseEntry_bounded (fbAttr : Attribute) (startAddr endAddr : UInt64)
    (fbExpr : List Op) :
    FuelBounded fun fuel => printFrameBaseEntry g lib fuel fbAttr startAddr endAddr fbExpr :=
  .bind (.print _) fun _ => .bind (printExprBlock_bounded g lib _ fbExpr _) fun _ => .print _

theorem printFrameBase_bounded (f : FuncDie) (fbAttr : Attribute) :
    FuelBounded fun fuel => printFrameBase g lib w fuel f fbAttr := by
  unfold printFrameBase
  cases lib.getlocation fbAttr with
  | ok fbExpr =>
    exact .bind (checkCall_bounded _ _) fun _ => .bind (.print _) fun _ =>
      .bind (.ite (fun _ => .print _) fun _ => printExprBlock_bounded g lib _ fbExpr _) fun _ =>
        .print _
  | error _ =>
    exact .bind (.print _) fun _ =>
      .bind (.forM (fun _ => printFrameBaseEntry_bounded g lib fbAttr _ _ _) _) fun _ =>
        checkEnd_bounded _ _

theorem frameBase_bounded (f : FuncDie) : FuelBounded fun fuel => frameBase g lib w fuel f :=
  .ite (fun _ => .bind (checkCall_bounded _ _) fun fbAttr =>
      .bind (printFrameBase_bounded _ lib w f fbAttr) fun _ => .const (by simp))
    fun _ => .ite (fun _ => .bind (checkCall_bounded _ _) fun _ => .const (by simp))
      fun _ => .const (by simp)

theorem printRange_bounded (attr : Attribute) (expr : List Op) (beginAddr endAddr : UInt64) :
    FuelBounded fun fuel => printRange g lib fuel attr expr beginAddr endAddr :=
  .ite (fun _ => .print _) fun _ => printExprBlockAddrs_bounded g lib attr _ _ expr

theorem checkOneLocation_bounded (locs : Except String (Option (List Op))) :
    FuelBounded fun _ => checkOneLocation locs :=
  .const (by unfold checkOneLocation check; split <;> simp [Out.fail, Except.mapError])

theorem printLocationEntry_bounded (attr : Attribute) (beginAddr endAddr : UInt64)
    (expr : List Op) :
    FuelBounded fun fuel => printLocationEntry g lib fuel attr beginAddr endAddr expr :=
  .ite (fun _ => .print _) fun _ =>
    .bind (printExprBlockAddrs_bounded g lib attr _ _ expr) fun _ =>
      .bind (checkOneLocation_bounded _) fun _ => checkOneLocation_bounded _

theorem printLocation_bounded (f : FuncDie) (attr : Attribute) :
    FuelBounded fun fuel => printLocation g lib w fuel f attr := by
  unfold printLocation
  cases lib.getlocation attr with
  | ok expr =>
    exact .bind (.forM (fun _ => printRange_bounded g lib attr expr _ _) _) fun _ =>
      checkEnd_bounded _ _
  | error _ =>
    exact .bind (.forM (fun _ => printLocationEntry_bounded g lib attr _ _ _) _) fun _ =>
      checkEnd_bounded _ _

theorem printVar_bounded (f : FuncDie) (v : VarDie) :
    FuelBounded fun fuel => printVar g lib w fuel f v :=
  .ite (fun _ => .bind (.print _) fun _ =>
      .ite (fun _ => .bind (checkCall_bounded _ _) fun attr => printLocation_bounded g lib w f attr)
        fun _ => .ite (fun _ => .print _) fun _ => .print _)
    fun _ => .const (by simp)

theorem printVarlocs_bounded (f : FuncDie) : FuelBounded fun fuel => printVarlocs g lib w fuel f :=
  .bind (frameBase_bounded g lib w f) fun _ => .bind (checkCall_bounded _ _) fun children =>
    .forM (fun v => printVar_bounded _ lib w f v) children

/-- The function walk of a unit is bounded by the fuel of every level of `print_expr`, whatever
its DIEs: each function, each instance and each variable prints its expressions from depth `0`. -/
theorem handleFunction_bounded (fn : FunctionDie) :
    FuelBounded fun fuel => handleFunction g lib w fuel fn := by
  unfold handleFunction
  refine .ite (fun _ => .bind (.forM (fun f => ?_) _) fun _ => checkEnd_bounded _ _) fun _ => ?_
  · exact .bind (.print _) fun _ => printVarlocs_bounded g lib w f
  · cases fn.die.info.entrypc with
    | ok _ => exact .bind (.print _) fun _ => printVarlocs_bounded g lib w fn.die
    | error _ => exact .const (by simp)

end Bounded

/-! ## The frame base of an inlined instance -/

/-- The loop over the scopes finds a subprogram with a frame base exactly when one is there:
stopping at the first changes nothing. -/
theorem searchScopes_eq_any (scopes : List (Nat × Bool)) :
    searchScopes scopes = scopes.any fun s => s.1 == dwTagSubprogram && s.2 := by
  induction scopes with
  | nil => rfl
  | cons s rest ih =>
    obtain ⟨tag, hasFrameBase⟩ := s
    cases h : (tag == dwTagSubprogram && hasFrameBase) <;> simp [searchScopes, h, ih]

/-- No location lists, and empty name tables. -/
def noLocations : Walk := ⟨fun _ => [], fun _ => none, fun _ => "", fun _ => "", fun _ => ""⟩

/-- The scopes of a subroutine inlined into a function with a frame base, innermost first. -/
def inlinedScopes : {s : List (Nat × Bool) // s ≠ []} :=
  ⟨[(dwTagInlinedSubroutine, false), (dwTagSubprogram, true), (dwTagCompileUnit, false)],
    List.cons_ne_nil _ _⟩

/-- An instance of a subroutine inlined into a function with a frame base, with one parameter
that has a location. -/
def inlinedInstance : FuncDie where
  info := ⟨0x40, dwTagInlinedSubroutine, some "inlined", .ok 0x1000⟩
  hasFrameBase := false
  frameBase := .error "no DW_AT_frame_base"
  scopes := .ok inlinedScopes
  ranges := [(0x1000, 0x1010)]
  rangesError := none
  children := .ok [⟨⟨0x50, dwTagFormalParameter, some "p", .ok 0x1000⟩, true, .ok selfCallAttr,
    false⟩]

-- The inlined instance takes the frame base of the subprogram it is inlined into.
example : (frameBase { noCfi with hasFrameBase := false } selfCall noLocations 0
    inlinedInstance).res = .ok true := rfl

end Elfutils.Varlocs
