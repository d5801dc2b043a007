import Elfutils.Varlocs.Depth

/-!
# The `--exprlocs` walk of `varlocs`

With `--exprlocs`, `varlocs` walks every DIE of a unit (`handle_die`) and prints each attribute
that holds a DWARF expression or a location list (`handle_attr`), every expression through
`print_expr_block` at depth `0`. libdw reaches the DIEs with `dwarf_child` and
`dwarf_siblingof`; a `DieTree` is the DIEs so reached from one DIE: none, or the DIE with the
tree of its first child and the tree of its next sibling.

`handle_die` handles a DIE, then its children one level deeper, then its next sibling at its own
level, each with the entry pc and the frame base it inherits. The walk follows the tree, which
is finite, and an expression nests at most `levelsLeft 0 + 1` activations of `print_expr` however
its references go round: with that much fuel the whole walk never runs out, and more changes
nothing (`handleDie_terminates`).
-/

set_option autoImplicit false

namespace Elfutils.Varlocs

/-- What `varlocs` prints of any DIE. -/
structure DieInfo where
  /-- `dwarf_dieoffset`. -/
  offset : UInt64
  /-- `dwarf_tag`. -/
  tag : Nat
  /-- `dwarf_diename`, `none` for `NULL`. -/
  name : Option String
  /-- `dwarf_entrypc`, or libdw's message when it fails. -/
  entrypc : Except String UInt64

/-- A DIE as `handle_die` reads it. -/
structure DieNode where
  info : DieInfo
  /-- The start of the first range `dwarf_ranges (die, 0, ...)` gives, `none` when it gives
  none. -/
  firstRangeStart : Option UInt64
  /-- `dwarf_hasattr (die, DW_AT_frame_base)`. -/
  hasFrameBase : Bool
  /-- The attributes `dwarf_getattrs` hands to the callback, in order. -/
  attrs : List Attribute
  /-- The message of the failure that ends `dwarf_getattrs` after those, if it fails. -/
  attrsError : Option String

/-- The DIEs `dwarf_child` and `dwarf_siblingof` reach from a DIE: none, or the DIE with the
tree of its first child and the tree of its next sibling. -/
inductive DieTree where
  | leaf
  | node (die : DieNode) (child sibling : DieTree)

/-- What the walks read besides the calls of `print_expr`: the location lists, and the name
tables `varlocs` builds from `dwarf.h`. -/
structure Walk where
  /-- The entries successive calls of `dwarf_getlocations` give, in order: each range with its
  expression. -/
  getlocations : Attribute → List (UInt64 × UInt64 × List Op)
  /-- libdw's message if those calls end with `-1` rather than `0`. -/
  getlocationsError : Attribute → Option String
  /-- `dwarf_attr_string`. -/
  attrString : Nat → String
  /-- `dwarf_form_string`. -/
  formString : Nat → String
  /-- `dwarf_tag_string`. -/
  tagString : Nat → String

/-- `DW_FORM_exprloc`. -/
def dwFormExprloc : Nat := 0x18

/-- `print_expr_block_addrs (attr, begin, end, exprs, len)`. -/
def printExprBlockAddrs (g : Globals) (lib : Libdw) (fuel : Nat) (attr : Attribute)
    (beginAddr endAddr : UInt64) (exprs : List Op) : Out Stop Unit := do
  Out.print ("      [" ++ hex beginAddr.toNat ++ "," ++ hex endAddr.toNat ++ ") ")
  printExprBlock g lib fuel (some attr) exprs beginAddr 0
  Out.print "\n"

/-- `if (! printed) printf ("\n")`. -/
def newlineUnless (printed : Bool) : Out Stop Unit :=
  if printed then pure () else Out.print "\n"

/-- The loop of `handle_attr` over a location list: a newline before the first entry, then each
entry indented and printed by `print_expr_block_addrs`; and whether anything was printed. -/
def printLocationList (g : Globals) (lib : Libdw) (fuel depth : Nat) (attr : Attribute) :
    List (UInt64 × UInt64 × List Op) → Bool → Out Stop Bool
  | [], printed => pure printed
  | (beginAddr, endAddr, exprs) :: rest, printed => do
    newlineUnless printed
    Out.print (spaces (depth * 2))
    printExprBlockAddrs g lib fuel attr beginAddr endAddr exprs
    printLocationList g lib fuel depth attr rest true

/-- `handle_attr (attr, arg)`, `arg` holding `depth` and `entrypc`: `none` for `DWARF_CB_OK`;
for `DWARF_CB_ABORT`, the message of the failed `dwarf_getlocation`, which `error (0, 0, ...)`
writes to standard error. -/
def handleAttr (g : Globals) (lib : Libdw) (w : Walk) (fuel depth : Nat) (entrypc : UInt64)
    (attr : Attribute) : Out Stop (Option String) := do
  Out.print (spaces (depth * 2) ++ w.attrString attr.code ++ " (" ++ w.formString attr.form ++ ")")
  match lib.getlocation attr with
  | .ok expr => do
    Out.print " "
    printExprBlock g lib fuel (some attr) expr entrypc 0
    Out.print "\n"
    pure none
  | .error msg =>
    if attr.form = dwFormExprloc then pure (some msg)
    else do
      let printed ← printLocationList g lib fuel depth attr (w.getlocations attr) false
      newlineUnless printed
      pure none

/-- `dwarf_getattrs (die, handle_attr, &arg, 0)` over the attributes it hands on: `none` when the
callback never aborts, else the message of the abort. -/
def handleAttrs (g : Globals) (lib : Libdw) (w : Walk) (fuel depth : Nat) (entrypc : UInt64) :
    List Attribute → Out Stop (Option String)
  | [] => pure none
  | attr :: rest => do
    match ← handleAttr g lib w fuel depth entrypc attr with
    | none => handleAttrs g lib w fuel depth entrypc rest
    | some msg => pure (some msg)

/-- The entry pc `handle_die` gives a DIE's expressions: its own when nonzero, else the start of
its first range when nonzero, else the one it inherits. -/
def DieNode.entrypcOr (n : DieNode) (outer : UInt64) : UInt64 :=
  match n.info.entrypc.toOption.filter (· != 0) with
  | some pc => pc
  | none =>
    match n.firstRangeStart.filter (· != 0) with
    | some start => start
    | none => outer

/-- The line `handle_die` prints for a DIE below the unit DIE: its offset, tag and name. -/
def printDieHeader (w : Walk) (depth : Nat) (n : DieNode) : Out Stop Unit :=
  -- CU DIE already printed.
  if 0 < depth then
    Out.print (spaces (depth * 2) ++ "[" ++ hex n.info.offset.toNat ++ "] " ++
      w.tagString n.info.tag ++
      match n.info.name with
      | some name => " \"" ++ name ++ "\"\n"
      | none => "\n")
  else pure ()

/-- `if (dwarf_getattrs (die, handle_attr, &arg, 0) != 1) error (EXIT_FAILURE, 0, ...)`, given
the message of the abort or of the failure, if any. -/
def checkAllAttributes : Option String → Out Stop Unit
  | some msg => Out.fail (.failed (.error ("Couldn't get all attributes: " ++ msg)))
  | none => pure ()

/-- `handle_die (die, depth, outer_has_frame_base, outer_entrypc)` on the DIE at the root of the
tree, then, through the recursion of the source, its children and its next siblings. The global
`has_frame_base` that `print_expr` reads is set for each DIE. -/
def handleDie (g : Globals) (lib : Libdw) (w : Walk) (fuel : Nat) :
    DieTree → Nat → Bool → UInt64 → Out Stop Unit
  | .leaf, _, _, _ => pure ()
  | .node n child sibling, depth, outerHasFrameBase, outerEntrypc => do
    printDieHeader w depth n
    let entrypc := n.entrypcOr outerEntrypc
    let hasFrameBase := n.hasFrameBase || outerHasFrameBase
    let aborted ← handleAttrs { g with hasFrameBase } lib w fuel (depth + 1) entrypc n.attrs
    checkAllAttributes (aborted.orElse fun _ => n.attrsError)
    handleDie g lib w fuel child (depth + 1) hasFrameBase entrypc
    handleDie g lib w fuel sibling depth outerHasFrameBase outerEntrypc

/-! ## Runs the fuel of every level bounds -/

/-- A run of the model, given its fuel, that the fuel of every level of `print_expr` from depth
`0` bounds: with that fuel it never runs out, and more fuel changes nothing. -/
def FuelBounded {α : Type} (run : Nat → Out Stop α) : Prop :=
  (run (levelsLeft 0 + 1)).res ≠ .error .exhausted ∧
    ∀ fuel, levelsLeft 0 + 1 ≤ fuel → run fuel = run (levelsLeft 0 + 1)

namespace FuelBounded

variable {α β γ : Type}

theorem const {x : Out Stop α} (hx : x.res ≠ .error .exhausted) : FuelBounded fun _ => x :=
  ⟨hx, fun _ _ => rfl⟩

theorem print (s : String) : FuelBounded fun _ => Out.print s := const (by simp)

theorem bind {x : Nat → Out Stop α} {k : Nat → α → Out Stop β} (hx : FuelBounded x)
    (hk : ∀ a, FuelBounded fun fuel => k fuel a) : FuelBounded fun fuel => x fuel >>= k fuel :=
  ⟨Out.bind_res_ne hx.1 fun a => (hk a).1, fun fuel hfuel =>
    congrArg₂ (· >>= ·) (hx.2 fuel hfuel) (funext fun a => (hk a).2 fuel hfuel)⟩

theorem ite {c : Prop} [Decidable c] {x y : Nat → Out Stop α} (hx : c → FuelBounded x)
    (hy : ¬c → FuelBounded y) : FuelBounded fun fuel => if c then x fuel else y fuel := by
  by_cases h : c
  · simpa only [h, if_true] using hx h
  · simpa only [h, if_false] using hy h

theorem forM {f : Nat → γ → Out Stop Unit} (hf : ∀ a, FuelBounded fun fuel => f fuel a) :
    ∀ l : List γ, FuelBounded fun fuel => l.forM (f fuel)
  | [] => const (by simp)
  | a :: l => by simpa only [List.forM_cons] using bind (hf a) fun _ => forM hf l

end FuelBounded

theorem printExprBlock_bounded (g : Globals) (lib : Libdw) (attr : Option Attribute)
    (exprs : List Op) (addr : UInt64) :
    FuelBounded fun fuel => printExprBlock g lib fuel attr exprs addr 0 :=
  ⟨printExprBlock_res_ne_exhausted g lib attr exprs addr 0,
    fun _ hfuel => printExprBlock_fuel_stable g lib attr exprs addr 0 hfuel⟩

/-! ## The walk terminates -/

section Terminates

variable (g : Globals) (lib : Libdw) (w : Walk)

theorem newlineUnless_bounded (printed : Bool) : FuelBounded fun _ => newlineUnless printed :=
  .const (by cases printed <;> simp [newlineUnless])

theorem printExprBlockAddrs_bounded (attr : Attribute) (beginAddr endAddr : UInt64)
    (exprs : List Op) :
    FuelBounded fun fuel => printExprBlockAddrs g lib fuel attr beginAddr endAddr exprs :=
  .bind (.print _) fun _ => .bind (printExprBlock_bounded g lib _ exprs _) fun _ => .print _

theorem printLocationList_bounded (depth : Nat) (attr : Attribute) : ∀ entries printed,
    FuelBounded fun fuel => printLocationList g lib fuel depth attr entries printed
  | [], _ => .const (by simp)
  | (_, _, exprs) :: rest, printed =>
    .bind (newlineUnless_bounded printed) fun _ => .bind (.print _) fun _ =>
      .bind (printExprBlockAddrs_bounded g lib attr _ _ exprs) fun _ =>
        printLocationList_bounded depth attr rest true

theorem handleAttr_bounded (depth : Nat) (entrypc : UInt64) (attr : Attribute) :
    FuelBounded fun fuel => handleAttr g lib w fuel depth entrypc attr := by
  refine .bind (.print _) fun _ => ?_
  cases lib.getlocation attr with
  | ok expr =>
    exact .bind (.print _) fun _ => .bind (printExprBlock_bounded g lib _ expr _) fun _ =>
      .bind (.print _) fun _ => .const (by simp)
  | error msg =>
    exact .ite (fun _ => .const (by simp)) fun _ =>
      .bind (printLocationList_bounded g lib depth attr _ false) fun printed =>
        .bind (newlineUnless_bounded printed) fun _ => .const (by simp)

theorem handleAttrs_bounded (depth : Nat) (entrypc : UInt64) : ∀ attrs,
    FuelBounded fun fuel => handleAttrs g lib w fuel depth entrypc attrs
  | [] => .const (by simp)
  | attr :: rest => .bind (handleAttr_bounded g lib w depth entrypc attr) fun
    | none => handleAttrs_bounded depth entrypc rest
    | some _ => .const (by simp)

theorem handleDie_bounded : ∀ t depth hasFrameBase entrypc,
    FuelBounded fun fuel => handleDie g lib w fuel t depth hasFrameBase entrypc
  | .leaf, _, _, _ => .const (by simp)
  | .node n child sibling, depth, _, _ =>
    .bind (.const (by unfold printDieHeader; split <;> simp)) fun _ =>
      .bind (handleAttrs_bounded _ lib w _ _ n.attrs) fun aborted =>
        .bind (.const (by cases aborted.orElse fun _ => n.attrsError <;>
          simp [checkAllAttributes, Out.fail])) fun _ =>
          .bind (handleDie_bounded child _ _ _) fun _ => handleDie_bounded sibling _ _ _

end Terminates

/-- The `--exprlocs` walk terminates on every tree of DIEs, whatever the expressions refer to:
with fuel for all the levels of `print_expr` from depth `0` it never runs out, and more fuel
changes nothing. -/
theorem handleDie_terminates (g : Globals) (lib : Libdw) (w : Walk) (t : DieTree) (depth : Nat)
    (hasFrameBase : Bool) (entrypc : UInt64) :
    (handleDie g lib w (levelsLeft 0 + 1) t depth hasFrameBase entrypc).res ≠ .error .exhausted ∧
      ∀ fuel, levelsLeft 0 + 1 ≤ fuel →
        handleDie g lib w fuel t depth hasFrameBase entrypc =
          handleDie g lib w (levelsLeft 0 + 1) t depth hasFrameBase entrypc :=
  handleDie_bounded g lib w t depth hasFrameBase entrypc

end Elfutils.Varlocs
