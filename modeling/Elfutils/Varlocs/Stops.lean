import Elfutils.Varlocs.Main

/-!
# The stops of `varlocs`

`varlocs` stops the program with `error (EXIT_FAILURE, 0, ...)` in many places, and this module
says which texts such a stop can have. A message that holds libdw's message starts with the name
of the libdw call (`libdwCalls`); one that holds the name of an operation starts with
"unhandled opcode", or is the name libdw gives the operation followed by " used in CFI"; the
check of the attributes starts with "Couldn't get all attributes". The others are literals.

So a text that is none of those (`Foreign`) is the message of no stop, but for those the lemmas
carry as hypotheses: the stop of `print_expr` on `DW_OP_fbreg` when `has_frame_base` is not set,
its stops on `DW_OP_call_frame_cfa` when it finds no call frame information (`CfiMissing`), which
`--debug` turns off, and the stop of `main` after the last unit when it walked none. The lemmas
follow the program from `print_expr` up to the loop of `main` over the units, one for each
function, each from those of the functions it calls.
-/

set_option autoImplicit false

namespace Elfutils.Varlocs

/-- The literal messages of the stops of `varlocs`, but for the ones on `DW_OP_fbreg` and
`DW_OP_call_frame_cfa` and the one after the last unit. -/
def otherLiterals : List String :=
  ["not a base type", "base type without encoding", "base type without byte or bit size",
    "Not a formal parameter"]

/-- The libdw calls whose names start the messages that report their failures, but for
`dwarf_cfi_addrframe`; `dwarf_getlocation` stands for all the calls its name starts. -/
def libdwCalls : List String :=
  ["dwarf_getlocation", "dwarf_formblock", "dwarf_formaddr", "dwarf_formudata",
    "dwarf_frame_cfa", "dwarf_attr", "dwarf_child", "dwarf_cu_info", "dwarf_entrypc",
    "dwarf_func_inline_instances", "dwarf_getfuncs", "dwarf_getscopes_die", "dwarf_ranges",
    "dwfl_module_info"]

/-- A text that starts with the name of one of `libdwCalls`. -/
def StartsLibdw (x : String) : Prop := ∃ p ∈ libdwCalls, p.data <+: x.data

instance (x : String) : Decidable (StartsLibdw x) :=
  inferInstanceAs (Decidable (∃ p ∈ libdwCalls, p.data <+: x.data))

theorem StartsLibdw.append {x : String} (hx : StartsLibdw x) (y : String) :
    StartsLibdw (x ++ y) :=
  let ⟨p, hp, hpx⟩ := hx
  ⟨p, hp, hpx.trans (String.data_append x y ▸ List.prefix_append _ _)⟩

/-- The texts of the stops of `print_expr` on `DW_OP_call_frame_cfa` when it finds no call frame
information: for the module, or at the address. -/
def CfiMissing (t : String) : Prop :=
  t = "DW_OP_call_frame_cfa used but no cfi found." ∨ "dwarf_cfi_addrframe".data <+: t.data

instance (t : String) : Decidable (CfiMissing t) := inferInstanceAs (Decidable (_ ∨ _))

/-- A text no stop of `varlocs` run over `lib` has, but maybe those on `DW_OP_fbreg` and on
`DW_OP_call_frame_cfa` and the one after the last unit: it starts with none of the letters that
start the messages holding an operation's name or the attributes' check, and with no name of
`libdwCalls`, is no operation's name followed by " used in CFI", and is none of the other literal
messages. -/
structure Foreign (lib : Libdw) (t : String) : Prop where
  head : ∀ c ∈ ['u', 'C'], t.data.head? ≠ some c
  libdw : ¬StartsLibdw t
  usedInCfi : ∀ a, t ≠ lib.opcodeString a ++ " used in CFI"
  literal : t ∉ otherLiterals

/-- A text that does not end as " used in CFI" does is no operation's name followed by it. -/
theorem ne_usedInCfi {t : String} (ht : t.data.getLast? ≠ some 'I') (opname : String) :
    t ≠ opname ++ " used in CFI" := by
  rintro rfl
  exact ht (by rw [String.data_append, List.getLast?_append_of_ne_nil _ (by decide)]; rfl)

/-! ## Messages -/

namespace Foreign

variable {lib : Libdw} {t : String}

theorem of_last (head : ∀ c ∈ ['u', 'C'], t.data.head? ≠ some c) (libdw : ¬StartsLibdw t)
    (last : t.data.getLast? ≠ some 'I') (literal : t ∉ otherLiterals) : Foreign lib t :=
  ⟨head, libdw, fun _ => ne_usedInCfi last _, literal⟩

variable (ht : Foreign lib t)
include ht

theorem error_ne_of_head {msg : String} (c : Char) (hc : c ∈ ['u', 'C'])
    (hmsg : msg.data.head? = some c) : Failure.error msg ≠ .error t := by
  rintro ⟨⟩
  exact ht.head c hc hmsg

theorem error_ne_literal {msg : String} (hmsg : msg ∈ otherLiterals) :
    Failure.error msg ≠ .error t := by
  rintro ⟨⟩
  exact ht.literal hmsg

theorem error_ne_of_startsLibdw {msg : String} (hmsg : StartsLibdw msg) :
    Failure.error msg ≠ .error t := by
  rintro ⟨⟩
  exact ht.libdw hmsg

/-- A message that starts with the name of a libdw call is not `t`. -/
theorem append_ne (e : String) {x : String} (hx : StartsLibdw x) :
    Failure.error (x ++ e) ≠ .error t :=
  ht.error_ne_of_startsLibdw (hx.append e)

end Foreign

theorem error_ne_of_cfiMissing {t msg : String} (hmsg : CfiMissing msg) (ht : ¬CfiMissing t) :
    Failure.error msg ≠ .error t := by
  rintro ⟨⟩
  exact ht hmsg

/-! ## The operations -/

section Operations

variable {t : String} {α : Type}

theorem error_res_ne {msg : String} (h : Failure.error msg ≠ .error t) :
    (error msg : Out Failure α).res ≠ .error (.error t) := by
  simpa [error, Out.fail] using h

/-- A stop with a text other than `t` ends the run. -/
theorem error_bind_res_ne {β : Type} {msg : String} (h : Failure.error msg ≠ .error t)
    (f : α → Out Failure β) : (error msg >>= f).res ≠ .error (.error t) := by
  simpa [error, Out.fail] using h

theorem check_res_ne (b : Bool) (expr : String) : (check b expr).res ≠ .error (.error t) := by
  unfold check
  split <;> simp [Out.fail]

theorem orError_res_ne {msg : String → String} (h : ∀ e, Failure.error (msg e) ≠ .error t)
    (x : Except String α) : (orError msg x).res ≠ .error (.error t) := by
  cases x with
  | ok a => simp [orError]
  | error e => exact error_res_ne (h e)

theorem printImplicitBytes_res_ne : ∀ bs cs : List UInt8,
    (printImplicitBytes bs cs).res ≠ .error (.error t)
  | _ :: bs, _ :: cs => Out.bind_res_ne (by simp) fun _ =>
      Out.bind_res_ne (check_res_ne _ _) fun _ => printImplicitBytes_res_ne bs cs
  | [], _ => by simp [printImplicitBytes]
  | _ :: _, [] => by simp [printImplicitBytes]

variable {lib : Libdw} (ht : Foreign lib t)
include ht

theorem Foreign.notInCfi_res_ne (attr : Option Attribute) (a : UInt8) :
    (notInCfi attr (lib.opcodeString a)).res ≠ .error (.error t) := by
  unfold notInCfi
  split
  · exact error_res_ne fun h => ht.usedInCfi a (by injection h with h; exact h.symm)
  · simp

theorem Foreign.printBaseType_res_ne (base : Die) :
    (printBaseType lib base).res ≠ .error (.error t) := by
  unfold printBaseType
  dsimp only
  split
  · exact error_bind_res_ne (ht.error_ne_literal (by decide)) _
  · simp only [Out.pure_eq, Out.bind_ok]
    split
    · simp only [Out.pure_eq, Out.bind_ok]
      split
      · simp
      · split
        · simp
        · exact error_bind_res_ne (ht.error_ne_literal (by decide)) _
    · exact error_bind_res_ne (ht.error_ne_literal (by decide)) _

theorem Foreign.printLocationValue_res_ne (attrval : Attribute) (addr : UInt64) :
    (printLocationValue lib attrval addr).res ≠ .error (.error t) := by
  unfold printLocationValue
  split
  · simp
  · split
    · simp
    · simp
    · exact error_res_ne (ht.append_ne _ (.append (.append (by decide) _) _))

theorem Foreign.printIndexed_res_ne (attr : Option Attribute) (expr : Op)
    (form : Attribute → Except String UInt64) (formFailed label : String)
    (hform : StartsLibdw formFailed) :
    (printIndexed lib attr expr form formFailed label).res ≠ .error (.error t) :=
  Out.bind_res_ne (orError_res_ne (fun e => ht.append_ne e (by decide)) _) fun _ =>
    Out.bind_res_ne (orError_res_ne (fun e => ht.append_ne e hform) _) fun _ => by simp

/-- An operation stops with a foreign text only on `DW_OP_fbreg` without a frame base, or on
`DW_OP_call_frame_cfa` without call frame information and without `--debug`, and then only if the
text is that of the stop. -/
theorem Foreign.printOp_res_ne (g : Globals) (attr : Option Attribute) (expr : Op) (addr : UInt64)
    (hfb : g.hasFrameBase = true ∨ t ≠ "DW_OP_fbreg used without a frame base")
    (hcfi : g.isDebug = true ∨ ¬CfiMissing t) :
    (printOp g lib attr expr addr).res ≠ .error (.error t) := by
  have hd : ∀ (x : String), StartsLibdw x → ∀ ⦃β : Type⦄ (y : Except String β),
      (orError (fun e => x ++ e) y).res ≠ .error (.error t) :=
    fun x hx _ => orError_res_ne fun e => ht.append_ne e hx
  -- the libdw calls most operations make
  have hattr := hd "dwarf_getlocation_attr: " (by decide)
  have hdie := hd "dwarf_getlocation_die: " (by decide)
  have hentry := hd "dwarf_getlocation for entry: " (by decide)
  unfold printOp
  generalize opCase expr.atom = c
  rcases c with _ | c
  · -- an operation libdw does not know
    exact error_res_ne (ht.error_ne_of_head 'u' (by decide) (by simp [String.data_append]))
  cases c
  · -- no operands
    exact Out.bind_res_ne (by simp) fun _ => by simp
  · -- DW_OP_call_frame_cfa: without `--debug`, a missing frame stops with its own text
    refine Out.bind_res_ne (ht.notInCfi_res_ne _ _) fun _ => Out.bind_res_ne (by simp) fun _ => ?_
    dsimp only
    split
    · rename_i hnone
      have hne := hcfi.resolve_left fun h => by simp [h] at hnone
      exact error_bind_res_ne (error_ne_of_cfiMissing (.inl rfl) hne) _
    · simp only [Out.pure_eq, Out.bind_ok]
      split
      · refine Out.bind_res_ne (hd _ (.append (.append (by decide) _) _) _) fun ops => ?_
        split
        · exact error_bind_res_ne (ht.error_ne_of_startsLibdw (by decide)) _
        · simp
      · split
        · simp
        · rename_i hrel
          have hne := hcfi.resolve_left fun h => by simp [h] at hrel
          refine error_res_ne (error_ne_of_cfiMissing (.inr ?_) hne)
          simp only [String.data_append, List.append_assoc]
          exact List.IsPrefix.trans (by decide) (List.prefix_append _ _)
  · -- DW_OP_push_object_address
    exact Out.bind_res_ne (ht.notInCfi_res_ne _ _) fun _ => Out.bind_res_ne (by simp) fun _ =>
      by simp
  · exact Out.bind_res_ne (by simp) fun _ => by simp
  · exact Out.bind_res_ne (by simp) fun _ => by simp
  · -- DW_OP_call2, DW_OP_call4, DW_OP_call_ref
    exact Out.bind_res_ne (ht.notInCfi_res_ne _ _) fun _ =>
      Out.bind_res_ne (hd _ (.append (.append (by decide) _) _) _) fun _ =>
        Out.bind_res_ne (hd _ (.append (.append (by decide) _) _) _) fun _ =>
          Out.bind_res_ne (hentry _) fun _ =>
            Out.bind_res_ne (by simp) fun _ => by simp
  · exact Out.bind_res_ne (by simp) fun _ => by simp
  · -- DW_OP_fbreg: with a frame base the check passes, else it stops with its own text
    refine Out.bind_res_ne (ht.notInCfi_res_ne _ _) fun _ => ?_
    rcases hfb with hfb | hne
    · simp [hfb]
    · cases g.hasFrameBase <;> simp [error, Out.fail, Ne.symm hne]
  · exact Out.bind_res_ne (by simp) fun _ => by simp
  · exact Out.bind_res_ne (by simp) fun _ => by simp
  · -- DW_OP_implicit_value
    exact Out.bind_res_ne (hattr _) fun _ =>
      Out.bind_res_ne (hd _ (by decide) _) fun _ =>
        Out.bind_res_ne (hd _ (by decide) _) fun _ =>
          Out.bind_res_ne (check_res_ne _ _) fun _ => Out.bind_res_ne (check_res_ne _ _)
            fun _ => Out.bind_res_ne (by simp) fun _ =>
              Out.bind_res_ne (printImplicitBytes_res_ne _ _) fun _ =>
                Out.bind_res_ne (by simp) fun _ => by simp
  · -- DW_OP_implicit_pointer
    exact Out.bind_res_ne (ht.notInCfi_res_ne _ _) fun _ =>
      Out.bind_res_ne (hd _ (by decide) _) fun _ =>
        Out.bind_res_ne (hattr _) fun _ =>
          Out.bind_res_ne (check_res_ne _ _) fun _ => Out.bind_res_ne (check_res_ne _ _)
            fun _ => Out.bind_res_ne (check_res_ne _ _) fun _ =>
              Out.bind_res_ne (hdie _) fun _ =>
                Out.bind_res_ne (by simp) fun _ => ht.printLocationValue_res_ne _ _
  · -- DW_OP_GNU_variable_value
    exact Out.bind_res_ne (ht.notInCfi_res_ne _ _) fun _ =>
      Out.bind_res_ne (hattr _) fun _ =>
        Out.bind_res_ne (hdie _) fun _ =>
          Out.bind_res_ne (by simp) fun _ => ht.printLocationValue_res_ne _ _
  · -- DW_OP_entry_value
    exact Out.bind_res_ne (hattr _) fun _ =>
      Out.bind_res_ne (hentry _) fun _ =>
        Out.bind_res_ne (by simp) fun _ => by simp
  · -- DW_OP_GNU_parameter_ref
    refine Out.bind_res_ne (hdie _) fun _ =>
      Out.bind_res_ne (by simp) fun _ => Out.bind_res_ne (check_res_ne _ _) fun _ => ?_
    dsimp only
    split
    · exact error_bind_res_ne (ht.error_ne_literal (by decide)) _
    · simp
  · -- DW_OP_convert, DW_OP_reinterpret
    dsimp only
    split
    · exact Out.bind_res_ne (hdie _) fun _ =>
        Out.bind_res_ne (check_res_ne _ _) fun _ => Out.bind_res_ne (by simp) fun _ =>
          Out.bind_res_ne (ht.printBaseType_res_ne _) fun _ => by simp
    · simp
  · -- DW_OP_regval_type
    exact Out.bind_res_ne (hdie _) fun _ =>
      Out.bind_res_ne (check_res_ne _ _) fun _ => Out.bind_res_ne (by simp) fun _ =>
        Out.bind_res_ne (ht.printBaseType_res_ne _) fun _ => by simp
  · -- DW_OP_deref_type
    exact Out.bind_res_ne (hdie _) fun _ =>
      Out.bind_res_ne (check_res_ne _ _) fun _ => Out.bind_res_ne (by simp) fun _ =>
        Out.bind_res_ne (ht.printBaseType_res_ne _) fun _ => by simp
  · -- DW_OP_xderef_type
    exact Out.bind_res_ne (hdie _) fun _ =>
      Out.bind_res_ne (by simp) fun _ => Out.bind_res_ne (ht.printBaseType_res_ne _) fun _ =>
        by simp
  · -- DW_OP_const_type
    exact Out.bind_res_ne (hdie _) fun _ =>
      Out.bind_res_ne (check_res_ne _ _) fun _ =>
        Out.bind_res_ne (hd _ (by decide) _) fun _ =>
          Out.bind_res_ne (hd _ (by decide) _) fun _ =>
            Out.bind_res_ne (by simp) fun _ =>
              Out.bind_res_ne (ht.printBaseType_res_ne _) fun _ =>
                Out.bind_res_ne (by simp) fun _ => Out.bind_res_ne (by simp) fun _ =>
                  Out.bind_res_ne (by simp) fun _ => by simp
  · exact ht.printIndexed_res_ne _ _ _ _ _ (by decide)
  · exact ht.printIndexed_res_ne _ _ _ _ _ (by decide)

end Operations

/-! ## Runs of `print_expr` -/

section Runs

variable {t : String} {lib : Libdw} (ht : Foreign lib t) (g : Globals)
  (hfb : g.hasFrameBase = true ∨ t ≠ "DW_OP_fbreg used without a frame base")
  (hcfi : g.isDebug = true ∨ ¬CfiMissing t)
include ht hfb hcfi

theorem Foreign.printExpr_res_ne : ∀ fuel attr expr addr depth,
    (printExpr g lib fuel attr expr addr depth).res ≠ .error (.failed (.error t))
  | 0, _, _, _, _ => by simp [printExpr, Out.fail]
  | fuel + 1, attr, expr, addr, depth => by
    by_cases hd : maxDepth < depth
    · simp [printExpr_of_gt g lib fuel attr expr addr hd, Out.fail]
    · rw [printExpr_of_le g lib fuel attr expr addr (Nat.le_of_not_lt hd)]
      refine Out.bind_res_ne ?_ fun nested => ?_
      · have hop := ht.printOp_res_ne g attr expr addr hfb hcfi
        revert hop
        rcases printOp g lib attr expr addr with ⟨out, f | nb⟩ <;> simp [Except.mapError]
      · cases nested with
        | none => simp
        | some nb =>
          exact printExprBlockWith_res_ne
            (fun e => Foreign.printExpr_res_ne fuel nb.attr e nb.addr (depth + 1)) nb.ops

theorem Foreign.printExprBlock_res_ne (fuel : Nat) (attr : Option Attribute) (exprs : List Op)
    (addr : UInt64) (depth : Nat) :
    (printExprBlock g lib fuel attr exprs addr depth).res ≠ .error (.failed (.error t)) :=
  printExprBlockWith_res_ne (fun e => ht.printExpr_res_ne g hfb hcfi fuel attr e addr depth) exprs

variable (w : Walk) (fuel : Nat)

theorem Foreign.printExprBlockAddrs_res_ne (attr : Attribute) (beginAddr endAddr : UInt64)
    (exprs : List Op) :
    (printExprBlockAddrs g lib fuel attr beginAddr endAddr exprs).res ≠
      .error (.failed (.error t)) :=
  Out.bind_res_ne (by simp) fun _ =>
    Out.bind_res_ne (ht.printExprBlock_res_ne g hfb hcfi _ _ exprs _ 0) fun _ => by simp

theorem Foreign.printLocationList_res_ne (depth : Nat) (attr : Attribute) :
    ∀ entries printed,
      (printLocationList g lib fuel depth attr entries printed).res ≠ .error (.failed (.error t))
  | [], _ => by simp [printLocationList]
  | (_, _, exprs) :: rest, printed =>
    Out.bind_res_ne (by cases printed <;> simp [newlineUnless]) fun _ =>
      Out.bind_res_ne (by simp) fun _ =>
        Out.bind_res_ne (ht.printExprBlockAddrs_res_ne g hfb hcfi fuel attr _ _ exprs) fun _ =>
          Foreign.printLocationList_res_ne depth attr rest true

theorem Foreign.handleAttr_res_ne (depth : Nat) (entrypc : UInt64) (attr : Attribute) :
    (handleAttr g lib w fuel depth entrypc attr).res ≠ .error (.failed (.error t)) := by
  refine Out.bind_res_ne (by simp) fun _ => ?_
  split
  · exact Out.bind_res_ne (by simp) fun _ =>
      Out.bind_res_ne (ht.printExprBlock_res_ne g hfb hcfi _ _ _ _ 0) fun _ =>
        Out.bind_res_ne (by simp) fun _ => by simp
  · split
    · simp
    · exact Out.bind_res_ne (ht.printLocationList_res_ne g hfb hcfi fuel depth attr _ false)
        fun printed => Out.bind_res_ne (by cases printed <;> simp [newlineUnless]) fun _ =>
          by simp

theorem Foreign.handleAttrs_res_ne (depth : Nat) (entrypc : UInt64) : ∀ attrs,
    (handleAttrs g lib w fuel depth entrypc attrs).res ≠ .error (.failed (.error t))
  | [] => by simp [handleAttrs]
  | attr :: rest =>
    Out.bind_res_ne (ht.handleAttr_res_ne g hfb hcfi w fuel depth entrypc attr) fun
      | none => Foreign.handleAttrs_res_ne depth entrypc rest
      | some _ => by simp

end Runs

/-! ## The checks of the walks -/

section Checks

variable {t : String} {α : Type}

theorem failWith_res_ne {msg : String} (h : Failure.error msg ≠ .error t) :
    (failWith msg : Out Stop α).res ≠ .error (.failed (.error t)) := by
  simpa [failWith, Out.fail] using h

theorem check_mapError_res_ne (b : Bool) (expr : String) :
    ((check b expr).mapError Stop.failed).res ≠ .error (.failed (.error t)) := by
  unfold check
  split <;> simp [Out.fail, Except.mapError]

variable {lib : Libdw} (ht : Foreign lib t)
include ht

theorem Foreign.checkCall_res_ne {lead : String} (hlead : StartsLibdw lead)
    (x : Except String α) : (checkCall lead x).res ≠ .error (.failed (.error t)) := by
  cases x with
  | ok _ => simp [checkCall]
  | error msg => exact failWith_res_ne (ht.append_ne msg hlead)

theorem Foreign.checkEnd_res_ne {lead : String} (hlead : StartsLibdw lead)
    (x : Option String) : (checkEnd lead x).res ≠ .error (.failed (.error t)) := by
  cases x with
  | none => simp [checkEnd]
  | some msg => exact failWith_res_ne (ht.append_ne msg hlead)

end Checks

theorem checkCall_res_ok {α : Type} {lead : String} {x : Except String α} {a : α}
    (h : (checkCall lead x).res = .ok a) : x = .ok a := by
  cases x <;> simp_all [checkCall, failWith, Out.fail]

/-! ## The `--exprlocs` walk -/

/-- `handle_die` stops with a foreign text only where `print_expr` does: at a DIE with no frame
base, entered without one, or without call frame information and without `--debug`. -/
theorem Foreign.handleDie_res_ne {t : String} {lib : Libdw} (ht : Foreign lib t) (g : Globals)
    (w : Walk) (fuel : Nat) (hcfi : g.isDebug = true ∨ ¬CfiMissing t) :
    ∀ tree depth outer entrypc, (outer = true ∨ t ≠ "DW_OP_fbreg used without a frame base") →
      (handleDie g lib w fuel tree depth outer entrypc).res ≠ .error (.failed (.error t))
  | .leaf, _, _, _, _ => by simp [handleDie]
  | .node n child sibling, depth, outer, _, hout => by
    have hn : (n.hasFrameBase || outer) = true ∨ t ≠ "DW_OP_fbreg used without a frame base" :=
      hout.imp_left fun h => by simp [h]
    refine Out.bind_res_ne (by unfold printDieHeader; split <;> simp) fun _ =>
      Out.bind_res_ne ?_ fun aborted => Out.bind_res_ne ?_ fun _ => Out.bind_res_ne
        (Foreign.handleDie_res_ne ht g w fuel hcfi child (depth + 1) _ _ hn) fun _ =>
        Foreign.handleDie_res_ne ht g w fuel hcfi sibling depth outer _ hout
    · exact ht.handleAttrs_res_ne { g with hasFrameBase := n.hasFrameBase || outer } hn hcfi w
        fuel _ _ n.attrs
    · cases aborted.orElse fun _ => n.attrsError with
      | none => simp [checkAllAttributes]
      | some msg =>
        exact failWith_res_ne (ht.error_ne_of_head 'C' (by decide)
          (by simp [String.data_append]))

/-! ## The function walk -/

/-- A function DIE whose variables `print_varlocs` prints with `has_frame_base` set: it has a
`DW_AT_frame_base`, or it is an inlined subroutine and one of its scopes is a subprogram that has
one. Scopes libdw cannot give stop the program with a message of their own. -/
def FuncDie.frameBased (f : FuncDie) : Bool :=
  f.hasFrameBase ||
    f.info.tag == dwTagInlinedSubroutine &&
      match f.scopes with
      | .ok scopes => scopes.val.any fun s => s.1 == dwTagSubprogram && s.2
      | .error _ => true

/-- The functions whose variables `handle_function` prints have a frame base: each inlined
instance of an abstract inline function, or the function itself. -/
def FunctionDie.frameBased (fn : FunctionDie) : Bool :=
  if fn.inlined then fn.instances.all (·.frameBased) else fn.die.frameBased

/-- Every function of a unit DIE has a frame base. -/
def UnitDie.frameBased (cudie : UnitDie) : Bool := cudie.funcs.all (·.frameBased)

/-- Every function of the unit DIE `main` walks, the split unit's for a skeleton, has a frame
base. A unit libdw cannot give stops the program with a message of its own. -/
def UnitData.frameBased (u : UnitData) : Bool :=
  match u.cuInfo with
  | .ok (unitType, cudie, subdie) =>
    (if unitType = Elfutils.Libdw.dwUtSkeleton then subdie else cudie).frameBased
  | .error _ => true

/-- A function with a frame base has its variables printed with `has_frame_base` set. -/
theorem frameBase_eq_true (g : Globals) (lib : Libdw) (w : Walk) (fuel : Nat) {f : FuncDie}
    (hf : f.frameBased = true) {b : Bool} (hb : (frameBase g lib w fuel f).res = .ok b) :
    b = true := by
  unfold frameBase at hb
  by_cases hfb : f.hasFrameBase = true
  · simp only [hfb, if_true] at hb
    obtain ⟨_, -, hb⟩ := Out.res_ok_of_bind hb
    obtain ⟨_, -, hb⟩ := Out.res_ok_of_bind hb
    simpa using hb.symm
  · simp only [FuncDie.frameBased, hfb, Bool.false_or, Bool.and_eq_true, beq_iff_eq] at hf
    obtain ⟨htag, hscopes⟩ := hf
    simp only [hfb, htag, if_false, if_true] at hb
    cases hs : f.scopes with
    | error msg => simp [hs, checkCall, failWith, Out.fail] at hb
    | ok scopes =>
      simp only [hs] at hscopes
      simpa [hs, checkCall, searchScopes_eq_any, hscopes, eq_comm] using hb

section Functions

variable {t : String} {lib : Libdw} (ht : Foreign lib t) (w : Walk) (fuel : Nat)
include ht

theorem Foreign.printFrameBase_res_ne (g : Globals) (hcfi : g.isDebug = true ∨ ¬CfiMissing t)
    (f : FuncDie) (fbAttr : Attribute) :
    (printFrameBase { g with hasFrameBase := true } lib w fuel f fbAttr).res ≠
      .error (.failed (.error t)) := by
  have hfb : ({ g with hasFrameBase := true } : Globals).hasFrameBase = true ∨
      t ≠ "DW_OP_fbreg used without a frame base" := .inl rfl
  unfold printFrameBase
  split
  · refine Out.bind_res_ne (ht.checkCall_res_ne (by decide) _) fun entrypc =>
      Out.bind_res_ne (by simp) fun _ => Out.bind_res_ne ?_ fun _ => by simp
    unfold printFrameBaseExpr
    split
    · simp
    · exact ht.printExprBlock_res_ne _ hfb hcfi _ _ _ _ 0
  · exact Out.bind_res_ne (by simp) fun _ =>
      Out.bind_res_ne (Out.forM_res_ne fun _ _ => Out.bind_res_ne (by simp) fun _ =>
        Out.bind_res_ne (ht.printExprBlock_res_ne _ hfb hcfi _ _ _ _ 0) fun _ => by simp)
        fun _ => ht.checkEnd_res_ne (by decide) _

theorem Foreign.frameBase_res_ne (g : Globals) (hcfi : g.isDebug = true ∨ ¬CfiMissing t)
    (f : FuncDie) : (frameBase g lib w fuel f).res ≠ .error (.failed (.error t)) := by
  unfold frameBase
  split
  · exact Out.bind_res_ne (ht.checkCall_res_ne (by decide) _) fun _ =>
      Out.bind_res_ne (ht.printFrameBase_res_ne w fuel g hcfi f _) fun _ => by simp
  · split
    · exact Out.bind_res_ne (ht.checkCall_res_ne (by decide) _) fun _ => by simp
    · simp

variable (g : Globals) (hfb : g.hasFrameBase = true ∨ t ≠ "DW_OP_fbreg used without a frame base")
  (hcfi : g.isDebug = true ∨ ¬CfiMissing t)
include hfb hcfi

theorem Foreign.printRange_res_ne (attr : Attribute) (expr : List Op)
    (beginAddr endAddr : UInt64) :
    (printRange g lib fuel attr expr beginAddr endAddr).res ≠ .error (.failed (.error t)) := by
  unfold printRange
  split
  · simp
  · exact ht.printExprBlockAddrs_res_ne g hfb hcfi fuel _ _ _ _

theorem Foreign.printLocationEntry_res_ne (attr : Attribute) (beginAddr endAddr : UInt64)
    (expr : List Op) : (printLocationEntry g lib fuel attr beginAddr endAddr expr).res ≠
      .error (.failed (.error t)) := by
  unfold printLocationEntry
  split
  · simp
  · exact Out.bind_res_ne (ht.printExprBlockAddrs_res_ne g hfb hcfi fuel _ _ _ _) fun _ =>
      Out.bind_res_ne (check_mapError_res_ne _ _) fun _ => check_mapError_res_ne _ _

theorem Foreign.printLocation_res_ne (f : FuncDie) (attr : Attribute) :
    (printLocation g lib w fuel f attr).res ≠ .error (.failed (.error t)) := by
  unfold printLocation
  split
  · exact Out.bind_res_ne
      (Out.forM_res_ne fun _ _ => ht.printRange_res_ne fuel g hfb hcfi _ _ _ _)
      fun _ => ht.checkEnd_res_ne (by decide) _
  · exact Out.bind_res_ne
      (Out.forM_res_ne fun _ _ => ht.printLocationEntry_res_ne fuel g hfb hcfi _ _ _ _)
      fun _ => ht.checkEnd_res_ne (by decide) _

theorem Foreign.printVar_res_ne (f : FuncDie) (v : VarDie) :
    (printVar g lib w fuel f v).res ≠ .error (.failed (.error t)) := by
  unfold printVar printValue
  split
  · refine Out.bind_res_ne (by simp [printDie]) fun _ => ?_
    split
    · exact Out.bind_res_ne (ht.checkCall_res_ne (by decide) _) fun _ =>
        ht.printLocation_res_ne w fuel g hfb hcfi f _
    · split <;> simp
  · simp

end Functions

/-- The function walk stops with a foreign text only at a function without a frame base, or
without call frame information and without `--debug`. -/
theorem Foreign.handleFunction_res_ne {t : String} {lib : Libdw} (ht : Foreign lib t)
    (g : Globals) (w : Walk) (fuel : Nat) (hcfi : g.isDebug = true ∨ ¬CfiMissing t)
    (fn : FunctionDie) (hfn : fn.frameBased = true ∨ t ≠ "DW_OP_fbreg used without a frame base") :
    (handleFunction g lib w fuel fn).res ≠ .error (.failed (.error t)) := by
  have hvarlocs : ∀ f : FuncDie,
      f.frameBased = true ∨ t ≠ "DW_OP_fbreg used without a frame base" →
      (printVarlocs g lib w fuel f).res ≠ .error (.failed (.error t)) := fun f hf =>
    Out.bind_res_ne_of_ok (ht.frameBase_res_ne w fuel g hcfi f) fun b hb =>
      Out.bind_res_ne (ht.checkCall_res_ne (by decide) _) fun _ => Out.forM_res_ne fun v _ =>
        ht.printVar_res_ne w fuel { g with hasFrameBase := b }
          (hf.imp_left fun h => frameBase_eq_true g lib w fuel h hb) hcfi f v
  unfold handleFunction
  split
  · rename_i hinl
    simp only [FunctionDie.frameBased, hinl, if_true, List.all_eq_true] at hfn
    exact Out.bind_res_ne (Out.forM_res_ne fun f hf =>
      Out.bind_res_ne (by simp [printDie]) fun _ => hvarlocs f (hfn.imp_left fun h => h f hf))
      fun _ => ht.checkEnd_res_ne (by decide) _
  · rename_i hinl
    simp only [FunctionDie.frameBased, hinl] at hfn
    split
    · exact Out.bind_res_ne (by simp [printDie]) fun _ => hvarlocs _ hfn
    · simp

/-! ## The units `main` walks -/

section Units

variable {t : String} {lib : Libdw} (ht : Foreign lib t) (w : Walk) (fuel : Nat)
include ht

/-- A unit is walked without a stop of a foreign text: with `--exprlocs`, or when all of its
functions have a frame base, or when the text is not that of the frame-base stop; and with
`--debug`, or when the text is not that of a stop for missing call frame information. -/
theorem Foreign.walkUnit_res_ne (g : Globals) (hcfi : g.isDebug = true ∨ ¬CfiMissing t)
    (exprlocs : Bool) (cudie : UnitDie) (hw : exprlocs = true ∨ cudie.frameBased = true ∨
      t ≠ "DW_OP_fbreg used without a frame base") :
    (walkUnit g lib w fuel exprlocs cudie).res ≠ .error (.failed (.error t)) := by
  unfold walkUnit
  split
  · exact ht.handleDie_res_ne g w fuel hcfi _ 0 true _ (.inl rfl)
  · rename_i hexprlocs
    have hcu := hw.resolve_left hexprlocs
    simp only [UnitDie.frameBased, List.all_eq_true] at hcu
    exact Out.bind_res_ne (Out.forM_res_ne fun fn hfn =>
      ht.handleFunction_res_ne g w fuel hcfi fn (hcu.imp_left fun h => h fn hfn)) fun _ =>
        ht.checkEnd_res_ne (by decide) _

theorem Foreign.handleUnit_res_ne (g : Globals) (hcfi : g.isDebug = true ∨ ¬CfiMissing t)
    (exprlocs : Bool) (m : Module) (cudie : UnitDie) (hw : exprlocs = true ∨
      cudie.frameBased = true ∨ t ≠ "DW_OP_fbreg used without a frame base") :
    (handleUnit g lib w fuel exprlocs m cudie).res ≠ .error (.failed (.error t)) :=
  Out.bind_res_ne (check_mapError_res_ne _ _) fun _ =>
    Out.bind_res_ne (ht.checkCall_res_ne (by decide) _) fun _ => Out.bind_res_ne (by simp) fun _ =>
      Out.bind_res_ne (by simp [printDie]) fun _ =>
        Out.bind_res_ne (check_mapError_res_ne _ _) fun _ =>
          ht.walkUnit_res_ne w fuel (m.globals g) hcfi exprlocs cudie hw

/-- The loop of `main` stops with a foreign text other than "No DWARF CU found?" only where a walk
of a unit does. -/
theorem Foreign.nextcu_res_ne (hcu : t ≠ "No DWARF CU found?") (g : Globals)
    (hcfi : g.isDebug = true ∨ ¬CfiMissing t) (exprlocs : Bool) :
    ∀ units foundCu, (exprlocs = true ∨ (∀ u ∈ units, u.frameBased = true) ∨
      t ≠ "DW_OP_fbreg used without a frame base") →
      (nextcu g lib w fuel exprlocs units foundCu).res ≠ .error (.failed (.error t))
  | [], foundCu, _ => by
    cases foundCu
    · exact failWith_res_ne fun h => hcu (by injection h with h; exact h.symm)
    · simp [nextcu]
  | u :: us, foundCu, hw => by
    refine Out.bind_res_ne_of_ok (ht.checkCall_res_ne (by decide) _)
      fun ⟨unitType, cudie, subdie⟩ hok => ?_
    have hu := checkCall_res_ok hok
    have hus : exprlocs = true ∨ (∀ u ∈ us, u.frameBased = true) ∨
        t ≠ "DW_OP_fbreg used without a frame base" :=
      hw.imp_right (Or.imp_left fun h u hu => h u (List.mem_cons_of_mem _ hu))
    -- the unit DIE walked, the split unit's for a skeleton
    have hwalked := hw.imp_right (Or.imp_left fun h => by
      simpa [UnitData.frameBased, hu] using h u (List.mem_cons_self _ _))
    dsimp only
    generalize (if unitType = Elfutils.Libdw.dwUtSkeleton then subdie else cudie) = d at hwalked ⊢
    split
    · exact Out.bind_res_ne (ht.handleUnit_res_ne w fuel g hcfi _ _ _ hwalked) fun _ =>
        Foreign.nextcu_res_ne hcu g hcfi exprlocs us true hus
    · exact Foreign.nextcu_res_ne hcu g hcfi exprlocs us foundCu hus

end Units

end Elfutils.Varlocs
