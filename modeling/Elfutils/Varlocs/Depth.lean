import Elfutils.Varlocs.PrintExpr

/-!
# The depth guard of `print_expr`

Every nested block is printed one level deeper, and `print_expr` stops the program when entered
deeper than `MAX_DEPTH`. So from depth `depth` a run nests at most `levelsLeft depth + 1`
activations, whatever the DWARF data, cycles included: with that much fuel the run never runs
out, and more fuel changes nothing.

The cap is exact. The run that may only enter the levels up to `MAX_DEPTH` (fuel
`levelsLeft depth`) never trips the guard, and the full run is that run with the guard's stop
where it ran out of fuel (`Stop.tripGuard`): the first operation reached at level `MAX_DEPTH + 1`
trips it, with nothing printed differently before (`printExprBlock_depth_capped`).

A cycle shows it: an operation whose nested block is the operation itself prints its own text
once per level up to `MAX_DEPTH`, and then stops with the guard
(`printExprBlock_self_nested`).
-/

set_option autoImplicit false

namespace Elfutils.Varlocs

/-- The levels `print_expr` can still enter from `depth` without tripping its guard: `depth` to
`MAX_DEPTH`. -/
def levelsLeft (depth : Nat) : Nat := maxDepth + 1 - depth

/-- The stop of the full run where the run bounded to the levels up to `MAX_DEPTH` ran out of
fuel: the depth guard's. -/
def Stop.tripGuard : Stop → Stop
  | .exhausted => .depthExceeded
  | s => s

@[simp] theorem Stop.tripGuard_failed (f : Failure) : (Stop.failed f).tripGuard = .failed f := rfl

theorem Stop.tripGuard_tripGuard (s : Stop) : s.tripGuard.tripGuard = s.tripGuard := by
  cases s <;> rfl

theorem Stop.tripGuard_ne_exhausted (s : Stop) : s.tripGuard ≠ .exhausted := by
  cases s <;> simp [Stop.tripGuard]

/-! ## The printing of a block, over the printing of one operation -/

section Block

variable {p q : Op → Out Stop Unit} {s : Stop}

theorem printOps_mapError (h : Stop → Stop) (p : Op → Out Stop Unit) :
    ∀ exprs, (printOps p exprs).mapError h = printOps (fun e => (p e).mapError h) exprs
  | [] => rfl
  | e :: rest => by
    simp only [printOps, Out.mapError_bind, Out.mapError_print, printOps_mapError h p rest]

theorem printExprBlockWith_mapError (h : Stop → Stop) (p : Op → Out Stop Unit)
    (exprs : List Op) :
    (printExprBlockWith p exprs).mapError h =
      printExprBlockWith (fun e => (p e).mapError h) exprs := by
  simp only [printExprBlockWith, Out.mapError_bind, Out.mapError_print, printOps_mapError]

theorem printOps_res_ne (hp : ∀ e, (p e).res ≠ .error s) :
    ∀ exprs, (printOps p exprs).res ≠ .error s
  | [] => by simp [printOps]
  | e :: rest => Out.bind_res_ne (hp e) fun _ => Out.bind_res_ne (by simp [Out.print])
      fun _ => printOps_res_ne hp rest

theorem printExprBlockWith_res_ne (hp : ∀ e, (p e).res ≠ .error s) (exprs : List Op) :
    (printExprBlockWith p exprs).res ≠ .error s :=
  Out.bind_res_ne (by simp [Out.print]) fun _ =>
    Out.bind_res_ne (printOps_res_ne hp exprs) fun _ => by simp [Out.print]

end Block

/-! ## One activation, over the activations it nests -/

section Body

variable (g : Globals) (lib : Libdw) (attr : Option Attribute) (expr : Op) (addr : UInt64)

/-- Renaming stops passes into the nested block, the operation's own failures kept. -/
theorem printExprBody_mapError (h : Stop → Stop) (hh : ∀ f, h (.failed f) = .failed f)
    (p : Nested → Op → Out Stop Unit) :
    (printExprBody g lib attr expr addr p).mapError h =
      printExprBody g lib attr expr addr fun nb e => (p nb e).mapError h := by
  have hkeep : h ∘ Stop.failed = Stop.failed := funext hh
  simp only [printExprBody, Out.mapError_bind, Out.mapError_mapError, hkeep]
  congr 1
  funext nested
  cases nested <;> simp [printExprBlockWith_mapError, Except.mapError]

/-- One activation stops for a reason other than an operation's failure only if a nested one
does. -/
theorem printExprBody_res_ne {s : Stop} (hs : ∀ f, s ≠ .failed f)
    {p : Nested → Op → Out Stop Unit} (hp : ∀ nb e, (p nb e).res ≠ .error s) :
    (printExprBody g lib attr expr addr p).res ≠ .error s := by
  refine Out.bind_res_ne ?_ fun nested => ?_
  · rcases printOp g lib attr expr addr with ⟨out, f | nb⟩
    · simpa [Except.mapError] using (hs f).symm
    · simp [Except.mapError]
  · cases nested
    · simp
    · exact printExprBlockWith_res_ne (hp _) _

end Body

/-! ## Runs of `print_expr` -/

section Runs

variable (g : Globals) (lib : Libdw)

/-- Once the fuel covers the levels up to `MAX_DEPTH`, one more level of fuel only turns the stop
for lack of fuel into the depth guard's. -/
theorem printExpr_succ_eq_tripGuard :
    ∀ fuel depth (attr : Option Attribute) (expr : Op) (addr : UInt64),
      levelsLeft depth ≤ fuel →
      printExpr g lib (fuel + 1) attr expr addr depth =
        (printExpr g lib fuel attr expr addr depth).mapError Stop.tripGuard
  | 0, depth, attr, expr, addr, h => by
    rw [printExpr_of_gt g lib 0 attr expr addr (by unfold levelsLeft at h; omega)]
    rfl
  | fuel + 1, depth, attr, expr, addr, h => by
    by_cases hd : maxDepth < depth
    · rw [printExpr_of_gt g lib _ attr expr addr hd, printExpr_of_gt g lib _ attr expr addr hd]
      rfl
    · rw [printExpr_of_le g lib _ attr expr addr (by omega),
        printExpr_of_le g lib _ attr expr addr (by omega),
        printExprBody_mapError g lib attr expr addr _ Stop.tripGuard_failed]
      simp only [printExpr_succ_eq_tripGuard fuel (depth + 1) _ _ _
        (by unfold levelsLeft at h ⊢; omega)]

/-- Past the levels up to `MAX_DEPTH`, more fuel changes nothing. -/
theorem printExpr_succ_eq (fuel depth : Nat) (attr : Option Attribute) (expr : Op)
    (addr : UInt64) (h : levelsLeft depth ≤ fuel) :
    printExpr g lib (fuel + 2) attr expr addr depth =
      printExpr g lib (fuel + 1) attr expr addr depth := by
  rw [printExpr_succ_eq_tripGuard g lib (fuel + 1) depth attr expr addr (by omega),
    printExpr_succ_eq_tripGuard g lib fuel depth attr expr addr h, Out.mapError_mapError]
  congr 1
  funext s
  exact Stop.tripGuard_tripGuard s

/-- A run that may only enter the levels up to `MAX_DEPTH` never trips the guard. -/
theorem printExpr_res_ne_depthExceeded :
    ∀ fuel depth (attr : Option Attribute) (expr : Op) (addr : UInt64),
      fuel ≤ levelsLeft depth →
      (printExpr g lib fuel attr expr addr depth).res ≠ .error .depthExceeded
  | 0, _, _, _, _, _ => by simp [Out.fail]
  | fuel + 1, depth, attr, expr, addr, h => by
    unfold levelsLeft at h
    rw [printExpr_of_le g lib _ attr expr addr (by omega)]
    exact printExprBody_res_ne g lib attr expr addr (fun f => Stop.noConfusion) fun nb e =>
      printExpr_res_ne_depthExceeded fuel (depth + 1) _ _ _ (by unfold levelsLeft; omega)

end Runs

/-! ## Blocks -/

section Blocks

variable (g : Globals) (lib : Libdw) (attr : Option Attribute) (exprs : List Op) (addr : UInt64)
  (depth : Nat)

theorem printExprBlock_fuel_eq (extra : Nat) :
    printExprBlock g lib (levelsLeft depth + 1 + extra) attr exprs addr depth =
      printExprBlock g lib (levelsLeft depth + 1) attr exprs addr depth := by
  induction extra with
  | zero => rw [Nat.add_zero]
  | succ extra ih =>
    rw [← ih, show levelsLeft depth + 1 + (extra + 1) = levelsLeft depth + extra + 2 by omega,
      show levelsLeft depth + 1 + extra = levelsLeft depth + extra + 1 by omega]
    simp only [printExprBlock, printExpr_succ_eq g lib _ depth _ _ addr (Nat.le_add_right _ _)]

/-- With fuel past the levels up to `MAX_DEPTH`, the block is printed as with just enough. -/
theorem printExprBlock_fuel_stable {fuel : Nat} (hfuel : levelsLeft depth + 1 ≤ fuel) :
    printExprBlock g lib fuel attr exprs addr depth =
      printExprBlock g lib (levelsLeft depth + 1) attr exprs addr depth := by
  obtain ⟨extra, rfl⟩ := Nat.exists_eq_add_of_le hfuel
  exact printExprBlock_fuel_eq g lib attr exprs addr depth extra

/-- The full run is the run bounded to the levels up to `MAX_DEPTH`, with the guard's stop where
that one ran out of fuel. -/
theorem printExprBlock_eq_tripGuard :
    printExprBlock g lib (levelsLeft depth + 1) attr exprs addr depth =
      (printExprBlock g lib (levelsLeft depth) attr exprs addr depth).mapError Stop.tripGuard := by
  unfold printExprBlock
  rw [printExprBlockWith_mapError]
  congr 1
  funext e
  exact printExpr_succ_eq_tripGuard g lib _ depth attr e addr le_rfl

theorem printExprBlock_res_ne_exhausted :
    (printExprBlock g lib (levelsLeft depth + 1) attr exprs addr depth).res ≠ .error .exhausted := by
  rw [printExprBlock_eq_tripGuard]
  rcases printExprBlock g lib (levelsLeft depth) attr exprs addr depth with ⟨out, s | u⟩
  · simpa [Except.mapError] using Stop.tripGuard_ne_exhausted s
  · simp [Except.mapError]

/-! ## A cycle -/

theorem printExprBlockWith_singleton_error (p : Op → Out Stop Unit) {expr : Op}
    {out : List String} {s : Stop} (h : p expr = ⟨out, .error s⟩) :
    printExprBlockWith p [expr] = ⟨"\x7b" :: out, .error s⟩ := by
  simp [printExprBlockWith, printOps, h]

/-- A cycle: an operation whose nested block is the operation itself, with the same attribute
and address, as a `DW_OP_call2` of the DIE whose location it is. From `depth`, the run prints
`{` and the operation's text once per level up to `MAX_DEPTH`, then `{`, and stops with the depth
guard. -/
theorem printExprBlock_self_nested (expr : Op) (text : List String)
    (hself : printOp g lib attr expr addr = ⟨text, .ok (some ⟨attr, [expr], addr⟩)⟩) :
    printExprBlock g lib (levelsLeft depth + 1) attr [expr] addr depth =
      ⟨(List.replicate (levelsLeft depth) ("\x7b" :: text)).flatten ++ ["\x7b"],
        .error .depthExceeded⟩ := by
  obtain ⟨k, hk⟩ : ∃ k, levelsLeft depth = k := ⟨_, rfl⟩
  rw [hk]
  induction k generalizing depth with
  | zero =>
    have hd : maxDepth < depth := by unfold levelsLeft at hk; omega
    exact printExprBlockWith_singleton_error _ (printExpr_of_gt g lib 0 attr expr addr hd)
  | succ k ih =>
    have hd : depth ≤ maxDepth := by unfold levelsLeft at hk; omega
    have hnext := ih (depth + 1) (by unfold levelsLeft at hk ⊢; omega)
    have hbody : printExpr g lib (k + 2) attr expr addr depth =
        ⟨text ++ (List.replicate k ("\x7b" :: text)).flatten ++ ["\x7b"], .error .depthExceeded⟩ := by
      rw [printExpr_of_le g lib _ attr expr addr hd]
      simp only [printExprBody, hself, Out.mapError_mk, Except.mapError]
      simp only [printExprBlock] at hnext
      simp [hnext]
    rw [printExprBlock, printExprBlockWith_singleton_error
      (fun e => printExpr g lib (k + 2) attr e addr depth) hbody]
    simp [List.replicate_succ]

theorem selfCall_prints_every_level :
    printOp noCfi selfCall (some selfCallAttr) selfCallOp 0 =
        ⟨["call2([2a]) "], .ok (some ⟨some selfCallAttr, [selfCallOp], 0⟩)⟩ ∧
      printExprBlock noCfi selfCall 66 (some selfCallAttr) [selfCallOp] 0 0 =
        ⟨(List.replicate 65 ["\x7b", "call2([2a]) "]).flatten ++ ["\x7b"], .error .depthExceeded⟩ :=
  ⟨rfl, printExprBlock_self_nested noCfi selfCall (some selfCallAttr) 0 0 selfCallOp _ rfl⟩

/-- Termination and exactness of the depth cap, for `print_expr_block` entered at any depth.
Past `MAX_DEPTH` an operation stops at once, printing nothing. From `depth`, at most
`levelsLeft depth + 1` activations of `print_expr` nest (`66` from the top level): with that
much fuel the run never runs out, and more fuel changes nothing. The run bounded to the levels up
to `MAX_DEPTH` never trips the guard, and the full run is that run with the guard's stop where
it ran out of fuel. -/
theorem printExprBlock_depth_capped :
    (maxDepth < depth → ∀ fuel expr,
      printExpr g lib (fuel + 1) attr expr addr depth = Out.fail .depthExceeded) ∧
    levelsLeft depth + 1 ≤ maxDepth + 2 ∧
    (∀ fuel, levelsLeft depth + 1 ≤ fuel →
      printExprBlock g lib fuel attr exprs addr depth =
        printExprBlock g lib (levelsLeft depth + 1) attr exprs addr depth) ∧
    (printExprBlock g lib (levelsLeft depth + 1) attr exprs addr depth).res ≠ .error .exhausted ∧
    (printExprBlock g lib (levelsLeft depth) attr exprs addr depth).res ≠
      .error .depthExceeded ∧
    printExprBlock g lib (levelsLeft depth + 1) attr exprs addr depth =
      (printExprBlock g lib (levelsLeft depth) attr exprs addr depth).mapError Stop.tripGuard :=
  ⟨fun h fuel expr => printExpr_of_gt g lib fuel attr expr addr h, by unfold levelsLeft; omega,
    fun _ => printExprBlock_fuel_stable g lib attr exprs addr depth,
    printExprBlock_res_ne_exhausted g lib attr exprs addr depth,
    printExprBlockWith_res_ne (fun e => printExpr_res_ne_depthExceeded g lib _ depth attr e addr
      le_rfl) exprs,
    printExprBlock_eq_tripGuard g lib attr exprs addr depth⟩

theorem selfCall_depth_capped :
    maxDepth < 65 ∧
      printExpr noCfi selfCall 1 (some selfCallAttr) selfCallOp 0 65 = Out.fail .depthExceeded :=
  ⟨by decide, (printExprBlock_depth_capped noCfi selfCall (some selfCallAttr) [selfCallOp] 0 65).1
    (by decide) 0 selfCallOp⟩

end Blocks

end Elfutils.Varlocs
