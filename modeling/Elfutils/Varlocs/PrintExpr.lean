import Elfutils.Varlocs.PrintOp

/-!
# `print_expr` and `print_expr_block`

`print_expr_block` prints `{`, each operation with `print_expr` and a comma between them, and
`}`. `print_expr` first checks its depth: entered with a depth above `MAX_DEPTH` it stops the
program, and otherwise it prints the operation (`printOp`) and then the nested block the
operation names, if any, one level deeper.

The two recurse through the DWARF data, which may refer back to itself, so the model runs them on
a fuel: `printExpr fuel` lets `fuel` activations of `print_expr` be nested, and a run that would
nest one more stops with `Stop.exhausted`, a stop of the model alone.
-/

set_option autoImplicit false

namespace Elfutils.Varlocs

/-- Why a run of `print_expr` stopped: an operation failed (`error` or `assert`), the depth guard
fired ("print_expr recursion depth exceeded"), or the model's fuel ran out. -/
inductive Stop where
  | failed (f : Failure)
  | depthExceeded
  | exhausted
  deriving DecidableEq, Repr

/-- `MAX_DEPTH`. -/
def maxDepth : Nat := 64

/-- The loop of `print_expr_block`, `p` printing one operation: after each operation `", "`, or
`""` after the last. -/
def printOps (p : Op → Out Stop Unit) : List Op → Out Stop Unit
  | [] => pure ()
  | expr :: rest => do
    p expr
    Out.print (if rest.isEmpty then "" else ", ")
    printOps p rest

/-- `print_expr_block` on the operations `exprs`, `p` printing one operation. -/
def printExprBlockWith (p : Op → Out Stop Unit) (exprs : List Op) : Out Stop Unit := do
  Out.print "\x7b"
  printOps p exprs
  Out.print "\x7d"

/-- The body of `print_expr` past its depth guard: the operation, then the block it names, each
operation `e` of a nested block `nb` printed by `p nb e`. -/
def printExprBody (g : Globals) (lib : Libdw) (attr : Option Attribute) (expr : Op)
    (addr : UInt64) (p : Nested → Op → Out Stop Unit) : Out Stop Unit := do
  let nested ← (printOp g lib attr expr addr).mapError Stop.failed
  match nested with
  | none => pure ()
  | some nb => printExprBlockWith (p nb) nb.ops

/-- `print_expr (attr, expr, addr, depth)`, with `fuel` nested activations left. -/
def printExpr (g : Globals) (lib : Libdw) :
    Nat → Option Attribute → Op → UInt64 → Nat → Out Stop Unit
  | 0, _, _, _, _ => Out.fail .exhausted
  | fuel + 1, attr, expr, addr, depth =>
    if maxDepth < depth then Out.fail .depthExceeded
    else printExprBody g lib attr expr addr fun nb e =>
      printExpr g lib fuel nb.attr e nb.addr (depth + 1)

/-- `print_expr_block (attr, exprs, len, addr, depth)`, with `fuel` nested activations of
`print_expr` left. -/
def printExprBlock (g : Globals) (lib : Libdw) (fuel : Nat) (attr : Option Attribute)
    (exprs : List Op) (addr : UInt64) (depth : Nat) : Out Stop Unit :=
  printExprBlockWith (fun e => printExpr g lib fuel attr e addr depth) exprs

section Unfolding

variable (g : Globals) (lib : Libdw) (fuel : Nat) (attr : Option Attribute) (expr : Op)
  (addr : UInt64) {depth : Nat}

@[simp] theorem printExpr_zero (depth : Nat) :
    printExpr g lib 0 attr expr addr depth = Out.fail .exhausted := rfl

/-- Past `MAX_DEPTH`, `print_expr` stops at once and prints nothing. -/
theorem printExpr_of_gt (h : maxDepth < depth) :
    printExpr g lib (fuel + 1) attr expr addr depth = Out.fail .depthExceeded := if_pos h

/-- Up to `MAX_DEPTH`, `print_expr` runs its body, the nested block one level deeper. -/
theorem printExpr_of_le (h : depth ≤ maxDepth) :
    printExpr g lib (fuel + 1) attr expr addr depth =
      printExprBody g lib attr expr addr fun nb e =>
        printExpr g lib fuel nb.attr e nb.addr (depth + 1) :=
  if_neg (Nat.not_lt.mpr h)

end Unfolding

end Elfutils.Varlocs
