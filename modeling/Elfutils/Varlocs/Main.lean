import Elfutils.Libdw.Unit
import Elfutils.Varlocs.Functions

/-!
# `main` of `varlocs`

`main` takes `--exprlocs` and `--debug` from its first two arguments, then walks every unit that
libdwfl gives it whose DIE, the split unit's for a skeleton, is a compile unit, and, unless with
`--exprlocs`, has a low pc. For each it prints the module and the unit, sets the globals of the
module's call frame information, and walks the unit: all of its DIEs with `--exprlocs`, else its
functions. It stops the program if it walked none.

The walks are bounded by the fuel of every level of `print_expr` from depth `0`, so the whole
program is: with that fuel a run of `main` never runs out, and more fuel changes nothing
(`main_terminates`).
-/

set_option autoImplicit false

namespace Elfutils.Varlocs

/-- The options `main` takes from its first two arguments, as `(exprlocs, is_debug)`:
`--exprlocs` first or second, `--debug` first. -/
def mainOptions (args : List String) : Bool × Bool :=
  let exprlocsFirst := args[0]? == some "--exprlocs"
  (exprlocsFirst || args[1]? == some "--exprlocs", !exprlocsFirst && args[0]? == some "--debug")

/-- `--debug` is taken only as the first argument. -/
theorem mainOptions_debug_iff (args : List String) :
    (mainOptions args).2 = true ↔ args.head? = some "--debug" := by
  rcases args with _ | ⟨a, _⟩
  · simp [mainOptions]
  · by_cases h : a = "--debug" <;> simp [mainOptions, h]

/-- A unit DIE as `main` reads it. -/
structure UnitDie where
  /-- The DIE, with the attributes the `--exprlocs` walk prints. -/
  node : DieNode
  /-- The DIEs below it. -/
  children : DieTree
  /-- `dwarf_lowpc (&cudie, &cubase) == 0`. -/
  hasLowpc : Bool
  /-- The function DIEs `dwarf_getfuncs` hands to `handle_function`, in order. -/
  funcs : List FunctionDie
  /-- libdw's message if `dwarf_getfuncs` then fails. -/
  funcsError : Option String

/-- What libdwfl gives `main` about the module of a unit. -/
structure Module where
  /-- `dwbias == modbias`: `dwfl_nextcu` and `dwfl_module_getdwarf` give the same bias. -/
  biasMatches : Bool
  /-- `dwfl_module_info`: the module's name and its main file, or libdw's message for `NULL`. -/
  info : Except String (String × String)
  /-- `dwfl_module_dwarf_cfi`, `NULL` as `none`, and its bias. -/
  cfiDebug : Option Nat
  cfiDebugBias : UInt64
  /-- `dwfl_module_eh_cfi`, `NULL` as `none`, and its bias. -/
  cfiEh : Option Nat
  cfiEhBias : UInt64
  /-- `ehdr->e_type == ET_REL`. -/
  isEtRel : Bool

/-- A unit `dwfl_nextcu` gives. -/
structure UnitData where
  /-- `dwarf_cu_info`: the unit type, the unit DIE and the split unit's DIE; or libdw's message. -/
  cuInfo : Except String (UInt8 × UnitDie × UnitDie)
  module : Module

/-- `xbasename (s)`: what follows the last `/` of `s`. -/
def xbasename (s : String) : String := ((s.splitOn "/").getLast?).getD s

/-- The globals `main` sets from the module of a unit. -/
def Module.globals (m : Module) (g : Globals) : Globals :=
  { g with cfiDebug := m.cfiDebug, cfiDebugBias := m.cfiDebugBias, cfiEh := m.cfiEh,
           cfiEhBias := m.cfiEhBias, isEtRel := m.isEtRel }

/-- The walk of a unit DIE: with `--exprlocs`, `handle_die (&cudie, 0, true, entrypc)` from the
unit's entry pc or `0`; else `dwarf_getfuncs (&cudie, handle_function, NULL, 0)`. -/
def walkUnit (g : Globals) (lib : Libdw) (w : Walk) (fuel : Nat) (exprlocs : Bool)
    (cudie : UnitDie) : Out Stop Unit :=
  if exprlocs then
    -- XXX - Passing true for has_frame_base is not really true.
    handleDie g lib w fuel (.node cudie.node cudie.children .leaf) 0 true
      (cudie.node.info.entrypc.toOption.getD 0)
  else do
    cudie.funcs.forM (handleFunction g lib w fuel)
    checkEnd "dwarf_getfuncs " cudie.funcsError

/-- The body of the loop of `main` for a unit it walks: the module and the unit, the globals of
the module, and the walk. -/
def handleUnit (g : Globals) (lib : Libdw) (w : Walk) (fuel : Nat) (exprlocs : Bool)
    (m : Module) (cudie : UnitDie) : Out Stop Unit := do
  (check m.biasMatches "dwbias == modbias").mapError .failed
  let (modname, mainfile) ← checkCall "dwfl_module_info: " m.info
  Out.print ("module '" ++ (if modname.isEmpty then xbasename mainfile else modname) ++ "'\n")
  printDie cudie.node.info "CU" 0
  -- No bias needed, same file.
  (check (m.cfiDebug.isNone || m.cfiDebugBias == 0) "cfi_debug == NULL || cfi_debug_bias == 0"
    ).mapError .failed
  walkUnit (m.globals g) lib w fuel exprlocs cudie

/-- The loop of `main` over the units `dwfl_nextcu` gives, `foundCu` being `found_cu` before
them, then the check that one was walked. -/
def nextcu (g : Globals) (lib : Libdw) (w : Walk) (fuel : Nat) (exprlocs : Bool) :
    List UnitData → Bool → Out Stop Unit
  | [], foundCu => if foundCu then pure () else failWith "No DWARF CU found?"
  | u :: us, foundCu => do
    let (unitType, cudie, subdie) ← checkCall "dwarf_cu_info: " u.cuInfo
    let cudie := if unitType = Elfutils.Libdw.dwUtSkeleton then subdie else cudie
    if cudie.node.info.tag = dwTagCompileUnit ∧ (exprlocs ∨ cudie.hasLowpc) then do
      handleUnit g lib w fuel exprlocs u.module cudie
      nextcu g lib w fuel exprlocs us true
    else nextcu g lib w fuel exprlocs us foundCu

/-- `main (argc, argv)` on the arguments after the program name, over the units libdwfl gives,
from the globals as the program starts. -/
def main (lib : Libdw) (w : Walk) (fuel : Nat) (args : List String) (units : List UnitData) :
    Out Stop Unit :=
  let (exprlocs, isDebug) := mainOptions args
  nextcu ⟨none, 0, none, 0, false, isDebug, false⟩ lib w fuel exprlocs units false

/-! ## The program terminates -/

section Bounded

variable (lib : Libdw) (w : Walk)

theorem walkUnit_bounded (g : Globals) (exprlocs : Bool) (cudie : UnitDie) :
    FuelBounded fun fuel => walkUnit g lib w fuel exprlocs cudie :=
  .ite (fun _ => handleDie_bounded g lib w _ 0 true _) fun _ =>
    .bind (.forM (handleFunction_bounded g lib w) _) fun _ => checkEnd_bounded _ _

theorem handleUnit_bounded (g : Globals) (exprlocs : Bool) (m : Module) (cudie : UnitDie) :
    FuelBounded fun fuel => handleUnit g lib w fuel exprlocs m cudie :=
  .bind (.const (by unfold check; split <;> simp [Out.fail, Except.mapError])) fun _ =>
    .bind (checkCall_bounded _ _) fun _ => .bind (.print _) fun _ => .bind (.print _) fun _ =>
      .bind (.const (by unfold check; split <;> simp [Out.fail, Except.mapError])) fun _ =>
        walkUnit_bounded lib w _ exprlocs cudie

theorem nextcu_bounded (g : Globals) (exprlocs : Bool) : ∀ units foundCu,
    FuelBounded fun fuel => nextcu g lib w fuel exprlocs units foundCu
  | [], _ => .ite (fun _ => .const (by simp)) fun _ => .const (by simp [failWith, Out.fail])
  | _ :: us, foundCu => .bind (checkCall_bounded _ _) fun _ =>
    .ite (fun _ => .bind (handleUnit_bounded lib w g exprlocs _ _) fun _ =>
        nextcu_bounded g exprlocs us true)
      fun _ => nextcu_bounded g exprlocs us foundCu

end Bounded

/-- `varlocs` terminates on every input, whatever its DWARF expressions refer to: with fuel for
all the levels of `print_expr` from depth `0`, a run of `main` never runs out, and more fuel
changes nothing. -/
theorem main_terminates (lib : Libdw) (w : Walk) (args : List String) (units : List UnitData) :
    (main lib w (levelsLeft 0 + 1) args units).res ≠ .error .exhausted ∧
      ∀ fuel, levelsLeft 0 + 1 ≤ fuel →
        main lib w fuel args units = main lib w (levelsLeft 0 + 1) args units :=
  nextcu_bounded lib w _ _ units false

end Elfutils.Varlocs
