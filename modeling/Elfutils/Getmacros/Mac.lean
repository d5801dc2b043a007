import Elfutils.Printf
import Elfutils.Libdw.Unit

/-!
# `dwarf-getmacros`

The test `tests/dwarf-getmacros.c` prints the macro information of a file. libdw hands the
callback `mac` one macro per call of `dwarf_getmacros` or `dwarf_getmacros_off`: `mac` returns
`DWARF_CB_ABORT`, so each call stops after one macro and returns the token of the next, and the
loops of `include` and `getmacros` call again until libdw returns `0` or `-1`. A `MacroUnit` is
what those calls hand over, in order.

`mac` keeps the indentation in its static `level`, one deeper inside a file and inside an
import. On `DW_MACRO_import` it prints the imported unit through `include`, which calls `mac` on
each of its macros: the two recurse through the macro units, and nothing bounds the depth. The
model runs them on a fuel: `mac fuel` lets `fuel` activations of `mac` be nested, and a run that
would nest one more stops with `Stop.exhausted`, a stop of the model alone.

Where the source reads a variable that the libdw call before it may have left unset (`files`
after a failed `dwarf_macro_getsrcfiles`, `value` when the second operand is not a string,
`paramcnt` after a failed `dwarf_macro_getparamcnt`), the model stops with `Stop.indeterminate`.
-/

set_option autoImplicit false

namespace Elfutils.Getmacros

/-- A `Dwarf_Die`, by its handle. -/
structure Die where
  handle : Nat
  deriving DecidableEq, Repr

/-- A macro as `mac` reads it from libdw (a `Dwarf_Macro`). -/
structure MacroEntry where
  /-- `dwarf_macro_opcode`. -/
  opcode : Nat
  /-- `dwarf_macro_param (macro, 0, &at)` read by `dwarf_formudata`: the offset, or `none` when
  either call fails. -/
  param0 : Option UInt64
  /-- `dwarf_macro_param2`: the second operand, a number or a string, or `none` when the call
  fails. -/
  param2 : Option (UInt64 ⊕ String)
  /-- `dwarf_macro_getsrcfiles`: the file names of the line table, or libdw's message. -/
  srcfiles : Except String (List String)
  /-- `dwarf_macro_getparamcnt`, `none` when the call fails. -/
  paramcnt : Option Nat

/-- The macros successive calls of `dwarf_getmacros` or `dwarf_getmacros_off` hand to the
callback, and how the calls end: `0` (`none`), or `-1` with the message `dwarf_errmsg` gives. -/
structure MacroUnit where
  entries : List MacroEntry
  error : Option String

/-- The libdw calls of `dwarf-getmacros`. -/
structure Libdw where
  /-- `dwarf_getmacros_off` from `DWARF_GETMACROS_START`, by the offset of the macro unit. -/
  getmacrosOff : UInt64 → MacroUnit
  /-- `dwarf_getmacros` of a unit DIE: from `DWARF_GETMACROS_START` for the new style, from `0`
  for the old. -/
  getmacros : Die → Bool → MacroUnit
  hasattr : Die → Nat → Bool
  diename : Die → Option String

/-- Why a run stopped: a failed `assert`, a read of a variable left unset, or the model's fuel
ran out. -/
inductive Stop where
  | assertion (expr : String)
  | indeterminate (name : String)
  | exhausted
  deriving DecidableEq, Repr

/-- The groups of `case` labels of the `switch` of `mac` that share a body. -/
inductive MacroCase where
  | importUnit | startFile | endFile | define | undef
  deriving DecidableEq, Repr

/-- The `case` labels of each group, by their `dwarf.h` values. -/
def MacroCase.opcodes : MacroCase → List Nat
  -- DW_MACRO_import
  | .importUnit => [0x07]
  -- DW_MACRO_start_file
  | .startFile => [0x03]
  -- DW_MACRO_end_file
  | .endFile => [0x04]
  -- DW_MACINFO_define, DW_MACRO_define_strp, DW_MACRO_define_sup, DW_MACRO_define_strx
  | .define => [0x01, 0x05, 0x08, 0x0b]
  -- DW_MACINFO_undef, DW_MACRO_undef_strp, DW_MACRO_undef_sup, DW_MACRO_undef_strx
  | .undef => [0x02, 0x06, 0x09, 0x0c]

/-- The body `switch (opcode)` runs, or `none` for `default`. -/
def macroCase (opcode : Nat) : Option MacroCase :=
  [MacroCase.importUnit, .startFile, .endFile, .define, .undef].find? fun c =>
    c.opcodes.contains opcode

/-- `printf ("%*s", level, "")`: `level` spaces; a negative width left-justifies, so `-level`. -/
def indent (level : Int) : String := spaces level.natAbs

/-- The macros of a unit through `step`, each from the level the one before left. -/
def eachEntry (step : Int → MacroEntry → Out Stop Int) : List MacroEntry → Int → Out Stop Int
  | [], level => pure level
  | entry :: rest, level => do
    let level ← step level entry
    eachEntry step rest level

/-- The loop of `include` and of `getmacros` over a unit, `step` being `mac`: each macro, then
`puts (dwarf_errmsg (...))` when the calls end with `-1`. -/
def forEntries (step : Int → MacroEntry → Out Stop Int) (unit : MacroUnit) (level : Int) :
    Out Stop Int := do
  let level ← eachEntry step unit.entries level
  match unit.error with
  | none => pure level
  | some msg => do
    Out.print (msg ++ "\n")
    pure level

/-- The body of `mac (entry, dbg)` at the level `level`, with `includeFrom` printing an imported
unit from a level as `include` does: what it prints, and the level after it. -/
def macBody (level : Int) (entry : MacroEntry) (includeFrom : UInt64 → Int → Out Stop Int) :
    Out Stop Int :=
  match macroCase entry.opcode with
  | some .importUnit =>
    match entry.param0 with
    | none => Out.fail (.assertion "r == 0")
    | some w => do
      Out.print (indent level ++ "include " ++ hexAlt w.toNat ++ "\n")
      let level ← includeFrom w (level + 1)
      Out.print (indent (level - 1) ++ "/include\n")
      pure (level - 1)
  | some .startFile =>
    match entry.srcfiles with
    | .error msg => do
      Out.print ("dwarf_macro_getsrcfiles: " ++ msg ++ "\n")
      Out.fail (.indeterminate "files")
    | .ok files => do
      -- `Dwarf_Word w = 0`, left so when the second operand is not a number
      let w : UInt64 := match entry.param2 with
        | some (.inl w) => w
        | _ => 0
      Out.print (indent level ++ "file " ++ files[w.toNat]?.getD "(null)" ++ "\n")
      pure (level + 1)
  | some .endFile => do
    Out.print (indent (level - 1) ++ "/file\n")
    pure (level - 1)
  | some .define =>
    match entry.param2 with
    | some (.inr value) => do
      Out.print (indent level ++ value ++ "\n")
      pure level
    | _ => Out.fail (.indeterminate "value")
  | some .undef => pure level
  | none =>
    match entry.paramcnt with
    | some paramcnt => do
      Out.print (indent level ++ "opcode " ++ dec entry.opcode ++ " with " ++ dec paramcnt ++
        " arguments\n")
      pure level
    | none => Out.fail (.indeterminate "paramcnt")

/-- `mac (entry, dbg)` at the level `level`, with `fuel` nested activations of `mac` left. -/
def mac (lib : Libdw) : Nat → Int → MacroEntry → Out Stop Int
  | 0, _, _ => Out.fail .exhausted
  | fuel + 1, level, entry =>
    macBody level entry fun w level => forEntries (mac lib fuel) (lib.getmacrosOff w) level

/-- `include (dbg, macoff, DWARF_GETMACROS_START)`, each macro by `mac` with `fuel` nested
activations left. -/
def includeUnit (lib : Libdw) (fuel : Nat) (macoff : UInt64) (level : Int) : Out Stop Int :=
  forEntries (mac lib fuel) (lib.getmacrosOff macoff) level

/-- `getmacros (dbg, die, new_style)`. -/
def getmacros (lib : Libdw) (fuel : Nat) (die : Die) (newStyle : Bool) (level : Int) :
    Out Stop Int :=
  forEntries (mac lib fuel) (lib.getmacros die newStyle) level

/-- `DW_AT_macro_info`. -/
def dwAtMacroInfo : Nat := 0x43

/-- `DW_AT_macros`. -/
def dwAtMacros : Nat := 0x79

/-- `DW_AT_GNU_macros`. -/
def dwAtGnuMacros : Nat := 0x2119

/-- What `dwarf_get_units` gives `main` for a unit: its type, its unit DIE, and the DIE of its
split unit. -/
structure UnitInfo where
  unitType : UInt8
  cudie : Die
  subdie : Die

/-- The DIE `main` reads the macros of: the split unit's for a skeleton. -/
def UnitInfo.die (u : UnitInfo) : Die :=
  if u.unitType = Elfutils.Libdw.dwUtSkeleton then u.subdie else u.cudie

/-- The loop of `main` over the units of the file when no unit offset is given: the macros of
each unit DIE that has macro information. -/
def allUnits (lib : Libdw) (fuel : Nat) (newStyle : Bool) : List UnitInfo → Int → Out Stop Int
  | [], level => pure level
  | u :: us, level =>
    if !lib.hasattr u.die dwAtMacroInfo && !lib.hasattr u.die dwAtGnuMacros &&
        !lib.hasattr u.die dwAtMacros then
      allUnits lib fuel newStyle us level
    else do
      Out.print ("CU " ++ (lib.diename u.die).getD "(null)" ++ "\n")
      let level ← getmacros lib fuel u.die newStyle level
      allUnits lib fuel newStyle us level

/-- `main (argc, argv)` on the arguments after the program name: the file, then an empty argument
for every unit or else the offset of one unit DIE, then any argument for the new style. `units`
are the units `dwarf_get_units` gives, and `offdie` is `dwarf_offdie` at the offset `strtol` reads
from a text. Returns the exit status. -/
def main (lib : Libdw) (fuel : Nat) (offdie : String → Except String Die) (units : List UnitInfo) :
    List String → Out Stop Nat
  | _ :: unitArg :: rest =>
    let newStyle := !rest.isEmpty
    if unitArg.isEmpty then do
      let _ ← allUnits lib fuel newStyle units 0
      pure 0
    else
      match offdie unitArg with
      | .ok cudie => do
        let _ ← getmacros lib fuel cudie newStyle 0
        pure 0
      | .error msg => do
        Out.print (msg ++ "\n")
        pure 1
  | _ => Out.fail (.assertion "argc >= 3")

example : macroCase 0x07 = some .importUnit ∧ macroCase 0x0a = none := by decide

end Elfutils.Getmacros
