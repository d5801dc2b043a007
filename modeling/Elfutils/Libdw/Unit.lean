import Mathlib.Logic.Function.Basic
import Mathlib.Data.List.Range

/-!
# Units, containers and the split link

The data that `__libdw_find_split_unit` (`libdw/libdw_find_split_unit.c`) reads and writes. A
`Dwarf_CU *` is a handle into a heap of unit records and a `Dwarf *` one into a heap of containers,
both natural numbers. A unit's `split` field is the three-state
link of the resolver: `(Dwarf_CU *) -1` while it has not been tried, `NULL` when nothing was found,
or the linked unit. A `Dwarf` container holds its units in header order.

`dwarf_end` frees a container. The heap keeps the record of a released container and of its units,
marked released, so that whatever the code does to it afterwards stays visible in the model: a link
into it, or a further call on it.
-/

set_option autoImplicit false

namespace Elfutils.Libdw

/-- `DW_UT_skeleton` of `dwarf.h`. -/
def dwUtSkeleton : UInt8 := 0x04

/-- `DW_UT_split_compile` of `dwarf.h`. -/
def dwUtSplitCompile : UInt8 := 0x05

/-- The `split` field of a `Dwarf_CU`. -/
inductive Split where
  /-- `(Dwarf_CU *) -1`: resolution not tried yet. -/
  | unresolved
  /-- `NULL`: tried, and no split unit was found. -/
  | null
  /-- The counterpart unit. -/
  | unit (u : Nat)
  deriving DecidableEq, Repr

/-- A `Dwarf_Attribute` of a unit DIE, as far as the resolver reads it: what `dwarf_formstring`
returns for it, `none` for `NULL` (a form that holds no string). -/
structure Attribute where
  formstring : Option String
  deriving DecidableEq, Repr

/-- The attributes of a unit DIE that the resolver looks up, each `none` where `dwarf_attr` finds
no such attribute. -/
structure CuDie where
  compDir : Option Attribute
  dwoName : Option Attribute
  gnuDwoName : Option Attribute
  deriving DecidableEq, Repr

/-- `dwarf_attr (&cudie, DW_AT_dwo_name, &dwo_name) != NULL || dwarf_attr (&cudie,
DW_AT_GNU_dwo_name, &dwo_name) != NULL`: the attribute found, the standard one first. -/
def CuDie.dwoNameAttr (d : CuDie) : Option Attribute :=
  d.dwoName.orElse fun _ => d.gnuDwoName

/-- A unit header as `dwarf_begin` parses it from a file. -/
structure UnitHeader where
  unitType : UInt8
  unitId8 : UInt64
  die : CuDie
  deriving DecidableEq, Repr

/-- A unit record: its header, the container it belongs to (`dbg`) and its `split` link. -/
structure Cu where
  unitType : UInt8
  unitId8 : UInt64
  dbg : Nat
  die : CuDie
  split : Split
  deriving DecidableEq, Repr

/-- The record `dwarf_begin` makes for a header of the container `dw`; its link is not tried yet. -/
def Cu.ofHeader (dw : Nat) (u : UnitHeader) : Cu :=
  ⟨u.unitType, u.unitId8, dw, u.die, .unresolved⟩

/-- A `Dwarf` container: the directory `debugdir` its file lies in, its units in header order,
whether `elf_cntl (ELF_C_FDDONE)` gave up its descriptor, and whether `dwarf_end` released it. -/
structure Dwarf where
  debugdir : Option String
  units : List Nat
  fdDone : Bool
  released : Bool
  deriving DecidableEq, Repr

/-- What `dwarf_begin` parses from a file: the directory of the file and its unit headers. -/
structure File where
  debugdir : Option String
  units : List UnitHeader
  deriving DecidableEq, Repr

/-- The heap of unit records and containers, with the next free handle of each; no record lies at
or beyond a next free handle. -/
structure Heap where
  cu : Nat → Option Cu
  dwarf : Nat → Option Dwarf
  nextCu : Nat
  nextDwarf : Nat
  cu_fresh : ∀ i, nextCu ≤ i → cu i = none
  dwarf_fresh : ∀ d, nextDwarf ≤ d → dwarf d = none

namespace Heap

/-- The `split` field of `u`; `(Dwarf_CU *) -1` for a handle with no record. -/
def splitOf (h : Heap) (u : Nat) : Split :=
  ((h.cu u).map Cu.split).getD .unresolved

/-- Change one record of a map of records, where there is one. -/
def updateRecord {α : Type} (m : Nat → Option α) (i : Nat) (g : α → α) : Nat → Option α :=
  Function.update m i ((m i).map g)

theorem updateRecord_eq_none {α : Type} {m : Nat → Option α} {j : Nat} (hj : m j = none) (i : Nat)
    (g : α → α) : updateRecord m i g j = none := by
  by_cases hji : j = i
  · subst hji; simp [updateRecord, hj]
  · simp [updateRecord, Function.update_noteq hji, hj]

/-- `u->split = v`. -/
def setSplit (h : Heap) (u : Nat) (v : Split) : Heap :=
  { h with
    cu := updateRecord h.cu u fun c => { c with split := v }
    cu_fresh := fun i hi => updateRecord_eq_none (h.cu_fresh i hi) u _ }

/-- `cu->split = split; split->split = cu;` -/
def link (h : Heap) (cu split : Nat) : Heap :=
  (h.setSplit cu (.unit split)).setSplit split (.unit cu)

/-- `dwarf_end (dw)`: the container is released. The code frees it with its units; the model keeps
their records, marked released, so that what the code reads or writes there afterwards, a
use-after-free, stays visible. -/
def dwarfEnd (h : Heap) (dw : Nat) : Heap :=
  { h with
    dwarf := updateRecord h.dwarf dw fun d => { d with released := true }
    dwarf_fresh := fun d hd => updateRecord_eq_none (h.dwarf_fresh d hd) dw _ }

/-- `elf_cntl (dw->elf, ELF_C_FDDONE)`: the container gives up its descriptor. -/
def elfCntlFdDone (h : Heap) (dw : Nat) : Heap :=
  { h with
    dwarf := updateRecord h.dwarf dw fun d => { d with fdDone := true }
    dwarf_fresh := fun d hd => updateRecord_eq_none (h.dwarf_fresh d hd) dw _ }

/-- The handles `dwarf_begin` gives the units of a file: the next free ones, in header order. -/
def freshUnits (h : Heap) (f : File) : List Nat :=
  List.range' h.nextCu f.units.length

/-- A successful `dwarf_begin`: a live container at the next free handle, holding one fresh unit
record per header. -/
def dwarfBegin (h : Heap) (f : File) : Heap where
  cu i :=
    if h.nextCu ≤ i then
      match f.units[i - h.nextCu]? with
      | some u => some (Cu.ofHeader h.nextDwarf u)
      | none => h.cu i
    else h.cu i
  dwarf := Function.update h.dwarf h.nextDwarf (some ⟨f.debugdir, h.freshUnits f, false, false⟩)
  nextCu := h.nextCu + f.units.length
  nextDwarf := h.nextDwarf + 1
  cu_fresh := fun i hi => by
    have hget : f.units[i - h.nextCu]? = none := List.getElem?_eq_none (by omega)
    simp [show h.nextCu ≤ i by omega, hget, h.cu_fresh i (by omega)]
  dwarf_fresh := fun d hd => by
    simp [Function.update_noteq (show d ≠ h.nextDwarf by omega), h.dwarf_fresh d (by omega)]

/-- The units of the container `dw`, in header order; none for a handle with no record. -/
def unitsOf (h : Heap) (dw : Nat) : List Nat :=
  ((h.dwarf dw).map Dwarf.units).getD []

/-- The container `dwarf_begin` makes holds the fresh units of the file. -/
@[simp] theorem unitsOf_dwarfBegin (h : Heap) (f : File) :
    (h.dwarfBegin f).unitsOf h.nextDwarf = h.freshUnits f := by
  simp [unitsOf, dwarfBegin]

@[simp] theorem setSplit_dwarf (h : Heap) (u : Nat) (v : Split) :
    (h.setSplit u v).dwarf = h.dwarf := rfl

@[simp] theorem setSplit_nextCu (h : Heap) (u : Nat) (v : Split) :
    (h.setSplit u v).nextCu = h.nextCu := rfl

@[simp] theorem setSplit_nextDwarf (h : Heap) (u : Nat) (v : Split) :
    (h.setSplit u v).nextDwarf = h.nextDwarf := rfl

@[simp] theorem setSplit_cu_self (h : Heap) (u : Nat) (v : Split) :
    (h.setSplit u v).cu u = (h.cu u).map fun c => { c with split := v } := by
  simp [setSplit, updateRecord]

theorem setSplit_cu_of_ne (h : Heap) {u w : Nat} (v : Split) (hw : w ≠ u) :
    (h.setSplit u v).cu w = h.cu w := by
  simp [setSplit, updateRecord, Function.update_noteq hw]

@[simp] theorem dwarfEnd_cu (h : Heap) (dw : Nat) : (h.dwarfEnd dw).cu = h.cu := rfl

@[simp] theorem dwarfEnd_nextCu (h : Heap) (dw : Nat) : (h.dwarfEnd dw).nextCu = h.nextCu := rfl

@[simp] theorem dwarfEnd_nextDwarf (h : Heap) (dw : Nat) :
    (h.dwarfEnd dw).nextDwarf = h.nextDwarf := rfl

@[simp] theorem elfCntlFdDone_cu (h : Heap) (dw : Nat) : (h.elfCntlFdDone dw).cu = h.cu := rfl

@[simp] theorem elfCntlFdDone_nextCu (h : Heap) (dw : Nat) :
    (h.elfCntlFdDone dw).nextCu = h.nextCu := rfl

@[simp] theorem elfCntlFdDone_nextDwarf (h : Heap) (dw : Nat) :
    (h.elfCntlFdDone dw).nextDwarf = h.nextDwarf := rfl

@[simp] theorem dwarfBegin_nextCu (h : Heap) (f : File) :
    (h.dwarfBegin f).nextCu = h.nextCu + f.units.length := rfl

@[simp] theorem dwarfBegin_nextDwarf (h : Heap) (f : File) :
    (h.dwarfBegin f).nextDwarf = h.nextDwarf + 1 := rfl

theorem dwarfBegin_cu_of_lt (h : Heap) (f : File) {i : Nat} (hi : i < h.nextCu) :
    (h.dwarfBegin f).cu i = h.cu i := by
  simp [dwarfBegin, Nat.not_le.mpr hi]

/-- The fresh unit at position `k` of a parsed file is the record of the `k`-th header. -/
theorem dwarfBegin_cu_fresh (h : Heap) (f : File) {k : Nat} (hk : k < f.units.length) :
    (h.dwarfBegin f).cu (h.nextCu + k) = some (Cu.ofHeader h.nextDwarf f.units[k]) := by
  simp [dwarfBegin, List.getElem?_eq_getElem hk]

/-- The first unit of a parsed file is the record of its first header. -/
theorem dwarfBegin_cu_head (h : Heap) {f : File} {u : UnitHeader} {rest : List UnitHeader}
    (hf : f.units = u :: rest) :
    (h.dwarfBegin f).cu h.nextCu = some (Cu.ofHeader h.nextDwarf u) := by
  simpa [hf] using h.dwarfBegin_cu_fresh f (k := 0) (by simp [hf])

theorem lt_nextCu_of_cu_eq_some (h : Heap) {u : Nat} {c : Cu} (hc : h.cu u = some c) :
    u < h.nextCu :=
  Nat.lt_of_not_le fun hle => by simp [h.cu_fresh u hle] at hc

theorem mem_freshUnits (h : Heap) (f : File) {s : Nat} :
    s ∈ h.freshUnits f ↔ h.nextCu ≤ s ∧ s < h.nextCu + f.units.length := by
  simp [freshUnits, List.mem_range'_1]

end Heap

end Elfutils.Libdw
