import Elfutils.Libdw.Links

/-!
# Paths, descriptors and containers of one call

What a call of `__libdw_find_split_unit` does to the resources it acquires. The path and the
descriptor are handled as intended: every call frees the path it allocated and closes the
descriptor it opened, once each (`findSplitUnit_frees_and_closes`).

The container is not. `dwarf_end` stands inside the scan loop, so the scan releases the container
as soon as its first unit does not match (`scanUnits_effects`), and keeps calling
`dwarf_get_units` on it. A file with no unit leaves its container allocated with nothing linked
into it, a file whose first unit does not match has `dwarf_get_units` called on the released
container (`findSplitUnit_container_protocol_broken`), and a match after a unit that does not match
links the skeleton into a released container (`findSplitUnit_links_into_released_container`).
-/

set_option autoImplicit false

namespace Elfutils.Libdw

/-! ## Effects on resources -/

/-- The path an effect allocates. -/
def Effect.allocated : Effect → Option String
  | .filepath _ p => p
  | _ => none

/-- The path an effect frees. -/
def Effect.freed : Effect → Option String
  | .free p => some p
  | _ => none

/-- The descriptor an effect opens. -/
def Effect.opened : Effect → Option Nat
  | .openFile _ fd => fd
  | _ => none

/-- The descriptor an effect closes. -/
def Effect.closed : Effect → Option Nat
  | .close fd => some fd
  | _ => none

/-- An effect on the container `dw`. -/
def Effect.onContainer (dw : Nat) : Effect → Prop
  | .getUnits d _ => d = dw
  | .fdDone d => d = dw
  | .dwarfEnd d => d = dw
  | _ => False

theorem Effect.resources_of_onContainer {e : Effect} {dw : Nat} (he : e.onContainer dw) :
    e.allocated = none ∧ e.freed = none ∧ e.opened = none ∧ e.closed = none := by
  cases e <;> simp_all [Effect.onContainer, Effect.allocated, Effect.freed, Effect.opened,
    Effect.closed]

/-- The scan acts on its container only. -/
theorem scanUnits_onContainer (cu dw : Nat) :
    ∀ (us : List Nat) (h : Heap), ∀ e ∈ (scanUnits cu dw us h).2, e.onContainer dw
  | [], _ => by simp [scanUnits, Effect.onContainer]
  | s :: rest, h => by
    unfold scanUnits
    split
    · simp [Effect.onContainer]
    · split <;> simpa [Effect.onContainer] using scanUnits_onContainer cu dw rest _

/-- A companion file whose first split unit has another `unit_id8` than the skeleton of
`oneSkeleton`, and whose second one has the same. -/
def mismatchFirst : File :=
  ⟨some "/build", [⟨dwUtSplitCompile, 1, noNames⟩, ⟨dwUtSplitCompile, 2, noNames⟩]⟩

theorem buildDwoPath_allocated (env : Env) (debugdir compDir dwoFile : Option String) :
    (buildDwoPath env debugdir compDir dwoFile).2.filterMap Effect.allocated =
        (buildDwoPath env debugdir compDir dwoFile).1.toList ∧
      (buildDwoPath env debugdir compDir dwoFile).2.filterMap Effect.freed = [] ∧
      (buildDwoPath env debugdir compDir dwoFile).2.filterMap Effect.opened = [] ∧
      (buildDwoPath env debugdir compDir dwoFile).2.filterMap Effect.closed = [] := by
  by_cases hfirst : env.filepath debugdir none dwoFile = none ∧ compDir ≠ none
  · simp only [buildDwoPath, hfirst, ne_eq, not_false_eq_true, and_self, if_true]
    cases env.filepath debugdir compDir dwoFile <;>
      simp [hfirst, Effect.allocated, Effect.freed, Effect.opened, Effect.closed]
  · simp only [buildDwoPath, hfirst, if_false]
    cases env.filepath debugdir none dwoFile <;>
      simp [Effect.allocated, Effect.freed, Effect.opened, Effect.closed]

theorem openAndScan_resources (env : Env) (cu : Nat) (path : String) (h : Heap) :
    (openAndScan env cu path h).2.filterMap Effect.allocated = [] ∧
      (openAndScan env cu path h).2.filterMap Effect.freed = [] ∧
      (openAndScan env cu path h).2.filterMap Effect.closed =
        (openAndScan env cu path h).2.filterMap Effect.opened ∧
      ((openAndScan env cu path h).2.filterMap Effect.opened).length ≤ 1 := by
  unfold openAndScan
  cases env.openRdonly path with
  | none => simp [Effect.allocated, Effect.freed, Effect.opened, Effect.closed]
  | some fd =>
    cases hb : env.dwarfBegin fd with
    | none => simp [hb, Effect.allocated, Effect.freed, Effect.opened, Effect.closed]
    | some f =>
      have hscan := scanUnits_onContainer cu h.nextDwarf (h.freshUnits f) (h.dwarfBegin f)
      simp only [hb, Heap.unitsOf_dwarfBegin, List.filterMap_cons, List.filterMap_append,
        List.filterMap_eq_nil_iff.mpr fun e he => (Effect.resources_of_onContainer (hscan e he)).1,
        List.filterMap_eq_nil_iff.mpr fun e he => (Effect.resources_of_onContainer (hscan e he)).2.1,
        List.filterMap_eq_nil_iff.mpr fun e he => (Effect.resources_of_onContainer (hscan e he)).2.2.1,
        List.filterMap_eq_nil_iff.mpr fun e he => (Effect.resources_of_onContainer (hscan e he)).2.2.2]
      simp [Effect.allocated, Effect.freed, Effect.opened, Effect.closed]

/-- The resolution of a skeleton frees the path it allocated and closes the descriptor it
opened, at most one of each. -/
theorem resolveSkeleton_resources (env : Env) (cu : Nat) (c : Cu) (h : Heap) :
    (resolveSkeleton env cu c h).2.filterMap Effect.freed =
        (resolveSkeleton env cu c h).2.filterMap Effect.allocated ∧
      (resolveSkeleton env cu c h).2.filterMap Effect.closed =
        (resolveSkeleton env cu c h).2.filterMap Effect.opened ∧
      ((resolveSkeleton env cu c h).2.filterMap Effect.allocated).length ≤ 1 ∧
      ((resolveSkeleton env cu c h).2.filterMap Effect.opened).length ≤ 1 := by
  unfold resolveSkeleton
  cases c.die.dwoNameAttr with
  | none => simp
  | some a =>
    obtain ⟨hb₁, hb₂, hb₃, hb₄⟩ := buildDwoPath_allocated env ((h.dwarf c.dbg).bind Dwarf.debugdir)
      (c.die.compDir.bind Attribute.formstring) a.formstring
    cases hp : (buildDwoPath env ((h.dwarf c.dbg).bind Dwarf.debugdir)
      (c.die.compDir.bind Attribute.formstring) a.formstring).1 with
    | none => simp [hp, hb₁, hb₂, hb₃, hb₄]
    | some path =>
      obtain ⟨ho₁, ho₂, ho₃, ho₄⟩ := openAndScan_resources env cu path h
      simp only [hp, List.filterMap_append, hb₁, hb₂, hb₃, hb₄, ho₁, ho₂, ho₃]
      simp [Effect.allocated, Effect.freed, Effect.opened, Effect.closed, ho₄]

/-- Every call frees the path it allocated and nothing else, and closes the descriptor it opened
and nothing else; it allocates at most one path and opens at most one descriptor. -/
theorem findSplitUnit_frees_and_closes (env : Env) (cu : Nat) (h : Heap) :
    ((findSplitUnit env cu h).2.2.filterMap Effect.freed =
        (findSplitUnit env cu h).2.2.filterMap Effect.allocated) ∧
      ((findSplitUnit env cu h).2.2.filterMap Effect.closed =
        (findSplitUnit env cu h).2.2.filterMap Effect.opened) ∧
      ((findSplitUnit env cu h).2.2.filterMap Effect.allocated).length ≤ 1 ∧
      ((findSplitUnit env cu h).2.2.filterMap Effect.opened).length ≤ 1 := by
  unfold findSplitUnit
  split
  · simp
  · split
    · simp
    · split
      · exact resolveSkeleton_resources env cu _ h
      · simp

/-! ## The container protocol broken -/

/-- With a companion file that holds no unit, `dwarf_end` never runs: the call returns `NULL` and
leaves the container it parsed live, holding no unit. With a file whose only unit does not match,
`dwarf_end` runs inside the loop and `dwarf_get_units` is then called on the released
container. -/
theorem findSplitUnit_container_protocol_broken :
    (findSplitUnit (filesWith []) 0 oneSkeleton).1 = .null ∧
      (findSplitUnit (filesWith []) 0 oneSkeleton).2.2 =
        [.filepath none (some "/usr/lib/debug/a.dwo"), .openFile "/usr/lib/debug/a.dwo" (some 3),
          .dwarfBegin 3 (some 1), .getUnits 1 none, .close 3, .free "/usr/lib/debug/a.dwo"] ∧
      (findSplitUnit (filesWith []) 0 oneSkeleton).2.1.dwarf 1 =
        some ⟨some "/build", [], false, false⟩ ∧
      (findSplitUnit (filesWith [⟨dwUtSplitCompile, 1, noNames⟩]) 0 oneSkeleton).2.2 =
        [.filepath none (some "/usr/lib/debug/a.dwo"), .openFile "/usr/lib/debug/a.dwo" (some 3),
          .dwarfBegin 3 (some 1), .getUnits 1 (some 1), .dwarfEnd 1, .getUnits 1 none, .close 3,
          .free "/usr/lib/debug/a.dwo"] := by
  decide

/-- With a companion file whose first unit has another `unit_id8` and whose second one matches,
the call releases the container and then links the skeleton into it: in a reachable heap the
unit `0` links to the unit `2`, whose container `1` is released. -/
theorem findSplitUnit_links_into_released_container :
    Reachable (findSplitUnit (filesWith [⟨dwUtSplitCompile, 1, noNames⟩,
        ⟨dwUtSplitCompile, 2, noNames⟩]) 0 oneSkeleton).2.1 ∧
      (findSplitUnit (filesWith [⟨dwUtSplitCompile, 1, noNames⟩, ⟨dwUtSplitCompile, 2, noNames⟩]) 0
        oneSkeleton).2.1.splitOf 0 = .unit 2 ∧
      ((findSplitUnit (filesWith [⟨dwUtSplitCompile, 1, noNames⟩, ⟨dwUtSplitCompile, 2, noNames⟩]) 0
        oneSkeleton).2.1.cu 2).map Cu.dbg = some 1 ∧
      ((findSplitUnit (filesWith [⟨dwUtSplitCompile, 1, noNames⟩, ⟨dwUtSplitCompile, 2, noNames⟩]) 0
        oneSkeleton).2.1.dwarf 1).map Dwarf.released = some true :=
  ⟨.call _ 0 (.fresh oneSkeleton_fresh), by decide, by decide, by decide⟩

end Elfutils.Libdw
