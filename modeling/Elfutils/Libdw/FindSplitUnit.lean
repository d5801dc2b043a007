import Elfutils.Libdw.Unit

/-!
# `__libdw_find_split_unit`

The resolver of `libdw/libdw_find_split_unit.c`, as explicit state passing over the heap of
`Elfutils.Libdw.Unit`. What lies outside libdw's own memory is the environment `Env` of one call:
the path builder `__libdw_filepath`, the file system behind `open`, and the parse `dwarf_begin`
makes of a descriptor. A call returns the final `cu->split`, the heap after it, and the list of
its effects on the outside world and on containers, in order (`Effect`).

The function is cut along its blocks: `buildDwoPath` (the two `__libdw_filepath` calls),
`openAndScan` (`open` through `close`), `scanUnits` (the `dwarf_get_units` loop) and
`resolveSkeleton` (the skeleton branch). In the source, `dwarf_end` stands inside the loop, after
the test for a match; `scanUnits` keeps it there.
-/

set_option autoImplicit false

namespace Elfutils.Libdw

/-- What the world outside libdw answers during one call. -/
structure Env where
  /-- `__libdw_filepath (debugdir, dir, file)`: the path it allocates, `none` for `NULL`. -/
  filepath : Option String → Option String → Option String → Option String
  /-- `open (path, O_RDONLY)`: the descriptor, `none` for `-1`. -/
  openRdonly : String → Option Nat
  /-- `dwarf_begin (fd, DWARF_C_READ)`: what it parses from the file behind `fd`, `none` for
  `NULL`. -/
  dwarfBegin : Nat → Option File

/-- A call the resolver makes that acts on a resource: a path, a descriptor or a container. -/
inductive Effect where
  /-- `__libdw_filepath (debugdir, dir, dwo_file)` and the path it allocated. -/
  | filepath (dir : Option String) (path : Option String)
  /-- `open (path, O_RDONLY)` and the descriptor it returned. -/
  | openFile (path : String) (fd : Option Nat)
  /-- `dwarf_begin (fd, DWARF_C_READ)` and the container it returned. -/
  | dwarfBegin (fd : Nat) (dw : Option Nat)
  /-- `dwarf_get_units (dw, ...)` and the unit it returned, `none` at the end of the list. -/
  | getUnits (dw : Nat) (next : Option Nat)
  /-- `elf_cntl (dw->elf, ELF_C_FDDONE)`. -/
  | fdDone (dw : Nat)
  /-- `dwarf_end (dw)`. -/
  | dwarfEnd (dw : Nat)
  /-- `close (fd)`. -/
  | close (fd : Nat)
  /-- `free (path)`. -/
  | free (path : String)
  deriving DecidableEq, Repr

/-- The test of the scan loop: `split->unit_type == DW_UT_split_compile && cu->unit_id8 ==
split->unit_id8`. -/
def splitMatches (h : Heap) (cu split : Nat) : Bool :=
  match h.cu cu, h.cu split with
  | some c, some s => s.unitType == dwUtSplitCompile && c.unitId8 == s.unitId8
  | _, _ => false

/-- The loop `while (dwarf_get_units (split_dwarf, split, &split, ...) == 0)` over the units of
`dw` that are still to come. On a match it links both units, gives up the container's descriptor
and leaves the loop; on any other unit it calls `dwarf_end` while `cu->split` is still
`(Dwarf_CU *) -1`, and goes on to the next unit. -/
def scanUnits (cu : Nat) (dw : Nat) : List Nat → Heap → Heap × List Effect
  | [], h => (h, [.getUnits dw none])
  | split :: rest, h =>
    if splitMatches h cu split then
      ((h.link cu split).elfCntlFdDone dw, [.getUnits dw (some split), .fdDone dw])
    else
      let ended : Heap × List Effect :=
        if h.splitOf cu = .unresolved then (h.dwarfEnd dw, [.dwarfEnd dw]) else (h, [])
      let next := scanUnits cu dw rest ended.1
      (next.1, .getUnits dw (some split) :: ended.2 ++ next.2)

/-- `dwo_path`: `__libdw_filepath (debugdir, NULL, dwo_file)`, and only when that is `NULL` and
`comp_dir` is not, `__libdw_filepath (debugdir, comp_dir, dwo_file)`. -/
def buildDwoPath (env : Env) (debugdir compDir dwoFile : Option String) :
    Option String × List Effect :=
  let first := env.filepath debugdir none dwoFile
  if first = none ∧ compDir ≠ none then
    let second := env.filepath debugdir compDir dwoFile
    (second, [.filepath none first, .filepath compDir second])
  else (first, [.filepath none first])

/-- From `open (dwo_path, O_RDONLY)` to `close (split_fd)`: parse the file, and scan the units of
the container `dwarf_begin` made. -/
def openAndScan (env : Env) (cu : Nat) (path : String) (h : Heap) : Heap × List Effect :=
  match env.openRdonly path with
  | none => (h, [.openFile path none])
  | some fd =>
    let parsed : Heap × List Effect :=
      match env.dwarfBegin fd with
      | none => (h, [.dwarfBegin fd none])
      | some file =>
        let splitDwarf := h.dwarfBegin file
        let scanned := scanUnits cu h.nextDwarf (splitDwarf.unitsOf h.nextDwarf) splitDwarf
        (scanned.1, .dwarfBegin fd (some h.nextDwarf) :: scanned.2)
    (parsed.1, .openFile path (some fd) :: parsed.2 ++ [.close fd])

/-- The branch `if (cu->unit_type == DW_UT_skeleton)`: read `comp_dir` and the name of the split
file, build the path, and when there is one, open and scan it, then `free (dwo_path)`. -/
def resolveSkeleton (env : Env) (cu : Nat) (c : Cu) (h : Heap) : Heap × List Effect :=
  match c.die.dwoNameAttr with
  | none => (h, [])
  | some dwoName =>
    let compDir := c.die.compDir.bind Attribute.formstring
    let debugdir := (h.dwarf c.dbg).bind Dwarf.debugdir
    let built := buildDwoPath env debugdir compDir dwoName.formstring
    match built.1 with
    | none => (h, built.2)
    | some path =>
      let opened := openAndScan env cu path h
      (opened.1, built.2 ++ opened.2 ++ [.free path])

/-- `if (cu->split == (Dwarf_CU *) -1) cu->split = NULL;` -/
def Heap.noneFound (h : Heap) (cu : Nat) : Heap :=
  if h.splitOf cu = .unresolved then h.setSplit cu .null else h

/-- `__libdw_find_split_unit (cu)`: the value it returns, the heap after it, and its effects.
A handle with no record is outside the caller's contract; the model returns `NULL` for it and
does nothing. -/
def findSplitUnit (env : Env) (cu : Nat) (h : Heap) : Split × Heap × List Effect :=
  match h.cu cu with
  | none => (.null, h, [])
  | some c =>
    -- Only try once.
    if c.split ≠ .unresolved then (c.split, h, [])
    else
      let tried : Heap × List Effect :=
        if c.unitType = dwUtSkeleton then resolveSkeleton env cu c h else (h, [])
      -- If we found nothing, make sure we don't try again.
      let h' := tried.1.noneFound cu
      (h'.splitOf cu, h', tried.2)

/-! ## What each block does to the unit records -/

@[simp] theorem splitMatches_dwarfEnd (h : Heap) (dw : Nat) :
    splitMatches (h.dwarfEnd dw) = splitMatches h := rfl

@[simp] theorem Heap.splitOf_dwarfEnd (h : Heap) (dw : Nat) :
    (h.dwarfEnd dw).splitOf = h.splitOf := rfl

/-- The unit records a scan of `us` leaves: `cu` linked to the first matching unit, if any. -/
def scanned (cu : Nat) (us : List Nat) (h : Heap) : Heap :=
  (us.find? (splitMatches h cu)).elim h (h.link cu)

theorem scanned_dwarfEnd_cu (cu : Nat) (us : List Nat) (h : Heap) (dw : Nat) :
    (scanned cu us (h.dwarfEnd dw)).cu = (scanned cu us h).cu := by
  unfold scanned
  rw [splitMatches_dwarfEnd]
  cases us.find? (splitMatches h cu) <;> rfl

@[simp] theorem scanned_nextCu (cu : Nat) (us : List Nat) (h : Heap) :
    (scanned cu us h).nextCu = h.nextCu := by
  unfold scanned
  cases us.find? (splitMatches h cu) <;> rfl

theorem scanUnits_cu (cu dw : Nat) : ∀ (us : List Nat) (h : Heap),
    (scanUnits cu dw us h).1.cu = (scanned cu us h).cu
  | [], _ => rfl
  | s :: rest, h => by
    by_cases hm : splitMatches h cu s
    · simp [scanUnits, scanned, hm, List.find?_cons]
    · have hrest : scanned cu (s :: rest) h = scanned cu rest h := by
        simp [scanned, hm, List.find?_cons]
      rw [hrest]
      by_cases hu : h.splitOf cu = .unresolved
      · simp only [scanUnits, hm, hu, if_true, Bool.false_eq_true, if_false]
        rw [scanUnits_cu, scanned_dwarfEnd_cu]
      · simp [scanUnits, hm, hu, scanUnits_cu]

theorem scanUnits_nextCu (cu dw : Nat) : ∀ (us : List Nat) (h : Heap),
    (scanUnits cu dw us h).1.nextCu = h.nextCu
  | [], _ => rfl
  | s :: rest, h => by
    by_cases hm : splitMatches h cu s
    · simp [scanUnits, hm, Heap.link]
    · by_cases hu : h.splitOf cu = .unresolved <;>
        simp [scanUnits, hm, hu, scanUnits_nextCu cu dw rest]

/-- The unit records after parsing the file `f`, if there is one, and scanning its units for
`cu`. -/
def attempted (cu : Nat) (h : Heap) : Option File → Heap
  | none => h
  | some f => scanned cu (h.freshUnits f) (h.dwarfBegin f)

theorem openAndScan_cu (env : Env) (cu : Nat) (path : String) (h : Heap) :
    (openAndScan env cu path h).1.cu =
        (attempted cu h ((env.openRdonly path).bind env.dwarfBegin)).cu ∧
      (openAndScan env cu path h).1.nextCu =
        (attempted cu h ((env.openRdonly path).bind env.dwarfBegin)).nextCu := by
  unfold openAndScan
  cases env.openRdonly path with
  | none => simp [attempted]
  | some fd =>
    cases hbegin : env.dwarfBegin fd with
    | none => simp [attempted, hbegin]
    | some f => simp [attempted, hbegin, scanUnits_cu, scanUnits_nextCu]

/-- The file the skeleton branch parses: the path `buildDwoPath` builds, opened and parsed. -/
def companionFile (env : Env) (h : Heap) (c : Cu) : Option File :=
  c.die.dwoNameAttr.bind fun a =>
    ((buildDwoPath env ((h.dwarf c.dbg).bind Dwarf.debugdir)
      (c.die.compDir.bind Attribute.formstring) a.formstring).1.bind env.openRdonly).bind
      env.dwarfBegin

theorem resolveSkeleton_cu (env : Env) (cu : Nat) (c : Cu) (h : Heap) :
    (resolveSkeleton env cu c h).1.cu = (attempted cu h (companionFile env h c)).cu ∧
      (resolveSkeleton env cu c h).1.nextCu = (attempted cu h (companionFile env h c)).nextCu := by
  unfold resolveSkeleton companionFile
  cases c.die.dwoNameAttr with
  | none => simp [attempted]
  | some a =>
    cases hb : (buildDwoPath env ((h.dwarf c.dbg).bind Dwarf.debugdir)
      (c.die.compDir.bind Attribute.formstring) a.formstring).1 with
    | none => simp [attempted, hb]
    | some path => simpa [hb] using openAndScan_cu env cu path h

/-! ## What a call does to the unit records -/

/-- The file a call on the record `c` parses: the companion file of a skeleton, none for any
other unit. -/
def parsedFile (env : Env) (h : Heap) (c : Cu) : Option File :=
  if c.unitType = dwUtSkeleton then companionFile env h c else none

theorem Heap.splitOf_congr {h₁ h₂ : Heap} (hcu : h₁.cu = h₂.cu) : h₁.splitOf = h₂.splitOf := by
  funext u
  simp [Heap.splitOf, hcu]

theorem Heap.noneFound_cu_congr {h₁ h₂ : Heap} (hcu : h₁.cu = h₂.cu) (u : Nat) :
    (h₁.noneFound u).cu = (h₂.noneFound u).cu := by
  simp only [Heap.noneFound, Heap.splitOf_congr hcu]
  split <;> simp [Heap.setSplit, hcu]

@[simp] theorem Heap.noneFound_nextCu (h : Heap) (u : Nat) : (h.noneFound u).nextCu = h.nextCu := by
  unfold Heap.noneFound
  split <;> rfl

/-- A call on a unit whose link is resolved returns the link and does nothing. -/
theorem findSplitUnit_of_resolved (env : Env) {cu : Nat} {h : Heap} {c : Cu}
    (hc : h.cu cu = some c) (hr : c.split ≠ .unresolved) :
    findSplitUnit env cu h = (c.split, h, []) := by
  simp [findSplitUnit, hc, hr]

/-- A call on a unit not tried yet: the records are those of `attempted`, then `noneFound`, and the
call returns the link `cu` has in the end. -/
theorem findSplitUnit_of_unresolved (env : Env) {cu : Nat} {h : Heap} {c : Cu}
    (hc : h.cu cu = some c) (hu : c.split = .unresolved) :
    (findSplitUnit env cu h).2.1.cu = ((attempted cu h (parsedFile env h c)).noneFound cu).cu ∧
      (findSplitUnit env cu h).2.1.nextCu = (attempted cu h (parsedFile env h c)).nextCu ∧
      (findSplitUnit env cu h).1 = (findSplitUnit env cu h).2.1.splitOf cu := by
  have htried : (if c.unitType = dwUtSkeleton then resolveSkeleton env cu c h else (h, [])).1.cu =
        (attempted cu h (parsedFile env h c)).cu ∧
      (if c.unitType = dwUtSkeleton then resolveSkeleton env cu c h else (h, [])).1.nextCu =
        (attempted cu h (parsedFile env h c)).nextCu := by
    unfold parsedFile
    split
    · exact resolveSkeleton_cu env cu c h
    · exact ⟨rfl, rfl⟩
  refine ⟨?_, ?_, ?_⟩ <;> simp only [findSplitUnit, hc, hu, ne_eq, not_true_eq_false, if_false]
  · exact Heap.noneFound_cu_congr htried.1 cu
  · rw [Heap.noneFound_nextCu]
    exact htried.2

theorem splitMatches_eq_true {h : Heap} {cu s : Nat} (hm : splitMatches h cu s = true) :
    ∃ c d, h.cu cu = some c ∧ h.cu s = some d ∧ d.unitType = dwUtSplitCompile ∧
      c.unitId8 = d.unitId8 := by
  unfold splitMatches at hm
  split at hm
  · rename_i c d hc hd
    simp only [Bool.and_eq_true, beq_iff_eq] at hm
    exact ⟨c, d, hc, hd, hm⟩
  · cases hm

theorem parsedFile_eq_some {env : Env} {h : Heap} {c : Cu} {f : File}
    (hf : parsedFile env h c = some f) : c.unitType = dwUtSkeleton := by
  unfold parsedFile at hf
  split at hf
  · assumption
  · cases hf

theorem Heap.splitOf_setSplit_self {h : Heap} {u : Nat} {c : Cu} (hc : h.cu u = some c)
    (v : Split) : (h.setSplit u v).splitOf u = v := by
  simp [Heap.splitOf, hc]

theorem Heap.splitOf_of_cu {h : Heap} {u : Nat} {c : Cu} (hc : h.cu u = some c) :
    h.splitOf u = c.split := by
  simp [Heap.splitOf, hc]

theorem Heap.noneFound_of_unresolved {h : Heap} {u : Nat} {c : Cu} (hc : h.cu u = some c)
    (hu : c.split = .unresolved) : h.noneFound u = h.setSplit u .null := by
  simp [Heap.noneFound, Heap.splitOf_of_cu hc, hu]

theorem Heap.splitOf_link_self {h : Heap} {u s : Nat} {c : Cu} (hc : h.cu u = some c)
    (hne : u ≠ s) : (h.link u s).splitOf u = .unit s := by
  rw [Heap.link, Heap.splitOf, Heap.setSplit_cu_of_ne _ _ hne]
  simp [hc]

/-- A linked skeleton is not marked `NULL` at the end of the call. -/
theorem Heap.noneFound_link {h : Heap} {u s : Nat} {c : Cu} (hc : h.cu u = some c)
    (hne : u ≠ s) : (h.link u s).noneFound u = h.link u s := by
  simp [Heap.noneFound, Heap.splitOf_link_self hc hne]

/-- A call does nothing, or is made on a unit not tried yet. -/
theorem findSplitUnit_eq_or_unresolved (env : Env) (cu : Nat) (h : Heap) :
    (findSplitUnit env cu h).2.1 = h ∨ ∃ c, h.cu cu = some c ∧ c.split = .unresolved := by
  cases hc : h.cu cu with
  | none => exact .inl (by simp [findSplitUnit, hc])
  | some c =>
    by_cases hu : c.split = .unresolved
    · exact .inr ⟨c, rfl, hu⟩
    · exact .inl (by rw [findSplitUnit_of_resolved env hc hu])

/-- Everything a call on a unit not tried yet can do to the unit records: set `cu->split` to
`NULL`, with or without the records of a parsed file added; or add them and link the skeleton
`cu` to one of them that matches. -/
theorem findSplitUnit_cases (env : Env) {cu : Nat} {h : Heap} {c : Cu} (hc : h.cu cu = some c)
    (hu : c.split = .unresolved) :
    ((findSplitUnit env cu h).2.1.cu = (h.setSplit cu .null).cu ∧
        (findSplitUnit env cu h).2.1.nextCu = h.nextCu ∧ (findSplitUnit env cu h).1 = .null) ∨
      ∃ f, ((findSplitUnit env cu h).2.1.cu = ((h.dwarfBegin f).setSplit cu .null).cu ∧
        (findSplitUnit env cu h).2.1.nextCu = (h.dwarfBegin f).nextCu ∧
        (findSplitUnit env cu h).1 = .null) ∨
      ∃ s ∈ h.freshUnits f, c.unitType = dwUtSkeleton ∧
        splitMatches (h.dwarfBegin f) cu s = true ∧
        (findSplitUnit env cu h).2.1.cu = ((h.dwarfBegin f).link cu s).cu ∧
        (findSplitUnit env cu h).2.1.nextCu = (h.dwarfBegin f).nextCu ∧
        (findSplitUnit env cu h).1 = .unit s := by
  obtain ⟨hcu, hnext, hres⟩ := findSplitUnit_of_unresolved env hc hu
  have hlt := h.lt_nextCu_of_cu_eq_some hc
  cases hp : parsedFile env h c with
  | none =>
    simp only [hp, attempted, Heap.noneFound_of_unresolved hc hu] at hcu hnext
    refine .inl ⟨hcu, hnext, ?_⟩
    rw [hres, Heap.splitOf_congr hcu, Heap.splitOf_setSplit_self hc]
  | some f =>
    refine .inr ⟨f, ?_⟩
    have hcb : (h.dwarfBegin f).cu cu = some c := (h.dwarfBegin_cu_of_lt f hlt).trans hc
    simp only [hp, attempted, scanned] at hcu hnext
    cases hfind : (h.freshUnits f).find? (splitMatches (h.dwarfBegin f) cu) with
    | none =>
      simp only [hfind, Option.elim_none, Heap.noneFound_of_unresolved hcb hu] at hcu hnext
      refine .inl ⟨hcu, hnext, ?_⟩
      rw [hres, Heap.splitOf_congr hcu, Heap.splitOf_setSplit_self hcb]
    | some s =>
      have hs := List.mem_of_find?_eq_some hfind
      have hne : cu ≠ s := by
        have := (h.mem_freshUnits f).mp hs
        omega
      simp only [hfind, Option.elim_some, Heap.noneFound_link hcb hne] at hcu hnext
      refine .inr ⟨s, hs, parsedFile_eq_some hp, List.find?_some hfind, hcu,
        by simpa [Heap.link] using hnext, ?_⟩
      rw [hres, Heap.splitOf_congr hcu, Heap.splitOf_link_self hcb hne]

end Elfutils.Libdw
