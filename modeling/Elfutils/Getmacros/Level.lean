import Elfutils.Getmacros.Imports

/-!
# The indentation level of `dwarf-getmacros`

`mac` indents each line by its static `level`: one deeper after a start of file and after an
`include` line, one less after an end of file and before the `/include` line. So a macro moves
the level by its own step (`levelStep`: `+1`, `-1` or `0`) and, for an import, by what the
imported unit does to it.

When every unit that can be imported has as many ends of file as starts (`ImportsBalanced`),
each import comes back to its level: the imported unit's lines stand between an `include` line
and a `/include` line indented alike (`mac_import_aligned`), and the macros of a unit DIE, run to
their end, shift the level by that unit's own starts less its ends (`getmacros_level`).
-/

set_option autoImplicit false

namespace Elfutils.Getmacros

/-- What `mac` does to `level` for a macro, besides what an imported unit does. -/
def levelStep (e : MacroEntry) : Int :=
  match macroCase e.opcode with
  | some .startFile => 1
  | some .endFile => -1
  | _ => 0

/-- The starts of file of a unit less its ends. -/
def MacroUnit.shift (u : MacroUnit) : Int := (u.entries.map levelStep).foldr (· + ·) 0

/-- Every unit an import can name has as many ends of file as starts. -/
def ImportsBalanced (lib : Libdw) : Prop := ∀ off, (lib.getmacrosOff off).shift = 0

/-! ## One macro, then a unit -/

section Steps

variable {step : Int → MacroEntry → Out Stop Int}

theorem eachEntry_level (hstep : ∀ l e l', (step l e).res = .ok l' → l' = l + levelStep e) :
    ∀ {es : List MacroEntry} {level level' : Int}, (eachEntry step es level).res = .ok level' →
      level' = level + (es.map levelStep).foldr (· + ·) 0
  | [], _, _, h => by simpa [eachEntry, eq_comm] using h
  | e :: es, level, _, h => by
    obtain ⟨l, hl, hrest⟩ := Out.res_ok_of_bind h
    rw [eachEntry_level hstep hrest, hstep _ _ _ hl, List.map_cons, List.foldr_cons]
    omega

/-- If each macro moves the level by its step, a unit run to its end moves it by its shift. -/
theorem forEntries_level (hstep : ∀ l e l', (step l e).res = .ok l' → l' = l + levelStep e)
    (unit : MacroUnit) {level level' : Int} (h : (forEntries step unit level).res = .ok level') :
    level' = level + unit.shift := by
  obtain ⟨l, hl, hend⟩ := Out.res_ok_of_bind h
  have hrest : l = level' := by cases herr : unit.error <;> simpa [herr] using hend
  rw [← hrest, eachEntry_level hstep hl, MacroUnit.shift]

end Steps

/-- Given an `include` that comes back to the level it starts from, a macro moves the level by
its step. -/
theorem macBody_level {inc : UInt64 → Int → Out Stop Int}
    (hinc : ∀ w l l', (inc w l).res = .ok l' → l' = l) {level level' : Int} {e : MacroEntry}
    (h : (macBody level e inc).res = .ok level') : level' = level + levelStep e := by
  unfold macBody at h
  unfold levelStep
  split at h <;> rename_i hc <;> simp only [hc]
  · -- `DW_MACRO_import`: the imported unit comes back to the level it starts from
    split at h
    · simp [Out.fail] at h
    · obtain ⟨_, -, hincl⟩ := Out.res_ok_of_bind h
      obtain ⟨l, hl, hend⟩ := Out.res_ok_of_bind hincl
      simp only [Out.print_bind, Out.pure_eq, Except.ok.injEq] at hend
      have := hinc _ _ _ hl
      omega
  all_goals (try split at h) <;> (simp [Out.fail] at h; try omega)

section Balanced

variable {lib : Libdw} (hbal : ImportsBalanced lib)
include hbal

/-- With balanced imports, a macro that returns moves the level by its step. -/
theorem mac_level : ∀ {fuel : Nat} {level level' : Int} {e : MacroEntry},
    (mac lib fuel level e).res = .ok level' → level' = level + levelStep e
  | 0, _, _, _, h => by simp [mac, Out.fail] at h
  | fuel + 1, _, _, _, h => by
    rw [mac_succ] at h
    exact macBody_level (fun w l l' hl => by
      simpa [hbal w] using forEntries_level (fun _ _ _ => mac_level) _ hl) h

theorem includeUnit_level {fuel : Nat} {w : UInt64} {level level' : Int}
    (h : (includeUnit lib fuel w level).res = .ok level') : level' = level := by
  simpa [hbal w] using forEntries_level (fun _ _ _ => mac_level hbal) _ h

end Balanced

theorem chainLib_balanced : ImportsBalanced chainLib := by
  intro off
  simp only [chainLib]
  split <;> rfl

/-- With balanced imports, an import that returns prints the imported unit between an `include`
line and a `/include` line indented alike, and comes back to its level. -/
theorem mac_import_aligned (lib : Libdw) (hbal : ImportsBalanced lib) (fuel : Nat) (level : Int)
    (e : MacroEntry) (w : UInt64) (himport : macroCase e.opcode = some .importUnit)
    (hw : e.param0 = some w) (l : Int) (hinc : (includeUnit lib fuel w (level + 1)).res = .ok l) :
    mac lib (fuel + 1) level e =
      ⟨(indent level ++ "include " ++ hexAlt w.toNat ++ "\n") ::
          ((includeUnit lib fuel w (level + 1)).out ++ [indent level ++ "/include\n"]),
        .ok level⟩ := by
  have hl : l - 1 = level := by rw [includeUnit_level hbal hinc]; omega
  rcases hrun : includeUnit lib fuel w (level + 1) with ⟨out, res⟩
  rw [hrun] at hinc
  subst hinc
  simp [mac_succ, macBody, himport, hw, hrun, hl]

theorem chainLib_import_aligned :
    mac chainLib 2 0 (importEntry 0x10) = ⟨["include 0x10\n", " X 1\n", "/include\n"], .ok 0⟩ :=
  mac_import_aligned chainLib chainLib_balanced 1 0 (importEntry 0x10) 0x10 rfl rfl 1 rfl

/-- With balanced imports, the macros of a unit DIE run to their end shift the level by that
unit's own starts of file less its ends. -/
theorem getmacros_level (lib : Libdw) (hbal : ImportsBalanced lib) (fuel : Nat) (die : Die)
    (newStyle : Bool) (level level' : Int)
    (h : (getmacros lib fuel die newStyle level).res = .ok level') :
    level' = level + (lib.getmacros die newStyle).shift :=
  forEntries_level (fun _ _ _ => mac_level hbal) _ h

/-- `DW_MACRO_start_file` of the file at index `0` of a line table that holds `a.c`. -/
def startFileEntry : MacroEntry := ⟨0x03, none, some (.inl 0), .ok ["a.c"], none⟩

/-- `DW_MACRO_end_file`. -/
def endFileEntry : MacroEntry := ⟨0x04, none, none, .ok ["a.c"], none⟩

/-- A file whose unit DIEs start a file they never end and import the unit at `0x10`, which
starts a file, defines `X 1` and ends the file. -/
def fileLib : Libdw where
  getmacrosOff off := if off = 0x10 then ⟨[startFileEntry, defineEntry "X 1", endFileEntry], none⟩
    else ⟨[], none⟩
  getmacros _ _ := ⟨[startFileEntry, importEntry 0x10], none⟩
  hasattr _ a := a = dwAtMacros
  diename _ := some "a.c"

theorem fileLib_balanced : ImportsBalanced fileLib := by
  intro off
  simp only [fileLib]
  split <;> rfl

theorem fileLib_level :
    getmacros fileLib 2 ⟨0⟩ true 0 = ⟨["file a.c\n", " include 0x10\n", "  file a.c\n",
      "   X 1\n", "  /file\n", " /include\n"], .ok 1⟩ ∧
      (1 : Int) = 0 + (fileLib.getmacros ⟨0⟩ true).shift :=
  ⟨rfl, getmacros_level fileLib fileLib_balanced 2 ⟨0⟩ true 0 1 rfl⟩

/-! ## The loop over the units -/

/-- The units `main` reads the macros of: those whose DIE has macro information. -/
def walkedUnits (lib : Libdw) (units : List UnitInfo) : List UnitInfo :=
  units.filter fun u =>
    lib.hasattr u.die dwAtMacroInfo || lib.hasattr u.die dwAtGnuMacros ||
      lib.hasattr u.die dwAtMacros

/-- The starts of file less the ends of file of the units `main` reads the macros of. -/
def unitsShift (lib : Libdw) (newStyle : Bool) (units : List UnitInfo) : Int :=
  ((walkedUnits lib units).map fun u => (lib.getmacros u.die newStyle).shift).foldr (· + ·) 0

/-- The loop over the units, split anywhere: the units after run from the level the units before
leave. -/
theorem allUnits_append (lib : Libdw) (fuel : Nat) (newStyle : Bool) :
    ∀ (pre post : List UnitInfo) (level : Int),
      allUnits lib fuel newStyle (pre ++ post) level =
        allUnits lib fuel newStyle pre level >>= allUnits lib fuel newStyle post
  | [], _, _ => rfl
  | u :: pre, post, level => by
    have ih := allUnits_append lib fuel newStyle pre post
    simp only [List.cons_append, allUnits, List.append_eq] at ih ⊢
    split
    · exact ih level
    · simp only [Out.bind_assoc, ih]

/-- With balanced imports, the loop over the units, run to its end, shifts the level by the starts
of file less the ends of the units it reads the macros of. -/
theorem allUnits_level (lib : Libdw) (hbal : ImportsBalanced lib) (fuel : Nat) (newStyle : Bool) :
    ∀ (units : List UnitInfo) (level level' : Int),
      (allUnits lib fuel newStyle units level).res = .ok level' →
        level' = level + unitsShift lib newStyle units
  | [], _, _, h => by simpa [allUnits, unitsShift, walkedUnits, eq_comm] using h
  | u :: us, level, level', h => by
    unfold allUnits at h
    split at h
    · rename_i hskip
      rw [← Bool.not_or, ← Bool.not_or, Bool.not_eq_true'] at hskip
      rw [allUnits_level lib hbal fuel newStyle us level level' h]
      simp [unitsShift, walkedUnits, List.filter_cons, hskip]
    · rename_i hwalk
      obtain ⟨_, -, h⟩ := Out.res_ok_of_bind h
      obtain ⟨l, hl, h⟩ := Out.res_ok_of_bind h
      have hu : (lib.hasattr u.die dwAtMacroInfo || lib.hasattr u.die dwAtGnuMacros ||
          lib.hasattr u.die dwAtMacros) = true := by
        rwa [← Bool.not_or, ← Bool.not_or, Bool.not_eq_true', Bool.not_eq_false] at hwalk
      rw [allUnits_level lib hbal fuel newStyle us l level' h,
        getmacros_level lib hbal fuel u.die newStyle level l hl]
      simp only [unitsShift, walkedUnits, List.filter_cons, hu, if_true, List.map_cons,
        List.foldr_cons]
      omega

/-- With balanced imports, `main`'s loop over the units passes the level on: after any units that
run to their end, the units that follow print from the start level plus the starts of file less
the ends of the units before that have macro information. So a unit that leaves a file open
indents everything printed after it one level deeper, the macros of later units included. -/
theorem allUnits_indents_later (lib : Libdw) (hbal : ImportsBalanced lib) (fuel : Nat)
    (newStyle : Bool) (pre post : List UnitInfo) (level l : Int)
    (hpre : (allUnits lib fuel newStyle pre level).res = .ok l) :
    allUnits lib fuel newStyle (pre ++ post) level =
      ⟨(allUnits lib fuel newStyle pre level).out ++
          (allUnits lib fuel newStyle post (level + unitsShift lib newStyle pre)).out,
        (allUnits lib fuel newStyle post (level + unitsShift lib newStyle pre)).res⟩ := by
  rw [allUnits_append, ← allUnits_level lib hbal fuel newStyle pre level l hpre]
  rcases hrun : allUnits lib fuel newStyle pre level with ⟨out, res⟩
  rw [hrun] at hpre
  subst hpre
  rfl

/-- A unit of `fileLib`, whose DIE has `DW_AT_macros`. -/
def fileUnit : UnitInfo := ⟨0x01, ⟨0⟩, ⟨0⟩⟩

theorem fileLib_indents_later :
    ImportsBalanced fileLib ∧ (allUnits fileLib 2 true [fileUnit] 0).res = .ok 1 ∧
      allUnits fileLib 2 true ([fileUnit] ++ [fileUnit]) 0 =
        ⟨(allUnits fileLib 2 true [fileUnit] 0).out ++
            (allUnits fileLib 2 true [fileUnit] (0 + unitsShift fileLib true [fileUnit])).out,
          (allUnits fileLib 2 true [fileUnit] (0 + unitsShift fileLib true [fileUnit])).res⟩ :=
  ⟨fileLib_balanced, rfl,
    allUnits_indents_later fileLib fileLib_balanced 2 true [fileUnit] [fileUnit] 0 1 rfl⟩

-- The second unit prints one level deeper, for the first left its file open.
example : (allUnits fileLib 2 true [fileUnit, fileUnit] 0).out =
    ["CU a.c\n", "file a.c\n", " include 0x10\n", "  file a.c\n", "   X 1\n", "  /file\n",
      " /include\n", "CU a.c\n", " file a.c\n", "  include 0x10\n", "   file a.c\n",
      "    X 1\n", "   /file\n", "  /include\n"] := rfl

end Elfutils.Getmacros
