import Elfutils.Getmacros.Mac

/-!
# Imports of macro units

Nothing in `mac` or `include` bounds how deep they nest: the imports of the macro units alone
decide it. When the imports have no cycle, that is, when some rank of the units goes down at
every import, the whole test terminates, and more fuel changes nothing (`allUnits_terminates`).
When a unit's first macro imports the unit itself, no fuel is enough: the run prints one
`include` line per level, each indented one space deeper, and never returns
(`includeUnit_self_import`); the program recurses until its stack runs out.
-/

set_option autoImplicit false

namespace Elfutils.Getmacros

/-! ## The loops, over the activations of `mac` -/

section Loops

variable {p q : Int → MacroEntry → Out Stop Int} {s : Stop}

theorem eachEntry_congr (hpq : ∀ l e, (p l e).res ≠ .error s → q l e = p l e) :
    ∀ (es : List MacroEntry) (level : Int), (eachEntry p es level).res ≠ .error s →
      eachEntry q es level = eachEntry p es level
  | [], _, _ => rfl
  | e :: es, level, h => by
    simp only [eachEntry] at h ⊢
    rw [hpq level e (Out.res_ne_of_bind h)]
    exact Out.bind_congr_of_ne h fun l hl => eachEntry_congr hpq es l hl

theorem forEntries_congr (hpq : ∀ l e, (p l e).res ≠ .error s → q l e = p l e) (unit : MacroUnit)
    (level : Int) (h : (forEntries p unit level).res ≠ .error s) :
    forEntries q unit level = forEntries p unit level := by
  unfold forEntries at h ⊢
  rw [eachEntry_congr hpq _ _ (Out.res_ne_of_bind h)]

theorem eachEntry_res_ne : ∀ {es : List MacroEntry}, (∀ l, ∀ e ∈ es, (p l e).res ≠ .error s) →
    ∀ level, (eachEntry p es level).res ≠ .error s
  | [], _, _ => by simp [eachEntry]
  | e :: _, hp, level => Out.bind_res_ne (hp level e (List.mem_cons_self _ _)) fun l =>
      eachEntry_res_ne (fun l e' he' => hp l e' (List.mem_cons_of_mem _ he')) l

theorem forEntries_res_ne {unit : MacroUnit} (hp : ∀ l, ∀ e ∈ unit.entries, (p l e).res ≠ .error s)
    (level : Int) : (forEntries p unit level).res ≠ .error s :=
  Out.bind_res_ne (eachEntry_res_ne hp level) fun _ => by split <;> simp [Out.print]

end Loops

/-! ## One activation of `mac` -/

/-- The unit an import names: the one activation `mac` nests. -/
theorem macBody_congr {inc₁ inc₂ : UInt64 → Int → Out Stop Int} {level : Int} {e : MacroEntry}
    {s : Stop} (hinc : ∀ w l, (inc₁ w l).res ≠ .error s → inc₂ w l = inc₁ w l)
    (h : (macBody level e inc₁).res ≠ .error s) : macBody level e inc₂ = macBody level e inc₁ := by
  unfold macBody at h ⊢
  cases hc : macroCase e.opcode with
  | none => rfl
  | some c =>
    cases c
    case importUnit =>
      cases hw : e.param0 with
      | none => rfl
      | some w =>
        simp only [hc, hw] at h ⊢
        exact Out.bind_congr_of_ne h fun _ h₁ => by rw [hinc _ _ (Out.res_ne_of_bind h₁)]
    all_goals rfl

/-- `mac` runs out of fuel only inside the unit an import names. -/
theorem macBody_res_ne_exhausted {inc : UInt64 → Int → Out Stop Int} {level : Int}
    {e : MacroEntry} (hinc : macroCase e.opcode = some .importUnit → ∀ w, e.param0 = some w →
      ∀ l, (inc w l).res ≠ .error .exhausted) :
    (macBody level e inc).res ≠ .error .exhausted := by
  unfold macBody
  cases hc : macroCase e.opcode with
  | none => cases e.paramcnt <;> simp [Out.fail]
  | some c =>
    cases c with
    | importUnit =>
      cases hw : e.param0 with
      | none => simp [Out.fail]
      | some w =>
        simp only [Out.print_bind]
        exact Out.bind_res_ne (hinc hc w hw _) fun _ => by simp
    | startFile => cases e.srcfiles <;> simp [Out.fail]
    | endFile => simp
    | define => rcases e.param2 with _ | _ | _ <;> simp [Out.fail]
    | undef => simp

@[simp] theorem mac_zero (lib : Libdw) (level : Int) (e : MacroEntry) :
    mac lib 0 level e = Out.fail .exhausted := rfl

theorem mac_succ (lib : Libdw) (fuel : Nat) (level : Int) (e : MacroEntry) :
    mac lib (fuel + 1) level e = macBody level e fun w l => includeUnit lib fuel w l := rfl

/-! ## Fuel -/

section Fuel

variable (lib : Libdw)

/-- Once `mac` returns, or stops for a reason of the program, more fuel changes nothing. -/
theorem mac_succ_of_ne : ∀ fuel level e, (mac lib fuel level e).res ≠ .error .exhausted →
    mac lib (fuel + 1) level e = mac lib fuel level e
  | 0, _, _, h => absurd rfl h
  | fuel + 1, level, e, h => by
    simp only [mac_succ] at h ⊢
    exact macBody_congr (fun w l hl => forEntries_congr (mac_succ_of_ne fuel) _ _ hl) h

theorem getmacros_succ_of_ne {fuel : Nat} {die : Die} {newStyle : Bool} {level : Int}
    (h : (getmacros lib fuel die newStyle level).res ≠ .error .exhausted) :
    getmacros lib (fuel + 1) die newStyle level = getmacros lib fuel die newStyle level :=
  forEntries_congr (mac_succ_of_ne lib fuel) _ _ h

theorem allUnits_succ_of_ne (fuel : Nat) (newStyle : Bool) :
    ∀ (units : List UnitInfo) (level : Int),
      (allUnits lib fuel newStyle units level).res ≠ .error .exhausted →
      allUnits lib (fuel + 1) newStyle units level = allUnits lib fuel newStyle units level
  | [], _, _ => rfl
  | u :: us, level, h => by
    by_cases hno : (!lib.hasattr u.die dwAtMacroInfo && !lib.hasattr u.die dwAtGnuMacros &&
        !lib.hasattr u.die dwAtMacros) = true
    · simp only [allUnits, hno, if_true] at h ⊢
      exact allUnits_succ_of_ne fuel newStyle us level h
    · simp only [allUnits, hno, if_false] at h ⊢
      exact Out.bind_congr_of_ne h fun _ h₁ => by
        rw [getmacros_succ_of_ne lib (Out.res_ne_of_bind h₁)]
        exact Out.bind_congr_of_ne h₁ fun l hl => allUnits_succ_of_ne fuel newStyle us l hl

theorem main_succ_of_ne {fuel : Nat} {offdie : String → Except String Die}
    {units : List UnitInfo} {args : List String}
    (h : (main lib fuel offdie units args).res ≠ .error .exhausted) :
    main lib (fuel + 1) offdie units args = main lib fuel offdie units args := by
  match args, h with
  | _ :: unitArg :: rest, h =>
    simp only [main] at h ⊢
    cases hu : unitArg.isEmpty
    · cases hoff : offdie unitArg with
      | ok cudie =>
        simp only [hu, hoff, Bool.false_eq_true, if_false] at h ⊢
        rw [getmacros_succ_of_ne lib (Out.res_ne_of_bind h)]
      | error _ => simp only [hu, hoff, Bool.false_eq_true, if_false]
    · simp only [hu, if_true] at h ⊢
      rw [allUnits_succ_of_ne lib fuel _ units 0 (Out.res_ne_of_bind h)]
  | [], _ => rfl
  | [_], _ => rfl

end Fuel

/-! ## Imports without a cycle -/

/-- `e` imports, if anything, a unit of rank below `bound`. -/
def ImportsBelow (rank : UInt64 → Nat) (bound : Nat) (e : MacroEntry) : Prop :=
  macroCase e.opcode = some .importUnit → ∀ w, e.param0 = some w → rank w < bound

/-- Every import goes down in `rank`: the imports of the macro units have no cycle. -/
def ImportsRanked (lib : Libdw) (rank : UInt64 → Nat) : Prop :=
  ∀ off, ∀ e ∈ (lib.getmacrosOff off).entries, ImportsBelow rank (rank off) e

section Ranked

variable {lib : Libdw} {rank : UInt64 → Nat}

/-- With more fuel than the rank of a unit, `include` does not run out. -/
theorem includeUnit_res_ne_exhausted (hranked : ImportsRanked lib rank) :
    ∀ fuel off level, rank off < fuel → (includeUnit lib fuel off level).res ≠ .error .exhausted
  | 0, _, _, h => absurd h (Nat.not_lt_zero _)
  | fuel + 1, off, level, h =>
    forEntries_res_ne (fun _ e he => macBody_res_ne_exhausted fun hc w hw l =>
      includeUnit_res_ne_exhausted hranked fuel w l
        (Nat.lt_of_lt_of_le (hranked off e he hc w hw) (Nat.le_of_lt_succ h))) level

theorem mac_res_ne_exhausted (hranked : ImportsRanked lib rank) {fuel : Nat} {e : MacroEntry}
    (he : ImportsBelow rank fuel e) (level : Int) :
    (mac lib (fuel + 1) level e).res ≠ .error .exhausted :=
  macBody_res_ne_exhausted fun hc w hw l =>
    includeUnit_res_ne_exhausted hranked fuel w l (he hc w hw)

theorem getmacros_res_ne_exhausted (hranked : ImportsRanked lib rank) {bound : Nat}
    (hunits : ∀ die newStyle, ∀ e ∈ (lib.getmacros die newStyle).entries,
      ImportsBelow rank bound e) (die : Die) (newStyle : Bool) (level : Int) :
    (getmacros lib (bound + 1) die newStyle level).res ≠ .error .exhausted :=
  forEntries_res_ne (fun l e he => mac_res_ne_exhausted hranked (hunits _ _ e he) l) level

theorem allUnits_res_ne_exhausted (hranked : ImportsRanked lib rank) {bound : Nat}
    (hunits : ∀ die newStyle, ∀ e ∈ (lib.getmacros die newStyle).entries,
      ImportsBelow rank bound e) (newStyle : Bool) :
    ∀ units level, (allUnits lib (bound + 1) newStyle units level).res ≠ .error .exhausted
  | [], _ => by simp [allUnits]
  | u :: us, level => by
    unfold allUnits
    split
    · exact allUnits_res_ne_exhausted hranked hunits newStyle us level
    · exact Out.bind_res_ne (by simp [Out.print]) fun _ => Out.bind_res_ne
        (getmacros_res_ne_exhausted hranked hunits u.die newStyle level)
        fun l => allUnits_res_ne_exhausted hranked hunits newStyle us l

theorem main_res_ne_exhausted (hranked : ImportsRanked lib rank) {bound : Nat}
    (hunits : ∀ die newStyle, ∀ e ∈ (lib.getmacros die newStyle).entries,
      ImportsBelow rank bound e) (offdie : String → Except String Die) (units : List UnitInfo) :
    ∀ args, (main lib (bound + 1) offdie units args).res ≠ .error .exhausted
  | _ :: unitArg :: rest => by
    simp only [main]
    cases unitArg.isEmpty
    · cases offdie unitArg with
      | ok cudie =>
        exact Out.bind_res_ne (getmacros_res_ne_exhausted hranked hunits cudie _ 0) fun _ => by simp
      | error _ => simp
    · exact Out.bind_res_ne (allUnits_res_ne_exhausted hranked hunits _ units 0) fun _ => by simp
  | [] => by simp [main, Out.fail]
  | [_] => by simp [main, Out.fail]

end Ranked

/-- `DW_MACRO_import` of the unit at `off`. -/
def importEntry (off : UInt64) : MacroEntry := ⟨0x07, some off, none, .ok [], none⟩

/-- `DW_MACINFO_define` of `value`. -/
def defineEntry (value : String) : MacroEntry := ⟨0x01, none, some (.inr value), .ok [], none⟩

/-- A file whose unit DIEs have `DW_AT_macros` and import the unit at `0x10`, which defines
`X 1`. -/
def chainLib : Libdw where
  getmacrosOff off := if off = 0x10 then ⟨[defineEntry "X 1"], none⟩ else ⟨[], none⟩
  getmacros _ _ := ⟨[importEntry 0x10], none⟩
  hasattr _ a := a = dwAtMacros
  diename _ := some "a.c"

/-- The ranks of the units of `chainLib`: the imported unit below the others. -/
def chainRank (off : UInt64) : Nat := if off = 0x10 then 0 else 1

theorem chainLib_ranked : ImportsRanked chainLib chainRank := by
  intro off e he hc
  simp only [chainLib] at he
  split at he <;> simp [defineEntry] at he
  subst he
  exact absurd hc (by decide)

theorem chainLib_units_below :
    ∀ die newStyle, ∀ e ∈ (chainLib.getmacros die newStyle).entries, ImportsBelow chainRank 1 e := by
  intro _ _ e he _ w hw
  simp only [chainLib, List.mem_singleton] at he
  subst he
  cases hw
  decide

/-- When the imports of the macro units have no cycle, the test terminates. If every import goes
down in `rank`, and the macros of every unit DIE import units of rank below `bound`, the loop of
`main` over any units, from any level, does not run out with `bound + 1` nested activations of
`mac`, and more fuel changes nothing. -/
theorem allUnits_terminates (lib : Libdw) (rank : UInt64 → Nat) (bound : Nat)
    (hranked : ImportsRanked lib rank)
    (hunits : ∀ die newStyle, ∀ e ∈ (lib.getmacros die newStyle).entries,
      ImportsBelow rank bound e)
    (newStyle : Bool) (units : List UnitInfo) (level : Int) :
    (allUnits lib (bound + 1) newStyle units level).res ≠ .error .exhausted ∧
      ∀ more, allUnits lib (bound + 1 + more) newStyle units level =
        allUnits lib (bound + 1) newStyle units level :=
  have hdone := allUnits_res_ne_exhausted hranked hunits newStyle units level
  ⟨hdone, Out.fuel_stable (fun n h => allUnits_succ_of_ne lib n newStyle units level h) hdone⟩

theorem chainLib_terminates :
    (allUnits chainLib 2 true [⟨1, ⟨0⟩, ⟨0⟩⟩] 0).res ≠ .error .exhausted ∧
      allUnits chainLib 2 true [⟨1, ⟨0⟩, ⟨0⟩⟩] 0 =
        ⟨["CU a.c\n", "include 0x10\n", " X 1\n", "/include\n"], .ok 0⟩ :=
  ⟨(allUnits_terminates chainLib chainRank 1 chainLib_ranked chainLib_units_below true _ 0).1, rfl⟩

/-- When the imports of the macro units have no cycle, the test terminates on any arguments: on
every unit, or on the unit DIE at an offset, it does not run out with `bound + 1` nested
activations of `mac`, and more fuel changes nothing. -/
theorem main_terminates_of_ranked (lib : Libdw) (rank : UInt64 → Nat) (bound : Nat)
    (hranked : ImportsRanked lib rank)
    (hunits : ∀ die newStyle, ∀ e ∈ (lib.getmacros die newStyle).entries,
      ImportsBelow rank bound e)
    (offdie : String → Except String Die) (units : List UnitInfo) (args : List String) :
    (main lib (bound + 1) offdie units args).res ≠ .error .exhausted ∧
      ∀ more, main lib (bound + 1 + more) offdie units args =
        main lib (bound + 1) offdie units args :=
  have hdone := main_res_ne_exhausted hranked hunits offdie units args
  ⟨hdone, @Out.fuel_stable _ _ _ (fun fuel => main lib fuel offdie units args)
    (fun _ h => main_succ_of_ne lib h) _ hdone⟩

theorem chainLib_main_terminates :
    (main chainLib 2 (fun _ => .ok ⟨0⟩) [] ["a.o", "0xb", "new"]).res ≠ .error .exhausted ∧
      main chainLib 2 (fun _ => .ok ⟨0⟩) [] ["a.o", "0xb", "new"] =
        ⟨["include 0x10\n", " X 1\n", "/include\n"], .ok 0⟩ :=
  ⟨(main_terminates_of_ranked chainLib chainRank 1 chainLib_ranked chainLib_units_below _ [] _).1,
    rfl⟩

/-! ## A unit that imports itself -/

/-- A unit whose first macro imports the unit itself: with any fuel, from any level, `include`
prints `include` and the unit's offset once per level, each line one space deeper, and runs out.
No fuel is enough: the recursion of the program never returns. -/
theorem includeUnit_self_import (lib : Libdw) (off : UInt64) (e : MacroEntry)
    (rest : List MacroEntry) (error : Option String)
    (hunit : lib.getmacrosOff off = ⟨e :: rest, error⟩)
    (himport : macroCase e.opcode = some .importUnit) (hself : e.param0 = some off) (fuel : Nat)
    (level : Int) :
    includeUnit lib fuel off level =
      ⟨(List.range fuel).map fun k : Nat => indent (level + k) ++ "include " ++ hexAlt off.toNat ++
        "\n",
        .error .exhausted⟩ := by
  induction fuel generalizing level with
  | zero => simp [includeUnit, forEntries, eachEntry, hunit, Out.fail]
  | succ fuel ih =>
    have hmac : mac lib (fuel + 1) level e =
        ⟨(indent level ++ "include " ++ hexAlt off.toNat ++ "\n") ::
          (List.range fuel).map (fun k : Nat => indent (level + 1 + k) ++ "include " ++
            hexAlt off.toNat ++ "\n"), .error .exhausted⟩ := by
      rw [mac_succ]
      simp only [macBody, himport, hself, Out.print_bind]
      rw [ih (level + 1)]
      rfl
    have hshift : ∀ k : Nat, level + ((k : Int) + 1) = level + 1 + k := fun k => by omega
    simp [includeUnit, forEntries, eachEntry, hunit, hmac, List.range_succ_eq_map, hshift]

/-- A file whose every macro unit starts by importing the unit at `0x10`. -/
def selfImportLib : Libdw where
  getmacrosOff _ := ⟨[importEntry 0x10], none⟩
  getmacros _ _ := ⟨[importEntry 0x10], none⟩
  hasattr _ a := a = dwAtMacros
  diename _ := some "a.c"

theorem selfImportLib_runs_out :
    includeUnit selfImportLib 3 0x10 0 =
      ⟨["include 0x10\n", " include 0x10\n", "  include 0x10\n"], .error .exhausted⟩ :=
  (includeUnit_self_import selfImportLib 0x10 (importEntry 0x10) [] none rfl rfl rfl 3 0).trans rfl

end Elfutils.Getmacros
