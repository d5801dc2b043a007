import Elfutils.Varlocs.Stops

/-!
# When `varlocs` walks no unit

`main` walks a unit when its DIE, the split unit's for a skeleton, is a compile unit and, unless
with `--exprlocs`, has a low pc ("Only walk actual compile units (not partial units) that contain
code if we are only interested in the function variable locations"); after the last unit it
stops with "No DWARF CU found?" if it walked none. No other stop of the program has that text, so
`varlocs` stops with it exactly when libdw gives every unit and `main` walks none of them, and
then it has printed nothing (`main_no_cu_iff`).
-/

set_option autoImplicit false

namespace Elfutils.Varlocs

/-- Whether `main` walks a unit DIE: a compile unit that, unless with `--exprlocs`, has a low
pc. -/
def UnitDie.walked (exprlocs : Bool) (cudie : UnitDie) : Bool :=
  cudie.node.info.tag == dwTagCompileUnit && (exprlocs || cudie.hasLowpc)

/-- libdw gives the unit, and `main` does not walk its DIE, the split unit's for a skeleton. -/
def UnitData.passedOver (exprlocs : Bool) (u : UnitData) : Bool :=
  match u.cuInfo with
  | .ok (unitType, cudie, subdie) =>
    !(if unitType = Elfutils.Libdw.dwUtSkeleton then subdie else cudie).walked exprlocs
  | .error _ => false

theorem foreign_noCu (lib : Libdw) : Foreign lib "No DWARF CU found?" :=
  .of_last (by decide) (by decide) (by decide) (by decide)

section Loop

variable (g : Globals) (lib : Libdw) (w : Walk) (fuel : Nat) (exprlocs : Bool)

/-- The loop passes over units it does not walk, printing nothing. -/
theorem nextcu_of_passedOver : ∀ units foundCu, (∀ u ∈ units, u.passedOver exprlocs = true) →
    nextcu g lib w fuel exprlocs units foundCu = nextcu g lib w fuel exprlocs [] foundCu
  | [], _, _ => rfl
  | u :: us, foundCu, hpass => by
    have hu := hpass u (List.mem_cons_self _ _)
    unfold UnitData.passedOver at hu
    rw [← nextcu_of_passedOver us foundCu fun u' hu' => hpass u' (List.mem_cons_of_mem _ hu')]
    rcases hcu : u.cuInfo with msg | ⟨unitType, cudie, subdie⟩ <;> rw [hcu] at hu
    · simp at hu
    · simp only [UnitDie.walked, Bool.not_eq_true', Bool.and_eq_false_iff, beq_eq_false_iff_ne,
        Bool.or_eq_false_iff] at hu
      simp only [nextcu, hcu, checkCall, Out.pure_eq, Out.bind_ok, List.nil_append]
      rw [if_neg (by rcases hu with hu | ⟨hex, hlow⟩ <;> simp_all)]

/-- The loop stops with "No DWARF CU found?" exactly when it has walked no unit before and walks
none of the units left. -/
theorem nextcu_noCu_iff : ∀ units foundCu,
    (nextcu g lib w fuel exprlocs units foundCu).res =
        .error (.failed (.error "No DWARF CU found?")) ↔
      foundCu = false ∧ ∀ u ∈ units, u.passedOver exprlocs = true
  | [], foundCu => by cases foundCu <;> simp [nextcu, failWith, Out.fail]
  | u :: us, foundCu => by
    rcases hcu : u.cuInfo with msg | ⟨unitType, cudie, subdie⟩
    · -- libdw cannot give the unit
      have hne := (foreign_noCu lib).append_ne msg (x := "dwarf_cu_info: ") (by decide)
      simp [nextcu, hcu, checkCall, failWith, Out.fail, UnitData.passedOver, hne]
    · -- the unit DIE walked, the split unit's for a skeleton
      have hpass : u.passedOver exprlocs =
          !(if unitType = Elfutils.Libdw.dwUtSkeleton then subdie else cudie).walked exprlocs := by
        simp [UnitData.passedOver, hcu]
      simp only [nextcu, hcu, checkCall, Out.pure_eq, Out.bind_ok, List.nil_append,
        List.forall_mem_cons, hpass]
      generalize (if unitType = Elfutils.Libdw.dwUtSkeleton then subdie else cudie) = d
      by_cases hw : d.walked exprlocs = true
      · have hcond : d.node.info.tag = dwTagCompileUnit ∧ (exprlocs = true ∨ d.hasLowpc = true) :=
          by simpa [UnitDie.walked] using hw
        rw [if_pos hcond, hw]
        refine iff_of_false (Out.bind_res_ne ((foreign_noCu lib).handleUnit_res_ne w fuel g
          (.inr (by decide)) exprlocs u.module d (.inr (.inr (by decide)))) fun _ => ?_) (by simp)
        rw [Ne, nextcu_noCu_iff us true]
        simp
      · have hcond : ¬(d.node.info.tag = dwTagCompileUnit ∧
            (exprlocs = true ∨ d.hasLowpc = true)) := by simpa [UnitDie.walked] using hw
        rw [if_neg hcond, nextcu_noCu_iff us foundCu]
        simp [hw]

end Loop

/-- `varlocs` stops with "No DWARF CU found?" if and only if it has printed nothing, libdw gives
every unit, and `main` walks none of their DIEs, the split unit's for a skeleton: none is a
compile unit that, unless with `--exprlocs`, has a low pc. -/
theorem main_no_cu_iff (lib : Libdw) (w : Walk) (fuel : Nat) (args : List String)
    (units : List UnitData) :
    (main lib w fuel args units).res = .error (.failed (.error "No DWARF CU found?")) ↔
      (main lib w fuel args units).out = [] ∧
        ∀ u ∈ units, u.passedOver (mainOptions args).1 = true := by
  unfold main
  cases mainOptions args with
  | mk exprlocs isDebug =>
    dsimp only
    rw [nextcu_noCu_iff]
    constructor
    · rintro ⟨-, hpass⟩
      refine ⟨?_, hpass⟩
      rw [nextcu_of_passedOver _ _ _ _ _ _ _ hpass]
      rfl
    · exact fun ⟨_, hpass⟩ => ⟨rfl, hpass⟩

/-- A unit of `a.out` whose compile unit has no code: its DIE has no low pc. -/
def noCodeUnit : UnitData where
  cuInfo := .ok (0x01, cu, cu)
  module := ⟨true, .ok ("a.out", "a.out"), none, 0, none, 0, false⟩
where
  cu : UnitDie := ⟨⟨⟨0x0b, dwTagCompileUnit, some "a.c", .error "no entry pc"⟩, none, false, [],
    none⟩, .leaf, false, [], none⟩

-- The function walk passes over a compile unit without code, the `--exprlocs` walk does not.
example (lib : Libdw) (w : Walk) :
    (main lib w 66 ["a.out"] [noCodeUnit]).res = .error (.failed (.error "No DWARF CU found?")) ∧
      (main lib w 66 ["--exprlocs", "a.out"] [noCodeUnit]).res = .ok () := ⟨rfl, rfl⟩

end Elfutils.Varlocs
