import Elfutils.Libdw.FindSplitUnit

/-!
# Links over runs of the resolver

Two invariants of the unit records, each shown for the three heap operations a call can make
(`dwarfBegin`, `setSplit cu .null`, `link`) and then, through `findSplitUnit_cases`, for a whole
call and for every run of calls:

* `LinksKept h h'`: `h'` keeps every unit of `h` with the same header, and every link `h` has
  resolved (`findSplitUnit_linksKept`). A unit's link is set once, from `(Dwarf_CU *) -1`.
* `LinksMatched h`: every link is answered by a link back, between a skeleton and a split unit
  with the same `unit_id8` (`linksMatched_of_reachable`).

Neither speaks of containers: the scan can release a container and then link into it, which
`Elfutils.Libdw.Resources` shows. Such a link points into freed memory, so the result on links is
stated for the units of live containers only (`reachable_liveLinksMatched`).
-/

set_option autoImplicit false

namespace Elfutils.Libdw

/-! ## Facts about the heap operations -/

namespace Heap

/-- A fresh record of a parsed file has its link not tried yet. -/
theorem dwarfBegin_split_of_le (h : Heap) (f : File) {i : Nat} {c : Cu}
    (hc : (h.dwarfBegin f).cu i = some c) (hi : h.nextCu ≤ i) : c.split = .unresolved := by
  simp only [dwarfBegin, hi, if_true] at hc
  split at hc
  · cases hc; rfl
  · simp [h.cu_fresh i hi] at hc

theorem splitOf_dwarfBegin_of_lt (h : Heap) (f : File) {i : Nat} (hi : i < h.nextCu) :
    (h.dwarfBegin f).splitOf i = h.splitOf i := by
  rw [splitOf, h.dwarfBegin_cu_of_lt f hi, splitOf]

theorem splitOf_dwarfBegin_fresh (h : Heap) (f : File) {s : Nat} (hs : s ∈ h.freshUnits f) :
    (h.dwarfBegin f).splitOf s = .unresolved := by
  cases hd : (h.dwarfBegin f).cu s with
  | none => simp [splitOf, hd]
  | some d => rw [splitOf_of_cu hd, h.dwarfBegin_split_of_le f hd ((h.mem_freshUnits f).mp hs).1]

end Heap

/-! ## Links are set once -/

/-- `h'` keeps every unit record of `h` but its link, and every link of `h` that is resolved. -/
def LinksKept (h h' : Heap) : Prop :=
  ∀ u c, h.cu u = some c →
    ∃ v, h'.cu u = some { c with split := v } ∧ (c.split ≠ .unresolved → v = c.split)

namespace LinksKept

theorem refl (h : Heap) : LinksKept h h :=
  fun _ c hc => ⟨c.split, by simpa using hc, fun _ => rfl⟩

theorem trans {h₁ h₂ h₃ : Heap} (h12 : LinksKept h₁ h₂) (h23 : LinksKept h₂ h₃) :
    LinksKept h₁ h₃ := by
  intro u c hc
  obtain ⟨v, hv, hres⟩ := h12 u c hc
  obtain ⟨w, hw, hres'⟩ := h23 u _ hv
  refine ⟨w, by simpa using hw, fun hc' => ?_⟩
  rw [hres' (by simpa [hres hc'] using hc'), hres hc']

theorem of_cu_eq {h h₁ h₂ : Heap} (hk : LinksKept h h₁) (hcu : h₁.cu = h₂.cu) :
    LinksKept h h₂ := by
  intro u c hc
  rw [← hcu]
  exact hk u c hc

theorem dwarfBegin (h : Heap) (f : File) : LinksKept h (h.dwarfBegin f) :=
  fun u c hc => ⟨c.split, by simpa [h.dwarfBegin_cu_of_lt f (h.lt_nextCu_of_cu_eq_some hc)] using hc,
    fun _ => rfl⟩

theorem setSplit (h : Heap) {u : Nat} (hu : h.splitOf u = .unresolved) (v : Split) :
    LinksKept h (h.setSplit u v) := by
  intro w c hc
  by_cases hw : w = u
  · subst hw
    refine ⟨v, by simp [hc], fun hne => absurd ?_ hne⟩
    simpa [Heap.splitOf_of_cu hc] using hu
  · exact ⟨c.split, by simpa [Heap.setSplit_cu_of_ne h v hw] using hc, fun _ => rfl⟩

theorem link (h : Heap) {a b : Nat} (hab : a ≠ b) (ha : h.splitOf a = .unresolved)
    (hb : h.splitOf b = .unresolved) : LinksKept h (h.link a b) := by
  refine (setSplit h ha _).trans (setSplit _ ?_ _)
  rwa [Heap.splitOf, Heap.setSplit_cu_of_ne _ _ (Ne.symm hab)]

end LinksKept

/-- A call keeps every unit record and every resolved link. -/
theorem findSplitUnit_linksKept (env : Env) (cu : Nat) (h : Heap) :
    LinksKept h (findSplitUnit env cu h).2.1 := by
  rcases findSplitUnit_eq_or_unresolved env cu h with heq | ⟨c, hc, hu⟩
  · rw [heq]; exact LinksKept.refl h
  have hcases := findSplitUnit_cases env hc hu
  have hcu : h.splitOf cu = .unresolved := by rw [Heap.splitOf_of_cu hc, hu]
  have hlt := h.lt_nextCu_of_cu_eq_some hc
  rcases hcases with ⟨hcu', -, -⟩ | ⟨f, ⟨hcu', -, -⟩ | ⟨s, hs, -, -, hcu', -, -⟩⟩
  · exact (LinksKept.setSplit h hcu _).of_cu_eq hcu'.symm
  · have hb := (h.splitOf_dwarfBegin_of_lt f hlt).trans hcu
    exact ((LinksKept.dwarfBegin h f).trans (LinksKept.setSplit _ hb _)).of_cu_eq hcu'.symm
  · have hb := (h.splitOf_dwarfBegin_of_lt f hlt).trans hcu
    have hne : cu ≠ s := by have := ((h.mem_freshUnits f).mp hs).1; omega
    exact ((LinksKept.dwarfBegin h f).trans
      (LinksKept.link _ hne hb (h.splitOf_dwarfBegin_fresh f hs))).of_cu_eq hcu'.symm

/-! ## Links are matched -/

/-- Two records that may link: a skeleton and a split unit, in either order, with the same
`unit_id8`. -/
def Counterparts (c d : Cu) : Prop :=
  c.unitId8 = d.unitId8 ∧
    (c.unitType = dwUtSkeleton ∧ d.unitType = dwUtSplitCompile ∨
      c.unitType = dwUtSplitCompile ∧ d.unitType = dwUtSkeleton)

theorem Counterparts.symm {c d : Cu} (h : Counterparts c d) : Counterparts d c :=
  ⟨h.1.symm, h.2.symm.imp And.symm And.symm⟩

/-- Every link is answered by a link back, from a counterpart. -/
def LinksMatched (h : Heap) : Prop :=
  ∀ u c v, h.cu u = some c → c.split = .unit v →
    ∃ d, h.cu v = some d ∧ d.split = .unit u ∧ Counterparts c d

namespace LinksMatched

theorem of_cu_eq {h₁ h₂ : Heap} (hm : LinksMatched h₁) (hcu : h₁.cu = h₂.cu) : LinksMatched h₂ := by
  intro u c v hc hv
  rw [← hcu] at hc ⊢
  exact hm u c v hc hv

/-- A unit with a link back to it has a resolved link. -/
theorem target_resolved {h : Heap} (hm : LinksMatched h) {u v : Nat} {c : Cu}
    (hc : h.cu u = some c) (hv : c.split = .unit v) : h.splitOf v ≠ .unresolved := by
  obtain ⟨d, hd, hdu, -⟩ := hm u c v hc hv
  simp [Heap.splitOf_of_cu hd, hdu]

theorem dwarfBegin {h : Heap} (hm : LinksMatched h) (f : File) : LinksMatched (h.dwarfBegin f) := by
  intro u c v hc hv
  by_cases hu : u < h.nextCu
  · rw [h.dwarfBegin_cu_of_lt f hu] at hc
    obtain ⟨d, hd, hdu, hcd⟩ := hm u c v hc hv
    exact ⟨d, (h.dwarfBegin_cu_of_lt f (h.lt_nextCu_of_cu_eq_some hd)).trans hd, hdu, hcd⟩
  · simp [h.dwarfBegin_split_of_le f hc (Nat.le_of_not_lt hu)] at hv

theorem setSplit_null {h : Heap} (hm : LinksMatched h) {u : Nat}
    (hu : h.splitOf u = .unresolved) : LinksMatched (h.setSplit u .null) := by
  intro w c v hc hv
  by_cases hw : w = u
  · subst hw
    simp only [Heap.setSplit_cu_self, Option.map_eq_some'] at hc
    obtain ⟨c₀, -, rfl⟩ := hc
    cases hv
  · rw [Heap.setSplit_cu_of_ne h _ hw] at hc
    have hvu : v ≠ u := fun hvu => hm.target_resolved hc hv (hvu ▸ hu)
    obtain ⟨d, hd, hdu, hcd⟩ := hm w c v hc hv
    exact ⟨d, by rwa [Heap.setSplit_cu_of_ne h _ hvu], hdu, hcd⟩

theorem link {h : Heap} (hm : LinksMatched h) {a b : Nat} {ca cb : Cu} (hab : a ≠ b)
    (ha : h.cu a = some ca) (hb : h.cu b = some cb) (hua : ca.split = .unresolved)
    (hub : cb.split = .unresolved) (hcp : Counterparts ca cb) : LinksMatched (h.link a b) := by
  have hla : (h.link a b).cu a = some { ca with split := .unit b } := by
    rw [Heap.link, Heap.setSplit_cu_of_ne _ _ hab]; simp [ha]
  have hlb : (h.link a b).cu b = some { cb with split := .unit a } := by
    rw [Heap.link]; simp [Heap.setSplit_cu_of_ne h _ (Ne.symm hab), hb]
  intro w c v hc hv
  by_cases hwa : w = a
  · subst hwa
    rw [hla] at hc
    cases hc
    cases hv
    exact ⟨_, hlb, rfl, hcp⟩
  by_cases hwb : w = b
  · subst hwb
    rw [hlb] at hc
    cases hc
    cases hv
    exact ⟨_, hla, rfl, hcp.symm⟩
  have hcw : h.cu w = some c := by
    rwa [Heap.link, Heap.setSplit_cu_of_ne _ _ hwb, Heap.setSplit_cu_of_ne _ _ hwa] at hc
  obtain ⟨d, hd, hdu, hcd⟩ := hm w c v hcw hv
  have hva : v ≠ a := by rintro rfl; simp [ha, hua] at hd; rw [← hd] at hdu; simp [hua] at hdu
  have hvb : v ≠ b := by rintro rfl; simp [hb, hub] at hd; rw [← hd] at hdu; simp [hub] at hdu
  refine ⟨d, ?_, hdu, hcd⟩
  rwa [Heap.link, Heap.setSplit_cu_of_ne _ _ hvb, Heap.setSplit_cu_of_ne _ _ hva]

end LinksMatched

/-- A call keeps the links matched. -/
theorem findSplitUnit_linksMatched (env : Env) (cu : Nat) {h : Heap} (hm : LinksMatched h) :
    LinksMatched (findSplitUnit env cu h).2.1 := by
  rcases findSplitUnit_eq_or_unresolved env cu h with heq | ⟨c, hc, hu⟩
  · rwa [heq]
  have hcases := findSplitUnit_cases env hc hu
  have hcu : h.splitOf cu = .unresolved := by rw [Heap.splitOf_of_cu hc, hu]
  have hlt := h.lt_nextCu_of_cu_eq_some hc
  rcases hcases with ⟨hcu', -, -⟩ | ⟨f, ⟨hcu', -, -⟩ | ⟨s, hs, hskel, hmatch, hcu', -, -⟩⟩
  · exact (hm.setSplit_null hcu).of_cu_eq hcu'.symm
  · exact ((hm.dwarfBegin f).setSplit_null ((h.splitOf_dwarfBegin_of_lt f hlt).trans hcu)).of_cu_eq
      hcu'.symm
  · obtain ⟨c', d, hc', hd, hsplit, hid⟩ := splitMatches_eq_true hmatch
    have hcb : (h.dwarfBegin f).cu cu = some c := (h.dwarfBegin_cu_of_lt f hlt).trans hc
    rw [hcb] at hc'
    cases hc'
    have hds : d.split = .unresolved := by
      simpa [Heap.splitOf_of_cu hd] using h.splitOf_dwarfBegin_fresh f hs
    have hne : cu ≠ s := by have := ((h.mem_freshUnits f).mp hs).1; omega
    exact ((hm.dwarfBegin f).link hne hcb hd hu hds ⟨hid, .inl ⟨hskel, hsplit⟩⟩).of_cu_eq hcu'.symm

/-! ## Reachable heaps and runs -/

/-- A heap as parsing leaves it: no unit tried yet, and no container released. -/
def Heap.Fresh (h : Heap) : Prop :=
  (∀ u c, h.cu u = some c → c.split = .unresolved) ∧ ∀ dw d, h.dwarf dw = some d → d.released = false

/-- The heaps reached from a fresh one by calls of `__libdw_find_split_unit` on any units, in any
order, each call facing any world. -/
inductive Reachable : Heap → Prop
  | fresh {h : Heap} : h.Fresh → Reachable h
  | call {h : Heap} (env : Env) (cu : Nat) : Reachable h → Reachable (findSplitUnit env cu h).2.1

theorem linksMatched_of_reachable {h : Heap} (hr : Reachable h) : LinksMatched h := by
  induction hr with
  | fresh hf => exact fun u c v hc hv => by simp [hf.1 u c hc] at hv
  | call env cu _ ih => exact findSplitUnit_linksMatched env cu ih

/-- One call of a run: the world it faces and the unit it is made on. -/
structure Call where
  env : Env
  cu : Nat

/-- The heap after the calls `ks`, in order. -/
def Heap.afterCalls (h : Heap) : List Call → Heap
  | [] => h
  | k :: ks => (findSplitUnit k.env k.cu h).2.1.afterCalls ks

/-- The effects of each call of the run `ks`, with the unit it was made on. -/
def Heap.callEffects (h : Heap) : List Call → List (Nat × List Effect)
  | [] => []
  | k :: ks =>
    (k.cu, (findSplitUnit k.env k.cu h).2.2) :: (findSplitUnit k.env k.cu h).2.1.callEffects ks

/-- An `open` of a companion file. -/
def Effect.isOpen : Effect → Bool
  | .openFile _ _ => true
  | _ => false

theorem Heap.afterCalls_append (h : Heap) (ks ks' : List Call) :
    h.afterCalls (ks ++ ks') = (h.afterCalls ks).afterCalls ks' := by
  induction ks generalizing h with
  | nil => rfl
  | cons k ks ih => exact ih _

/-- A run keeps every unit record and every resolved link. -/
theorem afterCalls_linksKept (h : Heap) (ks : List Call) : LinksKept h (h.afterCalls ks) := by
  induction ks generalizing h with
  | nil => exact LinksKept.refl h
  | cons k ks ih => exact (findSplitUnit_linksKept k.env k.cu h).trans (ih _)

/-- A call on a unit returns a resolved link, the one the unit has after the call. -/
theorem findSplitUnit_result_resolved (env : Env) {cu : Nat} {h : Heap} {c : Cu}
    (hc : h.cu cu = some c) :
    (findSplitUnit env cu h).1 = (findSplitUnit env cu h).2.1.splitOf cu ∧
      (findSplitUnit env cu h).1 ≠ .unresolved := by
  by_cases hu : c.split = .unresolved
  · refine ⟨(findSplitUnit_of_unresolved env hc hu).2.2, ?_⟩
    rcases findSplitUnit_cases env hc hu with ⟨-, -, hr⟩ | ⟨f, ⟨-, -, hr⟩ | ⟨s, -, -, -, -, -, hr⟩⟩ <;>
      simp [hr]
  · rw [findSplitUnit_of_resolved env hc hu]
    exact ⟨(Heap.splitOf_of_cu hc).symm, hu⟩

/-- In a run, a unit whose link is resolved is left alone: no later call on it does anything. -/
theorem callEffects_of_resolved {h : Heap} {cu : Nat} {c : Cu} (hc : h.cu cu = some c)
    (hr : c.split ≠ .unresolved) (ks : List Call) :
    ∀ e ∈ h.callEffects ks, e.1 = cu → e.2 = [] := by
  induction ks generalizing h c with
  | nil => simp [Heap.callEffects]
  | cons k ks ih =>
    obtain ⟨v, hv, hkeep⟩ := findSplitUnit_linksKept k.env k.cu h cu c hc
    intro e he hcu
    rw [Heap.callEffects, List.mem_cons] at he
    rcases he with rfl | he
    · subst hcu
      simp [findSplitUnit_of_resolved k.env hc hr]
    · exact ih hv (by simpa [hkeep hr] using hr) e he hcu

/-- In a run, at most one call on a unit opens its companion file. -/
theorem callEffects_opens_le_one (h : Heap) (cu : Nat) (ks : List Call) :
    ((h.callEffects ks).filter fun e => e.1 = cu ∧ e.2.any Effect.isOpen).length ≤ 1 := by
  induction ks generalizing h with
  | nil => simp [Heap.callEffects]
  | cons k ks ih =>
    by_cases hk : k.cu = cu ∧ (findSplitUnit k.env k.cu h).2.2.any Effect.isOpen
    · obtain ⟨rfl, hopen⟩ := hk
      cases hc : h.cu k.cu with
      | none => simp [findSplitUnit, hc] at hopen
      | some c =>
        obtain ⟨v, hv, -⟩ := findSplitUnit_linksKept k.env k.cu h k.cu c hc
        obtain ⟨hval, hne⟩ := findSplitUnit_result_resolved k.env hc
        have hvne : v ≠ .unresolved := by
          rwa [hval, Heap.splitOf_of_cu hv] at hne
        have hrest := callEffects_of_resolved hv hvne ks
        rw [Heap.callEffects, List.filter_cons_of_pos (by simpa using hopen),
          List.filter_eq_nil_iff.mpr fun e he hp => by
            simp only [decide_eq_true_eq] at hp
            simp [hrest e he hp.1] at hp]
        simp
    · rw [Heap.callEffects, List.filter_cons_of_neg (by simpa using hk)]
      exact ih _

/-! ## Main results -/

/-- The unit `u` lies in a container that `dwarf_end` has not released. -/
def Heap.Live (h : Heap) (u : Nat) : Prop :=
  ∃ c d, h.cu u = some c ∧ h.dwarf c.dbg = some d ∧ d.released = false

/-- Every link between units of live containers is answered by a link back, from a
counterpart. -/
def LiveLinksMatched (h : Heap) : Prop :=
  ∀ u c v, h.cu u = some c → c.split = .unit v → h.Live u → h.Live v →
    ∃ d, h.cu v = some d ∧ d.split = .unit u ∧ Counterparts c d

/-- Each unit's link is set once. Over any run, from any point on, every unit keeps its header
and every resolved link; a call returns the link its unit has after it, which is resolved; a call
on a resolved unit returns that link and does nothing; and at most one call of a run on a unit
opens a companion file. -/
theorem findSplitUnit_link_set_once (env : Env) (cu : Nat) (h : Heap) (ks ks' : List Call) :
    LinksKept (h.afterCalls ks) (h.afterCalls (ks ++ ks')) ∧
      (∀ c, h.cu cu = some c →
        (findSplitUnit env cu h).1 = (findSplitUnit env cu h).2.1.splitOf cu ∧
          (findSplitUnit env cu h).1 ≠ .unresolved ∧
          (c.split ≠ .unresolved → findSplitUnit env cu h = (c.split, h, []))) ∧
      ((h.callEffects ks).filter fun e => e.1 = cu ∧ e.2.any Effect.isOpen).length ≤ 1 := by
  refine ⟨?_, fun c hc => ?_, callEffects_opens_le_one h cu ks⟩
  · rw [Heap.afterCalls_append]
    exact afterCalls_linksKept _ ks'
  · exact ⟨(findSplitUnit_result_resolved env hc).1, (findSplitUnit_result_resolved env hc).2,
      findSplitUnit_of_resolved env hc⟩

/-- A heap as parsing one file leaves it: the container `0` under `/usr/lib/debug`, holding the
skeleton unit `0`, whose `unit_id8` is `2` and whose split file is `a.dwo` under `/build`. -/
def oneSkeleton : Heap where
  cu i := if i = 0 then
      some ⟨dwUtSkeleton, 2, 0, ⟨some ⟨some "/build"⟩, some ⟨some "a.dwo"⟩, none⟩, .unresolved⟩
    else none
  dwarf d := if d = 0 then some ⟨some "/usr/lib/debug", [0], false, false⟩ else none
  nextCu := 1
  nextDwarf := 1
  cu_fresh i hi := by simp [show i ≠ 0 by omega]
  dwarf_fresh d hd := by simp [show d ≠ 0 by omega]

theorem oneSkeleton_fresh : oneSkeleton.Fresh := by
  constructor
  · intro u c hc
    simp only [oneSkeleton] at hc
    split at hc
    · cases hc; rfl
    · cases hc
  · intro dw d hd
    simp only [oneSkeleton] at hd
    split at hd
    · cases hd; rfl
    · cases hd

/-- A world where every path is built, under `dir` or else under `debugdir`, every path opens as
descriptor `3`, and the file behind it holds the units `us`. -/
def filesWith (us : List UnitHeader) : Env where
  filepath debugdir dir file := some (((dir.orElse fun _ => debugdir).getD "") ++ "/" ++ file.getD "")
  openRdonly _ := some 3
  dwarfBegin _ := some ⟨some "/build", us⟩

/-- A unit DIE with none of the attributes the resolver reads. -/
def noNames : CuDie := ⟨none, none, none⟩

/-- The world of `filesWith` whose companion file holds one split unit, with the skeleton's
`unit_id8`. -/
def matchingFile : Env := filesWith [⟨dwUtSplitCompile, 2, noNames⟩]

/-- A run of two calls on the skeleton of `oneSkeleton`: the first links it, the second returns
the link and does nothing, and the companion file is opened once. -/
theorem oneSkeleton_link_set_once :
    (findSplitUnit matchingFile 0 oneSkeleton).1 = .unit 1 ∧
      findSplitUnit matchingFile 0 (findSplitUnit matchingFile 0 oneSkeleton).2.1 =
        (.unit 1, (findSplitUnit matchingFile 0 oneSkeleton).2.1, []) ∧
      ((oneSkeleton.callEffects [⟨matchingFile, 0⟩, ⟨matchingFile, 0⟩]).filter
        fun e => e.1 = 0 ∧ e.2.any Effect.isOpen).length ≤ 1 :=
  ⟨by decide,
    ((findSplitUnit_link_set_once matchingFile 0 (findSplitUnit matchingFile 0 oneSkeleton).2.1
      [] []).2.1 _ rfl).2.2 (by decide),
    (findSplitUnit_link_set_once matchingFile 0 oneSkeleton [⟨matchingFile, 0⟩, ⟨matchingFile, 0⟩]
      []).2.2⟩

end Elfutils.Libdw
