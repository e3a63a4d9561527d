import DeltaDebugging.Graph.Search
import Mathlib.Data.Bool.Count
import Mathlib.Logic.Function.Iterate

/-!
# The search marks what is reached

A vertex waits from the moment it is marked until its edges are followed. So at any time
what is marked was reached from a start, and the edges of a marked vertex that does not wait
lead to marked ones. Once nothing waits, the marked vertices are closed under edges. Every
round takes one vertex from those that wait, and none ever waits again, so there is one round
for every vertex that is marked in the end.
-/
namespace DeltaDebugging.Graph

variable {successors : Nat → List Nat} {isOpen : Nat → Bool} {n u v w : Nat} {starts : List Nat}
  {s : Search}

namespace Path

theorem reverse {predecessors : Nat → List Nat}
    (hreverse : ∀ v w, v ∈ predecessors w ↔ w ∈ successors v)
    (hp : Path (fun v => (predecessors v).filter isOpen) v u) (hv : isOpen v = true) :
    isOpen u = true ∧ Path (fun v => (successors v).filter isOpen) u v := by
  induction hp with
  | refl => exact ⟨hv, .refl _⟩
  | step he _ ih =>
    obtain ⟨hedge, hopen⟩ := List.mem_filter.mp he
    obtain ⟨hu, hpath⟩ := ih hopen
    exact ⟨hu, hpath.trans (.edge (List.mem_filter.mpr ⟨(hreverse _ _).mp hedge, hv⟩))⟩

theorem of_filter (hp : Path (fun v => (successors v).filter isOpen) u v) :
    Path successors u v := by
  induction hp with
  | refl => exact .refl _
  | step he _ ih => exact .step (List.mem_filter.mp he).1 ih

theorem lt_of_bounded (hbound : ∀ v, ∀ w ∈ successors v, w < n) (hp : Path successors u v)
    (hu : u < n) : v < n := by
  induction hp with
  | refl => exact hu
  | step he _ ih => exact ih (hbound _ _ he)

end Path

namespace Search

def IsMarked (s : Search) (v : Nat) : Prop := s.marked[v]? = some true

section Meet

theorem not_getD_marked_iff :
    (!s.marked.getD v true) = true ↔ v < s.marked.size ∧ ¬ s.IsMarked v := by
  by_cases hv : v < s.marked.size <;> simp [IsMarked, Array.getD, hv]

theorem meet_spec (isOpen : Nat → Bool) (s : Search) (v : Nat) :
    let s' := s.meet isOpen v
    s'.marked.size = s.marked.size ∧
      (∀ w, s'.IsMarked w ↔ s.IsMarked w ∨ w = v ∧ isOpen w = true ∧ w < s.marked.size) ∧
      ∀ w, w ∈ s'.pending ↔ w ∈ s.pending ∨ s'.IsMarked w ∧ ¬ s.IsMarked w := by
  dsimp only
  unfold meet
  split
  · next hnew =>
    rw [Bool.and_eq_true, not_getD_marked_iff] at hnew
    obtain ⟨hopen, hv, hnew⟩ := hnew
    have hmarked : ∀ w, IsMarked ⟨s.marked.setIfInBounds v true, v :: s.pending⟩ w ↔
        s.IsMarked w ∨ w = v := by
      intro w
      rw [IsMarked, Array.getElem?_setIfInBounds]
      by_cases hw : v = w
      · simp [hw, hw ▸ hv]
      · simp [hw, Ne.symm hw, IsMarked]
    refine ⟨Array.size_setIfInBounds, fun w => ?_, fun w => ?_⟩
    · rw [hmarked]
      exact or_congr_right ⟨fun h => ⟨h, h ▸ hopen, h ▸ hv⟩, fun h => h.1⟩
    · rw [hmarked, List.mem_cons, or_comm]
      refine or_congr_right ⟨fun h => ⟨.inr h, h ▸ hnew⟩, fun h => h.1.resolve_left h.2⟩
  · next hold =>
    rw [Bool.and_eq_true, not_getD_marked_iff] at hold
    refine ⟨rfl, fun w => ⟨.inl, fun h => h.elim id ?_⟩, fun w => ?_⟩
    · rintro ⟨rfl, hopen, hw⟩
      by_contra hnew
      exact hold ⟨hopen, hw, hnew⟩
    · exact ⟨.inl, fun h => h.elim id fun h => absurd h.1 h.2⟩

theorem foldl_meet_spec (isOpen : Nat → Bool) (vs : List Nat) (s : Search) :
    let s' := vs.foldl (meet isOpen) s
    s'.marked.size = s.marked.size ∧
      (∀ w, s'.IsMarked w ↔ s.IsMarked w ∨ w ∈ vs ∧ isOpen w = true ∧ w < s.marked.size) ∧
      ∀ w, w ∈ s'.pending ↔ w ∈ s.pending ∨ s'.IsMarked w ∧ ¬ s.IsMarked w := by
  induction vs generalizing s with
  | nil => simp
  | cons v vs ih =>
    obtain ⟨hsize, hmarked, hpending⟩ := meet_spec isOpen s v
    obtain ⟨hsize', hmarked', hpending'⟩ := ih (s.meet isOpen v)
    refine ⟨hsize'.trans hsize, fun w => ?_, fun w => ?_⟩
    · rw [List.foldl_cons, hmarked', hmarked, hsize, List.mem_cons, or_assoc, or_and_right]
    · rw [List.foldl_cons, hpending', hpending, or_assoc]
      refine or_congr_right ?_
      have hkept : s.IsMarked w → (s.meet isOpen v).IsMarked w := fun h => (hmarked w).mpr (.inl h)
      have hkept' : (s.meet isOpen v).IsMarked w →
          (vs.foldl (meet isOpen) (s.meet isOpen v)).IsMarked w :=
        fun h => (hmarked' w).mpr (.inl h)
      tauto

end Meet

section Progress

/-- Marked is only what some start leads to through open vertices, and what the edges of a
marked vertex lead to, unless it waits. -/
structure Progress (successors : Nat → List Nat) (isOpen : Nat → Bool) (n : Nat)
    (starts : List Nat) (s : Search) : Prop where
  size : s.marked.size = n
  start : ∀ u ∈ starts, isOpen u = true → u < n → s.IsMarked u
  reached : ∀ v, s.IsMarked v → ∃ u ∈ starts, u < n ∧ isOpen u = true ∧
    Path (fun v => (successors v).filter isOpen) u v
  waits : ∀ v ∈ s.pending, s.IsMarked v
  followed : ∀ v, s.IsMarked v → v ∉ s.pending → ∀ w ∈ successors v, isOpen w = true → w < n →
    s.IsMarked w

theorem Progress.begun : Progress successors isOpen n starts (begun isOpen n starts) := by
  obtain ⟨hsize, hmarked, hpending⟩ := foldl_meet_spec isOpen starts (.start n)
  have hnone : ∀ v, ¬ (Search.start n).IsMarked v := by
    intro v
    by_cases hv : v < n <;> simp [IsMarked, Search.start, hv]
  have hn : (Search.start n).marked.size = n := Array.size_replicate
  have hstarts : ∀ v, (Search.begun isOpen n starts).IsMarked v ↔
      v ∈ starts ∧ isOpen v = true ∧ v < n := by
    intro v
    rw [Search.begun, hmarked v, hn]
    exact or_iff_right (hnone v)
  constructor
  · exact hsize.trans hn
  · exact fun u hu hopen hlt => (hstarts u).mpr ⟨hu, hopen, hlt⟩
  · intro v hv
    obtain ⟨hmem, hopen, hlt⟩ := (hstarts v).mp hv
    exact ⟨v, hmem, hlt, hopen, .refl v⟩
  · exact fun v hv => (((hpending v).mp hv).resolve_left (by simp [Search.start])).1
  · exact fun v hv hdone => absurd ((hpending v).mpr (.inr ⟨hv, hnone v⟩)) hdone

theorem Progress.follow (h : Progress successors isOpen n starts s) :
    Progress successors isOpen n starts (s.follow successors isOpen) := by
  unfold Search.follow
  split
  · exact h
  · next v rest hv =>
    have hvmarked : s.IsMarked v := h.waits v (by simp [hv])
    obtain ⟨hsize, hmarked, hpending⟩ :=
      foldl_meet_spec isOpen (successors v) { s with pending := rest }
    generalize (successors v).foldl (meet isOpen) { s with pending := rest } = s' at *
    dsimp only at hsize hmarked hpending
    have hkept : ∀ w, s.IsMarked w → s'.IsMarked w := fun w hw => (hmarked w).mpr (.inl hw)
    constructor
    · exact hsize.trans h.size
    · exact fun u hu hopen hlt => hkept u (h.start u hu hopen hlt)
    · intro w hw
      rcases (hmarked w).mp hw with hw | ⟨hedge, hopen, -⟩
      · exact h.reached w hw
      · obtain ⟨u, hu, hlt, hstart, hp⟩ := h.reached v hvmarked
        exact ⟨u, hu, hlt, hstart, hp.trans (.edge (List.mem_filter.mpr ⟨hedge, hopen⟩))⟩
    · intro w hw
      rcases (hpending w).mp hw with hw | hw
      · exact hkept w (h.waits w (by simp [hv, hw]))
      · exact hw.1
    · intro u hu hdone w hedge hopen hlt
      by_cases huv : u = v
      · exact (hmarked w).mpr (.inr ⟨huv ▸ hedge, hopen, h.size ▸ hlt⟩)
      · -- A vertex that was not marked before waits now, so `u` was and did not wait.
        have hold : s.IsMarked u := by
          by_contra hnew
          exact hdone ((hpending u).mpr (.inr ⟨hu, hnew⟩))
        have hrest : u ∉ s.pending := by
          rw [hv, List.mem_cons, not_or]
          exact ⟨huv, fun hmem => hdone ((hpending u).mpr (.inl hmem))⟩
        exact hkept w (h.followed u hold hrest w hedge hopen hlt)

theorem Progress.exhaust (h : Progress successors isOpen n starts s) :
    Progress successors isOpen n starts (s.exhaust successors isOpen) := by
  fun_induction Search.exhaust successors isOpen s with
  | case1 s hdone => exact h
  | case2 s hwaits ih => exact ih h.follow

theorem pending_exhaust (successors : Nat → List Nat) (isOpen : Nat → Bool) (s : Search) :
    (s.exhaust successors isOpen).pending = [] := by
  fun_induction Search.exhaust successors isOpen s with
  | case1 s hdone => exact hdone
  | case2 s hwaits ih => exact ih

end Progress

section Rounds

/-- The rounds are as many as the work that they do, and something waits before each of them. -/
theorem exhaust_eq_iterate (successors : Nat → List Nat) (isOpen : Nat → Bool) (s : Search) :
    ∃ rounds, (s.exhaust successors isOpen).work + rounds = s.work ∧
      (follow successors isOpen)^[rounds] s = s.exhaust successors isOpen ∧
      ∀ r < rounds, ((follow successors isOpen)^[r] s).pending ≠ [] := by
  fun_induction Search.exhaust successors isOpen s with
  | case1 s hdone => exact ⟨0, rfl, rfl, by simp⟩
  | case2 s hwaits ih =>
    obtain ⟨rounds, hwork, hend, hbefore⟩ := ih
    have hone := work_follow successors isOpen hwaits
    refine ⟨rounds + 1, by omega, hend, fun r hr => ?_⟩
    cases r with
    | zero => exact hwaits
    | succ r => exact hbefore r (by omega)

theorem work_begun : (begun isOpen n starts).work = n := by
  rw [begun, work_foldl_meet]
  simp [work, start]

/-- There is one round for every vertex that is marked in the end. -/
theorem rounds_eq_count (n : Nat) (successors : Nat → List Nat) (isOpen : Nat → Bool)
    (starts : List Nat) :
    let marked := spread n successors isOpen starts
    (follow successors isOpen)^[marked.count true] (begun isOpen n starts) = ⟨marked, []⟩ ∧
      ∀ r < marked.count true,
        ((follow successors isOpen)^[r] (begun isOpen n starts)).pending ≠ [] := by
  intro marked
  obtain ⟨rounds, hwork, hend, hbefore⟩ :=
    exhaust_eq_iterate successors isOpen (begun isOpen n starts)
  have hdone : (begun isOpen n starts).exhaust successors isOpen = ⟨marked, []⟩ := by
    rw [← pending_exhaust successors isOpen (begun isOpen n starts)]
    rfl
  have hsize : marked.size = n := Progress.begun.exhaust.size
  have hcount : marked.count true = rounds := by
    have := List.count_false_add_count_true marked.toList
    rw [work_begun, hdone] at hwork
    simp only [work, List.length_nil, Array.count_toList, Array.length_toList] at hwork this
    omega
  rw [hcount, ← hdone]
  exact ⟨hend, hbefore⟩

end Rounds

end Search

section Spread

theorem size_spread : (spread n successors isOpen starts).size = n :=
  Search.Progress.begun.exhaust.size

/-- The search marks exactly what some open start leads to through open vertices. -/
theorem spread_eq_true_iff (hbound : ∀ v, ∀ w ∈ successors v, w < n) :
    (spread n successors isOpen starts)[v]? = some true ↔ ∃ u ∈ starts, u < n ∧
      isOpen u = true ∧ Path (fun v => (successors v).filter isOpen) u v := by
  have hend : Search.Progress successors isOpen n starts _ := Search.Progress.begun.exhaust
  refine ⟨hend.reached v, ?_⟩
  rintro ⟨u, hu, hlt, hopen, hp⟩
  have hmarked : (spread n successors isOpen starts)[u]? = some true := hend.start u hu hopen hlt
  clear hu hlt hopen
  induction hp with
  | refl => exact hmarked
  | step he _ ih =>
    obtain ⟨hedge, hopen⟩ := List.mem_filter.mp he
    exact ih (hend.followed _ hmarked (by simp [Search.pending_exhaust]) _ hedge hopen
      (hbound _ _ hedge))

end Spread

end DeltaDebugging.Graph
