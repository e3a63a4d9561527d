import DeltaDebugging.Proofs.Graph.Resolved
import DeltaDebugging.Proofs.Graph.Tarjan

/-!
# The components of a graph

The vertices of the frames form the path from the root. The search keeps three facts
about the stack: a vertex of the path reaches everything entered after it that is still
on the stack, everything on the stack reaches back to a vertex of the path entered no
later, and a lowlink is the number of a vertex on the stack that is reached. The fourth
one makes the lowlink sharp: whenever an edge that was followed leads from `u` to `w` on
the stack, each vertex of the path up to `u` has one at or above it on the path whose
lowlink is no greater than the number of `w`. So if the top of the path still has its own
number as lowlink when it is left, no edge leads from the stack above it to below it,
and that part of the stack is a component.
-/
namespace DeltaDebugging.Graph.Tarjan

variable {successors : Nat → List Nat} {n : Nat} {t : Tarjan} {path : List Nat}
  {frames : List Frame} {p u v w : Nat}

section Span

/-- The stack hangs together along the path, whose latest vertex comes first. -/
structure Spans (successors : Nat → List Nat) (t : Tarjan) (path : List Nat) : Prop where
  mem_stack : ∀ p ∈ path, p ∈ t.stack
  descending : path.Pairwise fun q p => t.num p < t.num q
  reaches : ∀ p ∈ path, ∀ v ∈ t.stack, t.num p ≤ t.num v → Path successors p v
  returns : ∀ v ∈ t.stack, ∃ p ∈ path, t.num p ≤ t.num v ∧ Path successors v p
  low_witness : ∀ p ∈ path, ∃ v ∈ t.stack,
    t.num v = t.low p ∧ t.low p ≤ t.num p ∧ Path successors p v

namespace Spans

theorem num_lt_head (h : Spans successors t (v :: path)) (hp : p ∈ path) : t.num p < t.num v :=
  (List.pairwise_cons.mp h.descending).1 p hp

theorem num_le_head (h : Spans successors t (v :: path)) (hp : p ∈ v :: path) :
    t.num p ≤ t.num v := by
  rcases List.mem_cons.mp hp with rfl | hp
  · exact le_rfl
  · exact Nat.le_of_lt (h.num_lt_head hp)

theorem path_to_head (h : Spans successors t (v :: path)) (hp : p ∈ v :: path) :
    Path successors p v :=
  h.reaches p hp v (h.mem_stack v (by simp)) (h.num_le_head hp)

/-- Whatever is on the stack reaches the top of the path, for it reaches some vertex of it. -/
theorem returns_to_head (h : Spans successors t (v :: path)) (hu : u ∈ t.stack) :
    Path successors u v := by
  obtain ⟨p, hp, -, hup⟩ := h.returns u hu
  exact hup.trans (h.path_to_head hp)

theorem enter (h : Spans successors t path) (hc : Consistent n t) (hw : w < n)
    (hnew : t.index? w = none) (hpath : ∀ p ∈ path, Path successors p w) :
    Spans successors (t.enter w) (w :: path) where
  mem_stack p hp := by
    rcases List.mem_cons.mp hp with rfl | hp
    · exact List.mem_cons_self
    · exact List.mem_cons_of_mem _ (h.mem_stack p hp)
  descending := by
    refine List.pairwise_cons.mpr ⟨fun p hp => ?_, ?_⟩
    · rw [hc.num_enter_self hw, hc.num_enter_of_mem hw hnew (h.mem_stack p hp)]
      exact hc.num_lt p (hc.entered_of_mem (h.mem_stack p hp))
    · refine h.descending.imp_of_mem fun {q p} hq hp hlt => ?_
      rw [hc.num_enter_of_mem hw hnew (h.mem_stack q hq),
        hc.num_enter_of_mem hw hnew (h.mem_stack p hp)]
      exact hlt
  reaches p hp v hv hle := by
    rcases List.mem_cons.mp hv with rfl | hv
    · rcases List.mem_cons.mp hp with rfl | hp
      · exact .refl _
      · exact hpath p hp
    · have := hc.num_lt v (hc.entered_of_mem hv)
      rw [hc.num_enter_of_mem hw hnew hv] at hle
      rcases List.mem_cons.mp hp with rfl | hp
      · rw [hc.num_enter_self hw] at hle
        omega
      · rw [hc.num_enter_of_mem hw hnew (h.mem_stack p hp)] at hle
        exact h.reaches p hp v hv hle
  returns v hv := by
    rcases List.mem_cons.mp hv with rfl | hv
    · exact ⟨v, List.mem_cons_self, le_rfl, .refl _⟩
    · obtain ⟨p, hp, hle, hvp⟩ := h.returns v hv
      refine ⟨p, List.mem_cons_of_mem _ hp, ?_, hvp⟩
      rw [hc.num_enter_of_mem hw hnew (h.mem_stack p hp), hc.num_enter_of_mem hw hnew hv]
      exact hle
  low_witness p hp := by
    rcases List.mem_cons.mp hp with rfl | hp
    · exact ⟨p, List.mem_cons_self, by rw [hc.num_enter_self hw, hc.low_enter_self hw],
        by rw [hc.num_enter_self hw, hc.low_enter_self hw], .refl _⟩
    · obtain ⟨v, hv, heq, hle, hpv⟩ := h.low_witness p hp
      have hp := h.mem_stack p hp
      refine ⟨v, List.mem_cons_of_mem _ hv, ?_, ?_, hpv⟩
      · rw [hc.num_enter_of_mem hw hnew hv, hc.low_enter_of_mem hw hnew hp, heq]
      · rw [hc.num_enter_of_mem hw hnew hp, hc.low_enter_of_mem hw hnew hp]
        exact hle

/-- A lowlink may be lowered to the number of any vertex on the stack that is reached. -/
theorem lower (h : Spans successors t path) (hc : Consistent n t) (hp : p ∈ path)
    (hv : v ∈ t.stack) (hpv : Path successors p v) :
    Spans successors (t.lower p (t.num v)) path where
  mem_stack := h.mem_stack
  descending := h.descending
  reaches := h.reaches
  returns := h.returns
  low_witness q hq := by
    obtain ⟨u, hu, heq, hle, hqu⟩ := h.low_witness q hq
    rw [num_lower, low_lower (hc.lt_size_lowlink (h.mem_stack p hp))]
    split
    · next hqp =>
      subst hqp
      rcases Nat.le_total (t.low q) (t.num v) with hmin | hmin
      · exact ⟨u, hu, by rw [num_lower, heq, Nat.min_eq_left hmin], by omega, hqu⟩
      · exact ⟨v, hv, by rw [num_lower, Nat.min_eq_right hmin], by omega, hpv⟩
    · exact ⟨u, hu, heq, hle, hqu⟩

/-- The top of the path may be left if it reaches below itself. -/
theorem retire (h : Spans successors t (v :: path)) (hlow : t.low v < t.num v) :
    Spans successors t path where
  mem_stack p hp := h.mem_stack p (List.mem_cons_of_mem _ hp)
  descending := (List.pairwise_cons.mp h.descending).2
  reaches p hp := h.reaches p (List.mem_cons_of_mem _ hp)
  returns u hu := by
    obtain ⟨p, hp, hle, hup⟩ := h.returns u hu
    rcases List.mem_cons.mp hp with rfl | hp
    · obtain ⟨x, hx, heq, -, hpx⟩ := h.low_witness p (by simp)
      obtain ⟨q, hq, hqx, hxq⟩ := h.returns x hx
      rcases List.mem_cons.mp hq with rfl | hq
      · omega
      · exact ⟨q, hq, by omega, hup.trans (hpx.trans hxq)⟩
    · exact ⟨p, hp, hle, hup⟩
  low_witness p hp := h.low_witness p (List.mem_cons_of_mem _ hp)

theorem complete (h : Spans successors t (v :: path)) (hc : Consistent n t) :
    Spans successors (t.complete v) path := by
  have hv : v ∈ t.stack := h.mem_stack v (by simp)
  have hmem : ∀ x, x ∈ (t.complete v).stack ↔ x ∈ t.stack ∧ t.num x < t.num v :=
    fun x => (hc.mem_popThrough hv x).2
  constructor
  · intro p hp
    exact (hmem p).mpr ⟨h.mem_stack p (List.mem_cons_of_mem _ hp), h.num_lt_head hp⟩
  · exact (List.pairwise_cons.mp h.descending).2
  · intro p hp u hu
    exact h.reaches p (List.mem_cons_of_mem _ hp) u ((hmem u).mp hu).1
  · intro u hu
    obtain ⟨hu, hlt⟩ := (hmem u).mp hu
    obtain ⟨p, hp, hle, hup⟩ := h.returns u hu
    rcases List.mem_cons.mp hp with rfl | hp
    · omega
    · exact ⟨p, hp, hle, hup⟩
  · intro p hp
    obtain ⟨x, hx, heq, hle, hpx⟩ := h.low_witness p (List.mem_cons_of_mem _ hp)
    have := h.num_lt_head hp
    exact ⟨x, (hmem x).mpr ⟨hx, by omega⟩, heq, hle, hpx⟩

end Spans

end Span

section Edges

/-- An edge from `u` to `w` on the stack shows in the lowlinks: of each vertex of the path
up to `u` or of one above it. -/
def Settled (t : Tarjan) (path : List Nat) (u w : Nat) : Prop :=
  t.index? w ≠ none ∧ (w ∈ t.stack → ∀ p ∈ path, t.num p ≤ t.num u →
    ∃ q ∈ path, t.num p ≤ t.num q ∧ t.low q ≤ t.num w)

/-- An edge that is still to be followed. -/
def Pending (frames : List Frame) (u w : Nat) : Prop :=
  ∃ frame ∈ frames, frame.vertex = u ∧ w ∈ frame.targets

namespace Settled

theorem enter (h : Settled t path u w) (hs : Spans successors t path) (hc : Consistent n t)
    (hv : v < n) (hnew : t.index? v = none) (hu : u ∈ t.stack) :
    Settled (t.enter v) (v :: path) u w := by
  obtain ⟨hentered, hsettled⟩ := h
  have hne : w ≠ v := fun heq => hentered (heq ▸ hnew)
  constructor
  · rw [index?_enter (by simpa [hc.size_index] using hv), if_neg hne]
    exact hentered
  · intro hw p hp hle
    have hw := (List.mem_cons.mp hw).resolve_left hne
    have := hc.num_lt u (hc.entered_of_mem hu)
    rw [hc.num_enter_of_mem hv hnew hu] at hle
    rcases List.mem_cons.mp hp with rfl | hp
    · rw [hc.num_enter_self hv] at hle
      omega
    · rw [hc.num_enter_of_mem hv hnew (hs.mem_stack p hp)] at hle ⊢
      obtain ⟨q, hq, hpq, hlow⟩ := hsettled hw p hp hle
      refine ⟨q, List.mem_cons_of_mem _ hq, ?_⟩
      rw [hc.num_enter_of_mem hv hnew (hs.mem_stack q hq),
        hc.low_enter_of_mem hv hnew (hs.mem_stack q hq), hc.num_enter_of_mem hv hnew hw]
      exact ⟨hpq, hlow⟩

theorem lower (h : Settled t path u w) (v i : Nat) : Settled (t.lower v i) path u w := by
  refine ⟨h.1, fun hw p hp hle => ?_⟩
  obtain ⟨q, hq, hpq, hlow⟩ := h.2 hw p hp hle
  exact ⟨q, hq, hpq, (low_lower_le t v i q).trans hlow⟩

/-- What the top of the path shows, the vertex below it shows once it has its lowlink. -/
theorem retire (h : Settled t (v :: path) u w) (hs : Spans successors t (v :: path))
    (hparent : ∀ p ∈ path.head?, t.low p ≤ t.low v) : Settled t path u w := by
  refine ⟨h.1, fun hw p hp hle => ?_⟩
  obtain ⟨q, hq, hpq, hlow⟩ := h.2 hw p (List.mem_cons_of_mem _ hp) hle
  rcases List.mem_cons.mp hq with rfl | hq
  · obtain ⟨parent, below, rfl⟩ := List.exists_cons_of_ne_nil (List.ne_nil_of_mem hp)
    have := hparent parent rfl
    refine ⟨parent, by simp, ?_, by omega⟩
    rcases List.mem_cons.mp hp with rfl | hp
    · exact le_rfl
    · have hdescending := (List.pairwise_cons.mp hs.descending).2
      exact Nat.le_of_lt ((List.pairwise_cons.mp hdescending).1 p hp)
  · exact ⟨q, hq, hpq, hlow⟩

theorem complete (h : Settled t (v :: path) u w) (hs : Spans successors t (v :: path))
    (hc : Consistent n t) (hlow : t.low v = t.num v) : Settled (t.complete v) path u w := by
  refine ⟨h.1, fun hw p hp hle => ?_⟩
  obtain ⟨hw, hlt⟩ := (hc.mem_popThrough (hs.mem_stack v (by simp)) w).2.mp hw
  obtain ⟨q, hq, hpq, hqw⟩ := h.2 hw p (List.mem_cons_of_mem _ hp) hle
  rcases List.mem_cons.mp hq with rfl | hq
  · omega
  · exact ⟨q, hq, hpq, hqw⟩

end Settled

theorem Pending.of_cons (h : Pending (⟨v, []⟩ :: frames) u w) : Pending frames u w := by
  obtain ⟨frame, hframe, rfl, hw⟩ := h
  rcases List.mem_cons.mp hframe with rfl | hframe
  · simp at hw
  · exact ⟨frame, hframe, rfl, hw⟩

theorem Pending.follow {above below : List Frame} {targets : List Nat} {x : Nat}
    (h : Pending (above ++ ⟨v, w :: targets⟩ :: below) u x) :
    u = v ∧ x = w ∨ Pending (above ++ ⟨v, targets⟩ :: below) u x := by
  obtain ⟨frame, hframe, rfl, hx⟩ := h
  rcases List.mem_append.mp hframe with hframe | hframe
  · exact Or.inr ⟨frame, List.mem_append_left _ hframe, rfl, hx⟩
  rcases List.mem_cons.mp hframe with rfl | hframe
  · rcases List.mem_cons.mp hx with rfl | hx
    · exact Or.inl ⟨rfl, rfl⟩
    · exact Or.inr ⟨⟨v, targets⟩, by simp, rfl, hx⟩
  · exact Or.inr ⟨frame, by simp [hframe], rfl, hx⟩

end Edges

section Invariant

/-- The invariant of the search with its frames as they are. -/
structure Inv (successors : Nat → List Nat) (n : Nat) (t : Tarjan) (frames : List Frame) :
    Prop where
  consistent : Consistent n t
  resolved : Resolved successors t.components
  spans : Spans successors t (frames.map Frame.vertex)
  targets : ∀ frame ∈ frames, ∀ w ∈ frame.targets, w ∈ successors frame.vertex
  settled : ∀ u ∈ t.stack, ∀ w ∈ successors u,
    Pending frames u w ∨ Settled t (frames.map Frame.vertex) u w

namespace Inv

theorem enter (h : Inv successors n t frames) (hw : w < n) (hnew : t.index? w = none)
    (hpath : ∀ p ∈ frames.map Frame.vertex, Path successors p w) :
    Inv successors n (t.enter w) (⟨w, successors w⟩ :: frames) where
  consistent := h.consistent.enter hw hnew
  resolved := h.resolved
  spans := h.spans.enter h.consistent hw hnew hpath
  targets frame hframe := by
    rcases List.mem_cons.mp hframe with rfl | hframe
    · exact fun _ => id
    · exact h.targets frame hframe
  settled u hu x hx := by
    rcases List.mem_cons.mp hu with rfl | hu
    · exact Or.inl ⟨⟨u, successors u⟩, by simp, rfl, hx⟩
    · rcases h.settled u hu x hx with ⟨frame, hframe, heq, hmem⟩ | hsettled
      · exact Or.inl ⟨frame, List.mem_cons_of_mem _ hframe, heq, hmem⟩
      · exact Or.inr (hsettled.enter h.spans h.consistent hw hnew hu)

theorem lower (h : Inv successors n t frames) (hp : p ∈ frames.map Frame.vertex)
    (hv : v ∈ t.stack) (hpv : Path successors p v) :
    Inv successors n (t.lower p (t.num v)) frames where
  consistent := h.consistent.lower p _
  resolved := h.resolved
  spans := h.spans.lower h.consistent hp hv hpv
  targets := h.targets
  settled u hu x hx := (h.settled u hu x hx).imp_right fun hsettled => hsettled.lower p _

/-- An edge need no longer be pending once it shows. -/
theorem advance (above : List Frame) {below : List Frame} {targets : List Nat}
    (h : Inv successors n t (above ++ ⟨v, w :: targets⟩ :: below))
    (hsettled : Settled t ((above ++ ⟨v, targets⟩ :: below).map Frame.vertex) v w) :
    Inv successors n t (above ++ ⟨v, targets⟩ :: below) where
  consistent := h.consistent
  resolved := h.resolved
  spans := by simpa using h.spans
  targets frame hframe := by
    rcases List.mem_append.mp hframe with hframe | hframe
    · exact h.targets frame (List.mem_append_left _ hframe)
    rcases List.mem_cons.mp hframe with rfl | hframe
    · intro x hx
      exact h.targets ⟨v, w :: targets⟩ (by simp) x (List.mem_cons_of_mem _ hx)
    · exact h.targets frame (by simp [hframe])
  settled u hu x hx := by
    rcases h.settled u hu x hx with hpending | hx
    · rcases hpending.follow with ⟨rfl, rfl⟩ | hpending
      · exact Or.inr hsettled
      · exact Or.inl hpending
    · exact Or.inr (by simpa using hx)

theorem retire (h : Inv successors n t (⟨v, []⟩ :: frames)) (hlow : t.low v < t.num v)
    (hparent : ∀ p ∈ (frames.map Frame.vertex).head?, t.low p ≤ t.low v) :
    Inv successors n t frames where
  consistent := h.consistent
  resolved := h.resolved
  spans := h.spans.retire hlow
  targets frame hframe := h.targets frame (List.mem_cons_of_mem _ hframe)
  settled u hu w hw := by
    rcases h.settled u hu w hw with hpending | hsettled
    · exact Or.inl hpending.of_cons
    · exact Or.inr (hsettled.retire h.spans hparent)

/-- The stack above a vertex that has its own number as lowlink is closed under edges. -/
theorem mem_or_of_edge (h : Inv successors n t (⟨v, []⟩ :: frames)) (hlow : t.low v = t.num v)
    (hu : u ∈ t.stack) (hvu : t.num v ≤ t.num u) (he : w ∈ successors u) :
    (w ∈ t.stack ∧ t.num v ≤ t.num w) ∨ w ∈ t.components.flatten := by
  rcases h.settled u hu w he with hpending | ⟨hentered, hsettled⟩
  · obtain ⟨frame, hframe, rfl, -⟩ := hpending.of_cons
    have hlt : t.num frame.vertex < t.num v :=
      h.spans.num_lt_head (List.mem_map_of_mem hframe)
    omega
  · rcases List.mem_append.mp ((h.consistent.entered_iff w).mp hentered) with hw | hw
    · obtain ⟨q, hq, hvq, hqw⟩ := hsettled hw v (by simp) hvu
      rcases List.mem_cons.mp hq with rfl | hq
      · exact Or.inl ⟨hw, by omega⟩
      · have hlt : t.num q < t.num v := h.spans.num_lt_head hq
        omega
    · exact Or.inr hw

theorem resolved_complete (h : Inv successors n t (⟨v, []⟩ :: frames))
    (hlow : t.low v = t.num v) : Resolved successors (t.complete v).components := by
  have hv : v ∈ t.stack := h.spans.mem_stack v (by simp)
  have hmembers : ∀ x, x ∈ (popThrough v t.stack).1.mergeSort ↔
      x ∈ t.stack ∧ t.num v ≤ t.num x := by
    intro x
    rw [List.mem_mergeSort, (h.consistent.mem_popThrough hv x).1]
  refine .cons (List.ne_nil_of_mem ((hmembers v).mpr ⟨hv, le_rfl⟩)) ?_ ?_ ?_ h.resolved
  · have hparts := (List.nodup_append.mp (h.consistent.complete hv).nodup).2.1
    have hnodup := (List.nodup_flatten.mp hparts).1 _ (List.mem_cons_self ..)
    have hsorted : (popThrough v t.stack).1.mergeSort.Pairwise (· ≤ ·) :=
      List.pairwise_mergeSort' (· ≤ ·) _
    exact (hsorted.and hnodup).imp fun hxy => Nat.lt_of_le_of_ne hxy.1 hxy.2
  · intro u hu x hx
    obtain ⟨hx, hle⟩ := (hmembers x).mp hx
    have huv := h.spans.returns_to_head ((hmembers u).mp hu).1
    exact huv.trans (h.spans.reaches v (by simp) x hx hle)
  · intro u hu w hw
    obtain ⟨hu, hle⟩ := (hmembers u).mp hu
    rw [hmembers]
    exact h.mem_or_of_edge hlow hu hle hw

theorem complete (h : Inv successors n t (⟨v, []⟩ :: frames)) (hlow : t.low v = t.num v) :
    Inv successors n (t.complete v) frames where
  consistent := h.consistent.complete (h.spans.mem_stack v (by simp))
  resolved := h.resolved_complete hlow
  spans := h.spans.complete h.consistent
  targets frame hframe := h.targets frame (List.mem_cons_of_mem _ hframe)
  settled u hu w hw := by
    have hv : v ∈ t.stack := h.spans.mem_stack v (by simp)
    rcases h.settled u ((h.consistent.mem_popThrough hv u).2.mp hu).1 w hw with hpending | hsettled
    · exact Or.inl hpending.of_cons
    · exact Or.inr (hsettled.complete h.spans h.consistent hlow)

theorem follow (hbound : ∀ u, ∀ x ∈ successors u, x < n) {targets : List Nat}
    (h : Inv successors n t (⟨v, w :: targets⟩ :: frames)) :
    Inv successors n (t.follow successors v w).1
      ((t.follow successors v w).2 ++ ⟨v, targets⟩ :: frames) := by
  have he : w ∈ successors v := h.targets _ List.mem_cons_self w (by simp)
  have hv : v ∈ t.stack := h.spans.mem_stack v (by simp)
  unfold Tarjan.follow
  split
  · next hnew =>
    have hw := hbound v w he
    have hentered := h.enter hw hnew fun p hp => (h.spans.path_to_head hp).trans (.edge he)
    refine hentered.advance [⟨w, successors w⟩] ⟨?_, fun _ p hp _ => ?_⟩
    · exact hentered.consistent.entered_of_mem List.mem_cons_self
    · refine ⟨w, by simp, ?_, ?_⟩
      · exact hentered.spans.num_le_head (by simpa using hp)
      · rw [h.consistent.low_enter_self hw, h.consistent.num_enter_self hw]
  · next i hi =>
    have hnum : t.num w = i := by simp [num, hi]
    split
    · next hw =>
      have hw := (h.consistent.isOnStack_iff w).mp hw
      have hlowered := h.lower (p := v) (by simp) hw (.edge he)
      rw [hnum] at hlowered
      refine hlowered.advance [] ⟨by simp [hi], fun _ p hp hle => ?_⟩
      refine ⟨v, by simp, hle, ?_⟩
      rw [low_lower (h.consistent.lt_size_lowlink hv), if_pos rfl, num_lower, hnum]
      exact Nat.min_le_right _ _
    · next hw =>
      refine h.advance [] ⟨by simp [hi], fun hmem => ?_⟩
      exact absurd ((h.consistent.isOnStack_iff w).mpr hmem) hw

theorem propagate (h : Inv successors n t (⟨v, []⟩ :: frames)) :
    Inv successors n (t.propagate v (frames.head?.map Frame.vertex)) (⟨v, []⟩ :: frames) := by
  cases frames with
  | nil => exact h
  | cons frame frames =>
    obtain ⟨x, hx, heq, -, hvx⟩ := h.spans.low_witness v (by simp)
    have hpath := (h.spans.path_to_head (p := frame.vertex) (by simp)).trans hvx
    change Inv successors n (t.lower frame.vertex (t.low v)) _
    rw [← heq]
    exact h.lower (by simp) hx hpath

theorem low_propagate_le (h : Inv successors n t (⟨v, []⟩ :: frames)) :
    ∀ p ∈ (frames.map Frame.vertex).head?,
      (t.propagate v (frames.head?.map Frame.vertex)).low p ≤
        (t.propagate v (frames.head?.map Frame.vertex)).low v := by
  cases frames with
  | nil => simp
  | cons frame frames =>
    rintro _ ⟨⟩
    have hsize := h.consistent.lt_size_lowlink (h.spans.mem_stack frame.vertex (by simp))
    have hlt : t.num frame.vertex < t.num v := h.spans.num_lt_head (by simp)
    have hne : v ≠ frame.vertex := fun heq => by simp [heq] at hlt
    change (t.lower frame.vertex (t.low v)).low _ ≤ (t.lower frame.vertex (t.low v)).low v
    rw [low_lower hsize, if_pos rfl, low_lower hsize, if_neg hne]
    exact Nat.min_le_right _ _

theorem close (h : Inv successors n t (⟨v, []⟩ :: frames)) :
    Inv successors n (t.close v (frames.head?.map Frame.vertex)) frames := by
  have hinv := h.propagate
  have hparent := h.low_propagate_le
  unfold Tarjan.close
  generalize t.propagate v (frames.head?.map Frame.vertex) = t' at hinv hparent ⊢
  obtain ⟨i, hi⟩ := Option.ne_none_iff_exists'.mp
    (hinv.consistent.entered_of_mem (hinv.spans.mem_stack v (by simp)))
  have hnum : t'.num v = i := by simp [num, hi]
  simp only [hi, Option.some_inj]
  split
  · exact hinv.complete (by omega)
  · obtain ⟨x, -, -, hle, -⟩ := hinv.spans.low_witness v (by simp)
    exact hinv.retire (by omega) hparent

end Inv

theorem inv_start (successors : Nat → List Nat) (n : Nat) : Inv successors n (start n) [] where
  consistent := consistent_start n
  resolved := .nil
  spans := ⟨by simp, by simp, by simp, by simp [start], by simp⟩
  targets := by simp
  settled := by simp [start]

end Invariant

section Steps

/-- The vertices that were not entered. -/
def fresh (n : Nat) (t : Tarjan) : List Nat := (List.range n).filter fun v => t.index? v = none

/-- The steps that the search can still take: one for each edge that was not followed and
one for each vertex that was not left. -/
def work (successors : Nat → List Nat) (n : Nat) (t : Tarjan) (frames : List Frame) : Nat :=
  Number.total ((fresh n t).map fun v => (successors v).length + 1) +
    Number.total (frames.map fun frame => frame.targets.length + 1)

theorem fresh_perm (hc : Consistent n t) (hw : w < n) (hnew : t.index? w = none) :
    (fresh n t).Perm (w :: fresh n (t.enter w)) := by
  have hmem : w ∈ fresh n t := by simp [fresh, hw, hnew]
  have herase : (fresh n t).erase w = fresh n (t.enter w) := by
    rw [fresh, (List.nodup_range.filter _).erase_eq_filter, List.filter_filter, fresh]
    refine List.filter_congr fun v _ => ?_
    rw [index?_enter (by simpa [hc.size_index] using hw)]
    by_cases hv : v = w <;> simp [hv]
  rw [← herase]
  exact List.perm_cons_erase hmem

/-- A frame opened holds what the vertex entered was worth. -/
theorem work_enter (hc : Consistent n t) (hw : w < n) (hnew : t.index? w = none) :
    work successors n (t.enter w) (⟨w, successors w⟩ :: frames) = work successors n t frames := by
  have htotal := Number.total_perm
    ((fresh_perm hc hw hnew).map fun v => (successors v).length + 1)
  simp only [work, List.map_cons, Number.total] at htotal ⊢
  omega

theorem work_le (successors : Nat → List Nat) (n : Nat) (t : Tarjan) :
    work successors n t [] ≤
      Number.total ((List.range n).map fun v => (successors v).length + 1) := by
  have hsub : (fresh n t).Sublist (List.range n) := List.filter_sublist
  simpa only [work, List.map_nil, Number.total, Nat.add_zero] using
    Number.total_le_of_sublist (hsub.map fun v => (successors v).length + 1)

theorem work_follow (hbound : ∀ u, ∀ x ∈ successors u, x < n) {targets : List Nat}
    (h : Inv successors n t (⟨v, w :: targets⟩ :: frames)) :
    work successors n (t.follow successors v w).1
        ((t.follow successors v w).2 ++ ⟨v, targets⟩ :: frames) + 1 =
      work successors n t (⟨v, w :: targets⟩ :: frames) := by
  have hw : w < n := hbound v w (h.targets _ List.mem_cons_self w (by simp))
  unfold Tarjan.follow
  split
  · next hnew =>
    rw [List.singleton_append, work_enter h.consistent hw hnew]
    simp only [work, List.map_cons, Number.total, List.length_cons]
    omega
  · have hfresh : ∀ s : Tarjan, s.index? = t.index? → fresh n s = fresh n t :=
      fun s hs => by rw [fresh, fresh, hs]
    rw [List.nil_append, work, hfresh _ (by split <;> rfl)]
    simp only [work, List.map_cons, Number.total, List.length_cons]
    omega

theorem index?_close (t : Tarjan) (v : Nat) (parent? : Option Nat) :
    (t.close v parent?).index? = t.index? := by
  unfold Tarjan.close
  cases parent? <;> dsimp only [propagate] <;> split <;> rfl

theorem work_close (successors : Nat → List Nat) (n : Nat) (t : Tarjan) (frames : List Frame)
    (v : Nat) (parent? : Option Nat) :
    work successors n (t.close v parent?) frames + 1 =
      work successors n t (⟨v, []⟩ :: frames) := by
  simp only [work, fresh, index?_close, List.map_cons, Number.total, List.length_nil]
  omega

theorem entered_follow (successors : Nat → List Nat) (hc : Consistent n t) (hw : w < n) (v : Nat)
    {x : Nat} (hx : t.index? x ≠ none) : (t.follow successors v w).1.index? x ≠ none := by
  unfold Tarjan.follow
  split
  · rw [index?_enter (by simpa [hc.size_index] using hw)]
    split
    · simp
    · exact hx
  · split <;> exact hx

theorem visit_inv (hbound : ∀ u, ∀ x ∈ successors u, x < n) {steps : Nat}
    (h : Inv successors n t frames) (hwork : work successors n t frames ≤ steps) :
    Inv successors n (visit successors steps t frames) [] ∧
      ∀ x, t.index? x ≠ none → (visit successors steps t frames).index? x ≠ none := by
  induction steps, t, frames using visit.induct successors with
  | case1 steps t =>
    rw [visit]
    exact ⟨h, fun _ => id⟩
  | case2 t frame frames => simp [work, Number.total] at hwork
  | case3 steps t v w targets frames t' opened hstep ih =>
    have hinv := h.follow hbound
    have hless := work_follow hbound h
    have hentered : ∀ x, t.index? x ≠ none → t'.index? x ≠ none := by
      intro x hx
      have := entered_follow successors h.consistent
        (hbound v w (h.targets _ List.mem_cons_self w (by simp))) v hx
      rwa [hstep] at this
    rw [hstep] at hinv hless
    dsimp only at hless
    obtain ⟨hdone, hkept⟩ := ih hinv (by omega)
    rw [visit, hstep]
    exact ⟨hdone, fun x hx => hkept x (hentered x hx)⟩
  | case4 steps t v frames ih =>
    have hless := work_close successors n t frames v (frames.head?.map Frame.vertex)
    obtain ⟨hdone, hkept⟩ := ih h.close (by omega)
    rw [visit]
    exact ⟨hdone, fun x hx => hkept x (by rwa [index?_close])⟩

end Steps

section Run

theorem explore_inv (hbound : ∀ u, ∀ x ∈ successors u, x < n) {steps root : Nat}
    (hsteps : Number.total ((List.range n).map fun v => (successors v).length + 1) ≤ steps)
    (hroot : root < n) (h : Inv successors n t []) :
    Inv successors n (explore successors steps t root) [] ∧
      (∀ x, t.index? x ≠ none → (explore successors steps t root).index? x ≠ none) ∧
      (explore successors steps t root).index? root ≠ none := by
  unfold explore
  split
  · next hnew =>
    have hwork : work successors n (t.enter root) [⟨root, successors root⟩] ≤ steps := by
      rw [work_enter h.consistent hroot hnew]
      exact (work_le successors n t).trans hsteps
    have hentered : ∀ x, t.index? x ≠ none ∨ x = root → (t.enter root).index? x ≠ none := by
      intro x hx
      rw [index?_enter (by simpa [h.consistent.size_index] using hroot)]
      split
      · simp
      · next hne => exact hx.resolve_right hne
    obtain ⟨hdone, hkept⟩ := visit_inv hbound (h.enter hroot hnew (by simp)) hwork
    exact ⟨hdone, fun x hx => hkept x (hentered x (Or.inl hx)),
      hkept root (hentered root (Or.inr rfl))⟩
  · next hold => exact ⟨h, fun _ => id, hold⟩

theorem foldl_explore_inv (hbound : ∀ u, ∀ x ∈ successors u, x < n) {steps : Nat}
    (hsteps : Number.total ((List.range n).map fun v => (successors v).length + 1) ≤ steps)
    {roots : List Nat} (hroots : ∀ r ∈ roots, r < n) (h : Inv successors n t []) :
    Inv successors n (roots.foldl (explore successors steps) t) [] ∧
      ∀ x, t.index? x ≠ none ∨ x ∈ roots →
        (roots.foldl (explore successors steps) t).index? x ≠ none := by
  induction roots generalizing t with
  | nil => exact ⟨h, fun x hx => hx.resolve_right (by simp)⟩
  | cons root roots ih =>
    obtain ⟨hroot, hkept, hentered⟩ := explore_inv hbound hsteps (hroots root (by simp)) h
    obtain ⟨hdone, hall⟩ := ih (fun r hr => hroots r (List.mem_cons_of_mem _ hr)) hroot
    refine ⟨hdone, fun x hx => hall x ?_⟩
    rcases hx with hx | hx
    · exact Or.inl (hkept x hx)
    · rcases List.mem_cons.mp hx with rfl | hx
      · exact Or.inl hentered
      · exact Or.inr hx

theorem run_components (hbound : ∀ u, ∀ x ∈ successors u, x < n) :
    Resolved successors (run n successors).components ∧
      (run n successors).components.flatten.Perm (List.range n) := by
  have hroots : ∀ r ∈ List.range n, r < n := fun _ => List.mem_range.mp
  obtain ⟨h, hentered⟩ := foldl_explore_inv hbound le_rfl hroots (inv_start successors n)
  change Inv successors n (run n successors) [] at h
  change ∀ x, _ → (run n successors).index? x ≠ none at hentered
  -- Without a path nothing on the stack has anything to return to.
  have hstack : (run n successors).stack = [] := by
    refine List.eq_nil_iff_forall_not_mem.mpr fun v hv => ?_
    obtain ⟨p, hp, -⟩ := h.spans.returns v hv
    simp at hp
  have hmem : ∀ v, (run n successors).index? v ≠ none ↔
      v ∈ (run n successors).components.flatten := by
    intro v
    rw [h.consistent.entered_iff, hstack, List.nil_append]
  refine ⟨h.resolved, (List.perm_ext_iff_of_nodup ?_ List.nodup_range).mpr fun v => ?_⟩
  · exact (List.nodup_append.mp h.consistent.nodup).2.1
  · rw [← hmem, List.mem_range]
    exact ⟨h.consistent.lt_of_entered, fun hv => hentered v (Or.inr (List.mem_range.mpr hv))⟩

end Run

end DeltaDebugging.Graph.Tarjan
