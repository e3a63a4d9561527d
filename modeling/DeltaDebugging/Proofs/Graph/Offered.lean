import DeltaDebugging.Proofs.Graph.Layers

/-!
# What the layers offer

A layer offers live components all of whose dependencies have been kept, and it offers
every one that was not kept before. Its result adds the retained components to those kept.
The counters find the next layer: they count the kept dependencies, and a component is
ready once the count reaches the number of all its dependencies. When nothing is ready any
more, all that is alive has been kept.
-/
namespace DeltaDebugging.Layers

open DeltaDebugging.Graph (Path)
open DeltaDebugging.Condensed (ofGraph mem_ids lt_size_of_mem_successorsOf lt_of_mem_successorsOf
  mem_predecessorsOf_iff_successorsOf)

variable {α : Type} {g : DependencyGraph α} {l : Layers} {kept level : List Nat} {cut : Cut Nat}
  {k d : Nat}

section Ready

theorem firstLayer_ok {c : Condensed α} {first : Level Nat} (h : l.firstLayer c = .ok first) :
    first.isEmpty = false ∧ ∀ k, k ∈ first.items ↔ k ∈ c.sinks ∧ l.isAlive k = true := by
  unfold firstLayer at h
  split at h
  · cases h
  · dsimp only at h
    split at h
    · cases h
    · next hsome =>
      cases h
      exact ⟨by simpa using hsome, fun k => by rw [Level.mem_ofList, List.mem_filter]⟩

theorem getD_map_ids {c : Condensed α} (f : Nat → Nat) (hk : k < c.size) :
    (c.ids.map f).getD k 0 = f k := by
  simp [Condensed.ids, List.getD_eq_getElem?_getD, hk]

/-- The components that a result makes ready. -/
def ready (c : Condensed α) (l : Layers) (cut : Cut Nat) : List Nat :=
  c.ids.filter fun k =>
    decide (0 < if (l.kill c cut.deleted).isAlive k then newlyKept c cut.retained k else 0) &&
      decide ((l.nextLayer c cut).2.keptDependencies.getD k 0 = c.outDegree k)

theorem nextLayer_fst (c : Condensed α) (l : Layers) (cut : Cut Nat) :
    (l.nextLayer c cut).1 =
      if (l.ready c cut).isEmpty then none else some (Level.ofList (l.ready c cut)) := by
  have hready : l.ready c cut = c.ids.filter fun k =>
      decide (0 < (c.ids.map fun k => if (l.kill c cut.deleted).isAlive k
        then newlyKept c cut.retained k else 0).getD k 0) &&
      decide ((l.nextLayer c cut).2.keptDependencies.getD k 0 = c.outDegree k) :=
    List.filter_congr fun k hk => by rw [getD_map_ids _ (mem_ids.mp hk)]
  rw [hready]
  rfl

theorem nodup_successorsOf (g : DependencyGraph α) (k : Nat) :
    ((ofGraph g).successorsOf k).Nodup := by
  unfold Condensed.successorsOf
  rw [List.getD_eq_getElem?_getD]
  cases hrow : (ofGraph g).successors[k]? with
  | none => exact List.nodup_nil
  | some row =>
    obtain ⟨_, -, rfl⟩ := List.mem_map.mp (List.mem_of_getElem? hrow)
    exact List.nodup_range.filter _

/-- The components kept on which `k` depends are the dependencies of `k` that are kept. -/
theorem newlyKept_eq (hkept : kept.Nodup) (k : Nat) :
    newlyKept (ofGraph g) kept k = ((ofGraph g).successorsOf k).countP (· ∈ kept) := by
  have hperm : (kept.filter fun d => ((ofGraph g).predecessorsOf d).contains k).Perm
      (((ofGraph g).successorsOf k).filter (· ∈ kept)) := by
    rw [List.perm_ext_iff_of_nodup (hkept.filter _) ((nodup_successorsOf g k).filter _)]
    intro d
    simp only [List.mem_filter, List.contains_iff_mem, mem_predecessorsOf_iff_successorsOf,
      decide_eq_true_eq]
    exact and_comm
  rw [newlyKept, hperm.length_eq, List.countP_eq_length_filter]

namespace Closed

theorem mem_ready (h : Closed (ofGraph g) l) (hretained : cut.retained.Nodup) :
    k ∈ l.ready (ofGraph g) cut ↔ (l.nextLayer (ofGraph g) cut).2.isAlive k = true ∧
      (∃ d ∈ (ofGraph g).successorsOf k, d ∈ cut.retained) ∧
      (l.nextLayer (ofGraph g) cut).2.keptDependencies.getD k 0 = (ofGraph g).outDegree k := by
  have hpos : (0 < if (l.kill (ofGraph g) cut.deleted).isAlive k
      then newlyKept (ofGraph g) cut.retained k else 0) ↔
      (l.kill (ofGraph g) cut.deleted).isAlive k = true ∧
        ∃ d ∈ (ofGraph g).successorsOf k, d ∈ cut.retained := by
    rw [newlyKept_eq hretained]
    split
    · next halive => simp [halive, List.countP_pos_iff]
    · next hdead => simp [hdead]
  rw [ready, List.mem_filter, Bool.and_eq_true, decide_eq_true_eq, decide_eq_true_eq, hpos,
    and_assoc]
  constructor
  · exact fun hk => hk.2
  · exact fun hk => ⟨mem_ids.mpr ((h.kill _).lt_size hk.1), hk⟩

theorem keptDependencies_nextLayer (h : Closed (ofGraph g) l) (hretained : cut.retained.Nodup)
    (hk : (l.nextLayer (ofGraph g) cut).2.isAlive k = true) :
    (l.nextLayer (ofGraph g) cut).2.keptDependencies.getD k 0 =
      l.keptDependencies.getD k 0 +
        ((ofGraph g).successorsOf k).countP (· ∈ cut.retained) := by
  have hlt := (h.nextLayer cut).lt_size hk
  have hkill : (l.kill (ofGraph g) cut.deleted).isAlive k = true := hk
  have hadded := getD_map_ids (c := ofGraph g) (fun k =>
    if (l.kill (ofGraph g) cut.deleted).isAlive k then newlyKept (ofGraph g) cut.retained k
    else 0) hlt
  rw [if_pos hkill, newlyKept_eq hretained] at hadded
  rw [← hadded]
  have hlength : k < l.keptDependencies.length := by rw [h.length_kept]; exact hlt
  have hlength' : k < (ofGraph g).ids.length := by simpa [Condensed.ids] using hlt
  simp only [Layers.nextLayer, Layers.kill, List.getD_eq_getElem?_getD, List.getElem?_zipWith,
    List.getElem?_map, List.getElem?_eq_getElem hlength, List.getElem?_eq_getElem hlength']
  rfl

end Closed

end Ready

section Offers

/-- After the components `kept`, those of `level` are offered. -/
structure Offers (c : Condensed α) (l : Layers) (kept level : List Nat) : Prop where
  kept_alive : ∀ k ∈ kept, l.isAlive k = true
  kept_closed : ∀ k ∈ kept, ∀ d ∈ c.successorsOf k, d ∈ kept
  level_alive : ∀ k ∈ level, l.isAlive k = true
  level_ready : ∀ k ∈ level, ∀ d ∈ c.successorsOf k, d ∈ kept
  level_new : ∀ k ∈ level, k ∉ kept
  counted : ∀ k, l.isAlive k = true →
    l.keptDependencies.getD k 0 = (c.successorsOf k).countP (· ∈ kept)
  covered : ∀ k, l.isAlive k = true → (∀ d ∈ c.successorsOf k, d ∈ kept) →
    k ∈ kept ∨ k ∈ level

namespace Offers

theorem congr {c : Condensed α} {level' : List Nat} (h : l.Offers c kept level)
    (hlevel : ∀ k, k ∈ level' ↔ k ∈ level) : l.Offers c kept level' where
  kept_alive := h.kept_alive
  kept_closed := h.kept_closed
  level_alive k hk := h.level_alive k ((hlevel k).mp hk)
  level_ready k hk := h.level_ready k ((hlevel k).mp hk)
  level_new k hk := h.level_new k ((hlevel k).mp hk)
  counted := h.counted
  covered k hk hready := (h.covered k hk hready).imp_right (hlevel k).mpr

theorem first (g : DependencyGraph α) :
    (start (ofGraph g)).Offers (ofGraph g) [] (ofGraph g).sinks where
  kept_alive := by simp
  kept_closed := by simp
  level_alive k hk := (isAlive_start _ k).mpr (mem_ids.mp (List.mem_filter.mp hk).1)
  level_ready k hk d hd := by
    have hsink := (List.mem_filter.mp hk).2
    rw [decide_eq_true_eq, Condensed.outDegree, List.length_eq_zero_iff] at hsink
    simp [hsink] at hd
  level_new := by simp
  counted k hk := by
    have hlt := (isAlive_start _ k).mp hk
    simp [start, List.getD_eq_getElem?_getD, hlt]
  covered k hk hready := by
    refine Or.inr (List.mem_filter.mpr ⟨mem_ids.mpr ((isAlive_start _ k).mp hk), ?_⟩)
    have hnone : (ofGraph g).successorsOf k = [] :=
      List.eq_nil_iff_forall_not_mem.mpr fun d hd => by simpa using hready d hd
    simp [Condensed.outDegree, hnone]

theorem mem_kept_of_path {c : Condensed α} (h : l.Offers c kept level)
    (hp : Path c.successorsOf k d) (hk : k ∈ kept) : d ∈ kept := by
  induction hp with
  | refl => exact hk
  | step he _ ih => exact ih (h.kept_closed _ hk _ he)

/-- What is offered leads only to itself and to what is kept. -/
theorem eq_or_mem_kept_of_path {c : Condensed α} (h : l.Offers c kept level)
    (hp : Path c.successorsOf k d) (hk : k ∈ level) : k = d ∨ d ∈ kept := by
  cases hp with
  | refl => exact Or.inl rfl
  | step he hp => exact Or.inr (h.mem_kept_of_path hp (h.level_ready k hk _ he))

theorem countP_mem_append {added : List Nat} (hnew : ∀ k ∈ kept, k ∉ added) (ids : List Nat) :
    ids.countP (· ∈ kept ++ added) = ids.countP (· ∈ kept) + ids.countP (· ∈ added) := by
  induction ids with
  | nil => rfl
  | cons k ids ih =>
    rw [List.countP_cons, List.countP_cons, List.countP_cons, ih]
    by_cases hk : k ∈ kept
    · simp [hk, hnew k hk, Nat.add_right_comm]
    · simp [hk, Nat.add_assoc]

section Next

variable (h : l.Offers (ofGraph g) kept level) (hl : Closed (ofGraph g) l) (hnodup : level.Nodup)
  (hcut : (cut.retained ++ cut.deleted).Perm level)

include h hcut in
theorem not_mem_retained : ∀ k ∈ kept, k ∉ cut.retained := fun k hk hret =>
  h.level_new k (hcut.subset (List.mem_append_left _ hret)) hk

include h hl hnodup hcut

/-- The counters of the next layers are right again. -/
theorem counted_next (hk : (l.nextLayer (ofGraph g) cut).2.isAlive k = true) :
    (l.nextLayer (ofGraph g) cut).2.keptDependencies.getD k 0 =
      ((ofGraph g).successorsOf k).countP (· ∈ kept ++ cut.retained) := by
  have hretained := (List.nodup_append.mp (hcut.nodup_iff.mpr hnodup)).1
  rw [hl.keptDependencies_nextLayer hretained hk, h.counted k (hl.isAlive_nextLayer.mp hk).1,
    countP_mem_append (h.not_mem_retained hcut)]

theorem full_next (hk : (l.nextLayer (ofGraph g) cut).2.isAlive k = true) :
    (l.nextLayer (ofGraph g) cut).2.keptDependencies.getD k 0 = (ofGraph g).outDegree k ↔
      ∀ d ∈ (ofGraph g).successorsOf k, d ∈ kept ++ cut.retained := by
  rw [h.counted_next hl hnodup hcut hk, Condensed.outDegree, List.countP_eq_length]
  simp only [decide_eq_true_eq]

/-- Nothing kept depends on a deleted component, so all that is kept stays alive. -/
theorem kept_alive_next (hk : k ∈ kept ++ cut.retained) :
    (l.nextLayer (ofGraph g) cut).2.isAlive k = true := by
  have hdisjoint := (List.nodup_append.mp (hcut.nodup_iff.mpr hnodup)).2.2
  have hsafe : ∀ k ∈ kept, ∀ d ∈ cut.deleted, ¬ Path (ofGraph g).successorsOf k d :=
    fun k hk d hd hp =>
      h.level_new d (hcut.subset (List.mem_append_right _ hd)) (h.mem_kept_of_path hp hk)
  rw [hl.isAlive_nextLayer]
  rcases List.mem_append.mp hk with hk | hk
  · exact ⟨h.kept_alive k hk, hsafe k hk⟩
  · have hoffered := hcut.subset (List.mem_append_left _ hk)
    refine ⟨h.level_alive k hoffered, fun d hd hp => ?_⟩
    rcases h.eq_or_mem_kept_of_path hp hoffered with rfl | hkept
    · exact hdisjoint k hk k hd rfl
    · exact hsafe d hkept d hd (.refl d)

/-- A result that splits the layer keeps what it retains, and then the ready ones are offered. -/
theorem next : (l.nextLayer (ofGraph g) cut).2.Offers (ofGraph g) (kept ++ cut.retained)
    (l.ready (ofGraph g) cut) := by
  have hretained := (List.nodup_append.mp (hcut.nodup_iff.mpr hnodup)).1
  have hoffered : ∀ k ∈ cut.retained, k ∈ level := fun k hk =>
    hcut.subset (List.mem_append_left _ hk)
  constructor
  case kept_alive => exact fun k hk => h.kept_alive_next hl hnodup hcut hk
  case kept_closed =>
    intro k hk d hd
    rcases List.mem_append.mp hk with hk | hk
    · exact List.mem_append_left _ (h.kept_closed k hk d hd)
    · exact List.mem_append_left _ (h.level_ready k (hoffered k hk) d hd)
  case level_alive => exact fun k hk => ((hl.mem_ready hretained).mp hk).1
  case level_ready =>
    intro k hk
    obtain ⟨halive, -, hcount⟩ := (hl.mem_ready hretained).mp hk
    exact (h.full_next hl hnodup hcut halive).mp hcount
  case level_new =>
    intro k hk hold
    obtain ⟨-, ⟨d, hd, hret⟩, -⟩ := (hl.mem_ready hretained).mp hk
    refine h.not_mem_retained hcut d ?_ hret
    rcases List.mem_append.mp hold with hold | hold
    · exact h.kept_closed k hold d hd
    · exact h.level_ready k (hoffered k hold) d hd
  case counted => exact fun k hk => h.counted_next hl hnodup hcut hk
  case covered =>
    intro k hk hready
    obtain ⟨halive, hlive⟩ := hl.isAlive_nextLayer.mp hk
    by_cases hsome : ∃ d ∈ (ofGraph g).successorsOf k, d ∈ cut.retained
    · exact Or.inr ((hl.mem_ready hretained).mpr
        ⟨hk, hsome, (h.full_next hl hnodup hcut hk).mpr hready⟩)
    · have hbefore : ∀ d ∈ (ofGraph g).successorsOf k, d ∈ kept := fun d hd =>
        (List.mem_append.mp (hready d hd)).resolve_right fun hret => hsome ⟨d, hd, hret⟩
      refine Or.inl (List.mem_append.mpr ?_)
      rcases h.covered k halive hbefore with hk | hk
      · exact Or.inl hk
      · refine Or.inr ((List.mem_append.mp (hcut.mem_iff.mpr hk)).resolve_right fun hdel => ?_)
        exact hlive k hdel (.refl k)

end Next

/-- Once nothing is offered any more, all that is alive has been kept. -/
theorem mem_kept_of_isAlive (h : l.Offers (ofGraph g) kept []) (hl : Closed (ofGraph g) l)
    (hk : l.isAlive k = true) : k ∈ kept := by
  -- Dependencies have higher numbers, so the numbers above are settled first.
  induction hn : (ofGraph g).size - k using Nat.strong_induction_on generalizing k with
  | _ n ih =>
    refine (h.covered k hk fun d hd => ?_).resolve_right List.not_mem_nil
    have hlt := lt_of_mem_successorsOf hd
    have := (lt_size_of_mem_successorsOf hd).2
    exact ih ((ofGraph g).size - d) (by omega) (hl.alive_of_edge k hk d hd) rfl

end Offers

end Offers

end DeltaDebugging.Layers
