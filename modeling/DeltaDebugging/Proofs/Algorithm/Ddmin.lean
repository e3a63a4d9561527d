import DeltaDebugging.Proofs.Algorithm.Chunks
import DeltaDebugging.Proofs.Trials

/-!
# Rounds of minimizing delta debugging

The chunks of a round are not empty, and from two chunks on none of them holds all
positions, so every candidate is a proper part of the configuration. Once there are as
many chunks as positions, the candidates leave out each single position, whatever the
length: with two positions the chunks do, with more their complements. A round in
which nothing holds is therefore a proof that no single position can be dropped.
-/
namespace DeltaDebugging.Ddmin

open Trials

variable {α : Type}

section Candidates

variable {minSize n : Nat} {current kept : List Nat} {c : Nat × Nat}

theorem within_sublist (current : List Nat) (c : Nat × Nat) :
    (within current c).Sublist current :=
  (List.take_sublist _ _).trans (List.drop_sublist _ _)

theorem outside_sublist (h : c.1 ≤ c.2) : (outside current c).Sublist current := by
  have hsplit : outside current c = current.take c.1 ++ (current.drop c.1).drop (c.2 - c.1) := by
    rw [outside, List.drop_drop, Nat.add_sub_cancel' h]
  rw [hsplit]
  conv_rhs => rw [← List.take_append_drop c.1 current]
  exact (List.Sublist.refl _).append (List.drop_sublist _ _)

theorem length_within (hc : c ∈ chunks current.length n) :
    (within current c).length = c.2 - c.1 := by
  have := chunk_le hc
  simp only [within, List.length_take, List.length_drop]
  omega

theorem length_outside (hc : c ∈ chunks current.length n) :
    (outside current c).length = current.length - (c.2 - c.1) := by
  have := chunk_le hc
  have := chunk_lt hc
  simp only [outside, List.length_append, List.length_take, List.length_drop]
  omega

theorem mem_candidates : kept ∈ candidates minSize current n ↔ minSize ≤ kept.length ∧
    ∃ c ∈ chunks current.length n, kept = within current c ∨
      2 < min n current.length ∧ kept = outside current c := by
  have houtside : kept ∈ (if 2 < min n current.length then
      (chunks current.length n).map (outside current) else []) ↔
      2 < min n current.length ∧ ∃ c ∈ chunks current.length n, outside current c = kept := by
    split
    · next h => simp [h]
    · next h => simp [h]
  simp only [candidates, List.mem_filter, List.mem_append, decide_eq_true_eq, length_chunks,
    houtside, List.mem_map]
  constructor
  · rintro ⟨⟨c, hc, rfl⟩ | ⟨hthree, c, hc, rfl⟩, hmin⟩
    · exact ⟨hmin, c, hc, Or.inl rfl⟩
    · exact ⟨hmin, c, hc, Or.inr ⟨hthree, rfl⟩⟩
  · rintro ⟨hmin, c, hc, rfl | ⟨hthree, rfl⟩⟩
    · exact ⟨Or.inl ⟨c, hc, rfl⟩, hmin⟩
    · exact ⟨Or.inr ⟨hthree, c, hc, rfl⟩, hmin⟩

/-- A candidate is a proper part of the configuration and is not empty. -/
theorem candidate_spec (hn : 2 ≤ n) (hlen : 2 ≤ current.length)
    (hkept : kept ∈ candidates minSize current n) :
    kept.Sublist current ∧ max 1 minSize ≤ kept.length ∧ kept.length < current.length := by
  obtain ⟨hmin, c, hc, rfl | ⟨hthree, rfl⟩⟩ := mem_candidates.mp hkept
  · have hlt := chunk_lt hc
    have hproper := chunk_proper hn hlen hc
    have hlength := length_within hc
    exact ⟨within_sublist current c, by omega, by omega⟩
  · have hlt := chunk_lt hc
    have hproper := chunk_proper hn hlen hc
    have hlength := length_outside hc
    exact ⟨outside_sublist hlt.le, by omega, by omega⟩

theorem eraseIdx_mem_candidates (hn : current.length ≤ n) (hlen : 2 ≤ current.length)
    (hmin : minSize ≤ current.length - 1) {i : Nat} (hi : i < current.length) :
    current.eraseIdx i ∈ candidates minSize current n := by
  rw [mem_candidates, List.length_eraseIdx_of_lt hi, chunks_of_le hn]
  refine ⟨hmin, ?_⟩
  by_cases hthree : 2 < current.length
  · refine ⟨(i, i + 1), by simpa using hi, Or.inr ⟨by omega, ?_⟩⟩
    rw [outside, List.eraseIdx_eq_take_drop_succ]
  · obtain ⟨a, b, rfl⟩ := List.length_eq_two.mp (show current.length = 2 by omega)
    have hcases : i = 0 ∨ i = 1 := by simp at hi; omega
    rcases hcases with rfl | rfl
    · exact ⟨(1, 2), by simp, Or.inl (by simp [within])⟩
    · exact ⟨(0, 1), by simp, Or.inl (by simp [within])⟩

theorem candidate_narrows {size : Nat} (hn : 2 ≤ n) (hlen : 2 ≤ current.length)
    (hcurrent : current.Sublist (List.range size))
    (hkept : kept ∈ candidates minSize current n) :
    Narrows True (max 1 minSize) (Cut.maskOf size current) (Cut.maskOf size kept) := by
  obtain ⟨hsub, hleast, hlt⟩ := candidate_spec hn hlen hkept
  have hcount : ∀ {l : List Nat}, l.Sublist (List.range size) →
      (Cut.maskOf size l).count true = l.length := fun hl =>
    Cut.count_maskOf (hl.nodup List.nodup_range) fun i hi => List.mem_range.mp (hl.subset hi)
  have hkeptCount := hcount (hsub.trans hcurrent)
  refine ⟨Cut.within_maskOf hsub.subset, fun _ heq => ?_, by omega⟩
  have hcurrentCount := hcount hcurrent
  rw [heq] at hkeptCount
  omega

end Candidates

section Rounds

variable {items : List α} {limits : Limits} {cancellable : Bool} {current : List Nat}

/-- Up to the first candidate that holds every trial is refused, so if there is none all
candidates were refused since the last commitment. -/
theorem firstHolding_ensures {admits : List Bool → List Bool → Prop} {committed : List Bool}
    {cands : List (List Nat)} {h : Trials α}
    (hd : Disciplined items admits h committed)
    (hcands : ∀ kept ∈ cands, admits committed (Cut.maskOf items.length kept)) (s : Statistics) :
    (firstHolding cancellable items cands s).Ensures
      (fun h' r => match r.1 with
        | some kept => kept ∈ cands ∧ Disciplined items admits h' (Cut.maskOf items.length kept)
        | none => Disciplined items admits h' committed ∧ sinceHolds h ⊆ sinceHolds h' ∧
            ∀ kept ∈ cands, ∃ x ∈ sinceHolds h', x.1 = Cut.keeping items kept)
      (fun h' _ => ∃ mask, Disciplined items admits h' mask) h := by
  induction cands generalizing h s with
  | nil => exact ⟨hd, fun _ hx => hx, by simp⟩
  | cons kept cands ih =>
    have hkept := hcands kept (by simp)
    have hnext := fun v => hd.concat (by simp) hkept v
    unfold firstHolding
    rw [Attempt.ensures_bind]
    refine Attempt.ensures_trial ⟨_, hd⟩ (fun v => ⟨_, hnext v⟩) fun v => ?_
    by_cases hv : v = .holds
    · subst hv
      exact ⟨by simp, hnext .holds⟩
    · have hrefused := hnext v
      rw [if_neg hv] at hrefused
      rw [if_neg (by simpa using hv)]
      refine (ih hrefused (fun k hk => hcands k (by simp [hk])) _).mono (fun h' r hr => ?_)
        fun _ _ hfail => hfail
      rcases r with ⟨_ | next, s'⟩
      · obtain ⟨hd', hsince, hall⟩ := hr
        rw [sinceHolds_concat_of_ne hv] at hsince
        refine ⟨hd', fun x hx => hsince (List.mem_append_left _ hx), fun k hk => ?_⟩
        rcases List.mem_cons.mp hk with rfl | hk
        · exact ⟨_, hsince (List.mem_append_right _ (List.mem_singleton.mpr rfl)), rfl⟩
        · exact hall k hk
      · exact ⟨List.mem_cons_of_mem _ hr.1, hr.2⟩

/-- What every trial keeps of the trials so far and the counters is kept up to the first
candidate that holds, and only a fired token ends that early. -/
theorem firstHolding_keeps {P : Trials α → Statistics → Prop}
    (hP : ∀ h s c v, P h s → P (h ++ [(c, v)]) (s.afterTrial v)) {cands : List (List Nat)}
    {h : Trials α} {s : Statistics} (hs : P h s) :
    (firstHolding cancellable items cands s).Ensures
      (fun h' r => P h' r.2 ∧ ∀ kept, r.1 = some kept → kept ∈ cands)
      (fun _ e => e = .cancelled) h := by
  induction cands generalizing h s with
  | nil => exact ⟨hs, by simp⟩
  | cons kept cands ih =>
    unfold firstHolding
    rw [Attempt.ensures_bind]
    refine Attempt.ensures_trial rfl (fun _ => rfl) fun v => ?_
    have hnext := hP h s (Cut.keeping items kept) v hs
    split
    · exact ⟨hnext, by simp⟩
    · exact (ih hnext).mono (fun _ r hr => ⟨hr.1, fun k hk => List.mem_cons_of_mem _ (hr.2 k hk)⟩)
        fun _ _ hfail => hfail

/-- What every trial, every split into more chunks and an early end keep is kept by all rounds, and
only a fired token or a lack of rounds ends them with an error. -/
theorem rounds_keeps {P : Trials α → Statistics → Prop}
    (htrial : ∀ h s c v, P h s → P (h ++ [(c, v)]) (s.afterTrial v))
    (hgranularity : ∀ h s, ∀ n ≤ items.length, P h s → P h (s.granularity n))
    (hearly : ∀ h s reason, P h s → P h (s.terminateEarly reason)) {remaining n failures : Nat}
    {s : Statistics} {h : Trials α} (hn : 2 ≤ n) (hcurrent : current.length ≤ items.length)
    (hs : P h s) :
    (rounds limits cancellable items remaining current n failures s).Ensures (fun h r => P h r.2)
      (fun _ e => e = .cancelled ∨ e = .maxIterationsReached limits.maxIterations) h := by
  induction remaining generalizing current n failures s h with
  | zero =>
    unfold rounds
    split
    · exact hs
    · exact Or.inr rfl
  | succ remaining ih =>
    unfold rounds
    split
    · exact hs
    next hlong =>
      rw [Attempt.ensures_bind]
      refine (firstHolding_keeps htrial hs).mono (fun h r hr => ?_) fun _ _ => Or.inl
      obtain ⟨next?, s'⟩ := r
      obtain ⟨hs', hnext⟩ := hr
      cases next? with
      | some next =>
        have hlt := (candidate_spec hn (by omega) (hnext next rfl)).2.2
        exact ih (Nat.le_refl 2) (by omega) hs'
      | none =>
        have hmore := hgranularity h s' (min (2 * n) current.length) (by omega) hs'
        dsimp only
        split
        · exact hs'
        · split
          · exact hearly _ _ _ hmore
          · exact ih (by omega) hcurrent hmore

/-- Since the last commitment it was refused to leave out each single position, unless
there are too few of them. -/
def Minimal (minSize : Nat) (items : List α) (current : List Nat) (h : Trials α) : Prop :=
  2 ≤ current.length → minSize ≤ current.length - 1 → ∀ i < current.length,
    ∃ x ∈ sinceHolds h, x.1 = Cut.keeping items (current.eraseIdx i)

theorem minimal_of_refused {n : Nat} {h : Trials α} (hn : current.length ≤ n)
    (hall : ∀ kept ∈ candidates limits.minSize current n,
      ∃ x ∈ sinceHolds h, x.1 = Cut.keeping items kept) :
    Minimal limits.minSize items current h :=
  fun hlen hmin _ hi => hall _ (eraseIdx_mem_candidates hn hlen hmin hi)

theorem rounds_ensures {remaining n failures : Nat} {s : Statistics} {h : Trials α}
    (hcurrent : current.Sublist (List.range items.length)) (hn : 2 ≤ n)
    (hd : Disciplined items (Narrows True (max 1 limits.minSize)) h
      (Cut.maskOf items.length current)) :
    (rounds limits cancellable items remaining current n failures s).Ensures
      (fun h' r => r.1.Sublist (List.range items.length) ∧
        Disciplined items (Narrows True (max 1 limits.minSize)) h'
          (Cut.maskOf items.length r.1) ∧
        (limits.earlyTermination = false → Minimal limits.minSize items r.1 h'))
      (fun h' _ => ∃ mask, Disciplined items (Narrows True (max 1 limits.minSize)) h' mask) h := by
  induction remaining generalizing current n failures s h with
  | zero =>
    unfold rounds
    split
    · next hshort => exact ⟨hcurrent, hd, fun _ (hlen : 2 ≤ current.length) => by omega⟩
    · exact ⟨_, hd⟩
  | succ remaining ih =>
    unfold rounds
    split
    · next hshort => exact ⟨hcurrent, hd, fun _ (hlen : 2 ≤ current.length) => by omega⟩
    next hlong =>
      have hlen : 2 ≤ current.length := by omega
      have hnarrows : ∀ kept ∈ candidates limits.minSize current n,
          Narrows True (max 1 limits.minSize) (Cut.maskOf items.length current)
            (Cut.maskOf items.length kept) :=
        fun _ hmem => candidate_narrows hn hlen hcurrent hmem
      rw [Attempt.ensures_bind]
      refine (firstHolding_ensures hd hnarrows s).mono (fun h' r hr => ?_) fun _ _ hfail => hfail
      rcases r with ⟨_ | next, s'⟩
      · obtain ⟨hd', -, hall⟩ := hr
        dsimp only
        split
        · next hle => exact ⟨hcurrent, hd', fun _ => minimal_of_refused hle hall⟩
        · split
          · next hearly =>
            refine ⟨hcurrent, hd', fun hoff => ?_⟩
            simp [hoff] at hearly
          · exact ih hcurrent (by omega) hd'
      · obtain ⟨hmem, hd'⟩ := hr
        exact ih ((candidate_spec hn hlen hmem).1.trans hcurrent) le_rfl hd'

/-- A run of the algorithm is disciplined, ends with the committed configuration, and can
drop no single position of it. -/
theorem minimize_ensures (limits : Limits) (cancellable : Bool) (items : List α) :
    (minimize limits cancellable items).Ensures
      (fun h result => ∃ current, current.Sublist (List.range items.length) ∧
        result.cut = Cut.keeping items current ∧
        Disciplined items (Narrows True (max 1 limits.minSize)) h
          (Cut.maskOf items.length current) ∧
        (limits.earlyTermination = false → Minimal limits.minSize items current h))
      (fun h _ => ∃ mask, Disciplined items (Narrows True (max 1 limits.minSize)) h mask) [] := by
  have hstart : Disciplined items (Narrows True (max 1 limits.minSize)) []
      (Cut.maskOf items.length (List.range items.length)) := by
    rw [Cut.maskOf_range]
    exact .start
  unfold minimize
  rw [Attempt.ensures_bind, Attempt.ensures_lift]
  cases limits.validate with
  | error e => exact ⟨_, hstart⟩
  | ok u =>
    rw [Attempt.either, Attempt.ensures_bind]
    refine (rounds_ensures (List.Sublist.refl _) le_rfl hstart).mono (fun h r hr => ?_)
      fun _ _ hfail => hfail
    exact ⟨r.1, hr.1, rfl, hr.2⟩

end Rounds

end DeltaDebugging.Ddmin
