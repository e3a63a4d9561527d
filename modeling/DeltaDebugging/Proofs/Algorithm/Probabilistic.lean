import DeltaDebugging.Algorithm.Probabilistic
import DeltaDebugging.Proofs.Trials

/-!
# Rounds of probabilistic delta debugging

Whatever the estimates are, a round takes a proper part of the positions left and
leaves at least the least size. The mask is cleared at the group before the trial and
set again after a failure, so it marks the positions left whenever a round begins.
-/
namespace DeltaDebugging.Probabilistic

open Trials

variable {α : Type}

/-- The last position is never taken. -/
theorem selectFrom_le (e : Estimates) (l : List Nat) (taken : Nat) (p : Float) :
    (selectFrom e l taken p).1 ≤ taken + (l.length - 1) := by
  fun_induction selectFrom e l taken p with
  | case1 i j rest taken p hp next hnext ih =>
    simp only [List.length_cons] at ih ⊢
    omega
  | case2 | case3 | case4 => simp

theorem select_le (e : Estimates) (order : List Nat) : (select e order).1 ≤ order.length - 1 := by
  have h := selectFrom_le e order.reverse 0 1.0
  simpa [select] using h

/-- A round leaves at least one position and at least the least size. -/
theorem max_le_left {minSize : Nat} (e : Estimates) {order : List Nat} (hone : 1 < order.length)
    (hmin : minSize < order.length) :
    max 1 minSize ≤ order.length - min (select e order).1 (order.length - minSize) := by
  have := select_le e order
  omega

theorem Estimates.sort_perm (e : Estimates) (order : List Nat) : (e.sort order).Perm order :=
  List.mergeSort_perm _ _

variable {items : List α} {limits : Limits} {cancellable : Bool}

/-- At the start of a round the mask marks the positions left, each listed once. -/
structure Kept (size : Nat) (keep : Array Bool) (order : List Nat) : Prop where
  nodup : order.Nodup
  lt : ∀ i ∈ order, i < size
  mask : keep.toList = Cut.maskOf size order

namespace Kept

variable {size : Nat} {keep : Array Bool} {order order' left group : List Nat}

theorem all (size : Nat) : Kept size (Array.replicate size true) (List.range size) where
  nodup := List.nodup_range
  lt := fun _ hi => List.mem_range.mp hi
  mask := by rw [Cut.maskOf_range, Array.toList_replicate]

theorem perm (h : Kept size keep order) (hp : order'.Perm order) : Kept size keep order' where
  nodup := hp.nodup_iff.mpr h.nodup
  lt := fun i hi => h.lt i (hp.mem_iff.mp hi)
  mask := h.mask.trans (Cut.maskOf_congr fun _ => hp.mem_iff.symm)

theorem drop (h : Kept size keep (left ++ group)) : Kept size (Cut.mark keep group false) left where
  nodup := (List.nodup_append.mp h.nodup).1
  lt := fun i hi => h.lt i (List.mem_append_left group hi)
  mask := Cut.toList_mark_false h.mask fun i hi hg =>
    (List.nodup_append.mp h.nodup).2.2 i hi i hg rfl

theorem restore (h : Kept size keep (left ++ group)) :
    Cut.mark (Cut.mark keep group false) group true = keep := by
  apply Array.toList_inj.mp
  rw [Cut.toList_mark_true h.drop.mask, h.mask]

theorem narrows (h : Kept size keep (left ++ group)) {least : Nat} (hleast : least ≤ left.length) :
    Narrows False least keep.toList (Cut.mark keep group false).toList := by
  refine ⟨?_, False.elim, ?_⟩
  · rw [h.mask, h.drop.mask]
    exact Cut.within_maskOf (List.subset_append_left left group)
  · rw [h.drop.mask, Cut.count_maskOf h.drop.nodup h.drop.lt]
    exact hleast

end Kept

theorem rounds_ensures {remaining : Nat} {keep : Array Bool} {order : List Nat} {e : Estimates}
    {s : Statistics} {h : Trials α} (hkept : Kept items.length keep order)
    (hd : Disciplined items (Narrows False (max 1 limits.minSize)) h keep.toList) :
    (rounds limits cancellable items remaining keep order e s).Ensures
      (fun h' r => Disciplined items (Narrows False (max 1 limits.minSize)) h' r.1.toList)
      (fun h' _ => ∃ mask, Disciplined items (Narrows False (max 1 limits.minSize)) h' mask) h := by
  induction remaining generalizing keep order e s h with
  | zero =>
    unfold rounds
    split
    · exact hd
    · split
      · exact hd
      · exact ⟨_, hd⟩
  | succ remaining ih =>
    unfold rounds
    split
    · exact hd
    next hlong =>
      split
      · exact hd
      simp only [Bool.or_eq_true, decide_eq_true_eq, not_or, Nat.not_le] at hlong
      obtain ⟨hone, hmin⟩ := hlong
      rw [Attempt.ensures_bind]
      refine Attempt.ensures_check ?_ ⟨_, hd⟩
      have hleft := max_le_left e hone hmin
      generalize select e order = selected at hleft ⊢
      obtain ⟨selected, p⟩ := selected
      dsimp only at hleft ⊢
      generalize hk : order.length - min selected (order.length - limits.minSize) = k at hleft ⊢
      have hsplit : Kept items.length keep (order.take k ++ order.drop k) := by
        rwa [List.take_append_drop]
      have hleast : max 1 limits.minSize ≤ (order.take k).length := by
        rw [List.length_take]
        omega
      have hnarrows := hsplit.narrows hleast
      have hlength : (Cut.mark keep (order.drop k) false).toList.length = items.length := by
        rw [hsplit.drop.mask, Cut.length_maskOf]
      have hnext := fun v => hd.concat hlength hnarrows v
      rw [Attempt.ensures_bind]
      refine Attempt.ensures_trial ⟨_, hd⟩ (fun v => ⟨_, hnext v⟩) fun v => ?_
      split
      · next hv =>
        have hheld := hnext v
        rw [if_pos (by simpa using hv)] at hheld
        exact ih hsplit.drop hheld
      · next hv =>
        have hrefused := hnext v
        rw [if_neg (by simpa using hv)] at hrefused
        rw [hsplit.restore]
        exact ih (hsplit.perm ((e.raise _ p).sort_perm _)) hrefused

/-- What every trial keeps is kept by all rounds, and only a fired token or a lack of rounds ends
them with an error. -/
theorem rounds_keeps {P : Trials α → Statistics → Prop}
    (htrial : ∀ h s c v, P h s → P (h ++ [(c, v)]) (s.afterTrial v)) {remaining : Nat}
    {keep : Array Bool} {order : List Nat} {e : Estimates} {s : Statistics} {h : Trials α}
    (hs : P h s) :
    (rounds limits cancellable items remaining keep order e s).Ensures (fun h r => P h r.2)
      (fun _ e => e = .cancelled ∨ e = .maxIterationsReached limits.maxIterations) h := by
  induction remaining generalizing keep order e s h with
  | zero =>
    unfold rounds
    split
    · exact hs
    · split
      · exact hs
      · exact Or.inr rfl
  | succ remaining ih =>
    unfold rounds
    split
    · exact hs
    · split
      · exact hs
      · rw [Attempt.ensures_bind]
        refine Attempt.ensures_check ?_ (Or.inl rfl)
        dsimp only
        rw [Attempt.ensures_bind]
        refine Attempt.ensures_trial (Or.inl rfl) (fun _ => Or.inl rfl) fun v => ?_
        split
        · exact ih (htrial _ _ _ v hs)
        · exact ih (htrial _ _ _ v hs)

theorem minimize_ensures (limits : ProbabilisticLimits) (cancellable : Bool) (items : List α) :
    (minimize limits cancellable items).Ensures
      (fun h result => ∃ mask, result.cut = Cut.ofMask items mask ∧
        Disciplined items (Narrows False (max 1 limits.base.minSize)) h mask)
      (fun h _ => ∃ mask, Disciplined items (Narrows False (max 1 limits.base.minSize)) h mask)
      [] := by
  unfold minimize
  rw [Attempt.ensures_bind, Attempt.ensures_lift]
  cases limits.base.validate with
  | error e => exact ⟨_, .start⟩
  | ok u =>
    rw [Attempt.either]
    split
    · exact ⟨_, (Cut.ofMask_replicate_true items).symm, .start⟩
    · rw [Attempt.ensures_bind]
      have hkept := (Kept.all items.length).perm
        ((Estimates.initial limits.seed items.length).sort_perm (List.range items.length))
      refine (rounds_ensures hkept ?_).mono (fun h r hr => ⟨_, rfl, hr⟩) fun _ _ hfail => hfail
      rw [Array.toList_replicate]
      exact .start

end DeltaDebugging.Probabilistic
