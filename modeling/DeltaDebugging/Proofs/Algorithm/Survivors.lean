import DeltaDebugging.Proofs.Algorithm.OneMinimal

/-!
# The survivors of one level

Over a level without repetitions the positions are the items. A minimizing run of a
disciplined algorithm splits the level, and for every survivor it has been refused, since
the last trial that held, to delete that one besides all that was deleted. A tester with a
fixed verdict would say the same again, of the survivors as well as of the refused.
-/
namespace DeltaDebugging

open Trials

variable {σ α : Type} {items : List α} {a : Algorithm} {t : Tester σ α} {s : σ}
  {result : Outcome α}

theorem Cut.mem_deleted_iff {cut : Cut α} (hcut : (cut.retained ++ cut.deleted).Perm items)
    (hitems : items.Nodup) (i : α) : i ∈ cut.deleted ↔ i ∈ items ∧ i ∉ cut.retained := by
  obtain ⟨-, -, hdisjoint⟩ := List.nodup_append.mp (hcut.nodup_iff.mpr hitems)
  rw [← hcut.mem_iff, List.mem_append]
  constructor
  · exact fun hi => ⟨Or.inr hi, fun hret => hdisjoint i hret i hi rfl⟩
  · exact fun hi => hi.1.resolve_left hi.2

namespace Trials

theorem confirmed_eq_or_mem (items : List α) (h : Trials α) :
    confirmed items h = ⟨items, []⟩ ∨ (confirmed items h, .holds) ∈ h := by
  unfold confirmed
  cases hlast : (h.filter fun x => x.2.isHolds).getLast? with
  | none => exact Or.inl rfl
  | some x =>
    obtain ⟨hx, hholds⟩ := List.mem_filter.mp (List.mem_of_getLast? hlast)
    rw [Verdict.isHolds_iff] at hholds
    refine Or.inr ?_
    rw [Option.map_some, Option.getD_some, ← hholds]
    exact hx

theorem Disciplined.perm {admits : List Bool → List Bool → Prop} {h : Trials α}
    {committed : List Bool} (hd : Disciplined items admits h committed) {x : Cut α × Verdict}
    (hx : x ∈ h) : (x.1.retained ++ x.1.deleted).Perm items := by
  obtain ⟨_, mask, hlen, -, hcut⟩ := hd.exists_mask hx
  rw [hcut]
  exact Cut.ofMask_perm hlen

end Trials

namespace Algorithm

theorem IsDisciplined.result_perm {strict : Prop} {least : Nat} (ha : a.IsDisciplined strict least)
    (hrun : ((a.minimize items).run.run t s).answer = .ok result) :
    (result.cut.retained ++ result.cut.deleted).Perm items := by
  have hend := (ha α items).run t s
  rw [hrun] at hend
  obtain ⟨mask, hcut, hd⟩ := hend
  rw [hcut]
  exact Cut.ofMask_perm hd.length_eq

theorem IsDisciplined.retained_subset {strict : Prop} {least : Nat}
    (ha : a.IsDisciplined strict least)
    (hrun : ((a.minimize items).run.run t s).answer = .ok result) : result.cut.retained ⊆ items :=
  fun _ hi => (ha.result_perm hrun).subset (List.mem_append_left _ hi)

/-- What is left and what is deleted is said by the last trial that held. -/
theorem IsDisciplined.cut_eq {strict : Prop} {least : Nat} (ha : a.IsDisciplined strict least)
    (hrun : ((a.minimize items).run.run t s).answer = .ok result) :
    result.cut = confirmed items ((a.minimize items).run.run t s).trials := by
  have hend := (ha α items).run t s
  rw [hrun] at hend
  obtain ⟨mask, hcut, hd⟩ := hend
  rw [hcut, hd.confirmed_eq]

theorem IsDisciplined.holds_result {strict : Prop} {least : Nat} (ha : a.IsDisciplined strict least)
    (verdict : Cut α → Verdict) (ht : ∀ c s, (t.test c s).1 = verdict c)
    (hall : verdict ⟨items, []⟩ = .holds)
    (hrun : ((a.minimize items).run.run t s).answer = .ok result) :
    verdict result.cut = .holds := by
  rw [ha.cut_eq hrun]
  rcases confirmed_eq_or_mem items ((a.minimize items).run.run t s).trials with heq | hmem
  · rwa [heq]
  · exact (Dialogue.verdict_of_mem_trials t verdict ht _ s hmem).symm

/-- Deleting one more of the survivors was refused, down to the last of them. -/
theorem IsMinimizing.exists_refused {strict : Prop} {least minSize : Nat}
    (ha : a.IsMinimizing minSize True) (hd : a.IsDisciplined strict least) (hmin : minSize ≤ 1)
    (hitems : items.Nodup) (hrun : ((a.minimize items).run.run t s).answer = .ok result) {k : α}
    (hk : k ∈ result.cut.retained) :
    ∃ x ∈ sinceHolds ((a.minimize items).run.run t s).trials,
      (∀ i, i ∈ x.1.retained ↔ i ∈ result.cut.retained ∧ i ≠ k) ∧
      ∀ i, i ∈ x.1.deleted ↔ i ∈ result.cut.deleted ∨ i = k := by
  have hperm := hd.result_perm hrun
  have hend := (ha α items).run t s
  have htrials := ((hd α items).mono (fun _ _ ⟨mask, _, hd⟩ => ⟨mask, hd⟩)
    fun _ _ hd => hd).trials t s
  rw [hrun] at hend
  obtain ⟨current, hsub, hcut, hminimal, hzero⟩ := hend
  have hlength : result.cut.retained.length = current.length := by
    rw [hcut, Cut.length_keeping_retained hsub]
  classical
  have hretained : result.cut.retained.Nodup :=
    (List.nodup_append.mp (hperm.nodup_iff.mpr hitems)).1
  have hfound : ∃ x ∈ sinceHolds ((a.minimize items).run.run t s).trials,
      ∀ i, i ∈ x.1.retained ↔ i ∈ result.cut.retained ∧ i ≠ k := by
    obtain ⟨i, hi, rfl⟩ := List.getElem_of_mem hk
    by_cases hone : current.length = 1
    · obtain ⟨x, hx, hnil⟩ := hzero trivial hone
      obtain ⟨b, hb⟩ := List.length_eq_one_iff.mp (hlength.trans hone)
      refine ⟨x, hx, fun j => ?_⟩
      simp [hnil, hb]
    · obtain ⟨x, hx, hxcut⟩ := hminimal (by omega) (by omega) i (by omega)
      refine ⟨x, hx, fun j => ?_⟩
      rw [hxcut, Cut.keeping_retained_eraseIdx hsub, ← hcut, ← hretained.erase_getElem i hi,
        hretained.mem_erase_iff, and_comm]
  obtain ⟨x, hx, hmem⟩ := hfound
  refine ⟨x, hx, hmem, fun i => ?_⟩
  obtain ⟨_, hd⟩ := htrials
  rw [Cut.mem_deleted_iff (hd.perm (sinceHolds_subset _ hx)) hitems, hmem,
    Cut.mem_deleted_iff hperm hitems]
  by_cases hik : i = k
  · subst hik
    simp [← hperm.mem_iff, hk]
  · simp [hik]

end Algorithm

end DeltaDebugging
