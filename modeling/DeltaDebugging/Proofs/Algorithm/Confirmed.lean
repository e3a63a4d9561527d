import DeltaDebugging.Proofs.Algorithm.Extensions

/-!
# Results and trials of the algorithms

The result of a run is the configuration that the tester confirmed last, whatever the
tester remembers and however the extensions are stacked. Its trials are cuts of the
items by masks, each within the mask committed before it, and only zero testing ever
retains nothing.
-/
namespace DeltaDebugging.Algorithm

open Trials

variable {σ α : Type}

/-- A refused trial never costs an item, and nothing is deleted that was not confirmed
together with all the other deletions. -/
theorem minimize_eq_confirmed (kind : AlgorithmKind) (limits : Limits) (seed : UInt64)
    (cancellable : Bool) (extensions : List Extension) (items : List α) (t : Tester σ α) (s : σ)
    (result : Outcome α)
    (hrun : ((((ofKind kind limits seed cancellable).extend extensions).minimize items).run.run
      t s).answer = .ok result) :
    result.cut = confirmed items
      ((((ofKind kind limits seed cancellable).extend extensions).minimize items).run.run
        t s).trials := by
  have hbase := ofKind_isDisciplined kind limits seed cancellable
  have hend := ((hbase.mono (Nat.zero_le _)).extend extensions α items).run t s
  rw [hrun] at hend
  obtain ⟨mask, hcut, hd⟩ := hend
  rw [hcut, hd.confirmed_eq]

/-- A tester that answers from a list of verdicts, whatever it is asked. -/
def scripted : Tester (List Verdict) α where
  test _ s := (s.headD .lost, s.tail)

theorem minimize_eq_confirmed_scripted : ∃ result : Outcome Char,
    let run := (((ofKind .ddmin {} 0 true).extend [.log, .zeroTesting]).minimize
      ['a', 'b', 'a']).run.run scripted [.unknown, .holds, .lost, .holds, .unknown]
    run.answer = .ok result ∧ result.cut = ⟨['a'], ['a', 'b']⟩ ∧
      result.cut = confirmed ['a', 'b', 'a'] run.trials :=
  ⟨_, rfl, rfl, minimize_eq_confirmed .ddmin {} 0 true [.log, .zeroTesting] ['a', 'b', 'a']
    scripted [.unknown, .holds, .lost, .holds, .unknown] _ rfl⟩

/-- Every trial of a stack is the cut of a mask within the one committed last, a smaller
one for ddmin. The base algorithm's own trials come first and keep at least one item and
the least size; zero testing adds at most one each, which retains nothing. -/
theorem minimize_trials_disciplined (kind : AlgorithmKind) (limits : Limits) (seed : UInt64)
    (cancellable : Bool) (extensions : List Extension) (items : List α) (t : Tester σ α) (s : σ) :
    let base := ofKind kind limits seed cancellable
    let own := ((base.minimize items).run.run t s).trials
    let trials := (((base.extend extensions).minimize items).run.run t s).trials
    (∃ committed, Disciplined items (Narrows (kind = .ddmin) 0) trials committed) ∧
    (∀ x ∈ trials, x.1.retained.Sublist items ∧ x.1.deleted.Sublist items ∧
      (x.1.retained ++ x.1.deleted).Perm items) ∧
    ∃ last, trials = own ++ last ∧ last.length ≤ extensions.count .zeroTesting ∧
      (∀ x ∈ own, max 1 limits.minSize ≤ x.1.retained.length) ∧
      ∀ x ∈ last, x.1 = ⟨[], items⟩ := by
  intro base own trials
  have hbase : base.IsDisciplined (kind = .ddmin) (max 1 limits.minSize) :=
    ofKind_isDisciplined kind limits seed cancellable
  have hown : ∃ mask, Disciplined items (Narrows (kind = .ddmin) (max 1 limits.minSize)) own mask :=
    ((hbase α items).mono (fun _ _ ⟨mask, _, hd⟩ => ⟨mask, hd⟩) fun _ _ hd => hd).trials t s
  have htrials : ∃ mask, Disciplined items (Narrows (kind = .ddmin) 0) trials mask :=
    (((hbase.mono (Nat.zero_le _)).extend extensions α items).mono
      (fun _ _ ⟨mask, _, hd⟩ => ⟨mask, hd⟩) fun _ _ hd => hd).trials t s
  refine ⟨htrials, fun x hx => ?_, ?_⟩
  · obtain ⟨_, hd⟩ := htrials
    obtain ⟨_, mask, hlen, -, hcut⟩ := hd.exists_mask hx
    rw [hcut]
    exact ⟨Cut.ofMask_retained_sublist items mask, Cut.ofMask_deleted_sublist items mask,
      Cut.ofMask_perm hlen⟩
  · obtain ⟨last, hsplit, hlength, hlast⟩ := trials_extend base extensions items t s
    refine ⟨last, hsplit, hlength, fun x hx => ?_, hlast⟩
    obtain ⟨_, hd⟩ := hown
    obtain ⟨_, mask, hlen, hnarrows, hcut⟩ := hd.exists_mask hx
    rw [hcut, Cut.length_ofMask_retained hlen]
    exact hnarrows.least_le

end DeltaDebugging.Algorithm
