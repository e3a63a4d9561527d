import DeltaDebugging.Algorithm.Kind
import DeltaDebugging.Proofs.Algorithm.Ddmin
import DeltaDebugging.Proofs.Algorithm.Probabilistic

/-!
# Stacks of extensions

Extensions may be stacked on an algorithm in any order and number. The log makes no
trials; zero testing makes at most one, after those of the algorithm below it, and that
one retains nothing. So every trial of a stack is either one of the base algorithm's or
such a last trial, and the whole sequence stays disciplined.
-/
namespace DeltaDebugging

inductive Extension where
  | zeroTesting
  | log
  deriving DecidableEq, Repr

def Extension.apply (a : Algorithm) : Extension → Algorithm
  | zeroTesting => a.withZeroTesting
  | log => a.withLog

/-- The stack of extensions on an algorithm, the innermost first. -/
def Algorithm.extend (a : Algorithm) (extensions : List Extension) : Algorithm :=
  extensions.foldl Extension.apply a

/-- What ends a loop without a result: the token has fired, or the rounds have run out. -/
def Limits.Stops (limits : Limits) (e : AlgorithmError) : Prop :=
  e = .cancelled ∨ e = .maxIterationsReached limits.maxIterations

namespace Algorithm

open Trials

variable {σ α : Type} {a : Algorithm} {items : List α}

theorem withLog_ensures {ok : Trials α → Outcome α → Prop} {fail : Trials α → AlgorithmError → Prop}
    {h : Trials α} (ha : (a.minimize items).Ensures ok fail h) :
    (a.withLog.minimize items).Ensures ok fail h := by
  simp only [withLog, Attempt.ensures_bind, Attempt.ensures_note, Attempt.ensures_pure]
  exact ha

/-- Zero testing owes nothing more unless a single item is left; then there is one more
trial, which decides whether everything is deleted. -/
theorem withZeroTesting_ensures {ok ok' : Trials α → Outcome α → Prop}
    {fail : Trials α → AlgorithmError → Prop} {h : Trials α}
    (ha : (a.minimize items).Ensures ok fail h)
    (hmany : ∀ h r, ok h r → r.cut.retained.length ≠ 1 → ok' h r)
    (hbefore : ∀ h r, ok h r → r.cut.retained.length = 1 → fail h .cancelled)
    (hafter : ∀ h r v, ok h r → r.cut.retained.length = 1 →
      fail (h ++ [(⟨[], items⟩, v)]) .cancelled)
    (hholds : ∀ h r, ok h r → r.cut.retained.length = 1 →
      ok' (h ++ [(⟨[], items⟩, .holds)])
        (Outcome.ofCut ⟨[], items⟩ (r.statistics.afterTrial .holds)))
    (hrefused : ∀ h r v, ok h r → r.cut.retained.length = 1 → v ≠ .holds →
      ok' (h ++ [(⟨[], items⟩, v)]) { r with statistics := r.statistics.afterTrial v }) :
    (a.withZeroTesting.minimize items).Ensures ok' fail h := by
  unfold withZeroTesting
  dsimp only
  rw [Attempt.ensures_bind]
  refine ha.mono (fun h r hr => ?_) fun _ _ hfail => hfail
  split
  · next hne => exact hmany h r hr hne
  · next hone =>
    have hone : r.cut.retained.length = 1 := by simpa using hone
    rw [Attempt.ensures_bind]
    refine Attempt.ensures_trial (hbefore h r hr hone) (fun v => hafter h r v hr hone) fun v => ?_
    split
    · next hv =>
      obtain rfl : v = .holds := by simpa using hv
      exact hholds h r hr hone
    · next hv => exact hrefused h r v hr hone (by simpa using hv)

theorem extend_concat (a : Algorithm) (extensions : List Extension) (e : Extension) :
    a.extend (extensions ++ [e]) = e.apply (a.extend extensions) := by
  simp [extend]

theorem extend_rule {P : Algorithm → Prop} (hzero : ∀ a, P a → P a.withZeroTesting)
    (hlog : ∀ a, P a → P a.withLog) (ha : P a) (extensions : List Extension) :
    P (a.extend extensions) := by
  induction extensions using List.reverseRecOn with
  | nil => exact ha
  | append_singleton extensions e ih =>
    rw [extend_concat]
    cases e with
    | zeroTesting => exact hzero _ ih
    | log => exact hlog _ ih

/-- Runs of an algorithm are disciplined and end with the committed configuration. -/
def IsDisciplined (a : Algorithm) (strict : Prop) (least : Nat) : Prop :=
  ∀ (α : Type) (items : List α), (a.minimize items).Ensures
    (fun h result => ∃ mask, result.cut = Cut.ofMask items mask ∧
      Disciplined items (Narrows strict least) h mask)
    (fun h _ => ∃ mask, Disciplined items (Narrows strict least) h mask) []

namespace IsDisciplined

variable {strict : Prop} {least : Nat}

theorem mono (ha : a.IsDisciplined strict least) {least' : Nat} (hle : least' ≤ least) :
    a.IsDisciplined strict least' := by
  intro α items
  have himp : ∀ committed mask, Narrows strict least committed mask →
      Narrows strict least' committed mask :=
    fun _ _ hn => ⟨hn.within, hn.smaller, hle.trans hn.least_le⟩
  refine (ha α items).mono (fun h result hr => ?_) fun h e hr => ?_
  · obtain ⟨mask, hcut, hd⟩ := hr
    exact ⟨mask, hcut, hd.mono himp⟩
  · obtain ⟨mask, hd⟩ := hr
    exact ⟨mask, hd.mono himp⟩

theorem withZeroTesting (ha : a.IsDisciplined strict 0) :
    a.withZeroTesting.IsDisciplined strict 0 := by
  intro α items
  -- Nothing is within a mask of one position, and it is a smaller mask.
  have hnothing : ∀ {h : Trials α} {r : Outcome α} {mask : List Bool},
      r.cut = Cut.ofMask items mask → Disciplined items (Narrows strict 0) h mask →
      r.cut.retained.length = 1 → ∀ v, Disciplined items (Narrows strict 0)
        (h ++ [(⟨[], items⟩, v)])
        (if v = .holds then List.replicate items.length false else mask) := by
    intro h r mask hcut hd hone v
    rw [hcut, Cut.length_ofMask_retained hd.length_eq] at hone
    rw [← Cut.ofMask_replicate_false]
    refine hd.concat (by simp) ⟨fun i hi => ?_, fun _ heq => ?_, Nat.zero_le _⟩ v
    · simp [List.getElem?_replicate] at hi
    · simp [← heq, List.count_replicate] at hone
  refine withZeroTesting_ensures (ha α items) (fun _ _ hr _ => hr) ?_ ?_ ?_ ?_
  · rintro h r ⟨mask, -, hd⟩ -
    exact ⟨mask, hd⟩
  · rintro h r v ⟨mask, hcut, hd⟩ hone
    exact ⟨_, hnothing hcut hd hone v⟩
  · rintro h r ⟨mask, hcut, hd⟩ hone
    exact ⟨_, (Cut.ofMask_replicate_false items).symm, hnothing hcut hd hone .holds⟩
  · rintro h r v ⟨mask, hcut, hd⟩ hone hv
    have hnext := hnothing hcut hd hone v
    rw [if_neg hv] at hnext
    exact ⟨mask, hcut, hnext⟩

theorem extend (ha : a.IsDisciplined strict 0) (extensions : List Extension) :
    (a.extend extensions).IsDisciplined strict 0 :=
  extend_rule (P := fun a => a.IsDisciplined strict 0) (fun _ ha => ha.withZeroTesting)
    (fun _ ha α items => withLog_ensures (ha α items)) ha extensions

/-- Without zero testing a stack keeps to the least size of the algorithm below it. -/
theorem extend_of_not_mem (ha : a.IsDisciplined strict least) {extensions : List Extension}
    (h : .zeroTesting ∉ extensions) : (a.extend extensions).IsDisciplined strict least := by
  induction extensions using List.reverseRecOn with
  | nil => exact ha
  | append_singleton extensions e ih =>
    simp only [List.mem_append, List.mem_singleton, not_or] at h
    rw [extend_concat]
    cases e with
    | zeroTesting => exact absurd rfl h.2
    | log => exact fun α items => withLog_ensures (ih h.1 α items)

end IsDisciplined

/-- Either base algorithm is disciplined, and only ddmin always asks about less. -/
theorem ofKind_isDisciplined (kind : AlgorithmKind) (limits : Limits) (seed : UInt64)
    (cancellable : Bool) : (ofKind kind limits seed cancellable).IsDisciplined
      (kind = .ddmin) (max 1 limits.minSize) := by
  intro α items
  cases kind with
  | ddmin =>
    simp only [eq_self]
    refine (Ddmin.minimize_ensures limits cancellable items).mono (fun h result hr => ?_)
      fun _ _ hfail => hfail
    obtain ⟨current, -, hcut, hd, -⟩ := hr
    exact ⟨_, hcut, hd⟩
  | probabilistic =>
    simp only [reduceCtorEq]
    exact Probabilistic.minimize_ensures ⟨limits, seed⟩ cancellable items

/-- What is kept of the trials and the counters until a result is cut out, and what there can be
instead of one. -/
theorem ofKind_keeps {P : Trials α → Statistics → Prop}
    (htrial : ∀ h s c v, P h s → P (h ++ [(c, v)]) (s.afterTrial v))
    (hgranularity : ∀ h s, ∀ n ≤ items.length, P h s → P h (s.granularity n))
    (hearly : ∀ h s reason, P h s → P h (s.terminateEarly reason)) (hstart : P [] {})
    (kind : AlgorithmKind) (limits : Limits) (seed : UInt64) (cancellable : Bool) :
    ((ofKind kind limits seed cancellable).minimize items).Ensures
      (fun h result => ∃ cut s, result = Outcome.ofCut cut s ∧ P h s)
      (fun _ e => limits.validate = .error e ∨ limits.Stops e) [] := by
  cases kind with
  | ddmin =>
    change (Ddmin.minimize limits cancellable items).Ensures _ _ _
    unfold Ddmin.minimize
    rw [Attempt.ensures_bind, Attempt.ensures_lift]
    cases limits.validate with
    | error e => exact Or.inl rfl
    | ok u =>
      rw [Attempt.either, Attempt.ensures_bind]
      exact (Ddmin.rounds_keeps htrial hgranularity hearly (Nat.le_refl 2) (by simp) hstart).mono
        (fun _ r hr => ⟨_, r.2, rfl, hr⟩) fun _ _ => Or.inr
  | probabilistic =>
    change (Probabilistic.minimize ⟨limits, seed⟩ cancellable items).Ensures _ _ _
    unfold Probabilistic.minimize
    rw [Attempt.ensures_bind, Attempt.ensures_lift]
    cases limits.validate with
    | error e => exact Or.inl rfl
    | ok u =>
      rw [Attempt.either]
      split
      · exact ⟨_, _, rfl, hstart⟩
      · rw [Attempt.ensures_bind]
        exact (Probabilistic.rounds_keeps htrial hstart).mono (fun _ r hr => ⟨_, r.2, rfl, hr⟩)
          fun _ _ => Or.inr

theorem trials_withLog (a : Algorithm) (items : List α) (t : Tester σ α) (s : σ) :
    ((a.withLog.minimize items).run.run t s).trials = ((a.minimize items).run.run t s).trials := by
  obtain ⟨later, htrials, rfl⟩ := Attempt.trials_bind t (a.minimize items) (fun result => do
      let left := result.cut.retained.length
      Attempt.note (.ended a.name left)
      Attempt.note (.ratio a.name (shrinkRatio items.length left))
      Attempt.note (.summary a.name result.statistics.render)
      return result) s (P := fun h => h = []) rfl
    (by simp [Attempt.ensures_bind])
  rw [List.append_nil] at htrials
  rw [← htrials]
  rfl

theorem trials_withZeroTesting (a : Algorithm) (items : List α) (t : Tester σ α) (s : σ) :
    ∃ last, ((a.withZeroTesting.minimize items).run.run t s).trials =
        ((a.minimize items).run.run t s).trials ++ last ∧
      last.length ≤ 1 ∧ ∀ x ∈ last, x.1 = ⟨[], items⟩ := by
  refine Attempt.trials_bind t (a.minimize items) _ s (by simp) fun result => ?_
  split
  · simp
  · rw [Attempt.ensures_bind]
    refine Attempt.ensures_trial (by simp) (by simp) fun v => ?_
    split <;> simp

/-- A stack makes the trials of the algorithm below it and then at most one for each zero
testing, which retains nothing. -/
theorem trials_extend (a : Algorithm) (extensions : List Extension) (items : List α)
    (t : Tester σ α) (s : σ) :
    ∃ last, (((a.extend extensions).minimize items).run.run t s).trials =
        ((a.minimize items).run.run t s).trials ++ last ∧
      last.length ≤ extensions.count .zeroTesting ∧ ∀ x ∈ last, x.1 = ⟨[], items⟩ := by
  induction extensions using List.reverseRecOn with
  | nil => exact ⟨[], by simp [extend], by simp, by simp⟩
  | append_singleton extensions e ih =>
    obtain ⟨last, htrials, hlength, hlast⟩ := ih
    rw [extend_concat]
    cases e with
    | log =>
      refine ⟨last, ?_, by simpa using hlength, hlast⟩
      rw [Extension.apply, trials_withLog, htrials]
    | zeroTesting =>
      obtain ⟨zero, hzero, hone, hnothing⟩ :=
        trials_withZeroTesting (a.extend extensions) items t s
      refine ⟨last ++ zero, ?_, ?_, fun x hx => ?_⟩
      · rw [Extension.apply, hzero, htrials, List.append_assoc]
      · simp only [List.length_append, List.count_append, List.count_singleton_self]
        omega
      · exact (List.mem_append.mp hx).elim (hlast x) (hnothing x)

end Algorithm

end DeltaDebugging
