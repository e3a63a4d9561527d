import DeltaDebugging.Proofs.Algorithm.Extensions

/-!
# Minimality of ddmin

Without early termination ddmin stops only after a round that tried to leave out every
single position and was refused each time, so no survivor can be dropped alone. Zero
testing closes the remaining gap, the last survivor, by a trial that retains nothing.
-/
namespace DeltaDebugging.Algorithm

open Trials

variable {σ α : Type}

/-- Whatever is answered, a run ends with ascending positions of which no single one can
be dropped, and with `zero` not even a single last one. -/
def IsMinimizing (a : Algorithm) (minSize : Nat) (zero : Prop) : Prop :=
  ∀ (α : Type) (items : List α), (a.minimize items).Ensures
    (fun h result => ∃ current, current.Sublist (List.range items.length) ∧
      result.cut = Cut.keeping items current ∧ Ddmin.Minimal minSize items current h ∧
      (zero → current.length = 1 → ∃ x ∈ sinceHolds h, x.1.retained = []))
    (fun _ _ => True) []

theorem ddmin_isMinimizing {limits : Limits} (hlimits : limits.earlyTermination = false)
    (cancellable : Bool) : (ddmin limits cancellable).IsMinimizing limits.minSize False := by
  intro α items
  refine (Ddmin.minimize_ensures limits cancellable items).mono (fun h result hr => ?_)
    fun _ _ _ => trivial
  obtain ⟨current, hsub, hcut, -, hminimal⟩ := hr
  exact ⟨current, hsub, hcut, hminimal hlimits, False.elim⟩

namespace IsMinimizing

variable {a : Algorithm} {minSize : Nat} {zero : Prop}

theorem withZeroTesting (ha : a.IsMinimizing minSize zero) :
    a.withZeroTesting.IsMinimizing minSize True := by
  intro α items
  refine withZeroTesting_ensures (ha α items) ?_ (fun _ _ _ _ => trivial)
    (fun _ _ _ _ _ => trivial) ?_ ?_
  · rintro h r ⟨current, hsub, hcut, hminimal, -⟩ hne
    refine ⟨current, hsub, hcut, hminimal, fun _ hone => ?_⟩
    rw [hcut, Cut.length_keeping_retained hsub] at hne
    exact absurd hone hne
  · rintro h r - -
    refine ⟨[], List.nil_sublist _, ?_, fun hlen => by simp at hlen, fun _ hone => by simp at hone⟩
    rw [Cut.keeping, show Cut.maskOf items.length [] = List.replicate items.length false by
      simp [Cut.maskOf_eq], Cut.ofMask_replicate_false]
    rfl
  · rintro h r v ⟨current, hsub, hcut, -, -⟩ hone hv
    rw [hcut, Cut.length_keeping_retained hsub] at hone
    refine ⟨current, hsub, hcut, fun hlen => by omega, fun _ _ => ⟨(⟨[], items⟩, v), ?_, rfl⟩⟩
    rw [sinceHolds_concat_of_ne hv]
    exact List.mem_append_right _ (List.mem_singleton.mpr rfl)

theorem extend (ha : a.IsMinimizing minSize False) (extensions : List Extension) :
    (a.extend extensions).IsMinimizing minSize (.zeroTesting ∈ extensions) := by
  induction extensions using List.reverseRecOn with
  | nil => simpa [Algorithm.extend] using ha
  | append_singleton extensions e ih =>
    rw [extend_concat]
    cases e with
    | zeroTesting =>
      rw [show (.zeroTesting ∈ extensions ++ [.zeroTesting]) = True by simp]
      exact ih.withZeroTesting
    | log =>
      simp only [List.mem_append, List.mem_singleton, reduceCtorEq, or_false]
      exact fun α items => withLog_ensures (ih α items)

end IsMinimizing

/-- For each survivor, a trial made since the last one that held retained exactly the others
and was refused. With zero testing that includes a single last survivor. So if the
verdict depends on the retained items alone, dropping any one survivor loses the
property. -/
theorem ddmin_oneMinimal (limits : Limits) (cancellable : Bool) (extensions : List Extension)
    (items : List α) (t : Tester σ α) (s : σ) (result : Outcome α)
    (hlimits : limits.earlyTermination = false)
    (hrun : ((((ddmin limits cancellable).extend extensions).minimize items).run.run t s).answer =
      .ok result) :
    let trials := ((((ddmin limits cancellable).extend extensions).minimize items).run.run
      t s).trials
    let survivors := result.cut.retained
    (2 ≤ survivors.length → limits.minSize ≤ survivors.length - 1 → ∀ i < survivors.length,
      ∃ x ∈ sinceHolds trials, x.1.retained = survivors.eraseIdx i ∧ x.2 ≠ .holds) ∧
    (.zeroTesting ∈ extensions → survivors.length = 1 →
      ∃ x ∈ sinceHolds trials, x.1.retained = [] ∧ x.2 ≠ .holds) ∧
    ∀ f : List α → Verdict, (∀ c s, (t.test c s).1 = f c.retained) →
      (2 ≤ survivors.length → limits.minSize ≤ survivors.length - 1 →
        ∀ i < survivors.length, f (survivors.eraseIdx i) ≠ .holds) ∧
      (.zeroTesting ∈ extensions → survivors.length = 1 → f [] ≠ .holds) := by
  intro trials survivors
  have hend := ((ddmin_isMinimizing hlimits cancellable).extend extensions α items).run t s
  rw [hrun] at hend
  obtain ⟨current, hsub, hcut, hminimal, hzero⟩ := hend
  have hlength : survivors.length = current.length := by
    rw [← Cut.length_keeping_retained hsub, ← hcut]
  have hsingle : 2 ≤ survivors.length → limits.minSize ≤ survivors.length - 1 →
      ∀ i < survivors.length,
        ∃ x ∈ sinceHolds trials, x.1.retained = survivors.eraseIdx i ∧ x.2 ≠ .holds := by
    intro hlen hmin i hi
    rw [hlength] at hlen hmin hi
    obtain ⟨x, hx, hxcut⟩ := hminimal hlen hmin i hi
    refine ⟨x, hx, ?_, ne_holds_of_mem_sinceHolds hx⟩
    rw [hxcut, Cut.keeping_retained_eraseIdx hsub, ← hcut]
  have hlast : .zeroTesting ∈ extensions → survivors.length = 1 →
      ∃ x ∈ sinceHolds trials, x.1.retained = [] ∧ x.2 ≠ .holds := by
    intro hmem hone
    rw [hlength] at hone
    obtain ⟨x, hx, hxnil⟩ := hzero hmem hone
    exact ⟨x, hx, hxnil, ne_holds_of_mem_sinceHolds hx⟩
  -- A tester that only looks at the retained items would answer the same again.
  have hfixed : ∀ f : List α → Verdict, (∀ c s, (t.test c s).1 = f c.retained) →
      ∀ x ∈ sinceHolds trials, x.2 ≠ .holds → f x.1.retained ≠ .holds := by
    intro f hf x hx hne
    rwa [← Dialogue.verdict_of_mem_trials t (fun c => f c.retained) hf _ s
      (sinceHolds_subset trials hx)]
  refine ⟨hsingle, hlast, fun f hf => ⟨fun hlen hmin i hi => ?_, fun hmem hone => ?_⟩⟩
  · obtain ⟨x, hx, hret, hne⟩ := hsingle hlen hmin i hi
    exact hret ▸ hfixed f hf x hx hne
  · obtain ⟨x, hx, hret, hne⟩ := hlast hmem hone
    exact hret ▸ hfixed f hf x hx hne

theorem ddmin_oneMinimal_pair : ∃ result : Outcome Char,
    let t : Tester Unit Char := .ofFunction fun c =>
      if 'b' ∈ c.retained ∧ 'e' ∈ c.retained then .holds else .unknown
    let run := (((ddmin {} false).extend [.zeroTesting]).minimize ['a', 'b', 'c', 'd', 'e']).run.run
      t ()
    run.answer = .ok result ∧ result.cut.retained = ['b', 'e'] ∧
      ∀ i < 2, ∃ x ∈ sinceHolds run.trials, x.1.retained = ['b', 'e'].eraseIdx i ∧ x.2 ≠ .holds :=
  ⟨_, rfl, rfl, (ddmin_oneMinimal {} false [.zeroTesting] ['a', 'b', 'c', 'd', 'e']
    (.ofFunction fun c => if 'b' ∈ c.retained ∧ 'e' ∈ c.retained then .holds else .unknown) () _
    rfl rfl).1 (by decide) (by decide)⟩

end DeltaDebugging.Algorithm
