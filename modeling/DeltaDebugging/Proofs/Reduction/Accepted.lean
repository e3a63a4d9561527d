import DeltaDebugging.Proofs.Algorithm.Extensions
import DeltaDebugging.Proofs.Hierarchy.Visits
import DeltaDebugging.Proofs.Reduction

/-!
# What a run from accepted settings can fail with

An algorithm looks at its limits before anything else. Once they pass it fails in two ways
only, because the token has fired or because its rounds run out, and so does a hierarchical
run that it drives. Settings are checked before a run, by a check of their own. It asks for a
positive number of rounds as the algorithm does, but it does not look at the threshold of early
termination: a threshold of zero is accepted, and refused by the algorithm in the first level,
when the oracle has been called already.
-/
namespace DeltaDebugging

variable {σ α β γ τ : Type}

namespace Limits

variable {l : Limits}

/-- An early end would be due before any round. -/
def EndsAtOnce (l : Limits) : Prop :=
  l.earlyTermination = true ∧ l.earlyTerminationThreshold = 0

instance : Decidable l.EndsAtOnce := inferInstanceAs (Decidable (_ ∧ _))

/-- What the limits are refused for that end at once. -/
def zeroThreshold : AlgorithmError :=
  .invalidConfig "early_termination_threshold must be positive"

/-- Of limits that allow a round only the early end is left to look at. -/
theorem validate_of_iterations (h : l.maxIterations ≠ 0) :
    l.validate = if l.EndsAtOnce then .error zeroThreshold else .ok () := by
  unfold validate
  rw [if_neg h]
  exact if_congr (by simp [EndsAtOnce]) rfl rfl

theorem stops_cancelled (l : Limits) : l.Stops .cancelled := Or.inl rfl

theorem not_stops_invalidConfig (l : Limits) (reason : String) :
    ¬ l.Stops (.invalidConfig reason) := by
  rintro (h | h) <;> cases h

end Limits

theorem Settings.positive_of_validate {s : Settings} {isDirectory : String → Bool}
    (h : s.validate isDirectory = .ok ()) :
    s.hierarchy.maxLevels ≠ 0 ∧ s.minimizer.limits.maxIterations ≠ 0 := by
  unfold validate at h
  split_ifs at h with _ _ _ _ hlevels hiterations
  exact ⟨hlevels, hiterations⟩

/-- Whatever the items and however the tester answers, the algorithm fails with these errors
only. -/
def Algorithm.FailsWith (a : Algorithm) (P : AlgorithmError → Prop) : Prop :=
  ∀ (α : Type) (items : List α), (a.minimize items).Ensures (fun _ _ => True) (fun _ e => P e) []

namespace Algorithm

theorem ofKind_failsWith {limits : Limits} (kind : AlgorithmKind) (seed : UInt64)
    (cancellable : Bool) (hvalid : limits.validate = .ok ()) :
    (ofKind kind limits seed cancellable).FailsWith limits.Stops := by
  intro α items
  refine (ofKind_keeps (P := fun _ _ => True) (fun _ _ _ _ _ => trivial) (fun _ _ _ _ _ => trivial)
    (fun _ _ _ _ => trivial) trivial kind limits seed cancellable).mono (fun _ _ _ => trivial)
    fun _ e he => he.resolve_left fun hinvalid => ?_
  rw [hvalid] at hinvalid
  cases hinvalid

/-- The last trial of zero testing may see the token too. -/
theorem FailsWith.extend {a : Algorithm} {P : AlgorithmError → Prop} (ha : a.FailsWith P)
    (hcancelled : P .cancelled) (extensions : List Extension) :
    (a.extend extensions).FailsWith P := by
  refine extend_rule (P := fun a => a.FailsWith P) (fun a ha α items => ?_)
    (fun a ha α items => withLog_ensures (ha α items)) ha extensions
  exact withZeroTesting_ensures (ha α items) (fun _ _ _ _ => trivial) (fun _ _ _ _ => hcancelled)
    (fun _ _ _ _ _ => hcancelled) (fun _ _ _ _ => trivial) fun _ _ _ _ _ _ => trivial

end Algorithm

namespace Hierarchy

variable {a : Algorithm} {g : Generator γ α β} {limits : HierarchyLimits} {t : Tester σ β}
  {P : AlgorithmError → Prop} {e : AlgorithmError}

/-- A level fails as the algorithm does, or at the look for the token that follows it. -/
theorem Position.error_of_run {p : Position σ γ α} (ha : a.FailsWith P) (hcancelled : P .cancelled)
    (h : (p.run a g t).answer = .error e) : P e := by
  unfold Position.run minimizeLevel at h
  split at h
  · rcases Attempt.run_check_error h with hlevel | rfl
    · cases hlevel
    · exact hcancelled
  · rcases Attempt.run_check_error h with hlevel | rfl
    · have hend := (ha α p.level.items).run (t.comap (g.present p.generator)) p.tester
      rw [← (Dialogue.run_mapCut t (g.present p.generator) _ p.tester).1] at hend
      exact (congrArg _ hlevel).mp hend
    · exact hcancelled

/-- A run fails with errors of the algorithm's own only if these are errors it fails with. -/
theorem error_of_minimize [DecidableEq α] {s : γ} {st : σ} (ha : a.FailsWith P)
    (hcancelled : P .cancelled)
    (h : ((minimize a g limits s).run t st).answer.answer = .error (.minimizer e)) : P e := by
  cases hfirst : g.first s with
  | mk first s' =>
    cases first with
    | error cause =>
      rw [minimize, hfirst] at h
      cases h
    | ok level =>
      rw [minimize_eq_descend hfirst] at h
      obtain ⟨_, _, q, -, hq⟩ := (answer_eq_minimizer_iff (p := ⟨level, s', st⟩)).mp h
      exact Position.error_of_run ha hcancelled hq

end Hierarchy

namespace MinimizerSettings

variable {m : MinimizerSettings}

theorem toAlgorithm_failsWith (hvalid : m.limits.validate = .ok ()) :
    m.toAlgorithm.FailsWith m.limits.Stops :=
  (Algorithm.ofKind_failsWith m.algorithm m.seed true hvalid).extend m.limits.stops_cancelled
    [.zeroTesting, .log]

/-- Limits that do not pass are all that the algorithm looks at. -/
theorem minimize_of_invalid {e : AlgorithmError} (hinvalid : m.limits.validate = .error e)
    (items : List α) : ∃ name, (m.toAlgorithm.minimize items).run =
      .note (.started name items.length) fun _ => .done (.error e) := by
  refine ⟨(Algorithm.ofKind m.algorithm m.limits m.seed true).name, ?_⟩
  have hbase : (Algorithm.ofKind m.algorithm m.limits m.seed true).minimize items = throw e := by
    cases m.algorithm with
    | ddmin =>
      change Ddmin.minimize m.limits true items = throw e
      rw [Ddmin.minimize, hinvalid]
      rfl
    | probabilistic =>
      change Probabilistic.minimize ⟨m.limits, m.seed⟩ true items = throw e
      rw [Probabilistic.minimize, hinvalid]
      rfl
  unfold toAlgorithm Algorithm.withLog Algorithm.withZeroTesting
  dsimp only
  rw [hbase]
  rfl

/-- An algorithm refuses its own limits or it does not, whatever it is to minimize. -/
theorem answer_eq_invalidConfig_iff (hiterations : m.limits.maxIterations ≠ 0) (items : List α)
    (t : Tester σ α) (st : σ) (reason : String) :
    ((m.toAlgorithm.minimize items).run.run t st).answer = .error (.invalidConfig reason) ↔
      m.limits.EndsAtOnce ∧ .invalidConfig reason = Limits.zeroThreshold := by
  have hvalidate := Limits.validate_of_iterations hiterations
  by_cases hends : m.limits.EndsAtOnce
  · rw [if_pos hends] at hvalidate
    obtain ⟨name, hrun⟩ := minimize_of_invalid hvalidate items
    rw [hrun]
    simp only [Dialogue.run, Except.error.injEq, hends, true_and, eq_comm]
  · rw [if_neg hends] at hvalidate
    refine iff_of_false (fun h => ?_) fun h => hends h.1
    have hend := (toAlgorithm_failsWith hvalidate α items).run t st
    rw [h] at hend
    exact m.limits.not_stops_invalidConfig reason hend

end MinimizerSettings

namespace Reduction

variable {s : Settings} {f : SameFailure Document τ TextUnit Failure} {cancelled : τ → Bool}
  {d : Document} {t : τ}

/-- Limits that do not pass end a run in its first level, before any trial. -/
theorem dialogue_of_invalid {e : AlgorithmError}
    (hinvalid : s.minimizer.limits.validate = .error e) (hlevels : s.hierarchy.maxLevels ≠ 0)
    (hblocks : d.blockUnits ≠ []) :
    ∃ note, s.dialogue d = .note note fun _ => .done ⟨.error (.minimizer e), ()⟩ := by
  obtain ⟨n, hn⟩ := Nat.exists_eq_succ_of_ne_zero hlevels
  have hfirst : d.generator.first () = (.ok (.ofList d.blockUnits), ()) := by
    simp [Document.generator, Generator.tree, hblocks]
  have hlevel : (Level.ofList d.blockUnits).isEmpty = false := by
    simpa using hblocks
  obtain ⟨name, hrun⟩ :=
    MinimizerSettings.minimize_of_invalid hinvalid (Level.ofList d.blockUnits).items
  refine ⟨.started name (Level.ofList d.blockUnits).items.length, ?_⟩
  rw [Settings.dialogue, Hierarchy.minimize_eq_descend hfirst, hn, Hierarchy.descend,
    Hierarchy.minimizeLevel_eq_bind hlevel, hrun]
  rfl

theorem run_of_invalid {e : AlgorithmError} (hinvalid : s.minimizer.limits.validate = .error e)
    (hlevels : s.hierarchy.maxLevels ≠ 0) (hblocks : d.blockUnits ≠ []) :
    run s f cancelled d t = ⟨⟨⟨d, 0, 0⟩, t, 0⟩, 0, .error (.minimizer e)⟩ := by
  obtain ⟨note, hdialogue⟩ := dialogue_of_invalid hinvalid hlevels hblocks
  unfold run
  rw [hdialogue]
  dsimp only
  split <;> rfl

/-- Without blocks no level is begun. -/
theorem run_of_no_blocks (hblocks : d.blockUnits = []) :
    (run s f cancelled d t).result = .error (.hierarchyFailed .noItems) := by
  have hdialogue : s.dialogue d = .done ⟨.error (.hierarchyFailed .noItems), ()⟩ := by
    rw [Settings.dialogue, Hierarchy.minimize, Document.generator, hblocks]
    rfl
  unfold run
  rw [hdialogue]
  dsimp only
  split <;> rfl

theorem run_stops {e : AlgorithmError} (hvalid : s.minimizer.limits.validate = .ok ())
    (h : (run s f cancelled d t).result = .error (.minimizer e)) : s.minimizer.limits.Stops e := by
  have hfails := MinimizerSettings.toAlgorithm_failsWith hvalid
  unfold run at h
  dsimp only at h
  split at h
  · exact Hierarchy.error_of_minimize hfails (Limits.stops_cancelled _) h
  · exact Hierarchy.error_of_minimize hfails (Limits.stops_cancelled _) h

/-- The algorithm built from accepted settings, with whatever the command line overrides in them,
refuses its own limits if and only if early termination is on with a threshold of zero: the check
of the settings does not look at that, and nothing that is overridden changes it. A run then ends
in its first level, before any trial and with the document as it was. From all other accepted
settings the algorithm ends a run only because the token has fired or the rounds have run out. -/
theorem reduce_accepted (base : Settings) (o : Settings.Overrides) (isDirectory : String → Bool)
    (oracle : Document → Activity τ (Check Failure)) (cancelled : τ → Bool) (d : Document)
    (t t' : τ) (r : Reduction τ) (haccepted : (base.override o).validate isDirectory = .ok ())
    (hrun : reduce (base.override o) oracle cancelled d t = (.done (.ok r), t')) :
    let a := (base.override o).minimizer.toAlgorithm
    let limits := base.minimizer.limits
    let refusal := AlgorithmError.invalidConfig "early_termination_threshold must be positive"
    (∀ (α σ : Type) (items : List α) (tester : Tester σ α) (st : σ) (reason : String),
      ((a.minimize items).run.run tester st).answer = .error (.invalidConfig reason) ↔
        limits.EndsAtOnce ∧ .invalidConfig reason = refusal) ∧
    (∀ reason, r.result = .error (.minimizer (.invalidConfig reason)) ↔
      limits.EndsAtOnce ∧ d.blockUnits ≠ [] ∧ .invalidConfig reason = refusal) ∧
    (limits.EndsAtOnce → d.blockUnits ≠ [] → r.trials = 0 ∧ r.document = d) ∧
    (¬ limits.EndsAtOnce → ∀ e, r.result = .error (.minimizer e) →
      e = .cancelled ∨ e = .maxIterationsReached limits.maxIterations) := by
  intro a limits refusal
  obtain ⟨hlevels, hiterations⟩ := Settings.positive_of_validate haccepted
  have hvalidate : (base.override o).minimizer.limits.validate =
      if limits.EndsAtOnce then .error refusal else .ok () :=
    Limits.validate_of_iterations hiterations
  obtain ⟨initial, t₀, -, rfl⟩ := reduce_ok hrun
  refine ⟨fun α σ items tester st reason =>
    MinimizerSettings.answer_eq_invalidConfig_iff hiterations items tester st reason, ?_⟩
  by_cases hends : limits.EndsAtOnce
  · rw [if_pos hends] at hvalidate
    refine ⟨fun reason => ?_, fun _ hblocks => ?_, fun h => absurd hends h⟩
    · by_cases hblocks : d.blockUnits = []
      · simp [run_of_no_blocks hblocks, hblocks]
      · simp [run_of_invalid hvalidate hlevels hblocks, hends, hblocks, eq_comm]
    · rw [run_of_invalid hvalidate hlevels hblocks]
      exact ⟨rfl, rfl⟩
  · rw [if_neg hends] at hvalidate
    refine ⟨fun reason => iff_of_false (fun h => ?_) fun h => hends h.1, fun h => absurd h hends,
      fun _ e => run_stops hvalidate⟩
    exact Limits.not_stops_invalidConfig _ reason (run_stops hvalidate h)

/-- Early termination after no round at all. -/
def hasty : Settings :=
  { minimizer := { limits := { earlyTermination := true, earlyTerminationThreshold := 0 } } }

theorem reduce_accepted_hasty : ∃ r : Reduction Unit,
    (hasty.override { command := ["oracle"] }).validate (fun _ => false) = .ok () ∧
    reduce (hasty.override { command := ["oracle"] }) (fun d => return findsLetter d.render)
      (fun _ => false) (.parse "a\nb\n\nc") () = (.done (.ok r), ()) ∧
    r.result = .error (.minimizer
      (.invalidConfig "early_termination_threshold must be positive")) ∧ r.trials = 0 := by
  refine ⟨_, by decide, rfl, ?_⟩
  obtain ⟨-, hresult, huntouched, -⟩ := reduce_accepted hasty { command := ["oracle"] }
    (fun _ => false) (fun d => return findsLetter d.render) (fun _ => false) (.parse "a\nb\n\nc") ()
    () _ (by decide) rfl
  exact ⟨(hresult _).mpr ⟨by decide, by decide, rfl⟩, (huntouched (by decide) (by decide)).1⟩

/-- Not all settings that are accepted can drive a run. -/
theorem accepted_but_refused : ¬ ∀ (s : Settings) (isDirectory : String → Bool)
    (oracle : Document → Activity Unit (Check Failure)) (cancelled : Unit → Bool) (d : Document)
    (r : Reduction Unit), s.validate isDirectory = .ok () →
      reduce s oracle cancelled d () = (.done (.ok r), ()) →
      ∀ reason, r.result ≠ .error (.minimizer (.invalidConfig reason)) := by
  intro hnever
  exact hnever (hasty.override { command := ["oracle"] }) (fun _ => false)
    (fun d => return findsLetter d.render) (fun _ => false) (.parse "a\nb\n\nc") _ (by decide) rfl _
    rfl

end Reduction

end DeltaDebugging
