import DeltaDebugging.Proofs.Algorithm.Confirmed
import DeltaDebugging.Proofs.Algorithm.Survivors
import DeltaDebugging.Proofs.Hierarchy.Visits

/-!
# Reports account for every trial

A counter moves with a trial and with nothing else, in the rounds of an algorithm as well as in
the last trial that zero testing makes. So at the end of a level the counters are those of its
trials, and since a report adds up its levels, in the end they are those of the whole run.
-/
namespace DeltaDebugging

variable {σ α β γ : Type}

namespace Statistics

/-- The counters are those of the trials `h`. -/
structure Counts (s : Statistics) (h : Trials α) : Prop where
  checks : s.checksPerformed = h.length
  successful : s.successfulRemovals = h.countP (·.2 = .holds)
  failed : s.failedRemovals = h.countP (·.2 ≠ .holds)
  unknown : s.unknownResults = h.countP (·.2 = .unknown)

namespace Counts

variable {s s' : Statistics} {h h' : Trials α}

theorem start : ({} : Statistics).Counts ([] : Trials α) := ⟨rfl, rfl, rfl, rfl⟩

theorem afterTrial (hs : s.Counts h) (c : Cut α) (v : Verdict) :
    (s.afterTrial v).Counts (h ++ [(c, v)]) := by
  obtain ⟨hchecks, hsuccessful, hfailed, hunknown⟩ := hs
  cases v <;> constructor <;>
    simp [Statistics.afterTrial, success, failure, undecided, hchecks, hsuccessful, hfailed,
      hunknown]

theorem granularity (hs : s.Counts h) (n : Nat) : (s.granularity n).Counts h :=
  ⟨hs.checks, hs.successful, hs.failed, hs.unknown⟩

theorem terminateEarly (hs : s.Counts h) (reason : String) : (s.terminateEarly reason).Counts h :=
  ⟨hs.checks, hs.successful, hs.failed, hs.unknown⟩

theorem ofCut (hs : s.Counts h) (cut : Cut β) : (Outcome.ofCut cut s).statistics.Counts h :=
  ⟨hs.checks, hs.successful, hs.failed, hs.unknown⟩

theorem map (hs : s.Counts h) (f : Cut α → Cut β) : s.Counts (h.map (Prod.map f id)) := by
  constructor
  · rw [List.length_map, hs.checks]
  · rw [List.countP_map, hs.successful]
    rfl
  · rw [List.countP_map, hs.failed]
    rfl
  · rw [List.countP_map, hs.unknown]
    rfl

theorem absorb (hs : s.Counts h) (hs' : s'.Counts h') : (s.absorb s').Counts (h ++ h') := by
  constructor
  · simp [Statistics.absorb, hs.checks, hs'.checks]
  · simp [Statistics.absorb, hs.successful, hs'.successful]
  · simp [Statistics.absorb, hs.failed, hs'.failed]
  · simp [Statistics.absorb, hs.unknown, hs'.unknown]

theorem checks_eq (hs : s.Counts h) :
    s.checksPerformed = s.successfulRemovals + s.failedRemovals := by
  rw [hs.checks, hs.successful, hs.failed, List.length_eq_countP_add_countP (·.2 = .holds)]
  simp

end Counts

/-- The counters are those of the trials, and there were never more chunks than items. -/
def Accounts (s : Statistics) (h : Trials α) (size : Nat) : Prop :=
  s.Counts h ∧ s.maxGranularity ≤ size

namespace Accounts

variable {s : Statistics} {h : Trials α} {size : Nat}

theorem start (size : Nat) : ({} : Statistics).Accounts ([] : Trials α) size :=
  ⟨.start, Nat.zero_le size⟩

theorem afterTrial (hs : s.Accounts h size) (c : Cut α) (v : Verdict) :
    (s.afterTrial v).Accounts (h ++ [(c, v)]) size := by
  refine ⟨hs.1.afterTrial c v, ?_⟩
  cases v <;> exact hs.2

theorem granularity (hs : s.Accounts h size) {n : Nat} (hn : n ≤ size) :
    (s.granularity n).Accounts h size :=
  ⟨hs.1.granularity n, Nat.max_le.mpr ⟨hs.2, hn⟩⟩

theorem ofCut (hs : s.Accounts h size) (cut : Cut β) :
    (Outcome.ofCut cut s).statistics.Accounts h size :=
  ⟨hs.1.ofCut cut, hs.2⟩

end Accounts

end Statistics

/-- The counters of a result are those of the trials made. -/
def Algorithm.IsAccounting (a : Algorithm) : Prop :=
  ∀ (α : Type) (items : List α), (a.minimize items).Ensures
    (fun h result => result.statistics.Accounts h items.length) (fun _ _ => True) []

namespace Algorithm

theorem ofKind_isAccounting (kind : AlgorithmKind) (limits : Limits) (seed : UInt64)
    (cancellable : Bool) : (ofKind kind limits seed cancellable).IsAccounting := by
  intro α items
  refine (ofKind_keeps (P := fun h s => s.Accounts h items.length)
    (fun _ _ c v hs => hs.afterTrial c v) (fun _ _ n hn hs => hs.granularity hn)
    (fun _ _ reason hs => ⟨hs.1.terminateEarly reason, hs.2⟩) (.start _) kind limits seed
    cancellable).mono ?_ fun _ _ _ => trivial
  rintro h _ ⟨cut, s, rfl, hs⟩
  exact hs.ofCut cut

theorem IsAccounting.extend {a : Algorithm} (ha : a.IsAccounting) (extensions : List Extension) :
    (a.extend extensions).IsAccounting := by
  refine extend_rule (P := IsAccounting) (fun a ha α items => ?_)
    (fun a ha α items => withLog_ensures (ha α items)) ha extensions
  exact withZeroTesting_ensures (ha α items) (fun _ _ hr _ => hr) (fun _ _ _ _ => trivial)
    (fun _ _ _ _ _ => trivial) (fun _ _ hr _ => (hr.afterTrial _ _).ofCut _)
    fun _ _ _ hr _ _ => hr.afterTrial _ _

end Algorithm

namespace Report

/-- The sizes are the sums over the levels, and the counters those of the trials `h`. -/
structure Accounts (r : Report) (h : Trials α) : Prop where
  counts : r.statistics.Counts h
  original : r.statistics.originalSize = Number.total (r.levels.map LevelReport.size)
  minimized : r.statistics.minimizedSize = Number.total (r.levels.map LevelReport.retained)
  removed : r.statistics.itemsRemoved = Number.total (r.levels.map LevelReport.deleted)
  granularity : r.statistics.maxGranularity = 0 ∨
    ∃ l ∈ r.levels, r.statistics.maxGranularity ≤ l.size

namespace Accounts

variable {r : Report} {h h' : Trials α} {s : Statistics} {size : Nat}

theorem start : ({} : Report).Accounts ([] : Trials α) := ⟨.start, rfl, rfl, rfl, Or.inl rfl⟩

theorem recordLevel (hr : r.Accounts h) (hs : s.Accounts h' size) (retained deleted : Nat) :
    (r.recordLevel size retained deleted s).Accounts (h ++ h') := by
  have hsum : ∀ (f : LevelReport → Nat) (l : LevelReport),
      Number.total ((r.levels ++ [l]).map f) = Number.total (r.levels.map f) + f l := by
    intro f l
    rw [List.map_append, List.map_singleton, Number.total_perm (List.perm_append_singleton _ _)]
    exact Nat.add_comm _ _
  have hlevels : (r.recordLevel size retained deleted s).levels =
      r.levels ++ [⟨r.levels.length + 1, size, retained, deleted, s.checksPerformed⟩] := rfl
  constructor
  case counts =>
    have hbefore : ({ r.statistics with
        originalSize := r.statistics.originalSize + size
        minimizedSize := r.statistics.minimizedSize + retained
        itemsRemoved := r.statistics.itemsRemoved + deleted } : Statistics).Counts h :=
      ⟨hr.counts.checks, hr.counts.successful, hr.counts.failed, hr.counts.unknown⟩
    exact hbefore.absorb hs.1
  case original =>
    rw [hlevels, hsum, ← hr.original]
    rfl
  case minimized =>
    rw [hlevels, hsum, ← hr.minimized]
    rfl
  case removed =>
    rw [hlevels, hsum, ← hr.removed]
    rfl
  case granularity =>
    change max r.statistics.maxGranularity s.maxGranularity = 0 ∨ ∃ l ∈ r.levels ++ [_],
      max r.statistics.maxGranularity s.maxGranularity ≤ l.size
    have hown := hs.2
    -- The larger of the two numbers is that of the new level or of one before.
    rcases Nat.le_total r.statistics.maxGranularity s.maxGranularity with hle | hle
    · refine Or.inr ⟨_, List.mem_append_right _ (List.mem_singleton.mpr rfl), ?_⟩
      rwa [Nat.max_eq_right hle]
    · rw [Nat.max_eq_left hle]
      refine hr.granularity.imp_right ?_
      rintro ⟨l, hl, hsize⟩
      exact ⟨l, List.mem_append_left _ hl, hsize⟩

end Accounts

end Report

namespace Hierarchy

variable {a : Algorithm} {g : Generator γ α β} {t : Tester σ β} {p : Position σ γ α}

theorem accounts_run (ha : a.IsAccounting) {result : Outcome α}
    (hrun : (p.run a g t).answer = .ok result) :
    result.statistics.Accounts (p.run a g t).trials p.level.size := by
  cases hlevel : p.level.isEmpty with
  | true =>
    obtain ⟨rfl, htrials⟩ := run_minimizeLevel_empty hlevel hrun
    rw [Position.run, htrials]
    exact (Statistics.Accounts.start _).ofCut _
  | false =>
    have hend := (ha α p.level.items).run (t.comap (g.present p.generator)) p.tester
    rw [run_minimizeLevel_ok hlevel hrun] at hend
    rw [Position.run, trials_minimizeLevel hlevel]
    exact ⟨hend.1.map _, hend.2⟩

theorem size_eq_of_run {strict : Prop} {least : Nat} (ha : a.IsDisciplined strict least)
    {result : Outcome α} (hrun : (p.run a g t).answer = .ok result) :
    p.level.size = result.cut.retained.length + result.cut.deleted.length := by
  cases hlevel : p.level.isEmpty with
  | true =>
    obtain ⟨rfl, -⟩ := run_minimizeLevel_empty hlevel hrun
    exact congrArg List.length (List.isEmpty_iff.mp hlevel)
  | false =>
    rw [← List.length_append]
    exact (ha.result_perm (run_minimizeLevel_ok hlevel hrun)).length_eq.symm

theorem accounts_foldl_record (ha : a.IsAccounting) (l : List (Position σ γ α))
    (hl : ∀ q ∈ l, ∃ result, (q.run a g t).answer = .ok result) :
    (l.foldl (fun r (q : Position σ γ α) => q.record a g t r) ({} : Report)).Accounts
      (l.flatMap fun q => (q.run a g t).trials) := by
  induction l using List.reverseRecOn with
  | nil => exact .start
  | append_singleton l q ih =>
    obtain ⟨result, hrun⟩ := hl q (by simp)
    have hbefore := ih fun q hq => hl q (List.mem_append_left _ hq)
    rw [List.foldl_append, List.flatMap_append, List.flatMap_singleton]
    simp only [List.foldl_cons, List.foldl_nil, Position.record, Position.stage?_of_ok hrun]
    exact hbefore.recordLevel (accounts_run ha hrun) _ _

theorem levels_foldl_addTo (stages : List (Stage σ α)) :
    (stages.foldl Stage.addTo {}).levels = stages.mapIdx fun i x =>
      ⟨i + 1, x.level.size, x.result.cut.retained.length, x.result.cut.deleted.length,
        x.result.statistics.checksPerformed⟩ := by
  induction stages using List.reverseRecOn with
  | nil => rfl
  | append_singleton stages x ih =>
    have hlength := congrArg List.length ih
    rw [List.length_mapIdx] at hlength
    rw [List.foldl_append, List.mapIdx_concat, ← ih, ← hlength]
    rfl

variable [DecidableEq α]

theorem levelCount_of_ok {s : γ} {st : σ} {limits : HierarchyLimits} {report : Report}
    (hok : ((minimize a g limits s).run t st).answer.answer = .ok report) :
    report.levelCount =
      ((minimize a g.traced limits (s, {})).run t st).answer.generator.2.results.length := by
  obtain ⟨before, last, -, hlast, -, -, hfinal⟩ := stages_of_ok hok
  rw [results_minimize_traced, hfinal, hlast, Report.levelCount, levels_foldl_addTo]
  simp

/-- The report of a run that ends well accounts for its trials: it has a line for every level
visited, with its number, its size, the sizes of the result that the generator was given, and
the number of trials made in that level. Its counters are those of all trials of the run, its
sizes are the sums over the lines, and no level was cut into more chunks than the largest has
items. -/
theorem report_accounts (kind : AlgorithmKind) (limits : Limits) (seed : UInt64)
    (cancellable : Bool) (extensions : List Extension) (g : Generator γ α β)
    (hierarchy : HierarchyLimits) (t : Tester σ β) (s : γ) (st : σ) (report : Report)
    (hok : let a := (Algorithm.ofKind kind limits seed cancellable).extend extensions
      ((minimize a g hierarchy s).run t st).answer.answer = .ok report) :
    let a := (Algorithm.ofKind kind limits seed cancellable).extend extensions
    let trials := ((minimize a g hierarchy s).run t st).trials
    let results := ((minimize a g.traced hierarchy (s, {})).run t st).answer.generator.2.results
    let visited := visits a g hierarchy t s st
    let stats := report.statistics
    trials = visited.flatMap (fun q => (q.run a g t).trials) ∧
    report.levels.length = visited.length ∧ results.length = visited.length ∧
    (∀ (i : Nat) (l : LevelReport), report.levels[i]? = some l →
      ∃ (q : Position σ γ α) (result : Outcome α),
      visited[i]? = some q ∧ results[i]? = some result ∧ (q.run a g t).answer = .ok result ∧
      l = ⟨i + 1, q.level.size, result.cut.retained.length, result.cut.deleted.length,
        (q.run a g t).trials.length⟩ ∧ l.size = l.retained + l.deleted) ∧
    stats.checksPerformed = trials.length ∧
    stats.checksPerformed = stats.successfulRemovals + stats.failedRemovals ∧
    stats.successfulRemovals = trials.countP (·.2 = .holds) ∧
    stats.failedRemovals = trials.countP (·.2 ≠ .holds) ∧
    stats.unknownResults = trials.countP (·.2 = .unknown) ∧
    stats.originalSize = Number.total (report.levels.map LevelReport.size) ∧
    stats.minimizedSize = Number.total (report.levels.map LevelReport.retained) ∧
    stats.itemsRemoved = Number.total (report.levels.map LevelReport.deleted) ∧
    stats.itemsRemoved = report.totalDeleted ∧
    ∃ l ∈ report.levels, stats.maxGranularity ≤ l.size := by
  intro a trials results visited stats
  have ha : a.IsAccounting := (Algorithm.ofKind_isAccounting kind limits seed cancellable).extend _
  have hdisciplined := ((Algorithm.ofKind_isDisciplined kind limits seed cancellable).mono
    (Nat.zero_le _)).extend extensions
  have htrials : trials = visited.flatMap fun q => (q.run a g t).trials :=
    trials_minimize a g hierarchy t s st
  obtain ⟨before, last, -, hlast, -, -, hfinal⟩ := stages_of_ok hok
  rw [← hlast] at hfinal
  have hlevels : report.levels = _ := (congrArg Report.levels hfinal).trans (levels_foldl_addTo _)
  have haccounts : report.Accounts trials := by
    have hrecord := accounts_foldl_record (g := g) (t := t) ha visited
      fun q hq => exists_ok_of_mem_visits hok hq
    rwa [← htrials, ← foldl_addTo_stages, ← hfinal] at hrecord
  have hstages := map_stage?_visits hok
  have hlength : (stages a g hierarchy t s st).length = visited.length := by
    simpa using (congrArg List.length hstages).symm
  have hresults : results = (stages a g hierarchy t s st).map Stage.result :=
    results_minimize_traced a g hierarchy t s st
  refine ⟨htrials, by rw [hlevels, List.length_mapIdx, hlength],
    by rw [hresults, List.length_map, hlength], fun i l hl => ?_, haccounts.counts.checks,
    haccounts.counts.checks_eq, haccounts.counts.successful, haccounts.counts.failed,
    haccounts.counts.unknown, haccounts.original, haccounts.minimized, haccounts.removed,
    haccounts.removed, ?_⟩
  · rw [hlevels, List.getElem?_mapIdx, Option.map_eq_some_iff] at hl
    obtain ⟨x, hx, rfl⟩ := hl
    have hstage : (visited[i]?).map (fun q => q.stage? a g t) = some (some x) := by
      rw [← List.getElem?_map, hstages, List.getElem?_map, hx]
      rfl
    obtain ⟨q, hq, hqx⟩ := Option.map_eq_some_iff.mp hstage
    obtain ⟨hrun, hlevel⟩ := Position.ok_of_stage? hqx
    refine ⟨q, x.result, hq, by rw [hresults, List.getElem?_map, hx]; rfl, hrun, ?_, ?_⟩
    · rw [hlevel, ← (accounts_run ha hrun).1.checks]
    · rw [hlevel]
      exact size_eq_of_run hdisciplined hrun
  · have hsome : report.levels ≠ [] := by
      rw [hlevels, hlast]
      simp
    rcases haccounts.granularity with hzero | hsize
    · obtain ⟨l, hl⟩ := List.exists_mem_of_ne_nil _ hsome
      exact ⟨l, hl, hzero ▸ Nat.zero_le _⟩
    · exact hsize

/-- Three levels, the second of them empty. -/
def threeLevels : List (Level Nat) := [.ofList [1, 2, 3], .empty, .ofList [4]]

theorem report_accounts_threeLevels : ∃ report : Report,
    let a := (Algorithm.ofKind .ddmin {} 0 true).extend [.log, .zeroTesting]
    let r := (minimize a listed {} threeLevels).run Algorithm.scripted
      [.unknown, .holds, .lost, .unknown, .lost]
    r.answer.answer = .ok report ∧
      report.levels = [⟨1, 3, 2, 1, 4⟩, ⟨2, 0, 0, 0, 0⟩, ⟨3, 1, 1, 0, 1⟩] ∧
      report.statistics.checksPerformed = r.trials.length ∧
      report.statistics.unknownResults = r.trials.countP (·.2 = .unknown) := by
  have hlevels : ((minimize ((Algorithm.ofKind .ddmin {} 0 true).extend [.log, .zeroTesting])
      listed {} threeLevels).run Algorithm.scripted
        [.unknown, .holds, .lost, .unknown, .lost]).answer.answer.toOption.map Report.levels =
      some [⟨1, 3, 2, 1, 4⟩, ⟨2, 0, 0, 0, 0⟩, ⟨3, 1, 1, 0, 1⟩] := by decide +kernel
  cases hok : ((minimize ((Algorithm.ofKind .ddmin {} 0 true).extend [.log, .zeroTesting])
      listed {} threeLevels).run Algorithm.scripted
        [.unknown, .holds, .lost, .unknown, .lost]).answer.answer with
  | error e =>
    rw [hok] at hlevels
    cases hlevels
  | ok report =>
    rw [hok] at hlevels
    have haccounts := report_accounts .ddmin {} 0 true [.log, .zeroTesting] listed {}
      Algorithm.scripted threeLevels [.unknown, .holds, .lost, .unknown, .lost] report hok
    exact ⟨report, hok, Option.some_inj.mp hlevels, haccounts.2.2.2.2.1,
      haccounts.2.2.2.2.2.2.2.2.1⟩

end Hierarchy

end DeltaDebugging
