import DeltaDebugging.Proofs.Hierarchy.History
import DeltaDebugging.Proofs.Reduction
import Mathlib.Data.Set.List

/-!
# Bookkeeping of a reduction

The algorithm keeps lists of units and the project a document, which only transactions change.
Whatever the oracle says, each level leaves the lines of the units that its result retains, and
so the lines that no result deletes. With a memory this stays so, because what was remembered to
hold was committed when it was asked.
-/
namespace DeltaDebugging

namespace Reduction

/-- A run as it is seen from the outermost tester: what it ends with, the levels it completes,
each with how it leaves the project, and the trials it makes. -/
structure Transcript (τ : Type) where
  reduction : Reduction τ
  stages : List (Stage (Project Document τ) TextUnit)
  trials : Trials TextUnit

variable {τ ω : Type} {s : Settings} {f : SameFailure Document τ TextUnit Failure}
  {cancelled : τ → Bool} {d : Document} {t : τ}

/-- The run against a tester, of whose state the project is a part. -/
def transcribe (s : Settings) (d : Document) (outer : Tester ω TextUnit)
    (inner : ω → Project Document τ) (w : ω) : Transcript τ :=
  let r := (s.dialogue d).run outer.counted ⟨w, 0⟩
  { reduction := ⟨inner r.state.inner, r.state.trials, r.answer.answer⟩
    stages := (Hierarchy.stages s.minimizer.toAlgorithm d.generator s.hierarchy outer.counted ()
      ⟨w, 0⟩).map (Stage.map fun w => inner w.inner)
    trials := r.trials }

def transcript (s : Settings) (f : SameFailure Document τ TextUnit Failure)
    (cancelled : τ → Bool) (d : Document) (t : τ) : Transcript τ :=
  let bare := tester s f cancelled
  let start : Project Document τ := ⟨⟨d, 0, 0⟩, t, 0⟩
  if s.minimizer.cacheResults then
    transcribe s d bare.cached Tester.Cached.inner ⟨start, .empty, 0⟩
  else
    transcribe s d bare id start

theorem reduction_transcript (s : Settings) (f : SameFailure Document τ TextUnit Failure)
    (cancelled : τ → Bool) (d : Document) (t : τ) :
    (transcript s f cancelled d t).reduction = run s f cancelled d t := by
  unfold transcript run
  dsimp only
  split <;> rfl

/-- What holds of the run against any tester that remembers only what it was told holds of the
run, with the memory or without. -/
theorem transcript_rule {P : Transcript τ → Prop}
    (h : ∀ (ω : Type) (outer : Tester ω TextUnit) (inner : ω → Project Document τ)
      (recalls : ω → List TextUnit → Option Verdict) (valid : ω → Prop) (w : ω),
      outer.Memoizes (tester s f cancelled) inner recalls valid → valid w →
      inner w = ⟨⟨d, 0, 0⟩, t, 0⟩ → (∀ key, recalls w key = none) →
      P (transcribe s d outer inner w)) : P (transcript s f cancelled d t) := by
  unfold transcript
  dsimp only
  split
  · exact h _ _ _ _ _ _ (.cached _) Trie.wf_empty rfl Trie.get?_empty
  · exact h _ _ _ _ _ _ (.refl _) trivial rfl fun _ => rfl

section Levels

variable {J : List TextUnit → ω → Prop} {R : Cut TextUnit × Verdict → Prop}
  {outer : Tester ω TextUnit} {inner : ω → Project Document τ} {w : ω}
  {results : List (Outcome TextUnit)} {level : Level TextUnit} {result : Outcome TextUnit}

/-- A level that is about to be minimized when there are these results: the first is one of
blocks and the second one of lines, and it has the lines that no result deletes. -/
structure Follows (d : Document) (results : List (Outcome TextUnit)) (level : Level TextUnit) :
    Prop where
  turn : (results = [] ∧ ∀ u ∈ level.items, ∃ i, u = .block i) ∨
    ((∃ first, results = [first]) ∧ ∀ u ∈ level.items, ∃ i, u = .line i)
  left : ∀ i, i ∈ d.covered level.items ↔
    d.isAlive i = true ∧ ∀ result ∈ results, i ∉ d.covered result.cut.deleted

/-- A level that was completed after these results: of the document only the lines of the units
retained are left, which are those that no result deletes. -/
structure Booked (d : Document) (results : List (Outcome TextUnit))
    (x : Stage (Project Document τ) TextUnit) : Prop where
  follows : Follows d results x.level
  retained_subset : x.result.cut.retained ⊆ x.level.items
  retained_nodup : x.result.cut.retained.Nodup
  context : x.state.manager.context = d.keep x.result.cut.retained
  left : ∀ i, i ∈ d.covered x.result.cut.retained ↔
    d.isAlive i = true ∧ ∀ result ∈ results ++ [x.result], i ∉ d.covered result.cut.deleted

theorem follows_first (hd : d.Laid)
    (hwhole : ∀ i ∈ d.blocks.flatMap Block.lines, d.isAlive i = true) :
    Follows d [] (.ofList d.blockUnits) where
  turn := Or.inl ⟨rfl, fun u hu => by
    obtain ⟨i, -, rfl, -⟩ := Document.mem_blockUnits.mp (Level.mem_ofList.mp hu)
    exact ⟨i, rfl⟩⟩
  left i := by
    rw [mem_covered_ofList]
    constructor
    · exact fun hi => ⟨hwhole i (Document.covered_blockUnits_subset hi), by simp⟩
    · exact fun hi => hd.mem_covered_blockUnits hi.1

theorem booked_of_run (hc : Carries outer d J R)
    (hcontext : ∀ kept w, J kept w → (inner w).manager.context = d.keep kept)
    (hstands : Stands d J level w) (hfollows : Follows d results level)
    (hok : ((s.minimizer.toAlgorithm.minimize level.items).run.run outer w).answer = .ok result) :
    let w' := ((s.minimizer.toAlgorithm.minimize level.items).run.run outer w).state
    J result.cut.retained w' ∧ Booked d results ⟨level, result, inner w'⟩ := by
  have hdisciplined := s.minimizer.toAlgorithm_isDisciplined
  have hperm := hdisciplined.result_perm hok
  have hsub := hdisciplined.retained_subset hok
  obtain ⟨hkept, -⟩ := hc.completed hdisciplined hstands.isLevel level.nodup hstands.carried
    s.minimizer.toAlgorithm_isAttentive hok
  refine ⟨hkept, hfollows, hsub, ?_, hcontext _ _ hkept, fun i => ?_⟩
  · exact (List.nodup_append.mp (hperm.nodup_iff.mpr level.nodup)).1
  · rw [hstands.isLevel.mem_covered_left (Cut.mem_deleted_iff hperm level.nodup)
      (List.Subset.refl _) hsub, hfollows.left i, List.forall_mem_append,
      List.forall_mem_singleton, and_assoc]

namespace Booked

variable {x : Stage (Project Document τ) TextUnit}

theorem retained_uniform (h : Booked d results x) :
    (∀ u ∈ x.result.cut.retained, ∃ i, u = .block i) ∨
      ∀ u ∈ x.result.cut.retained, ∃ i, u = .line i :=
  h.follows.turn.imp (fun h' u hu => h'.2 u (h.retained_subset hu))
    fun h' u hu => h'.2 u (h.retained_subset hu)

/-- If the units retained have parts, these are the next level. -/
theorem follows_children (h : Booked d results x)
    (hparts : x.result.cut.retained.flatMap d.children ≠ []) :
    Follows d (results ++ [x.result]) (.ofList (x.result.cut.retained.flatMap d.children)) := by
  have hlines : ¬ ∀ u ∈ x.result.cut.retained, ∃ i, u = .line i := fun hlines =>
    hparts (Document.children_lines hlines)
  have hblocks := h.retained_uniform.resolve_right hlines
  obtain ⟨rfl, -⟩ := h.follows.turn.resolve_right fun h' =>
    hlines fun u hu => h'.2 u (h.retained_subset hu)
  constructor
  · refine Or.inr ⟨⟨x.result, rfl⟩, fun u hu => ?_⟩
    obtain ⟨_, -, i, -, rfl⟩ := Document.eq_line_of_mem_children (Level.mem_ofList.mp hu)
    exact ⟨i, rfl⟩
  · intro i
    rw [mem_covered_ofList, Document.mem_covered_children hblocks, h.left]

theorem isAlive_iff (h : Booked d results x) {i : Nat} :
    x.state.manager.context.isAlive i = true ↔ d.isAlive i = true ∧
      ∀ result ∈ results ++ [x.result], i ∉ d.covered result.cut.deleted := by
  rw [h.context, Document.isAlive_keep, ← h.left]
  exact ⟨And.right, fun hi => ⟨((h.left i).mp hi).1, hi⟩⟩

theorem isAlive_iff_mem (h : Booked d results x) {i : Nat} :
    x.state.manager.context.isAlive i = true ↔ i ∈ d.covered x.result.cut.retained := by
  rw [h.isAlive_iff, h.left]

/-- If the units retained have no parts, they are no blocks, unless of no lines, and as many as
there are lines left. -/
theorem aliveLines_eq (h : Booked d results x)
    (hparts : x.result.cut.retained.flatMap d.children = []) :
    (results = [] ∧ x.state.manager.context.aliveLines = 0) ∨
      ((∃ first, results = [first]) ∧
        x.state.manager.context.aliveLines = x.result.cut.retained.length) := by
  rcases h.follows.turn with ⟨hfirst, hblocks⟩ | ⟨hsecond, hlines⟩
  · refine Or.inl ⟨hfirst, Document.aliveLines_eq_length List.nodup_nil fun i => ?_⟩
    rw [h.isAlive_iff_mem, ← Document.mem_covered_children fun u hu =>
      hblocks u (h.retained_subset hu), hparts]
    rfl
  · obtain ⟨lines, hretained⟩ : x.result.cut.retained ∈ Set.range (List.map TextUnit.line) := by
      rw [Set.range_list_map]
      intro u hu
      obtain ⟨i, rfl⟩ := hlines u (h.retained_subset hu)
      exact ⟨i, rfl⟩
    have hcovered : d.covered x.result.cut.retained = lines := by
      simp [← hretained, Document.covered, List.flatMap_map, Document.unitLines]
    refine Or.inr ⟨hsecond, ?_⟩
    rw [← hretained, List.length_map]
    refine Document.aliveLines_eq_length ?_ fun i => by rw [h.isAlive_iff_mem, hcovered]
    exact List.Nodup.of_map _ (hretained ▸ h.retained_nodup)

end Booked

end Levels

/-- Whatever an oracle answers, the tester commits to what a trial retains if it says so. -/
theorem commits_of_lens (hlens : f.lens = Document.lens) (s : Settings) (cancelled : τ → Bool)
    (d : Document) : Commits (tester s f cancelled) d fun _ _ => True := by
  constructor
  intro units kept c p v p' hadmissible hp _ _ htest
  have hverdict : ((tester s f cancelled).test c p).1 = v := by rw [htest]
  have hproject : ((tester s f cancelled).test c p).2 = p' := by rw [htest]
  rw [← hproject]
  refine ⟨trivial, ?_⟩
  by_cases hv : v = .holds
  · obtain ⟨⟨t₁, _, _, _, _, _, -, hrun, -⟩, -⟩ := SameFailure.test_holds (hverdict.trans hv)
    rw [hlens, hp] at hrun
    have hkeep := hadmissible.run_lens (fun t => true && cancelled t) t₁
    rw [if_pos hv]
    exact congrArg (fun x => x.2.1) (hrun.symm.trans hkeep)
  · rw [if_neg hv, ← hp]
    exact (SameFailure.test_refused (hlens ▸ s.snapshot.strategy_restores)
      fun h => hv (hverdict.symm.trans h)).1

section Runs

variable {outer : Tester ω TextUnit} {inner : ω → Project Document τ}
  {recalls : ω → List TextUnit → Option Verdict} {valid : ω → Prop} {w : ω}
  {before after : List (Stage (Project Document τ) TextUnit)}
  {x : Stage (Project Document τ) TextUnit} {report : Report}

theorem booked_of_transcribe (hlens : f.lens = Document.lens) (hd : d.Laid)
    (hwhole : ∀ i ∈ d.blocks.flatMap Block.lines, d.isAlive i = true)
    (hmemo : outer.Memoizes (tester s f cancelled) inner recalls valid) (hvalid : valid w)
    (hcontext : (inner w).manager.context = d) (hempty : ∀ key, recalls w key = none)
    (hx : (transcribe s d outer inner w).stages = before ++ x :: after) :
    Booked d (before.map Stage.result) x := by
  obtain ⟨before, rest, hstages, rfl, hrest⟩ := List.map_eq_append_iff.mp hx
  obtain ⟨x, after, rfl, rfl, rfl⟩ := List.map_eq_cons_iff.mp hrest
  rw [List.map_map]
  have hcarries := (commits_of_lens hlens s cancelled d).carries hmemo.counted
  refine Hierarchy.stages_keep
    (fun results _ level w => Stands d (Tracks (fun _ _ => True) d (fun w => inner w.inner)
      (fun w => recalls w.inner) fun w => valid w.inner) level w ∧ Follows d results level)
    (fun results x => Booked d results (x.map fun w => inner w.inner)) ?_ ?_ hstages
  · rintro results u level w result ⟨hstands, hfollows⟩ r hok
    obtain ⟨hkept, hbooked⟩ := booked_of_run hcarries (fun _ _ h => h.context) hstands hfollows
      (Hierarchy.run_minimizeLevel_ok hstands.nonempty hok)
    have hstate : r.state = _ := Hierarchy.state_minimizeLevel hstands.nonempty
    rw [hstate]
    refine ⟨hbooked, fun {next u'} hnext => ?_⟩
    obtain ⟨hparts, rfl⟩ := next_eq_some hnext
    exact ⟨hcarries.stands_children hd hkept hbooked.retained_uniform hparts,
      hbooked.follows_children hparts⟩
  · intro level u hfirst
    obtain ⟨hblocks, rfl⟩ := first_eq_ok hfirst
    exact ⟨hcarries.stands_first hd (.start hd hvalid hcontext hempty) hblocks,
      follows_first hd hwhole⟩

/-- If a run ends well, its last level leaves the project as it is in the end and no parts. -/
theorem transcribe_ok (hok : (transcribe s d outer inner w).reduction.result = .ok report) :
    ∃ before last, (transcribe s d outer inner w).stages = before ++ [last] ∧
      last.state = (transcribe s d outer inner w).reduction.project ∧
      last.result.cut.retained.flatMap d.children = [] ∧
      report = (before ++ [last]).foldl Stage.addTo {} := by
  obtain ⟨before, last, u, hstages, hstate, hnext, hreport⟩ := Hierarchy.stages_of_ok hok
  refine ⟨before.map (Stage.map fun w => inner w.inner), last.map fun w => inner w.inner, ?_, ?_,
    next_eq_none hnext, ?_⟩
  · exact (congrArg (List.map _) hstages).trans (by simp)
  · exact congrArg (fun w => inner w.inner) hstate
  · rw [hreport, ← List.map_singleton, ← List.map_append, List.foldl_map]
    rfl

end Runs

section Transcripts

variable {before after : List (Stage (Project Document τ) TextUnit)}
  {x : Stage (Project Document τ) TextUnit} {report : Report}

theorem booked_of_transcript (hlens : f.lens = Document.lens) (hd : d.Laid)
    (hwhole : ∀ i ∈ d.blocks.flatMap Block.lines, d.isAlive i = true)
    (hx : (transcript s f cancelled d t).stages = before ++ x :: after) :
    Booked d (before.map Stage.result) x := by
  revert hx
  refine transcript_rule
    (P := fun y => y.stages = before ++ x :: after → Booked d (before.map Stage.result) x) ?_
  intro ω outer inner recalls valid w hmemo hvalid hstart hempty hx
  exact booked_of_transcribe hlens hd hwhole hmemo hvalid (by rw [hstart]) hempty hx

theorem transcript_ok (hok : (transcript s f cancelled d t).reduction.result = .ok report) :
    ∃ before last, (transcript s f cancelled d t).stages = before ++ [last] ∧
      last.state = (transcript s f cancelled d t).reduction.project ∧
      last.result.cut.retained.flatMap d.children = [] ∧
      report = (before ++ [last]).foldl Stage.addTo {} := by
  revert hok
  refine transcript_rule (P := fun y => y.reduction.result = .ok report → ∃ before last,
    y.stages = before ++ [last] ∧ last.state = y.reduction.project ∧
      last.result.cut.retained.flatMap d.children = [] ∧
      report = (before ++ [last]).foldl Stage.addTo {}) ?_
  intro ω outer inner recalls valid w _ _ _ _ hok
  exact transcribe_ok hok

/-- The report of a run that ends well has a level of blocks, and if lines are left of them, one
of these lines. -/
theorem levels_of_ok (hbooked : Booked d (before.map Stage.result) x)
    (hparts : x.result.cut.retained.flatMap d.children = [])
    (hreport : report = (before ++ [x]).foldl Stage.addTo {}) :
    (∃ first, report.levels = [first] ∧ x.state.manager.context.aliveLines = 0) ∨
      ∃ first second, report.levels = [first, second] ∧
        second.retained = x.state.manager.context.aliveLines := by
  refine (hbooked.aliveLines_eq hparts).imp (fun ⟨hresults, hnone⟩ => ?_)
    fun ⟨⟨result, hresults⟩, hcount⟩ => ?_
  · obtain rfl := List.map_eq_nil_iff.mp hresults
    exact ⟨_, by rw [hreport]; rfl, hnone⟩
  · obtain ⟨first, rfl, -⟩ := List.map_eq_singleton_iff.mp hresults
    exact ⟨_, _, by rw [hreport]; rfl, hcount.symm⟩

/-- Whatever the oracle answers, with or without memory and under either strategy, after each
level of a reduction the lines left are those of the text which are not blank and belong to no
unit that a result so far deletes. If the reduction ends well, the report has one level and no
line is left, or it has two and as many lines are left as the second retains. -/
theorem reduce_bookkeeping (s : Settings) (oracle : Document → Activity τ (Check Failure))
    (cancelled : τ → Bool) (text : String) (t t' : τ) (r : Reduction τ)
    (hrun : reduce s oracle cancelled (.parse text) t = (.done (.ok r), t')) :
    ∃ initial t₀, (oracle (.parse text)).run (fun _ => false) t = (.done (.failed initial), t₀) ∧
      let d := Document.parse text
      let f := ⟨oracle, Failure.same s.oracle.compareMessage, Document.lens, initial, []⟩
      let x := transcript s f cancelled d t₀
      x.reduction = r ∧
      (∀ before last after, x.stages = before ++ last :: after → ∀ i,
        last.state.manager.context.isAlive i = true ↔
          (∃ line, (Text.lines text)[i]? = some line ∧ Text.isBlank line = false) ∧
            ∀ stage ∈ before ++ [last], i ∉ d.covered stage.result.cut.deleted) ∧
      ∀ report, r.result = .ok report →
        (∃ before last, x.stages = before ++ [last] ∧ last.state = r.project ∧
          report = x.stages.foldl Stage.addTo {}) ∧
        ((∃ first, report.levels = [first] ∧ r.document.aliveLines = 0) ∨
          ∃ first second, report.levels = [first, second] ∧
            second.retained = r.document.aliveLines) := by
  obtain ⟨initial, t₀, hinitial, rfl⟩ := reduce_ok hrun
  refine ⟨initial, t₀, hinitial, reduction_transcript _ _ _ _ _, ?_, fun report hok => ?_⟩
  · intro before last after hstages i
    have hbooked := booked_of_transcript rfl (Document.parse_laid text)
      (fun _ => Document.isAlive_parse_iff_mem.mpr) hstages
    rw [hbooked.isAlive_iff, Document.isAlive_parse, ← List.map_singleton, ← List.map_append,
      List.forall_mem_map]
  · rw [← reduction_transcript] at hok ⊢
    obtain ⟨before, last, hstages, hproject, hparts, hreport⟩ := transcript_ok hok
    have hbooked := booked_of_transcript rfl (Document.parse_laid text)
      (fun _ => Document.isAlive_parse_iff_mem.mpr) hstages
    refine ⟨⟨before, last, hstages, hproject, hstages ▸ hreport⟩, ?_⟩
    rw [document, ← hproject]
    exact levels_of_ok hbooked hparts hreport

/-- Reports the same failure at all times but every third. -/
def wavering (_ : Document) : Activity Nat (Check Failure) :=
  .act (· + 1) fun n => return if n % 3 = 0 then .passed else .failed ⟨some 1, ""⟩

theorem reduce_bookkeeping_wavering : ∃ (r : Reduction Nat) (report : Report),
    reduce {} wavering (fun _ => false) (.parse "a\nb\n\nc") 0 = (.done (.ok r), 4) ∧
    r.result = .ok report ∧ r.document.render = "a" ∧
    ((∃ first, report.levels = [first] ∧ r.document.aliveLines = 0) ∨
      ∃ first second, report.levels = [first, second] ∧
        second.retained = r.document.aliveLines) := by
  refine ⟨_, _, rfl, rfl, rfl, ?_⟩
  obtain ⟨_, _, -, -, -, hok⟩ := reduce_bookkeeping {} wavering (fun _ => false) "a\nb\n\nc" 0 4 _
    rfl
  exact (hok _ rfl).2

end Transcripts

end Reduction

end DeltaDebugging
