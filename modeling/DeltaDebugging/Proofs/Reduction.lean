import DeltaDebugging.Proofs.Algorithm.Attentive
import DeltaDebugging.Proofs.Algorithm.Survivors
import DeltaDebugging.Proofs.Hierarchy.Driver
import DeltaDebugging.Proofs.Memo
import DeltaDebugging.Proofs.Snapshot.Answered
import DeltaDebugging.Proofs.Text.Document
import DeltaDebugging.Reduction

/-!
# What a reduction arrives at

If the oracle's answer depends on the text alone, the verdict on a trial is that on the lines
of the units it retains, in whichever of the two levels it is made. That is why a verdict
remembered from one level is right in the other, where the same empty list stands for the same
empty text. So every refusal since the last success is one of the final document.
-/
namespace DeltaDebugging

theorem SnapshotKind.strategy_restores {τ : Type} (k : SnapshotKind) :
    k.strategy.Restores (Document.lens : Lens Document τ TextUnit) := by
  cases k with
  | clone => exact fun _ => ⟨trivial, fun _ _ => trivial⟩
  | checkpoint => exact Document.checkpointing_restores

theorem SnapshotKind.strategy_takes (k : SnapshotKind) (d : Document) : k.strategy.Takes d := by
  cases k with
  | clone => trivial
  | checkpoint => exact Document.checkpointing_takes d

namespace MinimizerSettings

variable {m : MinimizerSettings}

theorem toAlgorithm_isDisciplined (m : MinimizerSettings) :
    m.toAlgorithm.IsDisciplined (m.algorithm = .ddmin) 0 :=
  ((Algorithm.ofKind_isDisciplined m.algorithm m.limits m.seed true).mono (Nat.zero_le _)).extend
    [.zeroTesting, .log]

theorem toAlgorithm_of_ddmin (hddmin : m.algorithm = .ddmin) :
    m.toAlgorithm = (Algorithm.ddmin m.limits true).withZeroTesting.withLog := by
  rw [toAlgorithm, hddmin, Algorithm.ofKind]

theorem toAlgorithm_isMinimizing (hddmin : m.algorithm = .ddmin)
    (hearly : m.limits.earlyTermination = false) :
    m.toAlgorithm.IsMinimizing m.limits.minSize True := by
  have h := (Algorithm.ddmin_isMinimizing hearly true).extend [.zeroTesting, .log]
  rw [toAlgorithm_of_ddmin hddmin]
  rwa [show (.zeroTesting ∈ [Extension.zeroTesting, .log]) = True by simp] at h

theorem toAlgorithm_isComposed (m : MinimizerSettings) : m.toAlgorithm.IsComposed :=
  (Algorithm.ofKind_isComposed m.algorithm m.limits m.seed true).extend [.zeroTesting, .log]

theorem toAlgorithm_isAttentive (m : MinimizerSettings) : m.toAlgorithm.IsAttentive :=
  m.toAlgorithm_isComposed.isAttentive (Algorithm.cancellable_ofKind _ _ _ true)

end MinimizerSettings

namespace Reduction

variable {τ ω : Type} {s : Settings} {f : SameFailure Document τ TextUnit Failure}
  {cancelled : τ → Bool} {answer : String → Check Failure} {d : Document}
  {units kept : List TextUnit} {outer : Tester ω TextUnit} {w w' : ω}
  {J : List TextUnit → ω → Prop} {R : Cut TextUnit × Verdict → Prop}

section Levels

/-- A trial about a level of units: of those kept before it retains some, and it deletes all
others of the level, gone or not. -/
structure Admissible (d : Document) (units kept : List TextUnit) (c : Cut TextUnit) : Prop where
  isLevel : d.IsLevel units
  mem_deleted_iff : ∀ u, u ∈ c.deleted ↔ u ∈ units ∧ u ∉ c.retained
  kept_subset : kept ⊆ units
  retained_subset : c.retained ⊆ kept

/-- What trials keep of the units kept so far and the tester's state, and what they show. Of the
units only the lines matter, so that the next level may take over. -/
structure Carries (outer : Tester ω TextUnit) (d : Document) (J : List TextUnit → ω → Prop)
    (R : Cut TextUnit × Verdict → Prop) : Prop where
  congr : ∀ {units kept w}, (∀ i, i ∈ d.covered kept ↔ i ∈ d.covered units) → J units w → J kept w
  trial : ∀ {units kept c w v w'}, Admissible d units kept c → J kept w →
    outer.cancelled w = false → outer.cancelled w' = false → outer.test c w = (v, w') →
    R (c, v) ∧ J (if v = .holds then c.retained else kept) w'

section Minimize

variable {a : Algorithm} {strict : Prop} {least : Nat} {result : Outcome TextUnit}
  {trials : Trials TextUnit} {committed : List Bool} (hc : Carries outer d J R)
  (hdisciplined : a.IsDisciplined strict least) (hlevel : d.IsLevel units) (hunits : units.Nodup)
  (h : J units w)

include hc hlevel hunits h

theorem Carries.level (hd : Trials.Disciplined units (Trials.Narrows strict least) trials committed)
    (hquiet : outer.Quiet w trials w') :
    J (Cut.ofMask units committed).retained w' ∧ ∀ x ∈ trials, R x := by
  refine hquiet.follows (J := fun committed => J (Cut.ofMask units committed).retained) ?_ ?_ hd
  · intro committed mask w v w' hw _ hlen hnarrows hbefore hafter htest
    rw [apply_ite fun mask => (Cut.ofMask units mask).retained]
    exact hc.trial ⟨hlevel, Cut.mem_deleted_iff (Cut.ofMask_perm hlen) hunits,
      (Cut.ofMask_retained_sublist units committed).subset,
      Cut.ofMask_retained_subset hnarrows.within⟩ hw hbefore hafter htest
  · rwa [Cut.ofMask_replicate_true]

include hdisciplined

theorem Carries.completed (hattentive : a.IsAttentive)
    (hrun : ((a.minimize units).run.run outer w).answer = .ok result) :
    J result.cut.retained ((a.minimize units).run.run outer w).state ∧
      ∀ x ∈ ((a.minimize units).run.run outer w).trials, R x := by
  have hend := (hdisciplined TextUnit units).run outer w
  rw [hrun] at hend
  obtain ⟨mask, hcut, htrials⟩ := hend
  rw [hcut]
  exact hc.level hlevel hunits h htrials (hattentive.2 TextUnit units outer w result hrun)

end Minimize

/-- A level that is about to be minimized: some blocks, or some lines. -/
structure Stands (d : Document) (J : List TextUnit → ω → Prop) (level : Level TextUnit) (w : ω) :
    Prop where
  nonempty : level.isEmpty = false
  isLevel : d.IsLevel level.items
  uniform : (∀ u ∈ level.items, ∃ i, u = .block i) ∨ ∀ u ∈ level.items, ∃ i, u = .line i
  carried : J level.items w

section Generator

variable {u u' : Unit} {level : Level TextUnit} {result : Outcome TextUnit}

theorem first_eq_ok (h : d.generator.first u = (.ok level, u')) :
    d.blockUnits.isEmpty = false ∧ level = .ofList d.blockUnits := by
  obtain ⟨h, -⟩ := Prod.mk.inj h
  split at h
  · cases h
  · next hblocks => exact ⟨by simpa using hblocks, (Except.ok.inj h).symm⟩

theorem next_eq (d : Document) (result : Outcome TextUnit) (u : Unit) :
    (d.generator.next result u).1 = if result.cut.retained.flatMap d.children = [] then none
      else some (.ofList (result.cut.retained.flatMap d.children)) := by
  simp [Document.generator, Generator.tree, Refinement.side]

theorem next_eq_some (h : d.generator.next result u = (some level, u')) :
    result.cut.retained.flatMap d.children ≠ [] ∧
      level = .ofList (result.cut.retained.flatMap d.children) := by
  have hnext := (next_eq d result u).symm.trans (congrArg Prod.fst h)
  split at hnext
  · cases hnext
  · next hparts => exact ⟨hparts, (Option.some_inj.mp hnext).symm⟩

theorem next_eq_none (h : (d.generator.next result u).1 = none) :
    result.cut.retained.flatMap d.children = [] := by
  by_contra hparts
  rw [next_eq, if_neg hparts] at h
  cases h

end Generator

theorem mem_covered_ofList {i : Nat} :
    i ∈ d.covered (Level.ofList units).items ↔ i ∈ d.covered units := by
  simp only [Document.mem_covered, Level.mem_ofList]

theorem Carries.stands_first (hc : Carries outer d J R) (hd : d.Laid) (h : J d.blockUnits w)
    (hblocks : d.blockUnits.isEmpty = false) : Stands d J (.ofList d.blockUnits) w where
  nonempty := by rw [Level.isEmpty_ofList, hblocks]
  isLevel := hd.isLevel_blockUnits.subset fun u hu => Level.mem_ofList.mp hu
  uniform := Or.inl fun u hu => by
    obtain ⟨i, -, rfl, -⟩ := Document.mem_blockUnits.mp (Level.mem_ofList.mp hu)
    exact ⟨i, rfl⟩
  carried := hc.congr (fun _ => mem_covered_ofList) h

theorem Carries.stands_children (hc : Carries outer d J R) (hd : d.Laid) (h : J units w)
    (huniform : (∀ u ∈ units, ∃ i, u = .block i) ∨ ∀ u ∈ units, ∃ i, u = .line i)
    (hparts : units.flatMap d.children ≠ []) :
    Stands d J (.ofList (units.flatMap d.children)) w where
  nonempty := by simpa using hparts
  isLevel := (hd.isLevel_children units).subset fun u hu => Level.mem_ofList.mp hu
  uniform := Or.inr fun u hu => by
    obtain ⟨_, -, i, -, rfl⟩ := Document.eq_line_of_mem_children (Level.mem_ofList.mp hu)
    exact ⟨i, rfl⟩
  carried := by
    have hblocks := huniform.resolve_right fun hlines => hparts (Document.children_lines hlines)
    exact hc.congr (fun _ => mem_covered_ofList.trans (Document.mem_covered_children hblocks)) h

end Levels

section Commits

variable {shows : List TextUnit → Verdict → Prop}

/-- The tester commits to the lines of the units that a trial retains if it says so, and leaves
the document otherwise; a verdict on units shows something about them. -/
structure Commits (bare : Tester (Project Document τ) TextUnit) (d : Document)
    (shows : List TextUnit → Verdict → Prop) : Prop where
  trial : ∀ {units kept c p v p'}, Admissible d units kept c → p.manager.context = d.keep kept →
    bare.cancelled p = false → bare.cancelled p' = false → bare.test c p = (v, p') →
    shows c.retained v ∧ p'.manager.context = d.keep (if v = .holds then c.retained else kept)

/-- Deletions of units are judged by what the oracle answers to the text that is left. -/
structure Judges (f : SameFailure Document τ TextUnit Failure) (answer : String → Check Failure) :
    Prop where
  answers : SameFailure.Answers f.oracle fun d => answer d.render
  lens : f.lens = Document.lens
  listeners : f.listeners = []

/-- The verdict on what some units leave of a document. -/
def verdict (f : SameFailure Document τ TextUnit Failure) (answer : String → Check Failure)
    (d : Document) (units : List TextUnit) : Verdict :=
  f.verdictOf (answer (d.keep units).render)

/-- In a trial all units to delete are there, and what is left are the lines of those retained. -/
theorem Admissible.run_lens {c : Cut TextUnit} (h : Admissible d units kept c)
    (cancelled : τ → Bool) (t : τ) :
    (Document.lens c.deleted).run (fun s => cancelled s.2) (d.keep kept, t) =
      (.done (.ok ()), d.keep c.retained, t) := by
  have hhas : ∀ u ∈ c.deleted, (d.keep kept).Has u := fun u hu =>
    (Document.has_select _).mpr (h.isLevel.has u ((h.mem_deleted_iff u).mp hu).1)
  rw [Document.run_lens, Document.deleteAll_eq hhas]
  exact congrArg (fun w => (_, w, _))
    (h.isLevel.kill_keep h.mem_deleted_iff h.kept_subset h.retained_subset)

/-- If the answers are fixed, so is the verdict of a trial that nothing cuts short. -/
theorem Judges.test (hf : Judges f answer) (s : Settings) {c : Cut TextUnit}
    {p p' : Project Document τ} {v : Verdict} (hadmissible : Admissible d units kept c)
    (hp : p.manager.context = d.keep kept) (hbefore : cancelled p.surroundings = false)
    (hafter : cancelled p'.surroundings = false)
    (htest : (tester s f cancelled).test c p = (v, p')) :
    v = verdict f answer d c.retained ∧
      p'.manager.context = d.keep (if v = .holds then c.retained else kept) ∧
      p'.surroundings = ((f.oracle (d.keep c.retained)).run cancelled p.surroundings).2 := by
  have hlens : (f.lens c.deleted).run (fun s => cancelled s.2)
      (p.manager.context, p.surroundings) =
      (.done (.ok ()), d.keep c.retained, p.surroundings) := by
    rw [hf.lens, hp]
    exact hadmissible.run_lens cancelled p.surroundings
  obtain ⟨hv, hcontext, hsurroundings⟩ := SameFailure.test_of_answers hf.answers hf.listeners
    (hf.lens ▸ s.snapshot.strategy_restores) (s.snapshot.strategy_takes _) hlens hbefore hafter
    htest
  refine ⟨hv, hcontext.trans ?_, hsurroundings⟩
  rw [hp, apply_ite d.keep]

theorem Judges.commits (hf : Judges f answer) (s : Settings) (d : Document) :
    Commits (tester s f cancelled) d fun key v => v = verdict f answer d key where
  trial hadmissible hp hbefore hafter htest := by
    obtain ⟨hv, hcontext, -⟩ := hf.test s hadmissible hp hbefore hafter htest
    exact ⟨hv, hcontext⟩

end Commits

section Tracks

variable {inner : ω → Project Document τ} {recalls : ω → List TextUnit → Option Verdict}
  {valid : ω → Prop} {shows : List TextUnit → Verdict → Prop}

/-- The committed document keeps the lines of some units, everything recalled was shown by a
verdict, and if that was a success, no line besides those of its units is left. -/
structure Tracks (shows : List TextUnit → Verdict → Prop) (d : Document)
    (inner : ω → Project Document τ) (recalls : ω → List TextUnit → Option Verdict)
    (valid : ω → Prop) (units : List TextUnit) (w : ω) : Prop where
  valid : valid w
  context : (inner w).manager.context = d.keep units
  recalled : ∀ key v, recalls w key = some v → shows key v
  succeeded : ∀ key, recalls w key = some .holds →
    ∀ i, d.isAlive i = true → i ∈ d.covered units → i ∈ d.covered key

/-- Before the first trial nothing is recalled, and the document is whole. -/
theorem Tracks.start (hd : d.Laid) (hvalid : valid w) (hcontext : (inner w).manager.context = d)
    (hempty : ∀ key, recalls w key = none) :
    Tracks shows d inner recalls valid d.blockUnits w :=
  ⟨hvalid, hcontext.trans hd.keep_blockUnits.symm, by simp [hempty], by simp [hempty]⟩

theorem Tracks.congr (h : Tracks shows d inner recalls valid units w)
    (hlines : ∀ i, i ∈ d.covered kept ↔ i ∈ d.covered units) :
    Tracks shows d inner recalls valid kept w where
  valid := h.valid
  context := h.context.trans (Document.keep_congr fun i _ => (hlines i).symm)
  recalled := h.recalled
  succeeded key hkey i halive hi := h.succeeded key hkey i halive ((hlines i).mp hi)

/-- A success that is recalled has nothing left to delete, because what it left was committed. -/
theorem Tracks.hit (h : Tracks shows d inner recalls valid kept w) {key : List TextUnit}
    {v : Verdict} (hkey : key ⊆ kept) (hrecall : recalls w key = some v) (hvalid : valid w')
    (hinner : inner w' = inner w) (hmemory : recalls w' = recalls w) :
    Tracks shows d inner recalls valid (if v = .holds then key else kept) w' := by
  split
  · next hv =>
    subst hv
    have hlines : ∀ i, d.isAlive i = true → (i ∈ d.covered kept ↔ i ∈ d.covered key) :=
      fun i halive => ⟨h.succeeded key hrecall i halive, fun hi => Document.covered_subset hkey hi⟩
    refine ⟨hvalid, ?_, hmemory ▸ h.recalled, fun key' hkey' i halive hi => ?_⟩
    · rw [hinner, h.context, Document.keep_congr hlines]
    · exact h.succeeded key' (hmemory ▸ hkey') i halive ((hlines i halive).mpr hi)
  · exact ⟨hvalid, hinner ▸ h.context, hmemory ▸ h.recalled, hmemory ▸ h.succeeded⟩

/-- A trial that is made commits what it says, and nothing besides its verdict is remembered. -/
theorem Tracks.miss (h : Tracks shows d inner recalls valid kept w) {key : List TextUnit}
    {v : Verdict} (hkey : key ⊆ kept) (hvalid : valid w') (hv : shows key v)
    (hcontext : (inner w').manager.context = d.keep (if v = .holds then key else kept))
    (hmemory : ∀ key' v', recalls w' key' = some v' →
      recalls w key' = some v' ∨ key' = key ∧ v' = v) :
    Tracks shows d inner recalls valid (if v = .holds then key else kept) w' := by
  refine ⟨hvalid, hcontext, fun key' v' hkey' => ?_, fun key' hkey' i halive hi => ?_⟩
  · rcases hmemory key' v' hkey' with hold | ⟨rfl, rfl⟩
    · exact h.recalled key' v' hold
    · exact hv
  · rcases hmemory key' .holds hkey' with hold | ⟨rfl, rfl⟩
    · refine h.succeeded key' hold i halive ?_
      split at hi
      · exact Document.covered_subset hkey hi
      · exact hi
    · rwa [if_pos rfl] at hi

/-- With a memory or without, the document and the units kept never drift apart. -/
theorem Commits.carries {bare : Tester (Project Document τ) TextUnit} (hbare : Commits bare d shows)
    (hmemo : outer.Memoizes bare inner recalls valid) :
    Carries outer d (Tracks shows d inner recalls valid) fun x => shows x.1.retained x.2 where
  congr hlines h := h.congr hlines
  trial {units kept c w v w'} hadmissible h hbefore hafter htest := by
    have hvalid := hmemo.valid_test c w h.valid
    rw [htest] at hvalid
    cases hrecall : recalls w c.retained with
    | some recalled =>
      obtain ⟨rfl, hinner, hmemory⟩ := hmemo.hit c w recalled h.valid hrecall
      rw [htest] at hinner hmemory hrecall
      exact ⟨h.recalled _ _ hrecall,
        h.hit hadmissible.retained_subset hrecall hvalid hinner hmemory⟩
    | none =>
      obtain ⟨hv, hinner, hmemory⟩ := hmemo.miss c w h.valid hrecall
      rw [htest] at hv hinner hmemory
      rw [hmemo.cancelled] at hbefore hafter
      obtain ⟨hshown, hcontext⟩ := hbare.trial hadmissible h.context hbefore hafter
        (Prod.ext hv.symm hinner.symm)
      exact ⟨hshown, h.miss hadmissible.retained_subset hvalid hshown hcontext hmemory⟩

end Tracks

section LineMinimal

variable {inner : ω → Project Document τ} {recalls : ω → List TextUnit → Option Verdict}
  {valid : ω → Prop}

/-- After a level, no unit that is left can be deleted alone. -/
theorem refused_of_minimize {a : Algorithm} {strict : Prop} {least minSize : Nat}
    {result : Outcome TextUnit}
    (hc : Carries outer d J fun x => x.2 = verdict f answer d x.1.retained)
    (hdisciplined : a.IsDisciplined strict least) (hattentive : a.IsAttentive)
    (hlevel : d.IsLevel units) (hunits : units.Nodup) (h : J units w)
    (hrun : ((a.minimize units).run.run outer w).answer = .ok result)
    (hminimizing : a.IsMinimizing minSize True) (hmin : minSize ≤ 1)
    {u : TextUnit} (hu : u ∈ result.cut.retained) :
    f.verdictOf (answer ((d.keep result.cut.retained).kill (d.unitLines u)).render) ≠ .holds := by
  obtain ⟨x, hx, hretained, -⟩ := hminimizing.exists_refused hdisciplined hmin hunits hrun hu
  have hv := (hc.completed hdisciplined hlevel hunits h hattentive hrun).2 x
    (Trials.sinceHolds_subset _ hx)
  -- The refused trial was about the document that is left without this one unit.
  have hkill : (d.keep result.cut.retained).kill (d.covered [u]) = d.keep x.1.retained := by
    refine (hlevel.subset (hdisciplined.retained_subset hrun)).kill_keep (fun u' => ?_)
      (List.Subset.refl _) fun u' hu' => ((hretained u').mp hu').1
    rw [List.mem_singleton, hretained]
    constructor
    · rintro rfl
      exact ⟨hu, fun h => h.2 rfl⟩
    · intro ⟨hmem, hnot⟩
      by_contra hne
      exact hnot ⟨hmem, hne⟩
  rw [show d.unitLines u = d.covered [u] by simp [Document.covered], hkill]
  have hne := Trials.ne_holds_of_mem_sinceHolds hx
  rwa [hv] at hne

/-- No line that is left can be deleted alone. -/
def LineMinimal (f : SameFailure Document τ TextUnit Failure) (answer : String → Check Failure)
    (d : Document) : Prop :=
  ∀ i, d.isAlive i = true → f.verdictOf (answer (d.kill [i]).render) ≠ .holds

/-- If the units left have no parts and none can be deleted alone, they are the lines left. -/
theorem lineMinimal_keep (hrefused : ∀ u ∈ units,
      f.verdictOf (answer ((d.keep units).kill (d.unitLines u)).render) ≠ .holds)
    (hparts : ∀ u ∈ units, d.children u = []) : LineMinimal f answer (d.keep units) := by
  intro line halive
  obtain ⟨u, hu, hline⟩ := Document.mem_covered.mp (Document.isAlive_keep.mp halive).2
  cases u with
  | block i =>
    have hchild := Document.mem_children.mpr ⟨⟨i, rfl⟩, line, hline, rfl⟩
    rw [hparts _ hu] at hchild
    exact absurd hchild List.not_mem_nil
  | line i =>
    have hlines : d.unitLines (.line i) = [i] := rfl
    have hone := hrefused (.line i) hu
    rw [hlines] at hline hone
    rwa [List.mem_singleton.mp hline]

/-- A run that comes to its end ends with a document of which no line can be deleted alone. -/
theorem lineMinimal_of_run (hf : Judges f answer)
    (hmemo : outer.Memoizes (tester s f cancelled) inner recalls valid) (hd : d.Laid)
    (hddmin : s.minimizer.algorithm = .ddmin)
    (hearly : s.minimizer.limits.earlyTermination = false) (hmin : s.minimizer.limits.minSize ≤ 1)
    (hvalid : valid w) (hcontext : (inner w).manager.context = d)
    (hempty : ∀ key, recalls w key = none) {report : Report}
    (hrun : ((s.dialogue d).run outer w).answer.answer = .ok report) :
    LineMinimal f answer (inner ((s.dialogue d).run outer w).state).manager.context := by
  have hdisciplined := s.minimizer.toAlgorithm_isDisciplined
  have hminimizing := MinimizerSettings.toAlgorithm_isMinimizing hddmin hearly
  have hattentive := s.minimizer.toAlgorithm_isAttentive
  have hcarries := (hf.commits s d).carries hmemo
  refine Hierarchy.minimize_ok
    (fun _ => Stands d (Tracks (fun key v => v = verdict f answer d key) d inner recalls valid))
    (fun _ w => LineMinimal f answer (inner w).manager.context) ?_ ?_ hrun
  · intro level _ hfirst
    obtain ⟨hblocks, rfl⟩ := first_eq_ok hfirst
    exact hcarries.stands_first hd (.start hd hvalid hcontext hempty) hblocks
  · intro u level w result hstands hresult
    have hlevel := Hierarchy.run_minimizeLevel_ok hstands.nonempty hresult
    have hretained := hdisciplined.retained_subset hlevel
    have htracks := (hcarries.completed hdisciplined hstands.isLevel level.nodup hstands.carried
      hattentive hlevel).1
    rw [Hierarchy.state_minimizeLevel hstands.nonempty]
    dsimp only
    split
    · next next u' hnext =>
      obtain ⟨hparts, rfl⟩ := next_eq_some hnext
      exact hcarries.stands_children hd htracks
        (hstands.uniform.imp (fun h u hu => h u (hretained hu)) fun h u hu => h u (hretained hu))
        hparts
    · next u' hnext =>
      have hparts := next_eq_none (congrArg Prod.fst hnext)
      refine htracks.context ▸ lineMinimal_keep (fun u hu => ?_)
        (List.flatMap_eq_nil_iff.mp hparts)
      exact refused_of_minimize hcarries hdisciplined hattentive hstands.isLevel level.nodup
        hstands.carried hlevel hminimizing hmin hu

end LineMinimal

section Reduce

variable {oracle : Document → Activity τ (Check Failure)} {t t' : τ} {r : Reduction τ}

/-- A reduction that gets as far as to run has recorded the failure of the untouched document. -/
theorem reduce_ok (h : reduce s oracle cancelled d t = (.done (.ok r), t')) :
    ∃ initial t₀, (oracle d).run (fun _ => false) t = (.done (.failed initial), t₀) ∧
      r = run s ⟨oracle, Failure.same s.oracle.compareMessage, Document.lens, initial, []⟩
        cancelled d t₀ := by
  unfold reduce at h
  split at h
  · next f t₀ hcreate =>
    obtain ⟨initial, hinitial, rfl⟩ := SameFailure.create_ok hcreate
    cases h
    exact ⟨initial, t₀, hinitial, rfl⟩
  · cases h
  · cases h
  · cases h

/-- With or without memory, a reduction that comes to its end is minimal in lines. -/
theorem run_lineMinimal (hf : Judges f answer) (hd : d.Laid)
    (hddmin : s.minimizer.algorithm = .ddmin)
    (hearly : s.minimizer.limits.earlyTermination = false) (hmin : s.minimizer.limits.minSize ≤ 1)
    {report : Report} (hok : (run s f cancelled d t).result = .ok report) :
    LineMinimal f answer (run s f cancelled d t).document := by
  unfold run at hok ⊢
  dsimp only at hok ⊢
  split at hok
  · next hcache =>
    rw [if_pos hcache]
    exact lineMinimal_of_run hf (Tester.Memoizes.cached _).counted hd hddmin hearly hmin
      Trie.wf_empty rfl Trie.get?_empty hok
  · next hcache =>
    rw [if_neg hcache]
    exact lineMinimal_of_run hf (Tester.Memoizes.refl _).counted hd hddmin hearly hmin trivial rfl
      (fun _ => rfl) hok

/-- If the oracle's answer depends on the text alone, a reduction by ddmin that ends well, with
or without memory and under either strategy, leaves a document from which no single line can be
deleted: the oracle would not report the failure of the untouched document any more. -/
theorem reduce_lineMinimal (s : Settings) (oracle : Document → Activity τ (Check Failure))
    (answer : String → Check Failure) (cancelled : τ → Bool) (text : String) (t t' : τ)
    (r : Reduction τ) (report : Report) (hddmin : s.minimizer.algorithm = .ddmin)
    (hearly : s.minimizer.limits.earlyTermination = false) (hmin : s.minimizer.limits.minSize ≤ 1)
    (hanswers : SameFailure.Answers oracle fun d => answer d.render)
    (hrun : reduce s oracle cancelled (.parse text) t = (.done (.ok r), t'))
    (hok : r.result = .ok report) :
    ∃ initial, answer (Document.parse text).render = .failed initial ∧
      ∀ i, r.document.isAlive i = true → ∃ shorter, r.document.delete (.line i) = .ok shorter ∧
        ∀ current, answer shorter.render = .failed current →
          Failure.same s.oracle.compareMessage initial current = false := by
  obtain ⟨initial, t₀, hinitial, rfl⟩ := reduce_ok hrun
  refine ⟨initial, ?_, fun i halive => ?_⟩
  · have hanswer := hanswers (fun _ => false) (Document.parse text) t
    rw [hinitial] at hanswer
    rcases hanswer with heq | ⟨heq, -⟩
    · exact (Halt.done.inj heq).symm
    · cases heq
  · refine ⟨_, Document.delete_eq (Document.lt_of_isAlive halive), fun current hcurrent => ?_⟩
    have hminimal := run_lineMinimal ⟨hanswers, rfl, rfl⟩ (Document.parse_laid text) hddmin hearly
      hmin hok i halive
    rw [Ne, SameFailure.verdictOf_eq_holds] at hminimal
    exact Bool.eq_false_iff.mpr fun hsame => hminimal ⟨current, hcurrent, hsame⟩

def findsLetter (text : String) : Check Failure :=
  if 'b' ∈ text.toList then .failed ⟨some 1, ""⟩ else .passed

theorem reduce_lineMinimal_letter : ∃ (r : Reduction Unit) (report : Report),
    reduce {} (fun d => return findsLetter d.render) (fun _ => false) (.parse "a\nb\n\nc") () =
      (.done (.ok r), ()) ∧ r.result = .ok report ∧ r.document.render = "b" ∧
    ∃ initial, findsLetter "a\nb\n\nc" = .failed initial ∧
      ∀ i, r.document.isAlive i = true → ∃ shorter, r.document.delete (.line i) = .ok shorter ∧
        ∀ current, findsLetter shorter.render = .failed current →
          Failure.same true initial current = false :=
  ⟨_, _, rfl, rfl, rfl, reduce_lineMinimal {} (fun d => return findsLetter d.render) findsLetter
    (fun _ => false) "a\nb\n\nc" () () _ _ rfl rfl (by decide) (fun _ _ _ => Or.inl rfl) rfl rfl⟩

end Reduce

end Reduction

end DeltaDebugging
