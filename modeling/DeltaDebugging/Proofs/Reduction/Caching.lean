import DeltaDebugging.Proofs.Reduction.Bookkeeping

/-!
# What a memory changes

If the oracle's answer depends on the text alone and nothing is cancelled, the verdicts on all
trials are known beforehand, with a memory or without. So the two runs make the same trials and
end alike, and since the document committed is that of the last trial that held, they leave the
same document. Every trial is one run of the oracle, unless it is answered from memory.
-/
namespace DeltaDebugging

open Trials

namespace Dialogue

variable {σ α β : Type}

theorem trials_counted (t : Tester σ α) (d : Dialogue α β) (s : Tester.Counted σ) :
    (d.run t.counted s).state.trials = s.trials + (d.run t.counted s).trials.length := by
  induction d generalizing s with
  | done b => rfl
  | ask c k ih =>
    rw [trials_ask, List.length_cons, ← Nat.add_assoc, Nat.add_right_comm]
    exact ih _ _
  | poll k ih => exact ih _ s
  | emptyLevel k ih => exact ih () (t.counted.emptyLevel s)
  | note n k ih => exact ih () s

end Dialogue

/-- The settings with a memory or without. -/
def Settings.caching (s : Settings) (on : Bool) : Settings :=
  { s with minimizer := { s.minimizer with cacheResults := on } }

namespace Reduction

variable {τ ω : Type} {s : Settings} {f : SameFailure Document τ TextUnit Failure}
  {cancelled : τ → Bool} {answer : String → Check Failure} {d : Document}
  {units : List TextUnit} {outer : Tester ω TextUnit} {w : ω}
  {J : List TextUnit → ω → Prop} {R : Cut TextUnit × Verdict → Prop}

section Levels

variable {a : Algorithm} {strict : Prop} {least : Nat} {level : Level TextUnit}
  {h : Trials TextUnit} {u : Unit}

/-- A level that is about to be minimized after some trials: it has the lines that the last of
them which held retains. -/
structure Underway (d : Document) (J : List TextUnit → ω → Prop) (R : Cut TextUnit × Verdict → Prop)
    (level : Level TextUnit) (w : ω) (h : Trials TextUnit) : Prop extends Stands d J level w where
  shown : ∀ x ∈ h, R x
  lines : ∀ i, i ∈ d.covered level.items ↔ i ∈ d.covered (confirmed d.blockUnits h).retained

variable (hc : Carries outer d J R) (hdisciplined : a.IsDisciplined strict least)
  (hcomposed : a.IsComposed) (hnever : ∀ w, outer.cancelled w = false)

include hc hdisciplined hcomposed hnever

/-- However a level ends, the last trial that held in it has the say. -/
theorem Carries.settled (hlevel : d.IsLevel units) (hunits : units.Nodup) (hstart : J units w) :
    let r := (a.minimize units).run.run outer w
    J (confirmed units r.trials).retained r.state ∧ ∀ x ∈ r.trials, R x := by
  have htrials := ((hdisciplined TextUnit units).mono (fun _ _ ⟨mask, _, hd⟩ => ⟨mask, hd⟩)
    fun _ _ hd => hd).trials outer w
  obtain ⟨committed, hd⟩ := htrials
  have hquiet := hcomposed TextUnit units |>.leads outer w
  rw [Tester.deaf_eq hnever] at hquiet
  dsimp only
  rw [hd.confirmed_eq]
  exact hc.level hlevel hunits hstart hd hquiet

theorem Underway.settled (hlevel : Underway d J R level w h) (u : Unit) :
    let r := (Hierarchy.minimizeLevel a (d.generator.present u) level).run.run outer w
    let own := (a.minimize level.items).run.run outer w
    J (confirmed level.items own.trials).retained r.state ∧ (∀ x ∈ h ++ r.trials, R x) ∧
      ∀ i, i ∈ d.covered (confirmed level.items own.trials).retained ↔
        i ∈ d.covered (confirmed d.blockUnits (h ++ r.trials)).retained := by
  intro r own
  obtain ⟨hkept, hown⟩ := hc.settled hdisciplined hcomposed hnever hlevel.isLevel level.nodup
    hlevel.carried
  have hstate : r.state = own.state := Hierarchy.state_minimizeLevel hlevel.nonempty
  have htrials : r.trials = own.trials.map (Prod.map (d.generator.present u) id) :=
    Hierarchy.trials_minimizeLevel hlevel.nonempty
  have hsame : r.trials = own.trials := htrials.trans (List.map_id _)
  refine ⟨hstate ▸ hkept, List.forall_mem_append.mpr ⟨hlevel.shown, hsame ▸ hown⟩, ?_⟩
  rw [htrials]
  exact confirmed_append_map (f := d.generator.present u)
    (r := fun c c' => ∀ i, i ∈ d.covered c.retained ↔ i ∈ d.covered c'.retained)
    (fun _ _ => Iff.rfl) hlevel.lines _

theorem Underway.confirmed (hlevel : Underway d J R level w h) :
    let r := (Hierarchy.minimizeLevel a (d.generator.present u) level).run.run outer w
    J (confirmed d.blockUnits (h ++ r.trials)).retained r.state ∧ ∀ x ∈ h ++ r.trials, R x := by
  obtain ⟨hkept, hshown, hlines⟩ := hlevel.settled hc hdisciplined hcomposed hnever u
  exact ⟨hc.congr (fun i => (hlines i).symm) hkept, hshown⟩

/-- However a run ends, the last trial that held has the say. -/
theorem Carries.keeps_confirmed (hd : d.Laid) (limits : HierarchyLimits) :
    Hierarchy.Keeps a d.generator limits outer (fun _ => Underway d J R)
      fun _ w h => J (confirmed d.blockUnits h).retained w ∧ ∀ x ∈ h, R x where
  limit hlevel := ⟨hc.congr (fun i => (hlevel.lines i).symm) hlevel.carried, hlevel.shown⟩
  failed hlevel _ := hlevel.confirmed hc hdisciplined hcomposed hnever
  last _ hlevel _ _ := hlevel.confirmed hc hdisciplined hcomposed hnever
  stalled hlevel _ _ _ _ := hlevel.confirmed hc hdisciplined hcomposed hnever
  next {u u' level next w h result} hlevel hok hnext := by
    obtain ⟨hkept, hshown, hlines⟩ := hlevel.settled hc hdisciplined hcomposed hnever u
    have hresult := Hierarchy.run_minimizeLevel_ok hlevel.nonempty hok
    have hcut : result.cut = _ := hdisciplined.cut_eq hresult
    have hretained := hdisciplined.retained_subset hresult
    have huniform := hlevel.uniform.imp (fun h u hu => h u (hretained hu))
      fun h u hu => h u (hretained hu)
    obtain ⟨hparts, rfl⟩ := next_eq_some hnext
    have hblocks := huniform.resolve_right fun hl => hparts (Document.children_lines hl)
    refine ⟨hc.stands_children hd (hcut ▸ hkept) huniform hparts, hshown, fun i => ?_⟩
    rw [mem_covered_ofList, Document.mem_covered_children hblocks, hcut]
    exact hlines i

end Levels

section Runs

variable {inner : ω → Project Document τ} {recalls : ω → List TextUnit → Option Verdict}
  {valid : ω → Prop} {calls : τ → Nat} {P : Nat → Nat → Prop}

/-- However a run ends, the document is that of the last trial that held. -/
theorem Carries.run_confirmed (hc : Carries outer d J R) (hd : d.Laid)
    (hnever : ∀ w, outer.cancelled w = false) (s : Settings) (hstart : J d.blockUnits w) :
    let r := (s.dialogue d).run outer w
    J (confirmed d.blockUnits r.trials).retained r.state ∧ ∀ x ∈ r.trials, R x := by
  refine (hc.keeps_confirmed s.minimizer.toAlgorithm_isDisciplined
    s.minimizer.toAlgorithm_isComposed hnever hd s.hierarchy).minimize w ?_ ?_
  · intro level u hfirst
    obtain ⟨hblocks, rfl⟩ := first_eq_ok hfirst
    exact ⟨hc.stands_first hd hstart hblocks, by simp, fun _ => mem_covered_ofList⟩
  · exact fun _ _ _ => ⟨hstart, by simp⟩

/-- The oracle is run once for a trial, unless its verdict is recalled. -/
theorem calls_test (hf : Judges f answer)
    (hmemo : outer.Memoizes (tester s f cancelled) inner recalls valid)
    (hcalls : ∀ x t, calls ((f.oracle x).run cancelled t).2 = calls t + 1)
    {shows : List TextUnit → Verdict → Prop} {kept : List TextUnit} {c : Cut TextUnit}
    {v : Verdict} {w' : ω} (hadmissible : Admissible d units kept c)
    (h : Tracks shows d inner recalls valid kept w) (hbefore : outer.cancelled w = false)
    (hafter : outer.cancelled w' = false) (htest : outer.test c w = (v, w')) :
    calls (inner w').surroundings =
      calls (inner w).surroundings + if recalls w c.retained = none then 1 else 0 := by
  obtain rfl : (outer.test c w).2 = w' := congrArg Prod.snd htest
  rw [hmemo.cancelled] at hbefore hafter
  split
  · next hrecall =>
    obtain ⟨-, hinner, -⟩ := hmemo.miss c w h.valid hrecall
    rw [hinner] at hafter ⊢
    obtain ⟨-, -, hsurroundings⟩ := hf.test s hadmissible h.context hbefore hafter rfl
    rw [hsurroundings, hcalls]
  · next hrecall =>
    obtain ⟨v', hv'⟩ := Option.ne_none_iff_exists'.mp hrecall
    rw [(hmemo.hit c w v' h.valid hv').2.1]
    rfl

theorem carries_counted (hf : Judges f answer)
    (hmemo : outer.Memoizes (tester s f cancelled) inner recalls valid)
    (hcalls : ∀ x t, calls ((f.oracle x).run cancelled t).2 = calls t + 1)
    (hmade : ∀ m n, P m n → P (m + 1) (n + 1))
    (hrecalled : ∀ w key m n, recalls w key ≠ none → P m n → P m (n + 1)) :
    Carries outer.counted d
      (fun kept w =>
        Tracks (fun key v => v = verdict f answer d key) d inner recalls valid kept w.inner ∧
          P (calls (inner w.inner).surroundings) w.trials)
      fun x => x.2 = verdict f answer d x.1.retained where
  congr hlines h := ⟨h.1.congr hlines, h.2⟩
  trial {units kept c w v w'} hadmissible h hbefore hafter htest := by
    obtain rfl : (⟨(outer.test c w.inner).2, w.trials + 1⟩ : Tester.Counted ω) = w' :=
      congrArg Prod.snd htest
    have hverdict : (outer.counted.test c w).1 = v := congrArg Prod.fst htest
    have htest' : outer.test c w.inner = (v, (outer.test c w.inner).2) := Prod.ext hverdict rfl
    obtain ⟨hshown, htracks⟩ := ((hf.commits s d).carries hmemo).trial hadmissible h.1 hbefore
      hafter htest'
    refine ⟨hshown, htracks, ?_⟩
    rw [calls_test hf hmemo hcalls hadmissible h.1 hbefore hafter htest']
    split
    · exact hmade _ _ h.2
    · next hrecall => exact hrecalled _ _ _ _ hrecall h.2

end Runs

section Transcripts

variable {inner : ω → Project Document τ} {recalls : ω → List TextUnit → Option Verdict}
  {valid : ω → Prop} {calls : τ → Nat} {P : Nat → Nat → Prop} {t : τ}

theorem transcript_caching (s : Settings) (f : SameFailure Document τ TextUnit Failure)
    (cancelled : τ → Bool) (d : Document) (t : τ) :
    transcript (s.caching true) f cancelled d t =
        transcribe s d (tester s f cancelled).cached Tester.Cached.inner
          ⟨⟨⟨d, 0, 0⟩, t, 0⟩, .empty, 0⟩ ∧
      transcript (s.caching false) f cancelled d t =
        transcribe s d (tester s f cancelled) id ⟨⟨d, 0, 0⟩, t, 0⟩ := ⟨rfl, rfl⟩

section Transcribe

variable (hf : Judges f answer) (hd : d.Laid)
  (hmemo : outer.Memoizes (tester s f cancelled) inner recalls valid) (hvalid : valid w)
  (hcontext : (inner w).manager.context = d) (hempty : ∀ key, recalls w key = none)
  (hnever : ∀ t, cancelled t = false)

include hf hd hmemo hvalid hcontext hempty hnever

/-- However a run ends, the document, the verdicts and the number of trials are known. -/
theorem transcribe_settled :
    let x := transcribe s d outer inner w
    x.reduction.document = d.keep (confirmed d.blockUnits x.trials).retained ∧
      (∀ y ∈ x.trials, y.2 = verdict f answer d y.1.retained) ∧
      x.reduction.trials = x.trials.length := by
  have hcarries := (hf.commits s d).carries hmemo.counted
  obtain ⟨htracks, hverdicts⟩ := hcarries.run_confirmed hd
    (fun w => (hmemo.cancelled w.inner).trans (hnever _)) s (w := ⟨w, 0⟩)
    (.start hd hvalid hcontext hempty)
  exact ⟨htracks.context, hverdicts, (Dialogue.trials_counted _ _ _).trans (Nat.zero_add _)⟩

theorem calls_transcribe (hcalls : ∀ x t, calls ((f.oracle x).run cancelled t).2 = calls t + 1)
    (hstart : P (calls (inner w).surroundings) 0)
    (hmade : ∀ m n, P m n → P (m + 1) (n + 1))
    (hrecalled : ∀ w key m n, recalls w key ≠ none → P m n → P m (n + 1)) :
    let r := (transcribe s d outer inner w).reduction
    P (calls r.project.surroundings) r.trials := by
  have hcarries := carries_counted (d := d) hf hmemo hcalls hmade hrecalled
  obtain ⟨⟨-, hcompared⟩, -⟩ := hcarries.run_confirmed hd
    (fun w => (hmemo.cancelled w.inner).trans (hnever _)) s (w := ⟨w, 0⟩)
    ⟨.start hd hvalid hcontext hempty, hstart⟩
  exact hcompared

end Transcribe

section Never

variable (hf : Judges f answer) (hd : d.Laid) (hnever : ∀ t, cancelled t = false) (s : Settings)
  (t : τ)

include hf hd hnever

/-- With the memory and without it the same trials are made and have the same verdicts, and the
runs end alike, with the same document. -/
theorem transcript_agree :
    let x := transcript (s.caching true) f cancelled d t
    let y := transcript (s.caching false) f cancelled d t
    x.trials = y.trials ∧ x.reduction.result = y.reduction.result ∧
      x.reduction.trials = y.reduction.trials ∧ x.reduction.document = y.reduction.document := by
  obtain ⟨hcached, hbare⟩ := transcript_caching s f cancelled d t
  rw [hcached, hbare]
  obtain ⟨hdocument, hverdicts, hcount⟩ := transcribe_settled hf hd
    (.cached (tester s f cancelled)) (w := ⟨⟨⟨d, 0, 0⟩, t, 0⟩, .empty, 0⟩) Trie.wf_empty rfl
    Trie.get?_empty hnever
  obtain ⟨hdocument', hverdicts', hcount'⟩ := transcribe_settled hf hd
    (.refl (tester s f cancelled)) (w := ⟨⟨d, 0, 0⟩, t, 0⟩) trivial rfl (fun _ => rfl) hnever
  obtain ⟨hanswer, htrials⟩ := Dialogue.run_agree (f := fun c => verdict f answer d c.retained)
    (fun _ => hnever _) (fun _ => hnever _) hverdicts hverdicts'
  dsimp only
  rw [hdocument, hdocument', hcount, hcount']
  exact ⟨htrials, congrArg Ending.answer hanswer, congrArg List.length htrials,
    congrArg (fun h => d.keep (confirmed d.blockUnits h).retained) htrials⟩

/-- Without the memory there is a run of the oracle for each trial, and with it no more. -/
theorem calls_transcript (hcalls : ∀ x t, calls ((f.oracle x).run cancelled t).2 = calls t + 1) :
    let r := (transcript (s.caching true) f cancelled d t).reduction
    let r' := (transcript (s.caching false) f cancelled d t).reduction
    calls r.project.surroundings ≤ calls t + r.trials ∧
      calls r'.project.surroundings = calls t + r'.trials := by
  obtain ⟨hcached, hbare⟩ := transcript_caching s f cancelled d t
  rw [hcached, hbare]
  constructor
  · exact calls_transcribe (P := fun m n => m ≤ calls t + n) hf hd
      (.cached (tester s f cancelled)) Trie.wf_empty rfl Trie.get?_empty hnever hcalls
      (Nat.le_refl _) (fun _ _ h => Nat.succ_le_succ h) fun _ _ _ _ _ h => Nat.le_succ_of_le h
  · exact calls_transcribe (P := fun m n => m = calls t + n) hf hd
      (.refl (tester s f cancelled)) trivial rfl (fun _ => rfl) hnever hcalls
      rfl (fun _ _ h => congrArg (· + 1) h) fun _ _ _ _ h => absurd rfl h

end Never

theorem reduce_eq (s : Settings) (oracle : Document → Activity τ (Check Failure))
    (cancelled : τ → Bool) (d : Document) (t : τ) : reduce s oracle cancelled d t =
      match (oracle d).run (fun _ => false) t with
      | (.done (.failed initial), t) =>
        let r := run s ⟨oracle, Failure.same s.oracle.compareMessage, Document.lens, initial, []⟩
          cancelled d t
        (.done (.ok r), r.project.surroundings)
      | (.done .passed, t) =>
        (.done (.error (.propertyCheckerFailed "the input does not fail")), t)
      | (.done (.undecided message), t) =>
        (.done (.error (.propertyCheckerFailed message)), t)
      | (.panicked message, t) => (.panicked message, t)
      | (.interrupted, t) => (.interrupted, t) := by
  rw [reduce, SameFailure.create, Activity.run_seq]
  rcases (oracle d).run (fun _ => false) t with ⟨check | message | _, t⟩
  · cases check <;> rfl
  · rfl
  · rfl

/-- If the oracle's answer depends on the text alone and nothing is cancelled, remembering
verdicts does not change a reduction: either both with the memory and without it there is
nothing to reduce, or the same trials are made with the same verdicts, and both end with the
same document and the same report or error. Only runs of the oracle are saved. -/
theorem reduce_caching (s : Settings) (oracle : Document → Activity τ (Check Failure))
    (answer : String → Check Failure) (text : String) (t : τ)
    (hanswers : ∀ x t, ((oracle x).run (fun _ => false) t).1 = .done (answer x.render)) :
    let d := Document.parse text
    let reduced on := reduce (s.caching on) oracle (fun _ => false) d t
    (∃ e t₀, reduced true = (.done (.error e), t₀) ∧ reduced false = (.done (.error e), t₀)) ∨
    ∃ initial t₀, (oracle d).run (fun _ => false) t = (.done (.failed initial), t₀) ∧
      let f := ⟨oracle, Failure.same s.oracle.compareMessage, Document.lens, initial, []⟩
      let x on := transcript (s.caching on) f (fun _ => false) d t₀
      (∀ on, reduced on =
        (.done (.ok (x on).reduction), (x on).reduction.project.surroundings)) ∧
      (x true).trials = (x false).trials ∧
      (x true).reduction.result = (x false).reduction.result ∧
      (x true).reduction.trials = (x false).reduction.trials ∧
      (x true).reduction.document = (x false).reduction.document ∧
      ∀ calls : τ → Nat,
        (∀ x t, calls ((oracle x).run (fun _ => false) t).2 = calls t + 1) →
        calls (reduced true).2 ≤ calls (reduced false).2 := by
  intro d reduced
  have hreduced : ∀ on, reduced on = _ := fun on => reduce_eq _ _ _ _ _
  rcases hcheck : (oracle d).run (fun _ => false) t with ⟨halt, t₀⟩
  obtain rfl : halt = .done (answer d.render) := by rw [← hanswers d t, hcheck]
  rw [hcheck] at hreduced
  cases hanswer : answer d.render with
  | passed =>
    rw [hanswer] at hreduced
    exact Or.inl ⟨_, _, hreduced true, hreduced false⟩
  | undecided message =>
    rw [hanswer] at hreduced
    exact Or.inl ⟨_, _, hreduced true, hreduced false⟩
  | failed initial =>
    rw [hanswer] at hreduced
    refine Or.inr ⟨initial, t₀, rfl, ?_⟩
    intro f x
    have hf : Judges f answer := ⟨.of_never hanswers, rfl, rfl⟩
    have hx : ∀ on, x on = transcript (s.caching on) f (fun _ => false) d t₀ := fun _ => rfl
    have hend : ∀ on, reduced on =
        (.done (.ok (x on).reduction), (x on).reduction.project.surroundings) := fun on => by
      rw [hreduced, hx, reduction_transcript]
      rfl
    have hd : d.Laid := Document.parse_laid text
    clear_value x reduced d
    have hagree := transcript_agree hf hd (fun _ => rfl) s t₀
    rw [← hx true, ← hx false] at hagree
    obtain ⟨htrials, hresult, hcount, hdocument⟩ := hagree
    refine ⟨hend, htrials, hresult, hcount, hdocument, fun calls hcalls => ?_⟩
    have hruns := calls_transcript hf hd (fun _ => rfl) s t₀ hcalls
    rw [← hx true, ← hx false] at hruns
    obtain ⟨hcached, hbare⟩ := hruns
    rw [hend, hend]
    exact hcached.trans (by rw [hbare, hcount])

/-- Looks for the letter, and counts how often it is asked to. -/
def asksLetter (d : Document) : Activity Nat (Check Failure) :=
  .act (· + 1) fun _ => return findsLetter d.render

/-- With the memory, the empty text is shown to the oracle only once. -/
theorem reduce_caching_letter :
    let reduced on := reduce (Settings.caching {} on) asksLetter (fun _ => false)
      (.parse "a\nb\n\nc") 0
    (reduced true).2 = 5 ∧ (reduced false).2 = 6 ∧
      ∃ r r' : Reduction Nat,
        (reduced true).1 = .done (.ok r) ∧ (reduced false).1 = .done (.ok r') ∧
        r.result = r'.result ∧ r.trials = r'.trials ∧ r.document = r'.document := by
  intro reduced
  have hwith : (reduced true).2 = 5 := by decide +kernel
  have hwithout : (reduced false).2 = 6 := by decide +kernel
  refine ⟨hwith, hwithout, ?_⟩
  rcases reduce_caching {} asksLetter findsLetter "a\nb\n\nc" 0 (fun _ _ => rfl) with
    ⟨e, t₀, hnone, -⟩ | ⟨initial, t₀, -, hend, -, hresult, hcount, hdocument, -⟩
  · have hfails : (reduced true).1 = .done (.error e) := congrArg Prod.fst hnone
    cases hfails
  · exact ⟨_, _, congrArg Prod.fst (hend true), congrArg Prod.fst (hend false), hresult, hcount,
      hdocument⟩

end Transcripts

end Reduction

end DeltaDebugging
