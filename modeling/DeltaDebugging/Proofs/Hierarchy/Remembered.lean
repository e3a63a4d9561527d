import DeltaDebugging.Proofs.Algorithm.Attentive
import DeltaDebugging.Proofs.Hierarchy.History
import DeltaDebugging.Proofs.Memo
import Mathlib.Data.List.Pairwise

/-!
# Verdicts remembered across levels

A verdict is remembered under the list that its cut retains. In one level, where no item is
there twice, that list determines the cut. Two levels with nothing in common share but one
such list, the empty one, and only zero testing asks about it. So a memory that outlasts the
levels is right unless the verdict on nothing depends on what else was deleted.
-/
namespace DeltaDebugging

open Trials

variable {σ α γ : Type} {a : Algorithm} {strict : Prop} {least : Nat} {f : Cut α → Verdict}

theorem Algorithm.IsDisciplined.asks (ha : a.IsDisciplined strict least) (items : List α) :
    (a.minimize items).run.Asks (fun c => ∃ mask, mask.length = items.length ∧
      least ≤ c.retained.length ∧ c = Cut.ofMask items mask) fun _ => True := by
  refine (ha α items).asks fun h r hr => ⟨fun x hx => ?_, trivial⟩
  have hd : ∃ committed, Disciplined items (Narrows strict least) h committed := by
    cases r with
    | error e => exact hr
    | ok result =>
      obtain ⟨mask, -, hd⟩ := hr
      exact ⟨mask, hd⟩
  obtain ⟨committed, hd⟩ := hd
  obtain ⟨_, mask, hlen, hnarrows, hcut⟩ := hd.exists_mask hx
  refine ⟨mask, hlen, ?_, hcut⟩
  rw [hcut, Cut.length_ofMask_retained hlen]
  exact hnarrows.least_le

namespace History

variable {h : History γ α}

/-- No item is in two of the levels handed out. -/
def Apart (h : History γ α) : Prop :=
  h.handed.Pairwise fun x y => x.2.items.Disjoint y.2.items

theorem apart_iff : h.Apart ↔ (h.handed.map fun x => x.2.items).Pairwise List.Disjoint :=
  List.pairwise_map.symm

/-- A cut of one of the levels handed out that retains at least so many items. -/
def Asked (h : History γ α) (least : Nat) (c : Cut α) : Prop :=
  ∃ x ∈ h.handed, ∃ mask, mask.length = x.2.items.length ∧ least ≤ c.retained.length ∧
    c = Cut.ofMask x.2.items mask

theorem Asked.mono {h' : History γ α} {c : Cut α} (hc : h.Asked least c)
    (hsub : h.handed ⊆ h'.handed) : h'.Asked least c := by
  obtain ⟨x, hx, hcut⟩ := hc
  exact ⟨x, hsub hx, hcut⟩

/-- What is retained settles the verdict, unless it is nothing. -/
theorem Apart.same_verdict (hapart : h.Apart)
    (hnothing : least = 0 → ∀ gone gone', f ⟨[], gone⟩ = f ⟨[], gone'⟩) :
    ∀ c c', h.Asked least c → h.Asked least c' → c.retained = c'.retained → f c = f c' := by
  rintro c c' ⟨x, hx, mask, hlen, hleast, hc⟩ ⟨x', hx', mask', hlen', -, hc'⟩ hretained
  by_cases heq : x = x'
  · subst heq
    rw [hc, hc'] at hretained ⊢
    rw [Cut.ofMask_eq_of_retained_eq x.2.nodup hlen hlen' hretained]
  · have : Std.Symm fun x y : γ × Level α => x.2.items.Disjoint y.2.items :=
      ⟨fun _ _ hd _ hk hk' => hd hk' hk⟩
    have hdisjoint := hapart.forall hx hx' heq
    -- Two levels have nothing in common, so cuts of both that retain the same retain nothing.
    have hnone : c.retained = [] := by
      refine List.eq_nil_iff_forall_not_mem.mpr fun k hk => ?_
      have hk' := hretained ▸ hk
      rw [hc] at hk
      rw [hc'] at hk'
      exact hdisjoint ((Cut.ofMask_retained_sublist _ _).subset hk)
        ((Cut.ofMask_retained_sublist _ _).subset hk')
    have hzero : least = 0 := by simpa [hnone] using hleast
    obtain ⟨retained, gone⟩ := c
    obtain ⟨retained', gone'⟩ := c'
    obtain rfl : retained = [] := hnone
    obtain rfl : [] = retained' := hretained
    exact hnothing hzero gone gone'

end History

/-- The generator that hands out given levels, whatever becomes of them. -/
def Generator.given : Generator (List (Level α)) α α where
  first
    | [] => (.ok .empty, [])
    | level :: levels => (.ok level, levels)
  next _
    | [] => (none, [])
    | level :: levels => (some level, levels)
  present _ := id

namespace Hierarchy

variable {g : Generator γ α α} {limits : HierarchyLimits} {t : Tester σ α} {st : σ}
  {s : γ × History γ α} {level : Level α}

theorem prefix_descend [DecidableEq α] (t : Tester σ α) (st : σ) (remaining : Nat)
    (s : γ × History γ α) (level : Level α) (report : Report) :
    let r := (descend a g.traced limits remaining s level report).run t st
    s.2.handed <+: r.answer.generator.2.handed := by
  have hnext : ∀ s' o, s.2.handed <+: s'.2.handed →
      s.2.handed <+: (g.traced.next o s').2.2.handed := fun s' o hs' =>
    hs'.trans (History.prefix_hand (s'.2.give o) _ _)
  exact (descend_asks (P := fun _ => True) (fun _ _ _ => trivial) hnext List.prefix_rfl).answer t st

theorem heeds_minimizeLevel (ha : a.IsComposed) (present : Cut α → Cut α) (level : Level α) :
    (minimizeLevel a present level).Heeds := by
  unfold minimizeLevel
  have hend : ∀ result : Outcome α, (do
      Attempt.check a.cancellable .cancelled
      return result : Attempt AlgorithmError α (Outcome α)).Heeds := fun _ =>
    (Attempt.heeds_check _).bind fun _ => trivial
  split
  · exact hend _
  · refine Attempt.Heeds.bind ?_ hend
    exact Dialogue.Heeds.mapCut (ha α level.items).heeds

/-- One level is minimized alike with and without the memory. -/
theorem level_cached [DecidableEq α] (ha : a.IsDisciplined strict least)
    (ht : ∀ c s, (t.test c s).1 = f c)
    (hnothing : least = 0 → ∀ gone gone', f ⟨[], gone⟩ = f ⟨[], gone'⟩)
    (hapart : s.2.Apart) (hlevel : ∃ x ∈ s.2.handed, x.2 = level) {w : Tester.Cached σ α}
    (hw : Tester.Remembers f (s.2.Asked least) w) :
    let r := (minimizeLevel a id level).run.run t.cached w
    (∀ x ∈ r.trials, x.2 = f x.1) ∧ Tester.Remembers f (s.2.Asked least) r.state := by
  have hasks : (minimizeLevel a id level).run.Asks (s.2.Asked least) fun _ => True := by
    refine minimizeLevel_asks (ha.asks level.items) fun c hc => ?_
    obtain ⟨x, hx, rfl⟩ := hlevel
    exact ⟨x, hx, hc⟩
  exact hasks.run_keeps (fun c w hc hw => hw.test ht (hapart.same_verdict hnothing) hc)
    (fun _ hw => hw.forget _) hw

/-- The rest of a run is the same with and without the memory. -/
theorem descend_cached [DecidableEq α] (ha : a.IsDisciplined strict least)
    (hcomposed : a.IsComposed) (hpresent : ∀ s, g.present s = id) (ht : ∀ c s, (t.test c s).1 = f c)
    (hnothing : least = 0 → ∀ gone gone', f ⟨[], gone⟩ = f ⟨[], gone'⟩) {remaining : Nat}
    {report : Report} {w : Tester.Cached σ α} (hlevel : ∃ x ∈ s.2.handed, x.2 = level)
    (hw : Tester.Remembers f (s.2.Asked least) w) :
    let bare := (descend a g.traced limits remaining s level report).run t st
    let cached := (descend a g.traced limits remaining s level report).run t.cached w
    bare.answer.generator.2.Apart ∨ cached.answer.generator.2.Apart →
    bare.answer.answer ≠ .error (.minimizer .cancelled) →
    cached.answer.answer ≠ .error (.minimizer .cancelled) →
      cached.answer = bare.answer ∧ cached.trials = bare.trials := by
  induction remaining generalizing s level st report w with
  | zero => exact fun _ _ _ => ⟨rfl, rfl⟩
  | succ remaining ih =>
    intro bare cached hends hbare hcached
    have hapart : s.2.Apart := by
      rcases hends with hend | hend
      · exact hend.sublist (prefix_descend t st _ s level report).sublist
      · exact hend.sublist (prefix_descend t.cached w _ s level report).sublist
    have hidentity : g.traced.present s = id := hpresent s.1
    obtain ⟨hverdicts, hremembers⟩ := level_cached ha ht hnothing hapart hlevel hw
    have hheeds := heeds_minimizeLevel hcomposed id level
    dsimp only [bare, cached] at hends hbare hcached ⊢
    rw [descend, hidentity] at hends hbare hcached ⊢
    rw [Dialogue.trials_seq, Dialogue.trials_seq]
    simp only [Dialogue.run_seq] at hends hbare hcached ⊢
    have hquiet : ((minimizeLevel a id level).run.run t st).answer ≠ .error .cancelled :=
      fun heq => hbare (by rw [heq]; rfl)
    have hquiet' : ((minimizeLevel a id level).run.run t.cached w).answer ≠ .error .cancelled :=
      fun heq => hcached (by rw [heq]; rfl)
    -- Both are told the same about this level, so the generator does the same in both runs.
    obtain ⟨hanswer, htrials⟩ := hheeds.agree
      (fun x hx => Dialogue.verdict_of_mem_trials t f ht _ st hx) hverdicts hquiet hquiet'
    rw [← hanswer] at hends hcached ⊢
    rw [htrials]
    cases hr : ((minimizeLevel a id level).run.run t st).answer with
    | error e => exact ⟨rfl, rfl⟩
    | ok result =>
      rw [hr] at hends hbare hcached
      dsimp only at hends hbare hcached ⊢
      cases hg : g.traced.next result s with
      | mk next? s' =>
        rw [hg] at hends hbare hcached
        cases next? with
        | none => exact ⟨rfl, rfl⟩
        | some next =>
          dsimp only at hends hbare hcached ⊢
          split
          · exact ⟨rfl, rfl⟩
          · next hstall =>
            rw [if_neg hstall] at hends hbare hcached
            obtain ⟨-, hhistory⟩ := Generator.next_traced_iff.mp hg
            have hhanded : s'.2.handed = s.2.handed ++ [(s'.1, next)] := by
              rw [hhistory]
              rfl
            have hlevel' : ∃ x ∈ s'.2.handed, x.2 = next := ⟨_, hhanded ▸ List.mem_concat_self, rfl⟩
            have hsub : s.2.handed ⊆ s'.2.handed := hhanded ▸ List.subset_append_left _ _
            obtain ⟨hsame, htrials'⟩ := ih hlevel' (hremembers.mono fun c hc => hc.mono hsub) hends
              hbare hcached
            exact ⟨hsame, congrArg _ htrials'⟩

/-- If no item is in two of the levels handed out, and with zero testing the verdict on nothing
does not depend on what is deleted, a memory changes nothing: all trials get the verdicts
that they would get without it, the generator is given the same results, and the run ends the
same. Neither run may be cut short, since a trial that is not made cannot fire the token. -/
theorem minimize_cached [DecidableEq α] (kind : AlgorithmKind) (limits : Limits) (seed : UInt64)
    (cancellable : Bool) (extensions : List Extension) (g : Generator γ α α)
    (hierarchy : HierarchyLimits) (s : γ) (t : Tester σ α) (st : σ) (f : Cut α → Verdict)
    (hpresent : ∀ s c, g.present s c = c) (ht : ∀ c s, (t.test c s).1 = f c)
    (hnothing : .zeroTesting ∈ extensions → ∀ gone gone', f ⟨[], gone⟩ = f ⟨[], gone'⟩) :
    let a := (Algorithm.ofKind kind limits seed cancellable).extend extensions
    let bare := (minimize a g.traced hierarchy (s, {})).run t st
    let cached := (minimize a g.traced hierarchy (s, {})).run t.cached ⟨st, .empty, 0⟩
    bare.answer.generator.2.Apart ∨ cached.answer.generator.2.Apart →
    bare.answer.answer ≠ .error (.minimizer .cancelled) →
    cached.answer.answer ≠ .error (.minimizer .cancelled) →
      cached.answer = bare.answer ∧ cached.trials = bare.trials ∧
      ((minimize a g hierarchy s).run t.cached ⟨st, .empty, 0⟩).answer =
        ((minimize a g hierarchy s).run t st).answer := by
  intro a bare cached hends hbare hcached
  have hcomposed : a.IsComposed :=
    (Algorithm.ofKind_isComposed kind limits seed cancellable).extend extensions
  obtain ⟨least, ha, hleast⟩ : ∃ least, a.IsDisciplined (kind = .ddmin) least ∧
      (least = 0 → ∀ gone gone', f ⟨[], gone⟩ = f ⟨[], gone'⟩) := by
    have hbase := Algorithm.ofKind_isDisciplined kind limits seed cancellable
    by_cases hzero : .zeroTesting ∈ extensions
    · exact ⟨0, (hbase.mono (Nat.zero_le _)).extend extensions, fun _ => hnothing hzero⟩
    · refine ⟨_, hbase.extend_of_not_mem hzero, fun heq => ?_⟩
      omega
  have hsame : cached.answer = bare.answer ∧ cached.trials = bare.trials := by
    dsimp only [bare, cached] at hends hbare hcached ⊢
    unfold minimize at hends hbare hcached ⊢
    cases hfirst : g.traced.first (s, {}) with
    | mk level s' =>
      rw [hfirst] at hends hbare hcached
      cases level with
      | error e => exact ⟨rfl, rfl⟩
      | ok level =>
        obtain ⟨-, hhistory⟩ := Generator.first_traced_iff.mp hfirst
        have hlevel : ∃ x ∈ s'.2.handed, x.2 = level := by
          rw [hhistory]
          exact ⟨_, List.mem_singleton.mpr rfl, rfl⟩
        exact descend_cached ha hcomposed (fun s => funext (hpresent s)) ht hleast hlevel
          (.empty _ _) hends hbare hcached
  refine ⟨hsame.1, hsame.2, ?_⟩
  rw [run_minimize_traced a g hierarchy (s, {}), run_minimize_traced a g hierarchy (s, {})]
  exact congrArg forget hsame.1

theorem ne_error_of_isOk {ε β : Type} {r : Except ε β} {e : ε} (h : r.isOk = true) :
    r ≠ .error e := by
  rintro rfl
  cases h

/-- Runs of ddmin with zero testing over given levels. -/
def overLevels [DecidableEq α] (levels : List (Level α)) :
    Dialogue α (Ending (List (Level α) × History (List (Level α)) α)) :=
  minimize ((Algorithm.ofKind .ddmin {} 0 true).extend [.zeroTesting]) Generator.given.traced {}
    (levels, {})

theorem minimize_cached_overLevels :
    let d := overLevels [.ofList [1, 2, 3], .ofList [4, 5]]
    let t : Tester Unit Nat :=
      .ofFunction fun c => if 2 ∈ c.retained ∨ 4 ∈ c.retained then .holds else .lost
    (d.run t.cached ⟨(), .empty, 0⟩).state.hits = 1 ∧
      (d.run t.cached ⟨(), .empty, 0⟩).answer = (d.run t ()).answer := by
  intro d t
  have hhanded : (d.run t ()).answer.generator.2.handed.map (fun x => x.2.items) =
      [[1, 2, 3], [4, 5]] := by decide +kernel
  have hapart : (d.run t ()).answer.generator.2.Apart := by
    rw [History.apart_iff, hhanded]
    simp [List.Disjoint]
  have hok : (d.run t ()).answer.answer.isOk = true := by decide +kernel
  have hok' : (d.run t.cached ⟨(), .empty, 0⟩).answer.answer.isOk = true := by decide +kernel
  obtain ⟨hsame, -⟩ := minimize_cached .ddmin {} 0 true [.zeroTesting] Generator.given {}
    [.ofList [1, 2, 3], .ofList [4, 5]] t () _ (fun _ _ => rfl) (fun _ _ => rfl)
    (fun _ _ _ => rfl) (.inl hapart) (ne_error_of_isOk hok) (ne_error_of_isOk hok')
  exact ⟨by decide +kernel, hsame⟩

/-- With zero testing, levels that have nothing in common still share the trial of nothing: here
the verdict on the first level is taken for that on the second. -/
theorem nothing_shared_by_levels :
    let f : Cut Nat → Verdict := fun c => if c.deleted = [2] then .holds else .lost
    let bare := (overLevels [.ofList [1], .ofList [2]]).run (.ofFunction f) ()
    let cached := (overLevels [.ofList [1], .ofList [2]]).run (Tester.ofFunction f).cached
      ⟨(), .empty, 0⟩
    (∀ c s, ((Tester.ofFunction f).test c s).1 = f c) ∧
      bare.answer.generator.2.Apart ∧ cached.answer.generator.2.Apart ∧
      bare.answer.generator.2.results.map Outcome.cut = [⟨[1], []⟩, ⟨[], [2]⟩] ∧
      cached.answer.generator.2.results.map Outcome.cut = [⟨[1], []⟩, ⟨[2], []⟩] ∧
      bare.trials = [(⟨[], [1]⟩, .lost), (⟨[], [2]⟩, .holds)] ∧
      cached.trials = [(⟨[], [1]⟩, .lost), (⟨[], [2]⟩, .lost)] := by
  intro f bare cached
  have hhanded : bare.answer.generator.2.handed.map (fun x => x.2.items) = [[1], [2]] := by
    decide +kernel
  have hhanded' : cached.answer.generator.2.handed.map (fun x => x.2.items) = [[1], [2]] := by
    decide +kernel
  refine ⟨fun _ _ => rfl, ?_, ?_, by decide +kernel, by decide +kernel, by decide +kernel,
    by decide +kernel⟩
  · rw [History.apart_iff, hhanded]
    simp [List.Disjoint]
  · rw [History.apart_iff, hhanded']
    simp [List.Disjoint]

end Hierarchy

end DeltaDebugging
