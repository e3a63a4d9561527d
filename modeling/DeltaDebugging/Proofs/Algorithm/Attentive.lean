import DeltaDebugging.Proofs.Algorithm.Extensions
import DeltaDebugging.Proofs.Runs

/-!
# Runs that see no cancellation

An algorithm that heeds its token looks for it before and after every trial. So if it ends
with an answer, the token had not fired around any of its trials, and each of them is a
trial that nothing cut short.
-/
namespace DeltaDebugging

open Trials

variable {σ α β γ ε : Type}

/-- The trials lead from `start` to the state, and the token had not fired around any. -/
inductive Tester.Quiet (t : Tester σ α) (start : σ) : Trials α → σ → Prop
  | start : t.Quiet start [] start
  | trial {h : Trials α} {s : σ} (c : Cut α) : t.Quiet start h s → t.cancelled s = false →
      t.cancelled (t.test c s).2 = false →
      t.Quiet start (h ++ [(c, (t.test c s).1)]) (t.test c s).2

/-- The tester whose token never fires. -/
def Tester.deaf (t : Tester σ α) : Tester σ α := { t with cancelled := fun _ => false }

theorem Tester.deaf_eq {t : Tester σ α} (h : ∀ s, t.cancelled s = false) : t.deaf = t := by
  rw [deaf, ← funext h]

namespace Tester.Quiet

variable {t : Tester σ α} {s s' s'' : σ} {h h' : Trials α}

theorem trans (hs : t.Quiet s h s') (hs' : t.Quiet s' h' s'') : t.Quiet s (h ++ h') s'' := by
  induction hs' with
  | start => rwa [List.append_nil]
  | trial c _ hbefore hafter ih =>
    rw [← List.append_assoc]
    exact ih.trial c hbefore hafter

theorem eq_of_nil (hs : t.Quiet s [] s') : s' = s := by
  generalize hnil : ([] : Trials α) = trials at hs
  cases hs with
  | start => rfl
  | trial => simp at hnil

/-- The last trial. -/
theorem of_concat {c : Cut α} {v : Verdict} (hs : t.Quiet s (h ++ [(c, v)]) s') :
    ∃ last, t.Quiet s h last ∧ t.cancelled last = false ∧ t.cancelled s' = false ∧
      t.test c last = (v, s') := by
  generalize hh : h ++ [(c, v)] = trials at hs
  cases hs with
  | start => simp at hh
  | @trial h' last c' hlast hbefore hafter =>
    obtain ⟨rfl, heq⟩ := List.append_inj' hh rfl
    obtain ⟨rfl, rfl⟩ := Prod.mk.inj (List.singleton_inj.mp heq)
    exact ⟨last, hlast, hbefore, hafter, rfl⟩

/-- What one trial keeps is kept by all of a quiet run, and so is what one trial shows. -/
theorem follows {items : List α} {admits : List Bool → List Bool → Prop}
    {J : List Bool → σ → Prop} {R : Cut α × Verdict → Prop} {committed : List Bool}
    (hstep : ∀ committed mask s v s', J committed s → committed.length = items.length →
      mask.length = items.length → admits committed mask → t.cancelled s = false →
      t.cancelled s' = false → t.test (Cut.ofMask items mask) s = (v, s') →
      R (Cut.ofMask items mask, v) ∧ J (if v = .holds then mask else committed) s')
    (hstart : J (List.replicate items.length true) s) (hd : Disciplined items admits h committed)
    (hs : t.Quiet s h s') : J committed s' ∧ ∀ x ∈ h, R x := by
  induction hd generalizing s' with
  | start =>
    rw [hs.eq_of_nil]
    exact ⟨hstart, by simp⟩
  | @held h committed mask hd hlen hadmits ih =>
    obtain ⟨last, hlast, hbefore, hafter, htest⟩ := hs.of_concat
    obtain ⟨hJ, hverdicts⟩ := ih hlast
    obtain ⟨hv, hJ'⟩ := hstep _ _ _ _ _ hJ hd.length_eq hlen hadmits hbefore hafter htest
    exact ⟨hJ', List.forall_mem_append.mpr ⟨hverdicts, List.forall_mem_singleton.mpr hv⟩⟩
  | @refused h committed mask v hd hlen hadmits hne ih =>
    obtain ⟨last, hlast, hbefore, hafter, htest⟩ := hs.of_concat
    obtain ⟨hJ, hverdicts⟩ := ih hlast
    obtain ⟨hv, hJ'⟩ := hstep _ _ _ _ _ hJ hd.length_eq hlen hadmits hbefore hafter htest
    rw [if_neg hne] at hJ'
    exact ⟨hJ', List.forall_mem_append.mpr ⟨hverdicts, List.forall_mem_singleton.mpr hv⟩⟩

end Tester.Quiet

namespace Dialogue

/-- Two runs of a dialogue in which every verdict is the same function of the cut and no token
fires are the same, whatever the testers remember. -/
theorem run_agree {τ : Type} {d : Dialogue α β} {t : Tester σ α} {t' : Tester τ α} {s : σ}
    {s' : τ} {f : Cut α → Verdict} (ht : ∀ s, t.cancelled s = false)
    (ht' : ∀ s, t'.cancelled s = false) (hf : ∀ x ∈ (d.run t s).trials, x.2 = f x.1)
    (hf' : ∀ x ∈ (d.run t' s').trials, x.2 = f x.1) :
    (d.run t s).answer = (d.run t' s').answer ∧ (d.run t s).trials = (d.run t' s').trials := by
  induction d generalizing s s' with
  | done b => exact ⟨rfl, rfl⟩
  | ask c k ih =>
    rw [trials_ask] at hf hf' ⊢
    rw [trials_ask]
    obtain ⟨hv, hf⟩ := List.forall_mem_cons.mp hf
    obtain ⟨hv', hf'⟩ := List.forall_mem_cons.mp hf'
    dsimp only at hv hv'
    simp only [Dialogue.run, hv, hv'] at hf hf' ⊢
    obtain ⟨hanswer, htrials⟩ := ih (f c) hf hf'
    exact ⟨hanswer, congrArg _ htrials⟩
  | poll k ih =>
    simp only [Dialogue.run, ht, ht'] at hf hf' ⊢
    exact ih false hf hf'
  | emptyLevel k ih => exact ih () hf hf'
  | note n k ih => exact ih () hf hf'

/-- Wherever the token is looked for, having fired it ends the dialogue with an answer in
`stop`. -/
def Heeds (stop : β → Prop) : Dialogue α β → Prop
  | done _ => True
  | ask _ k => ∀ v, (k v).Heeds stop
  | poll k => (∃ b, k true = done b ∧ stop b) ∧ (k false).Heeds stop
  | emptyLevel k => (k ()).Heeds stop
  | note _ k => (k ()).Heeds stop

namespace Heeds

variable {stop : β → Prop} {d : Dialogue α β}

theorem bind {stop' : γ → Prop} {f : β → Dialogue α γ} (hd : d.Heeds stop)
    (hstop : ∀ b, stop b → ∃ c, f b = done c ∧ stop' c) (hf : ∀ b, (f b).Heeds stop') :
    (d.bind f).Heeds stop' := by
  induction d with
  | done b => exact hf b
  | ask c k ih => exact fun v => ih v (hd v)
  | poll k ih =>
    obtain ⟨⟨b, hb, hstops⟩, hk⟩ := hd
    obtain ⟨c, hc, hstops'⟩ := hstop b hstops
    exact ⟨⟨c, (congrArg (·.bind f) hb).trans hc, hstops'⟩, ih false hk⟩
  | emptyLevel k ih => exact ih () hd
  | note n k ih => exact ih () hd

theorem mapCut {δ : Type} {f : Cut α → Cut δ} (hd : d.Heeds stop) : (d.mapCut f).Heeds stop := by
  induction d with
  | done b => exact trivial
  | ask c k ih => exact fun v => ih v (hd v)
  | poll k ih =>
    obtain ⟨⟨b, hb, hstops⟩, hk⟩ := hd
    exact ⟨⟨b, congrArg (Dialogue.mapCut f) hb, hstops⟩, ih false hk⟩
  | emptyLevel k ih => exact ih () hd
  | note n k ih => exact ih () hd

/-- A run that the token did not stop would have been the same without it. -/
theorem run_deaf (hd : d.Heeds stop) {t : Tester σ α} {s : σ} (hrun : ¬ stop (d.run t s).answer) :
    d.run t.deaf s = d.run t s := by
  induction d generalizing s with
  | done b => rfl
  | ask c k ih =>
    have hk := ih (t.test c s).1 (hd _) (s := (t.test c s).2) hrun
    exact congrArg (fun r => { r with steps := .trial c (t.test c s).1 :: r.steps }) hk
  | poll k ih =>
    obtain ⟨⟨b, hb, hstops⟩, hk⟩ := hd
    cases hfired : t.cancelled s with
    | false =>
      simp only [Dialogue.run, hfired] at hrun ⊢
      exact ih false hk hrun
    | true =>
      simp only [Dialogue.run, hfired, hb] at hrun
      exact absurd hstops hrun
  | emptyLevel k ih =>
    exact congrArg (fun r => { r with steps := .emptyLevel :: r.steps })
      (ih () hd (s := t.emptyLevel s) hrun)
  | note n k ih =>
    exact congrArg (fun r => { r with steps := .note n :: r.steps }) (ih () hd (s := s) hrun)

/-- Two runs in which every verdict is the same function of the cut differ only if the token
stops one of them. -/
theorem agree {τ : Type} (hd : d.Heeds stop) {t : Tester σ α} {t' : Tester τ α} {s : σ} {s' : τ}
    {f : Cut α → Verdict} (hf : ∀ x ∈ (d.run t s).trials, x.2 = f x.1)
    (hf' : ∀ x ∈ (d.run t' s').trials, x.2 = f x.1) (hrun : ¬ stop (d.run t s).answer)
    (hrun' : ¬ stop (d.run t' s').answer) :
    (d.run t s).answer = (d.run t' s').answer ∧ (d.run t s).trials = (d.run t' s').trials := by
  rw [← hd.run_deaf hrun] at hf ⊢
  rw [← hd.run_deaf hrun'] at hf' ⊢
  exact run_agree (fun _ => rfl) (fun _ => rfl) hf hf'

end Heeds

end Dialogue

namespace Attempt

/-- Attempts that try a cut only with a look for the token before and after. -/
inductive Composed (cancellable : Bool) : {β : Type} → Attempt AlgorithmError α β → Prop
  | pure {β : Type} (b : β) : Composed cancellable (Pure.pure b : Attempt AlgorithmError α β)
  | throw {β : Type} (e : AlgorithmError) :
      Composed cancellable (MonadExcept.throw e : Attempt AlgorithmError α β)
  | note (n : Note) : Composed cancellable (Attempt.note n)
  | check : Composed cancellable (Attempt.check cancellable .cancelled)
  | trial (c : Cut α) : Composed cancellable (Attempt.trial cancellable c)
  | bind {β γ : Type} {a : Attempt AlgorithmError α β} {f : β → Attempt AlgorithmError α γ} :
      Composed cancellable a → (∀ b, Composed cancellable (f b)) → Composed cancellable (a >>= f)

theorem Composed.lift {cancellable : Bool} (r : Except AlgorithmError β) :
    Composed cancellable (liftM r : Attempt AlgorithmError α β) := by
  cases r with
  | error e => exact .throw e
  | ok b => exact .pure b

/-- A token that has fired ends the attempt as cancelled. -/
def Heeds (a : Attempt AlgorithmError α β) : Prop := Dialogue.Heeds (· = .error .cancelled) a.run

theorem Heeds.bind {a : Attempt AlgorithmError α β} {f : β → Attempt AlgorithmError α γ}
    (ha : a.Heeds) (hf : ∀ b, (f b).Heeds) : (a >>= f).Heeds := by
  refine Dialogue.Heeds.bind ha ?_ fun r => ?_
  · rintro _ rfl
    exact ⟨_, rfl, rfl⟩
  · cases r with
    | error e => exact trivial
    | ok b => exact hf b

theorem heeds_check (cancellable : Bool) :
    (check cancellable .cancelled : Attempt AlgorithmError α Unit).Heeds := by
  cases cancellable with
  | false => exact trivial
  | true => exact ⟨⟨_, rfl, rfl⟩, trivial⟩

theorem Composed.heeds {cancellable : Bool} {a : Attempt AlgorithmError α β}
    (ha : Composed cancellable a) : a.Heeds := by
  induction ha with
  | pure | throw | note => exact trivial
  | check => exact heeds_check cancellable
  | trial c =>
    exact (heeds_check cancellable).bind fun _ => Heeds.bind (a := Attempt.ask c)
      (fun _ => trivial) fun _ => (heeds_check cancellable).bind fun _ => trivial
  | bind _ _ iha ihf => exact iha.bind ihf

/-- A run that ends with an answer was quiet. -/
def Attentive (a : Attempt ε α β) : Prop :=
  ∀ ⦃σ : Type⦄ (t : Tester σ α) (s : σ) (b : β), (Dialogue.run t a.run s).answer = .ok b →
    t.Quiet s (Dialogue.run t a.run s).trials (Dialogue.run t a.run s).state

namespace Attentive

theorem bind {a : Attempt ε α β} {f : β → Attempt ε α γ} (ha : a.Attentive)
    (hf : ∀ b, (f b).Attentive) : (a >>= f).Attentive := by
  intro σ t s c hc
  obtain ⟨b, hb, hrest, hstate, htrials⟩ := run_bind_ok hc
  rw [hstate, htrials]
  exact (ha t s b hb).trans (hf b t _ c hrest)

theorem check (cancellable : Bool) (e : ε) :
    Attentive (Attempt.check cancellable e : Attempt ε α Unit) := by
  intro σ t s u _
  cases cancellable <;> exact .start

theorem trial (c : Cut α) : Attentive (Attempt.trial true c) := by
  intro σ t s v hv
  have hcheck : ∀ {s : σ} {u : Unit}, (Dialogue.run t
      (Attempt.check true AlgorithmError.cancelled : Attempt _ α Unit).run s).answer = .ok u →
      t.cancelled s = false := by
    intro s u hu
    cases hfired : t.cancelled s with
    | false => rfl
    | true =>
      simp only [Attempt.check, if_true, ExceptT.run_mk, Dialogue.run, hfired] at hu
      cases hu
  unfold Attempt.trial at hv ⊢
  obtain ⟨_, hbefore, hv, hstate, htrials⟩ := run_bind_ok hv
  obtain ⟨v', hask, hv, hstate', htrials'⟩ := run_bind_ok hv
  obtain ⟨_, hafter, -, hstate'', htrials''⟩ := run_bind_ok hv
  rw [hstate, hstate', hstate'', htrials, htrials', htrials'']
  exact .trial c .start (hcheck hbefore) (hcheck hafter)

end Attentive

theorem Composed.attentive {a : Attempt AlgorithmError α β} (ha : Composed true a) :
    a.Attentive := by
  induction ha with
  | pure | throw | note => exact fun _ _ _ _ _ => .start
  | check => exact .check true AlgorithmError.cancelled
  | trial c => exact .trial c
  | bind _ _ iha ihf => exact iha.bind ihf

/-- However a run ends, its trials lead from one state to the other. -/
def Leads (a : Attempt ε α β) : Prop :=
  ∀ ⦃σ : Type⦄ (t : Tester σ α) (s : σ),
    t.deaf.Quiet s (Dialogue.run t a.run s).trials (Dialogue.run t a.run s).state

namespace Leads

theorem bind {a : Attempt ε α β} {f : β → Attempt ε α γ} (ha : a.Leads) (hf : ∀ b, (f b).Leads) :
    (a >>= f).Leads := by
  intro σ t s
  have hrun : Dialogue.run t (a >>= f).run s = _ := Dialogue.run_bind t a.run (ExceptT.bindCont f) s
  rw [hrun]
  refine Eq.subst (motive := fun trials => t.deaf.Quiet s trials _)
    (List.filterMap_append ..).symm ((ha t s).trans ?_)
  dsimp only
  cases (Dialogue.run t a.run s).answer with
  | error e => exact .start
  | ok b => exact hf b t _

theorem check (cancellable : Bool) (e : ε) :
    Leads (Attempt.check cancellable e : Attempt ε α Unit) := by
  intro σ t s
  cases cancellable <;> exact .start

theorem ask (c : Cut α) : Leads (Attempt.ask c : Attempt ε α Verdict) :=
  fun _ _ _ => .trial c .start rfl rfl

end Leads

theorem Composed.leads {cancellable : Bool} {a : Attempt AlgorithmError α β}
    (ha : Composed cancellable a) : a.Leads := by
  induction ha with
  | pure | throw | note => exact fun _ _ _ => .start
  | check => exact .check _ _
  | trial c =>
    exact .bind (.check _ _) fun _ =>
      .bind (.ask c) fun _ => .bind (.check _ _) fun _ _ _ _ => .start
  | bind _ _ iha ihf => exact iha.bind ihf

end Attempt

namespace Ddmin

open Attempt (Composed)

variable {limits : Limits} {cancellable : Bool} {items : List α}

theorem firstHolding_composed (cands : List (List Nat)) (s : Statistics) :
    Composed cancellable (firstHolding cancellable items cands s) := by
  induction cands generalizing s with
  | nil => exact .pure _
  | cons kept cands ih =>
    unfold firstHolding
    refine .bind (.trial _) fun v => ?_
    split
    · exact .pure _
    · exact ih _

theorem rounds_composed (remaining : Nat) (current : List Nat) (n failures : Nat)
    (s : Statistics) :
    Composed cancellable (rounds limits cancellable items remaining current n failures s) := by
  induction remaining generalizing current n failures s with
  | zero =>
    unfold rounds
    split
    · exact .pure _
    · exact .throw _
  | succ remaining ih =>
    unfold rounds
    split
    · exact .pure _
    · refine .bind (firstHolding_composed _ s) fun found => ?_
      obtain ⟨next, s⟩ := found
      cases next with
      | some next => exact ih _ _ _ _
      | none =>
        dsimp only
        split
        · exact .pure _
        · split
          · exact .pure _
          · exact ih _ _ _ _

theorem minimize_composed (limits : Limits) (cancellable : Bool) (items : List α) :
    Composed cancellable (minimize limits cancellable items) :=
  .bind (.lift _) fun _ => .bind (rounds_composed _ _ _ _ _) fun ⟨_, _⟩ => .pure _

end Ddmin

namespace Probabilistic

open Attempt (Composed)

variable {limits : Limits} {cancellable : Bool} {items : List α}

theorem rounds_composed (remaining : Nat) (keep : Array Bool) (order : List Nat) (e : Estimates)
    (s : Statistics) :
    Composed cancellable (rounds limits cancellable items remaining keep order e s) := by
  induction remaining generalizing keep order e s with
  | zero =>
    unfold rounds
    split
    · exact .pure _
    · split
      · exact .pure _
      · exact .throw _
  | succ remaining ih =>
    unfold rounds
    split
    · exact .pure _
    · split
      · exact .pure _
      · refine .bind .check fun _ => .bind (.trial _) fun v => ?_
        split
        · exact ih _ _ _ _
        · exact ih _ _ _ _

theorem minimize_composed (limits : ProbabilisticLimits) (cancellable : Bool) (items : List α) :
    Composed cancellable (minimize limits cancellable items) := by
  refine .bind (.lift _) fun _ => ?_
  split
  · exact .pure _
  · exact .bind (rounds_composed _ _ _ _ _) fun ⟨_, _⟩ => .pure _

end Probabilistic

namespace Algorithm

/-- Whatever the items, the algorithm tries a cut only with a look for its token before and
after. -/
def IsComposed (a : Algorithm) : Prop :=
  ∀ (α : Type) (items : List α), Attempt.Composed a.cancellable (a.minimize items)

theorem cancellable_ofKind (kind : AlgorithmKind) (limits : Limits) (seed : UInt64)
    (cancellable : Bool) : (ofKind kind limits seed cancellable).cancellable = cancellable := by
  cases kind <;> rfl

theorem ofKind_isComposed (kind : AlgorithmKind) (limits : Limits) (seed : UInt64)
    (cancellable : Bool) : (ofKind kind limits seed cancellable).IsComposed := by
  intro α items
  cases kind with
  | ddmin => exact Ddmin.minimize_composed limits cancellable items
  | probabilistic => exact Probabilistic.minimize_composed ⟨limits, seed⟩ cancellable items

namespace IsComposed

variable {a : Algorithm}

theorem withZeroTesting (ha : a.IsComposed) : a.withZeroTesting.IsComposed := by
  intro α items
  refine .bind (ha α items) fun result => ?_
  split
  · exact .pure _
  · refine .bind (.trial _) fun v => ?_
    split <;> exact .pure _

theorem withLog (ha : a.IsComposed) : a.withLog.IsComposed := fun α items =>
  .bind (.note _) fun _ => .bind (ha α items) fun _ =>
    .bind (.note _) fun _ => .bind (.note _) fun _ => .bind (.note _) fun _ => .pure _

theorem extend (ha : a.IsComposed) (extensions : List Extension) :
    (a.extend extensions).IsComposed :=
  extend_rule (P := IsComposed) (fun _ => withZeroTesting) (fun _ => withLog) ha extensions

end IsComposed

/-- Whatever the items, a run of the algorithm that ends with an answer was quiet. -/
def IsAttentive (a : Algorithm) : Prop :=
  a.cancellable = true ∧ ∀ (α : Type) (items : List α), (a.minimize items).Attentive

theorem IsComposed.isAttentive {a : Algorithm} (ha : a.IsComposed) (htoken : a.cancellable = true) :
    a.IsAttentive :=
  ⟨htoken, fun α items => Attempt.Composed.attentive (htoken ▸ ha α items)⟩

end Algorithm

end DeltaDebugging
