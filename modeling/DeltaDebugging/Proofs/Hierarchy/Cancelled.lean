import DeltaDebugging.Graph.Minimize
import DeltaDebugging.Proofs.Algorithm.Attentive
import DeltaDebugging.Proofs.Hierarchy.Driver

/-!
# Cancellation is not lost

Whatever the tester is called for, the token is looked for before the next trial and before
an answer. So once it has fired no trial is made any more, and a run in which it fires during
a call ends as cancelled. Where it does not fire, looking for it makes no difference.
-/
namespace DeltaDebugging

variable {σ α β γ δ ε : Type}

namespace Step

def isCall : Step α → Bool
  | trial _ _ | emptyLevel => true
  | note _ => false

def isTrial : Step α → Bool
  | trial _ _ => true
  | emptyLevel | note _ => false

end Step

def Tester.after (t : Tester σ α) : List (Step α) → σ → σ
  | [], s => s
  | .trial c _ :: steps, s => t.after steps (t.test c s).2
  | .emptyLevel :: steps, s => t.after steps (t.emptyLevel s)
  | .note _ :: steps, s => t.after steps s

namespace Dialogue

theorem after_steps (t : Tester σ α) (d : Dialogue α β) (s : σ) :
    t.after (d.run t s).steps s = (d.run t s).state := by
  induction d generalizing s with
  | done b => rfl
  | ask c k ih => exact ih _ _
  | poll k ih => exact ih _ _
  | emptyLevel k ih => exact ih () _
  | note n k ih => exact ih () _

/-- What is known of the token. -/
inductive Watch where
  /-- Nothing was asked yet. -/
  | unknown
  /-- The tester was called since the last look. -/
  | owed
  /-- It had not fired at the last look, and the tester was not called since. -/
  | clear

/-- Nothing is tried unless the token is known not to have fired, and a look at it when it has
ends the dialogue in `stop`; `post` says what else a dialogue may end in. -/
def Guarded (stop : β → Prop) (post : Watch → β → Prop) : Dialogue α β → Watch → Prop
  | done b, w => post w b
  | ask _ k, w => w = .clear ∧ ∀ v, (k v).Guarded stop post .owed
  | poll k, _ => (∃ b, k true = done b ∧ stop b) ∧ (k false).Guarded stop post .clear
  | emptyLevel k, _ => (k ()).Guarded stop post .owed
  | note _ k, w => (k ()).Guarded stop post w

namespace Guarded

variable {stop : β → Prop} {post : Watch → β → Prop} {d : Dialogue α β} {w : Watch}

theorem bind {stop' : γ → Prop} {post' : Watch → γ → Prop} {f : β → Dialogue α γ}
    (hd : d.Guarded stop post w) (hstop : ∀ b, stop b → ∃ c, f b = done c ∧ stop' c)
    (hf : ∀ w b, post w b → (f b).Guarded stop' post' w) :
    (d.bind f).Guarded stop' post' w := by
  induction d generalizing w with
  | done b => exact hf w b hd
  | ask c k ih => exact ⟨hd.1, fun v => ih v (hd.2 v)⟩
  | poll k ih =>
    obtain ⟨⟨b, hb, hstops⟩, hk⟩ := hd
    obtain ⟨c, hc, hstops'⟩ := hstop b hstops
    exact ⟨⟨c, (congrArg (·.bind f) hb).trans hc, hstops'⟩, ih false hk⟩
  | emptyLevel k ih => exact ih () hd
  | note n k ih => exact ih () hd

theorem mapCut {f : Cut α → Cut δ} (hd : d.Guarded stop post w) :
    (d.mapCut f).Guarded stop post w := by
  induction d generalizing w with
  | done b => exact hd
  | ask c k ih => exact ⟨hd.1, fun v => ih v (hd.2 v)⟩
  | poll k ih =>
    obtain ⟨⟨b, hb, hstops⟩, hk⟩ := hd
    exact ⟨⟨b, congrArg (Dialogue.mapCut f) hb, hstops⟩, ih false hk⟩
  | emptyLevel k ih => exact ih () hd
  | note n k ih => exact ih () hd

/-- From a moment on at which the token has fired, a run makes no trial. It is stopped, or it
never called the tester and never looked. -/
theorem run (hd : d.Guarded stop post w) {t : Tester σ α}
    (hlatch : ∀ s, t.cancelled s = true → t.cancelled (t.emptyLevel s) = true)
    (howed : ∀ b, ¬ post .owed b) {s : σ} (hclear : w = .clear → t.cancelled s = false)
    {before after : List (Step α)} (hsteps : (d.run t s).steps = before ++ after)
    (hfired : t.cancelled (t.after before s) = true) :
    (∀ x ∈ after, x.isTrial = false) ∧
      (stop (d.run t s).answer ∨
        w = .unknown ∧ post .unknown (d.run t s).answer ∧ ∀ x ∈ before, x.isCall = false) := by
  induction d generalizing w s before after with
  | done b =>
    obtain ⟨rfl, rfl⟩ := List.append_eq_nil_iff.mp hsteps.symm
    refine ⟨by simp, ?_⟩
    cases w with
    | unknown => exact .inr ⟨rfl, hd, by simp⟩
    | owed => exact absurd hd (howed b)
    | clear => exact absurd ((hclear rfl).symm.trans hfired) Bool.false_ne_true
  | ask c k ih =>
    obtain ⟨rfl, hk⟩ := hd
    cases before with
    | nil => exact absurd ((hclear rfl).symm.trans hfired) Bool.false_ne_true
    | cons x before =>
      obtain ⟨rfl, hrest⟩ := List.cons.inj hsteps
      obtain ⟨htrials, hend⟩ := ih _ (hk _) (by simp) hrest hfired
      exact ⟨htrials, .inl (hend.resolve_right (by simp))⟩
  | poll k ih =>
    obtain ⟨⟨b, hb, hstops⟩, hk⟩ := hd
    cases hs : t.cancelled s with
    | true =>
      simp only [Dialogue.run, hs, hb] at hsteps ⊢
      obtain ⟨rfl, rfl⟩ := List.append_eq_nil_iff.mp hsteps.symm
      exact ⟨by simp, .inl hstops⟩
    | false =>
      simp only [Dialogue.run, hs] at hsteps ⊢
      obtain ⟨htrials, hend⟩ := ih false hk (fun _ => hs) hsteps hfired
      exact ⟨htrials, .inl (hend.resolve_right (by simp))⟩
  | emptyLevel k ih =>
    cases before with
    | nil =>
      obtain ⟨htrials, hend⟩ := ih () hd (s := t.emptyLevel s) (by simp)
        (List.nil_append _).symm (hlatch s hfired)
      rw [List.nil_append] at hsteps
      rw [← hsteps]
      exact ⟨List.forall_mem_cons.mpr ⟨rfl, htrials⟩, .inl (hend.resolve_right (by simp))⟩
    | cons x before =>
      obtain ⟨rfl, hrest⟩ := List.cons.inj hsteps
      obtain ⟨htrials, hend⟩ := ih () hd (by simp) hrest hfired
      exact ⟨htrials, .inl (hend.resolve_right (by simp))⟩
  | note n k ih =>
    cases before with
    | nil =>
      obtain ⟨htrials, hend⟩ := ih () hd hclear (List.nil_append _).symm hfired
      rw [List.nil_append] at hsteps
      rw [← hsteps]
      exact ⟨List.forall_mem_cons.mpr ⟨rfl, htrials⟩, hend⟩
    | cons x before =>
      obtain ⟨rfl, hrest⟩ := List.cons.inj hsteps
      obtain ⟨htrials, hend⟩ := ih () hd hclear hrest hfired
      refine ⟨htrials, hend.imp_right ?_⟩
      rintro ⟨hw, hpost, hcalls⟩
      exact ⟨hw, hpost, List.forall_mem_cons.mpr ⟨rfl, hcalls⟩⟩

end Guarded

end Dialogue

namespace Attempt

open Dialogue (Guarded Watch)

/-- An attempt that ends as cancelled if the token has fired where it looks, and that looks
after every call. -/
def IsGuarded (a : Attempt AlgorithmError α β) : Prop :=
  ∀ w, w ≠ .owed → Guarded (· = .error .cancelled) (fun w _ => w ≠ .owed) a.run w

theorem IsGuarded.bind {a : Attempt AlgorithmError α β} {f : β → Attempt AlgorithmError α γ}
    (ha : a.IsGuarded) (hf : ∀ b, (f b).IsGuarded) : (a >>= f).IsGuarded := by
  intro w hw
  refine Guarded.bind (ha w hw) ?_ fun w r hw => ?_
  · rintro _ rfl
    exact ⟨_, rfl, rfl⟩
  · cases r with
    | error e => exact hw
    | ok b => exact hf b w hw

theorem Composed.isGuarded {a : Attempt AlgorithmError α β} (ha : Composed true a) :
    a.IsGuarded := by
  induction ha with
  | pure | throw | note => exact fun _ hw => hw
  | check => exact fun _ _ => ⟨⟨_, rfl, rfl⟩, Watch.noConfusion⟩
  | trial c =>
    exact fun _ _ => ⟨⟨_, rfl, rfl⟩, rfl, fun _ => ⟨⟨_, rfl, rfl⟩, Watch.noConfusion⟩⟩
  | bind _ _ iha ihf => exact iha.bind ihf

end Attempt

section Obeys

variable {ρ : Type} {answer : β → Except ReductionError ρ}

/-- From a moment on at which the token has fired, no trial is made and the run does not end
well; if the tester was called before, the run ends as cancelled. -/
def Run.Obeys (t : Tester σ α) (s : σ) (answer : β → Except ReductionError ρ)
    (r : Run σ α β) : Prop :=
  ∀ before after, r.steps = before ++ after → t.cancelled (t.after before s) = true →
    (∀ x ∈ after, x.isTrial = false) ∧ (∀ b, answer r.answer ≠ .ok b) ∧
      ((∃ x ∈ before, x.isCall = true) → answer r.answer = .error (.minimizer .cancelled))

/-- The token has not fired at any moment of the run. -/
def Run.Unfired (t : Tester σ α) (s : σ) (r : Run σ α β) : Prop :=
  ∀ before after, r.steps = before ++ after → t.cancelled (t.after before s) = false

namespace Dialogue

/-- Dialogues that make no trial while the token may have fired, and end well only if it has
not. -/
def Guards (answer : β → Except ReductionError ρ) (d : Dialogue α β) (w : Watch) : Prop :=
  d.Guarded (fun b => answer b = .error (.minimizer .cancelled))
    (fun w b => w ≠ .owed ∧ (w = .clear ∨ ∀ r, answer b ≠ .ok r)) w

theorem Guards.obeys {d : Dialogue α β} (hd : d.Guards answer .unknown) {t : Tester σ α}
    (hlatch : ∀ s, t.cancelled s = true → t.cancelled (t.emptyLevel s) = true) (s : σ) :
    (d.run t s).Obeys t s answer := by
  intro before after hsteps hfired
  obtain ⟨htrials, hend⟩ := hd.run hlatch (fun _ h => h.1 rfl) nofun hsteps hfired
  refine ⟨htrials, fun b hb => ?_, fun ⟨x, hx, hcall⟩ => ?_⟩
  · rcases hend with hstop | ⟨-, ⟨-, hclear | hnot⟩, -⟩
    · cases hb.symm.trans hstop
    · cases hclear
    · exact hnot b hb
  · rcases hend with hstop | ⟨-, -, hcalls⟩
    · exact hstop
    · cases hcall.symm.trans (hcalls x hx)

theorem Guards.map {ρ' : Type} {answer' : γ → Except ReductionError ρ'} {d : Dialogue α β}
    {w : Watch} (hd : d.Guards answer w) (f : β → γ)
    (hf : ∀ b, ∃ h : ρ → ρ', answer' (f b) = (answer b).map h) :
    (d.bind fun b => done (f b)).Guards answer' w := by
  refine Guarded.bind hd (fun b hb => ⟨f b, rfl, ?_⟩) fun w b ⟨hw, hend⟩ => ?_
  · obtain ⟨h, hmap⟩ := hf b
    rw [hmap, hb]
    rfl
  refine ⟨hw, hend.imp_right fun hnot r hr => ?_⟩
  obtain ⟨h, hmap⟩ := hf b
  rw [hmap] at hr
  cases hb : answer b with
  | error e =>
    rw [hb] at hr
    cases hr
  | ok b => exact hnot b hb

end Dialogue

end Obeys

namespace Hierarchy

open Dialogue (Guarded Guards Watch)

variable {a : Algorithm} {w : Watch}

theorem minimizeLevel_guarded (ha : a.IsComposed) (htoken : a.cancellable = true)
    (present : Cut α → Cut β) (level : Level α) (hw : w ≠ .owed) :
    Guarded (· = .error .cancelled) (fun w r => w ≠ .owed ∧ (w = .clear ∨ ∃ e, r = .error e))
      (minimizeLevel a present level).run w := by
  have hcheck : ∀ (result : Outcome α) (w : Watch), Guarded (· = .error .cancelled)
      (fun w r => w ≠ .owed ∧ (w = .clear ∨ ∃ e, r = .error e))
      (do Attempt.check a.cancellable .cancelled; return result :
        Attempt AlgorithmError β (Outcome α)).run w := by
    intro result w
    rw [htoken]
    exact ⟨⟨_, rfl, rfl⟩, Watch.noConfusion, .inl rfl⟩
  unfold minimizeLevel
  split
  · exact hcheck Outcome.empty .owed
  · have halgorithm := Attempt.Composed.isGuarded (htoken ▸ ha α level.items) w hw
    refine Guarded.bind (d := (a.minimize level.items).run.mapCut present) halgorithm.mapCut ?_ ?_
    · rintro _ rfl
      exact ⟨_, rfl, rfl⟩
    · intro w r hw
      cases r with
      | error e => exact ⟨hw, .inr ⟨e, rfl⟩⟩
      | ok result => exact hcheck result w

variable [DecidableEq α] {g : Generator γ α β} {limits : HierarchyLimits}

theorem descend_guards (ha : a.IsComposed) (htoken : a.cancellable = true) {remaining : Nat}
    {s : γ} {level : Level α} {report : Report} (hw : w ≠ .owed) :
    (descend a g limits remaining s level report).Guards Ending.answer w := by
  induction remaining generalizing s level report w with
  | zero => exact ⟨hw, .inr fun _ h => by cases h⟩
  | succ remaining ih =>
    refine Guarded.bind (minimizeLevel_guarded ha htoken (g.present s) level hw) ?_ ?_
    · rintro _ rfl
      exact ⟨_, rfl, rfl⟩
    · rintro w r ⟨hw, hclear⟩
      cases r with
      | error e => exact ⟨hw, .inr fun _ h => by cases h⟩
      | ok result =>
        obtain rfl : w = .clear := hclear.resolve_right (by simp)
        dsimp only
        split
        · exact ⟨hw, .inl rfl⟩
        · split
          · exact ⟨hw, .inr fun _ h => by cases h⟩
          · exact ih hw

theorem minimize_guards (ha : a.IsComposed) (htoken : a.cancellable = true) (s : γ) :
    (minimize a g limits s).Guards Ending.answer .unknown := by
  unfold minimize
  split
  · exact ⟨Watch.noConfusion, .inr nofun⟩
  · exact descend_guards ha htoken Watch.noConfusion

end Hierarchy

/-- The run over a graph that is not empty guards against the token. -/
theorem GraphOutcome.minimize_guards {a : Algorithm} (ha : a.IsComposed)
    (htoken : a.cancellable = true) (limits : HierarchyLimits) {g : DependencyGraph α}
    (hg : g.items ≠ []) :
    (GraphOutcome.minimize a limits g).Guards id .unknown := by
  unfold GraphOutcome.minimize
  rw [if_neg (by simpa using hg)]
  have hrun : (minimizeCondensed a limits (.ofGraph g)).Guards id .unknown :=
    (Hierarchy.minimize_guards ha.withZeroTesting htoken _).map _ fun _ => ⟨_, rfl⟩
  exact Dialogue.Guards.map (Dialogue.Guarded.mapCut hrun) _ fun _ => ⟨_, rfl⟩

section Unpolled

namespace Dialogue

/-- The dialogue that takes it that the token has not fired. -/
def unpolled : Dialogue α β → Dialogue α β
  | done b => done b
  | ask c k => ask c fun v => (k v).unpolled
  | poll k => (k false).unpolled
  | emptyLevel k => emptyLevel fun u => (k u).unpolled
  | note n k => note n fun u => (k u).unpolled

theorem unpolled_bind (d : Dialogue α β) (f : β → Dialogue α γ) :
    (d.bind f).unpolled = d.unpolled.bind fun b => (f b).unpolled := by
  induction d with
  | done b => rfl
  | ask c k ih => exact congrArg (ask c) (funext ih)
  | poll k ih => exact ih false
  | emptyLevel k ih => exact congrArg emptyLevel (funext ih)
  | note n k ih => exact congrArg (note n) (funext ih)

theorem unpolled_mapCut (d : Dialogue α β) (f : Cut α → Cut δ) :
    (d.mapCut f).unpolled = d.unpolled.mapCut f := by
  induction d with
  | done b => rfl
  | ask c k ih => exact congrArg (ask (f c)) (funext ih)
  | poll k ih => exact ih false
  | emptyLevel k ih => exact congrArg emptyLevel (funext ih)
  | note n k ih => exact congrArg (note n) (funext ih)

/-- Where the token does not fire, looking for it makes no difference. -/
theorem run_unpolled (t : Tester σ α) (d : Dialogue α β) (s : σ)
    (hunfired : (d.run t s).Unfired t s) : d.run t s = d.unpolled.run t s := by
  induction d generalizing s with
  | done b => rfl
  | ask c k ih =>
    have hk := ih (t.test c s).1 (t.test c s).2 fun before after h =>
      hunfired (.trial c (t.test c s).1 :: before) after (congrArg _ h)
    simp only [run, unpolled, hk]
  | poll k ih =>
    have hs : t.cancelled s = false := hunfired [] _ rfl
    simp only [run, hs] at hunfired ⊢
    exact ih false s hunfired
  | emptyLevel k ih =>
    have hk := ih () (t.emptyLevel s) fun before after h =>
      hunfired (.emptyLevel :: before) after (congrArg _ h)
    simp only [run, unpolled, hk]
  | note n k ih =>
    have hk := ih () s fun before after h =>
      hunfired (.note n :: before) after (congrArg _ h)
    simp only [run, unpolled, hk]

end Dialogue

namespace Attempt

/-- The attempt `b` is `a` without its looks at the token. -/
def Drops (a b : Attempt ε α β) : Prop := a.run.unpolled = b.run

namespace Drops

theorem bind {a b : Attempt ε α β} {f f' : β → Attempt ε α γ} (hab : Drops a b)
    (hf : ∀ x, Drops (f x) (f' x)) : Drops (a >>= f) (b >>= f') := by
  refine (Dialogue.unpolled_bind a.run _).trans ?_
  rw [hab]
  refine congrArg (Dialogue.bind b.run) (funext fun r => ?_)
  cases r with
  | error e => rfl
  | ok x => exact hf x

theorem check (e : ε) : Drops (α := α) (Attempt.check true e) (Attempt.check false e) := rfl

theorem trial (c : Cut α) : Drops (Attempt.trial true c) (Attempt.trial false c) := rfl

theorem lift (r : Except ε β) :
    Drops (liftM r : Attempt ε α β) (liftM r : Attempt ε α β) := rfl

end Drops

end Attempt

open Attempt (Drops)

variable {items : List α}

theorem Ddmin.firstHolding_drops (cands : List (List Nat)) (s : Statistics) :
    Drops (firstHolding true items cands s) (firstHolding false items cands s) := by
  induction cands generalizing s with
  | nil => rfl
  | cons kept cands ih =>
    refine .bind (.trial _) fun v => ?_
    split
    · rfl
    · exact ih _

theorem Ddmin.rounds_drops (limits : Limits) (remaining : Nat) (current : List Nat)
    (n failures : Nat) (s : Statistics) :
    Drops (rounds limits true items remaining current n failures s)
      (rounds limits false items remaining current n failures s) := by
  induction remaining generalizing current n failures s with
  | zero =>
    unfold rounds
    split <;> rfl
  | succ remaining ih =>
    unfold rounds
    split
    · rfl
    · refine .bind (firstHolding_drops _ s) ?_
      rintro ⟨next, s⟩
      cases next with
      | some next => exact ih _ _ _ _
      | none =>
        dsimp only
        split
        · rfl
        · split
          · rfl
          · exact ih _ _ _ _

theorem Probabilistic.rounds_drops (limits : Limits) (remaining : Nat) (keep : Array Bool)
    (order : List Nat) (e : Estimates) (s : Statistics) :
    Drops (rounds limits true items remaining keep order e s)
      (rounds limits false items remaining keep order e s) := by
  induction remaining generalizing keep order e s with
  | zero =>
    unfold rounds
    split
    · rfl
    · split <;> rfl
  | succ remaining ih =>
    unfold rounds
    split
    · rfl
    · split
      · rfl
      · refine .bind (.check _) fun _ => .bind (.trial _) fun v => ?_
        split
        · exact ih _ _ _ _
        · exact ih _ _ _ _

namespace Algorithm

/-- The algorithm `b` is `a` without its token. -/
structure Detached (a b : Algorithm) : Prop where
  name : a.name = b.name
  attached : a.cancellable = true
  detached : b.cancellable = false
  drops : ∀ (α : Type) (items : List α), Drops (a.minimize items) (b.minimize items)

namespace Detached

variable {a b : Algorithm}

theorem ofKind (kind : AlgorithmKind) (limits : Limits) (seed : UInt64) :
    Detached (ofKind kind limits seed true) (ofKind kind limits seed false) := by
  cases kind with
  | ddmin =>
    exact ⟨rfl, rfl, rfl, fun _ _ => .bind (.lift _) fun _ =>
      .bind (Ddmin.rounds_drops _ _ _ _ _ _) fun _ => rfl⟩
  | probabilistic =>
    refine ⟨rfl, rfl, rfl, fun α items => .bind (.lift _) fun _ => ?_⟩
    split
    · rfl
    · exact .bind (Probabilistic.rounds_drops _ _ _ _ _ _) fun _ => rfl

theorem withZeroTesting (h : Detached a b) : Detached a.withZeroTesting b.withZeroTesting := by
  refine ⟨h.name, h.attached, h.detached, fun α items => .bind (h.drops α items) fun result => ?_⟩
  split
  · rfl
  · rw [h.attached, h.detached]
    refine .bind (.trial _) fun v => ?_
    split <;> rfl

theorem withLog (h : Detached a b) : Detached a.withLog b.withLog := by
  refine ⟨h.name, h.attached, h.detached, fun α items => ?_⟩
  unfold Algorithm.withLog
  dsimp only
  rw [h.name]
  exact .bind rfl fun _ => .bind (h.drops α items) fun _ => rfl

theorem extend (h : Detached a b) (extensions : List Extension) :
    Detached (a.extend extensions) (b.extend extensions) := by
  induction extensions using List.reverseRecOn with
  | nil => exact h
  | append_singleton extensions e ih =>
    rw [extend_concat, extend_concat]
    cases e with
    | zeroTesting => exact ih.withZeroTesting
    | log => exact ih.withLog

end Detached

end Algorithm

namespace Hierarchy

open Algorithm (Detached)

variable {a b : Algorithm}

theorem minimizeLevel_drops (h : Detached a b) (present : Cut α → Cut β) (level : Level α) :
    Drops (minimizeLevel a present level) (minimizeLevel b present level) := by
  unfold minimizeLevel
  rw [h.attached, h.detached]
  have hend : ∀ result : Outcome α, Drops
      (do Attempt.check true .cancelled; return result : Attempt AlgorithmError β (Outcome α))
      (do Attempt.check false .cancelled; return result) :=
    fun _ => .bind (.check _) fun _ => rfl
  split
  · exact .bind (a := Attempt.emptyLevel) rfl fun _ => hend _
  · refine .bind ?_ hend
    exact (Dialogue.unpolled_mapCut _ present).trans (congrArg _ (h.drops α level.items))

variable [DecidableEq α] {g : Generator γ α β} {limits : HierarchyLimits}

theorem descend_unpolled (h : Detached a b) (remaining : Nat) (s : γ) (level : Level α)
    (report : Report) :
    (descend a g limits remaining s level report).unpolled =
      descend b g limits remaining s level report := by
  induction remaining generalizing s level report with
  | zero => rfl
  | succ remaining ih =>
    unfold descend
    refine (Dialogue.unpolled_bind _ _).trans ?_
    rw [minimizeLevel_drops h]
    refine congrArg (Dialogue.bind _) (funext fun r => ?_)
    cases r with
    | error e => rfl
    | ok result =>
      dsimp only
      split
      · rfl
      · split
        · rfl
        · exact ih _ _ _

theorem minimize_unpolled (h : Detached a b) (s : γ) :
    (minimize a g limits s).unpolled = minimize b g limits s := by
  unfold minimize
  split
  · rfl
  · exact descend_unpolled h _ _ _ _

end Hierarchy

theorem GraphOutcome.minimize_unpolled {a b : Algorithm} (h : Algorithm.Detached a b)
    (limits : HierarchyLimits) (g : DependencyGraph α) :
    (GraphOutcome.minimize a limits g).unpolled = GraphOutcome.minimize b limits g := by
  unfold GraphOutcome.minimize
  split
  · rfl
  · have hrun : (minimizeCondensed a limits (.ofGraph g)).unpolled =
        minimizeCondensed b limits (.ofGraph g) :=
      (Dialogue.unpolled_bind _ _).trans
        (congrArg (Dialogue.bind · _) (Hierarchy.minimize_unpolled h.withZeroTesting _))
    refine (Dialogue.unpolled_bind _ _).trans (congrArg (Dialogue.bind · _) ?_)
    rw [Dialogue.unpolled_mapCut, hrun]

end Unpolled

section Token

variable (kind : AlgorithmKind) (limits : Limits) (seed : UInt64)
  (extensions : List Extension)

/-- The algorithm of a kind under a stack of extensions, with the run's token or without. -/
def Algorithm.stacked (token : Bool) : Algorithm :=
  (Algorithm.ofKind kind limits seed token).extend extensions

theorem Algorithm.stacked_detached :
    Algorithm.Detached (stacked kind limits seed extensions true)
      (stacked kind limits seed extensions false) :=
  (Detached.ofKind kind limits seed).extend extensions

theorem Algorithm.stacked_isComposed : (stacked kind limits seed extensions true).IsComposed :=
  (ofKind_isComposed kind limits seed true).extend extensions

/-- A token that fires before a run or during a call of the tester is never lost: no trial
follows, the run does not end well, and after a call it ends as cancelled. A token that does
not fire makes no difference. -/
theorem cancellation_not_lost [DecidableEq α] (levels : HierarchyLimits) (t : Tester σ β)
    (hlatch : ∀ s, t.cancelled s = true → t.cancelled (t.emptyLevel s) = true) (s : σ) :
    (∀ (g : Generator γ α β) (start : γ),
      let run := fun token =>
        (Hierarchy.minimize (.stacked kind limits seed extensions token) g levels start).run t s
      (run true).Obeys t s Ending.answer ∧ ((run true).Unfired t s → run true = run false)) ∧
    ∀ g : DependencyGraph β, g.items ≠ [] →
      let run := fun token =>
        (GraphOutcome.minimize (.stacked kind limits seed extensions token) levels g).run t s
      (run true).Obeys t s id ∧ ((run true).Unfired t s → run true = run false) := by
  have hcomposed := Algorithm.stacked_isComposed kind limits seed extensions
  have hdetached := Algorithm.stacked_detached kind limits seed extensions
  refine ⟨fun g start => ⟨?_, fun hunfired => ?_⟩, fun g hg => ⟨?_, fun hunfired => ?_⟩⟩
  · exact (Hierarchy.minimize_guards hcomposed hdetached.attached start).obeys hlatch s
  · dsimp only at hunfired ⊢
    rw [Dialogue.run_unpolled _ _ _ hunfired, Hierarchy.minimize_unpolled hdetached]
  · exact (GraphOutcome.minimize_guards hcomposed hdetached.attached levels hg).obeys hlatch s
  · dsimp only at hunfired ⊢
    rw [Dialogue.run_unpolled _ _ _ hunfired, GraphOutcome.minimize_unpolled hdetached]

/-- Refuses everything and counts the calls; the token fires during the second one. -/
def Tester.refusing : Tester Nat Nat where
  test _ calls := (.lost, calls + 1)
  emptyLevel calls := calls + 1
  cancelled calls := decide (2 ≤ calls)

/-- A run over unrelated items that are all refused. -/
def refusedRun (items : List Nat) (token : Bool) :
    Run Nat Nat (Except ReductionError (GraphOutcome Nat)) :=
  (GraphOutcome.minimize (.stacked .ddmin {} 0 [] token) {}
    (.ofDeclarations (items.map .item))).run .refusing 0

/-- A token that fires during the second trial stops a run over three items there; a run over
one item, which makes one trial, does not notice it. -/
theorem cancellation_not_lost_at_second_trial :
    (refusedRun [0, 1, 2] true).trials.length = 2 ∧
      (refusedRun [0, 1, 2] true).answer = .error (.minimizer .cancelled) ∧
      (refusedRun [0] true).trials.length = 1 ∧ refusedRun [0] true = refusedRun [0] false := by
  have hlatch : ∀ calls, Tester.refusing.cancelled calls = true →
      Tester.refusing.cancelled (Tester.refusing.emptyLevel calls) = true := by
    intro calls hfired
    have hcalls : 2 ≤ calls := of_decide_eq_true hfired
    exact decide_eq_true (Nat.le_succ_of_le hcalls)
  obtain ⟨-, hgraph⟩ :=
    cancellation_not_lost (γ := Unit) (α := Nat) .ddmin {} 0 [] {} .refusing hlatch 0
  have hobeys : (refusedRun [0, 1, 2] true).Obeys .refusing 0 id :=
    (hgraph (.ofDeclarations ([0, 1, 2].map .item)) (by decide +kernel)).1
  have hfired : Tester.refusing.cancelled
      (Tester.refusing.after (refusedRun [0, 1, 2] true).steps 0) = true := by
    rw [refusedRun, Dialogue.after_steps]
    decide +kernel
  have hcall : (refusedRun [0, 1, 2] true).steps.any Step.isCall = true := by decide +kernel
  obtain ⟨-, -, hcancelled⟩ := hobeys _ [] (List.append_nil _).symm hfired
  have hone : (refusedRun [0] true).steps.map Step.isTrial = [true] := by decide +kernel
  have hunfired : (refusedRun [0] true).Unfired .refusing 0 := by
    obtain ⟨x, hx, htrial⟩ := List.map_eq_singleton_iff.mp hone
    intro before after h
    rw [hx] at h
    cases before with
    | nil => rfl
    | cons y before =>
      obtain ⟨rfl, hnil⟩ := List.cons.inj h
      obtain ⟨rfl, rfl⟩ := List.append_eq_nil_iff.mp hnil.symm
      cases x with
      | trial => rfl
      | emptyLevel | note => cases htrial
  have hsame : refusedRun [0] true = refusedRun [0] false :=
    (hgraph (.ofDeclarations ([0].map .item)) (by decide +kernel)).2 hunfired
  exact ⟨by decide +kernel, hcancelled (List.any_eq_true.mp hcall), by decide +kernel, hsame⟩

end Token

end DeltaDebugging
