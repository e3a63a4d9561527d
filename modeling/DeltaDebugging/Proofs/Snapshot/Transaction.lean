import DeltaDebugging.Snapshot.Focus
import DeltaDebugging.Snapshot.Transaction

/-!
# All or nothing

A transaction that commits leaves the context that its body worked on to the end, and one
that does not, whatever stopped it, leaves the context it found. For a working copy that is
true by itself. In place it takes a checkpoint that undoes whatever the body may have done
by the time it was stopped.
-/
namespace DeltaDebugging

variable {χ κ τ ρ ι β : Type}

namespace Activity

theorem run_seq {γ : Type} (interrupted : τ → Bool) (a : Activity τ β) (f : β → Activity τ γ)
    (t : τ) :
    (a >>= f).run interrupted t =
      match a.run interrupted t with
      | (.done b, t) => (f b).run interrupted t
      | (.panicked m, t) => (.panicked m, t)
      | (.interrupted, t) => (.interrupted, t) :=
  run_bind interrupted a f t

theorem run_pure (interrupted : τ → Bool) (b : β) (t : τ) :
    (pure b : Activity τ β).run interrupted t = (.done b, t) := rfl

/-- A sequence that came to its end did so in both its parts. -/
theorem run_seq_done {γ : Type} {interrupted : τ → Bool} {a : Activity τ β} {f : β → Activity τ γ}
    {c : γ} {t t' : τ} (h : (a >>= f).run interrupted t = (.done c, t')) :
    ∃ b t₁, a.run interrupted t = (.done b, t₁) ∧ (f b).run interrupted t₁ = (.done c, t') := by
  rw [run_seq] at h
  split at h
  · next b t₁ ha => exact ⟨b, t₁, ha, h⟩
  · cases h
  · cases h

theorem run_onSecond (interrupted : τ → Bool) (a : Activity τ β) (x : χ) (t : τ) :
    (a.onSecond).run (fun s => interrupted s.2) (x, t) =
      ((a.run interrupted t).1, x, (a.run interrupted t).2) := by
  induction a generalizing t with
  | done b => rfl
  | panic m => rfl
  | wait => rfl
  | suspend k ih =>
    by_cases h : interrupted t = true
    · simp [onSecond, run, h]
    · simp only [onSecond, run, h]
      exact ih () t
  | act f k ih => exact ih (f t) (f t)

theorem run_onSecond_seq_done {γ : Type} {interrupted : τ → Bool} {a : Activity τ β}
    {f : β → Activity (χ × τ) γ} {c : γ} {x : χ} {t : τ} {s : χ × τ}
    (h : (a.onSecond >>= f).run (fun s => interrupted s.2) (x, t) = (.done c, s)) :
    ∃ b t₁, a.run interrupted t = (.done b, t₁) ∧
      (f b).run (fun s => interrupted s.2) (x, t₁) = (.done c, s) := by
  obtain ⟨b, s₁, ha, hf⟩ := run_seq_done h
  rw [run_onSecond] at ha
  obtain ⟨hend, rfl⟩ := Prod.mk.inj ha
  exact ⟨b, _, Prod.ext hend rfl, hf⟩

/-- However it ends, the activity does not touch the context. -/
def KeepsContext (interrupted : τ → Bool) (a : Activity (χ × τ) β) : Prop :=
  ∀ s, (a.run (fun s => interrupted s.2) s).2.1 = s.1

section KeepsContext

variable {interrupted : τ → Bool}

/-- What is left is left by the first part, if the second does not touch it. -/
theorem context_seq {γ : Type} {a : Activity (χ × τ) β} {f : β → Activity (χ × τ) γ}
    (hf : ∀ b, (f b).KeepsContext interrupted) (s : χ × τ) :
    ((a >>= f).run (fun s => interrupted s.2) s).2.1 =
      (a.run (fun s => interrupted s.2) s).2.1 := by
  rw [run_seq]
  generalize a.run (fun s => interrupted s.2) s = r
  rcases r with ⟨b | message | _, s₁⟩
  · exact hf b s₁
  · rfl
  · rfl

theorem KeepsContext.seq {γ : Type} {a : Activity (χ × τ) β} {f : β → Activity (χ × τ) γ}
    (ha : a.KeepsContext interrupted) (hf : ∀ b, (f b).KeepsContext interrupted) :
    (a >>= f).KeepsContext interrupted :=
  fun s => (context_seq hf s).trans (ha s)

/-- After a first part that does not touch the context, the second is run on it, if at all. -/
theorem KeepsContext.run_seq_cases {γ : Type} {a : Activity (χ × τ) β}
    {f : β → Activity (χ × τ) γ} {x : χ} {t : τ} (ha : a.KeepsContext interrupted) :
    ((a >>= f).run (fun s => interrupted s.2) (x, t)).2.1 = x ∨
      ∃ b t₁, (a >>= f).run (fun s => interrupted s.2) (x, t) =
        (f b).run (fun s => interrupted s.2) (x, t₁) := by
  have hx := ha (x, t)
  rw [run_seq]
  generalize a.run (fun s => interrupted s.2) (x, t) = r at hx ⊢
  rcases r with ⟨b | message | _, w, t₁⟩
  · cases hx
    exact Or.inr ⟨b, t₁, rfl⟩
  · exact Or.inl hx
  · exact Or.inl hx

theorem keepsContext_pure (b : β) : (pure b : Activity (χ × τ) β).KeepsContext interrupted :=
  fun _ => rfl

theorem keepsContext_get : (get : Activity (χ × τ) (χ × τ)).KeepsContext interrupted :=
  fun _ => rfl

theorem keepsContext_onSecond (a : Activity τ β) :
    (a.onSecond : Activity (χ × τ) β).KeepsContext interrupted := by
  rintro ⟨x, t⟩
  rw [run_onSecond]

end KeepsContext

end Activity

/-- Taking up the context `x` again undoes the change to `w`. -/
def Strategy.Undoes (x w : χ) : Strategy χ κ → Prop
  | .clone => True
  | .checkpoint take restore => ∀ saved, take x = .ok saved → restore saved w = x

/-- Nothing stops a transaction on the context from being begun. -/
def Strategy.Takes (x : χ) : Strategy χ κ → Prop
  | .clone => True
  | .checkpoint take _ => ∃ saved, take x = .ok saved

/-- The lens may leave `w` of the context `x`, having come to its end or not. -/
def Lens.Leaves (lens : Lens χ τ ι) (x w : χ) : Prop :=
  ∃ items t interrupted, ((lens items).run interrupted (x, t)).2.1 = w

/-- Whatever the lens has done so far can be undone. -/
def Strategy.Restores (strategy : Strategy χ κ) (lens : Lens χ τ ι) : Prop :=
  ∀ x, strategy.Undoes x x ∧ ∀ w, lens.Leaves x w → strategy.Undoes x w

namespace Strategy

variable {strategy : Strategy χ κ} {x w : χ}

/-- Why a transaction on the context `x` cannot be begun. -/
def obstacle? (x : χ) : Strategy χ κ → Option String
  | clone => none
  | checkpoint take _ => match take x with
    | .error reason => some reason
    | .ok _ => none

/-- What a transaction on the context `x` that has changed it to `w` goes back to. -/
def back (x w : χ) : Strategy χ κ → χ
  | clone => x
  | checkpoint take restore => match take x with
    | .error _ => w
    | .ok saved => restore saved w

theorem Takes.obstacle?_eq_none (h : strategy.Takes x) : strategy.obstacle? x = none := by
  cases strategy with
  | clone => rfl
  | checkpoint take restore =>
    obtain ⟨saved, hsaved⟩ := h
    simp only [obstacle?, hsaved]

theorem Undoes.back_eq (h : strategy.Undoes x w) (hnone : strategy.obstacle? x = none) :
    strategy.back x w = x := by
  cases strategy with
  | clone => rfl
  | checkpoint take restore =>
    cases htake : take x with
    | error reason => simp [obstacle?, htake] at hnone
    | ok saved => simpa only [back, htake] using h saved htake

end Strategy

section Execute

variable {cancelled : τ → Bool} {body : Work χ τ ρ β} {s s' : χ × τ}

theorem Work.execute_ok {b : β} (h : body.execute cancelled s = (.ok b, s')) :
    body.run (fun s => cancelled s.2) s = (.done (.ok b), s') := by
  unfold execute at h
  split at h
  · cases h
  · split at h <;> cases h
    assumption

theorem Work.execute_aborted {reason : ρ}
    (h : body.execute cancelled s = (.error (.aborted reason), s')) :
    body.run (fun s => cancelled s.2) s = (.done (.error (.abort reason)), s') := by
  unfold execute at h
  split at h
  · cases h
  · split at h <;> cases h
    assumption

/-- A body that is stopped or declines leaves what its run left, if it was run at all. -/
theorem Work.execute_error {e : TransactionError ρ}
    (h : body.execute cancelled s = (.error e, s')) :
    s' = s ∨ s' = (body.run (fun s => cancelled s.2) s).2 := by
  unfold execute at h
  split at h
  · cases h
    exact Or.inl rfl
  · right
    split at h <;> cases h <;> simp [*]

end Execute

namespace Manager

variable {strategy : Strategy χ κ} {cancelled : τ → Bool} {body : Work χ τ ρ β} {m m' : Manager χ}
  {t t' : τ}

/-- A transaction, whatever keeps the committed context safe. -/
theorem transaction_eq (strategy : Strategy χ κ) (cancelled : τ → Bool) (body : Work χ τ ρ β)
    (m : Manager χ) (t : τ) : m.transaction strategy cancelled body t =
      match strategy.obstacle? m.context with
      | some reason => (.error (.creationFailed reason), m, t)
      | none =>
        match body.execute cancelled (m.context, t) with
        | (.ok b, w, t) => (.ok b, m.commit w, t)
        | (.error e, w, t) => (.error e, m.rollback (strategy.back m.context w), t) := by
  generalize hexecute : body.execute cancelled (m.context, t) = r
  cases strategy with
  | clone =>
    simp only [transaction, Strategy.obstacle?, hexecute]
    rcases r with ⟨e | b, w, t'⟩ <;> rfl
  | checkpoint take restore =>
    simp only [transaction, Strategy.obstacle?, Strategy.back, hexecute]
    cases take m.context with
    | error reason => rfl
    | ok saved => rcases r with ⟨e | b, w, t'⟩ <;> rfl

theorem transaction_ok {b : β}
    (h : m.transaction strategy cancelled body t = (.ok b, m', t')) :
    body.run (fun s => cancelled s.2) (m.context, t) = (.done (.ok b), m'.context, t') ∧
      m'.commits = m.commits + 1 := by
  rw [transaction_eq] at h
  split at h
  · cases h
  · split at h
    · next hexecute =>
      cases h
      exact ⟨Work.execute_ok hexecute, rfl⟩
    · cases h

theorem transaction_aborted {reason : ρ}
    (h : m.transaction strategy cancelled body t = (.error (.aborted reason), m', t')) :
    ∃ s, body.run (fun s => cancelled s.2) (m.context, t) =
      (.done (.error (.abort reason)), s) := by
  rw [transaction_eq] at h
  split at h
  · cases h
  · split at h
    · cases h
    · next hexecute =>
      cases h
      exact ⟨_, Work.execute_aborted hexecute⟩

/-- The context that is left of a body that did not come to commit can be undone. -/
theorem undoes_of_execute {e : TransactionError ρ} {w : χ}
    (hstart : strategy.Undoes m.context m.context)
    (hbody : strategy.Undoes m.context
      (body.run (fun s => cancelled s.2) (m.context, t)).2.1)
    (h : body.execute cancelled (m.context, t) = (.error e, w, t')) :
    strategy.Undoes m.context w := by
  rcases Work.execute_error h with heq | heq
  · obtain ⟨rfl, -⟩ := Prod.mk.inj heq
    exact hstart
  · rw [← heq] at hbody
    exact hbody

/-- Nothing is kept of a body that was not run to the end or declined to commit. -/
theorem transaction_error {e : TransactionError ρ} (hstart : strategy.Undoes m.context m.context)
    (hbody : strategy.Undoes m.context
      (body.run (fun s => cancelled s.2) (m.context, t)).2.1)
    (h : m.transaction strategy cancelled body t = (.error e, m', t')) :
    m'.context = m.context ∧ m'.commits = m.commits := by
  rw [transaction_eq] at h
  split at h
  · cases h
    exact ⟨rfl, rfl⟩
  · next hnone =>
    split at h
    · cases h
    · next hexecute =>
      cases h
      exact ⟨(undoes_of_execute hstart hbody hexecute).back_eq hnone, rfl⟩

/-- If a checkpoint can be taken and undoes what the body does, it makes no difference whether
the body works in place or on a copy. -/
theorem transaction_eq_clone (htakes : strategy.Takes m.context)
    (hstart : strategy.Undoes m.context m.context)
    (hbody : strategy.Undoes m.context
      (body.run (fun s => cancelled s.2) (m.context, t)).2.1) :
    m.transaction strategy cancelled body t =
      m.transaction (.clone : Strategy χ κ) cancelled body t := by
  have hnone : strategy.obstacle? m.context = none := htakes.obstacle?_eq_none
  rw [transaction_eq, transaction_eq, hnone]
  simp only [Strategy.obstacle?]
  split
  · rfl
  · next hexecute =>
    rw [(undoes_of_execute hstart hbody hexecute).back_eq hnone]
    rfl

end Manager

end DeltaDebugging
