import DeltaDebugging.Proofs.Snapshot.Courses

/-!
# Trials with an answer

What an oracle says may depend on the context alone, whatever else it does meanwhile. Then a
trial that is not cut short has a verdict that is known beforehand, and the strategy makes no
difference to it.
-/
namespace DeltaDebugging

/-- What an activity comes to if no event interrupts it, it comes to unless one does. -/
theorem Activity.run_of_never {σ β : Type} {a : Activity σ β} {s : σ} {b : β}
    (h : (a.run (fun _ => false) s).1 = .done b) (interrupted : σ → Bool) :
    let r := a.run interrupted s
    r.1 = .done b ∨ r.1 = .interrupted ∧ interrupted r.2 = true := by
  induction a generalizing s with
  | done b' => exact Or.inl h
  | panic message => cases h
  | wait => cases h
  | suspend k ih =>
    rw [run]
    split
    · next hfired => exact Or.inr ⟨rfl, hfired⟩
    · exact ih () h
  | act f k ih => exact ih (f s) h

namespace SameFailure

variable {χ κ τ ι ς : Type}

/-- The verdict on a context of which the oracle says this. -/
def verdictOf (f : SameFailure χ τ ι ς) : Check ς → Verdict
  | .failed current => if f.same f.initial current then .holds else .lost
  | .passed => .lost
  | .undecided _ => .unknown

/-- The oracle says of a context what `answer` does, unless it is interrupted. -/
def Answers (oracle : χ → Activity τ (Check ς)) (answer : χ → Check ς) : Prop :=
  ∀ interrupted x t,
    let r := (oracle x).run interrupted t
    r.1 = .done (answer x) ∨ r.1 = .interrupted ∧ interrupted r.2 = true

theorem Answers.of_never {oracle : χ → Activity τ (Check ς)} {answer : χ → Check ς}
    (h : ∀ x t, ((oracle x).run (fun _ => false) t).1 = .done (answer x)) :
    Answers oracle answer :=
  fun interrupted x t => Activity.run_of_never (h x t) interrupted

variable {f : SameFailure χ τ ι ς} {strategy : Strategy χ κ} {attached : Bool}
  {cancelled : τ → Bool} {c : Cut ι} {p : Project χ τ} {answer : χ → Check ς} {w : χ} {t t' : τ}

theorem verdictOf_eq_holds {check : Check ς} : f.verdictOf check = .holds ↔
    ∃ current, check = .failed current ∧ f.same f.initial current = true := by
  cases check <;> simp [verdictOf]

theorem test_eq (f : SameFailure χ τ ι ς) (strategy : Strategy χ κ) (attached : Bool)
    (cancelled : τ → Bool) (c : Cut ι) (p : Project χ τ) :
    (f.tester strategy attached cancelled).test c p =
      let r := p.manager.transaction strategy (fun t => attached && cancelled t)
        (f.trial c.deleted) p.surroundings
      ((judge r.1).1, ⟨r.2.1, r.2.2, p.faults + (judge r.1).2⟩) := rfl

/-- If nothing is in the way of a checkpoint, a trial works as on a copy of the context. -/
theorem test_eq_clone (hrestores : strategy.Restores f.lens)
    (htakes : strategy.Takes p.manager.context) :
    (f.tester strategy attached cancelled).test c p =
      (f.tester (.clone : Strategy χ κ) attached cancelled).test c p := by
  have heq : p.manager.transaction strategy (fun t => attached && cancelled t) (f.trial c.deleted)
      p.surroundings = p.manager.transaction (.clone : Strategy χ κ)
        (fun t => attached && cancelled t) (f.trial c.deleted) p.surroundings :=
    Manager.transaction_eq_clone htakes (hrestores p.manager.context).1
      (undoes_trialWith hrestores (fun t => attached && cancelled t) c.deleted)
  simp only [test_eq, heq]

theorem test_clone_done (hbefore : cancelled p.surroundings = false) {v : Verdict}
    (hrun : (f.trial c.deleted).run (fun s => cancelled s.2) (p.manager.context, p.surroundings) =
      (.done (if v = .holds then .ok () else .error (.abort v)), w, t)) :
    (f.tester (.clone : Strategy χ κ) true cancelled).test c p =
      (v, ⟨if v = .holds then p.manager.commit w else p.manager.rollback p.manager.context, t,
        p.faults⟩) := by
  simp only [test_eq, Manager.transaction, Work.execute, Bool.true_and, hbefore, hrun]
  cases v <;> rfl

theorem test_clone_interrupted (hbefore : cancelled p.surroundings = false)
    (hrun : (f.trial c.deleted).run (fun s => cancelled s.2) (p.manager.context, p.surroundings) =
      (.interrupted, w, t)) :
    (f.tester (.clone : Strategy χ κ) true cancelled).test c p =
      (.unknown, ⟨p.manager.rollback p.manager.context, t, p.faults⟩) := by
  simp only [test_eq, Manager.transaction, Work.execute, Bool.true_and, hbefore, hrun]
  rfl

/-- Without listeners, a trial ends with the verdict on the context that the lens left. -/
theorem run_trial_of_lens (hlisteners : f.listeners = []) {deleted : List ι} {x : χ}
    (hlens : (f.lens deleted).run (fun s => cancelled s.2) (x, t) = (.done (.ok ()), w, t')) :
    (f.trial deleted).run (fun s => cancelled s.2) (x, t) =
      match (f.oracle w).run cancelled t' with
      | (.done check, t) =>
        (.done (if f.verdictOf check = .holds then .ok ()
          else .error (.abort (f.verdictOf check))), w, t)
      | (.panicked message, t) => (.panicked message, w, t)
      | (.interrupted, t) => (.interrupted, w, t) := by
  have hnotify : ∀ h t, f.notify h t = t := by
    intro h t
    rw [notify, hlisteners]
    rfl
  rw [trial, run_trialBy]
  simp only [hnotify, hlens]
  rcases (f.oracle w).run cancelled t' with ⟨check | message | _, t⟩
  · cases check with
    | failed current =>
      cases hsame : f.same f.initial current <;> simp [verdictOf, hsame, Activity.run_pure]
    | passed => rfl
    | undecided message => rfl
  · rfl
  · rfl

/-- A trial that no event cuts short ends with the verdict on the context that the lens left,
and commits that context if the verdict says so; the oracle was run once. -/
theorem test_of_answers (hanswers : Answers f.oracle answer) (hlisteners : f.listeners = [])
    (hrestores : strategy.Restores f.lens) (htakes : strategy.Takes p.manager.context)
    (hlens : (f.lens c.deleted).run (fun s => cancelled s.2) (p.manager.context, p.surroundings) =
      (.done (.ok ()), w, t))
    (hbefore : cancelled p.surroundings = false) {v : Verdict} {p' : Project χ τ}
    (hafter : cancelled p'.surroundings = false)
    (htest : (f.tester strategy true cancelled).test c p = (v, p')) :
    v = f.verdictOf (answer w) ∧
      p'.manager.context = (if v = .holds then w else p.manager.context) ∧
      p'.surroundings = ((f.oracle w).run cancelled t).2 := by
  have hrun := run_trial_of_lens hlisteners hlens
  have hanswer := hanswers cancelled w t
  rw [test_eq_clone hrestores htakes] at htest
  rcases hr : (f.oracle w).run cancelled t with ⟨outcome, t'⟩
  rw [hr] at hrun hanswer
  rcases hanswer with rfl | ⟨rfl, hfired⟩
  · rw [test_clone_done hbefore hrun] at htest
    obtain ⟨rfl, rfl⟩ := Prod.mk.inj htest
    refine ⟨rfl, ?_, rfl⟩
    dsimp only
    split <;> rfl
  · rw [test_clone_interrupted hbefore hrun] at htest
    obtain ⟨-, rfl⟩ := Prod.mk.inj htest
    exact absurd hfired (by simpa using hafter)

end SameFailure

end DeltaDebugging
