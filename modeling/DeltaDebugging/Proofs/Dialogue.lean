import DeltaDebugging.Dialogue

/-!
# What every branch of a dialogue ensures

A tester may answer anything, so a statement about all testers is one about all
branches of the dialogue. `Ensures` is the weakest precondition of a dialogue for a
condition on the trials made and the answer reached; the trials made before are
carried along, because what an algorithm owes depends on all of them.
-/
namespace DeltaDebugging

/-- Trials in the order in which they were made, each with its verdict. -/
abbrev Trials (α : Type) := List (Cut α × Verdict)

namespace Dialogue

variable {σ α β γ : Type} {post post' : Trials α → β → Prop}

/-- Whatever is answered, the dialogue led after the trials `h` ends in `post`. -/
def Ensures (post : Trials α → β → Prop) : Dialogue α β → Trials α → Prop
  | done b, h => post h b
  | ask c k, h => ∀ v, (k v).Ensures post (h ++ [(c, v)])
  | poll k, h => ∀ fired, (k fired).Ensures post h
  | emptyLevel k, h => (k ()).Ensures post h
  | note _ k, h => (k ()).Ensures post h

theorem Ensures.mono {d : Dialogue α β} {h : Trials α} (hd : d.Ensures post h)
    (hpost : ∀ h b, post h b → post' h b) : d.Ensures post' h := by
  induction d generalizing h with
  | done b => exact hpost h b hd
  | ask c k ih => exact fun v => ih v (hd v)
  | poll k ih => exact fun fired => ih fired (hd fired)
  | emptyLevel k ih => exact ih () hd
  | note n k ih => exact ih () hd

theorem ensures_bind {post : Trials α → γ → Prop} (d : Dialogue α β) (f : β → Dialogue α γ)
    (h : Trials α) :
    (d.bind f).Ensures post h ↔ d.Ensures (fun h b => (f b).Ensures post h) h := by
  induction d generalizing h with
  | done b => exact Iff.rfl
  | ask c k ih => exact forall_congr' fun v => ih v _
  | poll k ih => exact forall_congr' fun fired => ih fired h
  | emptyLevel k ih => exact ih () h
  | note n k ih => exact ih () h

theorem Ensures.run {d : Dialogue α β} {h : Trials α} (hd : d.Ensures post h)
    (t : Tester σ α) (s : σ) :
    post (h ++ (d.run t s).trials) (d.run t s).answer := by
  induction d generalizing h s with
  | done b => simpa [Dialogue.run, Run.trials, Ensures] using hd
  | ask c k ih =>
    have hk := ih (t.test c s).1 (hd (t.test c s).1) (t.test c s).2
    simpa [Dialogue.run, Run.trials, List.append_assoc] using hk
  | poll k ih => exact ih (t.cancelled s) (hd (t.cancelled s)) s
  | emptyLevel k ih => simpa [Dialogue.run, Run.trials] using ih () hd (t.emptyLevel s)
  | note n k ih => simpa [Dialogue.run, Run.trials] using ih () hd s

theorem verdict_of_mem_trials (t : Tester σ α) (f : Cut α → Verdict)
    (hf : ∀ c s, (t.test c s).1 = f c) (d : Dialogue α β) (s : σ) {x : Cut α × Verdict}
    (hx : x ∈ (d.run t s).trials) : x.2 = f x.1 := by
  induction d generalizing s with
  | done b => simp [Dialogue.run, Run.trials] at hx
  | ask c k ih =>
    simp only [Dialogue.run, Run.trials, List.filterMap_cons, List.mem_cons] at hx
    rcases hx with rfl | hx
    · exact hf c s
    · exact ih _ _ hx
  | poll k ih => exact ih _ _ hx
  | emptyLevel k ih => exact ih () _ (by simpa [Dialogue.run, Run.trials] using hx)
  | note n k ih => exact ih () _ (by simpa [Dialogue.run, Run.trials] using hx)

end Dialogue

namespace Attempt

variable {ε α β γ : Type} {ok ok' : Trials α → β → Prop} {fail fail' : Trials α → ε → Prop}

/-- One condition for an answer and one for an error. -/
def either (ok : Trials α → β → Prop) (fail : Trials α → ε → Prop) (h : Trials α) :
    Except ε β → Prop
  | .ok b => ok h b
  | .error e => fail h e

/-- Whatever is answered, the attempt made after the trials `h` ends with an answer in
`ok` or with an error in `fail`. -/
def Ensures (ok : Trials α → β → Prop) (fail : Trials α → ε → Prop) (a : Attempt ε α β)
    (h : Trials α) : Prop :=
  Dialogue.Ensures (either ok fail) a.run h

theorem Ensures.mono {a : Attempt ε α β} {h : Trials α} (ha : a.Ensures ok fail h)
    (hok : ∀ h b, ok h b → ok' h b) (hfail : ∀ h e, fail h e → fail' h e) :
    a.Ensures ok' fail' h := by
  refine Dialogue.Ensures.mono ha fun h r hr => ?_
  cases r with
  | ok b => exact hok h b hr
  | error e => exact hfail h e hr

theorem Ensures.run {σ : Type} {a : Attempt ε α β} (ha : a.Ensures ok fail []) (t : Tester σ α)
    (s : σ) : either ok fail (Dialogue.run t a.run s).trials (Dialogue.run t a.run s).answer := by
  simpa using Dialogue.Ensures.run ha t s

theorem Ensures.trials {σ : Type} {P : Trials α → Prop} {a : Attempt ε α β}
    (ha : a.Ensures (fun h _ => P h) (fun h _ => P h) []) (t : Tester σ α) (s : σ) :
    P (Dialogue.run t a.run s).trials := by
  have h := ha.run t s
  cases hr : (Dialogue.run t a.run s).answer <;> rw [hr] at h <;> exact h

@[simp] theorem ensures_pure (b : β) (h : Trials α) :
    Ensures ok fail (pure b : Attempt ε α β) h ↔ ok h b := Iff.rfl

theorem ensures_lift (r : Except ε β) (h : Trials α) :
    Ensures ok fail (liftM r : Attempt ε α β) h ↔ either ok fail h r := Iff.rfl

/-- What a sequence owes after its first part; an error ends it. -/
theorem ensures_bind {ok : Trials α → γ → Prop} (a : Attempt ε α β) (f : β → Attempt ε α γ)
    (h : Trials α) :
    Ensures ok fail (a >>= f) h ↔ a.Ensures (fun h b => (f b).Ensures ok fail h) fail h := by
  refine (Dialogue.ensures_bind a.run _ h).trans ⟨fun ha => ?_, fun ha => ?_⟩ <;>
    refine Dialogue.Ensures.mono ha fun h r hr => ?_ <;> cases r <;> exact hr

/-- The trials of a sequence are those of its first part and then some of the second, if
that is reached. -/
theorem trials_bind {σ : Type} (t : Tester σ α) (a : Attempt ε α β) (f : β → Attempt ε α γ)
    (s : σ) {P : Trials α → Prop} (hnil : P [])
    (hf : ∀ b, (f b).Ensures (fun h _ => P h) (fun h _ => P h) []) :
    ∃ later, (Dialogue.run t (a >>= f).run s).trials = (Dialogue.run t a.run s).trials ++ later ∧
      P later := by
  have hrun := Dialogue.run_bind t a.run (ExceptT.bindCont f) s
  refine ⟨(Dialogue.run t (ExceptT.bindCont f (Dialogue.run t a.run s).answer)
    (Dialogue.run t a.run s).state).trials, ?_, ?_⟩
  · exact (congrArg Run.trials hrun).trans (List.filterMap_append ..)
  · cases (Dialogue.run t a.run s).answer with
    | error e => exact hnil
    | ok b => exact (hf b).trials t _

@[simp] theorem ensures_note {ok : Trials α → Unit → Prop} (n : Note) (h : Trials α) :
    Ensures ok fail (note n) h ↔ ok h () := Iff.rfl

@[simp] theorem ensures_ask {ok : Trials α → Verdict → Prop} (c : Cut α) (h : Trials α) :
    Ensures ok fail (ask c) h ↔ ∀ v, ok (h ++ [(c, v)]) v := Iff.rfl

theorem ensures_check {ok : Trials α → Unit → Prop} {cancellable : Bool} {e : ε} {h : Trials α}
    (hok : ok h ()) (hfail : fail h e) : Ensures ok fail (check cancellable e) h := by
  cases cancellable with
  | false => exact hok
  | true =>
    intro fired
    cases fired with
    | false => exact hok
    | true => exact hfail

/-- A trial adds one entry, whatever its verdict; a fired token ends it on either side. -/
theorem ensures_trial {ok : Trials α → Verdict → Prop} {fail : Trials α → AlgorithmError → Prop}
    {cancellable : Bool} {c : Cut α} {h : Trials α} (hbefore : fail h .cancelled)
    (hafter : ∀ v, fail (h ++ [(c, v)]) .cancelled) (hok : ∀ v, ok (h ++ [(c, v)]) v) :
    Ensures ok fail (trial cancellable c) h := by
  unfold trial
  rw [ensures_bind]
  refine ensures_check ?_ hbefore
  rw [ensures_bind, ensures_ask]
  intro v
  rw [ensures_bind]
  exact ensures_check (hok v) (hafter v)

end Attempt

end DeltaDebugging
