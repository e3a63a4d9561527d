import DeltaDebugging.Proofs.Dialogue

/-!
# Runs of dialogues against a tester

A dialogue led about other cuts runs like the dialogue itself against a tester that is
shown those cuts. What every question and every answer satisfies, whatever the tester says,
is a condition on the tree alone.
-/
namespace DeltaDebugging

variable {σ α β γ δ : Type}

/-- The tester of the cuts that stand for others. -/
def Tester.comap (f : Cut α → Cut δ) (t : Tester σ δ) : Tester σ α where
  test c := t.test (f c)
  emptyLevel := t.emptyLevel
  cancelled := t.cancelled

namespace Dialogue

theorem run_seq (t : Tester σ α) (d : Dialogue α β) (f : β → Dialogue α γ) (s : σ) :
    (d >>= f).run t s =
      let r := d.run t s
      let r' := (f r.answer).run t r.state
      ⟨r'.answer, r'.state, r.steps ++ r'.steps⟩ :=
  run_bind t d f s

@[simp] theorem run_pure (t : Tester σ α) (b : β) (s : σ) :
    (pure b : Dialogue α β).run t s = ⟨b, s, []⟩ := rfl

theorem trials_congr {τ : Type} {r : Run σ α β} {r' : Run τ α γ} (h : r.steps = r'.steps) :
    r.trials = r'.trials :=
  congrArg (List.filterMap _) h

@[simp] theorem trials_done (b : β) (s : σ) : (⟨b, s, []⟩ : Run σ α β).trials = [] := rfl

theorem trials_ask (t : Tester σ α) (c : Cut α) (k : Verdict → Dialogue α β) (s : σ) :
    ((ask c k).run t s).trials =
      (c, (t.test c s).1) :: ((k (t.test c s).1).run t (t.test c s).2).trials := rfl

theorem trials_seq (t : Tester σ α) (d : Dialogue α β) (f : β → Dialogue α γ) (s : σ) :
    ((d >>= f).run t s).trials =
      (d.run t s).trials ++ ((f (d.run t s).answer).run t (d.run t s).state).trials := by
  rw [run_seq]
  exact List.filterMap_append ..

theorem run_mapCut (t : Tester σ δ) (f : Cut α → Cut δ) (d : Dialogue α β) (s : σ) :
    ((d.mapCut f).run t s).answer = (d.run (t.comap f) s).answer ∧
      ((d.mapCut f).run t s).state = (d.run (t.comap f) s).state := by
  induction d generalizing s with
  | done b => exact ⟨rfl, rfl⟩
  | ask c k ih => exact ih _ _
  | poll k ih => exact ih _ _
  | emptyLevel k ih => exact ih () _
  | note n k ih => exact ih () _

theorem trials_mapCut (t : Tester σ δ) (f : Cut α → Cut δ) (d : Dialogue α β) (s : σ) :
    ((d.mapCut f).run t s).trials = (d.run (t.comap f) s).trials.map (Prod.map f id) := by
  induction d generalizing s with
  | done b => rfl
  | ask c k ih =>
    have hk := ih (t.test (f c) s).1 (t.test (f c) s).2
    simpa [mapCut, Dialogue.run, Run.trials, Tester.comap] using hk
  | poll k ih => exact ih _ _
  | emptyLevel k ih => simpa [mapCut, Dialogue.run, Run.trials, Tester.comap] using ih () _
  | note n k ih => simpa [mapCut, Dialogue.run, Run.trials] using ih () s

/-- Every question is about a cut in `P`, and every answer is in `Q`. -/
def Asks (P : Cut α → Prop) (Q : β → Prop) : Dialogue α β → Prop
  | done b => Q b
  | ask c k => P c ∧ ∀ v, (k v).Asks P Q
  | poll k => ∀ fired, (k fired).Asks P Q
  | emptyLevel k => (k ()).Asks P Q
  | note _ k => (k ()).Asks P Q

namespace Asks

variable {P : Cut α → Prop} {Q : β → Prop} {d : Dialogue α β}

theorem bind {R : γ → Prop} {f : β → Dialogue α γ} (hd : d.Asks P Q)
    (hf : ∀ b, Q b → (f b).Asks P R) : (d.bind f).Asks P R := by
  induction d with
  | done b => exact hf b hd
  | ask c k ih => exact ⟨hd.1, fun v => ih v (hd.2 v)⟩
  | poll k ih => exact fun fired => ih fired (hd fired)
  | emptyLevel k ih => exact ih () hd
  | note n k ih => exact ih () hd

theorem mono {P' : Cut α → Prop} {Q' : β → Prop} (hd : d.Asks P Q) (hP : ∀ c, P c → P' c)
    (hQ : ∀ b, Q b → Q' b) : d.Asks P' Q' := by
  induction d with
  | done b => exact hQ b hd
  | ask c k ih => exact ⟨hP c hd.1, fun v => ih v (hd.2 v)⟩
  | poll k ih => exact fun fired => ih fired (hd fired)
  | emptyLevel k ih => exact ih () hd
  | note n k ih => exact ih () hd

theorem mapCut {P : Cut δ → Prop} {f : Cut α → Cut δ} (hd : d.Asks (fun c => P (f c)) Q) :
    (d.mapCut f).Asks P Q := by
  induction d with
  | done b => exact hd
  | ask c k ih => exact ⟨hd.1, fun v => ih v (hd.2 v)⟩
  | poll k ih => exact fun fired => ih fired (hd fired)
  | emptyLevel k ih => exact ih () hd
  | note n k ih => exact ih () hd

theorem of_forall (hP : ∀ c, P c) (hQ : ∀ b, Q b) (d : Dialogue α β) : d.Asks P Q := by
  induction d with
  | done b => exact hQ b
  | ask c k ih => exact ⟨hP c, ih⟩
  | poll k ih => exact ih
  | emptyLevel k ih => exact ih ()
  | note n k ih => exact ih ()

theorem answer (hd : d.Asks P Q) (t : Tester σ α) (s : σ) : Q (d.run t s).answer := by
  induction d generalizing s with
  | done b => exact hd
  | ask c k ih => exact ih _ (hd.2 _) _
  | poll k ih => exact ih _ (hd _) _
  | emptyLevel k ih => exact ih () hd _
  | note n k ih => exact ih () hd _

/-- What every trial of a cut in `P` keeps of the tester's state is kept by the whole run, and
so is what every trial shows. -/
theorem run_keeps {t : Tester σ α} {J : σ → Prop} {R : Cut α × Verdict → Prop} (hd : d.Asks P Q)
    (htest : ∀ c s, P c → J s → R (c, (t.test c s).1) ∧ J (t.test c s).2)
    (hempty : ∀ s, J s → J (t.emptyLevel s)) {s : σ} (hs : J s) :
    (∀ x ∈ (d.run t s).trials, R x) ∧ J (d.run t s).state := by
  induction d generalizing s with
  | done b => exact ⟨by simp [Dialogue.run, Run.trials], hs⟩
  | ask c k ih =>
    obtain ⟨hshown, hkept⟩ := htest c s hd.1 hs
    obtain ⟨htrials, hstate⟩ := ih _ (hd.2 _) hkept
    exact ⟨List.forall_mem_cons.mpr ⟨hshown, htrials⟩, hstate⟩
  | poll k ih => exact ih _ (hd _) hs
  | emptyLevel k ih => exact ih () hd (hempty s hs)
  | note n k ih => exact ih () hd hs

theorem trials (hd : d.Asks P Q) (t : Tester σ α) (s : σ) :
    ∀ x ∈ (d.run t s).trials, P x.1 :=
  (hd.run_keeps (J := fun _ => True) (fun _ _ hc _ => ⟨hc, trivial⟩) (fun _ _ => trivial) trivial).1

end Asks

/-- Conditions that all trials and the answer satisfy in the end are ones on every question and
on every answer. -/
theorem Ensures.asks {post : Trials α → β → Prop} {P : Cut α → Prop} {Q : β → Prop}
    {d : Dialogue α β} {h : Trials α} (hd : d.Ensures post h)
    (hpost : ∀ h b, post h b → (∀ x ∈ h, P x.1) ∧ Q b) : d.Asks P Q := by
  induction d generalizing h with
  | done b => exact (hpost h b hd).2
  | ask c k ih =>
    refine ⟨?_, fun v => ih v (hd v)⟩
    -- However the questions are answered, the trial is among those in the end.
    have hend := (hd .lost).run (.ofFunction fun _ => .lost) ()
    exact (hpost _ _ hend).1 (c, .lost) (by simp)
  | poll k ih => exact fun fired => ih fired (hd fired)
  | emptyLevel k ih => exact ih () hd
  | note n k ih => exact ih () hd

section Equations

theorem seq_eq_bind (d : Dialogue α β) (f : β → Dialogue α γ) : d >>= f = d.bind f := rfl

theorem mapCut_bind (f : Cut α → Cut δ) (d : Dialogue α β) (k : β → Dialogue α γ) :
    (d.bind k).mapCut f = (d.mapCut f).bind fun b => (k b).mapCut f := by
  induction d with
  | done b => rfl
  | ask c k ih => simp [bind, mapCut, ih]
  | poll k ih => simp [bind, mapCut, ih]
  | emptyLevel k ih => simp [bind, mapCut, ih]
  | note n k ih => simp [bind, mapCut, ih]

variable {P : Cut α → Prop} {Q : β → Prop} {d : Dialogue α β}

theorem Asks.mapCut_mapCut {ζ : Type} {f : Cut α → Cut δ} {f' : Cut δ → Cut ζ}
    {f'' : Cut α → Cut ζ} (hd : d.Asks P Q) (hf : ∀ c, P c → f' (f c) = f'' c) :
    (d.mapCut f).mapCut f' = d.mapCut f'' := by
  induction d with
  | done b => rfl
  | ask c k ih =>
    have hk : (fun v => ((k v).mapCut f).mapCut f') = fun v => (k v).mapCut f'' :=
      funext fun v => ih v (hd.2 v)
    simp only [Dialogue.mapCut, hf c hd.1, hk]
  | poll k ih => simp only [Dialogue.mapCut, ih _ (hd _)]
  | emptyLevel k ih => simp only [Dialogue.mapCut, ih _ hd]
  | note n k ih => simp only [Dialogue.mapCut, ih _ hd]

/-- Only the answers that are possible matter for what follows. -/
theorem Asks.bind_congr {f f' : β → Dialogue α γ} (hd : d.Asks P Q)
    (hf : ∀ b, Q b → f b = f' b) : d.bind f = d.bind f' := by
  induction d with
  | done b => exact hf b hd
  | ask c k ih => simp only [Dialogue.bind, ih _ (hd.2 _)]
  | poll k ih => simp only [Dialogue.bind, ih _ (hd _)]
  | emptyLevel k ih => simp only [Dialogue.bind, ih _ hd]
  | note n k ih => simp only [Dialogue.bind, ih _ hd]

end Equations

end Dialogue

namespace Attempt

variable {ε : Type}

theorem asks_bind {P : Cut α → Prop} {a : Attempt ε α β} {f : β → Attempt ε α γ}
    (ha : Dialogue.Asks P (fun _ => True) a.run)
    (hf : ∀ b, Dialogue.Asks P (fun _ => True) (f b).run) :
    Dialogue.Asks P (fun _ => True) (a >>= f).run := by
  refine Dialogue.Asks.bind ha fun r _ => ?_
  cases r with
  | error e => exact trivial
  | ok b => exact hf b

theorem asks_check {P : Cut α → Prop} (cancellable : Bool) (e : ε) :
    Dialogue.Asks P (fun _ => True) (check cancellable e).run := by
  cases cancellable with
  | false => exact trivial
  | true => exact fun _ => trivial

/-- A sequence that ends with an answer has one for its first part, and its run is then that
of the second part from the state reached. -/
theorem run_bind_ok {t : Tester σ α} {a : Attempt ε α β} {f : β → Attempt ε α γ} {s : σ} {c : γ}
    (h : (Dialogue.run t (a >>= f).run s).answer = .ok c) :
    ∃ b, (Dialogue.run t a.run s).answer = .ok b ∧
      (Dialogue.run t (f b).run (Dialogue.run t a.run s).state).answer = .ok c ∧
      (Dialogue.run t (a >>= f).run s).state =
        (Dialogue.run t (f b).run (Dialogue.run t a.run s).state).state ∧
      (Dialogue.run t (a >>= f).run s).trials = (Dialogue.run t a.run s).trials ++
        (Dialogue.run t (f b).run (Dialogue.run t a.run s).state).trials := by
  have hrun : Dialogue.run t (a >>= f).run s = _ := Dialogue.run_bind t a.run (ExceptT.bindCont f) s
  rw [hrun] at h ⊢
  dsimp only at h ⊢
  cases hb : (Dialogue.run t a.run s).answer with
  | error e =>
    rw [hb] at h
    cases h
  | ok b =>
    rw [hb] at h
    exact ⟨b, rfl, h, rfl, List.filterMap_append ..⟩

/-- A sequence that ends with an error has it from its first part or from its second. -/
theorem run_bind_error {t : Tester σ α} {a : Attempt ε α β} {f : β → Attempt ε α γ} {s : σ} {e : ε}
    (h : (Dialogue.run t (a >>= f).run s).answer = .error e) :
    (Dialogue.run t a.run s).answer = .error e ∨
      ∃ b, (Dialogue.run t a.run s).answer = .ok b ∧
        (Dialogue.run t (f b).run (Dialogue.run t a.run s).state).answer = .error e := by
  have hrun : Dialogue.run t (a >>= f).run s = _ := Dialogue.run_bind t a.run (ExceptT.bindCont f) s
  rw [hrun] at h
  dsimp only at h
  cases hb : (Dialogue.run t a.run s).answer with
  | error e' =>
    rw [hb] at h
    obtain rfl : e' = e := Except.error.inj h
    exact Or.inl rfl
  | ok b =>
    rw [hb] at h
    exact Or.inr ⟨b, rfl, h⟩

/-- A look at the token makes no step, and passes unless the token has fired. -/
theorem run_check_pure (t : Tester σ α) (cancellable : Bool) (e : ε) (b : β) (s : σ) :
    let r := Dialogue.run t (do check cancellable e; return b : Attempt ε α β).run s
    r.state = s ∧ r.steps = [] ∧
      ((cancellable = true → t.cancelled s = false) → r.answer = .ok b) := by
  cases cancellable with
  | false => exact ⟨rfl, rfl, fun _ => rfl⟩
  | true =>
    have hpoll : Dialogue.run t (do check true e; return b : Attempt ε α β).run s =
        Dialogue.run t ((Dialogue.done (if t.cancelled s = true then .error e else .ok ())).bind
          (ExceptT.bindCont fun _ => pure b)) s := rfl
    dsimp only
    rw [hpoll]
    cases hfired : t.cancelled s with
    | false => exact ⟨rfl, rfl, fun _ => rfl⟩
    | true => exact ⟨rfl, rfl, fun h => by cases h rfl⟩

/-- A look at the token in the end adds no step and changes no state, nor the answer unless the
token has fired. -/
theorem run_check (t : Tester σ α) (a : Attempt ε α β) (cancellable : Bool) (e : ε) (s : σ) :
    let r := Dialogue.run t (do let b ← a; check cancellable e; return b : Attempt ε α β).run s
    let r' := Dialogue.run t a.run s
    r.state = r'.state ∧ r.steps = r'.steps ∧
      ((cancellable = true → t.cancelled r'.state = false) → r.answer = r'.answer) := by
  have hrun : Dialogue.run t (do let b ← a; check cancellable e; return b : Attempt ε α β).run s =
      _ := Dialogue.run_bind t a.run (ExceptT.bindCont _) s
  dsimp only
  rw [hrun]
  dsimp only
  cases (Dialogue.run t a.run s).answer with
  | error e => exact ⟨rfl, List.append_nil _, fun _ => rfl⟩
  | ok b =>
    obtain ⟨hstate, hsteps, hanswer⟩ :=
      run_check_pure t cancellable e b (Dialogue.run t a.run s).state
    exact ⟨hstate, List.append_right_eq_self.mpr hsteps, hanswer⟩

/-- An attempt that ends well in spite of a look at the token ends so without it. -/
theorem run_check_ok {t : Tester σ α} {a : Attempt ε α β} {cancellable : Bool} {e : ε} {s : σ}
    {b : β}
    (h : (Dialogue.run t (do let b ← a; check cancellable e; return b : Attempt ε α β).run s).answer
      = .ok b) :
    (Dialogue.run t a.run s).answer = .ok b := by
  obtain ⟨b', hanswer, hcheck, -, -⟩ := run_bind_ok h
  obtain ⟨-, -, hpure, -, -⟩ := run_bind_ok hcheck
  have heq : (Except.ok b' : Except ε β) = .ok b := hpure
  exact hanswer.trans heq

/-- An attempt that fails before a look at the token or at it. -/
theorem run_check_error {t : Tester σ α} {a : Attempt ε α β} {cancellable : Bool} {e e' : ε} {s : σ}
    (h : (Dialogue.run t (do let b ← a; check cancellable e; return b : Attempt ε α β).run s).answer
      = .error e') :
    (Dialogue.run t a.run s).answer = .error e' ∨ e' = e := by
  refine (run_bind_error h).imp_right fun ⟨b, _, hcheck⟩ => ?_
  have hend : (do check cancellable e; return b : Attempt ε α β).Ensures (fun _ _ => True)
      (fun _ e' => e' = e) [] := by
    rw [ensures_bind]
    exact ensures_check trivial rfl
  have hrun := hend.run t (Dialogue.run t a.run s).state
  rwa [hcheck] at hrun

end Attempt

end DeltaDebugging
