import DeltaDebugging.Algorithm.Ddmin
import DeltaDebugging.Hierarchy.Tree
import DeltaDebugging.Proofs.Snapshot.Transaction
import DeltaDebugging.Proofs.Tester
import DeltaDebugging.Snapshot.SameFailure

/-!
# The committed context

A trial commits the context that its lens left and that its oracle then found to fail as
the untouched one did. Every other trial, however it ends, leaves the committed context
alone, and nothing but trials ever changes it. So after any calls the context is the one of
the start, or the one that the last trial which held was about.
-/
namespace DeltaDebugging.SameFailure

variable {χ κ τ ι ς : Type} {f : SameFailure χ τ ι ς} {interrupted : τ → Bool}
  {deleted : List ι} {x w : χ} {t t' : τ}

/-- A deletion from the context `x` amid `t` left `w`, and there the oracle reported a failure
that was found equal to the initial one. -/
def Verified (f : SameFailure χ τ ι ς) (compare : ς → ς → Activity τ Bool)
    (tell : Hook χ ι ς → Activity τ Unit) (interrupted : τ → Bool) (deleted : List ι) (x : χ)
    (t : τ) (w : χ) : Prop :=
  ∃ t₁ t₂ t₃ t₄ t₅ current,
    (tell (.beforeFocus x deleted)).run interrupted t = (.done (), t₁) ∧
    (f.lens deleted).run (fun s => interrupted s.2) (x, t₁) = (.done (.ok ()), w, t₂) ∧
    (tell (.focused w)).run interrupted t₂ = (.done (), t₃) ∧
    (f.oracle w).run interrupted t₃ = (.done (.failed current), t₄) ∧
    (tell (.failed w current)).run interrupted t₄ = (.done (), t₅) ∧
    ((compare f.initial current).run interrupted t₅).1 = .done true

section Trial

variable {compare : ς → ς → Activity τ Bool} {tell : Hook χ ι ς → Activity τ Unit}

theorem announce_seq_done {γ : Type} {h : χ → Hook χ ι ς} {k : Unit → Activity (χ × τ) γ} {c : γ}
    {s : χ × τ}
    (hrun : (announce tell h >>= k).run (fun s => interrupted s.2) (x, t) = (.done c, s)) :
    ∃ t₁, (tell (h x)).run interrupted t = (.done (), t₁) ∧
      (k ()).run (fun s => interrupted s.2) (x, t₁) = (.done c, s) := by
  obtain ⟨_, t₁, htell, hk⟩ := Activity.run_onSecond_seq_done hrun
  exact ⟨t₁, htell, hk⟩

/-- With its items deleted, a trial declines or commits the context as it is, and it commits only
what was found to fail as the untouched context did. -/
theorem examine_done {r : Except (Refusal Verdict) Unit} {s : χ × τ}
    (h : (f.examine compare tell).run (fun s => interrupted s.2) (w, t) = (.done r, s)) :
    (∃ v, r = .error (.abort v) ∧ v ≠ .holds) ∨
    (r = .ok () ∧ s.1 = w ∧ ∃ t₁ t₂ t₃ current,
      (tell (.focused w)).run interrupted t = (.done (), t₁) ∧
      (f.oracle w).run interrupted t₁ = (.done (.failed current), t₂) ∧
      (tell (.failed w current)).run interrupted t₂ = (.done (), t₃) ∧
      ((compare f.initial current).run interrupted t₃).1 = .done true) := by
  unfold examine at h
  obtain ⟨t₁, hfocused, h⟩ := announce_seq_done h
  obtain ⟨check, t₂, hcheck, h⟩ := Activity.run_onSecond_seq_done h
  cases check with
  | passed =>
    obtain ⟨_, -, h⟩ := announce_seq_done h
    cases h
    exact Or.inl ⟨.lost, rfl, by decide⟩
  | undecided message =>
    cases h
    exact Or.inl ⟨.unknown, rfl, by decide⟩
  | failed current =>
    obtain ⟨t₃, hfailed, h⟩ := announce_seq_done h
    obtain ⟨equal, t₄, hcompare, h⟩ := Activity.run_onSecond_seq_done h
    obtain ⟨_, -, h⟩ := announce_seq_done h
    cases equal with
    | false =>
      cases h
      exact Or.inl ⟨.lost, rfl, by decide⟩
    | true =>
      cases h
      exact Or.inr ⟨rfl, rfl, t₁, t₂, t₃, current, hfocused, hcheck, hfailed,
        congrArg Prod.fst hcompare⟩

/-- The ways in which a trial comes to an end: the lens refuses, it declines because the failure
is lost or was not decided, or it commits what it verified. -/
theorem trialWith_done (interrupted : τ → Bool) {r : Except (Refusal Verdict) Unit} {s : χ × τ}
    (h : (f.trialWith compare tell deleted).run (fun s => interrupted s.2) (x, t) =
      (.done r, s)) :
    (∃ cause, r = .error (.fault cause)) ∨ (∃ v, r = .error (.abort v) ∧ v ≠ .holds) ∨
    (r = .ok () ∧ f.Verified compare tell interrupted deleted x t s.1) := by
  unfold trialWith at h
  obtain ⟨t₁, hbefore, h⟩ := announce_seq_done h
  obtain ⟨focused, ⟨w, t₂⟩, hlens, h⟩ := Activity.run_seq_done h
  cases focused with
  | error cause =>
    cases h
    exact Or.inl ⟨cause, rfl⟩
  | ok _ =>
    rcases examine_done h with habort | ⟨hr, rfl, t₃, t₄, t₅, current, hrest⟩
    · exact Or.inr (Or.inl habort)
    · exact Or.inr (Or.inr ⟨hr, t₁, t₂, t₃, t₄, t₅, current, hbefore, hlens, hrest⟩)

theorem keepsContext_announce (tell : Hook χ ι ς → Activity τ Unit) (h : χ → Hook χ ι ς) :
    (announce tell h).KeepsContext interrupted :=
  Activity.keepsContext_get.seq fun _ => Activity.keepsContext_onSecond _

theorem keepsContext_examine (f : SameFailure χ τ ι ς) (compare : ς → ς → Activity τ Bool)
    (tell : Hook χ ι ς → Activity τ Unit) :
    (f.examine compare tell).KeepsContext interrupted := by
  unfold examine
  refine (keepsContext_announce tell _).seq fun _ => Activity.keepsContext_get.seq fun s =>
    (Activity.keepsContext_onSecond _).seq fun check => ?_
  cases check with
  | passed => exact (keepsContext_announce tell _).seq fun _ => Activity.keepsContext_pure _
  | undecided message => exact Activity.keepsContext_pure _
  | failed current =>
    exact (keepsContext_announce tell _).seq fun _ =>
      (Activity.keepsContext_onSecond _).seq fun equal =>
        (keepsContext_announce tell _).seq fun _ => Activity.keepsContext_pure _

/-- Wherever a trial breaks off, only the lens has changed the context. -/
theorem leaves_of_run_trialWith (f : SameFailure χ τ ι ς) (compare : ς → ς → Activity τ Bool)
    (tell : Hook χ ι ς → Activity τ Unit) (interrupted : τ → Bool) (deleted : List ι) (x : χ)
    (t : τ) :
    ((f.trialWith compare tell deleted).run (fun s => interrupted s.2) (x, t)).2.1 = x ∨
      f.lens.Leaves x
        ((f.trialWith compare tell deleted).run (fun s => interrupted s.2) (x, t)).2.1 := by
  unfold trialWith
  rcases (keepsContext_announce tell (.beforeFocus · deleted)).run_seq_cases with
    hcontext | ⟨_, t₁, hrun⟩
  · exact Or.inl hcontext
  · right
    rw [hrun]
    refine ⟨deleted, t₁, fun s => interrupted s.2, (Activity.context_seq ?_ (x, t₁)).symm⟩
    intro focused
    cases focused with
    | error cause => exact Activity.keepsContext_pure _
    | ok _ => exact f.keepsContext_examine compare tell

end Trial

section Test

variable {compare : ς → ς → Activity τ Bool} {tell : Hook χ ι ς → Activity τ Unit}
  {strategy : Strategy χ κ} {attached : Bool} {cancelled : τ → Bool} {c : Cut ι}
  {p : Project χ τ}

theorem testerWith_test (f : SameFailure χ τ ι ς) (compare : ς → ς → Activity τ Bool)
    (tell : Hook χ ι ς → Activity τ Unit) (strategy : Strategy χ κ) (attached : Bool)
    (cancelled : τ → Bool) (c : Cut ι) (p : Project χ τ) :
    (f.testerWith compare tell strategy attached cancelled).test c p =
      let r := p.manager.transaction strategy (fun t => attached && cancelled t)
        (f.trialWith compare tell c.deleted) p.surroundings
      ((judge r.1).1, ⟨r.2.1, r.2.2, p.faults + (judge r.1).2⟩) := rfl

theorem test_holds
    (h : ((f.testerWith compare tell strategy attached cancelled).test c p).1 = .holds) :
    let p' := ((f.testerWith compare tell strategy attached cancelled).test c p).2
    f.Verified compare tell (fun t => attached && cancelled t) c.deleted p.manager.context
      p.surroundings p'.manager.context ∧ p'.manager.commits = p.manager.commits + 1 := by
  simp only [testerWith_test] at h ⊢
  cases htransaction : p.manager.transaction strategy (fun t => attached && cancelled t)
    (f.trialWith compare tell c.deleted) p.surroundings with
  | mk result ended =>
    obtain ⟨manager, surroundings⟩ := ended
    rw [htransaction] at h
    dsimp only at h ⊢
    rcases result with e | _
    · cases e with
      | aborted v =>
        obtain ⟨s, hrun⟩ := Manager.transaction_aborted htransaction
        rcases trialWith_done (fun t => attached && cancelled t) hrun with
          ⟨_, hr⟩ | ⟨v', hr, hv⟩ | ⟨hr, -⟩
        · cases hr
        · cases hr
          exact absurd h hv
        · cases hr
      | _ => cases h
    · obtain ⟨hrun, hcommits⟩ := Manager.transaction_ok htransaction
      rcases trialWith_done (fun t => attached && cancelled t) hrun with
        ⟨_, hr⟩ | ⟨_, hr, -⟩ | ⟨-, hverified⟩
      · cases hr
      · cases hr
      · exact ⟨hverified, hcommits⟩

theorem undoes_trialWith (hrestores : strategy.Restores f.lens) (interrupted : τ → Bool)
    (deleted : List ι) :
    strategy.Undoes x
      ((f.trialWith compare tell deleted).run (fun s => interrupted s.2) (x, t)).2.1 := by
  obtain ⟨hstart, hlens⟩ := hrestores x
  rcases leaves_of_run_trialWith f compare tell interrupted deleted x t with h | h
  · rw [h]
    exact hstart
  · exact hlens _ h

/-- A trial that does not hold, whatever came in its way, leaves the context as it was. -/
theorem test_refused (hrestores : strategy.Restores f.lens)
    (h : ((f.testerWith compare tell strategy attached cancelled).test c p).1 ≠ .holds) :
    let p' := ((f.testerWith compare tell strategy attached cancelled).test c p).2
    p'.manager.context = p.manager.context ∧ p'.manager.commits = p.manager.commits := by
  simp only [testerWith_test] at h ⊢
  cases htransaction : p.manager.transaction strategy (fun t => attached && cancelled t)
    (f.trialWith compare tell c.deleted) p.surroundings with
  | mk result ended =>
    obtain ⟨manager, surroundings⟩ := ended
    rw [htransaction] at h
    dsimp only at h ⊢
    rcases result with e | _
    · exact Manager.transaction_error (hrestores p.manager.context).1
        (undoes_trialWith hrestores (fun t => attached && cancelled t) c.deleted) htransaction
    · exact absurd rfl h

end Test

section Run

variable {compare : ς → ς → Activity τ Bool} {tell : Hook χ ι ς → Activity τ Unit}
  {strategy : Strategy χ κ} {attached : Bool} {cancelled : τ → Bool}
  {start p : Project χ τ} {calls : List (Call ι)}

/-- After the calls, latest first, the context is that of the start if none of them held, and
otherwise the one that the last one which held was verified on. -/
def Committed (f : SameFailure χ τ ι ς) (compare : ς → ς → Activity τ Bool)
    (tell : Hook χ ι ς → Activity τ Unit) (strategy : Strategy χ κ) (attached : Bool)
    (cancelled : τ → Bool) (start : Project χ τ) (calls : List (Call ι)) (w : χ) : Prop :=
  ((∀ call ∈ calls, call.isHeld = false) ∧ w = start.manager.context) ∨
  ∃ later c earlier p, calls = later ++ .trial c .holds :: earlier ∧
    (∀ call ∈ later, call.isHeld = false) ∧
    (f.testerWith compare tell strategy attached cancelled).Reaches start earlier p ∧
    f.Verified compare tell (fun t => attached && cancelled t) c.deleted p.manager.context
      p.surroundings w

theorem Committed.cons {call : Call ι}
    (h : f.Committed compare tell strategy attached cancelled start calls w)
    (hcall : call.isHeld = false) :
    f.Committed compare tell strategy attached cancelled start (call :: calls) w := by
  rcases h with ⟨hnone, hw⟩ | ⟨later, c, earlier, p, rfl, hlater, hreaches, hverified⟩
  · exact Or.inl ⟨by simpa [hcall] using hnone, hw⟩
  · exact Or.inr ⟨call :: later, c, earlier, p, rfl, by simpa [hcall] using hlater, hreaches,
      hverified⟩

theorem committed_of_reaches (hrestores : strategy.Restores f.lens)
    (h : (f.testerWith compare tell strategy attached cancelled).Reaches start calls p) :
    f.Committed compare tell strategy attached cancelled start calls p.manager.context ∧
      p.manager.commits = start.manager.commits + calls.countP Call.isHeld := by
  induction h with
  | start => exact ⟨Or.inl ⟨by simp, rfl⟩, rfl⟩
  | @trial calls p c hp ih =>
    obtain ⟨hcommitted, hcommits⟩ := ih
    by_cases hv :
      ((f.testerWith compare tell strategy attached cancelled).test c p).1 = .holds
    · obtain ⟨hverified, hmore⟩ := test_holds hv
      rw [hv]
      refine ⟨Or.inr ⟨[], c, calls, p, rfl, by simp, hp, hverified⟩, ?_⟩
      rw [hmore, hcommits, List.countP_cons_of_pos (by rfl)]
      omega
    · obtain ⟨hcontext, hsame⟩ := test_refused hrestores hv
      have hcall : (Call.trial c
          ((f.testerWith compare tell strategy attached cancelled).test c p).1).isHeld =
          false := by simpa [Call.isHeld] using hv
      rw [hcontext, hsame, List.countP_cons_of_neg (by simp [hcall])]
      exact ⟨hcommitted.cons hcall, hcommits⟩
  | emptyLevel _ ih => exact ⟨ih.1.cons rfl, ih.2⟩

end Run

theorem create_ok {oracle : χ → Activity τ (Check ς)} {same : ς → ς → Bool} {lens : Lens χ τ ι}
    {listeners : List (Hook χ ι ς → τ → τ)}
    (h : (create oracle same lens listeners x).run interrupted t = (.done (.ok f), t')) :
    ∃ initial, (oracle x).run interrupted t = (.done (.failed initial), t') ∧
      f = { oracle, same, lens, initial, listeners } := by
  rw [create, Activity.run_seq] at h
  generalize (oracle x).run interrupted t = checking at h ⊢
  rcases checking with ⟨check | message | _, t⟩
  · cases check with
    | failed initial =>
      cases h
      exact ⟨initial, rfl, rfl⟩
    | passed => cases h
    | undecided message => cases h
  · cases h
  · cases h

/-- Whatever is asked of a tester that recorded the failure of the untouched context, the
context is the untouched one until a trial holds, and from then on the one on which the
oracle of the last trial that held reported a failure that the comparison found equal to the
recorded one. No other trial changes it, whether it failed, was not decided, was cancelled, or
broke down in the lens, the oracle, the comparison or a listener. This is so all through a
hierarchical run with any wrappers around the tester, and in its end. -/
theorem context_verified (oracle : χ → Activity τ (Check ς)) (same : ς → ς → Bool)
    (lens : Lens χ τ ι) (listeners : List (Hook χ ι ς → τ → τ)) (context : χ)
    (interrupted : τ → Bool) (t t' : τ) (f : SameFailure χ τ ι ς)
    (hcreate : (create oracle same lens listeners context).run interrupted t =
      (.done (.ok f), t'))
    (compare : ς → ς → Activity τ Bool) (tell : Hook χ ι ς → Activity τ Unit)
    (strategy : Strategy χ κ) (attached : Bool) (cancelled : τ → Bool)
    (hrestores : strategy.Restores lens) :
    let tester := f.testerWith compare tell strategy attached cancelled
    let start : Project χ τ := ⟨⟨context, 0, 0⟩, t', 0⟩
    (∃ initial, (oracle context).run interrupted t = (.done (.failed initial), t') ∧
      f = { oracle, same, lens, initial, listeners }) ∧
    (∀ calls p, tester.Reaches start calls p →
      f.Committed compare tell strategy attached cancelled start calls p.manager.context ∧
      p.manager.commits = calls.countP Call.isHeld ∧
      ∀ c, (tester.test c p).1 ≠ .holds →
        (tester.test c p).2.manager.context = p.manager.context) ∧
    ∀ (γ α ω : Type) [DecidableEq α] (a : Algorithm) (g : Generator γ α ι)
      (limits : HierarchyLimits) (s : γ) (outer : Tester ω ι) (inner : ω → Project χ τ) (w : ω),
      outer.Wraps tester inner → inner w = start →
      let run := Hierarchy.minimize a g limits s
      (∀ x ∈ run.history outer [] w, ∃ calls, calls.Sublist x.1 ∧
        tester.Reaches start calls (inner x.2) ∧
        f.Committed compare tell strategy attached cancelled start calls
          (inner x.2).manager.context) ∧
      ∃ x ∈ run.history outer [] w, x.2 = (run.run outer w).state := by
  intro tester start
  obtain ⟨initial, hinitial, rfl⟩ := create_ok hcreate
  refine ⟨⟨initial, hinitial, rfl⟩, fun calls p hp => ?_, ?_⟩
  · obtain ⟨hcommitted, hcommits⟩ := committed_of_reaches hrestores hp
    refine ⟨hcommitted, ?_, fun c hv => (test_refused hrestores hv).1⟩
    rw [hcommits]
    exact Nat.zero_add _
  · intro γ α ω _ a g limits s outer inner w hwraps hw run
    refine ⟨fun x hx => ?_, run.run_state_mem_history outer [] w⟩
    have hstart : tester.Reaches start [] (inner w) := by
      rw [hw]
      exact .start
    obtain ⟨calls, hsub, hreaches⟩ :=
      Dialogue.reaches_of_mem_history hwraps (List.Sublist.refl []) hstart hx
    exact ⟨calls, hsub, hreaches, (committed_of_reaches hrestores hreaches).1⟩

/-- Fails as long as there is a three; without the five the failure is another one. -/
def findsThree (numbers : List Nat) : Activity Unit (Check Nat) :=
  return if 3 ∈ numbers then .failed (if 5 ∈ numbers then 0 else 1) else .passed

/-- Knows no failure but the initial one. -/
def comparesOrPanics (initial current : Nat) : Activity Unit Bool :=
  if initial = current then return true else .panic "unknown failure"

/-- Panics when it is told that nothing failed. -/
def tellsOrPanics : Hook (List Nat) Nat Nat → Activity Unit Unit
  | .passed _ => .panic "no failure"
  | _ => return ()

def removeNumbers : Lens (List Nat) Unit Nat := fun deleted => do
  Activity.modify fun s => (s.1.filter fun n => decide (n ∉ deleted), s.2)
  return .ok ()

theorem context_verified_three :
    let f : SameFailure (List Nat) Unit Nat Nat := ⟨findsThree, (· == ·), removeNumbers, 0, []⟩
    let strategy : Strategy (List Nat) (List Nat) := .checkpoint .ok fun saved _ => saved
    let start : Project (List Nat) Unit := ⟨⟨[1, 3, 5], 0, 0⟩, (), 0⟩
    let tester := f.testerWith comparesOrPanics tellsOrPanics strategy true fun _ => false
    let run := Hierarchy.minimize (.ddmin {} true) (.tree [1, 3, 5] (fun _ => []) .retained) {} ()
    let ended := (run.run tester.cached.counted ⟨⟨start, .empty, 0⟩, 0⟩).state.inner.inner
    ended.manager.context = [3, 5] ∧ ended.faults = 3 ∧
    ∃ calls, f.Committed comparesOrPanics tellsOrPanics strategy true (fun _ => false) start calls
      [3, 5] := by
  intro f strategy start tester run ended
  have hcontext : ended.manager.context = [3, 5] := by rfl
  obtain ⟨-, -, hrun⟩ := context_verified findsThree (· == ·) removeNumbers [] [1, 3, 5]
    (fun _ => false) () () f rfl comparesOrPanics tellsOrPanics strategy true (fun _ => false)
    fun x => ⟨fun saved h => (Except.ok.inj h).symm, fun w _ saved h => (Except.ok.inj h).symm⟩
  obtain ⟨hcommitted, x, hx, hstate⟩ := hrun Unit Nat _ (.ddmin {} true)
    (.tree [1, 3, 5] (fun _ => []) .retained) {} () _ _ ⟨⟨start, .empty, 0⟩, 0⟩
    (.trans (.counted _) (.cached _)) rfl
  obtain ⟨calls, -, -, h⟩ := hcommitted x hx
  rw [hstate] at h
  exact ⟨hcontext, by rfl, calls, hcontext ▸ h⟩

end DeltaDebugging.SameFailure
