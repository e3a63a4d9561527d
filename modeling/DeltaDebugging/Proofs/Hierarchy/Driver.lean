import DeltaDebugging.Hierarchy.Driver
import DeltaDebugging.Proofs.Runs

/-!
# What a hierarchical run keeps

A condition on the generator that every result keeps holds whenever a level is minimized,
however the run ends. For a run that ends well it is enough to follow the levels: what one
completed level makes of an invariant is what the next one starts with, and what the last
one makes of it holds in the end.
-/
namespace DeltaDebugging.Hierarchy

variable {σ α β γ : Type} {a : Algorithm} {level : Level α}

section Asks

variable {P : Cut β → Prop} {own : Cut α → Prop} {present : Cut α → Cut β}

theorem minimizeLevel_asks (ha : (a.minimize level.items).run.Asks own fun _ => True)
    (hpresent : ∀ c, own c → P (present c)) :
    (minimizeLevel a present level).run.Asks P fun _ => True := by
  unfold minimizeLevel
  have hend : ∀ result : Outcome α, (do
      Attempt.check a.cancellable .cancelled
      return result : Attempt AlgorithmError β (Outcome α)).run.Asks P fun _ => True := fun _ =>
    Attempt.asks_bind (Attempt.asks_check _ _) fun _ => trivial
  split
  · exact hend _
  · exact Attempt.asks_bind (.mapCut (ha.mono hpresent fun _ => id)) hend

variable [DecidableEq α] {g : Generator γ α β} {limits : HierarchyLimits} {Inv : γ → Prop}

theorem descend_asks (hpresent : ∀ s, Inv s → ∀ c, P (g.present s c))
    (hnext : ∀ s o, Inv s → Inv (g.next o s).2) {remaining : Nat} {s : γ} {report : Report}
    (hs : Inv s) :
    (descend a g limits remaining s level report).Asks P fun e => Inv e.generator := by
  induction remaining generalizing s level report with
  | zero => exact hs
  | succ remaining ih =>
    unfold descend
    have hlevel : (minimizeLevel a (g.present s) level).run.Asks P fun _ => True :=
      minimizeLevel_asks (.of_forall (fun _ => trivial) (fun _ => trivial) _)
        fun c (_ : True) => hpresent s hs c
    refine Dialogue.Asks.bind hlevel fun r _ => ?_
    cases r with
    | error e => exact hs
    | ok result =>
      have hs' := hnext s result hs
      dsimp only
      split
      · next s' heq =>
        rw [heq] at hs'
        exact hs'
      · next next s' heq =>
        rw [heq] at hs'
        split
        · exact hs'
        · exact ih hs'

/-- The cuts of all levels are presented in states of the generator that its results lead
to, and so is the one that the run ends in. -/
theorem minimize_asks (hpresent : ∀ s, Inv s → ∀ c, P (g.present s c))
    (hnext : ∀ s o, Inv s → Inv (g.next o s).2) {s : γ} (hs : Inv (g.first s).2) :
    (minimize a g limits s).Asks P fun e => Inv e.generator := by
  unfold minimize
  split
  · next e s' heq =>
    rw [heq] at hs
    exact hs
  · next level s' heq =>
    rw [heq] at hs
    exact descend_asks hpresent hnext hs

end Asks

section Equations

theorem minimizeLevel_eq_bind {present : Cut α → Cut β} (hlevel : level.isEmpty = false) :
    (minimizeLevel a present level).run =
      ((a.minimize level.items).run.mapCut present).bind (ExceptT.bindCont fun result => do
        Attempt.check a.cancellable .cancelled
        return result) := by
  rw [minimizeLevel, hlevel]
  rfl

/-- A run whose generator offers nothing after its first level. -/
theorem minimize_eq_of_next_eq_none [DecidableEq α] {g : Generator γ α β}
    {limits : HierarchyLimits} {s s' : γ} (hfirst : g.first s = (.ok level, s'))
    (hnext : ∀ o, (g.next o s').1 = none) (hlevels : 1 ≤ limits.maxLevels) :
    minimize a g limits s =
      (minimizeLevel a (g.present s') level).run.bind fun r => .done (match r with
        | .error e => ⟨.error (.minimizer e), s'⟩
        | .ok o => ⟨.ok (({} : Report).recordLevel level.size o.cut.retained.length
            o.cut.deleted.length o.statistics), (g.next o s').2⟩) := by
  obtain ⟨n, hn⟩ : ∃ n, limits.maxLevels = n + 1 := ⟨limits.maxLevels - 1, by omega⟩
  rw [minimize, hfirst]
  dsimp only
  rw [hn, descend]
  refine congrArg (Dialogue.bind _) (funext fun r => ?_)
  cases r with
  | error e => rfl
  | ok o =>
    have hpair : g.next o s' = (none, (g.next o s').2) := Prod.ext (hnext o) rfl
    dsimp only
    rw [hpair]
    rfl

end Equations

section Run

variable {t : Tester σ β} {st : σ}

theorem state_minimizeLevel {present : Cut α → Cut β} (hlevel : level.isEmpty = false) :
    ((minimizeLevel a present level).run.run t st).state =
      ((a.minimize level.items).run.run (t.comap present) st).state := by
  unfold minimizeLevel
  simp only [hlevel, Bool.false_eq_true, if_false]
  exact (Attempt.run_check t _ _ _ st).1.trans (Dialogue.run_mapCut t present _ st).2

/-- Its trials are those of the algorithm, about the cuts that stand for others. -/
theorem trials_minimizeLevel {present : Cut α → Cut β} (hlevel : level.isEmpty = false) :
    ((minimizeLevel a present level).run.run t st).trials =
      ((a.minimize level.items).run.run (t.comap present) st).trials.map (Prod.map present id) := by
  unfold minimizeLevel
  simp only [hlevel, Bool.false_eq_true, if_false]
  exact (Dialogue.trials_congr (Attempt.run_check t _ _ _ st).2.1).trans
    (Dialogue.trials_mapCut t present _ st)

theorem run_minimizeLevel_ok {present : Cut α → Cut β} (hlevel : level.isEmpty = false)
    {result : Outcome α}
    (h : ((minimizeLevel a present level).run.run t st).answer = .ok result) :
    ((a.minimize level.items).run.run (t.comap present) st).answer = .ok result := by
  unfold minimizeLevel at h
  simp only [hlevel, Bool.false_eq_true, if_false] at h
  exact (Dialogue.run_mapCut t present _ st).1.symm.trans (Attempt.run_check_ok h)

/-- An empty level that is completed was only announced. -/
theorem run_minimizeLevel_empty {present : Cut α → Cut β} (hlevel : level.isEmpty = true)
    {result : Outcome α}
    (h : ((minimizeLevel a present level).run.run t st).answer = .ok result) :
    result = Outcome.empty ∧ ((minimizeLevel a present level).run.run t st).trials = [] := by
  unfold minimizeLevel at h ⊢
  simp only [hlevel, if_true] at h ⊢
  exact ⟨(Except.ok.inj (Attempt.run_check_ok h)).symm,
    Dialogue.trials_congr
      (Attempt.run_check t (do Attempt.emptyLevel; return Outcome.empty) _ _ st).2.1⟩

variable [DecidableEq α] {g : Generator γ α β} {limits : HierarchyLimits}

/-- What the levels of a run keep: `Inv` holds whenever a level is minimized, and in whatever
way the run ends from there, `Post` holds in the end. Both may speak of the trials so far. -/
structure Keeps (a : Algorithm) (g : Generator γ α β) (limits : HierarchyLimits) (t : Tester σ β)
    (Inv : γ → Level α → σ → Trials β → Prop) (Post : Ending γ → σ → Trials β → Prop) :
    Prop where
  limit : ∀ {s level st h}, Inv s level st h →
    Post ⟨.error (.levelLimitExceeded limits.maxLevels), s⟩ st h
  failed : ∀ {s level st h e}, Inv s level st h →
    let r := (minimizeLevel a (g.present s) level).run.run t st
    r.answer = .error e → Post ⟨.error (.minimizer e), s⟩ r.state (h ++ r.trials)
  last : ∀ {s s' level st h result} (report : Report), Inv s level st h →
    let r := (minimizeLevel a (g.present s) level).run.run t st
    r.answer = .ok result → g.next result s = (none, s') →
    Post ⟨.ok report, s'⟩ r.state (h ++ r.trials)
  next : ∀ {s s' level next st h result}, Inv s level st h →
    let r := (minimizeLevel a (g.present s) level).run.run t st
    r.answer = .ok result → g.next result s = (some next, s') →
    Inv s' next r.state (h ++ r.trials)
  stalled : ∀ {s s' level next st h result n}, Inv s level st h →
    let r := (minimizeLevel a (g.present s) level).run.run t st
    r.answer = .ok result → g.next result s = (some next, s') → result.cut.deleted = [] →
    next.items = level.items → Post ⟨.error (.stalledHierarchy n), s'⟩ r.state (h ++ r.trials)

namespace Keeps

variable {Inv : γ → Level α → σ → Trials β → Prop} {Post : Ending γ → σ → Trials β → Prop}

theorem descend (hk : Keeps a g limits t Inv Post) {remaining : Nat} {s : γ} {report : Report}
    {h : Trials β} (hinv : Inv s level st h) :
    let r := (descend a g limits remaining s level report).run t st
    Post r.answer r.state (h ++ r.trials) := by
  induction remaining generalizing s level st report h with
  | zero => simpa [Hierarchy.descend] using hk.limit hinv
  | succ remaining ih =>
    rw [Hierarchy.descend]
    dsimp only
    rw [Dialogue.trials_seq, Dialogue.run_seq, ← List.append_assoc]
    dsimp only
    cases hr : ((minimizeLevel a (g.present s) level).run.run t st).answer with
    | error e => simpa using hk.failed hinv hr
    | ok result =>
      dsimp only
      cases hg : g.next result s with
      | mk next? s' =>
        cases next? with
        | none => simpa using hk.last _ hinv hr hg
        | some next =>
          dsimp only
          split
          · next hstall =>
            simp only [Bool.and_eq_true, List.isEmpty_iff, decide_eq_true_eq] at hstall
            simpa using hk.stalled hinv hr hg hstall.1.2 hstall.2
          · exact ih (hk.next hinv hr hg)

theorem minimize (hk : Keeps a g limits t Inv Post) {s : γ} (st : σ)
    (hfirst : ∀ level s', g.first s = (.ok level, s') → Inv s' level st [])
    (hfailed : ∀ e s', g.first s = (.error e, s') → Post ⟨.error (.hierarchyFailed e), s'⟩ st []) :
    let r := (minimize a g limits s).run t st
    Post r.answer r.state r.trials := by
  unfold Hierarchy.minimize
  split
  · next e s' heq => exact hfailed e s' heq
  · next level s' heq => exact hk.descend (hfirst level s' heq)

end Keeps

/-- A run that ends well has completed levels one after another, up to the last. -/
theorem minimize_ok (Inv : γ → Level α → σ → Prop) (Done : γ → σ → Prop) {s : γ} {final : Report}
    (hfirst : ∀ level s', g.first s = (.ok level, s') → Inv s' level st)
    (hlevel : ∀ s level st result, Inv s level st →
      ((minimizeLevel a (g.present s) level).run.run t st).answer = .ok result →
      let st := ((minimizeLevel a (g.present s) level).run.run t st).state
      match g.next result s with
      | (some next, s) => Inv s next st
      | (none, s) => Done s st)
    (hrun : ((minimize a g limits s).run t st).answer.answer = .ok final) :
    Done ((minimize a g limits s).run t st).answer.generator
      ((minimize a g limits s).run t st).state := by
  have hkeeps : Keeps a g limits t (fun s level st _ => Inv s level st)
      (fun e st _ => ∀ final, e.answer = .ok final → Done e.generator st) := by
    constructor
    case limit => exact fun _ _ heq => nomatch heq
    case failed => exact fun _ _ _ heq => nomatch heq
    case last =>
      intro s s' level st h result report hinv _ hr hg _ _
      have hdone := hlevel s level st result hinv hr
      rw [hg] at hdone
      exact hdone
    case next =>
      intro s s' level next st h result hinv _ hr hg
      have hnext := hlevel s level st result hinv hr
      rw [hg] at hnext
      exact hnext
    case stalled => exact fun _ _ _ _ _ _ heq => nomatch heq
  exact hkeeps.minimize st hfirst (fun _ _ _ _ heq => nomatch heq) final hrun

end Run

end DeltaDebugging.Hierarchy
