import DeltaDebugging.Algorithm.Ddmin
import DeltaDebugging.Proofs.Hierarchy.History

/-!
# The levels that a hierarchical run visits

From a level that is completed the driver follows the generator to the next one, unless that
is the same again and nothing was deleted. Where it does not follow, it stops, and why is
said by the level alone. So a run is determined by the positions that it comes to one after
another, and the limit on their number is all that is left to take into account.
-/
namespace DeltaDebugging

/-- A level about to be minimized, with the generator and the tester as they are then. -/
structure Position (σ γ α : Type) where
  level : Level α
  generator : γ
  tester : σ

namespace Position

variable {σ α β γ : Type}

section Definitions

variable (a : Algorithm) (g : Generator γ α β) (limits : HierarchyLimits) (t : Tester σ β)
  (p : Position σ γ α)

def run : Run σ β (Except AlgorithmError (Outcome α)) :=
  (Hierarchy.minimizeLevel a (g.present p.generator) p.level).run.run t p.tester

/-- What the level leaves behind if it is completed. -/
def stage? : Option (Stage σ α) :=
  (p.run a g t).answer.toOption.map fun result => ⟨p.level, result, (p.run a g t).state⟩

/-- Where the generator leads, given the result of the level. -/
def next : Option (Position σ γ α) :=
  (p.stage? a g t).bind fun x =>
    match g.next x.result p.generator with
    | (none, _) => none
    | (some level, s) => some ⟨level, s, x.state⟩

/-- The report with the level, if it is completed. -/
def record (report : Report) : Report := (p.stage? a g t).elim report (Stage.addTo report)

variable [DecidableEq α]

/-- Nothing was deleted, the level of `q` has the same items in the same order, and that is
looked for. -/
def RepeatedBy (q : Position σ γ α) : Prop :=
  limits.detectStalls = true ∧ q.level.items = p.level.items ∧
    ∃ result, (p.run a g t).answer = .ok result ∧ result.cut.deleted = []

/-- What is offered next is such a repetition. -/
def stalls : Bool :=
  limits.detectStalls && (p.stage? a g t).any (fun x => x.result.cut.deleted.isEmpty) &&
    (p.next a g t).any fun q => q.level.items = p.level.items

/-- Where the driver goes on. -/
def follow : Option (Position σ γ α) := if p.stalls a g limits t then none else p.next a g t

/-- Where the driver is `k` levels later if nothing stops it before. -/
def after : (k : Nat) → Position σ γ α → Option (Position σ γ α)
  | 0, p => some p
  | k + 1, p => (p.follow a g limits t).bind (after k)

/-- The answer of a run that does not go on from here. -/
def stop (report : Report) : Except ReductionError Report :=
  match (p.run a g t).answer with
  | .error e => .error (.minimizer e)
  | .ok _ =>
    if p.stalls a g limits t then .error (.stalledHierarchy (p.record a g t report).levelCount)
    else .ok (p.record a g t report)

end Definitions

section Completed

variable {a : Algorithm} {g : Generator γ α β} {limits : HierarchyLimits} {t : Tester σ β}
  {p q : Position σ γ α} {e : AlgorithmError} {result : Outcome α}

theorem stage?_of_error (h : (p.run a g t).answer = .error e) : p.stage? a g t = none := by
  rw [stage?, h]
  rfl

theorem stage?_of_ok (h : (p.run a g t).answer = .ok result) :
    p.stage? a g t = some ⟨p.level, result, (p.run a g t).state⟩ := by
  rw [stage?, h]
  rfl

theorem map_result_stage? (p : Position σ γ α) :
    (p.stage? a g t).map Stage.result = (p.run a g t).answer.toOption := by
  rw [stage?, Option.map_map]
  exact Option.map_id'

theorem ok_of_stage? {x : Stage σ α} (h : p.stage? a g t = some x) :
    (p.run a g t).answer = .ok x.result ∧ x.level = p.level := by
  cases hr : (p.run a g t).answer with
  | error e => simp [stage?_of_error hr] at h
  | ok result =>
    rw [stage?_of_ok hr, Option.some_inj] at h
    subst h
    exact ⟨rfl, rfl⟩

theorem next_of_error (h : (p.run a g t).answer = .error e) : p.next a g t = none := by
  rw [next, stage?_of_error h]
  rfl

theorem next_of_ok (h : (p.run a g t).answer = .ok result) : p.next a g t =
    match g.next result p.generator with
    | (none, _) => none
    | (some level, s) => some ⟨level, s, (p.run a g t).state⟩ := by
  rw [next, stage?_of_ok h]
  rfl

/-- An empty level is announced once and asked nothing about. -/
theorem run_of_isEmpty (hempty : p.level.isEmpty = true) :
    (p.run a g t).steps = [.emptyLevel] ∧
      ((a.cancellable = true → t.cancelled (t.emptyLevel p.tester) = false) →
        (p.run a g t).answer = .ok Outcome.empty) := by
  rw [run, Hierarchy.minimizeLevel, hempty]
  obtain ⟨-, hsteps, hanswer⟩ := Attempt.run_check t
    (do Attempt.emptyLevel; return Outcome.empty) a.cancellable AlgorithmError.cancelled p.tester
  exact ⟨hsteps, hanswer⟩

theorem levelCount_record {report : Report} (h : (p.run a g t).answer = .ok result) :
    (p.record a g t report).levelCount = report.levelCount + 1 := by
  rw [record, stage?_of_ok h]
  simp [Stage.addTo, Report.recordLevel, Report.levelCount]

variable [DecidableEq α]

theorem stalls_eq_of_ok (h : (p.run a g t).answer = .ok result) (hnext : p.next a g t = some q) :
    p.stalls a g limits t = (limits.detectStalls && result.cut.deleted.isEmpty &&
      decide (q.level.items = p.level.items)) := by
  rw [stalls, stage?_of_ok h, hnext]
  rfl

theorem stalls_iff_repeatedBy (hnext : p.next a g t = some q) :
    p.stalls a g limits t = true ↔ p.RepeatedBy a g limits t q := by
  cases hr : (p.run a g t).answer with
  | error e => simp [next_of_error hr] at hnext
  | ok result =>
    simp only [stalls_eq_of_ok hr hnext, RepeatedBy, hr, Bool.and_eq_true, List.isEmpty_iff,
      decide_eq_true_eq, Except.ok.injEq, exists_eq_left']
    exact and_assoc.trans (and_congr_right fun _ => and_comm)

theorem stalls_iff : p.stalls a g limits t = true ↔
    ∃ q, p.next a g t = some q ∧ p.RepeatedBy a g limits t q := by
  constructor
  · intro h
    cases hnext : p.next a g t with
    | none => simp [stalls, hnext] at h
    | some q => exact ⟨q, rfl, (stalls_iff_repeatedBy hnext).mp h⟩
  · rintro ⟨q, hnext, hrepeated⟩
    exact (stalls_iff_repeatedBy hnext).mpr hrepeated

theorem follow_eq_some_iff : p.follow a g limits t = some q ↔
    p.next a g t = some q ∧ ¬ p.RepeatedBy a g limits t q := by
  rw [follow]
  constructor
  · intro h
    split at h
    · cases h
    · next hstalls => exact ⟨h, mt (stalls_iff_repeatedBy h).mpr hstalls⟩
  · rintro ⟨hnext, hnew⟩
    rw [if_neg (mt (stalls_iff_repeatedBy hnext).mp hnew), hnext]

/-- One more level is completed, and what is offered next is no repetition of it. -/
theorem after_succ_iff {k : Nat} : p.after a g limits t (k + 1) = some q ↔
    ∃ p', p.after a g limits t k = some p' ∧ p'.next a g t = some q ∧
      ¬ p'.RepeatedBy a g limits t q := by
  induction k generalizing p with
  | zero => simp [after, follow_eq_some_iff]
  | succ k ih =>
    rw [after, after]
    cases p.follow a g limits t with
    | none => simp
    | some p' => exact ih

theorem follow_of_next_eq_none (h : p.next a g t = none) : p.follow a g limits t = none := by
  rw [follow, h, ite_self]

theorem exists_ok_of_follow (h : p.follow a g limits t = some q) :
    ∃ result, (p.run a g t).answer = .ok result := by
  cases hr : (p.run a g t).answer with
  | error e => simp [follow_of_next_eq_none (next_of_error hr)] at h
  | ok result => exact ⟨result, rfl⟩

theorem follow_eq_none_iff : p.follow a g limits t = none ↔
    p.stalls a g limits t = true ∨ p.next a g t = none := by
  rw [follow]
  split <;> simp_all

theorem stop_eq_minimizer_iff {report : Report} :
    p.stop a g limits t report = .error (.minimizer e) ↔ (p.run a g t).answer = .error e := by
  rw [stop]
  split
  · next e' hr => simp [hr]
  · next result hr => split <;> simp [hr]

theorem stop_eq_stalled_iff {report : Report} {k : Nat} :
    p.stop a g limits t report = .error (.stalledHierarchy k) ↔
      p.stalls a g limits t = true ∧ k = report.levelCount + 1 := by
  rw [stop]
  split
  · next e hr => simp [stalls, stage?_of_error hr]
  · next result hr =>
    rw [levelCount_record hr]
    split
    · next hstall => rw [hstall, and_iff_right rfl, Except.error.injEq,
        ReductionError.stalledHierarchy.injEq, eq_comm]
    · next hstall => simp [hstall]

theorem stop_ne_limit {report : Report} {n : Nat} :
    p.stop a g limits t report ≠ .error (.levelLimitExceeded n) := by
  rw [stop]
  split
  · simp
  · split <;> simp

/-- Where the driver does not go on, it ends well if nothing is offered any more. -/
theorem stop_isOk_iff {report : Report} (hfollow : p.follow a g limits t = none) :
    (∃ final, p.stop a g limits t report = .ok final) ↔
      ∃ result, (p.run a g t).answer = .ok result ∧ (g.next result p.generator).1 = none := by
  rw [stop]
  cases hr : (p.run a g t).answer with
  | error e => simp
  | ok result =>
    have hnext := next_of_ok hr
    rw [follow_eq_none_iff] at hfollow
    cases hg : g.next result p.generator with
    | mk next? s =>
      rw [hg] at hnext
      cases next? with
      | none =>
        have hstalls : p.stalls a g limits t = false := by simp [stalls, hnext]
        simp [hstalls, hg]
      | some level =>
        have hstalls := hfollow.resolve_right (by simp [hnext])
        simp [hstalls, hg]

end Completed

end Position

namespace Hierarchy

variable {σ α β γ : Type} [DecidableEq α]

/-- The positions that a run comes to from `p`, at most `remaining` of them. -/
def visitsFrom (a : Algorithm) (g : Generator γ α β) (limits : HierarchyLimits) (t : Tester σ β) :
    (remaining : Nat) → Position σ γ α → List (Position σ γ α)
  | 0, _ => []
  | remaining + 1, p =>
    p :: ((p.follow a g limits t).map (visitsFrom a g limits t remaining)).getD []

/-- The positions that a run comes to. -/
def visits (a : Algorithm) (g : Generator γ α β) (limits : HierarchyLimits) (t : Tester σ β)
    (s : γ) (st : σ) : List (Position σ γ α) :=
  match g.first s with
  | (.error _, _) => []
  | (.ok level, s) => visitsFrom a g limits t limits.maxLevels ⟨level, s, st⟩

variable {a : Algorithm} {g : Generator γ α β} {limits : HierarchyLimits} {t : Tester σ β}
  {p q : Position σ γ α} {report : Report}

theorem run_descend_succ (a : Algorithm) (g : Generator γ α β) (limits : HierarchyLimits)
    (t : Tester σ β) (remaining : Nat) (p : Position σ γ α) (report : Report) :
    let r := (descend a g limits (remaining + 1) p.generator p.level report).run t p.tester
    match p.follow a g limits t with
    | none => r.answer.answer = p.stop a g limits t report ∧ r.steps = (p.run a g t).steps
    | some q =>
      let later := (descend a g limits remaining q.generator q.level (p.record a g t report)).run t
        q.tester
      r.answer = later.answer ∧ r.steps = (p.run a g t).steps ++ later.steps := by
  have hlevel : (minimizeLevel a (g.present p.generator) p.level).run.run t p.tester =
    p.run a g t := rfl
  dsimp only
  rw [descend, Dialogue.run_seq]
  dsimp only
  rw [hlevel]
  cases hr : (p.run a g t).answer with
  | error e =>
    rw [Position.follow_of_next_eq_none (Position.next_of_error hr), Position.stop, hr]
    exact ⟨rfl, List.append_nil _⟩
  | ok result =>
    have hnext := Position.next_of_ok hr
    have hrecord : p.record a g t report = report.recordLevel p.level.size
        result.cut.retained.length result.cut.deleted.length result.statistics := by
      rw [Position.record, Position.stage?_of_ok hr]
      rfl
    dsimp only
    cases hg : g.next result p.generator with
    | mk next? s =>
      rw [hg] at hnext
      cases next? with
      | none =>
        rw [Position.follow_of_next_eq_none hnext, Position.stop, hr]
        have hstalls : p.stalls a g limits t = false := by simp [Position.stalls, hnext]
        simp [hstalls, hrecord]
      | some level =>
        have hstalls : p.stalls a g limits t = _ := Position.stalls_eq_of_ok hr hnext
        rw [Position.follow, Position.stop, hr]
        dsimp only at hstalls ⊢
        rw [← hstalls]
        cases hstall : p.stalls a g limits t with
        | true => simp [hrecord]
        | false => simp [hrecord, hnext]

section Visits

theorem length_visitsFrom_le (remaining : Nat) (p : Position σ γ α) :
    (visitsFrom a g limits t remaining p).length ≤ remaining := by
  induction remaining generalizing p with
  | zero => exact Nat.le_refl 0
  | succ remaining ih =>
    rw [visitsFrom, List.length_cons]
    cases p.follow a g limits t with
    | none => exact Nat.succ_le_succ (Nat.zero_le _)
    | some q => exact Nat.succ_le_succ (ih q)

theorem getElem?_visitsFrom {remaining i : Nat} :
    (visitsFrom a g limits t remaining p)[i]? = some q ↔
      i < remaining ∧ p.after a g limits t i = some q := by
  induction remaining generalizing p i with
  | zero => simp [visitsFrom]
  | succ remaining ih =>
    rw [visitsFrom]
    cases i with
    | zero => simp [Position.after]
    | succ i =>
      rw [List.getElem?_cons_succ, Position.after]
      cases p.follow a g limits t with
      | none => simp
      | some p' => simpa using ih

theorem steps_descend (remaining : Nat) (p : Position σ γ α) (report : Report) :
    ((descend a g limits remaining p.generator p.level report).run t p.tester).steps =
      (visitsFrom a g limits t remaining p).flatMap fun q => (q.run a g t).steps := by
  induction remaining generalizing p report with
  | zero => rfl
  | succ remaining ih =>
    have hturn := run_descend_succ a g limits t remaining p report
    rw [visitsFrom]
    cases hfollow : p.follow a g limits t with
    | none =>
      rw [hfollow] at hturn
      simpa using hturn.2
    | some q =>
      rw [hfollow] at hturn
      simpa [ih] using hturn.2

theorem stagesFrom_eq (remaining : Nat) (p : Position σ γ α) :
    stagesFrom a g limits t remaining p.generator p.level p.tester =
      (visitsFrom a g limits t remaining p).filterMap fun q => q.stage? a g t := by
  induction remaining generalizing p with
  | zero => rfl
  | succ remaining ih =>
    have hlevel : (minimizeLevel a (g.present p.generator) p.level).run.run t p.tester =
      p.run a g t := rfl
    rw [stagesFrom, visitsFrom, hlevel]
    cases hr : (p.run a g t).answer with
    | error e =>
      rw [Position.follow_of_next_eq_none (Position.next_of_error hr),
        List.filterMap_cons_none (Position.stage?_of_error hr)]
      rfl
    | ok result =>
      have hnext := Position.next_of_ok hr
      rw [List.filterMap_cons_some (Position.stage?_of_ok hr)]
      refine congrArg (List.cons _) ?_
      cases hg : g.next result p.generator with
      | mk next? s =>
        rw [hg] at hnext
        cases next? with
        | none =>
          rw [Position.follow_of_next_eq_none hnext]
          rfl
        | some level =>
          have hstalls : p.stalls a g limits t = _ := Position.stalls_eq_of_ok hr hnext
          dsimp only at hstalls ⊢
          rw [Position.follow, ← hstalls]
          cases hstall : p.stalls a g limits t with
          | true => rfl
          | false =>
            rw [hnext]
            exact ih ⟨level, s, (p.run a g t).state⟩

end Visits

section Stop

/-- The driver gets as far as the limit, or it stops before. -/
theorem exists_stop (a : Algorithm) (g : Generator γ α β) (limits : HierarchyLimits)
    (t : Tester σ β) (remaining : Nat) (p : Position σ γ α) :
    (∃ q, p.after a g limits t remaining = some q) ∨
      ∃ j < remaining, ∃ q, p.after a g limits t j = some q ∧ q.follow a g limits t = none := by
  induction remaining generalizing p with
  | zero => exact Or.inl ⟨p, rfl⟩
  | succ remaining ih =>
    cases hfollow : p.follow a g limits t with
    | none => exact Or.inr ⟨0, Nat.zero_lt_succ _, p, rfl, hfollow⟩
    | some p' =>
      have hafter : ∀ j, p.after a g limits t (j + 1) = p'.after a g limits t j := fun j => by
        rw [Position.after, hfollow]
        rfl
      rcases ih p' with ⟨q, hq⟩ | ⟨j, hj, q, hq, hnone⟩
      · exact Or.inl ⟨q, (hafter _).trans hq⟩
      · exact Or.inr ⟨j + 1, Nat.succ_lt_succ hj, q, (hafter j).trans hq, hnone⟩

theorem answer_of_limit {remaining : Nat} (h : p.after a g limits t remaining = some q) :
    ((descend a g limits remaining p.generator p.level report).run t p.tester).answer.answer =
      .error (.levelLimitExceeded limits.maxLevels) := by
  induction remaining generalizing p report with
  | zero => rfl
  | succ remaining ih =>
    have hturn := run_descend_succ a g limits t remaining p report
    rw [Position.after] at h
    cases hfollow : p.follow a g limits t with
    | none => simp [hfollow] at h
    | some p' =>
      rw [hfollow] at h hturn
      rw [hturn.1]
      exact ih h

theorem answer_of_stop {remaining j : Nat} (report : Report) (hj : j < remaining)
    (h : p.after a g limits t j = some q) (hnone : q.follow a g limits t = none) :
    ∃ before : Report, before.levelCount = report.levelCount + j ∧
      ((descend a g limits remaining p.generator p.level report).run t p.tester).answer.answer =
        q.stop a g limits t before := by
  induction remaining generalizing p report j with
  | zero => exact absurd hj (Nat.not_lt_zero j)
  | succ remaining ih =>
    have hturn := run_descend_succ a g limits t remaining p report
    cases j with
    | zero =>
      obtain rfl := Option.some_inj.mp h
      rw [hnone] at hturn
      exact ⟨report, rfl, hturn.1⟩
    | succ j =>
      rw [Position.after] at h
      cases hfollow : p.follow a g limits t with
      | none => simp [hfollow] at h
      | some p' =>
        rw [hfollow] at h hturn
        -- The level was completed, so the report has one more line from here on.
        obtain ⟨result, hr⟩ := Position.exists_ok_of_follow hfollow
        obtain ⟨before, hcount, hanswer⟩ := ih _ (Nat.lt_of_succ_lt_succ hj) h
        refine ⟨before, ?_, (congrArg Ending.answer hturn.1).trans hanswer⟩
        rw [hcount, Position.levelCount_record hr]
        omega

variable {remaining : Nat}

theorem answer_eq_limit_iff {n : Nat} :
    ((descend a g limits remaining p.generator p.level report).run t p.tester).answer.answer =
        .error (.levelLimitExceeded n) ↔
      n = limits.maxLevels ∧ ∃ q, p.after a g limits t remaining = some q := by
  constructor
  · intro h
    rcases exists_stop a g limits t remaining p with
      ⟨q, hq⟩ | ⟨j, hj, q, hq, hnone⟩
    · rw [answer_of_limit hq, Except.error.injEq, ReductionError.levelLimitExceeded.injEq] at h
      exact ⟨h.symm, q, hq⟩
    · obtain ⟨before, -, hanswer⟩ := answer_of_stop report hj hq hnone
      exact absurd (hanswer.symm.trans h) Position.stop_ne_limit
  · rintro ⟨rfl, q, hq⟩
    exact answer_of_limit hq

/-- What can be said of the answer of a run that the limit does not stop is said of the
position that stops it. -/
theorem answer_iff_stop {P : Except ReductionError Report → Prop}
    {C : Nat → Position σ γ α → Prop} (hlimit : ¬ P (.error (.levelLimitExceeded limits.maxLevels)))
    (hC : ∀ k q, C k q → q.follow a g limits t = none)
    (hstop : ∀ q before, q.follow a g limits t = none →
      (P (q.stop a g limits t before) ↔ C before.levelCount q)) :
    P ((descend a g limits remaining p.generator p.level report).run t p.tester).answer.answer ↔
      ∃ j < remaining, ∃ q, p.after a g limits t j = some q ∧ C (report.levelCount + j) q := by
  constructor
  · intro h
    rcases exists_stop a g limits t remaining p with
      ⟨q, hq⟩ | ⟨j, hj, q, hq, hnone⟩
    · rw [answer_of_limit hq] at h
      exact absurd h hlimit
    · obtain ⟨before, hcount, hanswer⟩ := answer_of_stop report hj hq hnone
      rw [hanswer, hstop q before hnone, hcount] at h
      exact ⟨j, hj, q, hq, h⟩
  · rintro ⟨j, hj, q, hq, h⟩
    have hnone := hC _ q h
    obtain ⟨before, hcount, hanswer⟩ := answer_of_stop report hj hq hnone
    rwa [hanswer, hstop q before hnone, hcount]

theorem answer_eq_stalled_iff {k : Nat} :
    ((descend a g limits remaining p.generator p.level report).run t p.tester).answer.answer =
        .error (.stalledHierarchy k) ↔
      ∃ j < remaining, ∃ q, p.after a g limits t j = some q ∧ q.stalls a g limits t = true ∧
        k = report.levelCount + j + 1 :=
  answer_iff_stop (P := fun answer => answer = .error (.stalledHierarchy k))
    (C := fun n q => q.stalls a g limits t = true ∧ k = n + 1) (fun h => by cases h)
    (fun _ _ hq => Position.follow_eq_none_iff.mpr (Or.inl hq.1))
    fun _ _ _ => Position.stop_eq_stalled_iff

theorem answer_eq_minimizer_iff {e : AlgorithmError} :
    ((descend a g limits remaining p.generator p.level report).run t p.tester).answer.answer =
        .error (.minimizer e) ↔
      ∃ j < remaining, ∃ q, p.after a g limits t j = some q ∧ (q.run a g t).answer = .error e :=
  answer_iff_stop (P := fun answer => answer = .error (.minimizer e))
    (C := fun _ q => (q.run a g t).answer = .error e) (fun h => by cases h)
    (fun _ _ hq => Position.follow_of_next_eq_none (Position.next_of_error hq))
    fun _ _ _ => Position.stop_eq_minimizer_iff

theorem answer_isOk_iff :
    (∃ final, ((descend a g limits remaining p.generator p.level report).run t
        p.tester).answer.answer = .ok final) ↔
      ∃ j < remaining, ∃ q, p.after a g limits t j = some q ∧ ∃ result,
        (q.run a g t).answer = .ok result ∧ (g.next result q.generator).1 = none := by
  refine answer_iff_stop (P := fun answer => ∃ final, answer = .ok final)
    (C := fun _ q => ∃ result, (q.run a g t).answer = .ok result ∧
      (g.next result q.generator).1 = none) (fun h => by cases h.choose_spec) ?_
    fun _ _ hnone => Position.stop_isOk_iff hnone
  rintro _ q ⟨result, hok, hnone⟩
  refine Position.follow_of_next_eq_none ((Position.next_of_ok hok).trans ?_)
  split
  · rfl
  · next heq => simp [heq] at hnone

end Stop

theorem minimize_eq_descend {s s' : γ} {first : Level α} (hfirst : g.first s = (.ok first, s')) :
    minimize a g limits s = descend a g limits limits.maxLevels s' first {} := by
  rw [minimize, hfirst]

theorem visits_eq_visitsFrom {s s' : γ} {first : Level α} {st : σ}
    (hfirst : g.first s = (.ok first, s')) :
    visits a g limits t s st = visitsFrom a g limits t limits.maxLevels ⟨first, s', st⟩ := by
  rw [visits, hfirst]

/-- A run makes the steps of the levels it visits and no others. -/
theorem steps_minimize (a : Algorithm) (g : Generator γ α β) (limits : HierarchyLimits)
    (t : Tester σ β) (s : γ) (st : σ) :
    ((minimize a g limits s).run t st).steps =
      (visits a g limits t s st).flatMap fun q => (q.run a g t).steps := by
  unfold minimize visits
  cases g.first s with
  | mk first s' =>
    cases first with
    | error e => rfl
    | ok level => exact steps_descend _ ⟨level, s', st⟩ {}

theorem trials_minimize (a : Algorithm) (g : Generator γ α β) (limits : HierarchyLimits)
    (t : Tester σ β) (s : γ) (st : σ) :
    ((minimize a g limits s).run t st).trials =
      (visits a g limits t s st).flatMap fun q => (q.run a g t).trials := by
  rw [Run.trials, steps_minimize, List.filterMap_flatMap]
  rfl

theorem stages_eq (a : Algorithm) (g : Generator γ α β) (limits : HierarchyLimits) (t : Tester σ β)
    (s : γ) (st : σ) :
    stages a g limits t s st =
      (visits a g limits t s st).filterMap fun q => q.stage? a g t := by
  unfold stages visits
  cases g.first s with
  | mk first s' =>
    cases first with
    | error e => rfl
    | ok level => exact stagesFrom_eq _ ⟨level, s', st⟩

theorem results_traced_eq (a : Algorithm) (g : Generator γ α β) (limits : HierarchyLimits)
    (t : Tester σ β) (s : γ) (st : σ) :
    ((minimize a g.traced limits (s, {})).run t st).answer.generator.2.results =
      (visits a g limits t s st).filterMap fun q => (q.run a g t).answer.toOption := by
  rw [results_minimize_traced, stages_eq, List.map_filterMap]
  simp only [Position.map_result_stage?]

theorem foldl_addTo_stages (a : Algorithm) (g : Generator γ α β) (limits : HierarchyLimits)
    (t : Tester σ β) (s : γ) (st : σ) (report : Report) :
    (stages a g limits t s st).foldl Stage.addTo report =
      (visits a g limits t s st).foldl (fun r q => q.record a g t r) report := by
  rw [stages_eq, List.foldl_filterMap]
  congr 1
  funext r q
  rw [Position.record]
  cases q.stage? a g t <;> rfl

theorem exists_ok_of_mem_visits {s : γ} {st : σ} {final : Report}
    (hok : ((minimize a g limits s).run t st).answer.answer = .ok final)
    (hq : q ∈ visits a g limits t s st) : ∃ result, (q.run a g t).answer = .ok result := by
  cases hfirst : g.first s with
  | mk first s' =>
    cases first with
    | error e => simp [visits, hfirst] at hq
    | ok level =>
      rw [visits_eq_visitsFrom hfirst] at hq
      obtain ⟨i, hi⟩ := List.mem_iff_getElem?.mp hq
      obtain ⟨hlt, hafter⟩ := getElem?_visitsFrom.mp hi
      cases hrun : (q.run a g t).answer with
      | ok result => exact ⟨result, rfl⟩
      | error e =>
        have herror : ((descend a g limits limits.maxLevels s' level {}).run t st).answer.answer =
            .error (.minimizer e) :=
          (answer_eq_minimizer_iff (p := ⟨level, s', st⟩)).mpr ⟨i, hlt, q, hafter, hrun⟩
        rw [minimize_eq_descend hfirst, herror] at hok
        cases hok

theorem map_stage?_visits {s : γ} {st : σ} {final : Report}
    (hok : ((minimize a g limits s).run t st).answer.answer = .ok final) :
    (visits a g limits t s st).map (fun q => q.stage? a g t) =
      (stages a g limits t s st).map some := by
  rw [stages_eq, List.map_filterMap_some_eq_filter_map_isSome]
  refine (List.filter_eq_self.mpr fun x hx => ?_).symm
  obtain ⟨q, hq, rfl⟩ := List.mem_map.mp hx
  obtain ⟨result, hrun⟩ := exists_ok_of_mem_visits hok hq
  rw [Position.stage?_of_ok hrun]
  rfl

/-- A run whose first level is there comes to one position after another: a level was completed
there, and what the generator offered next is no repetition of it. It visits the first of these,
at most as many as levels are allowed, and makes the steps of their levels and no others, for an
empty level the announcement alone. The generator is given their results in turn. The run ends
in a stall if at some level a repetition is offered, at the limit if it would come to one more
position, and well if nothing more is offered; otherwise the algorithm failed. -/
theorem minimize_stops (a : Algorithm) (g : Generator γ α β) (limits : HierarchyLimits)
    (t : Tester σ β) (s s' : γ) (st : σ) (first : Level α)
    (hfirst : g.first s = (.ok first, s')) :
    let r := (minimize a g limits s).run t st
    let results := ((minimize a g.traced limits (s, {})).run t st).answer.generator.2.results
    let visited := visits a g limits t s st
    let arrives (k : Nat) (q : Position σ γ α) : Prop :=
      (Position.mk first s' st).after a g limits t k = some q
    (∀ q, arrives 0 q ↔ q = ⟨first, s', st⟩) ∧
    (∀ k q, arrives (k + 1) q ↔ ∃ p, arrives k p ∧ p.next a g t = some q ∧
      ¬ p.RepeatedBy a g limits t q) ∧
    (∀ i q, visited[i]? = some q ↔ i < limits.maxLevels ∧ arrives i q) ∧
    visited.length ≤ limits.maxLevels ∧
    r.steps = visited.flatMap (fun q => (q.run a g t).steps) ∧
    (∀ q ∈ visited, q.level.isEmpty = true → (q.run a g t).steps = [.emptyLevel] ∧
      ((a.cancellable = true → t.cancelled (t.emptyLevel q.tester) = false) →
        (q.run a g t).answer = .ok Outcome.empty)) ∧
    results = visited.filterMap (fun q => (q.run a g t).answer.toOption) ∧
    (∀ k, r.answer.answer = .error (.stalledHierarchy k) ↔
      ∃ j < limits.maxLevels, ∃ p, arrives j p ∧ k = j + 1 ∧
        ∃ q, p.next a g t = some q ∧ p.RepeatedBy a g limits t q) ∧
    (∀ n, r.answer.answer = .error (.levelLimitExceeded n) ↔
      n = limits.maxLevels ∧ ∃ q, arrives limits.maxLevels q) ∧
    ((∃ report, r.answer.answer = .ok report) ↔
      ∃ j < limits.maxLevels, ∃ p, arrives j p ∧ ∃ result, (p.run a g t).answer = .ok result ∧
        (g.next result p.generator).1 = none) ∧
    ∀ e, r.answer.answer = .error (.minimizer e) ↔
      ∃ j < limits.maxLevels, ∃ p, arrives j p ∧ (p.run a g t).answer = .error e := by
  intro r results visited arrives
  let front : Position σ γ α := ⟨first, s', st⟩
  have hr : r = (descend a g limits limits.maxLevels front.generator front.level {}).run t
      front.tester := by
    rw [← minimize_eq_descend hfirst]
  have hvisited : visited = visitsFrom a g limits t limits.maxLevels front :=
    visits_eq_visitsFrom hfirst
  refine ⟨fun q => ?_, fun k q => Position.after_succ_iff, fun i q => ?_, ?_, ?_,
    fun q _ => Position.run_of_isEmpty, ?_, fun k => ?_, fun n => ?_, ?_, fun e => ?_⟩
  · exact Option.some_inj.trans eq_comm
  · rw [hvisited]
    exact getElem?_visitsFrom
  · rw [hvisited]
    exact length_visitsFrom_le _ _
  · exact steps_minimize a g limits t s st
  · exact results_traced_eq a g limits t s st
  · rw [hr]
    refine (answer_eq_stalled_iff (p := front)).trans ?_
    simp only [Position.stalls_iff, Report.levelCount, List.length_nil, Nat.zero_add]
    refine exists_congr fun j => and_congr_right fun _ => exists_congr fun p =>
      and_congr_right fun _ => and_comm
  · rw [hr]
    exact answer_eq_limit_iff (p := front)
  · rw [hr]
    exact answer_isOk_iff (p := front)
  · rw [hr]
    exact answer_eq_minimizer_iff (p := front)

/-- The generator that hands out a list of levels, whatever comes of them. -/
def listed : Generator (List (Level α)) α α where
  first
    | [] => (.error .noItems, [])
    | level :: rest => (.ok level, rest)
  next _
    | [] => (none, [])
    | level :: rest => (some level, rest)
  present _ c := c

theorem minimize_stops_listed :
    let levels : List (Level Nat) := [.empty, .ofList [1, 2], .ofList [1, 2], .ofList [3]]
    let a := Algorithm.ddmin {} true
    let t : Tester Unit Nat := .ofFunction fun _ => .lost
    listed.first levels = (.ok .empty, levels.tail) ∧
      ((minimize a listed {} levels).run t ()).answer.answer = .error (.stalledHierarchy 2) ∧
      ∃ p q : Position Unit (List (Level Nat)) Nat, (visits a listed {} t levels ())[1]? = some p ∧
        p.next a listed t = some q ∧ p.RepeatedBy a listed {} t q := by
  intro levels a t
  obtain ⟨-, -, hvisited, -, -, -, -, hstalled, -⟩ :=
    minimize_stops a listed {} t levels levels.tail () .empty rfl
  refine ⟨rfl, rfl, ?_⟩
  obtain ⟨j, hj, p, hp, hk, q, hnext, hrepeated⟩ := (hstalled 2).mp rfl
  obtain rfl : j = 1 := by omega
  exact ⟨p, q, (hvisited 1 p).mpr ⟨hj, hp⟩, hnext, hrepeated⟩

end Hierarchy

end DeltaDebugging
