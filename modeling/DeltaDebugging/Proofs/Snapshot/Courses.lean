import DeltaDebugging.Proofs.Snapshot.Committed

/-!
# The course of a trial

How far a trial gets decides all that comes of it: its verdict, whether its transaction commits,
whether it counts as a fault, and what its listeners are told. What a listener is told is read
off a run whose surroundings also hold a log, which changes nothing else about the run.
-/
namespace DeltaDebugging

variable {σ β χ κ τ ι ς lg : Type}

/-- A part of a state that can be replaced, the rest left as it is. -/
structure Part (σ τ : Type) where
  get : σ → τ
  set : τ → σ → σ
  get_set : ∀ t s, get (set t s) = t
  set_get : ∀ s, set (get s) s = s
  set_set : ∀ t t' s, set t (set t' s) = set t s

namespace Part

/-- The surroundings of which a log is kept. -/
def unlogged : Part (τ × lg) τ where
  get := Prod.fst
  set t s := (t, s.2)
  get_set _ _ := rfl
  set_get _ := rfl
  set_set _ _ _ := rfl

/-- A part of what stands beside a context, together with the context. -/
def beside (part : Part σ τ) : Part (χ × σ) (χ × τ) where
  get s := (s.1, part.get s.2)
  set r s := (r.1, part.set r.2 s.2)
  get_set r s := by rw [part.get_set]
  set_get s := by rw [part.set_get]
  set_set r r' s := by rw [part.set_set]

end Part

namespace Activity

/-- An activity on a part of the state. -/
def along (part : Part σ τ) : Activity τ β → Activity σ β
  | done b => done b
  | panic message => panic message
  | wait => wait
  | suspend k => suspend fun u => (k u).along part
  | act f k => act (fun s => part.set (f (part.get s)) s) fun s => (k (part.get s)).along part

theorem run_along (part : Part σ τ) (interrupted : τ → Bool) (a : Activity τ β) (s : σ) :
    (a.along part).run (fun s => interrupted (part.get s)) s =
      ((a.run interrupted (part.get s)).1, part.set (a.run interrupted (part.get s)).2 s) := by
  induction a generalizing s with
  | done b => rw [along, run, run, part.set_get]
  | panic message => rw [along, run, run, part.set_get]
  | wait => rw [along, run, run, part.set_get]
  | suspend k ih =>
    rw [along, run, run]
    split
    · rw [part.set_get]
    · exact ih () s
  | act f k ih => rw [along, run, run, ih, part.get_set, part.set_set]

end Activity

/-- How far a trial gets. -/
inductive Course (χ ς : Type) where
  | notCreated (reason : String)
  /-- It was cancelled before. -/
  | notBegun
  | focusRefused (cause : String)
  | focusPanicked (message : String)
  | focusCancelled
  | checkPanicked (context : χ) (message : String)
  | checkCancelled (context : χ)
  | passed (context : χ)
  | undecided (context : χ) (message : String)
  | comparePanicked (context : χ) (current : ς) (message : String)
  | compareCancelled (context : χ) (current : ς)
  | compared (context : χ) (current : ς) (equal : Bool)
  deriving DecidableEq, Repr

namespace Course

def isFault : Course χ ς → Bool
  | notCreated _ | focusRefused _ => true
  | focusPanicked _ | checkPanicked _ _ | comparePanicked _ _ _ => true
  | _ => false

def isCancelled : Course χ ς → Bool
  | notBegun | focusCancelled | checkCancelled _ | compareCancelled _ _ => true
  | _ => false

/-- Only an oracle that decided, and a comparison that was made, lead to a verdict. -/
def verdict : Course χ ς → Verdict
  | passed _ => .lost
  | compared _ _ equal => if equal then .holds else .lost
  | _ => .unknown

/-- How the transaction of a trial ends. -/
def result : Course χ ς → Except (TransactionError Verdict) Unit
  | notCreated reason => .error (.creationFailed reason)
  | notBegun | focusCancelled | checkCancelled _ | compareCancelled _ _ => .error .cancelled
  | focusRefused cause => .error (.failed cause)
  | focusPanicked message | checkPanicked _ message | comparePanicked _ _ message =>
    .error (.failed ("panic: " ++ message))
  | passed _ => .error (.aborted .lost)
  | undecided _ _ => .error (.aborted .unknown)
  | compared _ _ equal => if equal then .ok () else .error (.aborted .lost)

/-- What the listeners are told in a trial on the context `x`. -/
def hooks (x : χ) (deleted : List ι) (initial : ς) : Course χ ς → List (Hook χ ι ς)
  | notCreated _ | notBegun => []
  | focusRefused _ | focusPanicked _ | focusCancelled => [.beforeFocus x deleted]
  | checkPanicked w _ | checkCancelled w | undecided w _ => [.beforeFocus x deleted, .focused w]
  | passed w => [.beforeFocus x deleted, .focused w, .passed w]
  | comparePanicked w current _ | compareCancelled w current =>
    [.beforeFocus x deleted, .focused w, .failed w current]
  | compared w current equal =>
    [.beforeFocus x deleted, .focused w, .failed w current, .compared w initial current equal]

section Facts

variable {course : Course χ ς} {x : χ} {deleted : List ι} {initial : ς}

theorem verdict_eq_holds :
    course.verdict = .holds ↔ ∃ w current, course = .compared w current true := by
  cases course with
  | compared w current equal => cases equal <;> simp [verdict]
  | _ => simp [verdict]

theorem verdict_eq_lost : course.verdict = .lost ↔
    (∃ w, course = .passed w) ∨ ∃ w current, course = .compared w current false := by
  cases course with
  | compared w current equal => cases equal <;> simp [verdict]
  | _ => simp [verdict]

theorem verdict_eq_unknown : course.verdict = .unknown ↔
    (∃ w message, course = .undecided w message) ∨ course.isFault = true ∨
      course.isCancelled = true := by
  cases course with
  | compared w current equal => cases equal <;> simp [verdict, isFault, isCancelled]
  | _ => simp [verdict, isFault, isCancelled]

theorem result_eq_ok : course.result = .ok () ↔ course.verdict = .holds := by
  cases course with
  | compared w current equal => cases equal <;> simp [result, verdict]
  | _ => simp [result, verdict]

/-- The last that listeners are told is that the failures are equal, if they are. -/
theorem getLast?_hooks : course.verdict = .holds ↔ ∃ w current,
    (course.hooks x deleted initial).getLast? = some (.compared w initial current true) := by
  cases course with
  | compared w current equal => cases equal <;> simp [verdict, hooks]
  | _ => simp [verdict, hooks]

/-- The end of a transaction is read as the verdict and as the fault that its course stands for. -/
theorem judge_result (course : Course χ ς) :
    SameFailure.judge course.result = (course.verdict, if course.isFault then 1 else 0) := by
  cases course with
  | compared w current equal => cases equal <;> rfl
  | _ => rfl

end Facts

end Course

namespace SameFailure

/-- How far the body of a trial gets on the context `x` amid `t`. -/
def bodyCourse (f : SameFailure χ τ ι ς) (compare : ς → ς → Activity τ Bool)
    (interrupted : τ → Bool) (deleted : List ι) (x : χ) (t : τ) : Course χ ς :=
  match (f.lens deleted).run (fun s => interrupted s.2)
    (x, f.notify (.beforeFocus x deleted) t) with
  | (.done (.error cause), _) => .focusRefused cause
  | (.done (.ok ()), w, t) =>
    match (f.oracle w).run interrupted (f.notify (.focused w) t) with
    | (.done .passed, _) => .passed w
    | (.done (.undecided message), _) => .undecided w message
    | (.done (.failed current), t) =>
      match (compare f.initial current).run interrupted (f.notify (.failed w current) t) with
      | (.done equal, _) => .compared w current equal
      | (.panicked message, _) => .comparePanicked w current message
      | (.interrupted, _) => .compareCancelled w current
    | (.panicked message, _) => .checkPanicked w message
    | (.interrupted, _) => .checkCancelled w
  | (.panicked message, _) => .focusPanicked message
  | (.interrupted, _) => .focusCancelled

/-- How far a trial gets from the context `x` amid `t`. -/
def course (f : SameFailure χ τ ι ς) (compare : ς → ς → Activity τ Bool)
    (strategy : Strategy χ κ) (interrupted : τ → Bool) (deleted : List ι) (x : χ) (t : τ) :
    Course χ ς :=
  match strategy.obstacle? x with
  | some reason => .notCreated reason
  | none => if interrupted t then .notBegun else f.bodyCourse compare interrupted deleted x t

variable {f : SameFailure χ τ ι ς} {compare : ς → ς → Activity τ Bool}
  {strategy : Strategy χ κ} {interrupted : τ → Bool} {deleted : List ι} {x w : χ} {t : τ}
  {m : Manager χ} {i : Nat} {log : List (Hook χ ι ς)}

/-- Listeners that do not break down are told of a step, and nothing else happens. -/
theorem run_announce (f : SameFailure χ τ ι ς) (h : χ → Hook χ ι ς) (interrupted : τ → Bool)
    (x : χ) (t : τ) :
    (announce f.telling h).run (fun s => interrupted s.2) (x, t) =
      (.done (), x, f.notify (h x) t) := rfl

theorem run_trialBy (f : SameFailure χ τ ι ς) (compare : ς → ς → Activity τ Bool)
    (interrupted : τ → Bool) (deleted : List ι) (x : χ) (t : τ) :
    (f.trialBy compare deleted).run (fun s => interrupted s.2) (x, t) =
      match (f.lens deleted).run (fun s => interrupted s.2)
        (x, f.notify (.beforeFocus x deleted) t) with
      | (.done (.error cause), s) => (.done (.error (.fault cause)), s)
      | (.done (.ok ()), w, t) =>
        match (f.oracle w).run interrupted (f.notify (.focused w) t) with
        | (.done .passed, t) => (.done (.error (.abort .lost)), w, f.notify (.passed w) t)
        | (.done (.undecided _), t) => (.done (.error (.abort .unknown)), w, t)
        | (.done (.failed current), t) =>
          match (compare f.initial current).run interrupted (f.notify (.failed w current) t) with
          | (.done equal, t) =>
            (.done (if equal then .ok () else .error (.abort .lost)), w,
              f.notify (.compared w f.initial current equal) t)
          | (.panicked message, t) => (.panicked message, w, t)
          | (.interrupted, t) => (.interrupted, w, t)
        | (.panicked message, t) => (.panicked message, w, t)
        | (.interrupted, t) => (.interrupted, w, t)
      | (.panicked message, s) => (.panicked message, s)
      | (.interrupted, s) => (.interrupted, s) := by
  unfold trialBy trialWith
  rw [Activity.run_seq, run_announce]
  dsimp only
  rw [Activity.run_seq]
  generalize (f.lens deleted).run (fun s => interrupted s.2)
    (x, f.notify (.beforeFocus x deleted) t) = focusing
  rcases focusing with ⟨focused | message | _, w, t⟩
  · cases focused with
    | error cause => rfl
    | ok u =>
      dsimp only [examine]
      rw [Activity.run_seq, run_announce]
      dsimp only
      rw [Activity.run_seq, Activity.run_get]
      dsimp only
      rw [Activity.run_seq, Activity.run_onSecond]
      generalize (f.oracle w).run interrupted (f.notify (.focused w) t) = checking
      rcases checking with ⟨check | message | _, t⟩
      · cases check with
        | failed current =>
          dsimp only
          rw [Activity.run_seq, run_announce]
          dsimp only
          rw [Activity.run_seq, Activity.run_onSecond]
          generalize (compare f.initial current).run interrupted (f.notify (.failed w current) t) =
            comparing
          rcases comparing with ⟨equal | message | _, t⟩ <;> rfl
        | _ => rfl
      · rfl
      · rfl
  · rfl
  · rfl

section Watched

/-- The same tester amid surroundings that also hold a log of what listener `i` is told. -/
def watched (f : SameFailure χ τ ι ς) (i : Nat) :
    SameFailure χ (τ × List (Hook χ ι ς)) ι ς where
  oracle x := (f.oracle x).along .unlogged
  same := f.same
  lens deleted := (f.lens deleted).along Part.unlogged.beside
  initial := f.initial
  listeners := (f.listeners.map fun listener h s => (listener h s.1, s.2)).modify i
    fun listener h s => ((listener h s).1, s.2 ++ [h])

/-- The comparison amid surroundings that also hold a log. -/
def watching (compare : ς → ς → Activity τ Bool) (initial current : ς) :
    Activity (τ × List (Hook χ ι ς)) Bool :=
  (compare initial current).along .unlogged

theorem notify_watched (hi : i < f.listeners.length) (h : Hook χ ι ς) :
    (f.watched i).notify h (t, log) = (f.notify h t, log ++ [h]) := by
  have hothers (listeners : List (Hook χ ι ς → τ → τ)) (s : τ × List (Hook χ ι ς)) :
      (listeners.map fun listener h (s : τ × List (Hook χ ι ς)) => (listener h s.1, s.2)).foldl
        (fun s listener => listener h s) s =
          (listeners.foldl (fun t listener => listener h t) s.1, s.2) := by
    induction listeners generalizing s with
    | nil => rfl
    | cons listener listeners ih => exact ih _
  rw [notify, notify, watched]
  dsimp only
  generalize f.listeners = listeners at hi
  induction listeners generalizing i t with
  | nil => cases hi
  | cons listener listeners ih =>
    cases i with
    | zero =>
      rw [List.map_cons, List.modify_zero_cons, List.foldl_cons, hothers]
      rfl
    | succ i =>
      rw [List.map_cons, List.modify_succ_cons, List.foldl_cons]
      exact ih (Nat.lt_of_succ_lt_succ hi)

theorem run_trial_watched (hi : i < f.listeners.length) (compare : ς → ς → Activity τ Bool)
    (interrupted : τ → Bool) (deleted : List ι) (x : χ) (t : τ) (log : List (Hook χ ι ς)) :
    ((f.watched i).trialBy (watching compare) deleted).run (fun s => interrupted s.2.1)
        (x, t, log) =
      let r := (f.trialBy compare deleted).run (fun s => interrupted s.2) (x, t)
      let course := f.bodyCourse compare interrupted deleted x t
      (r.1, r.2.1, r.2.2, log ++ course.hooks x deleted f.initial) := by
  -- Lens, oracle and comparison cannot see the log, so only the announcements tell the runs apart.
  have hlens (s : χ × τ × List (Hook χ ι ς)) :
      ((f.watched i).lens deleted).run (fun s => interrupted s.2.1) s =
        let r := (f.lens deleted).run (fun s => interrupted s.2) (s.1, s.2.1)
        (r.1, r.2.1, r.2.2, s.2.2) :=
    Activity.run_along Part.unlogged.beside (fun s => interrupted s.2) (f.lens deleted) s
  have horacle (w : χ) (s : τ × List (Hook χ ι ς)) :
      ((f.watched i).oracle w).run (fun s => interrupted s.1) s =
        let r := (f.oracle w).run interrupted s.1
        (r.1, r.2, s.2) :=
    Activity.run_along .unlogged interrupted (f.oracle w) s
  have hcompare (initial current : ς) (s : τ × List (Hook χ ι ς)) :
      (watching compare initial current).run (fun s => interrupted s.1) s =
        let r := (compare initial current).run interrupted s.1
        (r.1, r.2, s.2) :=
    Activity.run_along .unlogged interrupted (compare initial current) s
  have hinitial : (f.watched i).initial = f.initial := rfl
  rw [run_trialBy (f.watched i) _ (fun s => interrupted s.1), run_trialBy f, bodyCourse]
  simp only [notify_watched hi, hlens, horacle, hcompare, hinitial]
  generalize (f.lens deleted).run (fun s => interrupted s.2)
    (x, f.notify (.beforeFocus x deleted) t) = focusing
  rcases focusing with ⟨focused | message | _, w, t⟩
  · cases focused with
    | error cause => rfl
    | ok u =>
      dsimp only
      generalize (f.oracle w).run interrupted (f.notify (.focused w) t) = checking
      rcases checking with ⟨check | message | _, t⟩
      · cases check with
        | failed current =>
          dsimp only
          generalize (compare f.initial current).run interrupted
            (f.notify (.failed w current) t) = comparing
          rcases comparing with ⟨equal | message | _, t⟩ <;> simp [Course.hooks]
        | _ => simp [Course.hooks]
      · simp [Course.hooks]
      · simp [Course.hooks]
  · rfl
  · rfl

/-- A log beside the surroundings does not change how a body is executed. -/
theorem execute_watched (hi : i < f.listeners.length) (compare : ς → ς → Activity τ Bool)
    (interrupted : τ → Bool) (deleted : List ι) (x : χ) (t : τ) (log : List (Hook χ ι ς)) :
    Work.execute (fun s => interrupted s.1) ((f.watched i).trialBy (watching compare) deleted)
        (x, t, log) =
      let r := Work.execute interrupted (f.trialBy compare deleted) (x, t)
      let course :=
        if interrupted t then .notBegun else f.bodyCourse compare interrupted deleted x t
      (r.1, r.2.1, r.2.2, log ++ course.hooks x deleted f.initial) := by
  rw [Work.execute, Work.execute]
  cases interrupted t with
  | true => simp [Course.hooks]
  | false =>
    simp only [run_trial_watched hi]
    generalize (f.trialBy compare deleted).run (fun s => interrupted s.2) (x, t) = r
    rcases r with ⟨result | message | _, w, t'⟩
    · rcases result with (reason | cause) | b <;> rfl
    · rfl
    · rfl

theorem transaction_watched (hi : i < f.listeners.length) (compare : ς → ς → Activity τ Bool)
    (strategy : Strategy χ κ) (interrupted : τ → Bool) (deleted : List ι) (m : Manager χ) (t : τ)
    (log : List (Hook χ ι ς)) :
    m.transaction strategy (fun s => interrupted s.1)
        ((f.watched i).trialBy (watching compare) deleted) (t, log) =
      let r := m.transaction strategy interrupted (f.trialBy compare deleted) t
      let course := f.course compare strategy interrupted deleted m.context t
      (r.1, r.2.1, r.2.2, log ++ course.hooks m.context deleted f.initial) := by
  rw [Manager.transaction_eq, Manager.transaction_eq, course]
  cases strategy.obstacle? m.context with
  | some reason => simp [Course.hooks]
  | none =>
    simp only [execute_watched hi]
    generalize Work.execute interrupted (f.trialBy compare deleted) (m.context, t) = r
    rcases r with ⟨e | b, w, t'⟩ <;> rfl

end Watched

section Ended

theorem testerBy_test (f : SameFailure χ τ ι ς) (compare : ς → ς → Activity τ Bool)
    (strategy : Strategy χ κ) (attached : Bool) (cancelled : τ → Bool) (c : Cut ι)
    (p : Project χ τ) :
    (f.testerBy compare strategy attached cancelled).test c p =
      let r := p.manager.transaction strategy (fun t => attached && cancelled t)
        (f.trialBy compare c.deleted) p.surroundings
      ((judge r.1).1, ⟨r.2.1, r.2.2, p.faults + (judge r.1).2⟩) := rfl

/-- A body is executed to the end of its course, and what was compared is about the context that is
left. -/
theorem execute_trial (f : SameFailure χ τ ι ς) (compare : ς → ς → Activity τ Bool)
    (interrupted : τ → Bool) (deleted : List ι) (x : χ) (t : τ) :
    let r := Work.execute interrupted (f.trialBy compare deleted) (x, t)
    let course := if interrupted t then .notBegun else f.bodyCourse compare interrupted deleted x t
    r.1 = course.result ∧ ∀ w current equal, course = .compared w current equal → r.2.1 = w := by
  dsimp only
  rw [Work.execute]
  cases interrupted t with
  | true => simp [Course.result]
  | false =>
    simp only [run_trialBy, bodyCourse]
    generalize (f.lens deleted).run (fun s => interrupted s.2)
      (x, f.notify (.beforeFocus x deleted) t) = focusing
    rcases focusing with ⟨focused | message | _, w, t⟩
    · cases focused with
      | error cause => simp [Course.result]
      | ok u =>
        dsimp only
        generalize (f.oracle w).run interrupted (f.notify (.focused w) t) = checking
        rcases checking with ⟨check | message | _, t⟩
        · cases check with
          | failed current =>
            dsimp only
            generalize (compare f.initial current).run interrupted
              (f.notify (.failed w current) t) = comparing
            rcases comparing with ⟨equal | message | _, t⟩
            · cases equal <;> simp [Course.result]
            · simp [Course.result]
            · simp [Course.result]
          | _ => simp [Course.result]
        · simp [Course.result]
        · simp [Course.result]
    · simp [Course.result]
    · simp [Course.result]

/-- A transaction on a trial ends as its course does. It commits the context on which the failure
was found to be the initial one, or nothing. -/
theorem transaction_trial (f : SameFailure χ τ ι ς) (compare : ς → ς → Activity τ Bool)
    (strategy : Strategy χ κ) (interrupted : τ → Bool) (deleted : List ι) (m : Manager χ) (t : τ) :
    let r := m.transaction strategy interrupted (f.trialBy compare deleted) t
    let course := f.course compare strategy interrupted deleted m.context t
    r.1 = course.result ∧
      (∀ w current, course = .compared w current true → r.2.1 = m.commit w) ∧
      (r.1 ≠ .ok () → r.2.1.commits = m.commits) := by
  obtain ⟨hresult, hcontext⟩ := execute_trial f compare interrupted deleted m.context t
  rw [Manager.transaction_eq, course]
  cases strategy.obstacle? m.context with
  | some reason => simp [Course.result]
  | none =>
    dsimp only
    rw [← hresult]
    rcases hexecute : Work.execute interrupted (f.trialBy compare deleted) (m.context, t) with
      ⟨e | b, w, t'⟩
    · refine ⟨rfl, fun w' current hcourse => ?_, fun _ => rfl⟩
      rw [hexecute, hcourse] at hresult
      cases hresult
    · refine ⟨rfl, fun w' current hcourse => ?_, fun h => absurd rfl h⟩
      rw [← hcontext w' current true hcourse, hexecute]

/-- Verdict, commit, fault and what is told all follow from how far the trial got. It holds if and
only if its transaction commits, which takes an oracle that reports a failure on the context that
the lens left and a comparison that finds it equal to the initial one; then that context is
committed. The failure is lost if the oracle reports none or an unequal one. The trial is undecided
whenever the oracle is, and if it broke down or was cancelled; breaking down is what counts as a
fault. Every listener is told of the steps that were taken, in order, and last of an equal failure
if and only if the trial holds: a run whose surroundings also hold a log of what the listener is
told differs in nothing but this log. -/
theorem test_course (f : SameFailure χ τ ι ς) (compare : ς → ς → Activity τ Bool)
    (strategy : Strategy χ κ) (attached : Bool) (cancelled : τ → Bool) (c : Cut ι)
    (p : Project χ τ) :
    let interrupted := fun t => attached && cancelled t
    let ended := p.manager.transaction strategy interrupted (f.trialBy compare c.deleted)
      p.surroundings
    let course := f.course compare strategy interrupted c.deleted p.manager.context p.surroundings
    let told := course.hooks p.manager.context c.deleted f.initial
    let r := (f.testerBy compare strategy attached cancelled).test c p
    (r.1 = .holds ↔ ended.1 = .ok ()) ∧
    (r.1 = .holds ↔ r.2.manager.commits = p.manager.commits + 1) ∧
    (r.1 = .holds ↔ ∃ w current, course = .compared w current true) ∧
    (∀ w current, course = .compared w current true → r.2.manager = p.manager.commit w) ∧
    (r.1 = .lost ↔ (∃ w, course = .passed w) ∨ ∃ w current, course = .compared w current false) ∧
    (r.1 = .unknown ↔ (∃ w message, course = .undecided w message) ∨ course.isFault = true ∨
      course.isCancelled = true) ∧
    r.2.faults = p.faults + (if course.isFault then 1 else 0) ∧
    (r.1 = .holds ↔
      ∃ w current, told.getLast? = some (.compared w f.initial current true)) ∧
    ∀ i < f.listeners.length, ∀ log,
      ((f.watched i).testerBy (watching compare) strategy attached fun s => cancelled s.1).test c
          ⟨p.manager, (p.surroundings, log), p.faults⟩ =
        (r.1, ⟨r.2.manager, (r.2.surroundings, log ++ told), r.2.faults⟩) := by
  intro interrupted ended course told r
  obtain ⟨hresult, hcommit, hrefused⟩ :=
    transaction_trial f compare strategy interrupted c.deleted p.manager p.surroundings
  have hjudge : judge ended.1 = (course.verdict, if course.isFault then 1 else 0) := by
    rw [hresult]
    exact course.judge_result
  have hverdict : r.1 = course.verdict := congrArg Prod.fst hjudge
  have hok : r.1 = .holds ↔ ended.1 = .ok () := by
    rw [hverdict, hresult]
    exact Course.result_eq_ok.symm
  have hmatched : r.1 = .holds ↔ ∃ w current, course = .compared w current true := by
    rw [hverdict]
    exact Course.verdict_eq_holds
  refine ⟨hok, ⟨fun h => ?_, fun h => ?_⟩, hmatched, hcommit, ?_, ?_, ?_, ?_, ?_⟩
  · obtain ⟨w, current, hcourse⟩ := hmatched.mp h
    exact congrArg Manager.commits (hcommit w current hcourse)
  · refine Decidable.byContradiction fun hne => ?_
    have hsame : r.2.manager.commits = p.manager.commits := hrefused (mt hok.mpr hne)
    omega
  · rw [hverdict]
    exact Course.verdict_eq_lost
  · rw [hverdict]
    exact Course.verdict_eq_unknown
  · exact congrArg (fun v => p.faults + v.2) hjudge
  · rw [hverdict]
    exact Course.getLast?_hooks
  · intro i hi log
    rw [testerBy_test]
    dsimp only
    rw [transaction_watched hi compare strategy interrupted]
    rfl

end Ended

end SameFailure

end DeltaDebugging
