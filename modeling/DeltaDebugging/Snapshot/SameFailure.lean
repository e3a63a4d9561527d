import DeltaDebugging.Snapshot.Transaction
import DeltaDebugging.Snapshot.Focus
import DeltaDebugging.Tester
import DeltaDebugging.Error

/-!
# Keeping the same failure

The tester that judges a deletion by doing it: inside a transaction it deletes the
items through a lens, runs the oracle on what is left, and commits if the oracle
reports the failure recorded at the start. A deletion after which the oracle passes or
fails otherwise is lost; everything else that can go wrong leaves it undecided.
-/
namespace DeltaDebugging

inductive Check (ς : Type) where
  | failed (signature : ς)
  | passed
  | undecided (message : String)
  deriving DecidableEq, Repr

def Check.message? {ς : Type} : Check ς → Option String
  | failed _ => none
  | passed => some "The build succeeded"
  | undecided message => some ("Oracle error: " ++ message)

inductive Hook (χ ι ς : Type) where
  | emptyLevel (context : χ)
  | beforeFocus (context : χ) (deleted : List ι)
  | focused (context : χ)
  | passed (context : χ)
  | failed (context : χ) (signature : ς)
  | compared (context : χ) (initial current : ς) (equal : Bool)
  deriving DecidableEq, Repr

/-- What a same-failure tester is made of. `τ` are the surroundings: whatever oracle,
lens and listeners remember, and the cancellation token. -/
structure SameFailure (χ τ ι ς : Type) where
  oracle : χ → Activity τ (Check ς)
  same : (initial current : ς) → Bool
  lens : Lens χ τ ι
  initial : ς
  listeners : List (Hook χ ι ς → τ → τ) := []

structure Project (χ τ : Type) where
  manager : Manager χ
  surroundings : τ
  faults : Nat := 0
  deriving DecidableEq, Repr

namespace SameFailure

variable {χ κ τ ι ς : Type}

def create (oracle : χ → Activity τ (Check ς)) (same : ς → ς → Bool) (lens : Lens χ τ ι)
    (listeners : List (Hook χ ι ς → τ → τ)) (context : χ) :
    Activity τ (Except ReductionError (SameFailure χ τ ι ς)) := do
  match ← oracle context with
  | .failed initial => return .ok { oracle, same, lens, initial, listeners }
  | .passed => return .error (.propertyCheckerFailed "the input does not fail")
  | .undecided message => return .error (.propertyCheckerFailed message)

def notify (f : SameFailure χ τ ι ς) (h : Hook χ ι ς) (t : τ) : τ :=
  f.listeners.foldl (fun t listener => listener h t) t

def announce (tell : Hook χ ι ς → Activity τ Unit) (h : χ → Hook χ ι ς) :
    Activity (χ × τ) Unit := do
  let (context, _) ← Activity.get
  (tell (h context)).onSecond

/-- What a trial does once its items are deleted. `compare` says whether a failure counts as the
initial one and `tell` is what the listeners do; like the oracle, both may break down. -/
def examine (f : SameFailure χ τ ι ς) (compare : (initial current : ς) → Activity τ Bool)
    (tell : Hook χ ι ς → Activity τ Unit) : Activity (χ × τ) (Except (Refusal Verdict) Unit) := do
  announce tell .focused
  let (context, _) ← Activity.get
  match ← (f.oracle context).onSecond with
  | .passed =>
    announce tell .passed
    return .error (.abort .lost)
  | .undecided _ => return .error (.abort .unknown)
  | .failed current =>
    announce tell (.failed · current)
    let equal ← (compare f.initial current).onSecond
    announce tell (.compared · f.initial current equal)
    return if equal then .ok () else .error (.abort .lost)

def trialWith (f : SameFailure χ τ ι ς) (compare : (initial current : ς) → Activity τ Bool)
    (tell : Hook χ ι ς → Activity τ Unit) (deleted : List ι) :
    Activity (χ × τ) (Except (Refusal Verdict) Unit) := do
  announce tell (.beforeFocus · deleted)
  match ← f.lens deleted with
  | .error cause => return .error (.fault cause)
  | .ok () => f.examine compare tell

/-- What the listeners do when none of them breaks down. -/
def telling (f : SameFailure χ τ ι ς) (h : Hook χ ι ς) : Activity τ Unit :=
  Activity.modify (f.notify h)

def trialBy (f : SameFailure χ τ ι ς) (compare : (initial current : ς) → Activity τ Bool)
    (deleted : List ι) : Activity (χ × τ) (Except (Refusal Verdict) Unit) :=
  f.trialWith compare f.telling deleted

def trial (f : SameFailure χ τ ι ς) (deleted : List ι) :
    Activity (χ × τ) (Except (Refusal Verdict) Unit) :=
  f.trialBy (fun initial current => return f.same initial current) deleted

/-- The verdict that the end of a transaction stands for, and the faults it adds. -/
def judge : Except (TransactionError Verdict) Unit → Verdict × Nat
  | .ok () => (.holds, 0)
  | .error (.aborted v) => (v, 0)
  | .error .cancelled => (.unknown, 0)
  | .error (.failed _) => (.unknown, 1)
  | .error (.creationFailed _) => (.unknown, 1)

/-- The tester; `attached` says whether the token interrupts its transactions. A listener that
breaks down in a trial makes it a fault. Nothing stands around the announcement of an empty level,
so there it ends the whole run, and only what it did before counts. -/
def testerWith (f : SameFailure χ τ ι ς) (compare : (initial current : ς) → Activity τ Bool)
    (tell : Hook χ ι ς → Activity τ Unit) (strategy : Strategy χ κ) (attached : Bool)
    (cancelled : τ → Bool) : Tester (Project χ τ) ι where
  test c p :=
    let (result, manager, surroundings) :=
      p.manager.transaction strategy (fun t => attached && cancelled t)
        (f.trialWith compare tell c.deleted) p.surroundings
    let (v, faults) := judge result
    (v, ⟨manager, surroundings, p.faults + faults⟩)
  emptyLevel p :=
    { p with surroundings :=
        ((tell (.emptyLevel p.manager.context)).run (fun _ => false) p.surroundings).2 }
  cancelled p := cancelled p.surroundings

def testerBy (f : SameFailure χ τ ι ς) (compare : (initial current : ς) → Activity τ Bool)
    (strategy : Strategy χ κ) (attached : Bool) (cancelled : τ → Bool) :
    Tester (Project χ τ) ι :=
  f.testerWith compare f.telling strategy attached cancelled

def tester (f : SameFailure χ τ ι ς) (strategy : Strategy χ κ) (attached : Bool)
    (cancelled : τ → Bool) : Tester (Project χ τ) ι :=
  f.testerBy (fun initial current => return f.same initial current) strategy attached cancelled

end SameFailure

end DeltaDebugging
