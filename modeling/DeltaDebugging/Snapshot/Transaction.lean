import DeltaDebugging.Snapshot.Activity

/-!
# Transactions

A transaction runs an activity on a working context and keeps all of its changes or
none. There are two ways to keep the committed context safe: work on a copy that
replaces it on commit, or work in place and restore a checkpoint otherwise. Taking the
checkpoint may fail, and then nothing is run.

The context `χ` stands beside its surroundings `τ`, which a rollback leaves alone.
-/
namespace DeltaDebugging

inductive Refusal (ρ : Type) where
  | abort (reason : ρ)
  | fault (cause : String)
  deriving DecidableEq, Repr

inductive TransactionError (ρ : Type) where
  | aborted (reason : ρ)
  | failed (cause : String)
  | creationFailed (reason : String)
  | cancelled
  deriving DecidableEq, Repr

namespace TransactionError

variable {ρ : Type}

def abortReason? : TransactionError ρ → Option ρ
  | aborted reason => some reason
  | _ => none

/-- Whether the transaction ended otherwise than by its own decision. -/
def isFault : TransactionError ρ → Bool
  | aborted _ => false
  | _ => true

def message (render : ρ → String) : TransactionError ρ → String
  | aborted reason => "Transaction aborted: " ++ render reason
  | failed cause => "Transaction failed: " ++ cause
  | creationFailed reason => "Transaction could not be created: " ++ reason
  | cancelled => "Transaction cancelled"

end TransactionError

inductive Strategy (χ κ : Type) where
  | clone
  | checkpoint (take : χ → Except String κ) (restore : κ → χ → χ)

structure Manager (χ : Type) where
  context : χ
  commits : Nat := 0
  rollbacks : Nat := 0
  deriving DecidableEq, Repr

abbrev Work (χ τ ρ β : Type) := Activity (χ × τ) (Except (Refusal ρ) β)

variable {χ κ τ ρ β : Type}

namespace Work

def execute (cancelled : τ → Bool) (w : Work χ τ ρ β) (s : χ × τ) :
    Except (TransactionError ρ) β × χ × τ :=
  if cancelled s.2 then (.error .cancelled, s) else
  match w.run (fun s => cancelled s.2) s with
  | (.done (.ok b), s) => (.ok b, s)
  | (.done (.error (.abort reason)), s) => (.error (.aborted reason), s)
  | (.done (.error (.fault cause)), s) => (.error (.failed cause), s)
  | (.panicked message, s) => (.error (.failed ("panic: " ++ message)), s)
  | (.interrupted, s) => (.error .cancelled, s)

end Work

namespace Manager

def commit (m : Manager χ) (context : χ) : Manager χ :=
  { m with context, commits := m.commits + 1 }

def rollback (m : Manager χ) (context : χ) : Manager χ :=
  { m with context, rollbacks := m.rollbacks + 1 }

def transaction (strategy : Strategy χ κ) (cancelled : τ → Bool) (w : Work χ τ ρ β)
    (m : Manager χ) (t : τ) : Except (TransactionError ρ) β × Manager χ × τ :=
  match strategy with
  | .clone =>
    match w.execute cancelled (m.context, t) with
    | (.ok b, working, t) => (.ok b, m.commit working, t)
    | (.error e, _, t) => (.error e, m.rollback m.context, t)
  | .checkpoint take restore =>
    match take m.context with
    | .error reason => (.error (.creationFailed reason), m, t)
    | .ok saved =>
      match w.execute cancelled (m.context, t) with
      | (.ok b, changed, t) => (.ok b, m.commit changed, t)
      | (.error e, changed, t) => (.error e, m.rollback (restore saved changed), t)

end Manager

end DeltaDebugging
