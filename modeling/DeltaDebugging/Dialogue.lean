import DeltaDebugging.Tester
import DeltaDebugging.Error

/-!
# Dialogues

An algorithm is a sequence of questions whose next question depends only on the
answers so far. A dialogue is the tree of all such sequences, so a statement about
every tester, whatever it remembers, is a statement about every branch. Running a
dialogue against a tester follows one branch and lists the steps taken.

The questions are: a trial of a cut, whether the cancellation token has fired, and
the announcement of an empty level; a note is a line of the statistics log.
-/
namespace DeltaDebugging

/-- Lines of the statistics log, each naming the algorithm that wrote it. -/
inductive Note where
  | started (algorithm : String) (size : Nat)
  | ended (algorithm : String) (size : Nat)
  | ratio (algorithm : String) (value : Float)
  | summary (algorithm : String) (text : String)
  deriving Repr

inductive Dialogue (α β : Type) where
  | done (b : β)
  | ask (c : Cut α) (k : Verdict → Dialogue α β)
  | poll (k : Bool → Dialogue α β)
  | emptyLevel (k : Unit → Dialogue α β)
  | note (n : Note) (k : Unit → Dialogue α β)

inductive Step (α : Type) where
  | trial (cut : Cut α) (verdict : Verdict)
  | emptyLevel
  | note (n : Note)

structure Run (σ α β : Type) where
  answer : β
  state : σ
  steps : List (Step α)

def Run.trials {σ α β : Type} (r : Run σ α β) : List (Cut α × Verdict) :=
  r.steps.filterMap fun
    | .trial c v => some (c, v)
    | _ => none

def Run.notes {σ α β : Type} (r : Run σ α β) : List Note :=
  r.steps.filterMap fun
    | .note n => some n
    | _ => none

namespace Dialogue

variable {σ α β γ : Type}

def bind : Dialogue α β → (β → Dialogue α γ) → Dialogue α γ
  | done b, f => f b
  | ask c k, f => ask c fun v => (k v).bind f
  | poll k, f => poll fun b => (k b).bind f
  | emptyLevel k, f => emptyLevel fun u => (k u).bind f
  | note n k, f => note n fun u => (k u).bind f

instance : Monad (Dialogue α) where
  pure := done
  bind := bind

/-- The dialogue about cuts of `α` led about the cuts of `δ` they stand for. -/
def mapCut {δ : Type} (f : Cut α → Cut δ) : Dialogue α β → Dialogue δ β
  | done b => done b
  | ask c k => ask (f c) fun v => (k v).mapCut f
  | poll k => poll fun b => (k b).mapCut f
  | emptyLevel k => emptyLevel fun u => (k u).mapCut f
  | note n k => note n fun u => (k u).mapCut f

def run (t : Tester σ α) : Dialogue α β → σ → Run σ α β
  | done b, s => ⟨b, s, []⟩
  | ask c k, s =>
    let (v, s) := t.test c s
    let r := run t (k v) s
    { r with steps := .trial c v :: r.steps }
  | poll k, s => run t (k (t.cancelled s)) s
  | emptyLevel k, s =>
    let r := run t (k ()) (t.emptyLevel s)
    { r with steps := .emptyLevel :: r.steps }
  | note n k, s =>
    let r := run t (k ()) s
    { r with steps := .note n :: r.steps }

theorem bind_assoc {δ : Type} (d : Dialogue α β) (f : β → Dialogue α γ) (g : γ → Dialogue α δ) :
    (d.bind f).bind g = d.bind fun b => (f b).bind g := by
  induction d with
  | done b => rfl
  | ask c k ih => simp [bind, ih]
  | poll k ih => simp [bind, ih]
  | emptyLevel k ih => simp [bind, ih]
  | note n k ih => simp [bind, ih]

theorem run_bind (t : Tester σ α) (d : Dialogue α β) (f : β → Dialogue α γ) (s : σ) :
    (d.bind f).run t s =
      let r := d.run t s
      let r' := (f r.answer).run t r.state
      ⟨r'.answer, r'.state, r.steps ++ r'.steps⟩ := by
  induction d generalizing s with
  | done b => rfl
  | ask c k ih => simp [bind, run, ih]
  | poll k ih => simp [bind, run, ih]
  | emptyLevel k ih => simp [bind, run, ih]
  | note n k ih => simp [bind, run, ih]

end Dialogue

abbrev Attempt (ε α β : Type) := ExceptT ε (Dialogue α) β

namespace Attempt

variable {ε α β : Type}

def ask (c : Cut α) : Attempt ε α Verdict := ExceptT.lift (.ask c .done)

def note (n : Note) : Attempt ε α Unit := ExceptT.lift (.note n .done)

def emptyLevel : Attempt ε α Unit := ExceptT.lift (.emptyLevel .done)

/-- Stops with `e` if a token is attached and has fired. -/
def check (cancellable : Bool) (e : ε) : Attempt ε α Unit :=
  if cancellable then
    ExceptT.mk (.poll fun fired => .done (if fired then .error e else .ok ()))
  else pure ()

/-- A trial of an algorithm: a fired token is noticed before the question and after
the answer, whatever the answer was. -/
def trial (cancellable : Bool) (c : Cut α) : Attempt AlgorithmError α Verdict := do
  check cancellable .cancelled
  let v ← ask c
  check cancellable .cancelled
  return v

end Attempt

end DeltaDebugging
