import DeltaDebugging.Verdict
import DeltaDebugging.Cut

/-!
# Testers

A tester judges cuts and may remember anything between calls: `σ` is its state,
which also holds whatever it works on and the cancellation token of the run.
Wrappers add state of their own around that of the tester they wrap.
-/
namespace DeltaDebugging

structure Tester (σ α : Type) where
  test : Cut α → σ → Verdict × σ
  /-- Called once for every level that has no items. -/
  emptyLevel : σ → σ := id
  /-- Whether the run's cancellation token has fired. -/
  cancelled : σ → Bool := fun _ => false

inductive Call (α : Type) where
  | trial (cut : Cut α) (verdict : Verdict)
  | emptyLevel
  deriving DecidableEq, Repr

namespace Call

variable {α : Type}

def trial? : Call α → Option (Cut α × Verdict)
  | trial c v => some (c, v)
  | emptyLevel => none

end Call

namespace Tester

variable {σ α : Type}

/-- The wrapped tester's state beside the calls that reached it, latest first. -/
structure Recorded (σ α : Type) where
  inner : σ
  calls : List (Call α) := []

def recorded (t : Tester σ α) : Tester (Recorded σ α) α where
  test c s :=
    let (v, inner) := t.test c s.inner
    (v, ⟨inner, .trial c v :: s.calls⟩)
  emptyLevel s := ⟨t.emptyLevel s.inner, .emptyLevel :: s.calls⟩
  cancelled s := t.cancelled s.inner

structure Counted (σ : Type) where
  inner : σ
  trials : Nat := 0

def counted (t : Tester σ α) : Tester (Counted σ) α where
  test c s :=
    let (v, inner) := t.test c s.inner
    (v, ⟨inner, s.trials + 1⟩)
  emptyLevel s := { s with inner := t.emptyLevel s.inner }
  cancelled s := t.cancelled s.inner

def ofFunction (f : Cut α → Verdict) : Tester Unit α where
  test c s := (f c, s)

end Tester

end DeltaDebugging
