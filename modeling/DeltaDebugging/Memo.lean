import DeltaDebugging.Tester
import DeltaDebugging.Trie

/-!
# Remembered verdicts

A wrapper that answers a trial from memory when the same retained list was
decided before. Undecided trials are never remembered, and an empty level
forgets everything, because the retained list then stands for another context.
-/
namespace DeltaDebugging

namespace Tester

variable {σ α : Type} [DecidableEq α]

structure Cached (σ α : Type) where
  inner : σ
  memory : Trie α Verdict := .empty
  hits : Nat := 0

def cached (t : Tester σ α) : Tester (Cached σ α) α where
  test c s :=
    match s.memory.get? c.retained with
    | some v => (v, { s with hits := s.hits + 1 })
    | none =>
      let (v, inner) := t.test c s.inner
      let memory := if v = .unknown then s.memory else (s.memory.insert c.retained v).2
      (v, { s with inner, memory })
  emptyLevel s := { s with inner := t.emptyLevel s.inner, memory := s.memory.clear }
  cancelled s := t.cancelled s.inner

end Tester

end DeltaDebugging
