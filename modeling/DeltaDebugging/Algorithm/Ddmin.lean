import DeltaDebugging.Algorithm.Basic

/-!
# Minimizing delta debugging

The positions left are split into chunks. A round tries each chunk alone, then
each complement of a chunk; the first candidate that holds becomes the new
configuration and the split starts again with two chunks. A round without success
doubles the number of chunks, and ends the search once every chunk is one position.
-/
namespace DeltaDebugging.Ddmin

variable {α : Type}

/-- Consecutive index ranges that cut `len` positions into `n` balanced chunks, or
into single positions if there are fewer than `n`. -/
def chunks (len n : Nat) : List (Nat × Nat) :=
  let n := min n len
  (List.range n).map fun i => (i * len / n, (i + 1) * len / n)

def within (current : List Nat) (chunk : Nat × Nat) : List Nat :=
  (current.drop chunk.1).take (chunk.2 - chunk.1)

def outside (current : List Nat) (chunk : Nat × Nat) : List Nat :=
  current.take chunk.1 ++ current.drop chunk.2

/-- What a round tries, in order: the chunks, then their complements unless there are
only two chunks and so the complements are the chunks again. Candidates below the
least size are left out. -/
def candidates (minSize : Nat) (current : List Nat) (n : Nat) : List (List Nat) :=
  let parts := chunks current.length n
  let complements := if parts.length > 2 then parts.map (outside current) else []
  (parts.map (within current) ++ complements).filter fun c => minSize ≤ c.length

def firstHolding (cancellable : Bool) (items : List α) :
    List (List Nat) → Statistics →
      Attempt AlgorithmError α (Option (List Nat) × Statistics)
  | [], s => return (none, s)
  | kept :: rest, s => do
    let v ← Attempt.trial cancellable (Cut.keeping items kept)
    let s := s.afterTrial v
    if v.isHolds then return (some kept, s)
    firstHolding cancellable items rest s

/-- Rounds over the positions `current` in `n` chunks, at most `remaining` of them;
`failures` counts the rounds since the last success. -/
def rounds (limits : Limits) (cancellable : Bool) (items : List α) :
    (remaining : Nat) → (current : List Nat) → (n failures : Nat) → Statistics →
      Attempt AlgorithmError α (List Nat × Statistics)
  | remaining, current, n, failures, s =>
    if current.length < 2 then return (current, s) else
    match remaining with
    | 0 => throw (.maxIterationsReached limits.maxIterations)
    | remaining + 1 => do
      let (next, s) ←
        firstHolding cancellable items (candidates limits.minSize current n) s
      match next with
      | some next => rounds limits cancellable items remaining next 2 0 s
      | none =>
        if current.length ≤ n then return (current, s)
        let n := min (2 * n) current.length
        let s := s.granularity n
        let failures := failures + 1
        if limits.earlyTermination && limits.earlyTerminationThreshold ≤ failures then
          return (current, s.terminateEarly "no progress")
        rounds limits cancellable items remaining current n failures s

def minimize (limits : Limits) (cancellable : Bool) (items : List α) :
    Attempt AlgorithmError α (Outcome α) := do
  limits.validate
  let (survivors, s) ←
    rounds limits cancellable items limits.maxIterations (List.range items.length) 2 0 {}
  return Outcome.ofCut (Cut.keeping items survivors) s

end DeltaDebugging.Ddmin

namespace DeltaDebugging

def Algorithm.ddmin (limits : Limits) (cancellable : Bool) : Algorithm where
  name := "ddmin"
  description := "Delta debugging using the classic DDMIN algorithm"
  cancellable := cancellable
  minimize := Ddmin.minimize limits cancellable

end DeltaDebugging
