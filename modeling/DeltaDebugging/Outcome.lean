import DeltaDebugging.Number.Binary
import DeltaDebugging.Cut

/-!
# Outcomes and statistics

What minimizing one list of items leaves: the retained and the deleted items and the
statistics, whose sizes always agree with the two lists. The counters are those of one
minimization. Every trial is either a successful removal or a failed one, and the undecided
ones are counted among the failed.
-/
namespace DeltaDebugging

structure Statistics where
  originalSize : Nat := 0
  minimizedSize : Nat := 0
  itemsRemoved : Nat := 0
  checksPerformed : Nat := 0
  successfulRemovals : Nat := 0
  failedRemovals : Nat := 0
  unknownResults : Nat := 0
  granularityIncreases : Nat := 0
  maxGranularity : Nat := 0
  earlyTerminated : Bool := false
  terminationReason : Option String := none
  deriving DecidableEq, Repr

namespace Statistics

def success (s : Statistics) : Statistics :=
  { s with
    checksPerformed := s.checksPerformed + 1
    successfulRemovals := s.successfulRemovals + 1 }

def failure (s : Statistics) : Statistics :=
  { s with
    checksPerformed := s.checksPerformed + 1
    failedRemovals := s.failedRemovals + 1 }

def undecided (s : Statistics) : Statistics :=
  { s.failure with unknownResults := s.unknownResults + 1 }

def granularity (s : Statistics) (n : Nat) : Statistics :=
  { s with
    granularityIncreases := s.granularityIncreases + 1
    maxGranularity := max s.maxGranularity n }

def terminateEarly (s : Statistics) (reason : String) : Statistics :=
  { s with earlyTerminated := true, terminationReason := some reason }

/-- Adds another run's counters; its sizes stay out, its early end takes over. -/
def absorb (s other : Statistics) : Statistics :=
  { s with
    checksPerformed := s.checksPerformed + other.checksPerformed
    successfulRemovals := s.successfulRemovals + other.successfulRemovals
    failedRemovals := s.failedRemovals + other.failedRemovals
    unknownResults := s.unknownResults + other.unknownResults
    granularityIncreases := s.granularityIncreases + other.granularityIncreases
    maxGranularity := max s.maxGranularity other.maxGranularity
    earlyTerminated := s.earlyTerminated || other.earlyTerminated
    terminationReason :=
      if other.earlyTerminated then other.terminationReason else s.terminationReason }

def attempts (s : Statistics) : Nat := s.successfulRemovals + s.failedRemovals

/-- The share of trials that held, zero before the first. -/
def successRate (s : Statistics) : Float :=
  if s.attempts = 0 then 0.0 else s.successfulRemovals.toFloat / s.attempts.toFloat

def render (s : Statistics) : String :=
  let undecided :=
    if s.unknownResults > 0 then ", " ++ toString s.unknownResults ++ " undecided" else ""
  let early :=
    match s.earlyTerminated, s.terminationReason with
    | true, some reason => ", early terminated: " ++ reason
    | _, _ => ""
  "Stats \x7b " ++ toString s.itemsRemoved ++ "/" ++ toString s.originalSize ++
    " items removed, " ++ toString s.checksPerformed ++ " checks, " ++
    Number.fixed 1 (s.successRate * 100.0) ++ "% success rate" ++ undecided ++ early ++ " \x7d"

end Statistics

structure Outcome (α : Type) where
  cut : Cut α
  statistics : Statistics
  deriving DecidableEq, Repr

namespace Outcome

variable {α : Type}

def ofCut (cut : Cut α) (s : Statistics) : Outcome α :=
  { cut
    statistics := { s with
      originalSize := cut.size
      minimizedSize := cut.retained.length
      itemsRemoved := cut.deleted.length } }

def empty : Outcome α := ofCut .empty {}

/-- The share of the items that is left, one when there were none. -/
def reductionRatio (o : Outcome α) : Float :=
  if o.statistics.originalSize = 0 then 1.0
  else o.cut.retained.length.toFloat / o.statistics.originalSize.toFloat

def reductionPercentage (o : Outcome α) : Float := (1.0 - o.reductionRatio) * 100.0

end Outcome

end DeltaDebugging
