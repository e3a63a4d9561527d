import DeltaDebugging.Dialogue
import DeltaDebugging.Error
import DeltaDebugging.Outcome

/-!
# Algorithms

An algorithm turns a list of items into a dialogue about cuts of it. It never
looks at the items themselves, so it is one function for all types of items.
Two extensions may be stacked on any algorithm: asking whether the last remaining
item can go too, and writing the statistics log. There are bounds on one run of an algorithm
and on a hierarchical run.
-/
namespace DeltaDebugging

structure Limits where
  maxIterations : Nat := 100000
  earlyTermination : Bool := false
  earlyTerminationThreshold : Nat := 10
  minSize : Nat := 1
  deriving DecidableEq, Repr

/-- Refuses limits under which no round may be run or an early end is due at once. -/
def Limits.validate (l : Limits) : Except AlgorithmError Unit :=
  if l.maxIterations = 0 then
    .error (.invalidConfig "max_iterations must be positive")
  else if l.earlyTermination && l.earlyTerminationThreshold = 0 then
    .error (.invalidConfig "early_termination_threshold must be positive")
  else .ok ()

structure HierarchyLimits where
  maxLevels : Nat := 10000
  detectStalls : Bool := true
  deriving DecidableEq, Repr

structure Algorithm where
  name : String
  description : String
  /-- Whether the run's cancellation token is attached. -/
  cancellable : Bool
  minimize : {α : Type} → List α → Attempt AlgorithmError α (Outcome α)

def Statistics.afterTrial (s : Statistics) : Verdict → Statistics
  | .holds => s.success
  | .lost => s.failure
  | .unknown => s.undecided

namespace Algorithm

/-- Deletes everything if a single item is left and the property holds without it. -/
def withZeroTesting (a : Algorithm) : Algorithm :=
  { a with
    minimize := fun items => do
      let result ← a.minimize items
      if result.cut.retained.length ≠ 1 then
        return result
      let v ← Attempt.trial a.cancellable ⟨[], items⟩
      let statistics := result.statistics.afterTrial v
      if v.isHolds then
        return Outcome.ofCut ⟨[], items⟩ statistics
      return { result with statistics } }

/-- How many times smaller the items became; infinite when none is left. -/
def shrinkRatio (before after : Nat) : Float :=
  if after = 0 then 1.0 / 0.0 else before.toFloat / after.toFloat

/-- Notes the size before, and the size, the ratio and the counters after a run. -/
def withLog (a : Algorithm) : Algorithm :=
  { a with
    minimize := fun items => do
      Attempt.note (.started a.name items.length)
      let result ← a.minimize items
      let left := result.cut.retained.length
      Attempt.note (.ended a.name left)
      Attempt.note (.ratio a.name (shrinkRatio items.length left))
      Attempt.note (.summary a.name result.statistics.render)
      return result }

end Algorithm

end DeltaDebugging
