import DeltaDebugging.Algorithm.Basic
import DeltaDebugging.Level
import DeltaDebugging.Report

/-!
# Hierarchical runs

A generator hands out levels one after another, each built from the outcome of the
one before; the driver minimizes every level in turn and reports on all of them.
A generator may be endless, so the driver stops after a bounded number of levels,
and at once when a level without any deletion is followed by itself.
-/
namespace DeltaDebugging

/-- Where levels come from. `γ` is the generator's state, `α` the items of its levels,
and `β` the items of the cuts that a tester sees. A generator could change the tester's
state as well while it makes a level; those of trees and of layered graphs leave it alone,
so `first` and `next` do not get it. -/
structure Generator (γ α β : Type) where
  first : γ → Except HierarchyError (Level α) × γ
  next : Outcome α → γ → Option (Level α) × γ
  /-- What a cut of the current level means to the tester. -/
  present : γ → Cut α → Cut β

namespace Generator

variable {γ α β : Type}

/-- The generator that also keeps the outcomes it was handed, latest first. -/
def recorded (g : Generator γ α β) : Generator (γ × List (Outcome α)) α β where
  first s := let (level, s') := g.first s.1; (level, s', s.2)
  next o s := let (level, s') := g.next o s.1; (level, s', o :: s.2)
  present s := g.present s.1

end Generator

structure Ending (γ : Type) where
  answer : Except ReductionError Report
  generator : γ

namespace Hierarchy

variable {γ α β : Type}

/-- One level: an empty one is only announced. A token that fired meanwhile stops the
run even if the level itself did not notice. -/
def minimizeLevel (a : Algorithm) (present : Cut α → Cut β) (level : Level α) :
    Attempt AlgorithmError β (Outcome α) := do
  let result ←
    if level.isEmpty then do
      Attempt.emptyLevel
      pure Outcome.empty
    else
      ExceptT.mk ((a.minimize level.items).run.mapCut present)
  Attempt.check a.cancellable .cancelled
  return result

def descend [DecidableEq α] (a : Algorithm) (g : Generator γ α β) (limits : HierarchyLimits) :
    (remaining : Nat) → γ → Level α → Report → Dialogue β (Ending γ)
  | 0, s, _, _ => return ⟨.error (.levelLimitExceeded limits.maxLevels), s⟩
  | remaining + 1, s, level, report => do
    match ← (minimizeLevel a (g.present s) level).run with
    | .error e => return ⟨.error (.minimizer e), s⟩
    | .ok result =>
      let report := report.recordLevel level.size result.cut.retained.length
        result.cut.deleted.length result.statistics
      match g.next result s with
      | (none, s) => return ⟨.ok report, s⟩
      | (some next, s) =>
        if limits.detectStalls && result.cut.deleted.isEmpty && next.items = level.items then
          return ⟨.error (.stalledHierarchy report.levelCount), s⟩
        else
          descend a g limits remaining s next report

def minimize [DecidableEq α] (a : Algorithm) (g : Generator γ α β) (limits : HierarchyLimits)
    (s : γ) : Dialogue β (Ending γ) :=
  match g.first s with
  | (.error e, s) => return ⟨.error (.hierarchyFailed e), s⟩
  | (.ok level, s) => descend a g limits limits.maxLevels s level {}

end Hierarchy

end DeltaDebugging
