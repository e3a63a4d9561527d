import DeltaDebugging.Number.Binary
import DeltaDebugging.Number.Natural
import DeltaDebugging.Outcome

/-!
# Reports

One line per completed level of a hierarchical run, and the sums over them.
-/
namespace DeltaDebugging

structure LevelReport where
  level : Nat
  size : Nat
  retained : Nat
  deleted : Nat
  checks : Nat
  deriving DecidableEq, Repr

structure Report where
  levels : List LevelReport := []
  statistics : Statistics := {}
  deriving DecidableEq, Repr

namespace Report

/-- Appends a level, numbered from one, and adds its sizes and counters. -/
def recordLevel (r : Report) (size retained deleted : Nat) (s : Statistics) : Report :=
  { levels := r.levels ++
      [⟨r.levels.length + 1, size, retained, deleted, s.checksPerformed⟩]
    statistics :=
      { r.statistics with
        originalSize := r.statistics.originalSize + size
        minimizedSize := r.statistics.minimizedSize + retained
        itemsRemoved := r.statistics.itemsRemoved + deleted }.absorb s }

def levelCount (r : Report) : Nat := r.levels.length

def totalDeleted (r : Report) : Nat := Number.total (r.levels.map LevelReport.deleted)

def render (r : Report) (duration : Option Number.Duration) : String :=
  let time := match duration with
    | some d => ", " ++ d.render
    | none => ""
  "HierarchicalReport \x7b " ++ toString r.levels.length ++ " levels, " ++
    toString r.totalDeleted ++ " items deleted, " ++
    toString r.statistics.checksPerformed ++ " checks" ++ time ++ " \x7d"

end Report

end DeltaDebugging
