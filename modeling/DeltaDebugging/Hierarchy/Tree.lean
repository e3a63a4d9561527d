import DeltaDebugging.Hierarchy.Driver

/-!
# Levels of a forest

The first level holds the roots; every later one holds the children of the items
that the level before retained, or of those that it deleted. A level without items
ends the run.
-/
namespace DeltaDebugging

inductive Refinement where
  | retained
  | deleted
  deriving DecidableEq, Repr

namespace Refinement

def name : Refinement → String
  | retained => "retained"
  | deleted => "deleted"

def ofName? (s : String) : Option Refinement :=
  if s = "retained" then some retained
  else if s = "deleted" then some deleted
  else none

def side {α : Type} : Refinement → Cut α → List α
  | retained, c => c.retained
  | deleted, c => c.deleted

end Refinement

/-- The generator of a forest; it keeps no state, and testers see its items as they are. -/
def Generator.tree {α : Type} [DecidableEq α] (roots : List α) (children : α → List α)
    (refinement : Refinement) : Generator Unit α α where
  first s := (if roots.isEmpty then .error .noItems else .ok (Level.ofList roots), s)
  next o s :=
    let next := Level.ofList ((refinement.side o.cut).flatMap children)
    (if next.isEmpty then none else some next, s)
  present _ c := c

end DeltaDebugging
