import DeltaDebugging.Graph.Condensation
import DeltaDebugging.Hierarchy.Driver

/-!
# Layers of a condensed graph

The first layer holds the components that depend on nothing; a component is offered
once everything it depends on was kept. Deleting components always deletes whatever
depends on them, directly or not, so no component is ever tested or kept without its
dependencies.
-/
namespace DeltaDebugging

structure Layers where
  /-- By component, whether it has not been deleted yet. -/
  alive : List Bool
  /-- By component, how many of its dependencies have been kept. -/
  keptDependencies : List Nat
  deriving DecidableEq, Repr

namespace Layers

variable {α : Type}

def start (c : Condensed α) : Layers :=
  ⟨List.replicate c.size true, List.replicate c.size 0⟩

def isAlive (l : Layers) (k : Nat) : Bool := l.alive.getD k false

def aliveIds (c : Condensed α) (l : Layers) : List Nat := c.ids.filter l.isAlive

/-- By component, whether it is one of `deleted` or depends on one through live components,
and is alive itself. -/
def closure (c : Condensed α) (l : Layers) (deleted : List Nat) : List Bool :=
  (Graph.spread c.size c.predecessorsOf l.isAlive deleted).toList

def dependents (c : Condensed α) (l : Layers) (deleted : List Nat) : List Nat :=
  let closure := l.closure c deleted
  c.ids.filter fun k => closure.getD k false

/-- The cut of all components that a cut of the current layer stands for: the dead and
the dependents of the deleted ones against the rest. -/
def present (c : Condensed α) (l : Layers) (cut : Cut Nat) : Cut Nat :=
  let dependents := l.dependents c cut.deleted
  let (deleted, retained) := c.ids.partition fun k => !l.isAlive k || dependents.contains k
  ⟨retained, deleted⟩

def kill (c : Condensed α) (l : Layers) (deleted : List Nat) : Layers :=
  { l with alive := List.zipWith (fun alive dead => alive && !dead) l.alive (l.closure c deleted) }

def firstLayer (c : Condensed α) (l : Layers) : Except HierarchyError (Level Nat) :=
  if c.isEmpty then .error .noItems else
  let sinks := c.sinks.filter l.isAlive
  if sinks.isEmpty then .error .noSinks else .ok (Level.ofList sinks)

def newlyKept (c : Condensed α) (kept : List Nat) (k : Nat) : Nat :=
  (kept.filter fun d => (c.predecessorsOf d).contains k).length

/-- Deletes for good, counts the kept dependencies, and offers the live components all
of whose dependencies are kept by now, the last of them in this layer. -/
def nextLayer (c : Condensed α) (l : Layers) (cut : Cut Nat) : Option (Level Nat) × Layers :=
  let l := l.kill c cut.deleted
  let added := c.ids.map fun k => if l.isAlive k then newlyKept c cut.retained k else 0
  let l := { l with keptDependencies := List.zipWith (· + ·) l.keptDependencies added }
  let next := c.ids.filter fun k =>
    decide (0 < added.getD k 0) && decide (l.keptDependencies.getD k 0 = c.outDegree k)
  (if next.isEmpty then none else some (Level.ofList next), l)

end Layers

def Generator.layers {α : Type} (c : Condensed α) : Generator Layers Nat Nat where
  first l := (l.firstLayer c, l)
  next o l := l.nextLayer c o.cut
  present l := l.present c

end DeltaDebugging
