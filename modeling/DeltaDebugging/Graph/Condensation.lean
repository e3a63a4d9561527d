import DeltaDebugging.Cut
import DeltaDebugging.Graph.Dependency
import DeltaDebugging.Graph.Search
import DeltaDebugging.Graph.Tarjan
import DeltaDebugging.Level
import DeltaDebugging.Number.Natural

/-!
# Condensed graphs

The quotient of a dependency graph by mutual reachability. Its components are
numbered so that every dependency leads to a higher number: in the order in which
one depth-first search over all vertices completed them, the last first.
-/
namespace DeltaDebugging

/-- The first place from `low` on at which `p` fails, or `high` if it fails at none below.
It halves the places in question, so it is right only if `p` fails from its first failure on. -/
def bisect (p : Nat → Bool) (low high : Nat) : Nat :=
  if low < high then
    let middle := (low + high) / 2
    if p middle then bisect p (middle + 1) high else bisect p low middle
  else low
termination_by high - low

/-- Vertices that reach one another, ascending, with their items and the edges
between them. -/
structure Component (α : Type) where
  items : List α
  vertices : List Nat
  internalEdges : List (α × α)
  deriving DecidableEq, Repr

namespace Component

variable {α : Type}

def size (c : Component α) : Nat := c.items.length

/-- More than one item, or an item that depends on itself. -/
def isCyclic (c : Component α) : Bool := decide (1 < c.items.length) || !c.internalEdges.isEmpty

def place (c : Component α) (v : Nat) : Nat :=
  bisect (fun i => decide (c.vertices.getD i 0 < v)) 0 c.vertices.length

end Component

structure Condensed (α : Type) where
  components : List (Component α)
  successors : List (List Nat)
  predecessors : List (List Nat)
  /-- The component of every vertex of the dependency graph. -/
  componentOf : List Nat
  deriving DecidableEq, Repr

namespace Condensed

variable {α : Type}

/-- The vertex lists of the components, in topological order: the search completes a
component after all that it leads to. -/
def partition (g : DependencyGraph α) : List (List Nat) :=
  (Graph.Tarjan.run g.items.length g.successorsOf).components

def partOf (parts : List (List Nat)) (v : Nat) : Nat := parts.findIdx fun part => part.contains v

def edges (g : DependencyGraph α) : List (Nat × Nat) :=
  (List.range g.items.length).flatMap fun u => (g.successorsOf u).map fun v => (u, v)

def ofGraph (g : DependencyGraph α) : Condensed α :=
  let parts := partition g
  let componentOf := (List.range g.items.length).map (partOf parts)
  let edges := edges g
  let between := edges.map fun e => (componentOf.getD e.1 0, componentOf.getD e.2 0)
  let ids := List.range parts.length
  let itemsOf (vs : List Nat) : List α := vs.filterMap fun v => g.items[v]?
  { components := parts.map fun vertices =>
      { items := itemsOf vertices
        vertices
        internalEdges := edges.filterMap fun e =>
          if vertices.contains e.1 && vertices.contains e.2 then
            match g.items[e.1]?, g.items[e.2]? with
            | some a, some b => some (a, b)
            | _, _ => none
          else none }
    successors := ids.map fun k => ids.filter fun d => k ≠ d && between.contains (k, d)
    predecessors := ids.map fun k => ids.filter fun d => k ≠ d && between.contains (d, k)
    componentOf }

def size (c : Condensed α) : Nat := c.components.length

def isEmpty (c : Condensed α) : Bool := c.components.isEmpty

def ids (c : Condensed α) : List Nat := List.range c.size

def successorsOf (c : Condensed α) (k : Nat) : List Nat := c.successors.getD k []

def predecessorsOf (c : Condensed α) (k : Nat) : List Nat := c.predecessors.getD k []

def outDegree (c : Condensed α) (k : Nat) : Nat := (c.successorsOf k).length

def sinks (c : Condensed α) : List Nat := c.ids.filter fun k => c.outDegree k = 0

def edgeCount (c : Condensed α) : Nat := Number.total (c.successors.map List.length)

def label (k : Nat) : String := "scc#" ++ toString k

def decrement? (counts : List Nat) (k : Nat) : Option (List Nat) :=
  if 0 < counts.getD k 0 then some (counts.modify k (· - 1)) else none

/-- Repeatedly removes a component without remaining predecessors, at most `steps`
times, and counts those removed. -/
def removeReady (c : Condensed α) :
    (steps : Nat) → (ready : List Nat) → (inDegree : List Nat) → (removed : Nat) → Option Nat
  | _, [], _, removed => some removed
  | 0, _ :: _, _, removed => some removed
  | steps + 1, k :: ready, inDegree, removed => do
    let (inDegree, freed) ← (c.successorsOf k).foldlM (fun (counts, freed) d => do
      let counts ← decrement? counts d
      return (counts, if counts.getD d 0 = 0 then freed ++ [d] else freed)) (inDegree, [])
    removeReady c steps (ready ++ freed) inDegree (removed + 1)

def isAcyclic (c : Condensed α) : Bool :=
  let inDegree := c.predecessors.map List.length
  let ready := c.ids.filter fun k => inDegree.getD k 0 = 0
  decide (removeReady c c.size ready inDegree 0 = some c.size)

/-- The length of the longest chain of dependencies from each component. Dependencies
lead to higher numbers, so the list is filled from its end. -/
def depths (c : Condensed α) : List Nat :=
  c.ids.foldr (fun k later =>
    (((c.successorsOf k).map fun d => later.getD (d - k - 1) 0 + 1).foldl max 0) :: later) []

def verticesOf (c : Condensed α) (ids : List Nat) : List Nat :=
  (distinct (ids.flatMap fun k => (c.components[k]?.map Component.vertices).getD [])).mergeSort

def itemOf (c : Condensed α) (v : Nat) : Option α := do
  let k ← c.componentOf[v]?
  let component ← c.components[k]?
  component.items[component.place v]?

def expand (c : Condensed α) (ids : List Nat) : List α := (c.verticesOf ids).filterMap c.itemOf

def expandCut (c : Condensed α) (cut : Cut Nat) : Cut α :=
  ⟨c.expand cut.retained, c.expand cut.deleted⟩

end Condensed

end DeltaDebugging
