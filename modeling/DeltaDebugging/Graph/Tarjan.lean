import DeltaDebugging.Number.Natural

/-!
# Strongly connected components

One depth-first search finds the sets of vertices that reach one another. It numbers
the vertices as it enters them and keeps those whose component is not complete on a
stack. The lowlink of a vertex is the least number on the stack that the search knows
it to reach; a vertex whose lowlink is its own number when all its edges are followed
completes a component, which is then the stack down to it.

The calls of the search are an explicit list of frames. A step follows one edge or
closes one frame, so a search takes at most one step for each vertex and each edge.
-/
namespace DeltaDebugging.Graph

structure Tarjan where
  /-- By vertex, its number if it was entered. -/
  index : Array (Option Nat)
  lowlink : Array Nat
  onStack : Array Bool
  /-- The latest first. -/
  stack : List Nat
  nextIndex : Nat
  /-- The complete components, the latest first. -/
  components : List (List Nat)
  deriving DecidableEq, Repr

namespace Tarjan

/-- A vertex on the way from the root, with its edges that are not followed yet. -/
structure Frame where
  vertex : Nat
  targets : List Nat
  deriving DecidableEq, Repr

def start (n : Nat) : Tarjan where
  index := Array.replicate n none
  lowlink := Array.replicate n 0
  onStack := Array.replicate n false
  stack := []
  nextIndex := 0
  components := []

def index? (t : Tarjan) (v : Nat) : Option Nat := t.index.getD v none

def low (t : Tarjan) (v : Nat) : Nat := t.lowlink.getD v 0

def isOnStack (t : Tarjan) (v : Nat) : Bool := t.onStack.getD v false

def enter (t : Tarjan) (v : Nat) : Tarjan :=
  { t with
    index := t.index.setIfInBounds v (some t.nextIndex)
    lowlink := t.lowlink.setIfInBounds v t.nextIndex
    nextIndex := t.nextIndex + 1
    stack := v :: t.stack
    onStack := t.onStack.setIfInBounds v true }

def lower (t : Tarjan) (v i : Nat) : Tarjan :=
  { t with lowlink := t.lowlink.setIfInBounds v (min (t.low v) i) }

def popThrough (v : Nat) : List Nat → List Nat × List Nat
  | [] => ([], [])
  | w :: stack =>
    if w = v then ([w], stack) else
      let (members, rest) := popThrough v stack
      (w :: members, rest)

/-- Takes the stack down to `v` off as a component, its members ascending. -/
def complete (t : Tarjan) (v : Nat) : Tarjan :=
  let (members, rest) := popThrough v t.stack
  { t with
    stack := rest
    onStack := members.foldl (fun on w => on.setIfInBounds w false) t.onStack
    components := members.mergeSort :: t.components }

/-- Follows an edge from `v` to `w`. A new vertex gets a frame of its own. -/
def follow (successors : Nat → List Nat) (t : Tarjan) (v w : Nat) : Tarjan × List Frame :=
  match t.index? w with
  | none => (t.enter w, [⟨w, successors w⟩])
  | some i => (if t.isOnStack w then t.lower v i else t, [])

def propagate (t : Tarjan) (v : Nat) : (parent? : Option Nat) → Tarjan
  | some parent => t.lower parent (t.low v)
  | none => t

def close (t : Tarjan) (v : Nat) (parent? : Option Nat) : Tarjan :=
  let t := t.propagate v parent?
  if t.index? v = some (t.low v) then t.complete v else t

/-- Works the frames off, in at most `steps` steps. -/
def visit (successors : Nat → List Nat) : (steps : Nat) → Tarjan → List Frame → Tarjan
  | _, t, [] => t
  | 0, t, _ :: _ => t
  | steps + 1, t, ⟨v, w :: targets⟩ :: frames =>
    let (t, opened) := t.follow successors v w
    visit successors steps t (opened ++ ⟨v, targets⟩ :: frames)
  | steps + 1, t, ⟨v, []⟩ :: frames =>
    visit successors steps (t.close v (frames.head?.map Frame.vertex)) frames

def explore (successors : Nat → List Nat) (steps : Nat) (t : Tarjan) (root : Nat) : Tarjan :=
  if t.index? root = none then visit successors steps (t.enter root) [⟨root, successors root⟩]
  else t

def run (n : Nat) (successors : Nat → List Nat) : Tarjan :=
  let steps := Number.total ((List.range n).map fun v => (successors v).length + 1)
  (List.range n).foldl (explore successors steps) (start n)

end Tarjan

end DeltaDebugging.Graph
