import DeltaDebugging.Graph.Layers

/-!
# Minimizing dependency graphs

A graph is condensed first, so that a cycle is deleted as a unit, and then minimized
layer by layer from the components that depend on nothing. Every layer may lose its
last component. Where edges only express grouping, all components can be minimized
as one flat level instead.
-/
namespace DeltaDebugging

/-- The items that survived and those deleted, in order of first mention. -/
structure GraphOutcome (α : Type) where
  cut : Cut α
  report : Report
  deriving DecidableEq, Repr

namespace GraphOutcome

variable {α : Type}

def minimizeCondensed (a : Algorithm) (limits : HierarchyLimits) (c : Condensed α) :
    Dialogue Nat (Except ReductionError (List Nat × Report)) := do
  let ending ← Hierarchy.minimize a.withZeroTesting (Generator.layers c) limits (Layers.start c)
  return ending.answer.map fun report => (ending.generator.aliveIds c, report)

def minimize (a : Algorithm) (limits : HierarchyLimits) (g : DependencyGraph α) :
    Dialogue α (Except ReductionError (GraphOutcome α)) :=
  if g.items.isEmpty then return .ok ⟨.empty, {}⟩ else do
  let c := Condensed.ofGraph g
  let answer ← (minimizeCondensed a limits c).mapCut c.expandCut
  return answer.map fun (survivors, report) =>
    let dead := c.ids.filter fun k => !survivors.contains k
    ⟨c.expandCut ⟨survivors, dead⟩, report⟩

/-- All components as one level, whatever depends on what. -/
def minimizeFlat (a : Algorithm) (g : DependencyGraph α) :
    Dialogue α (Except ReductionError (GraphOutcome α)) := do
  let c := Condensed.ofGraph g
  let answer ← ((a.withZeroTesting.minimize c.ids).run).mapCut c.expandCut
  return (answer.mapError .minimizer).map fun o =>
    let report := ({} : Report).recordLevel c.size o.cut.retained.length o.cut.deleted.length
      o.statistics
    ⟨c.expandCut o.cut, report⟩

end GraphOutcome

end DeltaDebugging
