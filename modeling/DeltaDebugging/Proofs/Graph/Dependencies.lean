import DeltaDebugging.Graph.Minimize
import DeltaDebugging.Proofs.Graph.Layers
import DeltaDebugging.Proofs.Hierarchy.Visits

/-!
# No item without its dependencies

The driver hands the generator of layers nothing but results, so it presents every cut in
the state that the results so far lead to. Hence a graph run, like any other use of the
generator, never tests an item and never keeps one without all that it depends on.
-/
namespace DeltaDebugging

open DeltaDebugging.Graph (Path)
open DeltaDebugging.Condensed (ofGraph)
open Layers (Closed)

variable {σ τ α : Type} {g : DependencyGraph α} {l : Layers} {k : Nat}

namespace Layers

theorem Closed.mem_aliveIds {c : Condensed α} (h : Closed c l) :
    k ∈ l.aliveIds c ↔ l.isAlive k = true := by
  rw [aliveIds, List.mem_filter, Condensed.mem_ids]
  exact ⟨fun hk => hk.2, fun hk => ⟨h.lt_size hk, hk⟩⟩

end Layers

namespace GraphOutcome

theorem answer_minimizeCondensed (a : Algorithm) (limits : HierarchyLimits) (c : Condensed α)
    (t : Tester σ Nat) (s : σ) :
    ((minimizeCondensed a limits c).run t s).answer =
      let ending := ((Hierarchy.minimize a.withZeroTesting (Generator.layers c) limits
        (Layers.start c)).run t s).answer
      ending.answer.map fun report => (ending.generator.aliveIds c, report) := by
  rw [minimizeCondensed, Dialogue.run_seq]
  rfl

theorem trials_minimizeCondensed (a : Algorithm) (limits : HierarchyLimits) (c : Condensed α)
    (t : Tester σ Nat) (s : σ) :
    ((minimizeCondensed a limits c).run t s).trials =
      ((Hierarchy.minimize a.withZeroTesting (Generator.layers c) limits
        (Layers.start c)).run t s).trials := by
  rw [minimizeCondensed, Dialogue.trials_seq]
  exact List.append_nil _

theorem minimizeCondensed_asks (a : Algorithm) (limits : HierarchyLimits) (g : DependencyGraph α) :
    (minimizeCondensed a limits (ofGraph g)).Asks
      (fun cut => ∃ l requested, Closed (ofGraph g) l ∧ cut = l.present (ofGraph g) requested)
      (fun answer => ∀ survivors report, answer = .ok (survivors, report) →
        ∃ l, Closed (ofGraph g) l ∧ survivors = l.aliveIds (ofGraph g)) := by
  refine Dialogue.Asks.bind (Hierarchy.minimize_asks (fun l hl cut => ⟨l, cut, hl, rfl⟩)
    (fun l o hl => hl.nextLayer o.cut) (Layers.closed_start g)) ?_
  rintro ⟨answer, l⟩ hl survivors report heq
  cases answer with
  | error e => cases heq
  | ok _ =>
    cases heq
    exact ⟨l, hl, rfl⟩

theorem respects_aliveIds (hl : Closed (ofGraph g) l) :
    g.Respects ((ofGraph g).expandCut ⟨l.aliveIds (ofGraph g),
      (ofGraph g).ids.filter fun k => !(l.aliveIds (ofGraph g)).contains k⟩) := by
  apply Condensed.respects_expandCut
  · intro k hk
    simp [hk]
  · intro k hk d hd
    rw [hl.mem_aliveIds] at hk ⊢
    exact hl.alive_of_edge k hk d hd

theorem minimize_asks (a : Algorithm) (limits : HierarchyLimits) (g : DependencyGraph α) :
    (minimize a limits g).Asks g.Respects fun answer => ∀ o, answer = .ok o → g.Respects o.cut := by
  unfold minimize
  split
  · next hempty =>
    intro o heq
    cases heq
    have hitems : g.items = [] := List.isEmpty_iff.mp hempty
    constructor
    · constructor <;> simp [Cut.empty, hitems]
    · simp [Cut.empty]
  · have hcuts : ((minimizeCondensed a limits (ofGraph g)).mapCut (ofGraph g).expandCut).Asks
        g.Respects (fun answer => ∀ survivors report, answer = .ok (survivors, report) →
          ∃ l, Closed (ofGraph g) l ∧ survivors = l.aliveIds (ofGraph g)) := by
      refine .mapCut ((minimizeCondensed_asks a limits g).mono ?_ fun _ h => h)
      rintro _ ⟨l, requested, hl, rfl⟩
      exact (hl.presents requested).respects
    refine hcuts.bind fun answer hanswer o heq => ?_
    cases answer with
    | error e => cases heq
    | ok answer =>
      obtain ⟨survivors, report⟩ := answer
      obtain ⟨l, hl, rfl⟩ := hanswer survivors report rfl
      cases heq
      exact respects_aliveIds hl

end GraphOutcome

end DeltaDebugging
