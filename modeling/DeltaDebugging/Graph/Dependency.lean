import DeltaDebugging.Graph.UnionFind
import DeltaDebugging.Number.Natural

/-!
# Dependency graphs

Items with the items each of them depends on. A graph is built from mentions of
items, dependencies and equivalences; items are numbered in order of first mention.
Every group of equivalent items is linked into a cycle, so that its members can only
be deleted together.
-/
namespace DeltaDebugging

def insertAscending (n : Nat) : List Nat → List Nat
  | [] => [n]
  | m :: l => if n < m then n :: m :: l else if n = m then m :: l else m :: insertAscending n l

theorem mem_insertAscending {n v : Nat} {l : List Nat} :
    v ∈ insertAscending n l ↔ v = n ∨ v ∈ l := by
  induction l with
  | nil => simp [insertAscending]
  | cons m l ih =>
    unfold insertAscending
    split
    · simp
    · split
      · next h => simp [h]
      · simp [ih, or_left_comm]

theorem pairwise_insertAscending {n : Nat} {l : List Nat} (h : l.Pairwise (· < ·)) :
    (insertAscending n l).Pairwise (· < ·) := by
  induction l with
  | nil => simp [insertAscending]
  | cons m l ih =>
    obtain ⟨hm, hl⟩ := List.pairwise_cons.mp h
    unfold insertAscending
    split
    · next hn =>
      refine List.pairwise_cons.mpr ⟨fun v hv => ?_, h⟩
      rcases List.mem_cons.mp hv with rfl | hv
      · exact hn
      · exact Nat.lt_trans hn (hm v hv)
    · split
      · exact h
      · refine List.pairwise_cons.mpr ⟨fun v hv => ?_, ih hl⟩
        rcases mem_insertAscending.mp hv with rfl | hv
        · omega
        · exact hm v hv

theorem mem_or_eq_of_mem_modify {f : List Nat → List Nat} {rows : List (List Nat)} {u : Nat}
    {l : List Nat} (h : l ∈ rows.modify u f) : l ∈ rows ∨ ∃ old ∈ rows, l = f old := by
  induction rows generalizing u with
  | nil => simp at h
  | cons row rows ih =>
    cases u with
    | zero =>
      rcases List.mem_cons.mp h with rfl | h
      · exact Or.inr ⟨row, by simp, rfl⟩
      · exact Or.inl (List.mem_cons_of_mem _ h)
    | succ u =>
      rcases List.mem_cons.mp h with rfl | h
      · exact Or.inl (by simp)
      · rcases ih h with h | ⟨old, hold, rfl⟩
        · exact Or.inl (List.mem_cons_of_mem _ h)
        · exact Or.inr ⟨old, List.mem_cons_of_mem _ hold, rfl⟩

structure DependencyGraph (α : Type) where
  items : List α
  /-- For every item, by number, the numbers it depends on, ascending. -/
  successors : List (List Nat)
  nodup : items.Nodup
  length_successors : successors.length = items.length
  ascending : ∀ l ∈ successors, l.Pairwise (· < ·)
  bounded : ∀ l ∈ successors, ∀ v ∈ l, v < items.length
  deriving Repr

namespace DependencyGraph

variable {α : Type}

def empty : DependencyGraph α := ⟨[], [], by simp, rfl, by simp, by simp⟩

def size (g : DependencyGraph α) : Nat := g.items.length

def isEmpty (g : DependencyGraph α) : Bool := g.items.isEmpty

def successorsOf (g : DependencyGraph α) (v : Nat) : List Nat := g.successors.getD v []

def edgeCount (g : DependencyGraph α) : Nat := Number.total (g.successors.map List.length)

/-- Adds an edge from `u` to `v`; there are none to numbers of no item. -/
def link (g : DependencyGraph α) (u v : Nat) : DependencyGraph α :=
  if hv : v < g.items.length then
    { g with
      successors := g.successors.modify u (insertAscending v)
      length_successors := by simp [g.length_successors]
      ascending := by
        intro l hl
        rcases mem_or_eq_of_mem_modify hl with hl | ⟨old, hold, rfl⟩
        · exact g.ascending l hl
        · exact pairwise_insertAscending (g.ascending old hold)
      bounded := by
        intro l hl w hw
        rcases mem_or_eq_of_mem_modify hl with hl | ⟨old, hold, rfl⟩
        · exact g.bounded l hl w hw
        · rcases mem_insertAscending.mp hw with rfl | hw
          · exact hv
          · exact g.bounded old hold w hw }
  else g

theorem mem_successorsOf_lt {g : DependencyGraph α} {u v : Nat} (h : v ∈ g.successorsOf u) :
    u < g.size ∧ v < g.size := by
  unfold successorsOf List.getD at h
  cases hrow : g.successors[u]? with
  | none => simp [hrow] at h
  | some row =>
    rw [hrow, Option.getD_some] at h
    have hu := (List.getElem?_eq_some_iff.mp hrow).1
    rw [g.length_successors] at hu
    exact ⟨hu, g.bounded row (List.mem_of_getElem? hrow) v h⟩

variable [DecidableEq α]

def indexOf? (g : DependencyGraph α) (a : α) : Option Nat := g.items.idxOf? a

def addItem (g : DependencyGraph α) (a : α) : Nat × DependencyGraph α :=
  if ha : a ∈ g.items then (g.items.idxOf a, g) else
    (g.items.length,
      { items := g.items ++ [a]
        successors := g.successors ++ [[]]
        nodup := by
          refine List.nodup_append.mpr ⟨g.nodup, by simp, ?_⟩
          intro b hb c hc hbc
          exact ha (by simpa [← List.mem_singleton.mp hc, ← hbc] using hb)
        length_successors := by simp [g.length_successors]
        ascending := by
          intro l hl
          rcases List.mem_append.mp hl with hl | hl
          · exact g.ascending l hl
          · simp [List.mem_singleton.mp hl]
        bounded := by
          intro l hl v hv
          rcases List.mem_append.mp hl with hl | hl
          · have := g.bounded l hl v hv
            simp
            omega
          · simp [List.mem_singleton.mp hl] at hv })

inductive Declaration (α : Type) where
  | item (a : α)
  | dependency (dependent dependency : α)
  | equivalence (a b : α)
  deriving DecidableEq, Repr

/-- What has been declared so far; equivalences are numbers of items. -/
structure Builder (α : Type) where
  graph : DependencyGraph α := .empty
  equivalences : List (Nat × Nat) := []

namespace Builder

def addItem (b : Builder α) (a : α) : Nat × Builder α :=
  let (v, graph) := b.graph.addItem a
  (v, { b with graph })

def addDependency (b : Builder α) (dependent dependency : α) : Builder α :=
  let (u, b) := b.addItem dependent
  let (v, b) := b.addItem dependency
  { b with graph := b.graph.link u v }

def addEquivalence (b : Builder α) (x y : α) : Builder α :=
  let (u, b) := b.addItem x
  let (v, b) := b.addItem y
  { b with equivalences := b.equivalences ++ [(u, v)] }

def declare (b : Builder α) : Declaration α → Builder α
  | .item a => (b.addItem a).2
  | .dependency x y => b.addDependency x y
  | .equivalence x y => b.addEquivalence x y

def cycle (group : List Nat) : List (Nat × Nat) :=
  group.zip (group.drop 1 ++ group.take 1)

def build (b : Builder α) : DependencyGraph α :=
  let sets := b.equivalences.foldl (fun sets e => (sets.union e.1 e.2).2)
    (UnionFind.singletons b.graph.items.length)
  (sets.groups.flatMap cycle).foldl (fun g e => g.link e.1 e.2) b.graph

end Builder

def ofDeclarations (ds : List (Declaration α)) : DependencyGraph α :=
  (ds.foldl Builder.declare {}).build

end DependencyGraph

end DeltaDebugging
