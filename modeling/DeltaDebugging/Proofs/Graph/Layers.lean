import DeltaDebugging.Graph.Layers
import DeltaDebugging.Proofs.Graph.Expansion
import DeltaDebugging.Proofs.Graph.Search

/-!
# The states of the layers

Whatever results are handed over, no live component depends on a dead one. The search for
the dependents of a component may therefore stop at the dead: a live component has only
live ones on its way to what it depends on. So the cut that is presented deletes the dead
and all that depends on what a result deletes, and what it retains is closed again.
-/
namespace DeltaDebugging

open DeltaDebugging.Graph (Path Search)
open DeltaDebugging.Condensed (ofGraph)

variable {α : Type} {g : DependencyGraph α} {l : Layers} {deleted : List Nat} {cut : Cut Nat}
  {k d : Nat}

namespace Condensed

theorem lt_size_of_mem_successorsOf (h : d ∈ (ofGraph g).successorsOf k) :
    k < (ofGraph g).size ∧ d < (ofGraph g).size := by
  rw [size_ofGraph]
  exact (mem_successorsOf_ofGraph.mp h).2.lt

theorem lt_of_mem_successorsOf (h : d ∈ (ofGraph g).successorsOf k) : k < d := by
  obtain ⟨hne, hlinked⟩ := mem_successorsOf_ofGraph.mp h
  exact Nat.lt_of_le_of_ne hlinked.le hne

theorem mem_predecessorsOf_iff_successorsOf :
    k ∈ (ofGraph g).predecessorsOf d ↔ d ∈ (ofGraph g).successorsOf k := by
  rw [mem_predecessorsOf_ofGraph, mem_successorsOf_ofGraph]

@[simp] theorem mem_ids {c : Condensed α} : k ∈ c.ids ↔ k < c.size := List.mem_range

end Condensed

namespace Layers

open DeltaDebugging.Condensed (lt_size_of_mem_successorsOf mem_ids
  mem_predecessorsOf_iff_successorsOf)

/-- What the layers are once these results were handed over, one after another. -/
def after (c : Condensed α) (l : Layers) (results : List (Cut Nat)) : Layers :=
  results.foldl (fun l cut => (l.nextLayer c cut).2) l

/-- Every component has a mark and a counter, and none alive depends on a dead one. -/
structure Closed (c : Condensed α) (l : Layers) : Prop where
  length_alive : l.alive.length = c.size
  length_kept : l.keptDependencies.length = c.size
  alive_of_edge : ∀ k, l.isAlive k = true → ∀ d ∈ c.successorsOf k, l.isAlive d = true

section Dependents

theorem isAlive_start (c : Condensed α) (k : Nat) :
    (start c).isAlive k = true ↔ k < c.size := by
  by_cases hk : k < c.size <;> simp [isAlive, start, hk]

theorem lt_of_isAlive (h : l.isAlive k = true) : k < l.alive.length := by
  by_contra hk
  simp [isAlive, List.getElem?_eq_none (Nat.not_lt.mp hk)] at h

@[simp] theorem length_closure (c : Condensed α) (l : Layers) (deleted : List Nat) :
    (l.closure c deleted).length = c.size := by
  rw [closure, Array.length_toList, Graph.size_spread]

theorem closure_eq_true_iff : (l.closure (ofGraph g) deleted).getD k false = true ↔
    k < (ofGraph g).size ∧ l.isAlive k = true ∧ ∃ d ∈ deleted, l.isAlive d = true ∧
      Path (fun k => ((ofGraph g).successorsOf k).filter l.isAlive) k d := by
  have hmark : (l.closure (ofGraph g) deleted).getD k false = true ↔
      (Graph.spread (ofGraph g).size (ofGraph g).predecessorsOf l.isAlive deleted)[k]? =
        some true := by
    rw [closure, List.getD_eq_getElem?_getD, Array.getElem?_toList]
    cases (Graph.spread (ofGraph g).size (ofGraph g).predecessorsOf l.isAlive deleted)[k]? <;> simp
  have hbound : ∀ d, ∀ k ∈ (ofGraph g).predecessorsOf d, k < (ofGraph g).size := fun d k hk =>
    (lt_size_of_mem_successorsOf (mem_predecessorsOf_iff_successorsOf.mp hk)).1
  rw [hmark]
  constructor
  · intro hmarked
    obtain ⟨d, hd, -, halive, hp⟩ := (Graph.spread_eq_true_iff hbound).mp hmarked
    obtain ⟨hk, hp⟩ := hp.reverse (fun _ _ => mem_predecessorsOf_iff_successorsOf) halive
    refine ⟨?_, hk, d, hd, halive, hp⟩
    have hlt := (Array.getElem?_eq_some_iff.mp hmarked).1
    rwa [Graph.size_spread] at hlt
  · rintro ⟨hlt, hk, d, hd, halive, hp⟩
    have hbelow : d < (ofGraph g).size :=
      hp.of_filter.lt_of_bounded (fun _ _ he => (lt_size_of_mem_successorsOf he).2) hlt
    refine (Graph.spread_eq_true_iff hbound).mpr ⟨d, hd, hbelow, halive, ?_⟩
    exact (hp.reverse (fun _ _ => mem_predecessorsOf_iff_successorsOf.symm) hk).2

theorem mem_dependents_iff_closure {c : Condensed α} : k ∈ l.dependents c deleted ↔
    (l.closure c deleted).getD k false = true := by
  rw [dependents, List.mem_filter, mem_ids]
  refine and_iff_right_of_imp fun hmarked => ?_
  by_contra hk
  rw [List.getD_eq_getElem?_getD, List.getElem?_eq_none (by simpa using hk)] at hmarked
  cases hmarked

/-- The search for dependents ends, after one round for every component that it marks, and these
are the live ones that a path through live ones leads from to a live one of `ids`. -/
theorem closure_exact (g : DependencyGraph α) (l : Layers) (ids : List Nat) :
    let c := ofGraph g
    let marked := l.closure c ids
    let round := Search.follow c.predecessorsOf l.isAlive
    let begun := Search.begun l.isAlive c.size ids
    marked.length = c.size ∧
      (∀ k, marked.getD k false = true ↔ k < c.size ∧ l.isAlive k = true ∧
        ∃ d ∈ ids, l.isAlive d = true ∧
          Path (fun k => (c.successorsOf k).filter l.isAlive) k d) ∧
      round^[marked.count true] begun = ⟨marked.toArray, []⟩ ∧
      ∀ r < marked.count true, (round^[r] begun).pending ≠ [] := by
  intro c marked round begun
  obtain ⟨hend, hbefore⟩ := Search.rounds_eq_count c.size c.predecessorsOf l.isAlive ids
  have hcount : marked.count true =
      (Graph.spread c.size c.predecessorsOf l.isAlive ids).count true := Array.count_toList
  refine ⟨length_closure c l ids, fun k => closure_eq_true_iff, ?_, ?_⟩
  · rw [hcount]
    exact hend
  · rw [hcount]
    exact hbefore

/-- What depends on the last of a chain through a dead component only is left alone. -/
example : (⟨[true, false, true], [0, 0, 0]⟩ : Layers).closure
    (ofGraph (.ofDeclarations [.dependency 'a' 'b', .dependency 'b' 'c'])) [2, 2] =
      [false, false, true] := by
  decide +kernel

end Dependents

namespace Closed

theorem lt_size {c : Condensed α} (h : Closed c l) (hk : l.isAlive k = true) : k < c.size := by
  rw [← h.length_alive]
  exact lt_of_isAlive hk

theorem alive_of_path {c : Condensed α} (h : Closed c l) (hp : Path c.successorsOf k d)
    (hk : l.isAlive k = true) : l.isAlive d = true := by
  induction hp with
  | refl => exact hk
  | step he _ ih => exact ih (h.alive_of_edge _ hk _ he)

/-- All that a live component depends on is alive. -/
theorem path_of_isAlive {c : Condensed α} (h : Closed c l) (hp : Path c.successorsOf k d)
    (hk : l.isAlive k = true) : Path (fun k => (c.successorsOf k).filter l.isAlive) k d := by
  induction hp with
  | refl => exact .refl _
  | step he _ ih =>
    have halive := h.alive_of_edge _ hk _ he
    exact .step (List.mem_filter.mpr ⟨he, halive⟩) (ih halive)

theorem mem_dependents (h : Closed (ofGraph g) l) : k ∈ l.dependents (ofGraph g) deleted ↔
    l.isAlive k = true ∧ ∃ d ∈ deleted, Path (ofGraph g).successorsOf k d := by
  rw [mem_dependents_iff_closure, closure_eq_true_iff]
  constructor
  · rintro ⟨-, hk, d, hd, -, hp⟩
    exact ⟨hk, d, hd, hp.of_filter⟩
  · rintro ⟨hk, d, hd, hp⟩
    exact ⟨h.lt_size hk, hk, d, hd, h.alive_of_path hp hk, h.path_of_isAlive hp hk⟩

theorem isAlive_kill (h : Closed (ofGraph g) l) : (l.kill (ofGraph g) deleted).isAlive k = true ↔
    l.isAlive k = true ∧ ∀ d ∈ deleted, ¬ Path (ofGraph g).successorsOf k d := by
  have hmark : (l.kill (ofGraph g) deleted).isAlive k =
      (l.isAlive k && !(l.closure (ofGraph g) deleted).getD k false) := by
    by_cases hk : k < (ofGraph g).size
    · have hk' : k < l.alive.length := by rw [h.length_alive]; exact hk
      simp [isAlive, kill, List.getD_eq_getElem?_getD, hk, hk']
    · have hk' : l.alive.length ≤ k := by rw [h.length_alive]; omega
      simp [isAlive, kill, List.getD_eq_getElem?_getD, hk']
  rw [hmark, Bool.and_eq_true, Bool.not_eq_true', ← Bool.not_eq_true, ← mem_dependents_iff_closure,
    h.mem_dependents]
  constructor
  · rintro ⟨hk, hnone⟩
    exact ⟨hk, fun d hd hp => hnone ⟨hk, d, hd, hp⟩⟩
  · rintro ⟨hk, hnone⟩
    exact ⟨hk, fun ⟨_, d, hd, hp⟩ => hnone d hd hp⟩

theorem kill (h : Closed (ofGraph g) l) (deleted : List Nat) :
    Closed (ofGraph g) (l.kill (ofGraph g) deleted) where
  length_alive := by simp [Layers.kill, h.length_alive]
  length_kept := h.length_kept
  alive_of_edge k hk d hd := by
    rw [h.isAlive_kill] at hk ⊢
    exact ⟨h.alive_of_edge k hk.1 d hd, fun e he hp => hk.2 e he (.step hd hp)⟩

theorem nextLayer (h : Closed (ofGraph g) l) (cut : Cut Nat) :
    Closed (ofGraph g) (l.nextLayer (ofGraph g) cut).2 where
  length_alive := (h.kill cut.deleted).length_alive
  length_kept := by
    simp [Layers.nextLayer, Condensed.ids, (h.kill cut.deleted).length_kept]
  alive_of_edge := (h.kill cut.deleted).alive_of_edge

/-- A result kills what its deletions take with them, and nothing else. -/
theorem isAlive_nextLayer (h : Closed (ofGraph g) l) :
    (l.nextLayer (ofGraph g) cut).2.isAlive k = true ↔
      l.isAlive k = true ∧ ∀ d ∈ cut.deleted, ¬ Path (ofGraph g).successorsOf k d :=
  h.isAlive_kill

end Closed

theorem closed_start (g : DependencyGraph α) : Closed (ofGraph g) (start (ofGraph g)) where
  length_alive := by simp [start]
  length_kept := by simp [start]
  alive_of_edge _ _ d hd := (isAlive_start _ d).mpr (lt_size_of_mem_successorsOf hd).2

section After

variable {results : List (Cut Nat)}

theorem Closed.after (h : Closed (ofGraph g) l) (results : List (Cut Nat)) :
    Closed (ofGraph g) (l.after (ofGraph g) results) := by
  induction results generalizing l with
  | nil => exact h
  | cons cut results ih => exact ih (h.nextLayer cut)

end After

section Present

theorem present_eq (c : Condensed α) (l : Layers) (cut : Cut Nat) :
    l.present c cut =
      ⟨c.ids.filter fun k => !(!l.isAlive k || (l.dependents c cut.deleted).contains k),
        c.ids.filter fun k => !l.isAlive k || (l.dependents c cut.deleted).contains k⟩ := by
  simp [present, List.partition_eq_filter_filter, Function.comp_def]

/-- The cut of all components, each side ascending, that deletes the dead, what is
`requested`, and all that depends on it; what it retains has all it depends on. -/
structure Presents (l : Layers) (c : Condensed α) (requested : List Nat) (cut : Cut Nat) :
    Prop where
  retained_ascending : cut.retained.Pairwise (· < ·)
  deleted_ascending : cut.deleted.Pairwise (· < ·)
  mem_deleted_iff : ∀ k, k ∈ cut.deleted ↔ k < c.size ∧
    (l.isAlive k = false ∨ ∃ d ∈ requested, Path c.successorsOf k d)
  mem_retained_iff : ∀ k, k ∈ cut.retained ↔ k < c.size ∧ k ∉ cut.deleted
  retained_closed : ∀ k ∈ cut.retained, ∀ d ∈ c.successorsOf k, d ∈ cut.retained

namespace Closed

theorem mem_present_deleted (h : Closed (ofGraph g) l) :
    k ∈ (l.present (ofGraph g) cut).deleted ↔ k < (ofGraph g).size ∧
      (l.isAlive k = false ∨ ∃ d ∈ cut.deleted, Path (ofGraph g).successorsOf k d) := by
  rw [present_eq, List.mem_filter, mem_ids, Bool.or_eq_true, Bool.not_eq_true',
    List.contains_iff_mem, h.mem_dependents]
  refine and_congr_right fun _ => ?_
  cases l.isAlive k <;> simp

/-- The components retained are those that stay alive if the cut holds. -/
theorem mem_present_retained (h : Closed (ofGraph g) l) :
    k ∈ (l.present (ofGraph g) cut).retained ↔
      l.isAlive k = true ∧ ∀ d ∈ cut.deleted, ¬ Path (ofGraph g).successorsOf k d := by
  rw [present_eq, List.mem_filter, mem_ids, Bool.not_eq_true', Bool.or_eq_false_iff,
    Bool.not_eq_false', ← Bool.not_eq_true, List.contains_iff_mem, h.mem_dependents]
  constructor
  · rintro ⟨-, hk, hnone⟩
    exact ⟨hk, fun d hd hp => hnone ⟨hk, d, hd, hp⟩⟩
  · rintro ⟨hk, hnone⟩
    exact ⟨h.lt_size hk, hk, fun ⟨_, d, hd, hp⟩ => hnone d hd hp⟩

theorem presents (h : Closed (ofGraph g) l) (cut : Cut Nat) :
    l.Presents (ofGraph g) cut.deleted (l.present (ofGraph g) cut) where
  retained_ascending := by
    rw [present_eq]
    exact List.pairwise_lt_range.filter _
  deleted_ascending := by
    rw [present_eq]
    exact List.pairwise_lt_range.filter _
  mem_deleted_iff k := h.mem_present_deleted
  mem_retained_iff k := by
    rw [present_eq, List.mem_filter, List.mem_filter, mem_ids, Bool.not_eq_true',
      ← Bool.not_eq_true, not_and]
    exact ⟨fun h => ⟨h.1, fun _ => h.2⟩, fun h => ⟨h.1, h.2 h.1⟩⟩
  retained_closed k hk d hd := by
    rw [h.mem_present_retained] at hk ⊢
    exact ⟨h.alive_of_edge k hk.1 d hd, fun e he hp => hk.2 e he (.step hd hp)⟩

end Closed

/-- Expanded to items, such a cut keeps nothing without what it depends on. -/
theorem Presents.respects {requested : List Nat}
    (h : l.Presents (ofGraph g) requested cut) : g.Respects ((ofGraph g).expandCut cut) := by
  refine Condensed.respects_expandCut (fun k hk => ?_) h.retained_closed
  rw [h.mem_retained_iff]
  simp [hk]

end Present

end Layers

end DeltaDebugging
