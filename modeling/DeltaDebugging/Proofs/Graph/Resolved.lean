import DeltaDebugging.Graph.Search
import Mathlib.Data.List.Nodup

/-!
# Resolved lists of components

A list of vertex sets is resolved if in each of them all vertices reach one another and
edges lead only into the set itself or into later ones. Nothing else is needed to know
the components of a graph: vertices of one part are mutually reachable by definition,
and a path never leads back to an earlier part.
-/
namespace DeltaDebugging.Graph

/-- Ascending, strongly connected parts, each closed under edges together with those
after it. -/
inductive Resolved (successors : Nat → List Nat) : List (List Nat) → Prop
  | nil : Resolved successors []
  | cons {part : List Nat} {parts : List (List Nat)} :
      part ≠ [] → part.Pairwise (· < ·) →
      (∀ u ∈ part, ∀ v ∈ part, Path successors u v) →
      (∀ u ∈ part, ∀ v ∈ successors u, v ∈ part ∨ v ∈ parts.flatten) →
      Resolved successors parts → Resolved successors (part :: parts)

namespace Resolved

variable {successors : Nat → List Nat} {part : List Nat} {parts : List (List Nat)} {u v : Nat}

theorem ne_nil (h : Resolved successors parts) (hp : part ∈ parts) : part ≠ [] := by
  induction h with
  | nil => simp at hp
  | cons hne _ _ _ _ ih =>
    rcases List.mem_cons.mp hp with rfl | hp
    · exact hne
    · exact ih hp

theorem ascending (h : Resolved successors parts) (hp : part ∈ parts) :
    part.Pairwise (· < ·) := by
  induction h with
  | nil => simp at hp
  | cons _ hasc _ _ _ ih =>
    rcases List.mem_cons.mp hp with rfl | hp
    · exact hasc
    · exact ih hp

theorem path_of_mem (h : Resolved successors parts) (hp : part ∈ parts) (hu : u ∈ part)
    (hv : v ∈ part) : Path successors u v := by
  induction h with
  | nil => simp at hp
  | cons _ _ hconnected _ _ ih =>
    rcases List.mem_cons.mp hp with rfl | hp
    · exact hconnected u hu v hv
    · exact ih hp

theorem mem_of_edge (h : Resolved successors parts) (hu : u ∈ parts.flatten)
    (he : v ∈ successors u) : v ∈ parts.flatten := by
  induction h with
  | nil => simp at hu
  | cons _ _ _ hclosed _ ih =>
    rw [List.flatten_cons, List.mem_append] at hu ⊢
    rcases hu with hu | hu
    · exact hclosed u hu v he
    · exact Or.inr (ih hu)

theorem mem_of_path (h : Resolved successors parts) (hu : u ∈ parts.flatten)
    (hp : Path successors u v) : v ∈ parts.flatten := by
  induction hp with
  | refl => exact hu
  | step he _ ih => exact ih (h.mem_of_edge hu he)

theorem drop (h : Resolved successors parts) (i : Nat) : Resolved successors (parts.drop i) := by
  induction h generalizing i with
  | nil => simpa using Resolved.nil
  | cons hne hasc hconnected hclosed h ih =>
    cases i with
    | zero => exact .cons hne hasc hconnected hclosed h
    | succ i => exact ih i

theorem eq_of_mem (hnodup : parts.flatten.Nodup) {i j : Nat} (hi : i < parts.length)
    (hj : j < parts.length) (hvi : v ∈ parts[i]) (hvj : v ∈ parts[j]) : i = j := by
  have hdisjoint := List.pairwise_iff_getElem.mp (List.nodup_flatten.mp hnodup).2
  rcases Nat.lt_trichotomy i j with hlt | heq | hlt
  · exact absurd hvj (hdisjoint i j hi hj hlt hvi)
  · exact heq
  · exact absurd hvi (hdisjoint j i hj hi hlt hvj)

theorem le_of_path (h : Resolved successors parts) (hnodup : parts.flatten.Nodup) {i j : Nat}
    (hi : i < parts.length) (hj : j < parts.length) (hu : u ∈ parts[i]) (hv : v ∈ parts[j])
    (hp : Path successors u v) : i ≤ j := by
  have hdrop : u ∈ (parts.drop i).flatten := by
    rw [List.drop_eq_getElem_cons hi, List.flatten_cons]
    exact List.mem_append_left _ hu
  obtain ⟨part, hpart, hvpart⟩ := List.mem_flatten.mp ((h.drop i).mem_of_path hdrop hp)
  obtain ⟨k, hk, rfl⟩ := List.getElem_of_mem hpart
  rw [List.getElem_drop] at hvpart
  have := eq_of_mem hnodup hj (by simp at hk; omega) hv hvpart
  omega

/-- Vertices stand in the same part exactly if they reach one another. -/
theorem same_part_iff (h : Resolved successors parts) (hnodup : parts.flatten.Nodup)
    (hu : u ∈ parts.flatten) (hv : v ∈ parts.flatten) :
    (∃ part ∈ parts, u ∈ part ∧ v ∈ part) ↔ Path successors u v ∧ Path successors v u := by
  constructor
  · rintro ⟨part, hpart, hu, hv⟩
    exact ⟨h.path_of_mem hpart hu hv, h.path_of_mem hpart hv hu⟩
  · rintro ⟨huv, hvu⟩
    obtain ⟨part, hpart, hu⟩ := List.mem_flatten.mp hu
    obtain ⟨part', hpart', hv⟩ := List.mem_flatten.mp hv
    obtain ⟨i, hi, rfl⟩ := List.getElem_of_mem hpart
    obtain ⟨j, hj, rfl⟩ := List.getElem_of_mem hpart'
    obtain rfl : i = j := Nat.le_antisymm (h.le_of_path hnodup hi hj hu hv huv)
      (h.le_of_path hnodup hj hi hv hu hvu)
    exact ⟨_, hpart, hu, hv⟩

end Resolved

end DeltaDebugging.Graph
