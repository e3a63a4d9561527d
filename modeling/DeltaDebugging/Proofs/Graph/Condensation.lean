import DeltaDebugging.Graph.Condensation
import DeltaDebugging.Proofs.Graph.Components

/-!
# Condensed graphs are quotients

The components of a condensed graph are the classes of mutual reachability, and its
edges are those of the graph between different classes. The order of the components is
topological because the search completes a component after all that it leads to.
-/
namespace DeltaDebugging.Condensed

open DeltaDebugging.Graph (Path Resolved)

variable {α : Type} {g : DependencyGraph α} {parts : List (List Nat)} {i v : Nat}

section Partition

theorem partition_resolved (g : DependencyGraph α) : Resolved g.successorsOf (partition g) :=
  (Graph.Tarjan.run_components fun _ _ h => (DependencyGraph.mem_successorsOf_lt h).2).1

theorem partition_perm (g : DependencyGraph α) :
    (partition g).flatten.Perm (List.range g.size) :=
  (Graph.Tarjan.run_components fun _ _ h => (DependencyGraph.mem_successorsOf_lt h).2).2

theorem partition_nodup (g : DependencyGraph α) : (partition g).flatten.Nodup :=
  (partition_perm g).nodup_iff.mpr List.nodup_range

theorem mem_partition_iff : v ∈ (partition g).flatten ↔ v < g.size := by
  rw [(partition_perm g).mem_iff, List.mem_range]

theorem mem_getElem_partOf (h : partOf parts v < parts.length) : v ∈ parts[partOf parts v] := by
  have := List.findIdx_getElem (p := fun part : List Nat => part.contains v) (w := h)
  exact List.contains_iff_mem.mp this

theorem partOf_eq_iff (hnodup : parts.flatten.Nodup) (hi : i < parts.length) :
    partOf parts v = i ↔ v ∈ parts[i] := by
  constructor
  · rintro rfl
    exact mem_getElem_partOf hi
  · intro hv
    have hlt : partOf parts v < parts.length :=
      List.findIdx_lt_length_of_exists ⟨parts[i], List.getElem_mem hi, by simpa using hv⟩
    exact Resolved.eq_of_mem hnodup hlt hi (mem_getElem_partOf hlt) hv

theorem partOf_lt (hv : v < g.size) : partOf (partition g) v < (partition g).length := by
  obtain ⟨part, hpart, hv⟩ := List.mem_flatten.mp (mem_partition_iff.mpr hv)
  exact List.findIdx_lt_length_of_exists ⟨part, hpart, by simpa using hv⟩

end Partition

section Quotient

theorem vertices_ofGraph (g : DependencyGraph α) :
    (ofGraph g).components.map Component.vertices = partition g := by
  simp [ofGraph, Function.comp_def]

theorem componentOf_ofGraph (g : DependencyGraph α) (v : Nat) :
    (ofGraph g).componentOf[v]? = if v < g.size then some (partOf (partition g) v) else none := by
  change ((List.range g.size).map (partOf (partition g)))[v]? = _
  split
  · next hv => simp [hv]
  · next hv => simp [Nat.not_lt.mp hv]

theorem mem_edges_iff {u : Nat} : (u, v) ∈ edges g ↔ v ∈ g.successorsOf u := by
  simp only [edges, List.mem_flatMap, List.mem_range, List.mem_map, Prod.mk.injEq]
  constructor
  · rintro ⟨_, -, _, h, rfl, rfl⟩
    exact h
  · exact fun h => ⟨u, (DependencyGraph.mem_successorsOf_lt h).1, v, h, rfl, rfl⟩

theorem componentOf_getD (hv : v < g.size) :
    (ofGraph g).componentOf.getD v 0 = partOf (partition g) v := by
  rw [List.getD_eq_getElem?_getD, componentOf_ofGraph, if_pos hv, Option.getD_some]

/-- An edge of the graph leads from the `k`th part into the `d`th. -/
def Linked (g : DependencyGraph α) (k d : Nat) : Prop :=
  ∃ u, ∃ v ∈ g.successorsOf u, partOf (partition g) u = k ∧ partOf (partition g) v = d

theorem Linked.lt {k d : Nat} (h : Linked g k d) :
    k < (partition g).length ∧ d < (partition g).length := by
  obtain ⟨u, v, he, rfl, rfl⟩ := h
  obtain ⟨hu, hv⟩ := DependencyGraph.mem_successorsOf_lt he
  exact ⟨partOf_lt hu, partOf_lt hv⟩

theorem Linked.le {k d : Nat} (h : Linked g k d) : k ≤ d := by
  obtain ⟨hk, hd⟩ := h.lt
  obtain ⟨u, v, he, hu, hv⟩ := h
  exact (partition_resolved g).le_of_path (partition_nodup g) hk hd
    ((partOf_eq_iff (partition_nodup g) hk).mp hu) ((partOf_eq_iff (partition_nodup g) hd).mp hv)
    (.edge he)

theorem mem_between_iff {k d : Nat} :
    (k, d) ∈ (edges g).map (fun e =>
        ((ofGraph g).componentOf.getD e.1 0, (ofGraph g).componentOf.getD e.2 0)) ↔
      Linked g k d := by
  rw [List.mem_map]
  constructor
  · rintro ⟨⟨u, v⟩, he, heq⟩
    rw [mem_edges_iff] at he
    obtain ⟨hu, hv⟩ := DependencyGraph.mem_successorsOf_lt he
    rw [componentOf_getD hu, componentOf_getD hv, Prod.mk.injEq] at heq
    exact ⟨u, v, he, heq⟩
  · rintro ⟨u, v, he, rfl, rfl⟩
    obtain ⟨hu, hv⟩ := DependencyGraph.mem_successorsOf_lt he
    exact ⟨(u, v), mem_edges_iff.mpr he, by rw [componentOf_getD hu, componentOf_getD hv]⟩

/-- The edges between components are those of the graph between different components. -/
theorem mem_successorsOf_ofGraph {k d : Nat} :
    d ∈ (ofGraph g).successorsOf k ↔ k ≠ d ∧ Linked g k d := by
  have hrow : d ∈ (ofGraph g).successorsOf k ↔
      k < (partition g).length ∧ d < (partition g).length ∧ k ≠ d ∧
        (k, d) ∈ (edges g).map (fun e =>
          ((ofGraph g).componentOf.getD e.1 0, (ofGraph g).componentOf.getD e.2 0)) := by
    by_cases hk : k < (partition g).length <;> simp [successorsOf, ofGraph, hk]
  rw [hrow, mem_between_iff]
  exact ⟨fun h => h.2.2, fun h => ⟨h.2.lt.1, h.2.lt.2, h⟩⟩

theorem mem_predecessorsOf_ofGraph {k d : Nat} :
    k ∈ (ofGraph g).predecessorsOf d ↔ k ≠ d ∧ Linked g k d := by
  have hrow : k ∈ (ofGraph g).predecessorsOf d ↔
      d < (partition g).length ∧ k < (partition g).length ∧ d ≠ k ∧
        (k, d) ∈ (edges g).map (fun e =>
          ((ofGraph g).componentOf.getD e.1 0, (ofGraph g).componentOf.getD e.2 0)) := by
    by_cases hd : d < (partition g).length <;> simp [predecessorsOf, ofGraph, hd]
  rw [hrow, mem_between_iff]
  exact ⟨fun h => ⟨h.2.2.1.symm, h.2.2.2⟩, fun h => ⟨h.2.lt.2, h.2.lt.1, h.1.symm, h.2⟩⟩

/-- The quotient of a graph by mutual reachability, in topological order. -/
structure IsQuotient (g : DependencyGraph α) (c : Condensed α) : Prop where
  vertices_ne_nil : ∀ k ∈ c.components, k.vertices ≠ []
  vertices_ascending : ∀ k ∈ c.components, k.vertices.Pairwise (· < ·)
  vertices_perm : (c.components.flatMap Component.vertices).Perm (List.range g.size)
  same_component_iff : ∀ u < g.size, ∀ v < g.size,
    (∃ k ∈ c.components, u ∈ k.vertices ∧ v ∈ k.vertices) ↔
      Path g.successorsOf u v ∧ Path g.successorsOf v u
  componentOf_eq_iff : ∀ (i : Nat) (k : Component α), c.components[i]? = some k →
    ∀ v, c.componentOf[v]? = some i ↔ v ∈ k.vertices
  lt_of_edge : ∀ k, ∀ d ∈ c.successorsOf k, k < d
  mem_predecessorsOf_iff : ∀ k d, k ∈ c.predecessorsOf d ↔ d ∈ c.successorsOf k

/-- The components of a condensed graph are the strongly connected components of the
graph, and dependencies lead to components of higher numbers. -/
theorem isQuotient_ofGraph (g : DependencyGraph α) : IsQuotient g (ofGraph g) where
  vertices_ne_nil k hk := by
    apply (partition_resolved g).ne_nil
    rw [← vertices_ofGraph]
    exact List.mem_map_of_mem hk
  vertices_ascending k hk := by
    apply (partition_resolved g).ascending
    rw [← vertices_ofGraph]
    exact List.mem_map_of_mem hk
  vertices_perm := by
    rw [List.flatMap_def, vertices_ofGraph]
    exact partition_perm g
  same_component_iff u hu v hv := by
    rw [← (partition_resolved g).same_part_iff (partition_nodup g) (mem_partition_iff.mpr hu)
      (mem_partition_iff.mpr hv), ← vertices_ofGraph]
    simp
  componentOf_eq_iff i k hk v := by
    have hpart : (partition g)[i]? = some k.vertices := by
      rw [← vertices_ofGraph, List.getElem?_map, hk, Option.map_some]
    obtain ⟨hi, heq⟩ := List.getElem?_eq_some_iff.mp hpart
    rw [← heq, ← partOf_eq_iff (partition_nodup g) hi, componentOf_ofGraph]
    split
    · exact Option.some_inj
    · next hv =>
      refine ⟨fun h => absurd h (by simp), fun h => absurd (mem_partition_iff.mp ?_) hv⟩
      exact List.mem_flatten.mpr
        ⟨_, List.getElem_mem hi, (partOf_eq_iff (partition_nodup g) hi).mp h⟩
  lt_of_edge k d hd := by
    obtain ⟨hne, hlinked⟩ := mem_successorsOf_ofGraph.mp hd
    exact Nat.lt_of_le_of_ne hlinked.le hne
  mem_predecessorsOf_iff k d := by rw [mem_predecessorsOf_ofGraph, mem_successorsOf_ofGraph]

end Quotient

end DeltaDebugging.Condensed
