import DeltaDebugging.Proofs.Graph.Depths
import DeltaDebugging.Proofs.Graph.Grouping
import Mathlib.Order.Bounds.Defs

/-!
# The quotient of a dependency graph

What a condensed graph says of its components is what the graph says of their vertices. The
removal of components without remaining predecessors takes them all: the one with the least
number among those that are left has no predecessor left, because predecessors have lower
numbers. A count of predecessors is only lowered for a predecessor that was still counted, so
it never falls below zero.
-/
namespace DeltaDebugging.Condensed

variable {α : Type} {g : DependencyGraph α} {c : Condensed α} {k d n : Nat}

section Edges

theorem nodup_edges (g : DependencyGraph α) : (edges g).Nodup := by
  refine List.nodup_flatMap.mpr ⟨fun u _ => ?_, List.nodup_range.imp ?_⟩
  · have hnodup : (g.successorsOf u).Nodup := (g.pairwise_successorsOf u).imp Nat.ne_of_lt
    exact hnodup.map (Prod.mk_right_injective u)
  · rintro u u' hne ⟨_, v⟩ hu hu'
    obtain ⟨_, -, heq⟩ := List.mem_map.mp hu
    obtain ⟨_, -, heq'⟩ := List.mem_map.mp hu'
    exact hne ((Prod.mk.inj heq).1.trans (Prod.mk.inj heq').1.symm)

/-- An edge between vertices of `part`, as one between their items. -/
def edgeWithin? (g : DependencyGraph α) (part : List Nat) (e : Nat × Nat) : Option (α × α) :=
  if part.contains e.1 && part.contains e.2 then
    match g.items[e.1]?, g.items[e.2]? with
    | some a, some b => some (a, b)
    | _, _ => none
  else none

theorem edgeWithin?_eq_some_iff {part : List Nat} {u v : Nat} {a b : α} :
    edgeWithin? g part (u, v) = some (a, b) ↔
      u ∈ part ∧ v ∈ part ∧ g.items[u]? = some a ∧ g.items[v]? = some b := by
  unfold edgeWithin?
  by_cases hu : u ∈ part <;> by_cases hv : v ∈ part <;>
    cases g.items[u]? <;> cases g.items[v]? <;> simp [hu, hv]

theorem internalEdges_ofGraph {k : Component α} (hk : k ∈ (ofGraph g).components) :
    k.internalEdges.Nodup ∧ ∀ a b, (a, b) ∈ k.internalEdges ↔
      ∃ u ∈ k.vertices, ∃ v ∈ k.vertices,
        v ∈ g.successorsOf u ∧ g.items[u]? = some a ∧ g.items[v]? = some b := by
  obtain ⟨part, -, rfl⟩ := List.mem_map.mp hk
  change ((edges g).filterMap (edgeWithin? g part)).Nodup ∧
    ∀ a b, (a, b) ∈ (edges g).filterMap (edgeWithin? g part) ↔ _
  constructor
  · refine (nodup_edges g).filterMap ?_
    rintro ⟨u, v⟩ ⟨u', v'⟩ ⟨a, b⟩ he he'
    obtain ⟨-, -, ha, hb⟩ := edgeWithin?_eq_some_iff.mp he
    obtain ⟨-, -, ha', hb'⟩ := edgeWithin?_eq_some_iff.mp he'
    rw [Prod.mk.injEq]
    exact ⟨DependencyGraph.eq_of_getElem? ha ha', DependencyGraph.eq_of_getElem? hb hb'⟩
  · intro a b
    rw [List.mem_filterMap]
    constructor
    · rintro ⟨⟨u, v⟩, he, hwithin⟩
      obtain ⟨hu, hv, ha, hb⟩ := edgeWithin?_eq_some_iff.mp hwithin
      exact ⟨u, hu, v, hv, mem_edges_iff.mp he, ha, hb⟩
    · rintro ⟨u, hu, v, hv, he, ha, hb⟩
      exact ⟨(u, v), mem_edges_iff.mpr he, edgeWithin?_eq_some_iff.mpr ⟨hu, hv, ha, hb⟩⟩

theorem linked_iff : Linked g k d ↔ ∃ a b : Component α, (ofGraph g).components[k]? = some a ∧
    (ofGraph g).components[d]? = some b ∧ ∃ u ∈ a.vertices, ∃ v ∈ b.vertices,
      v ∈ g.successorsOf u := by
  have hvertices : ∀ (i : Nat) (a : Component α), (ofGraph g).components[i]? = some a →
      ∀ v, v ∈ a.vertices ↔ v < g.size ∧ partOf (partition g) v = i := by
    intro i a ha v
    rw [← (isQuotient_ofGraph g).componentOf_eq_iff i a ha, componentOf_ofGraph]
    simp
  constructor
  · intro hlinked
    obtain ⟨hk, hd⟩ := hlinked.lt
    obtain ⟨u, v, he, hu, hv⟩ := hlinked
    obtain ⟨hult, hvlt⟩ := DependencyGraph.mem_successorsOf_lt he
    rw [← size_ofGraph] at hk hd
    have ha := List.getElem?_eq_getElem (l := (ofGraph g).components) hk
    have hb := List.getElem?_eq_getElem (l := (ofGraph g).components) hd
    exact ⟨_, _, ha, hb, u, (hvertices k _ ha u).mpr ⟨hult, hu⟩, v,
      (hvertices d _ hb v).mpr ⟨hvlt, hv⟩, he⟩
  · rintro ⟨a, b, ha, hb, u, hu, v, hv, he⟩
    exact ⟨u, v, he, ((hvertices k a ha u).mp hu).2, ((hvertices d b hb v).mp hv).2⟩

end Edges

section Ordered

/-- Components are numbered so that dependencies have higher numbers, and their predecessors
are those that have them as successors. -/
structure Ordered (c : Condensed α) : Prop where
  length_successors : c.successors.length = c.size
  length_predecessors : c.predecessors.length = c.size
  lt_of_edge : ∀ k, ∀ d ∈ c.successorsOf k, k < d ∧ d < c.size
  mem_predecessorsOf_iff : ∀ k d, k ∈ c.predecessorsOf d ↔ d ∈ c.successorsOf k
  successors_ascending : ∀ k, (c.successorsOf k).Pairwise (· < ·)
  predecessors_ascending : ∀ k, (c.predecessorsOf k).Pairwise (· < ·)

/-- A row of a table whose rows are parts of an ascending list. -/
theorem pairwise_getD_map_filter (l : List Nat) (p : Nat → Nat → Bool) (hl : l.Pairwise (· < ·)) :
    ((l.map fun k => l.filter (p k)).getD n []).Pairwise (· < ·) := by
  rw [List.getD_eq_getElem?_getD, List.getElem?_map]
  cases l[n]? with
  | none => exact .nil
  | some k => exact hl.filter _

theorem ordered_ofGraph (g : DependencyGraph α) : Ordered (ofGraph g) where
  length_successors := by simp [ofGraph, size]
  length_predecessors := by simp [ofGraph, size]
  lt_of_edge k d hd := ⟨lt_of_mem_successorsOf hd, (lt_size_of_mem_successorsOf hd).2⟩
  mem_predecessorsOf_iff k d := mem_predecessorsOf_iff_successorsOf
  successors_ascending k := pairwise_getD_map_filter _ _ List.pairwise_lt_range
  predecessors_ascending k := pairwise_getD_map_filter _ _ List.pairwise_lt_range

end Ordered

section Removal

/-- Takes one from the count of `d`, and adds it to those freed if nothing is left. -/
def release (state : List Nat × List Nat) (d : Nat) : Option (List Nat × List Nat) := do
  let counts ← decrement? state.1 d
  return (counts, if counts.getD d 0 = 0 then state.2 ++ [d] else state.2)

theorem removeReady_cons (c : Condensed α) (steps k : Nat) (ready inDegree : List Nat)
    (removed : Nat) : removeReady c (steps + 1) (k :: ready) inDegree removed =
      ((c.successorsOf k).foldlM release (inDegree, [])).bind fun state =>
        removeReady c steps (ready ++ state.2) state.1 (removed + 1) := rfl

theorem getD_modify (l : List Nat) (i j : Nat) :
    (l.modify i (· - 1)).getD j 0 = l.getD j 0 - if j = i then 1 else 0 := by
  simp only [List.getD_eq_getElem?_getD, List.getElem?_modify]
  by_cases hij : i = j
  · subst hij
    cases l[i]? <;> simp
  · simp [hij, Ne.symm hij]

/-- Releasing the successors of a removed component takes one from each of their counts and frees
those that had no other predecessor left. -/
theorem foldlM_release {ds : List Nat} (counts freed : List Nat) (hnodup : ds.Nodup)
    (hpos : ∀ d ∈ ds, 0 < counts.getD d 0) :
    ∃ after, ds.foldlM release (counts, freed) =
        some (after, freed ++ ds.filter fun d => counts.getD d 0 = 1) ∧
      after.length = counts.length ∧
      ∀ d, after.getD d 0 = counts.getD d 0 - if d ∈ ds then 1 else 0 := by
  induction ds generalizing counts freed with
  | nil => exact ⟨counts, by simp, rfl, fun d => by simp⟩
  | cons d ds ih =>
    obtain ⟨hd, hnodup⟩ := List.nodup_cons.mp hnodup
    obtain ⟨hposd, hpos⟩ := List.forall_mem_cons.mp hpos
    have hother : ∀ e ∈ ds, (counts.modify d (· - 1)).getD e 0 = counts.getD e 0 := by
      intro e he
      have hne : e ≠ d := fun heq => hd (heq ▸ he)
      rw [getD_modify, if_neg hne, Nat.sub_zero]
    have hrelease : release (counts, freed) d = some (counts.modify d (· - 1),
        if counts.getD d 0 = 1 then freed ++ [d] else freed) := by
      have hone : counts.getD d 0 - 1 = 0 ↔ counts.getD d 0 = 1 := by omega
      simp only [release, decrement?, if_pos hposd, Option.bind_eq_bind, Option.bind_some,
        getD_modify, if_pos, hone, Option.pure_def]
    obtain ⟨after, hfold, hlength, hafter⟩ := ih (counts.modify d (· - 1))
      (if counts.getD d 0 = 1 then freed ++ [d] else freed) hnodup
      fun e he => (hother e he).symm ▸ hpos e he
    refine ⟨after, ?_, hlength.trans (List.length_modify ..), fun e => ?_⟩
    · have hfilter : ds.filter (fun e => (counts.modify d (· - 1)).getD e 0 = 1) =
          ds.filter fun e => counts.getD e 0 = 1 :=
        List.filter_congr fun e he => by rw [hother e he]
      rw [List.foldlM_cons, hrelease, Option.bind_eq_bind, Option.bind_some, hfold, hfilter,
        List.filter_cons]
      by_cases hone : counts.getD d 0 = 1
      · rw [if_pos hone, if_pos (decide_eq_true hone), List.append_assoc]
        rfl
      · rw [if_neg hone, if_neg (mt of_decide_eq_true hone)]
    · rw [hafter, getD_modify]
      by_cases hed : e = d
      · subst hed
        rw [if_pos rfl, if_neg hd, if_pos List.mem_cons_self, Nat.sub_zero]
      · rw [if_neg hed, Nat.sub_zero]
        simp only [List.mem_cons, hed, false_or]

/-- How far the removal has got: the count of a component tells how many of its predecessors are
left, and those without any were removed or are about to be. -/
structure Removing (c : Condensed α) (removed ready inDegree : List Nat) : Prop where
  nodup : (removed ++ ready).Nodup
  counted : ∀ d < c.size, inDegree.getD d 0 = (c.predecessorsOf d).countP (· ∉ removed)
  mem_iff : ∀ d, d ∈ removed ++ ready ↔ d < c.size ∧ inDegree.getD d 0 = 0

theorem countP_not_mem_eq {removed l : List Nat} (hl : l.Nodup) (hk : k ∉ removed) :
    l.countP (· ∉ k :: removed) = l.countP (· ∉ removed) - if k ∈ l then 1 else 0 := by
  induction l with
  | nil => rfl
  | cons d l ih =>
    obtain ⟨hd, hl⟩ := List.nodup_cons.mp hl
    by_cases hdk : d = k
    · subst hdk
      have hrest := ih hl
      rw [if_neg hd, Nat.sub_zero] at hrest
      rw [List.countP_cons_of_neg (by simp), List.countP_cons_of_pos (by simpa using hk), hrest,
        if_pos List.mem_cons_self, Nat.add_sub_cancel]
    · have hmem : k ∈ d :: l ↔ k ∈ l := by simp [Ne.symm hdk]
      by_cases hr : d ∈ removed
      · rw [List.countP_cons_of_neg (by simp [hr]), List.countP_cons_of_neg (by simp [hr]), ih hl,
          if_congr hmem rfl rfl]
      · have hpos : k ∈ l → 0 < l.countP (· ∉ removed) := fun hkl =>
          List.countP_pos_iff.mpr ⟨k, hkl, decide_eq_true hk⟩
        rw [List.countP_cons_of_pos (by simp [hdk, hr]), List.countP_cons_of_pos (by simp [hr]),
          ih hl, if_congr hmem rfl rfl]
        split
        · next hkl =>
          have := hpos hkl
          omega
        · rfl

namespace Removing

variable {removed ready inDegree : List Nat}

theorem start (hc : Ordered c) :
    Removing c [] (c.ids.filter fun k => (c.predecessors.map List.length).getD k 0 = 0)
      (c.predecessors.map List.length) where
  nodup := List.nodup_range.filter _
  counted d hd := by
    have hlt : d < c.predecessors.length := hc.length_predecessors ▸ hd
    simp [predecessorsOf, List.getD_eq_getElem?_getD, hlt]
  mem_iff d := by
    rw [List.nil_append, List.mem_filter, mem_ids, decide_eq_true_eq]

/-- Removing a component never takes more from a count than there is. -/
theorem next (hc : Ordered c) (h : Removing c removed (k :: ready) inDegree) :
    ∃ after, (c.successorsOf k).foldlM release (inDegree, []) = some after ∧
      Removing c (k :: removed) (ready ++ after.2) after.1 := by
  have hperm : (removed ++ k :: ready).Perm (k :: removed ++ ready) := List.perm_middle
  have hk : k ∉ removed := fun hk =>
    (List.nodup_append.mp h.nodup).2.2 k hk k List.mem_cons_self rfl
  have hpos : ∀ d ∈ c.successorsOf k, 0 < inDegree.getD d 0 := by
    intro d hd
    rw [h.counted d (hc.lt_of_edge k d hd).2]
    exact List.countP_pos_iff.mpr ⟨k, (hc.mem_predecessorsOf_iff k d).mpr hd, decide_eq_true hk⟩
  have hsuccessors : (c.successorsOf k).Nodup := (hc.successors_ascending k).imp Nat.ne_of_lt
  obtain ⟨after, hfold, -, hafter⟩ := foldlM_release inDegree [] hsuccessors hpos
  refine ⟨_, hfold, ?_, ?_, ?_⟩
  · -- What is freed had a predecessor left until now, so it was neither removed nor ready.
    rw [List.nil_append, ← List.append_assoc]
    refine List.nodup_append.mpr ⟨hperm.nodup_iff.mp h.nodup, hsuccessors.filter _, ?_⟩
    rintro d hd _ hfreed rfl
    have hzero := ((h.mem_iff d).mp (hperm.mem_iff.mpr hd)).2
    exact Nat.ne_of_gt (hpos d (List.mem_filter.mp hfreed).1) hzero
  · intro d hd
    have hnodup : (c.predecessorsOf d).Nodup := (hc.predecessors_ascending d).imp Nat.ne_of_lt
    rw [hafter, h.counted d hd, countP_not_mem_eq hnodup hk,
      if_congr (hc.mem_predecessorsOf_iff k d) rfl rfl]
  · intro d
    have hbefore : d ∈ k :: removed ++ ready ↔ d < c.size ∧ inDegree.getD d 0 = 0 := by
      rw [← hperm.mem_iff, h.mem_iff]
    rw [List.nil_append, ← List.append_assoc, List.mem_append, hbefore, List.mem_filter,
      decide_eq_true_eq, hafter]
    by_cases hd : d ∈ c.successorsOf k
    · have hlt := (hc.lt_of_edge k d hd).2
      have := hpos d hd
      rw [if_pos hd]
      constructor
      · rintro (⟨-, hzero⟩ | ⟨-, hone⟩)
        · omega
        · exact ⟨hlt, by omega⟩
      · rintro ⟨-, hzero⟩
        exact Or.inr ⟨hd, by omega⟩
    · rw [if_neg hd, Nat.sub_zero]
      exact ⟨fun hor => hor.resolve_right fun hfreed => hd hfreed.1, Or.inl⟩

/-- If none is ready, all were removed: predecessors have lower numbers. -/
theorem length_removed (hc : Ordered c) (h : Removing c removed [] inDegree) :
    removed.length = c.size := by
  have hall : ∀ d, d < c.size → d ∈ removed := by
    intro d
    induction d using Nat.strongRecOn with
    | ind d ih =>
      intro hd
      have hnone : (c.predecessorsOf d).countP (· ∉ removed) = 0 := by
        refine List.countP_eq_zero.mpr fun k hk => ?_
        have hkd := (hc.lt_of_edge k d ((hc.mem_predecessorsOf_iff k d).mp hk)).1
        simpa using ih k hkd (Nat.lt_trans hkd hd)
      have hmem := (h.mem_iff d).mpr ⟨hd, (h.counted d hd).trans hnone⟩
      rwa [List.append_nil] at hmem
  have hperm : removed.Perm (List.range c.size) := by
    have hnodup : removed.Nodup := (List.append_nil removed) ▸ h.nodup
    rw [List.perm_ext_iff_of_nodup hnodup List.nodup_range]
    intro d
    rw [List.mem_range]
    exact ⟨fun hd => ((h.mem_iff d).mp (List.mem_append_left _ hd)).1, hall d⟩
  rw [hperm.length_eq, List.length_range]

/-- There are never more components removed and ready than there are. -/
theorem length_le (h : Removing c removed ready inDegree) :
    removed.length + ready.length ≤ c.size := by
  have hsub : removed ++ ready ⊆ List.range c.size := fun d hd =>
    List.mem_range.mpr ((h.mem_iff d).mp hd).1
  have hlength := (List.subperm_of_subset h.nodup hsub).length_le
  rwa [List.length_append, List.length_range] at hlength

theorem removeReady_eq (hc : Ordered c) (h : Removing c removed ready inDegree) (steps : Nat)
    (hsteps : c.size ≤ steps + removed.length) :
    removeReady c steps ready inDegree removed.length = some c.size := by
  induction steps generalizing removed ready inDegree with
  | zero =>
    have hle := h.length_le
    obtain rfl : ready = [] := List.length_eq_zero_iff.mp (by omega)
    rw [removeReady, h.length_removed hc]
  | succ steps ih =>
    cases ready with
    | nil => rw [removeReady, h.length_removed hc]
    | cons k ready =>
      obtain ⟨after, hfold, hnext⟩ := h.next hc
      rw [removeReady_cons, hfold, Option.bind_some]
      exact ih hnext (by rw [List.length_cons]; omega)

end Removing

theorem Ordered.isAcyclic (hc : Ordered c) : c.isAcyclic = true :=
  decide_eq_true ((Removing.start hc).removeReady_eq hc c.size (Nat.le_refl _))

end Removal

section Chains

@[simp] theorem length_depths (c : Condensed α) : c.depths.length = c.size := by
  have hlength : ∀ (f : Nat → List Nat → Nat) (l : List Nat),
      (l.foldr (fun k later => f k later :: later) []).length = l.length := by
    intro f l
    induction l with
    | nil => rfl
    | cons k l ih => exact congrArg (· + 1) ih
  exact (hlength _ _).trans List.length_range

/-- Each is followed by one that it depends on. -/
def IsChain (c : Condensed α) (chain : List Nat) : Prop :=
  chain.IsChain fun k d => d ∈ c.successorsOf k

theorem length_le_depth {chain : List Nat} (h : (ofGraph g).IsChain (k :: chain)) :
    chain.length ≤ (ofGraph g).depth k := by
  induction chain generalizing k with
  | nil => exact Nat.zero_le _
  | cons d chain ih =>
    obtain ⟨hd, hchain⟩ := List.isChain_cons_cons.mp h
    have hlt := (depth_le_iff (lt_size_of_mem_successorsOf hd).1).mp (Nat.le_refl _) d hd
    exact Nat.succ_le_of_lt (Nat.lt_of_le_of_lt (ih hchain) hlt)

theorem exists_chain (hk : (ofGraph g).depth k = n) :
    ∃ chain, (ofGraph g).IsChain (k :: chain) ∧ chain.length = n := by
  induction n generalizing k with
  | zero => exact ⟨[], List.IsChain.singleton k, rfl⟩
  | succ n ih =>
    have hlt : k < (ofGraph g).size := by
      by_contra hge
      have hzero : (ofGraph g).depth k = 0 := by
        rw [depth, List.getD_eq_getElem?_getD, List.getElem?_eq_none (by simpa using hge),
          Option.getD_none]
      omega
    have hdeep : ¬ (ofGraph g).depth k ≤ n := by omega
    rw [depth_le_iff hlt] at hdeep
    push Not at hdeep
    obtain ⟨d, hd, hle⟩ := hdeep
    have hdk := (depth_le_iff hlt).mp (Nat.le_refl _) d hd
    obtain ⟨chain, hchain, hlength⟩ := ih (k := d) (by omega)
    exact ⟨d :: chain, List.isChain_cons_cons.mpr ⟨hd, hchain⟩, congrArg (· + 1) hlength⟩

end Chains

/-- What a condensed graph says, in terms of the graph that it condenses. -/
structure IsExact (g : DependencyGraph α) (c : Condensed α) : Prop where
  mem_successorsOf_iff : ∀ k d, d ∈ c.successorsOf k ↔ d ≠ k ∧ ∃ a b : Component α,
    c.components[k]? = some a ∧ c.components[d]? = some b ∧
      ∃ u ∈ a.vertices, ∃ v ∈ b.vertices, v ∈ g.successorsOf u
  ordered : Ordered c
  internalEdges : ∀ k ∈ c.components, k.internalEdges.Nodup ∧ ∀ a b, (a, b) ∈ k.internalEdges ↔
    ∃ u ∈ k.vertices, ∃ v ∈ k.vertices,
      v ∈ g.successorsOf u ∧ g.items[u]? = some a ∧ g.items[v]? = some b
  acyclic : c.isAcyclic = true
  removes_all : ∀ steps, c.size ≤ steps →
    removeReady c steps (c.ids.filter fun k => (c.predecessors.map List.length).getD k 0 = 0)
      (c.predecessors.map List.length) 0 = some c.size
  exists_sink : c.isEmpty = false → ∃ k, k ∈ c.sinks
  length_depths : c.depths.length = c.size
  depths_greatest : ∀ k n, c.depths[k]? = some n →
    IsGreatest {m | ∃ chain, c.IsChain (k :: chain) ∧ chain.length = m} n

/-- Condensing a graph keeps exactly its edges between different components, once each and
in both directions, and those inside a component with it. The counting of predecessors never
goes below zero, ends by itself and finds no cycle, some component depends on nothing, and the
depth of a component is the length of the longest chain of dependencies from it. -/
theorem isExact_ofGraph (g : DependencyGraph α) : IsExact g (ofGraph g) where
  mem_successorsOf_iff k d := by
    rw [mem_successorsOf_ofGraph, linked_iff]
    exact and_congr_left' ne_comm
  ordered := ordered_ofGraph g
  internalEdges k hk := internalEdges_ofGraph hk
  acyclic := (ordered_ofGraph g).isAcyclic
  removes_all steps hsteps :=
    (Removing.start (ordered_ofGraph g)).removeReady_eq (ordered_ofGraph g) steps hsteps
  exists_sink := exists_mem_sinks
  length_depths := length_depths _
  depths_greatest k n hn := by
    have hdepth : (ofGraph g).depth k = n := by
      rw [depth, List.getD_eq_getElem?_getD, hn, Option.getD_some]
    refine ⟨exists_chain hdepth, ?_⟩
    rintro _ ⟨chain, hchain, rfl⟩
    exact hdepth ▸ length_le_depth hchain

end DeltaDebugging.Condensed
