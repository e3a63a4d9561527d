import DeltaDebugging.Proofs.Graph.Condensation
import Mathlib.Data.List.Induction
import Mathlib.Data.List.Permutation

/-!
# Cuts of components as cuts of items

A list of components stands for the items whose vertices lie in one of them, in the order
of the graph. The item of a vertex stands at its place in its component, which halving finds
because the vertices of a component ascend. Paths between components are those between their
vertices, so a split of the components that keeps the successors of what it keeps is a split
of the items that keeps nothing without what it depends on.
-/
namespace DeltaDebugging

open DeltaDebugging.Graph (Path)

variable {α : Type} {g : DependencyGraph α} {a b : α} {u v : Nat}

namespace DependencyGraph

def DependsOn (g : DependencyGraph α) (a b : α) : Prop :=
  ∃ u, ∃ v ∈ g.successorsOf u, g.items[u]? = some a ∧ g.items[v]? = some b

/-- The item `a` depends on `b` directly or not; every item requires itself. -/
def Requires (g : DependencyGraph α) (a b : α) : Prop :=
  ∃ u v, g.items[u]? = some a ∧ g.items[v]? = some b ∧ Path g.successorsOf u v

/-- With every item all that it depends on is there. -/
def IsClosed (g : DependencyGraph α) (S : Set α) : Prop :=
  ∀ a ∈ S, ∀ b, g.DependsOn a b → b ∈ S

/-- Splits of the items of a graph, each side in the order of the graph, that never separate
items requiring one another. -/
structure Splits (g : DependencyGraph α) (cut : Cut α) : Prop where
  retained_sublist : cut.retained.Sublist g.items
  deleted_sublist : cut.deleted.Sublist g.items
  perm : (cut.retained ++ cut.deleted).Perm g.items
  disjoint : cut.retained.Disjoint cut.deleted
  together : ∀ a b, g.Requires a b → g.Requires b a → (a ∈ cut.retained ↔ b ∈ cut.retained)

/-- Splits that keep nothing without what it depends on. -/
structure Respects (g : DependencyGraph α) (cut : Cut α) : Prop extends Splits g cut where
  not_deleted : ∀ a b, g.DependsOn a b → a ∈ cut.retained → b ∉ cut.deleted

theorem eq_of_getElem? (hu : g.items[u]? = some a) (hv : g.items[v]? = some a) : u = v := by
  obtain ⟨hlt, rfl⟩ := List.getElem?_eq_some_iff.mp hu
  exact (List.getElem?_inj hlt g.nodup).mp (hu.trans hv.symm)

theorem lt_of_getElem? (hu : g.items[u]? = some a) : u < g.size :=
  (List.getElem?_eq_some_iff.mp hu).1

theorem path_of_requires (h : g.Requires a b) (hu : g.items[u]? = some a)
    (hv : g.items[v]? = some b) : Path g.successorsOf u v := by
  obtain ⟨u', v', hu', hv', hp⟩ := h
  rwa [eq_of_getElem? hu hu', eq_of_getElem? hv hv']

theorem IsClosed.of_requires {S : Set α} (hS : g.IsClosed S) (ha : a ∈ S)
    (h : g.Requires a b) : b ∈ S := by
  obtain ⟨u, v, hu, hv, hp⟩ := h
  induction hp generalizing a with
  | refl => rwa [← Option.some_inj.mp (hu.symm.trans hv)]
  | @step u w v he _ ih =>
    have hlt : w < g.items.length := (mem_successorsOf_lt he).2
    have hw := List.getElem?_eq_getElem hlt
    exact ih (hS a ha _ ⟨u, w, he, hu, hw⟩) hw hv

theorem Respects.mem_retained {cut : Cut α} (h : g.Respects cut) (hab : g.DependsOn a b)
    (ha : a ∈ cut.retained) : b ∈ cut.retained := by
  have ⟨_, _, _, _, hv⟩ := hab
  have hb : b ∈ cut.retained ++ cut.deleted := h.perm.mem_iff.mpr (List.mem_of_getElem? hv)
  exact (List.mem_append.mp hb).resolve_right (h.not_deleted a b hab ha)

end DependencyGraph

section Place

/-- The place at which a property that fails from its first failure on does so. -/
theorem bisect_eq {p : Nat → Bool} {low high i : Nat} (hlow : low ≤ i) (hhigh : i ≤ high)
    (hbefore : ∀ j < i, p j = true) (hfrom : ∀ j, i ≤ j → j < high → p j = false) :
    bisect p low high = i := by
  fun_induction bisect p low high with
  | case1 low high hlt middle hp ih =>
    refine ih ?_ hhigh hfrom
    by_contra hle
    rw [hfrom middle (by omega) (by omega)] at hp
    cases hp
  | case2 low high hlt middle hp ih =>
    refine ih hlow ?_ fun j hij hj => hfrom j hij (by omega)
    by_contra hle
    exact hp (hbefore middle (by omega))
  | case3 low high hge => omega

theorem Component.place_getElem {c : Component α} (hc : c.vertices.Pairwise (· < ·)) {i : Nat}
    (hi : i < c.vertices.length) : c.place c.vertices[i] = i := by
  have hplace : ∀ j, (hj : j < c.vertices.length) → c.vertices.getD j 0 = c.vertices[j] :=
    fun j hj => by simp [List.getD_eq_getElem?_getD, hj]
  refine bisect_eq (Nat.zero_le i) hi.le (fun j hj => ?_) fun j hij hj => ?_
  · rw [hplace j (by omega), decide_eq_true_eq]
    exact List.pairwise_iff_getElem.mp hc j i _ hi hj
  · rw [hplace j hj, decide_eq_false_iff_not, Nat.not_lt]
    rcases Nat.lt_or_eq_of_le hij with hlt | rfl
    · exact (List.pairwise_iff_getElem.mp hc i j hi hj hlt).le
    · exact le_rfl

end Place

namespace Condensed

open DependencyGraph (lt_of_getElem? eq_of_getElem? path_of_requires)

variable {ids : List Nat} {cut : Cut Nat}

section Paths

theorem size_ofGraph (g : DependencyGraph α) : (ofGraph g).size = (partition g).length := by
  simp [size, ofGraph]

theorem partOf_lt_size (hv : v < g.size) : partOf (partition g) v < (ofGraph g).size := by
  rw [size_ofGraph]
  exact partOf_lt hv

theorem partOf_eq_iff_path (hu : u < g.size) (hv : v < g.size) :
    partOf (partition g) u = partOf (partition g) v ↔
      Path g.successorsOf u v ∧ Path g.successorsOf v u := by
  rw [← (partition_resolved g).same_part_iff (partition_nodup g) (mem_partition_iff.mpr hu)
    (mem_partition_iff.mpr hv)]
  constructor
  · intro heq
    refine ⟨_, List.getElem_mem (partOf_lt hu), mem_getElem_partOf _, ?_⟩
    exact (partOf_eq_iff (partition_nodup g) _).mp heq.symm
  · rintro ⟨part, hpart, hu, hv⟩
    obtain ⟨i, hi, rfl⟩ := List.getElem_of_mem hpart
    rw [(partOf_eq_iff (partition_nodup g) hi).mpr hu,
      (partOf_eq_iff (partition_nodup g) hi).mpr hv]

/-- An edge of the graph stays in a component or is one of the condensed graph. -/
theorem path_partOf_of_edge (he : v ∈ g.successorsOf u) :
    Path (ofGraph g).successorsOf (partOf (partition g) u) (partOf (partition g) v) := by
  by_cases heq : partOf (partition g) u = partOf (partition g) v
  · rw [heq]
    exact .refl _
  · exact .edge (mem_successorsOf_ofGraph.mpr ⟨heq, u, v, he, rfl, rfl⟩)

theorem path_of_path_partOf {k d : Nat} (hp : Path (ofGraph g).successorsOf k d)
    (hu : u < g.size) (hk : partOf (partition g) u = k) (hv : v < g.size)
    (hd : partOf (partition g) v = d) : Path g.successorsOf u v := by
  induction hp generalizing u with
  | refl => exact ((partOf_eq_iff_path hu hv).mp (hk.trans hd.symm)).1
  | step he _ ih =>
    obtain ⟨-, x, y, hxy, hx, hy⟩ := mem_successorsOf_ofGraph.mp he
    obtain ⟨hxlt, hylt⟩ := DependencyGraph.mem_successorsOf_lt hxy
    have hux := ((partOf_eq_iff_path hu hxlt).mp (hk.trans hx.symm)).1
    exact hux.trans (.step hxy (ih hylt hy hd))

theorem path_ofGraph_iff (hu : u < g.size) (hv : v < g.size) :
    Path (ofGraph g).successorsOf (partOf (partition g) u) (partOf (partition g) v) ↔
      Path g.successorsOf u v := by
  refine ⟨fun hp => path_of_path_partOf hp hu rfl hv rfl, fun hp => ?_⟩
  clear hu hv
  induction hp with
  | refl => exact .refl _
  | step he _ ih => exact (path_partOf_of_edge he).trans ih

end Paths

section Expand

theorem mem_verticesOf :
    v ∈ (ofGraph g).verticesOf ids ↔ v < g.size ∧ partOf (partition g) v ∈ ids := by
  have hcomponent : ∀ k : Nat, v ∈ ((ofGraph g).components[k]?.map Component.vertices).getD [] ↔
      v < g.size ∧ partOf (partition g) v = k := by
    intro k
    rw [← List.getElem?_map, vertices_ofGraph]
    constructor
    · intro hv
      cases hk : (partition g)[k]? with
      | none => simp [hk] at hv
      | some part =>
        rw [hk, Option.getD_some] at hv
        obtain ⟨hlt, rfl⟩ := List.getElem?_eq_some_iff.mp hk
        refine ⟨mem_partition_iff.mp (List.mem_flatten.mpr ⟨_, List.getElem_mem hlt, hv⟩), ?_⟩
        exact (partOf_eq_iff (partition_nodup g) hlt).mpr hv
    · rintro ⟨hv, rfl⟩
      rw [List.getElem?_eq_getElem (partOf_lt hv), Option.getD_some]
      exact mem_getElem_partOf _
  rw [verticesOf, List.mem_mergeSort, mem_distinct, List.mem_flatMap]
  simp only [hcomponent]
  constructor
  · rintro ⟨_, hk, hv, rfl⟩
    exact ⟨hv, hk⟩
  · rintro ⟨hv, hk⟩
    exact ⟨_, hk, hv, rfl⟩

/-- The vertices of some components, in the order of the graph. -/
theorem verticesOf_eq (g : DependencyGraph α) (ids : List Nat) :
    (ofGraph g).verticesOf ids =
      (List.range g.size).filter fun v => partOf (partition g) v ∈ ids := by
  have hsorted : ((ofGraph g).verticesOf ids).Pairwise (· ≤ ·) := List.pairwise_mergeSort' (· ≤ ·) _
  have hnodup : ((ofGraph g).verticesOf ids).Nodup :=
    (List.mergeSort_perm _ _).nodup_iff.mpr (nodup_distinct _)
  have hascending : ((ofGraph g).verticesOf ids).Pairwise (· < ·) :=
    hsorted.imp₂ (fun _ _ hle hne => Nat.lt_of_le_of_ne hle hne) hnodup
  refine hascending.eq_of_mem_iff (List.pairwise_lt_range.filter _) fun v => ?_
  rw [mem_verticesOf, List.mem_filter, List.mem_range, decide_eq_true_eq]

theorem getElem?_components {k : Nat} {part : List Nat} (hk : (partition g)[k]? = some part) :
    ∃ component, (ofGraph g).components[k]? = some component ∧ component.vertices = part ∧
      component.items = part.filterMap fun v => g.items[v]? := by
  refine ⟨_, (List.getElem?_map ..).trans (congrArg _ hk), rfl, rfl⟩

theorem getElem?_filterMap_getElem? {vs : List Nat} (hvs : ∀ v ∈ vs, v < g.size) (i : Nat) :
    (vs.filterMap fun v => g.items[v]?)[i]? = vs[i]?.bind fun v => g.items[v]? := by
  induction vs generalizing i with
  | nil => rfl
  | cons v vs ih =>
    have hv : g.items[v]? = some _ := List.getElem?_eq_getElem (hvs v List.mem_cons_self)
    rw [List.filterMap_cons_some hv]
    cases i with
    | zero => exact hv.symm
    | succ i => exact ih (fun w hw => hvs w (List.mem_cons_of_mem v hw)) i

/-- The item of a vertex, although looked for in its component, is that of the graph. -/
theorem itemOf_ofGraph (hv : v < g.size) : (ofGraph g).itemOf v = g.items[v]? := by
  have hlt := partOf_lt hv
  obtain ⟨component, hcomponent, hvertices, hitems⟩ :=
    getElem?_components (List.getElem?_eq_getElem hlt)
  have hmem : v ∈ component.vertices := hvertices ▸ mem_getElem_partOf hlt
  have hpart : component.vertices ∈ partition g := hvertices ▸ List.getElem_mem hlt
  have hall : ∀ w ∈ component.vertices, w < g.size := fun w hw =>
    mem_partition_iff.mp (List.mem_flatten.mpr ⟨_, hpart, hw⟩)
  obtain ⟨i, hi, rfl⟩ := List.getElem_of_mem hmem
  rw [itemOf, componentOf_ofGraph, if_pos hv]
  simp only [Option.bind_eq_bind, Option.bind_some]
  rw [hcomponent, Option.bind_some,
    Component.place_getElem ((partition_resolved g).ascending hpart) hi, hitems, ← hvertices,
    getElem?_filterMap_getElem? hall, List.getElem?_eq_getElem hi, Option.bind_some]

theorem filterMap_getElem?_range (l : List α) :
    ((List.range l.length).filterMap fun i => l[i]?) = l := by
  induction l with
  | nil => rfl
  | cons a l ih => simpa [List.range_succ_eq_map, List.filterMap_map, Function.comp_def] using ih

theorem expand_eq (g : DependencyGraph α) (ids : List Nat) :
    (ofGraph g).expand ids =
      ((List.range g.size).filter fun v => partOf (partition g) v ∈ ids).filterMap
        fun v => g.items[v]? := by
  rw [expand, verticesOf_eq]
  exact List.filterMap_congr fun v hv =>
    itemOf_ofGraph (List.mem_range.mp (List.mem_filter.mp hv).1)

theorem expand_congr {ids ids' : List Nat} (h : ∀ k < (ofGraph g).size, k ∈ ids ↔ k ∈ ids') :
    (ofGraph g).expand ids = (ofGraph g).expand ids' := by
  rw [expand_eq, expand_eq]
  congr 1
  refine List.filter_congr fun v hv => ?_
  simp only [h _ (partOf_lt_size (List.mem_range.mp hv))]

theorem expand_ids (g : DependencyGraph α) : (ofGraph g).expand (ofGraph g).ids = g.items := by
  rw [expand_eq, List.filter_eq_self.mpr fun v hv => by
    simpa [ids] using partOf_lt_size (List.mem_range.mp hv)]
  exact filterMap_getElem?_range g.items

theorem mem_expand :
    a ∈ (ofGraph g).expand ids ↔ ∃ v, g.items[v]? = some a ∧ partOf (partition g) v ∈ ids := by
  simp only [expand_eq, List.mem_filterMap, List.mem_filter, List.mem_range, decide_eq_true_eq]
  constructor
  · rintro ⟨v, ⟨-, hk⟩, hv⟩
    exact ⟨v, hv, hk⟩
  · rintro ⟨v, hv, hk⟩
    exact ⟨v, ⟨lt_of_getElem? hv, hk⟩, hv⟩

theorem expand_sublist (g : DependencyGraph α) (ids : List Nat) :
    ((ofGraph g).expand ids).Sublist g.items := by
  rw [expand_eq]
  conv_rhs => rw [← filterMap_getElem?_range g.items]
  exact (List.filter_sublist).filterMap _

theorem expandCut_perm
    (hsplit : ∀ k < (ofGraph g).size, k ∈ cut.deleted ↔ k ∉ cut.retained) :
    (((ofGraph g).expandCut cut).retained ++ ((ofGraph g).expandCut cut).deleted).Perm g.items := by
  have hdeleted : (ofGraph g).expand cut.deleted =
      ((List.range g.size).filter fun v =>
        !decide (partOf (partition g) v ∈ cut.retained)).filterMap fun v => g.items[v]? := by
    rw [expand_eq]
    congr 1
    apply List.filter_congr
    intro v hv
    simp [hsplit _ (partOf_lt_size (List.mem_range.mp hv))]
  rw [expandCut, hdeleted, expand_eq, ← List.filterMap_append]
  conv_rhs => rw [← filterMap_getElem?_range g.items]
  exact (List.filter_append_perm _ _).filterMap _

theorem mem_expand_iff_of_mutual (hab : g.Requires a b) (hba : g.Requires b a) :
    a ∈ (ofGraph g).expand ids ↔ b ∈ (ofGraph g).expand ids := by
  have hside : ∀ {a b : α}, g.Requires a b → g.Requires b a →
      a ∈ (ofGraph g).expand ids → b ∈ (ofGraph g).expand ids := by
    intro a b hab hba ha
    obtain ⟨u, hu, hk⟩ := mem_expand.mp ha
    have ⟨_, v, _, hv, _⟩ := hab
    refine mem_expand.mpr ⟨v, hv, ?_⟩
    rwa [← (partOf_eq_iff_path (lt_of_getElem? hu) (lt_of_getElem? hv)).mpr
      ⟨path_of_requires hab hu hv, path_of_requires hba hv hu⟩]
  exact ⟨hside hab hba, hside hba hab⟩

theorem splits_expandCut
    (hsplit : ∀ k < (ofGraph g).size, k ∈ cut.deleted ↔ k ∉ cut.retained) :
    g.Splits ((ofGraph g).expandCut cut) where
  retained_sublist := expand_sublist g _
  deleted_sublist := expand_sublist g _
  perm := expandCut_perm hsplit
  disjoint a hretained hdeleted := by
    have hnodup := (expandCut_perm hsplit).nodup_iff.mpr g.nodup
    exact (List.nodup_append.mp hnodup).2.2 a hretained a hdeleted rfl
  together a b := mem_expand_iff_of_mutual

/-- If the successors of every component kept are kept, the items kept have all they
depend on. -/
theorem respects_expandCut
    (hsplit : ∀ k < (ofGraph g).size, k ∈ cut.deleted ↔ k ∉ cut.retained)
    (hclosed : ∀ k ∈ cut.retained, ∀ d ∈ (ofGraph g).successorsOf k, d ∈ cut.retained) :
    g.Respects ((ofGraph g).expandCut cut) where
  toSplits := splits_expandCut hsplit
  not_deleted a b hab ha hb := by
    obtain ⟨u, v, he, hu, hv⟩ := hab
    obtain ⟨u', hu', hk⟩ := mem_expand.mp ha
    obtain ⟨v', hv', hd⟩ := mem_expand.mp hb
    obtain rfl := eq_of_getElem? hu hu'
    obtain rfl := eq_of_getElem? hv hv'
    refine (hsplit _ (partOf_lt_size (lt_of_getElem? hv))).mp hd ?_
    by_cases heq : partOf (partition g) u = partOf (partition g) v
    · rwa [← heq]
    · exact hclosed _ hk _ (mem_successorsOf_ofGraph.mpr ⟨heq, u, v, he, rfl, rfl⟩)

/-- The elements of a list at some places, in the order of the list. -/
theorem filterMap_filter_range (l : List α) (p : Nat → Bool) :
    (((List.range l.length).filter p).filterMap fun i => l[i]?) =
      (l.zipIdx.filter fun x => p x.2).map Prod.fst := by
  induction l using List.reverseRecOn with
  | nil => rfl
  | append_singleton l a ih =>
    have hfirst : (((List.range l.length).filter p).filterMap fun i => (l ++ [a])[i]?) =
        ((List.range l.length).filter p).filterMap fun i => l[i]? :=
      List.filterMap_congr fun i hi =>
        List.getElem?_append_left (List.mem_range.mp (List.mem_filter.mp hi).1)
    rw [List.length_append, List.length_singleton, List.range_succ, List.filter_append,
      List.filterMap_append, hfirst, ih, List.zipIdx_append, List.filter_append, List.map_append]
    congr 1
    cases hp : p l.length <;> simp [hp]

/-- What lists of components stand for: the items of the graph, in its order, whose component
is listed. A cut that splits the components stands for one that splits the items. -/
structure IsExpansion (g : DependencyGraph α) (c : Condensed α) : Prop where
  expand_eq : ∀ ids, c.expand ids =
    (g.items.zipIdx.filter fun x => c.componentOf[x.2]?.any fun k => decide (k ∈ ids)).map Prod.fst
  nodup : ∀ ids, (c.expand ids).Nodup
  congr : ∀ ids ids', (∀ k, k ∈ ids ↔ k ∈ ids') → c.expand ids = c.expand ids'
  all : c.expand c.ids = g.items
  splits : ∀ cut, (∀ k < c.size, k ∈ cut.deleted ↔ k ∉ cut.retained) →
    g.Splits (c.expandCut cut)

/-- Although items are looked for in their components, lists of components expand to items of
the graph in its order, and cuts of components to cuts of items that keep components whole. -/
theorem isExpansion_ofGraph (g : DependencyGraph α) : IsExpansion g (ofGraph g) where
  expand_eq ids := by
    have hsame : ∀ v ∈ List.range g.size, decide (partOf (partition g) v ∈ ids) =
        (ofGraph g).componentOf[v]?.any fun k => decide (k ∈ ids) := fun v hv => by
      rw [componentOf_ofGraph, if_pos (List.mem_range.mp hv), Option.any_some]
    rw [Condensed.expand_eq, List.filter_congr hsame]
    exact filterMap_filter_range g.items fun v =>
      (ofGraph g).componentOf[v]?.any fun k => decide (k ∈ ids)
  nodup ids := g.nodup.sublist (expand_sublist g ids)
  congr ids ids' h := expand_congr fun k _ => h k
  all := expand_ids g
  splits _ := splits_expandCut

/-- Two pairs of letters that depend on each other, the letters of one between those of the
other. -/
def interleaved : DependencyGraph Char :=
  .ofDeclarations [.item 'a', .item 'x', .dependency 'a' 'b', .dependency 'b' 'a',
    .dependency 'x' 'y', .dependency 'y' 'x', .dependency 'b' 'x']

theorem isExpansion_ofGraph_interleaved :
    let c := ofGraph interleaved
    interleaved.items = ['a', 'x', 'b', 'y'] ∧ c.expand [1, 0, 1] = ['a', 'x', 'b', 'y'] ∧
      (∀ k < c.size, k ∈ [0, 0] ↔ k ∉ [1]) ∧
      c.expandCut ⟨[1], [0, 0]⟩ = ⟨['x', 'y'], ['a', 'b']⟩ ∧
      interleaved.Splits ⟨['x', 'y'], ['a', 'b']⟩ := by
  have hsplit : ∀ k < (ofGraph interleaved).size, k ∈ [0, 0] ↔ k ∉ [1] := by
    have hsize : (ofGraph interleaved).size = 2 := by cbv
    rw [hsize]
    decide
  have hcut : (ofGraph interleaved).expandCut ⟨[1], [0, 0]⟩ = ⟨['x', 'y'], ['a', 'b']⟩ := by cbv
  have hsplits := (isExpansion_ofGraph interleaved).splits ⟨[1], [0, 0]⟩ hsplit
  rw [hcut] at hsplits
  exact ⟨by cbv, by cbv, hsplit, hcut, hsplits⟩

end Expand

end Condensed

end DeltaDebugging
