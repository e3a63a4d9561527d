import DeltaDebugging.Proofs.Graph.Expansion
import DeltaDebugging.Proofs.Graph.UnionFind

/-!
# Grouping by equivalences

A graph holds the dependencies declared, by number of the items, and a cycle through every
set of items that the equivalences link. So an item reaches another exactly if it does in
the declarations, read with every equivalence in both directions.
-/
namespace DeltaDebugging.DependencyGraph

open DeltaDebugging.Graph (Path)
open Relation (EqvGen ReflTransGen)

variable {α : Type} {g : DependencyGraph α} {u v x y : Nat} {l : List Nat}

section Links

@[simp] theorem items_link (g : DependencyGraph α) (u v : Nat) : (g.link u v).items = g.items := by
  unfold link
  split <;> rfl

theorem mem_successorsOf_link :
    y ∈ (g.link u v).successorsOf x ↔
      y ∈ g.successorsOf x ∨ x = u ∧ y = v ∧ u < g.size ∧ v < g.size := by
  unfold link successorsOf
  split
  · next hv =>
    simp only [List.getD_eq_getElem?_getD, List.getElem?_modify]
    by_cases hx : u = x
    · subst hx
      by_cases hu : u < g.successors.length
      · have hlt : u < g.items.length := by rwa [g.length_successors] at hu
        simp [hu, hlt, size, hv, mem_insertAscending, or_comm]
      · have hlt : ¬u < g.items.length := by rwa [g.length_successors] at hu
        simp [hu, hlt, size]
    · simp [hx, Ne.symm hx]
  · next hv => simp [size, hv]

def links (g : DependencyGraph α) (edges : List (Nat × Nat)) : DependencyGraph α :=
  edges.foldl (fun g e => g.link e.1 e.2) g

theorem links_spec (g : DependencyGraph α) (edges : List (Nat × Nat)) :
    (g.links edges).items = g.items ∧
      ∀ x y, y ∈ (g.links edges).successorsOf x ↔
        y ∈ g.successorsOf x ∨ (x, y) ∈ edges ∧ x < g.size ∧ y < g.size := by
  induction edges generalizing g with
  | nil => simp [links]
  | cons e edges ih =>
    obtain ⟨hitems, hsuccessors⟩ := ih (g.link e.1 e.2)
    refine ⟨hitems.trans (items_link g _ _), fun x y => (hsuccessors x y).trans ?_⟩
    rw [mem_successorsOf_link, show (g.link e.1 e.2).size = g.size from
      congrArg List.length (items_link g _ _)]
    simp only [List.mem_cons, Prod.ext_iff]
    grind

end Links

section Cycles

theorem getElem?_cycle {i : Nat} (hi : i < l.length) (hnext : (i + 1) % l.length < l.length) :
    (Builder.cycle l)[i]? = some (l[i], l[(i + 1) % l.length]) := by
  unfold Builder.cycle
  rw [List.getElem?_zip_eq_some]
  refine ⟨List.getElem?_eq_getElem hi, ?_⟩
  by_cases hlast : i + 1 < l.length
  · rw [List.getElem?_append_left (by simp; omega)]
    simp [Nat.mod_eq_of_lt hlast]
  · have hlen : l.length = i + 1 := by omega
    rw [List.getElem?_append_right (by simp; omega)]
    simp [hlen]

theorem mem_of_mem_cycle (h : (x, y) ∈ Builder.cycle l) : x ∈ l ∧ y ∈ l := by
  obtain ⟨hx, hy⟩ := List.of_mem_zip h
  refine ⟨hx, ?_⟩
  rcases List.mem_append.mp hy with hy | hy
  · exact List.mem_of_mem_drop hy
  · exact List.mem_of_mem_take hy

theorem path_of_cycle {successors : Nat → List Nat}
    (hedges : ∀ a b, (a, b) ∈ Builder.cycle l → b ∈ successors a) (hx : x ∈ l) (hy : y ∈ l) :
    Path successors x y := by
  obtain ⟨i, hi, rfl⟩ := List.getElem_of_mem hx
  obtain ⟨j, hj, rfl⟩ := List.getElem_of_mem hy
  have hround (k : Nat) : k % l.length < l.length := Nat.mod_lt _ (by omega)
  have haround (k : Nat) : Path successors l[i] (l.get ⟨(i + k) % l.length, hround _⟩) := by
    induction k with
    | zero =>
      simp only [Nat.add_zero, Nat.mod_eq_of_lt hi]
      exact .refl _
    | succ k ih =>
      have hedge := hedges _ _ (List.mem_of_getElem? (getElem?_cycle (hround (i + k)) (hround _)))
      simp only [Nat.mod_add_mod] at hedge
      exact ih.trans (.edge hedge)
  have hj' : (i + (j + (l.length - i))) % l.length = j := by
    rw [show i + (j + (l.length - i)) = j + l.length by omega, Nat.add_mod_right,
      Nat.mod_eq_of_lt hj]
  simpa only [hj', List.get_eq_getElem] using haround (j + (l.length - i))

end Cycles

section Declarations

variable {ds : List (Declaration α)} {a b c : α}

/-- The items a declaration mentions, in its order. -/
def Declaration.mentions : Declaration α → List α
  | .item a => [a]
  | .dependency a b | .equivalence a b => [a, b]

def Declaration.dependency? : Declaration α → Option (α × α)
  | .dependency a b => some (a, b)
  | .item _ | .equivalence _ _ => none

def Declaration.equivalence? : Declaration α → Option (α × α)
  | .equivalence a b => some (a, b)
  | .item _ | .dependency _ _ => none

theorem mem_filterMap_dependency? {e : α × α} :
    e ∈ ds.filterMap Declaration.dependency? ↔ .dependency e.1 e.2 ∈ ds := by
  rw [List.mem_filterMap]
  constructor
  · rintro ⟨d, hd, he⟩
    cases d <;> simp [Declaration.dependency?] at he
    rwa [← he]
  · exact fun h => ⟨_, h, rfl⟩

theorem mem_filterMap_equivalence? {e : α × α} :
    e ∈ ds.filterMap Declaration.equivalence? ↔ .equivalence e.1 e.2 ∈ ds := by
  rw [List.mem_filterMap]
  constructor
  · rintro ⟨d, hd, he⟩
    cases d <;> simp [Declaration.equivalence?] at he
    rwa [← he]
  · exact fun h => ⟨_, h, rfl⟩

/-- The item `a` depends on `b` by the declarations, each equivalence read both ways. -/
inductive Declared (ds : List (Declaration α)) : α → α → Prop
  | dependency {a b : α} : .dependency a b ∈ ds → Declared ds a b
  | forth {a b : α} : .equivalence a b ∈ ds → Declared ds a b
  | back {a b : α} : .equivalence a b ∈ ds → Declared ds b a

theorem Declared.mentioned (h : Declared ds a b) :
    ∃ d ∈ ds, a ∈ d.mentions ∧ b ∈ d.mentions := by
  cases h with
  | dependency h => exact ⟨_, h, by simp [Declaration.mentions]⟩
  | forth h => exact ⟨_, h, by simp [Declaration.mentions]⟩
  | back h => exact ⟨_, h, by simp [Declaration.mentions]⟩

end Declarations

section Records

variable [DecidableEq α] {ds : List (Declaration α)} {a b c : α} {ms : List α}
  {dependencies equivalences : List (α × α)} {builder : Builder α}

theorem distinct_append_singleton (l : List α) (a : α) :
    distinct (l ++ [a]) = if a ∈ l then distinct l else distinct l ++ [a] := by
  induction l with
  | nil => simp [distinct]
  | cons b l ih =>
    rw [List.cons_append, distinct, ih, distinct]
    grind

theorem addItem_spec (g : DependencyGraph α) (a : α) :
    (g.addItem a).2.items = (if a ∈ g.items then g.items else g.items ++ [a]) ∧
      (g.addItem a).1 = (g.addItem a).2.items.idxOf a ∧
      (∀ b ∈ g.items, (g.addItem a).2.items.idxOf b = g.items.idxOf b) ∧
      ∀ u, (g.addItem a).2.successorsOf u = g.successorsOf u := by
  unfold addItem
  split
  · exact ⟨rfl, rfl, fun _ _ => rfl, fun _ => rfl⟩
  · next ha =>
    refine ⟨rfl, ?_, fun b hb => List.idxOf_append_of_mem hb, fun u => ?_⟩
    · simp [List.idxOf_append_of_notMem ha]
    · simp only [successorsOf, List.getD_eq_getElem?_getD, List.getElem?_append]
      grind

namespace Builder

def sets (builder : Builder α) : UnionFind :=
  (UnionFind.singletons builder.graph.size).unions builder.equivalences

/-- What a builder holds after items were mentioned, dependencies and equivalences
declared: nothing else, and all of it by number. -/
structure Records (ms : List α) (dependencies equivalences : List (α × α))
    (builder : Builder α) : Prop where
  items : builder.graph.items = distinct ms
  mentioned : ∀ e ∈ dependencies ++ equivalences, e.1 ∈ ms ∧ e.2 ∈ ms
  mem_successorsOf_iff : ∀ u v, v ∈ builder.graph.successorsOf u ↔
    ∃ e ∈ dependencies, builder.graph.items.idxOf e.1 = u ∧ builder.graph.items.idxOf e.2 = v
  equivalences : builder.equivalences = equivalences.map fun e =>
    (builder.graph.items.idxOf e.1, builder.graph.items.idxOf e.2)

namespace Records

theorem addItem (h : Records ms dependencies equivalences builder) (a : α) :
    Records (ms ++ [a]) dependencies equivalences (builder.addItem a).2 ∧
      (builder.addItem a).1 = (builder.addItem a).2.graph.items.idxOf a := by
  obtain ⟨hitems, hnumber, hkept, hsuccessors⟩ := builder.graph.addItem_spec a
  have hold : ∀ e ∈ dependencies ++ equivalences,
      (builder.graph.addItem a).2.items.idxOf e.1 = builder.graph.items.idxOf e.1 ∧
        (builder.graph.addItem a).2.items.idxOf e.2 = builder.graph.items.idxOf e.2 := by
    intro e he
    obtain ⟨hfst, hsnd⟩ := h.mentioned e he
    exact ⟨hkept _ (by rwa [h.items, mem_distinct]), hkept _ (by rwa [h.items, mem_distinct])⟩
  refine ⟨⟨?_, ?_, fun u v => ?_, ?_⟩, hnumber⟩
  · rw [distinct_append_singleton, ← h.items]
    refine hitems.trans ?_
    simp only [h.items, mem_distinct]
  · intro e he
    obtain ⟨hfst, hsnd⟩ := h.mentioned e he
    exact ⟨List.mem_append_left _ hfst, List.mem_append_left _ hsnd⟩
  · change v ∈ (builder.graph.addItem a).2.successorsOf u ↔ _
    rw [hsuccessors, h.mem_successorsOf_iff]
    refine exists_congr fun e => and_congr_right fun he => ?_
    obtain ⟨hfst, hsnd⟩ := hold e (List.mem_append_left _ he)
    exact and_congr (by rw [← hfst]; rfl) (by rw [← hsnd]; rfl)
  · refine h.equivalences.trans (List.map_congr_left fun e he => ?_)
    obtain ⟨hfst, hsnd⟩ := hold e (List.mem_append_right _ he)
    exact Prod.ext hfst.symm hsnd.symm

theorem addItems (h : Records ms dependencies equivalences builder) (a b : α) :
    Records (ms ++ [a, b]) dependencies equivalences ((builder.addItem a).2.addItem b).2 ∧
      (builder.addItem a).1 = ((builder.addItem a).2.addItem b).2.graph.items.idxOf a ∧
      ((builder.addItem a).2.addItem b).1 =
        ((builder.addItem a).2.addItem b).2.graph.items.idxOf b := by
  obtain ⟨ha, hnumber⟩ := h.addItem a
  obtain ⟨hb, hnumber'⟩ := ha.addItem b
  obtain ⟨-, -, hkept, -⟩ := (builder.addItem a).2.graph.addItem_spec b
  refine ⟨by simpa using hb, ?_, hnumber'⟩
  rw [hnumber]
  exact (hkept a (by rw [ha.items, mem_distinct]; simp)).symm

theorem addDependency (h : Records ms dependencies equivalences builder) (a b : α) :
    Records (ms ++ [a, b]) (dependencies ++ [(a, b)]) equivalences
      (builder.addDependency a b) := by
  obtain ⟨hb, hfst, hsnd⟩ := h.addItems a b
  have hmem : a ∈ ms ++ [a, b] ∧ b ∈ ms ++ [a, b] := by simp
  unfold Builder.addDependency
  dsimp only
  rw [hfst, hsnd]
  generalize ((builder.addItem a).2.addItem b).2 = built at hb
  refine ⟨?_, ?_, fun u v => ?_, ?_⟩
  · rw [items_link, hb.items]
  · intro e he
    simp only [List.append_assoc, List.mem_append, List.mem_singleton] at he
    rcases he with he | rfl | he
    · exact hb.mentioned e (List.mem_append_left _ he)
    · exact hmem
    · exact hb.mentioned e (List.mem_append_right _ he)
  · have hlt {c : α} (hc : c ∈ ms ++ [a, b]) : built.graph.items.idxOf c < built.graph.size :=
      List.idxOf_lt_length_of_mem (by rwa [hb.items, mem_distinct])
    rw [mem_successorsOf_link, hb.mem_successorsOf_iff, items_link]
    simp only [List.mem_append, List.mem_singleton, or_and_right, exists_or, exists_eq_left,
      hlt hmem.1, hlt hmem.2, and_true]
    exact or_congr_right (and_congr eq_comm eq_comm)
  · rw [items_link]
    exact hb.equivalences

theorem addEquivalence (h : Records ms dependencies equivalences builder) (a b : α) :
    Records (ms ++ [a, b]) dependencies (equivalences ++ [(a, b)])
      (builder.addEquivalence a b) := by
  obtain ⟨hb, hfst, hsnd⟩ := h.addItems a b
  unfold Builder.addEquivalence
  dsimp only
  rw [hfst, hsnd]
  generalize ((builder.addItem a).2.addItem b).2 = built at hb
  refine ⟨hb.items, ?_, hb.mem_successorsOf_iff, ?_⟩
  · intro e he
    rw [← List.append_assoc, List.mem_append, List.mem_singleton] at he
    rcases he with he | rfl
    · exact hb.mentioned e he
    · simp
  · rw [List.map_append, ← hb.equivalences]
    rfl

theorem lt_size (h : Records ms dependencies equivalences builder) :
    ∀ e ∈ builder.equivalences, e.1 < builder.graph.size ∧ e.2 < builder.graph.size := by
  rw [h.equivalences]
  intro e he
  obtain ⟨e', he', rfl⟩ := List.mem_map.mp he
  obtain ⟨hfst, hsnd⟩ := h.mentioned e' (List.mem_append_right _ he')
  exact ⟨List.idxOf_lt_length_of_mem (by rwa [h.items, mem_distinct]),
    List.idxOf_lt_length_of_mem (by rwa [h.items, mem_distinct])⟩

theorem sets (h : Records ms dependencies equivalences builder) :
    builder.sets.WF ∧ builder.sets.size = builder.graph.size ∧
      ∀ u v, builder.sets.root u = builder.sets.root v ↔
        EqvGen (fun x y => (x, y) ∈ builder.equivalences) u v :=
  UnionFind.unions_singletons h.lt_size

end Records

/-- After any declarations a builder holds exactly what was declared. -/
theorem records (ds : List (Declaration α)) :
    Records (ds.flatMap Declaration.mentions) (ds.filterMap Declaration.dependency?)
      (ds.filterMap Declaration.equivalence?) (ds.foldl declare {}) := by
  induction ds using List.reverseRecOn with
  | nil => exact ⟨rfl, by simp, by simp [DependencyGraph.empty, successorsOf], rfl⟩
  | append_singleton ds d ih =>
    rw [List.foldl_append, List.flatMap_append, List.filterMap_append, List.filterMap_append]
    cases d with
    | item a =>
      simpa [Declaration.mentions, Declaration.dependency?, Declaration.equivalence?, declare,
        List.filterMap_cons] using (ih.addItem a).1
    | dependency a b =>
      simpa [Declaration.mentions, Declaration.dependency?, Declaration.equivalence?, declare,
        List.filterMap_cons] using ih.addDependency a b
    | equivalence a b =>
      simpa [Declaration.mentions, Declaration.dependency?, Declaration.equivalence?, declare,
        List.filterMap_cons] using ih.addEquivalence a b

end Builder

end Records

section Components

variable {a b : α}

theorem indexOf?_eq_some_iff [DecidableEq α] : g.indexOf? a = some v ↔ g.items[v]? = some a := by
  rw [indexOf?, List.idxOf?_eq_some_iff]
  constructor
  · rintro ⟨hv, rfl, -⟩
    exact List.getElem?_eq_getElem hv
  · intro hv
    obtain ⟨hlt, rfl⟩ := List.getElem?_eq_some_iff.mp hv
    refine ⟨hlt, rfl, fun w hw heq => ?_⟩
    have := eq_of_getElem? (g := g) (List.getElem?_eq_some_iff.mpr ⟨by omega, heq⟩) hv
    omega

theorem pairwise_successorsOf (g : DependencyGraph α) (u : Nat) :
    (g.successorsOf u).Pairwise (· < ·) := by
  unfold successorsOf List.getD
  cases hrow : g.successors[u]? with
  | none => exact .nil
  | some row => exact g.ascending row (List.mem_of_getElem? hrow)

theorem components_ofGraph (k : Component α) (hk : k ∈ (Condensed.ofGraph g).components) :
    k.items = k.vertices.filterMap fun v => g.items[v]? := by
  obtain ⟨part, -, rfl⟩ := List.mem_map.mp hk
  rfl

/-- Two items share a component exactly if each reaches the other. -/
theorem exists_component_iff (ha : g.items[u]? = some a) (hb : g.items[v]? = some b) :
    (∃ k ∈ (Condensed.ofGraph g).components, a ∈ k.items ∧ b ∈ k.items) ↔
      Path g.successorsOf u v ∧ Path g.successorsOf v u := by
  have hmem {c : α} {w : Nat} (hc : g.items[w]? = some c) {k : Component α}
      (hk : k ∈ (Condensed.ofGraph g).components) : c ∈ k.items ↔ w ∈ k.vertices := by
    rw [components_ofGraph k hk, List.mem_filterMap]
    constructor
    · rintro ⟨w', hw', hc'⟩
      rwa [eq_of_getElem? hc hc']
    · exact fun hw => ⟨w, hw, hc⟩
  have hpartition := Condensed.partition_resolved g
  rw [← hpartition.same_part_iff (Condensed.partition_nodup g)
    (Condensed.mem_partition_iff.mpr (lt_of_getElem? ha))
    (Condensed.mem_partition_iff.mpr (lt_of_getElem? hb)), ← Condensed.vertices_ofGraph]
  simp only [List.mem_map, exists_exists_and_eq_and]
  exact exists_congr fun k => and_congr_right fun hk => and_congr (hmem ha hk) (hmem hb hk)

end Components

section Reach

variable [DecidableEq α] {ds : List (Declaration α)} {a b c : α}

theorem items_ofDeclarations (ds : List (Declaration α)) :
    (ofDeclarations ds).items = distinct (ds.flatMap Declaration.mentions) :=
  ((links_spec _ _).1).trans (Builder.records ds).items

theorem mem_items_ofDeclarations :
    a ∈ (ofDeclarations ds).items ↔ ∃ d ∈ ds, a ∈ d.mentions := by
  rw [items_ofDeclarations, mem_distinct, List.mem_flatMap]

theorem getElem?_idxOf (ha : a ∈ g.items) : g.items[g.items.idxOf a]? = some a := by
  rw [List.getElem?_eq_getElem (List.idxOf_lt_length_of_mem ha), List.getElem_idxOf]

/-- The number of an item in the graph of the declarations. -/
def number (ds : List (Declaration α)) (a : α) : Nat := (ofDeclarations ds).items.idxOf a

/-- Two numbers stand for one item, or for two that depend on one another by the
declarations. -/
def Mutual (ds : List (Declaration α)) (u v : Nat) : Prop :=
  u = v ∨ ∃ a b, (ofDeclarations ds).items[u]? = some a ∧
    (ofDeclarations ds).items[v]? = some b ∧
    ReflTransGen (Declared ds) a b ∧ ReflTransGen (Declared ds) b a

namespace Mutual

theorem symm (h : Mutual ds u v) : Mutual ds v u := by
  rcases h with rfl | ⟨a, b, ha, hb, hab, hba⟩
  · exact .inl rfl
  · exact .inr ⟨b, a, hb, ha, hba, hab⟩

theorem trans (h : Mutual ds u v) (h' : Mutual ds v x) : Mutual ds u x := by
  rcases h with rfl | ⟨a, b, ha, hb, hab, hba⟩
  · exact h'
  · rcases h' with rfl | ⟨b', c, hb', hc, hbc, hcb⟩
    · exact .inr ⟨a, b, ha, hb, hab, hba⟩
    · obtain rfl := Option.some_inj.mp (hb.symm.trans hb')
      exact .inr ⟨a, c, ha, hc, hab.trans hbc, hcb.trans hba⟩

theorem reaches (h : Mutual ds u v) (ha : (ofDeclarations ds).items[u]? = some a)
    (hb : (ofDeclarations ds).items[v]? = some b) :
    ReflTransGen (Declared ds) a b ∧ ReflTransGen (Declared ds) b a := by
  rcases h with rfl | ⟨a', b', ha', hb', hab, hba⟩
  · obtain rfl := Option.some_inj.mp (ha.symm.trans hb)
    exact ⟨.refl, .refl⟩
  · obtain rfl := Option.some_inj.mp (ha.symm.trans ha')
    obtain rfl := Option.some_inj.mp (hb.symm.trans hb')
    exact ⟨hab, hba⟩

end Mutual

theorem successorsOf_ofDeclarations (ds : List (Declaration α)) (u v : Nat) :
    v ∈ (ofDeclarations ds).successorsOf u ↔
      (∃ a b, .dependency a b ∈ ds ∧ number ds a = u ∧ number ds b = v) ∨
        ∃ l ∈ (ds.foldl Builder.declare {}).sets.groups, (u, v) ∈ Builder.cycle l := by
  have hrecords := Builder.records ds
  obtain ⟨hitems, hsuccessors⟩ := links_spec (ds.foldl Builder.declare {}).graph
    ((ds.foldl Builder.declare {}).sets.groups.flatMap Builder.cycle)
  refine (hsuccessors u v).trans (or_congr ?_ ?_)
  · rw [hrecords.mem_successorsOf_iff, ← hitems]
    simp only [mem_filterMap_dependency?, Prod.exists]
    rfl
  · rw [List.mem_flatMap]
    refine and_iff_left_of_imp fun ⟨l, hl, he⟩ => ?_
    obtain ⟨hu, hv⟩ := mem_of_mem_cycle he
    obtain ⟨hult, hvlt, -⟩ := hrecords.sets.1.root_eq_of_mem_groups hl hu hv
    rw [hrecords.sets.2.1] at hult hvlt
    exact ⟨hult, hvlt⟩

theorem size_sets (ds : List (Declaration α)) :
    (ds.foldl Builder.declare {}).sets.size = (ofDeclarations ds).size :=
  (Builder.records ds).sets.2.1.trans (congrArg List.length (links_spec _ _).1.symm)

/-- The numbers of items declared equivalent. -/
def Equated (ds : List (Declaration α)) (u v : Nat) : Prop :=
  ∃ a b, .equivalence a b ∈ ds ∧ number ds a = u ∧ number ds b = v

theorem root_sets_iff :
    (ds.foldl Builder.declare {}).sets.root u = (ds.foldl Builder.declare {}).sets.root v ↔
      EqvGen (Equated ds) u v := by
  have hrecords := Builder.records ds
  obtain ⟨hitems, -⟩ := links_spec (ds.foldl Builder.declare {}).graph
    ((ds.foldl Builder.declare {}).sets.groups.flatMap Builder.cycle)
  rw [hrecords.sets.2.2]
  suffices heq : (fun x y => (x, y) ∈ (ds.foldl Builder.declare {}).equivalences) = Equated ds by
    rw [heq]
  funext x y
  rw [hrecords.equivalences, ← hitems]
  simp only [List.mem_map, mem_filterMap_equivalence?, Prod.exists, Prod.mk.injEq]
  rfl

theorem number_lt (ha : a ∈ (ofDeclarations ds).items) : number ds a < (ofDeclarations ds).size :=
  List.idxOf_lt_length_of_mem ha

theorem number_eq (ha : (ofDeclarations ds).items[u]? = some a) : number ds a = u :=
  eq_of_getElem? (getElem?_idxOf (List.mem_of_getElem? ha)) ha

theorem getElem?_number {d : Declaration α} (hd : d ∈ ds) (ha : a ∈ d.mentions) :
    (ofDeclarations ds).items[number ds a]? = some a :=
  getElem?_idxOf (mem_items_ofDeclarations.mpr ⟨d, hd, ha⟩)

theorem mutual_of_eqvGen (h : EqvGen (Equated ds) u v) : Mutual ds u v := by
  induction h with
  | rel u v h =>
    obtain ⟨a, b, hab, rfl, rfl⟩ := h
    exact .inr ⟨a, b, getElem?_number hab (by simp [Declaration.mentions]),
      getElem?_number hab (by simp [Declaration.mentions]), .single (.forth hab),
      .single (.back hab)⟩
  | refl u => exact .inl rfl
  | symm _ _ _ ih => exact ih.symm
  | trans _ _ _ _ _ ih ih' => exact ih.trans ih'

theorem reaches_of_mem_successorsOf (h : v ∈ (ofDeclarations ds).successorsOf u)
    (ha : (ofDeclarations ds).items[u]? = some a) (hb : (ofDeclarations ds).items[v]? = some b) :
    ReflTransGen (Declared ds) a b := by
  rcases (successorsOf_ofDeclarations ds u v).mp h with ⟨a', b', hab, rfl, rfl⟩ | ⟨l, hl, he⟩
  · have ha' := getElem?_number hab (a := a') (by simp [Declaration.mentions])
    have hb' := getElem?_number hab (a := b') (by simp [Declaration.mentions])
    obtain rfl := Option.some_inj.mp (ha.symm.trans ha')
    obtain rfl := Option.some_inj.mp (hb.symm.trans hb')
    exact .single (.dependency hab)
  · obtain ⟨hu, hv⟩ := mem_of_mem_cycle he
    obtain ⟨-, -, hroot⟩ := (Builder.records ds).sets.1.root_eq_of_mem_groups hl hu hv
    exact ((mutual_of_eqvGen (root_sets_iff.mp hroot)).reaches ha hb).1

theorem path_of_equated (hu : u < (ofDeclarations ds).size) (hv : v < (ofDeclarations ds).size)
    (h : EqvGen (Equated ds) u v) : Path (ofDeclarations ds).successorsOf u v := by
  by_cases hne : u = v
  · exact hne ▸ .refl u
  · obtain ⟨l, hl, hul, hvl⟩ := (Builder.records ds).sets.1.exists_mem_groups (size_sets ds ▸ hu)
      (size_sets ds ▸ hv) hne (root_sets_iff.mpr h)
    exact path_of_cycle
      (fun x y he => (successorsOf_ofDeclarations ds x y).mpr (.inr ⟨l, hl, he⟩)) hul hvl

theorem path_of_declared (h : Declared ds a b) :
    Path (ofDeclarations ds).successorsOf (number ds a) (number ds b) := by
  obtain ⟨d, hd, ha, hb⟩ := h.mentioned
  have halt := number_lt (mem_items_ofDeclarations.mpr ⟨d, hd, ha⟩)
  have hblt := number_lt (mem_items_ofDeclarations.mpr ⟨d, hd, hb⟩)
  cases h with
  | dependency h =>
    exact .edge ((successorsOf_ofDeclarations ds _ _).mpr (.inl ⟨a, b, h, rfl, rfl⟩))
  | forth h => exact path_of_equated halt hblt (.rel _ _ ⟨a, b, h, rfl, rfl⟩)
  | back h => exact path_of_equated halt hblt (.symm _ _ (.rel _ _ ⟨b, a, h, rfl, rfl⟩))

/-- One item reaches another in the graph exactly if it does in the declarations. -/
theorem path_iff (ha : (ofDeclarations ds).items[u]? = some a)
    (hb : (ofDeclarations ds).items[v]? = some b) :
    Path (ofDeclarations ds).successorsOf u v ↔ ReflTransGen (Declared ds) a b := by
  constructor
  · intro h
    induction h generalizing a with
    | refl => exact Option.some_inj.mp (ha.symm.trans hb) ▸ .refl
    | @step u w v he _ ih =>
      have hw := List.getElem?_eq_getElem (mem_successorsOf_lt he).2
      exact (reaches_of_mem_successorsOf he ha hw).trans (ih hw hb)
  · intro h
    rw [← number_eq ha, ← number_eq hb]
    clear ha hb
    induction h with
    | refl => exact .refl _
    | tail _ h ih => exact ih.trans (path_of_declared h)

end Reach

section Grouping

variable [DecidableEq α]

/-- The graph `g` holds what was declared and nothing else, with every equivalence read as
two dependencies. -/
structure IsGrouping (ds : List (Declaration α)) (g : DependencyGraph α) : Prop where
  items_eq : g.items = distinct (ds.flatMap Declaration.mentions)
  indexOf?_eq_some_iff : ∀ a v, g.indexOf? a = some v ↔ g.items[v]? = some a
  ascending : ∀ u, (g.successorsOf u).Pairwise (· < ·)
  bounded : ∀ u, ∀ v ∈ g.successorsOf u, v < g.size
  path_iff : ∀ u v a b, g.items[u]? = some a → g.items[v]? = some b →
    (Path g.successorsOf u v ↔ ReflTransGen (Declared ds) a b)
  same_component_iff : ∀ a ∈ g.items, ∀ b ∈ g.items,
    (∃ k ∈ (Condensed.ofGraph g).components, a ∈ k.items ∧ b ∈ k.items) ↔
      ReflTransGen (Declared ds) a b ∧ ReflTransGen (Declared ds) b a
  same_component_of_equivalence : ∀ a b, .equivalence a b ∈ ds →
    ∃ k ∈ (Condensed.ofGraph g).components, a ∈ k.items ∧ b ∈ k.items

theorem isGrouping_ofDeclarations (ds : List (Declaration α)) :
    IsGrouping ds (ofDeclarations ds) := by
  have hsame : ∀ a ∈ (ofDeclarations ds).items, ∀ b ∈ (ofDeclarations ds).items,
      (∃ k ∈ (Condensed.ofGraph (ofDeclarations ds)).components, a ∈ k.items ∧ b ∈ k.items) ↔
        ReflTransGen (Declared ds) a b ∧ ReflTransGen (Declared ds) b a := by
    intro a ha b hb
    have ha := getElem?_idxOf ha
    have hb := getElem?_idxOf hb
    rw [exists_component_iff ha hb, path_iff ha hb, path_iff hb ha]
  refine ⟨items_ofDeclarations ds, fun _ _ => indexOf?_eq_some_iff, pairwise_successorsOf _,
    fun u v hv => (mem_successorsOf_lt hv).2, fun _ _ _ _ ha hb => path_iff ha hb, hsame, ?_⟩
  · intro a b hab
    exact (hsame a (mem_items_ofDeclarations.mpr ⟨_, hab, by simp [Declaration.mentions]⟩) b
      (mem_items_ofDeclarations.mpr ⟨_, hab, by simp [Declaration.mentions]⟩)).mpr
      ⟨.single (.forth hab), .single (.back hab)⟩

end Grouping

end DeltaDebugging.DependencyGraph
