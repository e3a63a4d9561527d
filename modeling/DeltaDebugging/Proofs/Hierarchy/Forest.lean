import DeltaDebugging.Hierarchy.Tree
import DeltaDebugging.Proofs.Graph.Depths
import DeltaDebugging.Proofs.Hierarchy.Accounts
import Mathlib.Data.Set.Card
import Mathlib.Order.Lattice.Nat

/-!
# Levels of a forest

A level is made from the results alone: it holds the children of what the result before it
left on the refined side. If the results split their levels, an item is offered exactly when
all its ancestors were refined, each in its own level. In a forest an item has one line of
ancestors, so no level repeats an item of another one, and there are no more levels than
generations.
-/
namespace DeltaDebugging

variable {σ α : Type} {roots : List α} {children : α → List α} {refinement : Refinement}
  {results : List (Outcome α)} {x y : α} {l m : List α}

theorem Refinement.side_sublist (refinement : Refinement) (c : Cut α) :
    (refinement.side c).Sublist (c.retained ++ c.deleted) := by
  cases refinement with
  | retained => exact List.sublist_append_left _ _
  | deleted => exact List.sublist_append_right _ _

namespace Hierarchy

/-- The proper ancestors of an item, the nearest first. -/
inductive Lineage (roots : List α) (children : α → List α) : α → List α → Prop
  | root {x : α} : x ∈ roots → Lineage roots children x []
  | child {x p : α} {l : List α} : Lineage roots children p l → x ∈ children p →
      Lineage roots children x (p :: l)

/-- The items that a line of ancestors connects with a root are finitely many. Their lists of
children repeat nothing, have nothing in common, and contain no root. -/
structure IsForest (roots : List α) (children : α → List α) : Prop where
  nodup : ∀ {x l}, Lineage roots children x l → (children x).Nodup
  disjoint : ∀ {x y l m}, Lineage roots children x l → Lineage roots children y m → x ≠ y →
    (children x).Disjoint (children y)
  not_root : ∀ {p l x}, Lineage roots children p l → x ∈ children p → x ∉ roots
  finite : {x | ∃ l, Lineage roots children x l}.Finite

noncomputable def height (roots : List α) (children : α → List α) : Nat :=
  sSup {n | ∃ x l, Lineage roots children x l ∧ n = l.length + 1}

theorem Lineage.exists_of_mem (hx : Lineage roots children x l) (hy : y ∈ l) :
    ∃ m, Lineage roots children y m ∧ m.length < l.length := by
  induction hx with
  | root => cases hy
  | child hp _ ih =>
    rcases List.mem_cons.mp hy with rfl | hy
    · exact ⟨_, hp, Nat.lt_succ_self _⟩
    · obtain ⟨m, hm, hlt⟩ := ih hy
      exact ⟨m, hm, Nat.lt_succ_of_lt hlt⟩

namespace IsForest

/-- It is enough to look at finitely many items that contain the roots and all children. -/
theorem of_closed (items : List α) (hroots : ∀ x ∈ roots, x ∈ items)
    (hclosed : ∀ p ∈ items, ∀ x ∈ children p, x ∈ items ∧ x ∉ roots)
    (hnodup : ∀ p ∈ items, (children p).Nodup)
    (hdisjoint : ∀ p ∈ items, ∀ q ∈ items, p ≠ q → ∀ x ∈ children p, x ∉ children q) :
    IsForest roots children := by
  have hmem : ∀ {x l}, Lineage roots children x l → x ∈ items := by
    intro x l hx
    induction hx with
    | root hx => exact hroots _ hx
    | child _ hx ih => exact (hclosed _ ih _ hx).1
  refine ⟨fun hx => hnodup _ (hmem hx), fun hx hy hne z hz hz' => ?_,
    fun hp hx => (hclosed _ (hmem hp) _ hx).2, ?_⟩
  · exact hdisjoint _ (hmem hx) _ (hmem hy) hne z hz hz'
  · exact (List.finite_toSet items).subset fun x ⟨_, hx⟩ => hmem hx

variable (h : IsForest roots children)

include h

theorem lineage_unique (hx : Lineage roots children x l) (hx' : Lineage roots children x m) :
    l = m := by
  -- An item is a root or has one parent, so both lines begin with the same step.
  induction hx generalizing m with
  | root hx =>
    cases hx' with
    | root => rfl
    | child hp hx' => exact absurd hx (h.not_root hp hx')
  | @child x p l hp hx ih =>
    cases hx' with
    | root hx' => exact absurd hx' (h.not_root hp hx)
    | @child _ q m hq hx' =>
      by_cases hpq : p = q
      · subst hpq
        rw [ih hq]
      · exact absurd hx' (h.disjoint hp hq hpq hx)

theorem nodup_lineage (hx : Lineage roots children x l) : (x :: l).Nodup := by
  have hout {x l} (hx : Lineage roots children x l) : x ∉ l := by
    intro hmem
    obtain ⟨m, hm, hlt⟩ := hx.exists_of_mem hmem
    rw [h.lineage_unique hx hm] at hlt
    exact Nat.lt_irrefl _ hlt
  induction hx with
  | root => exact List.nodup_singleton _
  | child hp hx ih => exact List.nodup_cons.mpr ⟨hout (.child hp hx), ih⟩

theorem length_lt_height (hx : Lineage roots children x l) :
    l.length < height roots children := by
  refine le_csSup ⟨h.finite.toFinset.card, ?_⟩ ⟨x, l, hx, rfl⟩
  rintro n ⟨x, l, hx, rfl⟩
  classical
  rw [← List.length_cons, ← List.toFinset_card_of_nodup (h.nodup_lineage hx)]
  refine Finset.card_le_card fun y hy => h.finite.mem_toFinset.mpr ?_
  rcases List.mem_cons.mp (List.mem_toFinset.mp hy) with rfl | hy
  · exact ⟨l, hx⟩
  · obtain ⟨m, hm, -⟩ := hx.exists_of_mem hy
    exact ⟨m, hm⟩

end IsForest

section Offered

/-- An item may be offered once all its ancestors were refined, each by the result numbered by
its own ancestors. -/
def Refined (refinement : Refinement) (results : List (Outcome α)) (l : List α) : Prop :=
  ∀ (k : Nat) (y : α), l.reverse[k]? = some y →
    ∃ o : Outcome α, results[k]? = some o ∧ y ∈ refinement.side o.cut

theorem refined_cons {p : α} : Refined refinement results (p :: l) ↔
    Refined refinement results l ∧
      ∃ o : Outcome α, results[l.length]? = some o ∧ p ∈ refinement.side o.cut := by
  simp only [Refined, List.reverse_cons]
  constructor
  · intro h
    exact ⟨fun k y hy => h k y (getElem?_concat_eq_some.mpr (.inl hy)), h l.length p (by simp)⟩
  · rintro ⟨h, hp⟩ k y hy
    rcases getElem?_concat_eq_some.mp hy with hy | ⟨rfl, rfl⟩
    · exact h k y hy
    · rwa [List.length_reverse]

variable [DecidableEq α]

def offered (roots : List α) (children : α → List α) (refinement : Refinement)
    (results : List (Outcome α)) : List α :=
  distinct <| match results.getLast? with
    | none => roots
    | some o => (refinement.side o.cut).flatMap children

theorem offered_concat (results : List (Outcome α)) (o : Outcome α) :
    offered roots children refinement (results ++ [o]) =
      distinct ((refinement.side o.cut).flatMap children) := by
  simp [offered]

/-- Every result splits what was offered after those before it. -/
def Split (roots : List α) (children : α → List α) (refinement : Refinement)
    (results : List (Outcome α)) : Prop :=
  ∀ (k : Nat) (o : Outcome α), results[k]? = some o → (o.cut.retained ++ o.cut.deleted).Perm
    (offered roots children refinement (results.take k))

theorem Split.mem_offered (h : Split roots children refinement results) {k : Nat}
    (hk : k ≤ results.length) :
    x ∈ offered roots children refinement (results.take k) ↔
      ∃ l, Lineage roots children x l ∧ l.length = k ∧ Refined refinement results l := by
  induction k generalizing x with
  | zero =>
    rw [List.take_zero, offered, mem_distinct]
    constructor
    · exact fun hx => ⟨[], .root hx, rfl, by simp [Refined]⟩
    · rintro ⟨l, hx, hl, -⟩
      obtain rfl := List.eq_nil_of_length_eq_zero hl
      cases hx with
      | root hx => exact hx
  | succ k ih =>
    have hget : results[k]? = some results[k] := List.getElem?_eq_getElem hk
    rw [List.take_add_one, hget, Option.toList_some, offered_concat, mem_distinct, List.mem_flatMap]
    constructor
    · rintro ⟨p, hp, hx⟩
      -- The parent was offered, since a result splits its level, and was refined by that result.
      have hoffered := (h k _ hget).mem_iff.mp ((refinement.side_sublist _).subset hp)
      obtain ⟨l, hlineage, rfl, hl⟩ := (ih (Nat.le_of_lt hk)).mp hoffered
      exact ⟨p :: l, .child hlineage hx, rfl, refined_cons.mpr ⟨hl, _, hget, hp⟩⟩
    · rintro ⟨_ | ⟨p, l⟩, hlineage, hlength, hl⟩
      · cases hlength
      · obtain rfl := Nat.succ.inj hlength
        cases hlineage with
        | child hp hx =>
          obtain ⟨-, o, ho, hside⟩ := refined_cons.mp hl
          obtain rfl := Option.some.inj (hget.symm.trans ho)
          exact ⟨p, hside, hx⟩

/-- In a forest nothing is lost when a level is made of lists of children. -/
theorem IsForest.offered_take_succ (h : IsForest roots children)
    (hsplit : Split roots children refinement results) {k : Nat} {o : Outcome α}
    (ho : results[k]? = some o) :
    offered roots children refinement (results.take (k + 1)) =
      (refinement.side o.cut).flatMap children := by
  rw [List.take_add_one, ho, Option.toList_some, offered_concat]
  have hperm := hsplit k o ho
  have hlt := (List.getElem?_eq_some_iff.mp ho).1
  have hlineage : ∀ {p}, p ∈ refinement.side o.cut → ∃ l, Lineage roots children p l := by
    intro p hp
    have hoffered := hperm.mem_iff.mp ((refinement.side_sublist _).subset hp)
    obtain ⟨l, hl, -⟩ := (hsplit.mem_offered (Nat.le_of_lt hlt)).mp hoffered
    exact ⟨l, hl⟩
  have hside : (refinement.side o.cut).Nodup :=
    (hperm.nodup_iff.mpr (nodup_distinct _)).sublist (refinement.side_sublist _)
  refine distinct_of_nodup (List.nodup_flatMap.mpr ⟨fun p hp => ?_, ?_⟩)
  · obtain ⟨l, hl⟩ := hlineage hp
    exact h.nodup hl
  · refine hside.imp_of_mem fun {p q} hp hq hne => ?_
    obtain ⟨l, hl⟩ := hlineage hp
    obtain ⟨m, hm⟩ := hlineage hq
    exact h.disjoint hl hm hne

end Offered

section Run

variable [DecidableEq α] {s s' : Unit} {o : Outcome α} {h : History Unit α} {level : Level α}

/-- Each level handed out is what was offered after the results before it, and none is empty. -/
structure Descends (roots : List α) (children : α → List α) (refinement : Refinement)
    (h : History Unit α) : Prop where
  items : ∀ (k : Nat) (x : Unit × Level α), h.handed[k]? = some x →
    x.2.items = offered roots children refinement (h.results.take k)
  ne_nil : ∀ (k : Nat) (x : Unit × Level α), h.handed[k]? = some x → x.2.items ≠ []

namespace Descends

theorem hand (hd : Descends roots children refinement h)
    (hlevel : level.items = offered roots children refinement h.results)
    (hlength : h.handed.length = h.results.length) (hsome : level.items ≠ []) :
    Descends roots children refinement (h.hand s (some level)) := by
  constructor
  · intro k x hx
    rw [History.results_hand]
    rcases getElem?_concat_eq_some.mp hx with hx | ⟨rfl, rfl⟩
    · exact hd.items k x hx
    · rw [hlength, List.take_length, hlevel]
  · intro k x hx
    rcases getElem?_concat_eq_some.mp hx with hx | ⟨rfl, rfl⟩
    · exact hd.ne_nil k x hx
    · exact hsome

theorem give (hd : Descends roots children refinement h)
    (hlength : h.handed.length ≤ h.results.length + 1) (o : Outcome α) :
    Descends roots children refinement (h.give o) := by
  refine ⟨fun k x hx => ?_, hd.ne_nil⟩
  have hlt := (List.getElem?_eq_some_iff.mp hx).1
  rw [History.handed_give] at hlt
  rw [History.results_give, List.take_append_of_le_length (by omega)]
  exact hd.items k x hx

end Descends

theorem next_tree_eq_some {next : Level α}
    (hnext : (Generator.tree roots children refinement).next o s = (some next, s'))
    (results : List (Outcome α)) :
    next.items = offered roots children refinement (results ++ [o]) ∧ next.items ≠ [] := by
  rw [offered_concat]
  have hfst := congrArg Prod.fst hnext
  simp only [Generator.tree] at hfst
  split at hfst
  · cases hfst
  · next hsome =>
    obtain rfl := Option.some.inj hfst
    exact ⟨rfl, by simpa [Level.isEmpty] using hsome⟩

theorem next_tree_eq_none
    (hnext : (Generator.tree roots children refinement).next o s = (none, s'))
    (results : List (Outcome α)) :
    offered roots children refinement (results ++ [o]) = [] := by
  rw [offered_concat]
  have hfst := congrArg Prod.fst hnext
  simp only [Generator.tree] at hfst
  split at hfst
  · next hempty => exact List.isEmpty_iff.mp hempty
  · cases hfst

/-- A level is at hand, the last of those handed out. -/
structure Descending (roots : List α) (children : α → List α) (refinement : Refinement)
    (h : History Unit α) (level : Level α) : Prop where
  descends : Descends roots children refinement h
  handed : h.handed.length = h.results.length + 1
  last : ∃ u, h.handed[h.results.length]? = some (u, level)

/-- How a run over a forest ends: if well, then nothing is left to offer, and if it stalled,
then the last two levels are the same. -/
structure Descended (roots : List α) (children : α → List α) (refinement : Refinement)
    (e : Ending (Unit × History Unit α)) : Prop where
  descends : Descends roots children refinement e.generator.2
  results : e.generator.2.results.length ≤ e.generator.2.handed.length
  handed : e.generator.2.handed.length ≤ e.generator.2.results.length + 1
  ok : ∀ report, e.answer = .ok report →
    e.generator.2.handed.length = e.generator.2.results.length ∧
      offered roots children refinement e.generator.2.results = []
  stalled : ∀ n, e.answer = .error (.stalledHierarchy n) → ∃ k x y,
    e.generator.2.handed[k]? = some x ∧ e.generator.2.handed[k + 1]? = some y ∧
      y.2.items = x.2.items

theorem Descending.results_le (hd : Descending roots children refinement h level) :
    h.results.length ≤ h.handed.length := by
  rw [hd.handed]
  exact Nat.le_succ _

theorem Descending.first
    (hfirst : (Generator.tree roots children refinement).first s = (.ok level, s')) :
    Descending roots children refinement (({} : History Unit α).hand s' (some level)) level := by
  have hfst := congrArg Prod.fst hfirst
  simp only [Generator.tree] at hfst
  split at hfst
  · cases hfst
  · next hsome =>
    obtain rfl := Except.ok.inj hfst
    have hstart : Descends roots children refinement ({} : History Unit α) := by
      constructor <;> simp
    have hne : (Level.ofList roots).items ≠ [] := by
      obtain ⟨x, hx⟩ := List.exists_mem_of_ne_nil roots (by simpa using hsome)
      exact List.ne_nil_of_mem (Level.mem_ofList.mpr hx)
    exact ⟨hstart.hand rfl rfl hne, rfl, s', rfl⟩

theorem Descending.next (hd : Descending roots children refinement h level) {next : Level α}
    (hnext : (Generator.tree roots children refinement).next o s = (some next, s')) :
    Descending roots children refinement ((h.give o).hand s' (some next)) next := by
  obtain ⟨hitems, hsome⟩ := next_tree_eq_some hnext h.results
  have hlength := hd.handed
  refine ⟨(hd.descends.give (by omega) o).hand hitems (by simp [hlength]) hsome, by simp [hlength],
    s', ?_⟩
  simp [← hlength]

/-- What the driver and the generator of a forest exchange. -/
theorem keeps_descending {a : Algorithm} {limits : HierarchyLimits} {t : Tester σ α} :
    Keeps a (Generator.tree roots children refinement).traced limits t
      (fun s level _ _ => Descending roots children refinement s.2 level)
      (fun e _ _ => Descended roots children refinement e) := by
  constructor
  case limit => exact fun hd => ⟨hd.descends, hd.results_le, hd.handed.le, nofun, nofun⟩
  case failed =>
    exact fun hd => fun _ => ⟨hd.descends, hd.results_le, hd.handed.le, nofun, nofun⟩
  case last =>
    intro s s' level st h result report hd _ _ hlast
    obtain ⟨hlast, hhistory⟩ := Generator.next_traced_iff.mp hlast
    have hlength := hd.handed
    refine ⟨?_, ?_, ?_, fun _ _ => ?_, nofun⟩
    · rw [hhistory, History.hand_none]
      exact hd.descends.give hlength.le result
    · simp [hhistory, hlength]
    · simp [hhistory, hlength]
    · rw [hhistory, History.hand_none]
      exact ⟨by simp [hlength], next_tree_eq_none hlast _⟩
  case next =>
    intro s s' level next st h result hd _ _ hnext
    obtain ⟨hnext, hhistory⟩ := Generator.next_traced_iff.mp hnext
    rw [hhistory]
    exact hd.next hnext
  case stalled =>
    intro s s' level next st h result n hd _ _ hnext _ hsame
    obtain ⟨hnext, hhistory⟩ := Generator.next_traced_iff.mp hnext
    have hlater := hd.next hnext
    rw [← hhistory] at hlater
    refine ⟨hlater.descends, hlater.results_le, hlater.handed.le, nofun, fun _ _ => ?_⟩
    obtain ⟨u, hlast⟩ := hd.last
    obtain ⟨v, hnext⟩ := hlater.last
    refine ⟨s.2.results.length, (u, level), (v, next), ?_, ?_, hsame⟩
    · rw [hhistory, History.handed_hand_some, History.handed_give,
        List.getElem?_append_left (List.getElem?_eq_some_iff.mp hlast).1, hlast]
    · rw [← hnext, hhistory]
      simp

namespace Descended

variable {e : Ending (Unit × History Unit α)} (hd : Descended roots children refinement e)

include hd

theorem split (hsplit : ∀ x ∈ (e.generator.2.handed.map Prod.snd).zip e.generator.2.results,
    (x.2.cut.retained ++ x.2.cut.deleted).Perm x.1.items) :
    Split roots children refinement e.generator.2.results := by
  intro k o ho
  have hlt : k < e.generator.2.handed.length :=
    Nat.lt_of_lt_of_le (List.getElem?_eq_some_iff.mp ho).1 hd.results
  have hx := List.getElem?_eq_getElem hlt
  rw [← hd.descends.items k _ hx]
  refine hsplit (e.generator.2.handed[k].2, o) (List.mem_of_getElem? (i := k) ?_)
  rw [List.getElem?_zip_eq_some, List.getElem?_map, hx]
  exact ⟨rfl, ho⟩

variable (hsplit : Split roots children refinement e.generator.2.results)

include hsplit

theorem mem_iff {k : Nat} {z : Unit × Level α} (hz : e.generator.2.handed[k]? = some z) :
    x ∈ z.2.items ↔ ∃ l, Lineage roots children x l ∧ l.length = k ∧
      Refined refinement e.generator.2.results l := by
  have hlt := (List.getElem?_eq_some_iff.mp hz).1
  have hlength := hd.handed
  rw [hd.descends.items k z hz, hsplit.mem_offered (by omega)]

/-- Nothing with `k` refined ancestors is missed by a run that ends well. -/
theorem lt_of_ok {report : Report} (hok : e.answer = .ok report)
    (hx : Lineage roots children x l) (hl : Refined refinement e.generator.2.results l) :
    l.length < e.generator.2.handed.length := by
  obtain ⟨hlength, hnone⟩ := hd.ok report hok
  -- A longer line has an ancestor for which there is no result.
  have hle : l.length ≤ e.generator.2.results.length := by
    by_contra hgt
    obtain ⟨o, ho, -⟩ := hl e.generator.2.results.length _
      (List.getElem?_eq_getElem (by rw [List.length_reverse]; omega))
    simp at ho
  rw [hlength]
  refine Nat.lt_of_le_of_ne hle fun heq => ?_
  have hoffered := (hsplit.mem_offered hle).mpr ⟨l, hx, rfl, hl⟩
  rw [heq, List.take_length, hnone] at hoffered
  cases hoffered

variable (hforest : IsForest roots children)

include hforest

theorem eq_of_mem {j k : Nat} {z w : Unit × Level α} (hz : e.generator.2.handed[j]? = some z)
    (hw : e.generator.2.handed[k]? = some w) (hx : x ∈ z.2.items) (hx' : x ∈ w.2.items) :
    j = k := by
  obtain ⟨l, hl, rfl, -⟩ := (hd.mem_iff hsplit hz).mp hx
  obtain ⟨m, hm, rfl, -⟩ := (hd.mem_iff hsplit hw).mp hx'
  rw [hforest.lineage_unique hl hm]

theorem not_stalled (n : Nat) : e.answer ≠ .error (.stalledHierarchy n) := by
  intro hstalled
  obtain ⟨k, z, w, hz, hw, hsame⟩ := hd.stalled n hstalled
  obtain ⟨x, hx⟩ := List.exists_mem_of_ne_nil _ (hd.descends.ne_nil k z hz)
  have := hd.eq_of_mem hsplit hforest hz hw hx (hsame ▸ hx)
  omega

theorem length_le_height : e.generator.2.handed.length ≤ height roots children := by
  cases hn : e.generator.2.handed.length with
  | zero => exact Nat.zero_le _
  | succ n =>
    have hz := List.getElem?_eq_getElem (l := e.generator.2.handed) (i := n) (by omega)
    obtain ⟨x, hx⟩ := List.exists_mem_of_ne_nil _ (hd.descends.ne_nil n _ hz)
    obtain ⟨l, hl, rfl, -⟩ := (hd.mem_iff hsplit hz).mp hx
    exact hforest.length_lt_height hl

end Descended

/-- In a forest whose results split their levels, a run offers an item in at most one level.
The first level is the list of roots, and every other is the lists of children of what the
result before it left on the refined side, one after another. The run does not stall, and
has no more levels than there are generations. If it ends well, the items of the level after
`k` others are those with `k` ancestors all of which were on the refined side of the results
of their own levels. -/
theorem tree_levels (hforest : IsForest roots children) (refinement : Refinement) (a : Algorithm)
    (limits : HierarchyLimits) (t : Tester σ α) (st : σ)
    (hsplit :
      let g := Generator.tree roots children refinement
      let r := (minimize a g.traced limits ((), {})).run t st
      let history := r.answer.generator.2
      ∀ e ∈ (history.handed.map Prod.snd).zip history.results,
        (e.2.cut.retained ++ e.2.cut.deleted).Perm e.1.items) :
    let g := Generator.tree roots children refinement
    let r := (minimize a g.traced limits ((), {})).run t st
    let levels := r.answer.generator.2.handed.map Prod.snd
    let results := r.answer.generator.2.results
    (minimize a g limits ()).run t st = ⟨forget r.answer, r.state, r.steps⟩ ∧
    (levels.Pairwise fun x y => x.items.Disjoint y.items) ∧
    (∀ level, levels[0]? = some level → level.items = distinct roots) ∧
    (∀ (k : Nat) (level : Level α) (o : Outcome α),
      levels[k + 1]? = some level → results[k]? = some o →
        level.items = (refinement.side o.cut).flatMap children) ∧
    (∀ n, r.answer.answer ≠ .error (.stalledHierarchy n)) ∧
    levels.length ≤ height roots children ∧
    ∀ report, r.answer.answer = .ok report → report.levelCount = levels.length ∧
      results.length = levels.length ∧
      ∀ (k : Nat) (x : α), (∃ level, levels[k]? = some level ∧ x ∈ level.items) ↔
        ∃ ancestors, Lineage roots children x ancestors ∧ ancestors.length = k ∧
          ∀ (j : Nat) (y : α), ancestors.reverse[j]? = some y →
            ∃ o : Outcome α, results[j]? = some o ∧ y ∈ refinement.side o.cut := by
  intro g r levels results
  have hforget := run_minimize_traced a g limits ((), {}) t st
  have hd : Descended roots children refinement r.answer := by
    refine keeps_descending.minimize st (fun level s' hfirst => ?_) fun e s' hfirst => ?_
    · obtain ⟨hfirst, hhistory⟩ := Generator.first_traced_iff.mp hfirst
      rw [hhistory]
      exact .first hfirst
    · obtain ⟨-, hhistory⟩ := Generator.first_traced_iff.mp hfirst
      have hnone : s'.2 = {} := hhistory
      exact ⟨by rw [hnone]; constructor <;> simp, by simp [hnone], by simp [hnone], nofun, nofun⟩
  have hresults : Split roots children refinement results := hd.split hsplit
  have hlevel : ∀ {k : Nat} {level : Level α}, levels[k]? = some level →
      ∃ z, r.answer.generator.2.handed[k]? = some z ∧ z.2 = level := fun h => by
    rw [List.getElem?_map, Option.map_eq_some_iff] at h
    exact h
  have hlength : levels.length = r.answer.generator.2.handed.length := List.length_map _
  refine ⟨hforget, ?_, fun level h => ?_, fun k level o h ho => ?_,
    hd.not_stalled hresults hforest, ?_, fun report hok => ?_⟩
  · rw [List.pairwise_map, List.pairwise_iff_getElem]
    intro j k hj hk hlt x hx hx'
    have := hd.eq_of_mem hresults hforest (List.getElem?_eq_getElem hj)
      (List.getElem?_eq_getElem hk) hx hx'
    omega
  · obtain ⟨z, hz, rfl⟩ := hlevel h
    exact hd.descends.items 0 z hz
  · obtain ⟨z, hz, rfl⟩ := hlevel h
    rw [hd.descends.items _ z hz]
    exact hforest.offered_take_succ hresults ho
  · rw [hlength]
    exact hd.length_le_height hresults hforest
  · obtain ⟨hsame, -⟩ := hd.ok report hok
    have hcount : report.levelCount = results.length := by
      refine levelCount_of_ok (s := ()) ?_
      rw [hforget]
      exact hok
    refine ⟨by rw [hcount, hlength, hsame], by rw [hlength, hsame], fun k x => ⟨?_, ?_⟩⟩
    · rintro ⟨level, h, hx⟩
      obtain ⟨z, hz, rfl⟩ := hlevel h
      exact (hd.mem_iff hresults hz).mp hx
    · rintro ⟨l, hl, rfl, hrefined⟩
      have hz := List.getElem?_eq_getElem (hd.lt_of_ok hresults hok hl hrefined)
      refine ⟨_, by rw [List.getElem?_map, hz]; rfl, ?_⟩
      exact (hd.mem_iff hresults hz).mpr ⟨l, hl, rfl, hrefined⟩

/-- The children of items of two trees, below 1 and below 2. -/
def twoTrees : Nat → List Nat
  | 1 => [3, 4]
  | 2 => [5]
  | 3 => [6]
  | _ => []

theorem isForest_twoTrees : IsForest [1, 2, 1] twoTrees :=
  .of_closed [1, 2, 3, 4, 5, 6] (by decide) (by decide) (by decide) (by decide)

theorem tree_levels_twoTrees :
    let t : Tester Unit Nat := .ofFunction fun cut =>
      if cut.retained.any ([1, 3, 6].contains ·) then .holds else .lost
    let r := (minimize (Algorithm.ddmin {} true)
      (Generator.tree [1, 2, 1] twoTrees .retained).traced {} ((), {})).run t ()
    r.answer.answer.isOk = true ∧
      r.answer.generator.2.handed.map (fun x => x.2.items) = [[1, 2], [3, 4], [6]] ∧
      3 ≤ height [1, 2, 1] twoTrees ∧
      ∃ ancestors, Lineage [1, 2, 1] twoTrees 6 ancestors ∧ ancestors.length = 2 ∧
        ∀ (j : Nat) (y : Nat), ancestors.reverse[j]? = some y →
          ∃ o : Outcome Nat, r.answer.generator.2.results[j]? = some o ∧ y ∈ o.cut.retained := by
  intro t r
  have hok : r.answer.answer.isOk = true := by decide +kernel
  have hlevels : r.answer.generator.2.handed.map (fun x => x.2.items) = [[1, 2], [3, 4], [6]] := by
    decide +kernel
  obtain ⟨-, -, -, -, -, hheight, hitems⟩ := tree_levels isForest_twoTrees .retained
    (Algorithm.ddmin {} true) {} t () (by decide +kernel)
  have hlength : r.answer.generator.2.handed.length = 3 := by
    simpa using congrArg List.length hlevels
  refine ⟨hok, hlevels, ?_, ?_⟩
  · rwa [List.length_map, hlength] at hheight
  · cases hanswer : r.answer.answer with
    | error e =>
      rw [hanswer] at hok
      cases hok
    | ok report =>
      refine ((hitems report hanswer).2.2 2 6).mp ?_
      have hthird : (r.answer.generator.2.handed.map (fun x => x.2.items))[2]? = some [6] := by
        rw [hlevels]
        rfl
      rw [List.getElem?_map, Option.map_eq_some_iff] at hthird
      obtain ⟨z, hz, hsix⟩ := hthird
      exact ⟨z.2, by rw [List.getElem?_map, hz]; rfl, by rw [hsix]; decide⟩

end Run

end Hierarchy

end DeltaDebugging
