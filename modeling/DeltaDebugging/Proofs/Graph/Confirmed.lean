import DeltaDebugging.Proofs.Algorithm.Survivors
import DeltaDebugging.Proofs.Graph.Dependencies
import Mathlib.Data.List.Permutation

/-!
# Results and trials of graph runs

The survivors of a layered run are read off the marks of the generator, which are set after
each layer from the layer's result. A result is what the tester confirmed last, if it confirmed
anything in that layer, and the cut presented for it leaves what then stays alive. So at any
time between two layers the marks show the last cut that held, in whichever layer that was.
-/
namespace DeltaDebugging

open DeltaDebugging.Condensed (ofGraph mem_ids)
open Layers (Closed)
open Trials

variable {σ α β γ : Type} {a : Algorithm} {strict : Prop} {least : Nat}

/-- Minimizing a level confirms what its result stands for, if before the level the confirmed
cut was what the whole level stands for. -/
theorem Hierarchy.confirmed_minimizeLevel (ha : a.IsDisciplined strict least)
    {present : Cut α → Cut β} {level : Level α} {items : List β} {t : Tester σ β} {st : σ}
    {h : Trials β} {result : Outcome α} (hstart : present ⟨level.items, []⟩ = confirmed items h)
    (hok : ((minimizeLevel a present level).run.run t st).answer = .ok result) :
    confirmed items (h ++ ((minimizeLevel a present level).run.run t st).trials) =
      present result.cut := by
  cases hlevel : level.isEmpty with
  | true =>
    obtain ⟨rfl, htrials⟩ := run_minimizeLevel_empty hlevel hok
    have hitems : level.items = [] := List.isEmpty_iff.mp hlevel
    rw [htrials, List.append_nil, ← hstart, hitems]
    rfl
  | false =>
    rw [trials_minimizeLevel hlevel, ← confirmed_append_map (fun _ => rfl) hstart,
      ha.cut_eq (run_minimizeLevel_ok hlevel hok)]

namespace Layers

variable {g : DependencyGraph α} {l : Layers} {cut : Cut Nat}

/-- The living against the dead. -/
def standing (c : Condensed α) (l : Layers) : Cut Nat :=
  ⟨l.aliveIds c, c.ids.filter fun k => !l.isAlive k⟩

theorem standing_start (c : Condensed α) : (start c).standing c = ⟨c.ids, []⟩ := by
  have halive : ∀ k ∈ c.ids, (start c).isAlive k = true := fun k hk =>
    (isAlive_start c k).mpr (mem_ids.mp hk)
  rw [standing, aliveIds, List.filter_eq_self.mpr halive, Cut.mk.injEq]
  exact ⟨rfl, List.filter_eq_nil_iff.mpr fun k hk => by simp [halive k hk]⟩

theorem Closed.standing_nextLayer (h : Closed (ofGraph g) l) :
    (l.nextLayer (ofGraph g) cut).2.standing (ofGraph g) = l.present (ofGraph g) cut := by
  have hmark : (l.nextLayer (ofGraph g) cut).2.isAlive =
      fun k => !(!l.isAlive k || (l.dependents (ofGraph g) cut.deleted).contains k) := by
    funext k
    rw [Bool.eq_iff_iff, h.isAlive_nextLayer, Bool.not_eq_true', Bool.or_eq_false_iff,
      Bool.not_eq_false', ← Bool.not_eq_true, List.contains_iff_mem, h.mem_dependents]
    exact and_congr_right fun hk => by simp [hk]
  simp only [standing, aliveIds, present_eq, hmark, Bool.not_not]

/-- A layer of which nothing is deleted stands for the living. -/
theorem Closed.present_nil (h : Closed (ofGraph g) l) (level : List Nat) :
    l.present (ofGraph g) ⟨level, []⟩ = l.standing (ofGraph g) := by
  have hnone : l.dependents (ofGraph g) [] = [] :=
    List.eq_nil_iff_forall_not_mem.mpr fun k hk => by simp [h.mem_dependents] at hk
  simp [present_eq, standing, aliveIds, hnone]

theorem standing_eq (c : Condensed α) (l : Layers) :
    (⟨l.aliveIds c, c.ids.filter fun k => !(l.aliveIds c).contains k⟩ : Cut Nat) =
      l.standing c := by
  rw [standing, Cut.mk.injEq]
  refine ⟨rfl, List.filter_congr fun k hk => ?_⟩
  rw [aliveIds, List.contains_eq_mem]
  simp only [List.mem_filter, hk, true_and, Bool.decide_eq_true]

end Layers

namespace GraphOutcome

variable {g : DependencyGraph α} {limits : HierarchyLimits}

/-- Between layers, and in the end, the marks show the cut that held last. -/
theorem keeps_standing (ha : a.IsDisciplined strict least) (g : DependencyGraph α)
    (limits : HierarchyLimits) (t : Tester σ Nat) :
    Hierarchy.Keeps a (Generator.layers (ofGraph g)) limits t
      (fun l _ _ h => Closed (ofGraph g) l ∧ confirmed (ofGraph g).ids h = l.standing (ofGraph g))
      (fun e _ h => ∀ report, e.answer = .ok report →
        confirmed (ofGraph g).ids h = e.generator.standing (ofGraph g)) := by
  have hlevel : ∀ {l level st h result}, Closed (ofGraph g) l →
      confirmed (ofGraph g).ids h = l.standing (ofGraph g) →
      let r := (Hierarchy.minimizeLevel a (l.present (ofGraph g)) level).run.run t st
      r.answer = .ok result → confirmed (ofGraph g).ids (h ++ r.trials) =
        (l.nextLayer (ofGraph g) result.cut).2.standing (ofGraph g) := by
    intro l level st h result hclosed hconfirmed r hok
    rw [hclosed.standing_nextLayer]
    exact Hierarchy.confirmed_minimizeLevel ha
      ((hclosed.present_nil level.items).trans hconfirmed.symm) hok
  constructor
  case limit => exact fun _ => nofun
  case failed => exact fun _ => fun _ => nofun
  case stalled => exact fun _ => fun _ _ _ _ => nofun
  case last =>
    rintro l l' level st h result report ⟨hclosed, hconfirmed⟩ _ hok hlast _ _
    obtain rfl : (l.nextLayer (ofGraph g) result.cut).2 = l' := congrArg Prod.snd hlast
    exact hlevel hclosed hconfirmed hok
  case next =>
    rintro l l' level next st h result ⟨hclosed, hconfirmed⟩ _ hok hnext
    obtain rfl : (l.nextLayer (ofGraph g) result.cut).2 = l' := congrArg Prod.snd hnext
    exact ⟨hclosed.nextLayer result.cut, hlevel hclosed hconfirmed hok⟩

/-- The survivors against all other components are the cut that held last. -/
theorem confirmed_minimizeCondensed (ha : a.withZeroTesting.IsDisciplined strict least)
    {limits : HierarchyLimits} {t : Tester σ Nat} {s : σ} {survivors : List Nat} {report : Report}
    (hok : ((minimizeCondensed a limits (ofGraph g)).run t s).answer = .ok (survivors, report)) :
    confirmed (ofGraph g).ids ((minimizeCondensed a limits (ofGraph g)).run t s).trials =
      ⟨survivors, (ofGraph g).ids.filter fun k => !survivors.contains k⟩ := by
  have hstart : Closed (ofGraph g) (Layers.start (ofGraph g)) := Layers.closed_start g
  have hconfirmed := (keeps_standing ha g limits t).minimize (s := Layers.start (ofGraph g)) s
    (fun level l heq => by
      obtain rfl : Layers.start (ofGraph g) = l := congrArg Prod.snd heq
      exact ⟨hstart, (Layers.standing_start _).symm⟩)
    (fun e l _ => nofun)
  rw [answer_minimizeCondensed] at hok
  rw [trials_minimizeCondensed]
  dsimp only at hok
  cases hend : ((Hierarchy.minimize a.withZeroTesting (Generator.layers (ofGraph g)) limits
      (Layers.start (ofGraph g))).run t s).answer.answer with
  | error e =>
    rw [hend] at hok
    cases hok
  | ok _ =>
    rw [hend] at hok
    cases hok
    rw [hconfirmed report hend, Layers.standing_eq]

section Items

variable {t : Tester σ α} {s : σ} {o : GraphOutcome α}

theorem expandCut_all (g : DependencyGraph α) :
    (ofGraph g).expandCut ⟨(ofGraph g).ids, []⟩ = ⟨g.items, []⟩ := by
  rw [Condensed.expandCut, Condensed.expand_ids]
  simp [Condensed.expand_eq]

theorem confirmed_mapCut (d : Dialogue Nat β) (g : DependencyGraph α) (t : Tester σ α) (s : σ) :
    confirmed g.items ((d.mapCut (ofGraph g).expandCut).run t s).trials =
      (ofGraph g).expandCut (confirmed (ofGraph g).ids
        (d.run (t.comap (ofGraph g).expandCut) s).trials) := by
  rw [Dialogue.trials_mapCut]
  exact (confirmed_append_map (h := []) (fun _ => rfl) (expandCut_all g) _).symm

/-- A result splits the items if it comes from a split of the components. -/
theorem splits_expandCut {cut : Cut Nat}
    (hsplit : ∀ k < (ofGraph g).size, k ∈ cut.deleted ↔ k ∉ cut.retained) :
    let result := (ofGraph g).expandCut cut
    result.retained.Sublist g.items ∧ result.deleted.Sublist g.items ∧
      (result.retained ++ result.deleted).Perm g.items :=
  ⟨Condensed.expand_sublist g _, Condensed.expand_sublist g _, Condensed.expandCut_perm hsplit⟩

theorem cut_of_minimize (ha : a.withZeroTesting.IsDisciplined strict least)
    {limits : HierarchyLimits} (hok : ((minimize a limits g).run t s).answer = .ok o) :
    o.cut = confirmed g.items ((minimize a limits g).run t s).trials ∧
      o.cut.retained.Sublist g.items ∧ o.cut.deleted.Sublist g.items ∧
      (o.cut.retained ++ o.cut.deleted).Perm g.items := by
  unfold minimize at hok ⊢
  split at hok
  · next hempty =>
    cases hok
    rw [if_pos hempty, List.isEmpty_iff.mp hempty]
    exact ⟨rfl, .slnil, .slnil, .nil⟩
  · next hsome =>
    rw [if_neg hsome]
    rw [Dialogue.run_seq] at hok
    rw [Dialogue.trials_seq]
    dsimp only [Dialogue.run_pure, Dialogue.trials_done] at hok ⊢
    rw [(Dialogue.run_mapCut t _ _ s).1] at hok
    cases hanswer : ((minimizeCondensed a limits (ofGraph g)).run
        (t.comap (ofGraph g).expandCut) s).answer with
    | error e =>
      rw [hanswer] at hok
      cases hok
    | ok answer =>
      rw [hanswer] at hok
      cases hok
      rw [List.append_nil, confirmed_mapCut, confirmed_minimizeCondensed ha hanswer]
      exact ⟨rfl, splits_expandCut fun k hk => by simp [hk]⟩

theorem cut_of_minimizeFlat (ha : a.withZeroTesting.IsDisciplined strict least)
    (hok : ((minimizeFlat a g).run t s).answer = .ok o) :
    o.cut = confirmed g.items ((minimizeFlat a g).run t s).trials ∧
      o.cut.retained.Sublist g.items ∧ o.cut.deleted.Sublist g.items ∧
      (o.cut.retained ++ o.cut.deleted).Perm g.items := by
  unfold minimizeFlat at hok ⊢
  rw [Dialogue.run_seq] at hok
  rw [Dialogue.trials_seq]
  dsimp only [Dialogue.run_pure, Dialogue.trials_done] at hok ⊢
  rw [(Dialogue.run_mapCut t _ _ s).1] at hok
  cases hanswer : ((a.withZeroTesting.minimize (ofGraph g).ids).run.run
      (t.comap (ofGraph g).expandCut) s).answer with
  | error e =>
    rw [hanswer] at hok
    cases hok
  | ok result =>
    rw [hanswer] at hok
    cases hok
    have hperm := ha.result_perm hanswer
    rw [List.append_nil, confirmed_mapCut, ← ha.cut_eq hanswer]
    refine ⟨rfl, splits_expandCut fun k hk => ?_⟩
    have hdisjoint := (List.nodup_append.mp (hperm.nodup_iff.mpr List.nodup_range)).2.2
    have hmem := hperm.mem_iff.mpr (mem_ids.mpr hk)
    constructor
    · exact fun hdeleted hretained => hdisjoint k hretained k hdeleted rfl
    · exact (List.mem_append.mp hmem).resolve_left

/-- Layered or flat, a graph run that ends well splits the items in their order, and exactly as
the last trial that held did; if none held, it keeps them all. -/
theorem cut_eq_confirmed (kind : AlgorithmKind) (limits : Limits) (seed : UInt64)
    (cancellable : Bool) (extensions : List Extension) (hierarchy : HierarchyLimits)
    (g : DependencyGraph α) (t : Tester σ α) (s : σ) (o : GraphOutcome α)
    (d : Dialogue α (Except ReductionError (GraphOutcome α)))
    (hd : let a := (Algorithm.ofKind kind limits seed cancellable).extend extensions
      d = minimize a hierarchy g ∨ d = minimizeFlat a g)
    (hok : (d.run t s).answer = .ok o) :
    o.cut = confirmed g.items (d.run t s).trials ∧ o.cut.retained.Sublist g.items ∧
      o.cut.deleted.Sublist g.items ∧ (o.cut.retained ++ o.cut.deleted).Perm g.items := by
  have ha := (((Algorithm.ofKind_isDisciplined kind limits seed cancellable).mono
    (Nat.zero_le _)).extend extensions).withZeroTesting
  rcases hd with rfl | rfl
  · exact cut_of_minimize ha hok
  · exact cut_of_minimizeFlat ha hok

/-- A tester that refuses its first trial and then answers by turns. -/
def alternating : Tester Bool α where
  test _ s := (if s then .holds else .lost, !s)

/-- Two letters that depend on each other, one that depends on them, and one apart. -/
def knot : DependencyGraph Char :=
  .ofDeclarations [.dependency 'a' 'b', .dependency 'b' 'a', .dependency 'c' 'a', .item 'd']

theorem cut_eq_confirmed_knot : ∃ o : GraphOutcome Char,
    let d := minimize ((Algorithm.ofKind .ddmin {} 0 true).extend []) {} knot
    (d.run alternating false).answer = .ok o ∧ o.cut = ⟨['a', 'b'], ['c', 'd']⟩ ∧
      o.cut = confirmed ['a', 'b', 'c', 'd'] (d.run alternating false).trials := by
  have hcut : ((minimize ((Algorithm.ofKind .ddmin {} 0 true).extend []) {} knot).run
      alternating false).answer.toOption.map GraphOutcome.cut = some ⟨['a', 'b'], ['c', 'd']⟩ := by
    cbv
  cases hok : ((minimize ((Algorithm.ofKind .ddmin {} 0 true).extend []) {} knot).run
      alternating false).answer with
  | error e =>
    rw [hok] at hcut
    cases hcut
  | ok o =>
    rw [hok] at hcut
    have hconfirmed := cut_eq_confirmed .ddmin {} 0 true [] {} knot alternating false o _
      (.inl rfl) hok
    exact ⟨o, hok, Option.some_inj.mp hcut, hconfirmed.1⟩

end Items

end GraphOutcome

end DeltaDebugging
