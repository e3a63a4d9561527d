import DeltaDebugging.Proofs.Algorithm.Survivors
import DeltaDebugging.Proofs.Graph.Dependencies
import DeltaDebugging.Proofs.Graph.Offered
import Mathlib.Data.List.Permutation
import Mathlib.Data.Set.BooleanAlgebra
import Mathlib.Order.CompletePartialOrder

/-!
# Minimality of graph runs

A component is only tried in its own layer, when the layers after it are still untouched.
If the verdict can only get worse as less is retained, the refusal outlasts all later
deletions: without the component and all that depends on it, less is left in the end than
was refused then. All that survives was offered at some time, so nothing that survives can
go, and no smaller set with all its dependencies will do.
-/
namespace DeltaDebugging

open DeltaDebugging.Graph (Path)
open DeltaDebugging.Condensed (ofGraph partOf partition partOf_lt_size path_ofGraph_iff mem_expand)

variable {σ α : Type} {g : DependencyGraph α} {l : Layers} {kept level : List Nat}
  {cut : Cut Nat} {holds : Set Nat → Prop} {k : Nat}

namespace Layers

/-- Those alive that do not depend on `k`. -/
def without (c : Condensed α) (l : Layers) (k : Nat) : Set Nat :=
  {j | l.isAlive j = true ∧ ¬ Path c.successorsOf j k}

/-- None of the components kept can go any more, and what is alive holds if all did. -/
structure Needed (c : Condensed α) (holds : Set Nat → Prop) (l : Layers)
    (kept level : List Nat) : Prop where
  closed : Closed c l
  offers : l.Offers c kept level
  refused : ∀ k ∈ kept, ¬ holds (l.without c k)
  holds_alive : holds {k | k < c.size} → holds {k | l.isAlive k = true}

namespace Needed

theorem first (g : DependencyGraph α) (holds : Set Nat → Prop) :
    Needed (ofGraph g) holds (start (ofGraph g)) [] (ofGraph g).sinks where
  closed := closed_start g
  offers := .first g
  refused := by simp
  holds_alive := by simp only [isAlive_start, imp_self]

theorem congr {c : Condensed α} {level' : List Nat} (h : Needed c holds l kept level)
    (hlevel : ∀ k, k ∈ level' ↔ k ∈ level) : Needed c holds l kept level' where
  closed := h.closed
  offers := h.offers.congr hlevel
  refused := h.refused
  holds_alive := h.holds_alive

/-- A result after which no survivor of the layer could go. -/
theorem next (h : Needed (ofGraph g) holds l kept level)
    (hmono : ∀ K K', K ⊆ K' → holds K → holds K') (hnodup : level.Nodup)
    (hcut : (cut.retained ++ cut.deleted).Perm level)
    (hrefused : ∀ k ∈ cut.retained, ∃ trial : Cut Nat,
      (∀ d, d ∈ trial.deleted ↔ d ∈ cut.deleted ∨ d = k) ∧
      ¬ holds {j | j ∈ (l.present (ofGraph g) trial).retained})
    (hholds : holds {j | j ∈ (l.present (ofGraph g) ⟨level, []⟩).retained} →
      holds {j | j ∈ (l.present (ofGraph g) cut).retained}) :
    Needed (ofGraph g) holds (l.nextLayer (ofGraph g) cut).2 (kept ++ cut.retained)
      (l.ready (ofGraph g) cut) where
  closed := h.closed.nextLayer cut
  offers := h.offers.next h.closed hnodup hcut
  refused k hk := by
    rcases List.mem_append.mp hk with hk | hk
    · -- What is left without `k` was left without it before.
      refine fun hleft => h.refused k hk (hmono _ _ ?_ hleft)
      exact fun j hj => ⟨(h.closed.isAlive_nextLayer.mp hj.1).1, hj.2⟩
    · obtain ⟨trial, hdeleted, hlost⟩ := hrefused k hk
      refine fun hleft => hlost (hmono _ _ (fun j hj => ?_) hleft)
      obtain ⟨halive, hsafe⟩ := h.closed.isAlive_nextLayer.mp hj.1
      refine h.closed.mem_present_retained.mpr ⟨halive, fun d hd => ?_⟩
      rcases (hdeleted d).mp hd with hd | rfl
      · exact hsafe d hd
      · exact hj.2
  holds_alive hall := by
    have hbefore : {j | j ∈ (l.present (ofGraph g) ⟨level, []⟩).retained} =
        {j | l.isAlive j = true} := by
      ext j
      simp [h.closed.mem_present_retained]
    have hafter : {j | j ∈ (l.present (ofGraph g) cut).retained} =
        {j | (l.nextLayer (ofGraph g) cut).2.isAlive j = true} := by
      ext j
      rw [Set.mem_ofPred_eq, Set.mem_ofPred_eq, h.closed.mem_present_retained,
        h.closed.isAlive_nextLayer]
    rw [hbefore, hafter] at hholds
    exact hholds (h.holds_alive hall)

end Needed

end Layers

namespace GraphOutcome

open Layers (Needed)

def itemsOf (g : DependencyGraph α) (ids : Set Nat) : Set α :=
  {a | ∃ v, g.items[v]? = some a ∧ partOf (partition g) v ∈ ids}

theorem setOf_mem_expand (g : DependencyGraph α) (ids : List Nat) :
    {a | a ∈ (ofGraph g).expand ids} = itemsOf g {k | k ∈ ids} := by
  ext a
  exact mem_expand

section Run

variable {limits : Limits} {cancellable : Bool} {hierarchy : HierarchyLimits}
  {t : Tester σ Nat} {s : σ} {verdict : Set Nat → Verdict}

theorem needed_of_level (hearly : limits.earlyTermination = false) (hmin : limits.minSize ≤ 1)
    (ht : ∀ c s, (t.test c s).1 = verdict {k | k ∈ c.retained})
    (hmono : ∀ K K', K ⊆ K' → verdict K = .holds → verdict K' = .holds)
    {level : Level Nat} {result : Outcome Nat}
    (h : Needed (ofGraph g) (fun K => verdict K = .holds) l kept level.items)
    (hrun : (((Algorithm.ddmin limits cancellable).withZeroTesting.minimize level.items).run.run
      (t.comap (l.present (ofGraph g))) s).answer = .ok result) :
    Needed (ofGraph g) (fun K => verdict K = .holds) (l.nextLayer (ofGraph g) result.cut).2
      (kept ++ result.cut.retained) (l.ready (ofGraph g) result.cut) := by
  have hminimizing := (Algorithm.ddmin_isMinimizing hearly cancellable).withZeroTesting
  have hdisciplined :=
    ((Algorithm.ofKind_isDisciplined .ddmin limits 0 cancellable).mono
      (Nat.zero_le _)).withZeroTesting
  have ht' : ∀ c s, ((t.comap (l.present (ofGraph g))).test c s).1 =
      verdict {k | k ∈ (l.present (ofGraph g) c).retained} := fun c s => ht _ s
  refine h.next hmono level.nodup (hdisciplined.result_perm hrun) (fun k hk => ?_) fun hall => ?_
  · obtain ⟨x, hx, -, hdeleted⟩ :=
      hminimizing.exists_refused hdisciplined hmin level.nodup hrun hk
    refine ⟨x.1, hdeleted, fun hholds => Trials.ne_holds_of_mem_sinceHolds hx ?_⟩
    rw [← hholds]
    exact Dialogue.verdict_of_mem_trials _ _ ht' _ s (Trials.sinceHolds_subset _ hx)
  · exact hdisciplined.holds_result _ ht' hall hrun

/-- A run over the layers leaves only components that cannot go. -/
theorem needed_of_layers (hearly : limits.earlyTermination = false) (hmin : limits.minSize ≤ 1)
    (ht : ∀ c s, (t.test c s).1 = verdict {k | k ∈ c.retained})
    (hmono : ∀ K K', K ⊆ K' → verdict K = .holds → verdict K' = .holds) {report : Report}
    (hrun : ((Hierarchy.minimize (Algorithm.ddmin limits cancellable).withZeroTesting
      (Generator.layers (ofGraph g)) hierarchy (Layers.start (ofGraph g))).run t s).answer.answer =
      .ok report) :
    ∃ kept, Needed (ofGraph g) (fun K => verdict K = .holds)
      ((Hierarchy.minimize (Algorithm.ddmin limits cancellable).withZeroTesting
        (Generator.layers (ofGraph g)) hierarchy (Layers.start (ofGraph g))).run
          t s).answer.generator kept [] := by
  refine Hierarchy.minimize_ok
    (fun l level _ => level.isEmpty = false ∧
      ∃ kept, Needed (ofGraph g) (fun K => verdict K = .holds) l kept level.items)
    (fun l _ => ∃ kept, Needed (ofGraph g) (fun K => verdict K = .holds) l kept [])
    (fun level l hfirst => ?_) (fun l level s result hinv hok => ?_) hrun
  · obtain ⟨hok, rfl⟩ := Prod.mk.inj hfirst
    obtain ⟨hsome, hmem⟩ := Layers.firstLayer_ok hok
    have hneeded := Needed.first g fun K => verdict K = .holds
    refine ⟨hsome, [], hneeded.congr fun k => ?_⟩
    rw [hmem, and_iff_left_of_imp (hneeded.offers.level_alive k)]
  · obtain ⟨hlevel, kept, h⟩ := hinv
    have hnext := needed_of_level hearly hmin ht hmono h
      (Hierarchy.run_minimizeLevel_ok hlevel hok)
    have hfst := Layers.nextLayer_fst (ofGraph g) l result.cut
    dsimp only [Generator.layers] at hok ⊢
    cases hg : l.nextLayer (ofGraph g) result.cut with
    | mk next? l' =>
      rw [hg] at hfst hnext
      by_cases hready : (l.ready (ofGraph g) result.cut).isEmpty = true
      · rw [if_pos hready] at hfst
        obtain rfl : next? = none := hfst
        rw [List.isEmpty_iff.mp hready] at hnext
        exact ⟨_, hnext⟩
      · rw [if_neg hready] at hfst
        obtain rfl : next? = some _ := hfst
        exact ⟨by simpa using hready, _, hnext.congr fun k => Level.mem_ofList⟩

end Run

section Items

theorem itemsOf_mono {ids ids' : Set Nat} (h : ids ⊆ ids') : itemsOf g ids ⊆ itemsOf g ids' :=
  fun _ ⟨v, hv, hk⟩ => ⟨v, hv, h hk⟩

theorem itemsOf_all (g : DependencyGraph α) :
    itemsOf g {k | k < (ofGraph g).size} = {a | a ∈ g.items} := by
  ext a
  constructor
  · rintro ⟨v, hv, -⟩
    exact List.mem_of_getElem? hv
  · intro ha
    obtain ⟨v, hv⟩ := List.getElem?_of_mem ha
    exact ⟨v, hv, partOf_lt_size (DependencyGraph.lt_of_getElem? hv)⟩

/-- The components without those that depend on one are the items without those that require
an item of it. -/
theorem itemsOf_without {v : Nat} {a : α} (hv : g.items[v]? = some a) :
    itemsOf g (l.without (ofGraph g) (partOf (partition g) v)) =
      {b | b ∈ itemsOf g {k | l.isAlive k = true} ∧ ¬ g.Requires b a} := by
  ext b
  constructor
  · rintro ⟨u, hu, halive, hpath⟩
    refine ⟨⟨u, hu, halive⟩, fun hrequires => hpath ?_⟩
    rw [path_ofGraph_iff (DependencyGraph.lt_of_getElem? hu) (DependencyGraph.lt_of_getElem? hv)]
    exact DependencyGraph.path_of_requires hrequires hu hv
  · rintro ⟨⟨u, hu, halive⟩, hrequires⟩
    refine ⟨u, hu, halive, fun hpath => hrequires ⟨u, v, hu, hv, ?_⟩⟩
    rwa [path_ofGraph_iff (DependencyGraph.lt_of_getElem? hu)
      (DependencyGraph.lt_of_getElem? hv)] at hpath

end Items

theorem run_minimize (a : Algorithm) (limits : HierarchyLimits) (hitems : g.items.isEmpty = false)
    (t : Tester σ α) (s : σ) :
    ((minimize a limits g).run t s).answer =
      let c := ofGraph g
      ((minimizeCondensed a limits c).run (t.comap c.expandCut) s).answer.map
        fun (survivors, report) =>
          ⟨c.expandCut ⟨survivors, c.ids.filter fun k => !survivors.contains k⟩, report⟩ := by
  rw [minimize, if_neg (by simp [hitems]), Dialogue.run_seq]
  dsimp only
  rw [(Dialogue.run_mapCut t _ _ s).1]
  rfl

section Verdict

variable {limits : Limits} {cancellable : Bool} {hierarchy : HierarchyLimits}
  {t : Tester σ α} {s : σ} {verdict : Set α → Verdict} {o : GraphOutcome α}

/-- What survives are the items of live components none of which can go. -/
theorem needed_of_minimize (hearly : limits.earlyTermination = false) (hmin : limits.minSize ≤ 1)
    (ht : ∀ c s, (t.test c s).1 = verdict {a | a ∈ c.retained})
    (hmono : ∀ S S', S ⊆ S' → verdict S = .holds → verdict S' = .holds)
    (hitems : g.items.isEmpty = false)
    (hrun : ((minimize (.ddmin limits cancellable) hierarchy g).run t s).answer = .ok o) :
    ∃ l kept, {a | a ∈ o.cut.retained} = itemsOf g {k | l.isAlive k = true} ∧
      Needed (ofGraph g) (fun K => verdict (itemsOf g K) = .holds) l kept [] := by
  have ht' : ∀ c s, ((t.comap (ofGraph g).expandCut).test c s).1 =
      verdict (itemsOf g {k | k ∈ c.retained}) := by
    intro c s
    rw [← setOf_mem_expand]
    exact ht _ s
  rw [run_minimize _ _ hitems] at hrun
  dsimp only at hrun
  rw [answer_minimizeCondensed] at hrun
  set ending := ((Hierarchy.minimize (Algorithm.ddmin limits cancellable).withZeroTesting
    (Generator.layers (ofGraph g)) hierarchy (Layers.start (ofGraph g))).run
      (t.comap (ofGraph g).expandCut) s).answer with hending
  dsimp only at hrun
  cases hok : ending.answer with
  | error e =>
    rw [hok] at hrun
    cases hrun
  | ok report =>
    rw [hok] at hrun
    cases hrun
    obtain ⟨kept, hneeded⟩ := needed_of_layers hearly hmin ht'
      (fun K K' hK => hmono _ _ (itemsOf_mono hK)) hok
    refine ⟨ending.generator, kept, ?_, hneeded⟩
    refine (setOf_mem_expand g _).trans ?_
    congr 1
    ext k
    exact hneeded.closed.mem_aliveIds

/-- If the verdict depends only on what is retained, and never gets better with less, no
survivor can go together with all that requires it. -/
theorem refused_of_minimize (hearly : limits.earlyTermination = false) (hmin : limits.minSize ≤ 1)
    (ht : ∀ c s, (t.test c s).1 = verdict {a | a ∈ c.retained})
    (hmono : ∀ S S', S ⊆ S' → verdict S = .holds → verdict S' = .holds)
    (hrun : ((minimize (.ddmin limits cancellable) hierarchy g).run t s).answer = .ok o) :
    (∀ a ∈ o.cut.retained, verdict {b | b ∈ o.cut.retained ∧ ¬ g.Requires b a} ≠ .holds) ∧
      (verdict {a | a ∈ g.items} = .holds → verdict {a | a ∈ o.cut.retained} = .holds) := by
  by_cases hitems : g.items.isEmpty = true
  · rw [minimize, if_pos hitems] at hrun
    cases hrun
    rw [List.isEmpty_iff.mp hitems]
    exact ⟨by simp [Cut.empty], id⟩
  · rw [Bool.not_eq_true] at hitems
    obtain ⟨l, kept, hretained, hneeded⟩ :=
      needed_of_minimize hearly hmin ht hmono hitems hrun
    refine ⟨fun a ha => ?_, fun hall => ?_⟩
    · have hmem : a ∈ itemsOf g {k | l.isAlive k = true} := hretained ▸ ha
      obtain ⟨v, hv, halive⟩ := hmem
      have hkept := hneeded.offers.mem_kept_of_isAlive hneeded.closed halive
      have hlost := hneeded.refused _ hkept
      rw [itemsOf_without hv, ← hretained] at hlost
      exact hlost
    · rw [hretained]
      apply hneeded.holds_alive
      rwa [itemsOf_all]

end Verdict

/-- If the verdict depends only on what is retained, and never gets better with less, a run
leaves a minimal set with all its dependencies: nothing less will do, whether it is any
smaller set with all its dependencies or the survivors without one and all that requires
it. So where the property is that some items are there, what survives is exactly what
these require. -/
theorem minimize_minimal (g : DependencyGraph α) (limits : Limits) (cancellable : Bool)
    (hierarchy : HierarchyLimits) (t : Tester σ α) (s : σ) (verdict : Set α → Verdict)
    (o : GraphOutcome α) (hearly : limits.earlyTermination = false) (hmin : limits.minSize ≤ 1)
    (ht : ∀ c s, (t.test c s).1 = verdict {a | a ∈ c.retained})
    (hmono : ∀ S S', S ⊆ S' → verdict S = .holds → verdict S' = .holds)
    (hrun : ((minimize (.ddmin limits cancellable) hierarchy g).run t s).answer = .ok o) :
    let survivors : Set α := {a | a ∈ o.cut.retained}
    g.IsClosed survivors ∧
    (verdict {a | a ∈ g.items} = .holds → verdict survivors = .holds) ∧
    (∀ S, S ⊂ survivors → g.IsClosed S → verdict S ≠ .holds) ∧
    (∀ a ∈ survivors, verdict {b | b ∈ survivors ∧ ¬ g.Requires b a} ≠ .holds) ∧
    ∀ needed, needed ⊆ {a | a ∈ g.items} → (∀ S, verdict S = .holds ↔ needed ⊆ S) →
      ∀ b, b ∈ survivors ↔ ∃ a ∈ needed, g.Requires a b := by
  intro survivors
  have hrespects : g.Respects o.cut :=
    (minimize_asks (.ddmin limits cancellable) hierarchy g).answer t s o hrun
  obtain ⟨hrefused, hleft⟩ := refused_of_minimize hearly hmin ht hmono hrun
  have hclosed : g.IsClosed survivors := fun a ha b hab => hrespects.mem_retained hab ha
  refine ⟨hclosed, hleft, fun S hS hSclosed hholds => ?_, hrefused,
    fun needed hitems hneeded b => ?_⟩
  · -- A smaller set lacks some survivor, and then all that requires it.
    obtain ⟨a, ha, haS⟩ := Set.exists_of_ssubset hS
    refine hrefused a ha (hmono S _ (fun b hb => ⟨hS.subset hb, fun hrequires => haS ?_⟩) hholds)
    exact hSclosed.of_requires hb hrequires
  · have hsub : needed ⊆ survivors := (hneeded _).mp (hleft ((hneeded _).mpr hitems))
    constructor
    · intro hb
      have hlost := hrefused b hb
      rw [Ne, hneeded, Set.not_subset] at hlost
      obtain ⟨a, ha, hnot⟩ := hlost
      exact ⟨a, ha, not_not.mp fun hrequires => hnot ⟨hsub ha, hrequires⟩⟩
    · rintro ⟨a, ha, hrequires⟩
      exact hclosed.of_requires (hsub ha) hrequires

/-- Two letters of which the first depends on the second, and a third. -/
def letters : DependencyGraph Char := .ofDeclarations [.dependency 'a' 'b', .item 'c']

open Classical in
theorem minimize_minimal_letters : ∃ o : GraphOutcome Char,
    let t : Tester Unit Char := .ofFunction fun c => if 'a' ∈ c.retained then .holds else .lost
    ((minimize (.ddmin {} true) {} letters).run t ()).answer = .ok o ∧
      o.cut = ⟨['a', 'b'], ['c']⟩ ∧
      ∀ b, b ∈ o.cut.retained ↔ ∃ a ∈ ({'a'} : Set Char), letters.Requires a b := by
  have hcut : ((minimize (.ddmin {} true) {} letters).run
      (.ofFunction fun c => if 'a' ∈ c.retained then .holds else .lost)
        ()).answer.toOption.map GraphOutcome.cut = some ⟨['a', 'b'], ['c']⟩ := by cbv
  cases hrun : ((minimize (.ddmin {} true) {} letters).run
      (.ofFunction fun c => if 'a' ∈ c.retained then .holds else .lost) ()).answer with
  | error e =>
    rw [hrun] at hcut
    cases hcut
  | ok o =>
    rw [hrun] at hcut
    have hminimal := minimize_minimal letters {} true {}
      (.ofFunction fun c => if 'a' ∈ c.retained then .holds else .lost) ()
      (fun S => if 'a' ∈ S then .holds else .lost) o rfl le_rfl
      (fun c _ => by by_cases ha : 'a' ∈ c.retained <;> simp [Tester.ofFunction, ha])
      (fun S S' hS => by by_cases ha : 'a' ∈ S <;> simp [ha, @hS 'a']) hrun
    refine ⟨o, hrun, Option.some_inj.mp hcut, hminimal.2.2.2.2 {'a'} ?_ fun S => ?_⟩
    · have ha : 'a' ∈ letters.items := by decide
      exact Set.singleton_subset_iff.mpr ha
    · by_cases ha : 'a' ∈ S <;> simp [ha]

end GraphOutcome

end DeltaDebugging
