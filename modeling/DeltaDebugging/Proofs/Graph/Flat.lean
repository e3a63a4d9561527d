import DeltaDebugging.Proofs.Graph.Confirmed
import DeltaDebugging.Proofs.Graph.Depths

/-!
# Graphs whose edges only express grouping

If no component depends on another, the first layer is all of them and there is no second
one. What is presented for a cut of that layer then expands to the same items as the cut
itself, so the layered run asks what the flat run asks, from the first question to the last.
Only in the end it looks at the token once more.
-/
namespace DeltaDebugging

open DeltaDebugging.Condensed (ofGraph mem_ids)

variable {σ α β : Type} {a : Algorithm} {g : DependencyGraph α} {cut : Cut Nat}

/-- What a base algorithm owes its callers: whatever is answered, every cut that it asks about
and the cut that it ends with divide the items it was given. -/
def Algorithm.Divides (a : Algorithm) : Prop :=
  ∀ (α : Type) (items : List α), (a.minimize items).Ensures
    (fun h result => (∀ x ∈ h, (x.1.retained ++ x.1.deleted).Perm items) ∧
      (result.cut.retained ++ result.cut.deleted).Perm items)
    (fun h _ => ∀ x ∈ h, (x.1.retained ++ x.1.deleted).Perm items) []

namespace Algorithm

theorem IsDisciplined.divides {strict : Prop} {least : Nat} (ha : a.IsDisciplined strict least) :
    a.Divides := by
  intro α items
  refine (ha α items).mono (fun h result hr => ?_) fun h e hr => ?_
  · obtain ⟨mask, hcut, hd⟩ := hr
    exact ⟨fun x hx => hd.perm hx, hcut ▸ Cut.ofMask_perm hd.length_eq⟩
  · obtain ⟨mask, hd⟩ := hr
    exact fun x hx => hd.perm hx

theorem divides_extend_ofKind (kind : AlgorithmKind) (limits : Limits) (seed : UInt64)
    (cancellable : Bool) (extensions : List Extension) :
    ((ofKind kind limits seed cancellable).extend extensions).Divides :=
  (((ofKind_isDisciplined kind limits seed cancellable).mono (Nat.zero_le _)).extend
    extensions).divides

namespace Divides

theorem withZeroTesting (ha : a.Divides) : a.withZeroTesting.Divides := by
  intro α items
  -- Nothing and all of the items divide them too.
  have hnothing : ∀ {h : Trials α} {v : Verdict},
      (∀ x ∈ h, (x.1.retained ++ x.1.deleted).Perm items) →
      ∀ x ∈ h ++ [((⟨[], items⟩ : Cut α), v)], (x.1.retained ++ x.1.deleted).Perm items := by
    intro h v hh x hx
    rcases List.mem_append.mp hx with hx | hx
    · exact hh x hx
    · rw [List.mem_singleton.mp hx]
      exact .refl items
  refine withZeroTesting_ensures (ha α items) (fun _ _ hr _ => hr) ?_ ?_ ?_ ?_
  · exact fun h r hr _ => hr.1
  · exact fun h r v hr _ => hnothing hr.1
  · exact fun h r hr _ => ⟨hnothing hr.1, .refl items⟩
  · exact fun h r v hr _ _ => ⟨hnothing hr.1, hr.2⟩

theorem asks (ha : a.Divides) (items : List α) : (a.minimize items).run.Asks
    (fun c => (c.retained ++ c.deleted).Perm items)
    (fun r => ∀ result, r = .ok result →
      (result.cut.retained ++ result.cut.deleted).Perm items) := by
  refine (ha α items).asks fun h r hr => ?_
  cases r with
  | error e => exact ⟨hr, fun result heq => by cases heq⟩
  | ok result =>
    refine ⟨hr.1, fun result' heq => ?_⟩
    obtain rfl := Except.ok.inj heq
    exact hr.2

end Divides

end Algorithm

namespace Condensed

theorem successorsOf_eq_nil {c : Condensed α} (h : c.edgeCount = 0) (k : Nat) :
    c.successorsOf k = [] := by
  rw [successorsOf, List.getD_eq_getElem?_getD]
  cases hk : c.successors[k]? with
  | none => rfl
  | some row =>
    have hmem : row.length ∈ c.successors.map List.length :=
      List.mem_map_of_mem (List.mem_of_getElem? hk)
    have hle : row.length + 0 ≤ c.edgeCount :=
      Number.total_le_of_sublist (List.singleton_sublist.mpr hmem)
    rw [h] at hle
    exact List.eq_nil_of_length_eq_zero (Nat.le_zero.mp hle)

section Edgeless

variable (hedges : (ofGraph g).edgeCount = 0)

include hedges

theorem predecessorsOf_eq_nil (d : Nat) : (ofGraph g).predecessorsOf d = [] := by
  refine List.eq_nil_iff_forall_not_mem.mpr fun k hk => ?_
  rw [mem_predecessorsOf_iff_successorsOf, successorsOf_eq_nil hedges] at hk
  exact List.not_mem_nil hk

theorem path_iff_eq {k d : Nat} : Graph.Path (ofGraph g).successorsOf k d ↔ k = d := by
  constructor
  · intro hp
    cases hp with
    | refl => rfl
    | step he _ =>
      rw [successorsOf_eq_nil hedges] at he
      exact absurd he List.not_mem_nil
  · rintro rfl
    exact .refl k

theorem sinks_eq_ids : (ofGraph g).sinks = (ofGraph g).ids :=
  List.filter_eq_self.mpr fun k _ => by simp [outDegree, successorsOf_eq_nil hedges]

end Edgeless

theorem size_pos (hitems : g.items ≠ []) : 0 < (ofGraph g).size :=
  Nat.zero_lt_of_lt (partOf_lt_size (List.length_pos_of_ne_nil hitems))

end Condensed

namespace Layers

open DeltaDebugging.Condensed (path_iff_eq)

section Edgeless

variable (hedges : (ofGraph g).edgeCount = 0)

include hedges

theorem items_firstLayer (hitems : g.items ≠ []) :
    ∃ level, (start (ofGraph g)).firstLayer (ofGraph g) = .ok level ∧
      level.items = (ofGraph g).ids ∧ level.isEmpty = false := by
  have hpos : 0 < (ofGraph g).components.length := Condensed.size_pos hitems
  have hlevel : (Level.ofList (ofGraph g).sinks).items = (ofGraph g).ids :=
    (Condensed.items_ofList_filter_ids _ _).trans (Condensed.sinks_eq_ids hedges)
  refine ⟨_, firstLayer_start (by simpa [Condensed.isEmpty] using List.ne_nil_of_length_pos hpos),
    hlevel, ?_⟩
  rw [Level.isEmpty, hlevel]
  simpa [Condensed.ids] using (Condensed.size_pos hitems).ne'

theorem nextLayer_fst_eq_none (l : Layers) (cut : Cut Nat) :
    (l.nextLayer (ofGraph g) cut).1 = none := by
  have hkept : ∀ k, newlyKept (ofGraph g) cut.retained k = 0 := fun k => by
    simp [newlyKept, Condensed.predecessorsOf_eq_nil hedges]
  have hready : l.ready (ofGraph g) cut = [] :=
    List.filter_eq_nil_iff.mpr fun k _ => by simp [hkept]
  rw [nextLayer_fst, hready]
  rfl

theorem expandCut_present (hcut : (cut.retained ++ cut.deleted).Perm (ofGraph g).ids) :
    (ofGraph g).expandCut ((start (ofGraph g)).present (ofGraph g) cut) =
      (ofGraph g).expandCut cut := by
  have hclosed : Closed (ofGraph g) (start (ofGraph g)) := closed_start g
  have hsplit : ∀ k < (ofGraph g).size, k ∈ cut.deleted ↔ k ∉ cut.retained := fun k hk => by
    rw [Cut.mem_deleted_iff hcut List.nodup_range, and_iff_right (mem_ids.mpr hk)]
  rw [Condensed.expandCut, Condensed.expandCut, Cut.mk.injEq]
  constructor
  · refine Condensed.expand_congr fun k hk => ?_
    have hnone : (∀ d ∈ cut.deleted, k ≠ d) ↔ k ∉ cut.deleted :=
      ⟨fun h hk => h k hk rfl, fun h d hd heq => h (heq ▸ hd)⟩
    simp only [hclosed.mem_present_retained, isAlive_start, hk, true_and, path_iff_eq hedges]
    rw [hnone, hsplit k hk, not_not]
  · refine Condensed.expand_congr fun k hk => ?_
    have halive : (start (ofGraph g)).isAlive k = true := (isAlive_start _ k).mpr hk
    simp [hclosed.mem_present_deleted, hk, halive, path_iff_eq hedges]

end Edgeless

end Layers

namespace GraphOutcome

/-- The answer, unless a token is attached and has fired. -/
def unlessCancelled (cancellable : Bool) :
    Except ReductionError β → Dialogue α (Except ReductionError β)
  | .error e => return .error e
  | .ok b => do
    let looked ← (Attempt.check cancellable AlgorithmError.cancelled).run
    return (looked.mapError .minimizer).map fun _ => b

theorem run_unlessCancelled {t : Tester σ α} {cancellable : Bool} {s : σ}
    (h : cancellable = true → t.cancelled s = false) (r : Except ReductionError β) :
    (unlessCancelled cancellable r).run t s = ⟨r, s, []⟩ := by
  cases r with
  | error e => rfl
  | ok b =>
    cases cancellable with
    | false => rfl
    | true =>
      have hpoll : (unlessCancelled true (.ok b)).run t s = Dialogue.run t (.done
          (((if t.cancelled s = true then .error .cancelled else .ok () :
            Except AlgorithmError Unit).mapError .minimizer).map fun _ => b)) s := rfl
      rw [hpoll, h rfl]
      rfl

section Edgeless

variable {limits : HierarchyLimits} (ha : a.Divides) (hitems : g.items ≠ [])
  (hedges : (ofGraph g).edgeCount = 0) (hlevels : 1 ≤ limits.maxLevels)

include ha hitems hedges hlevels

theorem minimize_eq_minimizeFlat_bind : minimize a limits g =
    (minimizeFlat a g).bind (unlessCancelled a.cancellable) := by
  obtain ⟨level, hfirst, hlevel, hsome⟩ := Layers.items_firstLayer hedges hitems
  have hclosed : Layers.Closed (ofGraph g) (Layers.start (ofGraph g)) :=
    Layers.closed_start g
  have hasks := ha.withZeroTesting.asks (ofGraph g).ids
  rw [minimize, if_neg (by simpa using hitems)]
  unfold minimizeCondensed minimizeFlat
  dsimp only
  rw [Hierarchy.minimize_eq_of_next_eq_none (Prod.ext hfirst rfl)
    (fun o => Layers.nextLayer_fst_eq_none hedges _ _) hlevels,
    Hierarchy.minimizeLevel_eq_bind hsome, hlevel]
  simp only [Dialogue.seq_eq_bind, Dialogue.bind_assoc, Dialogue.mapCut_bind]
  -- The layered run presents each cut before it expands it, which expands to the same items.
  have hquestions : ((a.withZeroTesting.minimize (ofGraph g).ids).run.mapCut
      ((Generator.layers (ofGraph g)).present (Layers.start (ofGraph g)))).mapCut
        (ofGraph g).expandCut =
      (a.withZeroTesting.minimize (ofGraph g).ids).run.mapCut (ofGraph g).expandCut :=
    hasks.mapCut_mapCut fun c hc => Layers.expandCut_present hedges hc
  have hanswers := Dialogue.Asks.mapCut (P := fun _ => True) (f := (ofGraph g).expandCut)
    (hasks.mono (fun _ _ => trivial) fun _ => id)
  refine (congrArg (Dialogue.bind · _) hquestions).trans (hanswers.bind_congr fun r hr => ?_)
  cases r with
  | error e => rfl
  | ok o =>
    -- The result is read off the layers, where the kept components are those still standing.
    have hcut := Layers.expandCut_present hedges (hr o rfl)
    rw [← hclosed.standing_nextLayer, ← Layers.standing_eq] at hcut
    have hsize : level.size = (ofGraph g).size := by
      rw [Level.size, hlevel, Condensed.ids, List.length_range]
    change Dialogue.bind (Dialogue.mapCut _ (ExceptT.bindCont (fun result => do
        Attempt.check a.cancellable AlgorithmError.cancelled
        pure result) (.ok o))) _ =
      unlessCancelled a.cancellable (.ok (GraphOutcome.mk ((ofGraph g).expandCut o.cut)
        (({} : Report).recordLevel (ofGraph g).size o.cut.retained.length o.cut.deleted.length
          o.statistics)))
    rw [← hcut, ← hsize]
    cases a.cancellable with
    | false => rfl
    | true =>
      refine congrArg Dialogue.poll (funext fun fired => ?_)
      cases fired <;> rfl

end Edgeless

/-- If no component depends on another, the layered run of a non-empty graph is the flat run:
the same trials and notes in the same order, and the same items, levels and counters or the
same error. The tester and the base algorithm may be any; the algorithm only has to ask about
cuts that divide its items and end with one, a level has to be allowed, and the token must
not fire. -/
theorem run_minimize_eq_minimizeFlat (a : Algorithm) (limits : HierarchyLimits)
    (g : DependencyGraph α) (t : Tester σ α) (s : σ) (ha : a.Divides) (hitems : g.items ≠ [])
    (hedges : (ofGraph g).edgeCount = 0) (hlevels : 1 ≤ limits.maxLevels)
    (htoken : a.cancellable = true → t.cancelled ((minimizeFlat a g).run t s).state = false) :
    (minimize a limits g).run t s = (minimizeFlat a g).run t s := by
  rw [minimize_eq_minimizeFlat_bind ha hitems hedges hlevels, Dialogue.run_bind]
  dsimp only
  rw [run_unlessCancelled htoken, List.append_nil]

/-- Two letters that depend on each other, one that depends on itself, and one apart. -/
def islands : DependencyGraph Char :=
  .ofDeclarations [.dependency 'a' 'b', .dependency 'b' 'a', .dependency 'c' 'c', .item 'd']

theorem run_minimize_eq_minimizeFlat_islands :
    let a := (Algorithm.ofKind .ddmin {} 0 true).extend []
    (minimize a {} islands).run alternating false =
        (minimizeFlat a islands).run alternating false ∧
      ((minimizeFlat a islands).run alternating false).answer.toOption.map GraphOutcome.cut =
        some ⟨['a', 'b'], ['c', 'd']⟩ :=
  ⟨run_minimize_eq_minimizeFlat _ {} islands alternating false
    (Algorithm.divides_extend_ofKind .ddmin {} 0 true []) (by decide) (by cbv) (by decide)
    (fun _ => rfl), by cbv⟩

end GraphOutcome

end DeltaDebugging
