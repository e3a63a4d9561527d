import DeltaDebugging.Proofs.Algorithm.Survivors
import DeltaDebugging.Proofs.Graph.Offered
import DeltaDebugging.Proofs.Hierarchy.History

/-!
# Layers by depth

A component is offered right after the last of its dependencies was kept. If every result
splits its layer, that is the layer numbered by the component's depth, so the layers are the
live components of one depth after another. They have nothing in common, none is empty, and
there are no more of them than depths.
-/
namespace DeltaDebugging

open DeltaDebugging.Condensed (ofGraph mem_ids)

variable {σ α : Type} {g : DependencyGraph α} {l : Layers} {level : List Nat} {k d n : Nat}

theorem distinct_of_nodup [DecidableEq α] {l : List α} (h : l.Nodup) : distinct l = l := by
  induction l with
  | nil => rfl
  | cons a l ih =>
    obtain ⟨ha, hl⟩ := List.nodup_cons.mp h
    have hne : ∀ b ∈ l, b ≠ a := fun b hb heq => ha (heq ▸ hb)
    rw [distinct, ih hl, List.filter_eq_self.mpr fun b hb => decide_eq_true (hne b hb)]

namespace Condensed

section Depth

/-- The length of the longest chain of dependencies from `k`. -/
def depth (c : Condensed α) (k : Nat) : Nat := c.depths.getD k 0

theorem foldl_max_le_iff {l : List Nat} : l.foldl max d ≤ n ↔ d ≤ n ∧ ∀ k ∈ l, k ≤ n := by
  induction l generalizing d with
  | nil => simp
  | cons k l ih => simp [ih, and_assoc]

theorem drop_foldr_cons {β δ : Type} (f : β → List δ → δ) (l : List β) (i : Nat) :
    (l.foldr (fun b later => f b later :: later) []).drop i =
      (l.drop i).foldr (fun b later => f b later :: later) [] := by
  induction l generalizing i with
  | nil => simp
  | cons b l ih =>
    cases i with
    | zero => rfl
    | succ i => exact ih i

/-- The depth of a component, computed from the depths of those with higher numbers. -/
theorem drop_depths {c : Condensed α} (hk : k < c.size) :
    c.depths.drop k = ((c.successorsOf k).map fun d =>
      (c.depths.drop (k + 1)).getD (d - k - 1) 0 + 1).foldl max 0 :: c.depths.drop (k + 1) := by
  have hids : c.ids.drop k = k :: c.ids.drop (k + 1) := by
    rw [List.drop_eq_getElem_cons (by simpa [ids] using hk)]
    simp [ids]
  unfold depths
  rw [drop_foldr_cons, drop_foldr_cons, hids]
  rfl

theorem depth_eq (hk : k < (ofGraph g).size) : (ofGraph g).depth k =
    (((ofGraph g).successorsOf k).map fun d => (ofGraph g).depth d + 1).foldl max 0 := by
  have hhead : (ofGraph g).depth k = ((ofGraph g).depths.drop k).getD 0 0 := by
    simp [depth, List.getD_eq_getElem?_getD]
  rw [hhead, drop_depths hk, List.getD_cons_zero]
  congr 1
  refine List.map_congr_left fun d hd => ?_
  have hlt := lt_of_mem_successorsOf hd
  rw [depth, List.getD_eq_getElem?_getD, List.getD_eq_getElem?_getD, List.getElem?_drop,
    show k + 1 + (d - k - 1) = d by omega]

/-- A component is deeper than what it depends on, and no deeper than that. -/
theorem depth_le_iff (hk : k < (ofGraph g).size) :
    (ofGraph g).depth k ≤ n ↔ ∀ d ∈ (ofGraph g).successorsOf k, (ofGraph g).depth d < n := by
  rw [depth_eq hk, foldl_max_le_iff, and_iff_right (Nat.zero_le n), List.forall_mem_map]
  rfl

theorem depth_le_max (c : Condensed α) (k : Nat) : c.depth k ≤ c.depths.foldl max 0 := by
  rw [depth, List.getD_eq_getElem?_getD]
  cases h : c.depths[k]? with
  | none => exact Nat.zero_le _
  | some d => exact (foldl_max_le_iff.mp le_rfl).2 d (List.mem_of_getElem? h)

end Depth

/-- Some component depends on nothing: the one with the highest number. -/
theorem exists_mem_sinks (h : (ofGraph g).isEmpty = false) : ∃ k, k ∈ (ofGraph g).sinks := by
  have hpos : 0 < (ofGraph g).size := by
    simpa [isEmpty, size, List.length_pos_iff] using h
  refine ⟨(ofGraph g).size - 1, List.mem_filter.mpr ⟨mem_ids.mpr (by omega), ?_⟩⟩
  have hnone : (ofGraph g).successorsOf ((ofGraph g).size - 1) = [] := by
    refine List.eq_nil_iff_forall_not_mem.mpr fun d hd => ?_
    have hgt := lt_of_mem_successorsOf hd
    have hlt := (lt_size_of_mem_successorsOf hd).2
    omega
  simp [outDegree, hnone]

/-- A level made of components in ascending order is the list of them. -/
theorem items_ofList_filter_ids (c : Condensed α) (p : Nat → Bool) :
    (Level.ofList (c.ids.filter p)).items = c.ids.filter p :=
  distinct_of_nodup (List.nodup_range.filter p)

end Condensed

/-- Every result splits its level into what is retained and what is deleted. -/
def Algorithm.IsSplitting (a : Algorithm) (α : Type) : Prop :=
  ∀ {σ : Type} (t : Tester σ α) (s : σ) (level : Level α) (result : Outcome α),
    ((a.minimize level.items).run.run t s).answer = .ok result →
      (result.cut.retained ++ result.cut.deleted).Perm level.items

theorem Algorithm.IsDisciplined.isSplitting {a : Algorithm} {strict : Prop} {least : Nat}
    (ha : a.IsDisciplined strict least) (α : Type) : a.IsSplitting α :=
  fun _ _ _ _ hrun => ha.result_perm hrun

namespace Layers

/-- The live components of one depth, ascending. -/
def ofDepth (c : Condensed α) (l : Layers) (n : Nat) : List Nat :=
  c.ids.filter fun k => l.isAlive k && decide (c.depth k = n)

/-- How far a run has got that was given `results` and offers `level` next: a component was
retained once if it is less deep than there were results, and otherwise not yet. -/
structure Progress (c : Condensed α) (l : Layers) (results : List (Outcome Nat))
    (level : List Nat) : Prop where
  closed : Closed c l
  offers : l.Offers c (results.flatMap fun o => o.cut.retained) level
  counted : ∀ k, l.isAlive k = true →
    results.countP (k ∈ ·.cut.retained) = if c.depth k < results.length then 1 else 0

namespace Progress

variable {results : List (Outcome Nat)} {o : Outcome Nat}

theorem first (g : DependencyGraph α) :
    Progress (ofGraph g) (start (ofGraph g)) [] (ofGraph g).sinks where
  closed := closed_start g
  offers := .first g
  counted := by simp

theorem mem_retained_iff {c : Condensed α} (h : Progress c l results level)
    (hk : l.isAlive k = true) :
    k ∈ results.flatMap (fun o => o.cut.retained) ↔ c.depth k < results.length := by
  have hpos : k ∈ results.flatMap (fun o => o.cut.retained) ↔
      0 < results.countP (k ∈ ·.cut.retained) := by
    simp [List.countP_pos_iff]
  rw [hpos, h.counted k hk]
  split <;> simp_all

theorem mem_level_iff (h : Progress (ofGraph g) l results level) :
    k ∈ level ↔ l.isAlive k = true ∧ (ofGraph g).depth k = results.length := by
  have hdepth : ∀ {k}, l.isAlive k = true → ((ofGraph g).depth k ≤ results.length ↔
      ∀ d ∈ (ofGraph g).successorsOf k, d ∈ results.flatMap fun o => o.cut.retained) := by
    intro k hk
    rw [Condensed.depth_le_iff (h.closed.lt_size hk)]
    exact forall₂_congr fun d hd => (h.mem_retained_iff (h.closed.alive_of_edge k hk d hd)).symm
  constructor
  · intro hk
    have halive := h.offers.level_alive k hk
    have hnew := mt (h.mem_retained_iff halive).mpr (h.offers.level_new k hk)
    exact ⟨halive, Nat.le_antisymm ((hdepth halive).mpr (h.offers.level_ready k hk))
      (Nat.not_lt.mp hnew)⟩
  · rintro ⟨halive, heq⟩
    refine (h.offers.covered k halive ((hdepth halive).mp heq.le)).resolve_left fun hk => ?_
    exact absurd ((h.mem_retained_iff halive).mp hk) heq.not_lt

theorem eq_ofDepth (h : Progress (ofGraph g) l results level) {p : Nat → Bool}
    (hlevel : level = (ofGraph g).ids.filter p) : level = ofDepth (ofGraph g) l results.length := by
  rw [ofDepth, hlevel]
  refine List.filter_congr fun k hk => ?_
  have hmem := h.mem_level_iff (k := k)
  rw [hlevel, List.mem_filter, and_iff_right hk] at hmem
  rw [Bool.eq_iff_iff, hmem, Bool.and_eq_true, decide_eq_true_eq]

theorem next (h : Progress (ofGraph g) l results level) (hnodup : level.Nodup)
    (hcut : (o.cut.retained ++ o.cut.deleted).Perm level) :
    Progress (ofGraph g) (l.nextLayer (ofGraph g) o.cut).2 (results ++ [o])
      (l.ready (ofGraph g) o.cut) where
  closed := h.closed.nextLayer o.cut
  offers := by simpa using h.offers.next h.closed hnodup hcut
  counted k hk := by
    obtain ⟨halive, hlive⟩ := h.closed.isAlive_nextLayer.mp hk
    have hretained : k ∈ o.cut.retained ↔ (ofGraph g).depth k = results.length := by
      constructor
      · intro hk
        exact (h.mem_level_iff.mp (hcut.subset (List.mem_append_left _ hk))).2
      · intro hdepth
        have hmem := hcut.mem_iff.mpr (h.mem_level_iff.mpr ⟨halive, hdepth⟩)
        exact (List.mem_append.mp hmem).resolve_right fun hk => hlive k hk (.refl k)
    rw [List.countP_append, h.counted k halive, List.countP_singleton, List.length_append,
      List.length_singleton]
    by_cases hdepth : (ofGraph g).depth k = results.length
    · simp [hretained.mpr hdepth, hdepth]
    · have hnot : k ∉ o.cut.retained := mt hretained.mp hdepth
      have hlt : (ofGraph g).depth k < results.length + 1 ↔
          (ofGraph g).depth k < results.length := by omega
      simp [hnot, hlt]

theorem countP_eq_one (h : Progress (ofGraph g) l results []) (hk : l.isAlive k = true) :
    results.countP (k ∈ ·.cut.retained) = 1 := by
  have hkept := h.offers.mem_kept_of_isAlive h.closed hk
  rw [h.counted k hk, if_pos ((h.mem_retained_iff hk).mp hkept)]

end Progress

section History

/-- The layers handed out are those of one depth after another, and none is empty. -/
def Layered (c : Condensed α) (h : History Layers Nat) : Prop :=
  ∀ n x, h.handed[n]? = some x → x.2.items = ofDepth c x.1 n ∧ x.2.items ≠ []

namespace Layered

variable {c : Condensed α} {h : History Layers Nat}

theorem depth_eq (hl : Layered c h) {x : Layers × Level Nat} (hx : h.handed[n]? = some x)
    (hk : k ∈ x.2.items) : c.depth k = n := by
  rw [(hl n x hx).1, ofDepth, List.mem_filter, Bool.and_eq_true, decide_eq_true_eq] at hk
  exact hk.2.2

theorem disjoint (hl : Layered c h) :
    h.handed.Pairwise fun x y => x.2.items.Disjoint y.2.items := by
  refine List.pairwise_iff_getElem.mpr fun i j hi hj hlt k hki hkj => ?_
  have hdi := hl.depth_eq (List.getElem?_eq_getElem hi) hki
  have hdj := hl.depth_eq (List.getElem?_eq_getElem hj) hkj
  exact hlt.ne (hdi.symm.trans hdj)

theorem length_le (hl : Layered c h) : h.handed.length ≤ c.depths.foldl max 0 + 1 := by
  cases hn : h.handed.length with
  | zero => exact Nat.zero_le _
  | succ n =>
    have hx := List.getElem?_eq_getElem (l := h.handed) (i := n) (by omega)
    obtain ⟨k, hk⟩ := List.exists_mem_of_ne_nil _ (hl n _ hx).2
    rw [← hl.depth_eq hx hk]
    exact Nat.succ_le_succ (c.depth_le_max k)

theorem hand (hl : Layered c h) {l : Layers} {level : Level Nat}
    (hlevel : level.items = ofDepth c l h.handed.length) (hsome : level.items ≠ []) :
    Layered c (h.hand l (some level)) := by
  intro n x hx
  rw [History.handed_hand_some] at hx
  rcases getElem?_concat_eq_some.mp hx with hx | ⟨rfl, rfl⟩
  · exact hl n x hx
  · exact ⟨hlevel, hsome⟩

end Layered

/-- A layer is at hand, the last of those handed out. -/
structure Running (c : Condensed α) (s : Layers × History Layers Nat) (level : Level Nat) :
    Prop where
  progress : Progress c s.1 s.2.results level.items
  layered : Layered c s.2
  handed : s.2.handed.length = s.2.results.length + 1
  ne_nil : level.items ≠ []

variable {s : Layers × History Layers Nat} {level : Level Nat} {o : Outcome Nat}

theorem firstLayer_start (hg : (ofGraph g).isEmpty = false) :
    (start (ofGraph g)).firstLayer (ofGraph g) = .ok (Level.ofList (ofGraph g).sinks) := by
  have hsinks : (ofGraph g).sinks.filter (start (ofGraph g)).isAlive = (ofGraph g).sinks :=
    List.filter_eq_self.mpr fun k hk =>
      (isAlive_start _ k).mpr (mem_ids.mp (List.mem_filter.mp hk).1)
  obtain ⟨k, hk⟩ := Condensed.exists_mem_sinks hg
  rw [firstLayer, hg, hsinks, if_neg Bool.false_ne_true,
    if_neg (by simp [List.ne_nil_of_mem hk])]

theorem Running.first (hg : (ofGraph g).isEmpty = false) :
    Running (ofGraph g)
      (start (ofGraph g), ({} : History Layers Nat).hand (start (ofGraph g))
        (some (Level.ofList (ofGraph g).sinks)))
      (Level.ofList (ofGraph g).sinks) := by
  have hitems : (Level.ofList (ofGraph g).sinks).items = (ofGraph g).sinks :=
    Condensed.items_ofList_filter_ids _ _
  obtain ⟨k, hk⟩ := Condensed.exists_mem_sinks hg
  have hsome : (Level.ofList (ofGraph g).sinks).items ≠ [] := by
    rw [hitems]
    exact List.ne_nil_of_mem hk
  have hprogress := Progress.first g
  refine ⟨by rwa [hitems], Layered.hand (by simp [Layered]) ?_ hsome, rfl, hsome⟩
  rw [hitems]
  exact hprogress.eq_ofDepth rfl

namespace Running

section Next

variable (h : Running (ofGraph g) s level)
  (hcut : (o.cut.retained ++ o.cut.deleted).Perm level.items)

include h hcut

theorem next {next : Level Nat} {l : Layers}
    (hnext : s.1.nextLayer (ofGraph g) o.cut = (some next, l)) :
    Running (ofGraph g) (l, (s.2.give o).hand l (some next)) next := by
  have hprogress := h.progress.next level.nodup hcut
  have hfst := nextLayer_fst (ofGraph g) s.1 o.cut
  rw [hnext] at hprogress hfst
  split at hfst
  · cases hfst
  · next hready =>
    obtain rfl : next = Level.ofList _ := Option.some_inj.mp hfst
    have hitems : (Level.ofList (s.1.ready (ofGraph g) o.cut)).items =
        s.1.ready (ofGraph g) o.cut := Condensed.items_ofList_filter_ids _ _
    have hsome : (Level.ofList (s.1.ready (ofGraph g) o.cut)).items ≠ [] := by
      rw [hitems]
      simpa using hready
    refine ⟨by simpa [hitems] using hprogress, h.layered.hand ?_ hsome, ?_, hsome⟩
    · rw [hitems, hprogress.eq_ofDepth rfl, h.handed, List.length_append, List.length_singleton]
    · simp [h.handed]

theorem last {l : Layers} (hlast : s.1.nextLayer (ofGraph g) o.cut = (none, l))
    (hk : l.isAlive k = true) : (s.2.results ++ [o]).countP (k ∈ ·.cut.retained) = 1 := by
  have hprogress := h.progress.next level.nodup hcut
  have hfst := nextLayer_fst (ofGraph g) s.1 o.cut
  rw [hlast] at hprogress hfst
  split at hfst
  · next hready =>
    rw [List.isEmpty_iff.mp hready] at hprogress
    exact hprogress.countP_eq_one hk
  · cases hfst

end Next

end Running

end History

section Run

variable {a : Algorithm} {limits : HierarchyLimits} {t : Tester σ Nat}

/-- A run hands out layers by depth until nothing is left to offer, and never stalls. -/
theorem keeps_running (g : DependencyGraph α) (limits : HierarchyLimits) (t : Tester σ Nat)
    (ha : a.IsSplitting Nat) :
    Hierarchy.Keeps a (Generator.layers (ofGraph g)).traced limits t
      (fun s level _ _ => Running (ofGraph g) s level)
      (fun e _ _ => Layered (ofGraph g) e.generator.2 ∧
        (∀ n, e.answer ≠ .error (.stalledHierarchy n)) ∧
        ∀ report, e.answer = .ok report → ∀ k, e.generator.1.isAlive k = true →
          e.generator.2.results.countP (k ∈ ·.cut.retained) = 1) := by
  have hsplit : ∀ {s level st result}, Running (ofGraph g) s level →
      ((Hierarchy.minimizeLevel a ((Generator.layers (ofGraph g)).traced.present s) level).run.run
        t st).answer = .ok result →
      (result.cut.retained ++ result.cut.deleted).Perm level.items := by
    intro s level st result hrunning hok
    have hsome : level.isEmpty = false := by simpa [Level.isEmpty] using hrunning.ne_nil
    exact ha _ _ _ _ (Hierarchy.run_minimizeLevel_ok hsome hok)
  constructor
  case limit => exact fun hrunning => ⟨hrunning.layered, nofun, nofun⟩
  case failed => exact fun hrunning => fun _ => ⟨hrunning.layered, nofun, nofun⟩
  case last =>
    intro s s' level st h result report hrunning _ hok hlast
    obtain ⟨hlast, hhistory⟩ := Generator.next_traced_iff.mp hlast
    rw [hhistory]
    exact ⟨hrunning.layered, nofun, fun _ _ k hk => hrunning.last (hsplit hrunning hok) hlast hk⟩
  case next =>
    intro s s' level next st h result hrunning _ hok hnext
    obtain ⟨hnext, hhistory⟩ := Generator.next_traced_iff.mp hnext
    have hlater := hrunning.next (hsplit hrunning hok) hnext
    rwa [← hhistory] at hlater
  case stalled =>
    intro s s' level next st h result n hrunning _ hok hnext _ hsame
    obtain ⟨hnext, -⟩ := Generator.next_traced_iff.mp hnext
    have hlater := hrunning.next (hsplit hrunning hok) hnext
    obtain ⟨k, hk⟩ := List.exists_mem_of_ne_nil _ hrunning.ne_nil
    -- The two layers have different depths, so a component cannot be in both.
    have hbefore := (hrunning.progress.mem_level_iff.mp hk).2
    have hafter := (hlater.progress.mem_level_iff.mp (hsame ▸ hk)).2
    simp [hbefore] at hafter

/-- If every result splits its layer, the first layer is there and the layers handed out are,
in ascending order, the components of depth zero, one, two and so on that are then alive. So
no component is in two of them, there are no more than depths, and the run does not stall.
If it ends well, every component left alive was retained in exactly one layer. -/
theorem levels_are_depths (g : DependencyGraph α) (a : Algorithm) (limits : HierarchyLimits)
    (t : Tester σ Nat) (s : σ) (hg : (ofGraph g).isEmpty = false) (ha : a.IsSplitting Nat) :
    let c := ofGraph g
    let r := (Hierarchy.minimize a (Generator.layers c).traced limits (start c, {})).run t s
    let history := r.answer.generator.2
    (Hierarchy.minimize a (Generator.layers c) limits (start c)).run t s =
      ⟨Hierarchy.forget r.answer, r.state, r.steps⟩ ∧
    (∃ first, (start c).firstLayer c = .ok first) ∧
    (∀ n l level, history.handed[n]? = some (l, level) →
      level.items = c.ids.filter fun k => l.isAlive k && decide (c.depth k = n)) ∧
    (history.handed.Pairwise fun x y => x.2.items.Disjoint y.2.items) ∧
    (∀ n, r.answer.answer ≠ .error (.stalledHierarchy n)) ∧
    history.handed.length ≤ c.depths.foldl max 0 + 1 ∧
    ∀ report, r.answer.answer = .ok report → ∀ k, r.answer.generator.1.isAlive k = true →
      history.results.countP (k ∈ ·.cut.retained) = 1 := by
  intro c r history
  have hfirst : (Generator.layers c).first (start c) = (.ok (Level.ofList c.sinks), start c) :=
    Prod.ext (firstLayer_start hg) rfl
  have hstart : ∀ level s', (Generator.layers c).traced.first (start c, {}) = (.ok level, s') →
      Running c s' level := by
    intro level s' heq
    obtain ⟨heq, hhistory⟩ := Generator.first_traced_iff.mp heq
    obtain ⟨hlevel, hstate⟩ := Prod.mk.inj (hfirst.symm.trans heq)
    obtain rfl := Except.ok.inj hlevel
    have hs : s' = (start c, ({} : History Layers Nat).hand (start c)
        (some (Level.ofList c.sinks))) :=
      Prod.ext hstate.symm (by rw [hhistory, ← hstate]; rfl)
    rw [hs]
    exact Running.first hg
  have hfails : ∀ e s', (Generator.layers c).traced.first (start c, {}) ≠ (.error e, s') :=
    fun e s' heq => nomatch hfirst.symm.trans (Generator.first_traced_iff.mp heq).1
  obtain ⟨hlayered, hstalled, honce⟩ := (keeps_running g limits t ha).minimize s hstart
    fun e s' heq => absurd heq (hfails e s')
  exact ⟨Hierarchy.run_minimize_traced a _ limits (start c, {}) t s, ⟨_, firstLayer_start hg⟩,
    fun n l level hx => (hlayered n _ hx).1, hlayered.disjoint, hstalled, hlayered.length_le, honce⟩

/-- Three letters each of which depends on all that follow, and a letter apart. -/
def chain : DependencyGraph Char :=
  .ofDeclarations [.dependency 'a' 'b', .dependency 'b' 'c', .dependency 'a' 'c', .item 'd']

theorem levels_are_depths_chain :
    let c := ofGraph chain
    let t : Tester Unit Nat := .ofFunction fun cut => if 1 ∈ cut.retained then .holds else .lost
    let r := (Hierarchy.minimize (Algorithm.ddmin {} true).withZeroTesting
      (Generator.layers c).traced {} (start c, {})).run t ()
    c.depths = [0, 2, 1, 0] ∧
      r.answer.generator.2.handed.map (fun x => x.2.items) = [[0, 3], [2], [1]] ∧
      r.answer.generator.1.alive = [false, true, true, true] ∧
      ∀ k, r.answer.generator.1.isAlive k = true →
        r.answer.generator.2.results.countP (k ∈ ·.cut.retained) = 1 := by
  have hsplitting : (Algorithm.ddmin {} true).withZeroTesting.IsSplitting Nat :=
    ((Algorithm.ofKind_isDisciplined .ddmin {} 0 true).mono
      (Nat.zero_le _)).withZeroTesting.isSplitting Nat
  have hlevels := levels_are_depths chain (Algorithm.ddmin {} true).withZeroTesting {}
    (.ofFunction fun cut => if 1 ∈ cut.retained then .holds else .lost) () (by decide +kernel)
    hsplitting
  obtain ⟨-, -, -, -, -, -, honce⟩ := hlevels
  refine ⟨by decide +kernel, by decide +kernel, by decide +kernel, ?_⟩
  have hok : ((Hierarchy.minimize (Algorithm.ddmin {} true).withZeroTesting
      (Generator.layers (ofGraph chain)).traced {} (start (ofGraph chain), {})).run
        (.ofFunction fun cut => if 1 ∈ cut.retained then .holds else .lost)
        ()).answer.answer.isOk = true := by decide +kernel
  cases hanswer : ((Hierarchy.minimize (Algorithm.ddmin {} true).withZeroTesting
      (Generator.layers (ofGraph chain)).traced {} (start (ofGraph chain), {})).run
        (.ofFunction fun cut => if 1 ∈ cut.retained then .holds else .lost) ()).answer.answer with
  | error e =>
    rw [hanswer] at hok
    cases hok
  | ok report => exact honce report hanswer

end Run

end Layers

end DeltaDebugging
