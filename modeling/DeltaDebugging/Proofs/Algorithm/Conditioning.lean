import DeltaDebugging.Proofs.Algorithm.Probabilistic
import DeltaDebugging.Proofs.Runs

/-!
# What a failed round conditions the estimates on

A round selects positions from the least likely end of the order and multiplies up the
probability that none of them is needed. The least size may then spare some of them, so that the
group whose deletion is tried is only the end of what was selected, but the estimates are raised
by the probability that was multiplied up. The rounds that fail are logged by the loop itself,
and logging does not change what it does.
-/
namespace DeltaDebugging.Probabilistic

variable {σ α : Type} {limits : Limits} {cancellable : Bool} {items : List α}
  {e : Estimates} {order group : List Nat} {p : Float} {minSize : Nat}

section Select

/-- The probability that none of the positions is needed, multiplied up from the last one, which
is the least likely. -/
def Estimates.unneeded (e : Estimates) (group : List Nat) : Float :=
  group.foldr (fun i p => p * (1.0 - e.probability i)) 1.0

theorem selectFrom_eq (e : Estimates) (l : List Nat) (taken : Nat) (p : Float) :
    ∃ k, selectFrom e l taken p =
      (taken + k, (l.take k).foldl (fun p i => p * (1.0 - e.probability i)) p) := by
  fun_induction selectFrom e l taken p with
  | case1 i j rest taken p hp next hnext ih =>
    obtain ⟨k, hk⟩ := ih
    refine ⟨k + 1, hk.trans ?_⟩
    rw [Nat.add_assoc, Nat.add_comm 1 k]
    rfl
  | case2 | case3 | case4 => exact ⟨0, rfl⟩

theorem select_snd (e : Estimates) (order : List Nat) :
    (select e order).2 = e.unneeded (order.drop (order.length - (select e order).1)) := by
  obtain ⟨k, hk⟩ := selectFrom_eq e order.reverse 0 1.0
  have hselect : select e order = _ := hk
  rw [hselect, Nat.zero_add]
  dsimp only
  rw [List.take_reverse, List.foldl_reverse]
  rfl

theorem exists_spared (e : Estimates) (hone : 1 < order.length) (hmin : minSize < order.length)
    (hgroup : group =
      order.drop (order.length - min (select e order).1 (order.length - minSize))) :
    ∃ left spared, order = left ++ spared ++ group ∧
      select e order = ((spared ++ group).length, e.unneeded (spared ++ group)) ∧
      (spared = [] ∨ (left ++ spared).length = minSize) ∧ (minSize ≤ 1 → spared = []) := by
  have hle := select_le e order
  have hsnd := select_snd e order
  generalize select e order = selection at hle hsnd hgroup
  obtain ⟨taken, p⟩ := selection
  dsimp only at hle hsnd hgroup
  generalize hk : min taken (order.length - minSize) = k at hgroup
  obtain ⟨spared, hchosen, hlength⟩ : ∃ spared,
      order.drop (order.length - taken) = spared ++ group ∧ spared.length = taken - k := by
    have hfrom : order.length - k = order.length - taken + (taken - k) := by omega
    refine ⟨(order.drop (order.length - taken)).take (taken - k), ?_, ?_⟩
    · rw [hgroup, hfrom, ← List.drop_drop, List.take_append_drop]
    · rw [List.length_take, List.length_drop]
      omega
  refine ⟨order.take (order.length - taken), spared, ?_, ?_, ?_, fun hsmall => ?_⟩
  · rw [List.append_assoc, ← hchosen, List.take_append_drop]
  · rw [← hchosen, ← hsnd, List.length_drop]
    congr 1
    omega
  · rw [← List.length_eq_zero_iff, List.length_append, List.length_take]
    omega
  · rw [← List.length_eq_zero_iff]
    omega

end Select

section Raise

/-- An estimate conditioned on at least one position of a group being needed, of which none is
with probability `p`. -/
def conditioned (p q : Float) : Float :=
  let r := if 1.0 - p ≤ epsilon then 1.0 else q / (1.0 - p)
  if r ≥ certain then 1.0 else r

theorem size_raise (e : Estimates) (group : List Nat) (p : Float) :
    (e.raise group p).probabilities.size = e.probabilities.size := by
  unfold Estimates.raise
  dsimp only
  generalize e.probabilities = ps
  induction group generalizing ps with
  | nil => rfl
  | cons i group ih => rw [List.foldl_cons, ih, Array.size_modify]

theorem getD_modify {ps : Array Float} {f : Float → Float} {i j : Nat} (hj : j < ps.size) :
    (ps.modify j f).getD i 0.0 = if j = i then f (ps.getD i 0.0) else ps.getD i 0.0 := by
  simp only [Array.getD_eq_getD_getElem?, Array.getElem?_modify]
  split
  · next heq =>
    subst heq
    simp [hj]
  · rfl

theorem probability_raise (hnodup : group.Nodup) (hlt : ∀ i ∈ group, i < e.probabilities.size)
    (i : Nat) : (e.raise group p).probability i =
      if i ∈ group then conditioned p (e.probability i) else e.probability i := by
  unfold Estimates.raise Estimates.probability
  dsimp only
  change (group.foldl (fun ps i => ps.modify i (conditioned p)) e.probabilities).getD i 0.0 = _
  generalize e.probabilities = ps at hlt ⊢
  induction group generalizing ps with
  | nil => rfl
  | cons j group ih =>
    obtain ⟨hj, hgroup⟩ := List.forall_mem_cons.mp hlt
    obtain ⟨hnew, hnodup⟩ := List.nodup_cons.mp hnodup
    rw [List.foldl_cons, ih hnodup _ (by simpa using hgroup), getD_modify hj]
    by_cases heq : j = i
    · subst heq
      simp [hnew]
    · simp [heq, Ne.symm heq]

end Raise

section Logging

/-- A round whose trial failed: the order and the estimates it began with, the cut that was
tried, the group that was deleted for it, the probability that the estimates are conditioned on,
and these then. -/
structure FailedRound (α : Type) where
  order : List Nat
  estimates : Estimates
  cut : Cut α
  group : List Nat
  probability : Float
  raised : Estimates

/-- The loop of `rounds` with the rounds that failed. -/
def roundsLogged (limits : Limits) (cancellable : Bool) (items : List α) :
    (remaining : Nat) → (keep : Array Bool) → (order : List Nat) → Estimates → Statistics →
      Dialogue α (Except AlgorithmError (Array Bool × Statistics) × List (FailedRound α))
  | remaining, keep, order, e, s =>
    if order.length ≤ 1 || order.length ≤ limits.minSize then return (.ok (keep, s), []) else
    if (order.getLast?.map e.probability).any (fun p => p ≥ certain) then
      return (.ok (keep, s), [])
    else match remaining with
    | 0 => return (.error (.maxIterationsReached limits.maxIterations), [])
    | remaining + 1 => do
      match ← (Attempt.check cancellable AlgorithmError.cancelled).run with
      | .error cause => return (.error cause, [])
      | .ok () =>
        let (taken, p) := select e order
        let taken := min taken (order.length - limits.minSize)
        let left := order.take (order.length - taken)
        let group := order.drop (order.length - taken)
        let keep := Cut.mark keep group false
        let cut := Cut.ofMask items keep.toList
        match ← (Attempt.trial cancellable cut).run with
        | .error cause => return (.error cause, [])
        | .ok v =>
          let s := s.afterTrial v
          if v.isHolds then
            roundsLogged limits cancellable items remaining keep left e s
          else
            let raised := e.raise group p
            let (r, log) ← roundsLogged limits cancellable items remaining
              (Cut.mark keep group true) (raised.sort (left ++ group)) raised s
            return (r, ⟨order, e, cut, group, p, raised⟩ :: log)

theorem roundsLogged_value (remaining : Nat) (keep : Array Bool) (order : List Nat) (e : Estimates)
    (s : Statistics) :
    (roundsLogged limits cancellable items remaining keep order e s).bind (fun x => .done x.1) =
      (rounds limits cancellable items remaining keep order e s).run := by
  induction remaining generalizing keep order e s with
  | zero =>
    unfold roundsLogged rounds
    split
    · rfl
    · split <;> rfl
  | succ remaining ih =>
    unfold roundsLogged rounds
    split
    · rfl
    split
    · rfl
    refine (Dialogue.bind_assoc _ _ _).trans (congrArg (Dialogue.bind _) (funext fun r => ?_))
    rcases r with cause | ⟨⟩
    · rfl
    refine (Dialogue.bind_assoc _ _ _).trans (congrArg (Dialogue.bind _) (funext fun r => ?_))
    rcases r with cause | v
    · rfl
    cases v with
    | holds => exact ih _ _ _ _
    | lost | unknown => exact (Dialogue.bind_assoc _ _ _).trans (ih _ _ _ _)

theorem run_rounds (remaining : Nat) (keep : Array Bool) (order : List Nat) (e : Estimates)
    (s : Statistics) (t : Tester σ α) (st : σ) :
    (rounds limits cancellable items remaining keep order e s).run.run t st =
      let r := (roundsLogged limits cancellable items remaining keep order e s).run t st
      ⟨r.answer.1, r.state, r.steps⟩ := by
  rw [← roundsLogged_value, Dialogue.run_bind]
  simp [Dialogue.run]

/-- What is conditioned on in a failed round. The positions `left` were not selected; of those
selected `spared` were not deleted for the trial, because the least size would not be left. -/
structure FailedRound.IsConditioned (items : List α) (minSize : Nat) (r : FailedRound α)
    (left spared : List Nat) : Prop where
  order_eq : r.order = left ++ spared ++ r.group
  cut_eq : r.cut = Cut.keeping items (left ++ spared)
  selected : select r.estimates r.order = ((spared ++ r.group).length, r.probability)
  probability_eq : r.probability = r.estimates.unneeded (spared ++ r.group)
  least : spared = [] ∨ (left ++ spared).length = minSize
  spared_eq_nil : minSize ≤ 1 → spared = []
  raised_eq : ∀ i, r.raised.probability i =
    if i ∈ r.group then conditioned r.probability (r.estimates.probability i)
    else r.estimates.probability i

theorem exists_isConditioned {keep : Array Bool} {taken : Nat}
    (hkept : Kept items.length keep order) (hsize : e.probabilities.size = items.length)
    (hone : 1 < order.length) (hmin : minSize < order.length)
    (hselected : select e order = (taken, p))
    (hgroup : group = order.drop (order.length - min taken (order.length - minSize))) :
    ∃ left spared, FailedRound.IsConditioned items minSize
      ⟨order, e, Cut.ofMask items (Cut.mark keep group false).toList, group, p, e.raise group p⟩
      left spared := by
  have htaken : (select e order).1 = taken := congrArg Prod.fst hselected
  obtain ⟨left, spared, horder, hchosen, hleast, hsmall⟩ :=
    exists_spared e hone hmin (htaken ▸ hgroup)
  obtain ⟨hlength, hp⟩ := Prod.mk.inj (hselected.symm.trans hchosen)
  have hsplit : Kept items.length keep (left ++ spared ++ group) := horder ▸ hkept
  refine ⟨left, spared, ?_⟩
  exact {
    order_eq := horder
    cut_eq := by rw [hsplit.drop.mask, Cut.keeping]
    selected := hselected.trans (congrArg (·, p) hlength)
    probability_eq := hp
    least := hleast
    spared_eq_nil := hsmall
    raised_eq := probability_raise (List.nodup_append.mp hsplit.nodup).2.1 fun i hi =>
      hsize ▸ hsplit.lt i (List.mem_append_right _ hi) }

/-- The cuts whose trials failed. -/
def failures (h : Trials α) : List (Cut α) := (h.filter fun x => x.2 ≠ .holds).map Prod.fst

theorem failures_append (h h' : Trials α) : failures (h ++ h') = failures h ++ failures h' := by
  rw [failures, List.filter_append, List.map_append]
  rfl

theorem failures_singleton (c : Cut α) (v : Verdict) :
    failures [(c, v)] = if v = .holds then [] else [c] := by
  cases v <;> rfl

/-- What the rest of the loop owes when the trials `h` are made: it logs the trials that fail
from here on, but for one that the token makes void. -/
def Logs (items : List α) (minSize : Nat) (h h' : Trials α)
    (x : Except AlgorithmError (Array Bool × Statistics) × List (FailedRound α)) : Prop :=
  (∃ void, failures h' = failures h ++ x.2.map FailedRound.cut ++ void ∧
      (void = [] ∨ x.1 = .error .cancelled)) ∧
    ∀ r ∈ x.2, ∃ left spared, r.IsConditioned items minSize left spared

section Logs

variable {h h' : Trials α} {c : Cut α}
  {x : Except AlgorithmError (Array Bool × Statistics) × List (FailedRound α)}

theorem Logs.nil (r : Except AlgorithmError (Array Bool × Statistics)) :
    Logs items minSize h h (r, []) :=
  ⟨⟨[], by simp, Or.inl rfl⟩, by simp⟩

theorem Logs.cancelled (v : Verdict) :
    Logs items minSize h (h ++ [(c, v)]) (.error .cancelled, []) :=
  ⟨⟨failures [(c, v)], by rw [failures_append, List.map_nil, List.append_nil], Or.inr rfl⟩, by simp⟩

theorem Logs.after_success (hx : Logs items minSize (h ++ [(c, .holds)]) h' x) :
    Logs items minSize h h' x := by
  obtain ⟨⟨void, hfailures, hvoid⟩, hrounds⟩ := hx
  rw [failures_append, failures_singleton, if_pos rfl, List.append_nil] at hfailures
  exact ⟨⟨void, hfailures, hvoid⟩, hrounds⟩

theorem Logs.after_failure {r : FailedRound α} {left spared : List Nat} {v : Verdict}
    (hv : v ≠ .holds) (hr : r.IsConditioned items minSize left spared)
    (hx : Logs items minSize (h ++ [(r.cut, v)]) h' x) :
    Logs items minSize h h' (x.1, r :: x.2) := by
  obtain ⟨⟨void, hfailures, hvoid⟩, hrounds⟩ := hx
  rw [failures_append, failures_singleton, if_neg hv] at hfailures
  refine ⟨⟨void, ?_, hvoid⟩, List.forall_mem_cons.mpr ⟨⟨left, spared, hr⟩, hrounds⟩⟩
  rw [hfailures, List.map_cons, List.append_assoc (failures h), List.singleton_append]

end Logs

theorem roundsLogged_logs {remaining : Nat} {keep : Array Bool} {s : Statistics} {h : Trials α}
    (hkept : Kept items.length keep order) (hsize : e.probabilities.size = items.length) :
    (roundsLogged limits cancellable items remaining keep order e s).Ensures
      (Logs items limits.minSize h) h := by
  induction remaining generalizing keep order e s h with
  | zero =>
    unfold roundsLogged
    split
    · exact .nil _
    · split <;> exact .nil _
  | succ remaining ih =>
    unfold roundsLogged
    split
    · exact .nil _
    next hlong =>
      split
      · exact .nil _
      simp only [Bool.or_eq_true, decide_eq_true_eq, not_or, Nat.not_le] at hlong
      obtain ⟨hone, hmin⟩ := hlong
      have hcheck : (Attempt.check cancellable .cancelled : Attempt AlgorithmError α Unit).Ensures
          (fun h' _ => h' = h) (fun h' cause => h' = h ∧ cause = .cancelled) h :=
        Attempt.ensures_check rfl ⟨rfl, rfl⟩
      refine (Dialogue.ensures_bind _ _ _).mpr (Dialogue.Ensures.mono hcheck fun h' r hr => ?_)
      rcases r with cause | ⟨⟩
      · obtain ⟨rfl, rfl⟩ := hr
        exact .nil _
      obtain rfl : h' = h := hr
      generalize hselected : select e order = selection
      obtain ⟨taken, p⟩ := selection
      obtain ⟨left, spared, hconditioned⟩ :=
        exists_isConditioned hkept hsize hone hmin hselected rfl
      dsimp only
      generalize order.length - min taken (order.length - limits.minSize) = k at hconditioned ⊢
      have hsplit : Kept items.length keep (order.take k ++ order.drop k) := by
        rwa [List.take_append_drop]
      generalize Cut.ofMask items (Cut.mark keep (order.drop k) false).toList = cut
        at hconditioned ⊢
      have htrial : (Attempt.trial cancellable cut).Ensures (fun h'' v => h'' = h' ++ [(cut, v)])
          (fun h'' cause => Logs items limits.minSize h' h'' (.error cause, [])) h' :=
        Attempt.ensures_trial (.nil _) (fun v => .cancelled v) fun _ => rfl
      refine (Dialogue.ensures_bind _ _ _).mpr (Dialogue.Ensures.mono htrial fun h'' r hr => ?_)
      rcases r with cause | v
      · exact hr
      obtain rfl : h'' = h' ++ [(cut, v)] := hr
      have hraised : Kept items.length
          (Cut.mark (Cut.mark keep (order.drop k) false) (order.drop k) true)
          ((e.raise (order.drop k) p).sort (order.take k ++ order.drop k)) := by
        rw [hsplit.restore]
        exact hsplit.perm (Estimates.sort_perm _ _)
      cases v with
      | holds => exact (ih hsplit.drop hsize).mono fun _ _ => Logs.after_success
      | lost | unknown =>
        refine (Dialogue.ensures_bind _ _ _).mpr ((ih hraised ?_).mono fun _ _ =>
          Logs.after_failure (by decide) hconditioned)
        rw [size_raise, hsize]

end Logging

/-- Where a round may begin: the positions left, the mask that is set at them, and an estimate for
every position. -/
structure Front (size : Nat) where
  keep : Array Bool
  order : List Nat
  estimates : Estimates
  kept : Kept size keep order
  sized : estimates.probabilities.size = size

/-- Where the first round begins. -/
def Front.initial (seed : UInt64) (size : Nat) : Front size where
  keep := Array.replicate size true
  order := (Estimates.initial seed size).sort (List.range size)
  estimates := .initial seed size
  kept := (Kept.all size).perm (Estimates.sort_perm _ _)
  sized := Array.size_replicate

theorem trials_minimize (hvalid : limits.validate = .ok ()) (hitems : 2 ≤ items.length)
    (seed : UInt64) (t : Tester σ α) (st : σ) :
    let front := Front.initial seed items.length
    ((minimize ⟨limits, seed⟩ cancellable items).run.run t st).trials =
      ((rounds limits cancellable items limits.maxIterations front.keep front.order
        front.estimates {}).run.run t st).trials := by
  intro front
  have hloop : minimize ⟨limits, seed⟩ cancellable items =
      rounds limits cancellable items limits.maxIterations front.keep front.order
        front.estimates {} >>= fun r =>
          return Outcome.ofCut (Cut.ofMask items r.1.toList) r.2 := by
    unfold minimize
    dsimp only
    rw [hvalid, if_neg (by omega)]
    rfl
  rw [hloop]
  obtain ⟨later, htrials, rfl⟩ := Attempt.trials_bind t
    (rounds limits cancellable items limits.maxIterations front.keep front.order
      front.estimates {})
    (fun r => return Outcome.ofCut (Cut.ofMask items r.1.toList) r.2) st (P := (· = [])) rfl
    fun _ => rfl
  rw [htrials, List.append_nil]

/-- Wherever the loop begins and however the tester answers, it logs the rounds whose trial failed,
and what each of them raises the estimates of its group by is the probability that was multiplied
up over all positions selected. These are the group alone if nothing was spared, and so always if
the least size is at most one. Begun at the initial front with all rounds to go, the trials are
those of the algorithm. -/
theorem failed_rounds_conditioned (limits : Limits) (cancellable : Bool) (items : List α)
    (front : Front items.length) (remaining : Nat) (s : Statistics) (t : Tester σ α) (st : σ) :
    let run := (rounds limits cancellable items remaining front.keep front.order front.estimates
      s).run.run t st
    let logged := (roundsLogged limits cancellable items remaining front.keep front.order
      front.estimates s).run t st
    run = ⟨logged.answer.1, logged.state, logged.steps⟩ ∧
    (∃ void, failures run.trials = logged.answer.2.map FailedRound.cut ++ void ∧
      (void = [] ∨ run.answer = .error .cancelled)) ∧
    (∀ r ∈ logged.answer.2,
      (∃ left spared, r.IsConditioned items limits.minSize left spared) ∧
      (limits.minSize ≤ 1 → r.probability = r.estimates.unneeded r.group)) ∧
    ∀ seed, limits.validate = .ok () → 2 ≤ items.length → front = .initial seed items.length →
      remaining = limits.maxIterations → s = {} →
      ((minimize ⟨limits, seed⟩ cancellable items).run.run t st).trials = run.trials := by
  intro run logged
  have hrun : run = ⟨logged.answer.1, logged.state, logged.steps⟩ := run_rounds _ _ _ _ _ t st
  obtain ⟨⟨void, hfailures, hvoid⟩, hrounds⟩ :=
    (roundsLogged_logs (h := []) front.kept front.sized).run t st
  refine ⟨hrun, ⟨void, ?_, ?_⟩, fun r hr => ?_, ?_⟩
  · rw [hrun]
    exact hfailures
  · rw [hrun]
    exact hvoid
  · obtain ⟨left, spared, hconditioned⟩ := hrounds r hr
    refine ⟨⟨left, spared, hconditioned⟩, fun hsmall => ?_⟩
    have hp := hconditioned.probability_eq
    rwa [hconditioned.spared_eq_nil hsmall, List.nil_append] at hp
  · rintro seed hvalid hitems rfl rfl rfl
    exact trials_minimize hvalid hitems seed t st

/-- Three positions that are needed with a probability of one in four each. -/
def Front.quarters : Front 3 where
  keep := #[true, true, true]
  order := [0, 1, 2]
  estimates := ⟨#[0.25, 0.25, 0.25], #[0, 1, 2]⟩
  kept := ⟨by decide, by decide, by decide⟩
  sized := rfl

/-- With nothing that can be deleted the first round is one that fails. -/
theorem exists_log_of_lost (limits : Limits) (items : List α) (keep : Array Bool)
    (order : List Nat) (e : Estimates) (remaining : Nat) (s : Statistics) {taken : Nat}
    (hone : 1 < order.length) (hmin : limits.minSize < order.length)
    (hcertain : (order.getLast?.map e.probability).any (fun p => p ≥ certain) = false)
    (hselected : select e order = (taken, p))
    (hconditioned : group = order.drop (order.length - min taken (order.length - limits.minSize))) :
    ∃ rest, ((roundsLogged limits false items (remaining + 1) keep order e s).run
        (.ofFunction fun _ => .lost) ()).answer.2 =
      ⟨order, e, Cut.ofMask items (Cut.mark keep group false).toList, group, p,
        e.raise group p⟩ :: rest := by
  have hlong : ¬ (order.length ≤ 1 || order.length ≤ limits.minSize) = true := by
    simp only [Bool.or_eq_true, decide_eq_true_eq, not_or, Nat.not_le]
    exact ⟨hone, hmin⟩
  have hcheck : (Attempt.check false .cancelled : Attempt AlgorithmError α Unit).run =
      .done (.ok ()) := rfl
  have htrial : ∀ c : Cut α, (Attempt.trial false c).run = .ask c fun v => .done (.ok v) :=
    fun _ => rfl
  subst hconditioned
  unfold roundsLogged
  rw [if_neg hlong, hcertain, if_neg Bool.false_ne_true, hselected]
  simp only [hcheck, htrial, Dialogue.seq_eq_bind, Dialogue.bind, Dialogue.run, Tester.ofFunction,
    Verdict.isHolds, Bool.false_eq_true, if_false]
  rw [Dialogue.run_bind]
  exact ⟨_, rfl⟩

/-- If the least size spares a position, the group is not what is conditioned on: of three positions
two are selected and one is deleted. -/
theorem conditioned_on_spared : ¬ ∀ (limits : Limits) (items : List Nat)
    (front : Front items.length) (remaining : Nat) (t : Tester Unit Nat),
    ∀ r ∈ ((roundsLogged limits false items remaining front.keep front.order front.estimates
      {}).run t ()).answer.2, r.probability = r.estimates.unneeded r.group := by
  intro hgroup
  obtain ⟨rest, hlog⟩ := exists_log_of_lost { minSize := 2 } [1, 2, 3] Front.quarters.keep
    Front.quarters.order Front.quarters.estimates 0 {} (by decide) (by decide) (by decide +kernel)
    rfl rfl
  have heq := hgroup { minSize := 2 } [1, 2, 3] Front.quarters 1 _ _ (hlog ▸ List.mem_cons_self)
  have hless := congrArg (fun p => decide (p < 0.6)) heq
  revert hless
  decide +kernel

end DeltaDebugging.Probabilistic
