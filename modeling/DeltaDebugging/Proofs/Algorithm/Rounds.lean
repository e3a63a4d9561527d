import DeltaDebugging.Algorithm.Kind
import DeltaDebugging.Proofs.Algorithm.Ddmin
import DeltaDebugging.Proofs.Runs
import Mathlib.Algebra.Group.Nat.Defs
import Mathlib.Data.Nat.Log

/-!
# How many rounds minimizing delta debugging takes

A round without success doubles the number of chunks, so with `len` positions left there
are at most as many rounds in a row as doublings lead from one chunk to `len`. A success
leaves fewer positions and starts again with two chunks. Hence the rounds are at most one
less than the positions at the start, times the logarithm of their number, rounded up. The
rounds are counted by the loop itself, and counting does not change what it does.
-/
namespace DeltaDebugging.Ddmin

variable {σ α : Type} {limits : Limits} {cancellable : Bool} {items : List α}
  {current : List Nat} {remaining n failures : Nat} {s : Statistics}
  {h : Trials α}

/-- The loop of `rounds` with the number of rounds begun, one that is given up included. -/
def roundsCounted (limits : Limits) (cancellable : Bool) (items : List α) :
    (remaining : Nat) → (current : List Nat) → (n failures : Nat) → Statistics →
      Dialogue α (Except AlgorithmError (List Nat × Statistics) × Nat)
  | remaining, current, n, failures, s =>
    if current.length < 2 then return (.ok (current, s), 0) else
    match remaining with
    | 0 => return (.error (.maxIterationsReached limits.maxIterations), 1)
    | remaining + 1 => do
      match ← (firstHolding cancellable items (candidates limits.minSize current n) s).run with
      | .error e => return (.error e, 1)
      | .ok (some next, s) =>
        let (r, count) ← roundsCounted limits cancellable items remaining next 2 0 s
        return (r, count + 1)
      | .ok (none, s) =>
        if current.length ≤ n then return (.ok (current, s), 1)
        let n := min (2 * n) current.length
        let s := s.granularity n
        let failures := failures + 1
        if limits.earlyTermination && limits.earlyTerminationThreshold ≤ failures then
          return (.ok (current, s.terminateEarly "no progress"), 1)
        let (r, count) ← roundsCounted limits cancellable items remaining current n failures s
        return (r, count + 1)

theorem roundsCounted_value (remaining : Nat) (current : List Nat) (n failures : Nat)
    (s : Statistics) :
    (roundsCounted limits cancellable items remaining current n failures s).bind
        (fun x => .done x.1) =
      (rounds limits cancellable items remaining current n failures s).run := by
  induction remaining generalizing current n failures s with
  | zero =>
    unfold roundsCounted rounds
    split <;> rfl
  | succ remaining ih =>
    unfold roundsCounted rounds
    split
    · rfl
    refine (Dialogue.bind_assoc _ _ _).trans (congrArg (Dialogue.bind _) (funext fun r => ?_))
    rcases r with e | ⟨_ | next, s'⟩
    · rfl
    · dsimp only
      split
      · rfl
      · split
        · rfl
        · exact (Dialogue.bind_assoc _ _ _).trans (ih _ _ _ _)
    · exact (Dialogue.bind_assoc _ _ _).trans (ih _ _ _ _)

/-- With a size left for every position but one, and `depth` rounds for every size, the rounds
still to come are at most these less the doublings made for the present size. A loop that gives
up has begun one round more than it may make. -/
theorem roundsCounted_cost (doublings depth : Nat)
    (hn : min (2 ^ (doublings + 1)) current.length ≤ n)
    (hdoublings : 2 ≤ current.length → doublings < depth) (hdepth : current.length ≤ 2 ^ depth) :
    (roundsCounted limits cancellable items remaining current n failures s).Ensures
      (fun _ x => x.2 ≤ (current.length - 1) * depth - doublings ∧
        ∀ limit, x.1 = .error (.maxIterationsReached limit) → x.2 = remaining + 1) h := by
  induction remaining generalizing current n failures doublings s h with
  | zero =>
    unfold roundsCounted
    split
    · exact ⟨Nat.zero_le _, by simp⟩
    · next hlong =>
      have hlt := hdoublings (by omega)
      have hone : depth ≤ (current.length - 1) * depth := Nat.le_mul_of_pos_left _ (by omega)
      exact ⟨show 1 ≤ _ by omega, fun _ _ => rfl⟩
  | succ remaining ih =>
    unfold roundsCounted
    split
    · exact ⟨Nat.zero_le _, by simp⟩
    next hlong =>
      have hlen : 2 ≤ current.length := by omega
      have hlt := hdoublings hlen
      have hone : depth ≤ (current.length - 1) * depth := Nat.le_mul_of_pos_left _ (by omega)
      have htwo : 2 ≤ n := by
        have : 2 ^ 1 ≤ 2 ^ (doublings + 1) := Nat.pow_le_pow_right (by omega) (by omega)
        omega
      have hround : (firstHolding cancellable items (candidates limits.minSize current n) s).Ensures
          _ _ h := firstHolding_keeps (P := fun _ _ => True) (fun _ _ _ _ _ => trivial) trivial
      refine (Dialogue.ensures_bind _ _ _).mpr (Dialogue.Ensures.mono hround fun h' r hr => ?_)
      rcases r with e | ⟨_ | next, s'⟩
      · obtain rfl : e = .cancelled := hr
        exact ⟨show 1 ≤ _ by omega, by simp⟩
      · dsimp only
        split
        · exact ⟨show 1 ≤ _ by omega, by simp⟩
        next hfew =>
          split
          · exact ⟨show 1 ≤ _ by omega, by simp⟩
          -- The chunks are not yet as many as the positions, so not all doublings are made.
          have hpow : 2 ^ (doublings + 1) < 2 ^ depth := by omega
          have hnext := (Nat.pow_lt_pow_iff_right (by omega)).mp hpow
          refine (Dialogue.ensures_bind _ _ _).mpr ((ih (doublings + 1) ?_
            (fun _ => hnext) hdepth).mono fun h'' x hx => ?_)
          · rw [Nat.pow_succ]
            omega
          · exact ⟨show x.2 + 1 ≤ _ by omega, fun limit hlimit => by rw [hx.2 limit hlimit]⟩
      · obtain ⟨-, -, hshorter⟩ := candidate_spec htwo hlen (hr.2 next rfl)
        -- The size that was left behind had rounds to spare for all its doublings and this one.
        have hsize : (next.length - 1) * depth + depth ≤ (current.length - 1) * depth := by
          rw [← Nat.succ_mul]
          exact Nat.mul_le_mul_right depth (by omega)
        refine (Dialogue.ensures_bind _ _ _).mpr ((ih 0 ?_
          (fun _ => by omega) (by omega)).mono fun h'' x hx => ?_)
        · exact Nat.min_le_left _ _
        · exact ⟨show x.2 + 1 ≤ _ by omega, fun limit hlimit => by rw [hx.2 limit hlimit]⟩

theorem run_rounds (remaining : Nat) (current : List Nat) (n failures : Nat) (s : Statistics)
    (t : Tester σ α) (st : σ) :
    (rounds limits cancellable items remaining current n failures s).run.run t st =
      let r := (roundsCounted limits cancellable items remaining current n failures s).run t st
      ⟨r.answer.1, r.state, r.steps⟩ := by
  rw [← roundsCounted_value, Dialogue.run_bind]
  simp [Dialogue.run]

theorem exhausted_of_minimize {limit : Nat} {t : Tester σ α} {st : σ}
    (h : ((minimize limits cancellable items).run.run t st).answer =
      .error (.maxIterationsReached limit)) :
    ((rounds limits cancellable items limits.maxIterations (List.range items.length) 2 0 {}).run.run
      t st).answer = .error (.maxIterationsReached limit) := by
  unfold minimize at h
  rcases Attempt.run_bind_error h with hinvalid | ⟨_, -, h⟩
  · have hvalid : limits.validate = .error (.maxIterationsReached limit) := hinvalid
    unfold Limits.validate at hvalid
    split at hvalid
    · cases hvalid
    · split at hvalid <;> cases hvalid
  · exact (Attempt.run_bind_error h).resolve_right fun ⟨_, _, hdone⟩ => by cases hdone

/-- With fewer than two items there is nothing to try. -/
theorem trials_minimize_short (hitems : items.length < 2) (t : Tester σ α) (st : σ) :
    ((minimize limits cancellable items).run.run t st).trials = [] := by
  have hloop : rounds limits cancellable items limits.maxIterations (List.range items.length) 2 0
      {} = pure (List.range items.length, {}) := by
    unfold rounds
    rw [if_pos (by simpa using hitems)]
  unfold minimize
  rw [hloop]
  cases limits.validate <;> rfl

/-- However the tester answers, the loop begins at most `(len - 1) * ⌈log₂ len⌉` rounds over `len`
items. To give up takes one round more than the limit, so a limit of that many is never reached,
and over fewer than two items none is, because nothing is tried. -/
theorem ddmin_rounds_le (limits : Limits) (cancellable : Bool) (items : List α) (t : Tester σ α)
    (st : σ) :
    let start := List.range items.length
    let bound := (items.length - 1) * Nat.clog 2 items.length
    let counted :=
      (roundsCounted limits cancellable items limits.maxIterations start 2 0 {}).run t st
    let run := ((Algorithm.ddmin limits cancellable).minimize items).run.run t st
    (rounds limits cancellable items limits.maxIterations start 2 0 {}).run.run t st =
      ⟨counted.answer.1, counted.state, counted.steps⟩ ∧
    counted.answer.2 ≤ bound ∧
    (∀ limit, run.answer = .error (.maxIterationsReached limit) →
      counted.answer.2 = limits.maxIterations + 1) ∧
    (bound ≤ limits.maxIterations → ∀ limit, run.answer ≠ .error (.maxIterationsReached limit)) ∧
    (items.length < 2 →
      run.trials = [] ∧ ∀ limit, run.answer ≠ .error (.maxIterationsReached limit)) := by
  intro start bound counted run
  have hlength : start.length = items.length := List.length_range
  have hlog : items.length ≤ 2 ^ Nat.clog 2 items.length := Nat.le_pow_clog (by omega) _
  have hloop : (roundsCounted limits cancellable items limits.maxIterations start 2 0 {}).Ensures
      _ [] := roundsCounted_cost 0 (Nat.clog 2 items.length) (Nat.min_le_left _ _)
    (fun hlen => Nat.clog_pos (by omega) (by omega)) (by omega)
  have hend := hloop.run t st
  rw [hlength, Nat.sub_zero] at hend
  obtain ⟨hcost, hexhausted⟩ : counted.answer.2 ≤ bound ∧ ∀ limit, counted.answer.1 =
    .error (.maxIterationsReached limit) → counted.answer.2 = limits.maxIterations + 1 := hend
  have hcount : (rounds limits cancellable items limits.maxIterations start 2 0 {}).run.run t st =
      ⟨counted.answer.1, counted.state, counted.steps⟩ := run_rounds _ _ _ _ _ t st
  have hmore : ∀ limit, run.answer = .error (.maxIterationsReached limit) →
      counted.answer.2 = limits.maxIterations + 1 := by
    intro limit heq
    have hgiven := exhausted_of_minimize heq
    rw [hcount] at hgiven
    exact hexhausted limit hgiven
  have hnever : bound ≤ limits.maxIterations →
      ∀ limit, run.answer ≠ .error (.maxIterationsReached limit) := by
    intro hbound limit heq
    have hone := hmore limit heq
    omega
  refine ⟨hcount, hcost, hmore, hnever,
    fun hshort => ⟨trials_minimize_short hshort t st, hnever ?_⟩⟩
  have hzero : bound = 0 := by
    change (items.length - 1) * _ = 0
    rw [show items.length - 1 = 0 by omega, Nat.zero_mul]
  omega

/-- Two rounds over four items, two over the three left and one over the last two. -/
example : ((roundsCounted {} false ['a', 'b', 'c', 'd'] 100 [0, 1, 2, 3] 2 0 {}).run
    (.ofFunction fun c => if 'b' ∈ c.retained ∧ 'd' ∈ c.retained then .holds else .lost)
    ()).answer.2 = 5 := by
  decide

end DeltaDebugging.Ddmin
