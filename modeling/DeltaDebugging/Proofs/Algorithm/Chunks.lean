import DeltaDebugging.Algorithm.Ddmin
import Mathlib.Data.Nat.ModEq

/-!
# Chunks of a configuration

Cutting `len` positions into `n` chunks gives `k = min n len` of them, and chunk `i` leads
from `i * len / k` to `(i + 1) * len / k`. Its end is the start of the next one by
definition. Rounding down a sum gives the sum of the parts rounded down or one more, so
every chunk has `len / k` positions or one more, and as `k ≤ len` that is at least one.
Hence the chunks cut a configuration into parts that are as equal as they can be, and
joined together these are the configuration again.
-/
namespace DeltaDebugging.Ddmin

variable {start stop len count n : Nat} {parts : List (Nat × Nat)} {c : Nat × Nat}
  {current : List Nat}

section Ranges

/-- The ranges lead from `start` to `stop`, each from where the one before it ends. -/
inductive Consecutive : Nat → Nat → List (Nat × Nat) → Prop
  | nil (start : Nat) : Consecutive start start []
  | cons {start mid stop : Nat} {parts : List (Nat × Nat)} (h : Consecutive mid stop parts) :
      Consecutive start stop ((start, mid) :: parts)

theorem consecutive_bounds (bound : Nat → Nat) (count : Nat) :
    Consecutive (bound 0) (bound count)
      ((List.range count).map fun i => (bound i, bound (i + 1))) := by
  induction count generalizing bound with
  | zero => exact .nil _
  | succ count ih =>
    rw [List.range_succ_eq_map, List.map_cons, List.map_map]
    exact .cons (ih fun i => bound (i + 1))

theorem Consecutive.start_le (h : Consecutive start stop parts) (hparts : ∀ c ∈ parts, c.1 ≤ c.2) :
    start ≤ stop := by
  induction h with
  | nil => exact Nat.le_refl _
  | cons _ ih =>
    rw [List.forall_mem_cons] at hparts
    exact hparts.1.trans (ih hparts.2)

theorem Consecutive.flatMap_within (h : Consecutive start stop parts)
    (hparts : ∀ c ∈ parts, c.1 ≤ c.2) (current : List Nat) :
    parts.flatMap (within current) = within current (start, stop) := by
  induction h with
  | nil => simp [within]
  | @cons start mid stop parts hrest ih =>
    rw [List.forall_mem_cons] at hparts
    have hfirst : start ≤ mid := hparts.1
    have hmid := hrest.start_le hparts.2
    have hsize : stop - start = (mid - start) + (stop - mid) := by omega
    rw [List.flatMap_cons, ih hparts.2]
    simp only [within]
    rw [hsize, List.take_add, List.drop_drop, Nat.add_sub_cancel' hfirst]

/-- The ranges cut `len` positions into `count` parts, one after the other. None of them is
empty, and none has more than one position more than another. -/
structure IsBalanced (len count : Nat) (parts : List (Nat × Nat)) : Prop where
  length_eq : parts.length = count
  consecutive : Consecutive 0 len parts
  nonempty : ∀ c ∈ parts, c.1 < c.2
  size_le : ∀ c ∈ parts, ∀ d ∈ parts, c.2 - c.1 ≤ d.2 - d.1 + 1

/-- No position is missed and none is met twice. -/
theorem IsBalanced.flatMap_within (h : IsBalanced current.length count parts) :
    parts.flatMap (within current) = current := by
  rw [h.consecutive.flatMap_within fun c hc => (h.nonempty c hc).le]
  simp [within]

end Ranges

theorem length_chunks (len n : Nat) : (chunks len n).length = min n len := by
  simp [chunks]

theorem mem_chunks : c ∈ chunks len n ↔
    ∃ i < min n len, c = (i * len / min n len, (i + 1) * len / min n len) := by
  simp [chunks, eq_comm]

theorem consecutive_chunks (len : Nat) (hn : 1 ≤ n) : Consecutive 0 len (chunks len n) := by
  have hbounds := consecutive_bounds (fun i => i * len / min n len) (min n len)
  have hstart : 0 * len / min n len = 0 := by simp
  have hstop : min n len * len / min n len = len := by
    rcases Nat.eq_zero_or_pos len with rfl | hlen
    · simp
    · exact Nat.mul_div_cancel_left len (by omega)
  rwa [hstart, hstop] at hbounds

theorem chunk_size (hc : c ∈ chunks len n) :
    c.2 = c.1 + len / min n len ∨ c.2 = c.1 + len / min n len + 1 := by
  obtain ⟨i, -, rfl⟩ := mem_chunks.mp hc
  have hleast : i * len / min n len + len / min n len ≤ (i * len + len) / min n len :=
    Nat.div_add_div_le_add_div
  have hmost := Nat.add_div_le_div_add_div_add_one (i * len) len (min n len)
  simp only [Nat.succ_mul]
  omega

theorem chunk_lt (hc : c ∈ chunks len n) : c.1 < c.2 := by
  obtain ⟨i, hi, -⟩ := mem_chunks.mp hc
  have hshare : 0 < len / min n len := Nat.div_pos (Nat.min_le_right n len) (by omega)
  have hsize := chunk_size hc
  omega

theorem chunk_le (hc : c ∈ chunks len n) : c.2 ≤ len := by
  obtain ⟨i, hi, rfl⟩ := mem_chunks.mp hc
  have hmul : (i + 1) * len ≤ len * min n len := by
    rw [Nat.mul_comm len]
    exact Nat.mul_le_mul_right len hi
  exact Nat.div_le_of_le_mul (by rwa [Nat.mul_comm len] at hmul)

/-- With two chunks or more none of them holds all positions. -/
theorem chunk_proper (hn : 2 ≤ n) (hlen : 2 ≤ len) (hc : c ∈ chunks len n) : c.2 - c.1 < len := by
  have hle := chunk_le hc
  obtain ⟨i, hi, rfl⟩ := mem_chunks.mp hc
  rcases Nat.eq_zero_or_pos i with rfl | hi0
  · have : len / min n len < len := Nat.div_lt_self (by omega) (by omega)
    simpa using this
  · have hstart : 0 < i * len / min n len := by
      apply Nat.div_pos _ (by omega)
      calc min n len ≤ len := Nat.min_le_right n len
        _ ≤ i * len := Nat.le_mul_of_pos_left len hi0
    omega

theorem chunks_of_le (h : len ≤ n) :
    chunks len n = (List.range len).map fun i => (i, i + 1) := by
  unfold chunks
  rw [Nat.min_eq_right h]
  apply List.map_congr_left
  intro i hi
  have hpos : 0 < len := by have := List.mem_range.mp hi; omega
  rw [Nat.mul_div_cancel _ hpos, Nat.mul_div_cancel _ hpos]

/-- Cutting into one chunk or more gives as many balanced chunks as asked for, or single
positions if that would be too many. -/
theorem isBalanced_chunks (len n : Nat) (hn : 1 ≤ n) :
    IsBalanced len (min n len) (chunks len n) ∧
      (∀ current : List Nat, current.length = len →
        (chunks len n).flatMap (within current) = current) ∧
      (len ≤ n → ∀ c ∈ chunks len n, c.2 = c.1 + 1) := by
  have hbalanced : IsBalanced len (min n len) (chunks len n) := by
    refine ⟨length_chunks len n, consecutive_chunks len hn, fun c => chunk_lt, ?_⟩
    intro c hc d hd
    have hcsize := chunk_size hc
    have hdsize := chunk_size hd
    omega
  refine ⟨hbalanced, ?_, ?_⟩
  · rintro current rfl
    exact hbalanced.flatMap_within
  · intro hle c hc
    rw [chunks_of_le hle] at hc
    obtain ⟨i, -, rfl⟩ := List.mem_map.mp hc
    rfl

theorem isBalanced_chunks_uneven :
    chunks 10 3 = [(0, 3), (3, 6), (6, 10)] ∧ IsBalanced 10 3 (chunks 10 3) ∧
      chunks 3 8 = [(0, 1), (1, 2), (2, 3)] ∧ ∀ c ∈ chunks 3 8, c.2 = c.1 + 1 :=
  ⟨by decide, (isBalanced_chunks 10 3 (by decide)).1, by decide,
    (isBalanced_chunks 3 8 (by decide)).2.2 (by decide)⟩

end DeltaDebugging.Ddmin
