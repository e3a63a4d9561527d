import DeltaDebugging.Graph.Tarjan
import Mathlib.Data.List.Sort

/-!
# The state of the component search

How each operation of the search changes the numbers, the lowlinks and the stack, and
that the parts of the state stay in agreement: a vertex entered is on the stack or in a
complete component and never in both, and a vertex entered later lies above.
-/
namespace DeltaDebugging.Graph.Tarjan

variable {n : Nat} {t : Tarjan} {v w : Nat}

def num (t : Tarjan) (v : Nat) : Nat := (t.index? v).getD 0

section Operations

theorem getD_set {α : Type} {xs : Array α} {i : Nat} (h : i < xs.size) (x d : α) (j : Nat) :
    (xs.setIfInBounds i x).getD j d = if j = i then x else xs.getD j d := by
  simp only [Array.getD_eq_getD_getElem?, Array.getElem?_setIfInBounds]
  by_cases hj : j = i
  · subst hj
    simp [h]
  · simp [hj, Ne.symm hj]

theorem index?_enter (h : w < t.index.size) (v : Nat) :
    (t.enter w).index? v = if v = w then some t.nextIndex else t.index? v :=
  getD_set h _ _ v

theorem low_enter (h : w < t.lowlink.size) (v : Nat) :
    (t.enter w).low v = if v = w then t.nextIndex else t.low v :=
  getD_set h _ _ v

theorem isOnStack_enter (h : w < t.onStack.size) (v : Nat) :
    (t.enter w).isOnStack v = true ↔ v = w ∨ t.isOnStack v = true := by
  rw [isOnStack, enter, getD_set h]
  by_cases hv : v = w <;> simp [hv, isOnStack]

theorem low_lower {p i : Nat} (h : p < t.lowlink.size) (v : Nat) :
    (t.lower p i).low v = if v = p then min (t.low p) i else t.low v :=
  getD_set h _ _ v

theorem low_lower_le (t : Tarjan) (p i v : Nat) : (t.lower p i).low v ≤ t.low v := by
  by_cases hp : p < t.lowlink.size
  · rw [low_lower hp]
    split
    · next hv => simp [hv]
    · exact Nat.le_refl _
  · rw [low, lower, Array.setIfInBounds_eq_of_size_le (by omega)]
    exact Nat.le_refl _

@[simp] theorem index?_lower (t : Tarjan) (p i v : Nat) : (t.lower p i).index? v = t.index? v := rfl

@[simp] theorem num_lower (t : Tarjan) (p i v : Nat) : (t.lower p i).num v = t.num v := rfl

@[simp] theorem index?_complete (t : Tarjan) (w v : Nat) :
    (t.complete w).index? v = t.index? v := rfl

theorem num_enter (h : w < t.index.size) (v : Nat) :
    (t.enter w).num v = if v = w then t.nextIndex else t.num v := by
  rw [num, index?_enter h]
  split <;> rfl

theorem popThrough_append (v : Nat) (stack : List Nat) :
    (popThrough v stack).1 ++ (popThrough v stack).2 = stack := by
  induction stack with
  | nil => rfl
  | cons w stack ih =>
    unfold popThrough
    split
    · rfl
    · simpa using ih

theorem popThrough_members {stack : List Nat} (h : v ∈ stack) :
    ∃ above, (popThrough v stack).1 = above ++ [v] := by
  induction stack with
  | nil => simp at h
  | cons w stack ih =>
    unfold popThrough
    split
    · next hw => exact ⟨[], by simp [hw]⟩
    · next hw =>
      obtain ⟨above, habove⟩ := ih ((List.mem_cons.mp h).resolve_left (Ne.symm hw))
      exact ⟨w :: above, by simp [habove]⟩

theorem isOnStack_complete (t : Tarjan) (w v : Nat) :
    (t.complete w).isOnStack v = true ↔
      t.isOnStack v = true ∧ v ∉ (popThrough w t.stack).1 := by
  simp only [isOnStack, complete]
  generalize (popThrough w t.stack).1 = members
  generalize t.onStack = on
  induction members generalizing on with
  | nil => simp
  | cons m members ih =>
    rw [List.foldl_cons, ih]
    simp only [Array.getD_eq_getD_getElem?, Array.getElem?_setIfInBounds]
    by_cases hm : m = v
    · subst hm
      by_cases hsize : m < on.size <;> simp [hsize]
    · simp [hm, Ne.symm hm]

end Operations

section Consistency

/-- The parts of the state agree: the stack and the components share out the vertices
entered, and the stack is in the order of their numbers. -/
structure Consistent (n : Nat) (t : Tarjan) : Prop where
  size_index : t.index.size = n
  size_lowlink : t.lowlink.size = n
  size_onStack : t.onStack.size = n
  isOnStack_iff : ∀ v, t.isOnStack v = true ↔ v ∈ t.stack
  entered_iff : ∀ v, t.index? v ≠ none ↔ v ∈ t.stack ++ t.components.flatten
  num_lt : ∀ v, t.index? v ≠ none → t.num v < t.nextIndex
  nodup : (t.stack ++ t.components.flatten).Nodup
  descending : t.stack.Pairwise fun v u => t.num u < t.num v

theorem consistent_start (n : Nat) : Consistent n (start n) where
  size_index := by simp [start]
  size_lowlink := by simp [start]
  size_onStack := by simp [start]
  isOnStack_iff v := by
    by_cases hv : v < n <;> simp [start, isOnStack, Array.getD_eq_getD_getElem?, hv]
  entered_iff v := by
    by_cases hv : v < n <;> simp [start, index?, Array.getD_eq_getD_getElem?, hv]
  num_lt v h := by
    by_cases hv : v < n <;> simp [start, index?, Array.getD_eq_getD_getElem?, hv] at h
  nodup := by simp [start]
  descending := by simp [start]

namespace Consistent

theorem entered_of_mem (h : Consistent n t) (hv : v ∈ t.stack) : t.index? v ≠ none :=
  (h.entered_iff v).mpr (List.mem_append_left _ hv)

theorem lt_of_entered (h : Consistent n t) (hv : t.index? v ≠ none) : v < n := by
  by_contra hn
  apply hv
  have := h.size_index
  simp only [index?, Array.getD_eq_getD_getElem?]
  rw [Array.getElem?_eq_none (by omega), Option.getD_none]

theorem lt_size_lowlink (h : Consistent n t) (hv : v ∈ t.stack) : v < t.lowlink.size := by
  rw [h.size_lowlink]
  exact h.lt_of_entered (h.entered_of_mem hv)

theorem num_enter_self (h : Consistent n t) (hw : w < n) : (t.enter w).num w = t.nextIndex := by
  rw [num_enter (by simpa [h.size_index] using hw), if_pos rfl]

theorem low_enter_self (h : Consistent n t) (hw : w < n) : (t.enter w).low w = t.nextIndex := by
  rw [low_enter (by simpa [h.size_lowlink] using hw), if_pos rfl]

theorem num_enter_of_mem (h : Consistent n t) (hw : w < n) (hnew : t.index? w = none)
    (hv : v ∈ t.stack) : (t.enter w).num v = t.num v := by
  have hne : v ≠ w := fun heq => h.entered_of_mem hv (heq ▸ hnew)
  rw [num_enter (by simpa [h.size_index] using hw), if_neg hne]

theorem low_enter_of_mem (h : Consistent n t) (hw : w < n) (hnew : t.index? w = none)
    (hv : v ∈ t.stack) : (t.enter w).low v = t.low v := by
  have hne : v ≠ w := fun heq => h.entered_of_mem hv (heq ▸ hnew)
  rw [low_enter (by simpa [h.size_lowlink] using hw), if_neg hne]

theorem enter (h : Consistent n t) (hw : w < n) (hnew : t.index? w = none) :
    Consistent n (t.enter w) where
  size_index := by simp [Tarjan.enter, h.size_index]
  size_lowlink := by simp [Tarjan.enter, h.size_lowlink]
  size_onStack := by simp [Tarjan.enter, h.size_onStack]
  isOnStack_iff v := by
    rw [isOnStack_enter (by simpa [h.size_onStack] using hw), h.isOnStack_iff]
    exact List.mem_cons.symm
  entered_iff v := by
    have := h.entered_iff v
    rw [index?_enter (by simpa [h.size_index] using hw)]
    by_cases hv : v = w
    · simp [hv, Tarjan.enter]
    · simpa [hv, Tarjan.enter] using this
  num_lt v hv := by
    rw [index?_enter (by simpa [h.size_index] using hw)] at hv
    rw [num_enter (by simpa [h.size_index] using hw)]
    change _ < t.nextIndex + 1
    by_cases heq : v = w
    · simp [heq]
    · have := h.num_lt v (by simpa [heq] using hv)
      simp only [heq, if_false]
      omega
  nodup := by
    have hfresh : w ∉ t.stack ++ t.components.flatten :=
      fun hmem => (h.entered_iff w).mpr hmem hnew
    exact List.nodup_cons.mpr ⟨hfresh, h.nodup⟩
  descending := by
    refine List.pairwise_cons.mpr ⟨fun u hu => ?_, ?_⟩
    · rw [h.num_enter_of_mem hw hnew hu, h.num_enter_self hw]
      exact h.num_lt u (h.entered_of_mem hu)
    · refine h.descending.imp_of_mem fun {v u} hv hu hlt => ?_
      rw [h.num_enter_of_mem hw hnew hv, h.num_enter_of_mem hw hnew hu]
      exact hlt

theorem lower (h : Consistent n t) (p i : Nat) : Consistent n (t.lower p i) where
  size_index := h.size_index
  size_lowlink := by simp [Tarjan.lower, h.size_lowlink]
  size_onStack := h.size_onStack
  isOnStack_iff := h.isOnStack_iff
  entered_iff := h.entered_iff
  num_lt := h.num_lt
  nodup := h.nodup
  descending := h.descending

theorem mem_popThrough (h : Consistent n t) (hv : v ∈ t.stack) (x : Nat) :
    (x ∈ (popThrough v t.stack).1 ↔ x ∈ t.stack ∧ t.num v ≤ t.num x) ∧
      (x ∈ (popThrough v t.stack).2 ↔ x ∈ t.stack ∧ t.num x < t.num v) := by
  obtain ⟨above, habove⟩ := popThrough_members hv
  have hstack := popThrough_append v t.stack
  rw [habove] at hstack ⊢
  have hdescending := h.descending
  rw [← hstack, List.pairwise_append] at hdescending
  obtain ⟨hmembers, -, hrest⟩ := hdescending
  have hmember : ∀ y ∈ above ++ [v], t.num v ≤ t.num y := by
    intro y hy
    rcases List.mem_append.mp hy with hy | hy
    · exact Nat.le_of_lt ((List.pairwise_append.mp hmembers).2.2 y hy v (by simp))
    · rw [List.mem_singleton.mp hy]
  have hbelow : ∀ y ∈ (popThrough v t.stack).2, t.num y < t.num v :=
    fun y hy => hrest v (by simp) y hy
  have hmem : x ∈ t.stack ↔ x ∈ above ++ [v] ∨ x ∈ (popThrough v t.stack).2 := by
    rw [← List.mem_append, hstack]
  rw [hmem]
  refine ⟨⟨fun hx => ⟨Or.inl hx, hmember x hx⟩, ?_⟩, ⟨fun hx => ⟨Or.inr hx, hbelow x hx⟩, ?_⟩⟩
  · rintro ⟨hx | hx, hle⟩
    · exact hx
    · have := hbelow x hx
      omega
  · rintro ⟨hx | hx, hlt⟩
    · have := hmember x hx
      omega
    · exact hx

theorem complete_perm (t : Tarjan) (v : Nat) :
    ((t.complete v).stack ++ (t.complete v).components.flatten).Perm
      (t.stack ++ t.components.flatten) := by
  have hmembers : ((popThrough v t.stack).1.mergeSort).Perm (popThrough v t.stack).1 :=
    List.mergeSort_perm _ _
  change ((popThrough v t.stack).2 ++
    ((popThrough v t.stack).1.mergeSort ++ t.components.flatten)).Perm _
  have hsplit := popThrough_append v t.stack
  generalize (popThrough v t.stack).1 = members at *
  generalize (popThrough v t.stack).2 = rest at *
  have hmoved : (rest ++ (members ++ t.components.flatten)).Perm
      ((members ++ rest) ++ t.components.flatten) := by
    rw [← List.append_assoc]
    exact List.perm_append_comm.append_right _
  rw [← hsplit]
  exact ((hmembers.append_right _).append_left _).trans hmoved

theorem complete (h : Consistent n t) (hv : v ∈ t.stack) : Consistent n (t.complete v) where
  size_index := h.size_index
  size_lowlink := h.size_lowlink
  size_onStack := by
    have hsize : ∀ (members : List Nat) (on : Array Bool),
        (members.foldl (fun on w => on.setIfInBounds w false) on).size = on.size := by
      intro members
      induction members with
      | nil => simp
      | cons m members ih => intro on; simp [ih]
    simpa [Tarjan.complete, hsize] using h.size_onStack
  isOnStack_iff x := by
    rw [isOnStack_complete, h.isOnStack_iff, (h.mem_popThrough hv x).1]
    change _ ↔ x ∈ (popThrough v t.stack).2
    rw [(h.mem_popThrough hv x).2, not_and, Nat.not_le]
    exact ⟨fun ⟨hx, hlt⟩ => ⟨hx, hlt hx⟩, fun ⟨hx, hlt⟩ => ⟨hx, fun _ => hlt⟩⟩
  entered_iff x := by
    rw [index?_complete, h.entered_iff, (complete_perm t v).mem_iff]
  num_lt := h.num_lt
  nodup := (complete_perm t v).nodup_iff.mpr h.nodup
  descending := by
    have hsub : (popThrough v t.stack).2.Sublist t.stack := by
      conv_rhs => rw [← popThrough_append v t.stack]
      exact List.sublist_append_right _ _
    exact h.descending.sublist hsub

end Consistent

end Consistency

end DeltaDebugging.Graph.Tarjan
