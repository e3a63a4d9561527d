import DeltaDebugging.Cut
import Mathlib.Data.List.Nodup
import Mathlib.Data.List.FinRange

/-!
# Cuts and their masks

A cut read off a mask keeps the order of the items on both sides and loses none. The
mask that keeps a list of positions is set exactly there, so the retained items can be
read off the positions when these are ascending.
-/
namespace DeltaDebugging

/-- Every position that the first mask retains is retained by the second. -/
def Within (mask committed : List Bool) : Prop :=
  ∀ i : Nat, mask[i]? = some true → committed[i]? = some true

namespace Cut

variable {α β : Type}

attribute [local simp] ofMask

theorem ofMask_map (f : α → β) (items : List α) (mask : List Bool) :
    ofMask (items.map f) mask = (ofMask items mask).map f := by
  fun_induction ofMask items mask with
  | case1 a items mask c ih => simp [ih, map, c]
  | case2 a items mask c ih => simp [ih, map, c]
  | case3 items mask => cases items <;> simp_all [map, empty]

theorem ofMask_filter (items : List α) (p : α → Bool) :
    ofMask items (items.map p) = ⟨items.filter p, items.filter fun a => !p a⟩ := by
  induction items with
  | nil => rfl
  | cons a items ih => cases h : p a <;> simp [h, ih]

theorem ofMask_replicate_true (items : List α) :
    ofMask items (List.replicate items.length true) = ⟨items, []⟩ := by
  simpa using ofMask_filter items fun _ => true

theorem ofMask_replicate_false (items : List α) :
    ofMask items (List.replicate items.length false) = ⟨[], items⟩ := by
  simpa using ofMask_filter items fun _ => false

theorem ofMask_retained_sublist (items : List α) (mask : List Bool) :
    (ofMask items mask).retained.Sublist items := by
  fun_induction ofMask items mask with
  | case1 a items mask c ih => exact ih.cons_cons a
  | case2 a items mask c ih => exact ih.cons a
  | case3 items mask => simp [empty]

theorem ofMask_deleted_sublist (items : List α) (mask : List Bool) :
    (ofMask items mask).deleted.Sublist items := by
  fun_induction ofMask items mask with
  | case1 a items mask c ih => exact ih.cons a
  | case2 a items mask c ih => exact ih.cons_cons a
  | case3 items mask => simp [empty]

/-- If no item is there twice, the retained items say which are deleted. -/
theorem ofMask_eq_of_retained_eq {items : List α} {mask mask' : List Bool} (hitems : items.Nodup)
    (hlen : mask.length = items.length) (hlen' : mask'.length = items.length)
    (h : (ofMask items mask).retained = (ofMask items mask').retained) :
    ofMask items mask = ofMask items mask' := by
  induction items generalizing mask mask' with
  | nil => simp
  | cons a items ih =>
    obtain ⟨ha, hitems⟩ := List.nodup_cons.mp hitems
    have hnot : ∀ mask, a ∉ (ofMask items mask).retained := fun mask hmem =>
      ha ((ofMask_retained_sublist items mask).subset hmem)
    match mask, mask', hlen, hlen' with
    | true :: mask, true :: mask', hlen, hlen' =>
      have htail := ih hitems (Nat.succ.inj hlen) (Nat.succ.inj hlen') (List.cons.inj h).2
      simp only [ofMask, htail]
    | true :: mask, false :: mask', _, _ =>
      have h : a :: (ofMask items mask).retained = (ofMask items mask').retained := h
      exact absurd (h ▸ List.mem_cons_self) (hnot mask')
    | false :: mask, true :: mask', _, _ =>
      have h : (ofMask items mask).retained = a :: (ofMask items mask').retained := h
      exact absurd (h ▸ List.mem_cons_self) (hnot mask)
    | false :: mask, false :: mask', hlen, hlen' =>
      have htail := ih hitems (Nat.succ.inj hlen) (Nat.succ.inj hlen') h
      simp only [ofMask, htail]

theorem ofMask_perm {items : List α} {mask : List Bool} (h : mask.length = items.length) :
    ((ofMask items mask).retained ++ (ofMask items mask).deleted).Perm items := by
  induction items generalizing mask with
  | nil => simp [empty]
  | cons a items ih =>
    match mask, h with
    | true :: mask, h => simpa using ih (Nat.succ.inj h)
    | false :: mask, h => exact List.perm_middle.trans ((ih (Nat.succ.inj h)).cons a)

theorem length_ofMask_retained {items : List α} {mask : List Bool}
    (h : mask.length = items.length) : (ofMask items mask).retained.length = mask.count true := by
  induction items generalizing mask with
  | nil => simp [List.eq_nil_of_length_eq_zero h, ofMask, empty]
  | cons a items ih =>
    match mask, h with
    | true :: mask, h => simp [ih (Nat.succ.inj h)]
    | false :: mask, h => simp [ih (Nat.succ.inj h)]

theorem mem_ofMask_retained {items : List α} {mask : List Bool} {a : α} :
    a ∈ (ofMask items mask).retained ↔ ∃ i : Nat, items[i]? = some a ∧ mask[i]? = some true := by
  induction items generalizing mask with
  | nil => simp [empty]
  | cons b items ih =>
    rw [← Nat.or_exists_add_one]
    match mask with
    | [] => simp [empty]
    | true :: mask => simp [ih, eq_comm]
    | false :: mask => simp [ih]

theorem ofMask_retained_subset {items : List α} {mask committed : List Bool}
    (h : Within mask committed) :
    (ofMask items mask).retained ⊆ (ofMask items committed).retained := by
  intro a ha
  obtain ⟨i, hi, hmask⟩ := mem_ofMask_retained.mp ha
  exact mem_ofMask_retained.mpr ⟨i, hi, h i hmask⟩

theorem getElem?_mark (mask : Array Bool) (positions : List Nat) (value : Bool) (i : Nat) :
    (mark mask positions value)[i]? =
      if i ∈ positions ∧ i < mask.size then some value else mask[i]? := by
  unfold mark
  induction positions generalizing mask with
  | nil => simp
  | cons k positions ih =>
    rw [List.foldl_cons, ih, Array.size_setIfInBounds, Array.getElem?_setIfInBounds]
    by_cases hk : k = i
    · subst hk
      by_cases hi : k < mask.size
      · simp [hi]
      · simp [hi]
    · simp [hk, Ne.symm hk]

theorem maskOf_eq (n : Nat) (kept : List Nat) :
    maskOf n kept = (List.range n).map fun i => decide (i ∈ kept) := by
  apply List.ext_getElem?
  intro i
  rw [maskOf, Array.getElem?_toList, getElem?_mark, List.getElem?_map, Array.getElem?_replicate]
  by_cases hi : i < n <;> by_cases hk : i ∈ kept <;> simp [hi, hk]

@[simp] theorem length_maskOf (n : Nat) (kept : List Nat) : (maskOf n kept).length = n := by
  simp [maskOf_eq]

theorem getElem?_maskOf {n i : Nat} {kept : List Nat} :
    (maskOf n kept)[i]? = some true ↔ i < n ∧ i ∈ kept := by
  by_cases hi : i < n <;> simp [maskOf_eq, hi]

theorem within_maskOf {n : Nat} {kept current : List Nat} (h : kept ⊆ current) :
    Within (maskOf n kept) (maskOf n current) := by
  intro i hi
  obtain ⟨hn, hk⟩ := getElem?_maskOf.mp hi
  exact getElem?_maskOf.mpr ⟨hn, h hk⟩

theorem maskOf_range (n : Nat) : maskOf n (List.range n) = List.replicate n true := by
  rw [maskOf_eq, List.eq_replicate_iff]
  simp

theorem filter_mem_eq_of_sublist {kept l : List α} [DecidableEq α] (hl : l.Nodup)
    (h : kept.Sublist l) : (l.filter fun a => decide (a ∈ kept)) = kept := by
  induction h with
  | slnil => rfl
  | @cons kept l a h ih =>
    obtain ⟨ha, hl⟩ := List.nodup_cons.mp hl
    have hk : a ∉ kept := fun hk => ha (h.subset hk)
    rw [List.filter_cons_of_neg (by simpa using hk), ih hl]
  | @cons_cons kept l a h ih =>
    obtain ⟨ha, hl⟩ := List.nodup_cons.mp hl
    have hrest : ∀ b ∈ l, decide (b ∈ a :: kept) = decide (b ∈ kept) := by
      intro b hb
      have : b ≠ a := fun hba => ha (hba ▸ hb)
      simp [this]
    rw [List.filter_cons_of_pos (by simp), List.filter_congr hrest, ih hl]

theorem count_maskOf {n : Nat} {kept : List Nat} (hkept : kept.Nodup) (hlt : ∀ i ∈ kept, i < n) :
    (maskOf n kept).count true = kept.length := by
  have hperm : ((List.range n).filter fun i => decide (i ∈ kept)).Perm kept := by
    rw [List.perm_ext_iff_of_nodup (List.nodup_range.filter _) hkept]
    intro i
    simpa using hlt i
  rw [← hperm.length_eq, maskOf_eq, List.count, List.countP_map, List.countP_eq_length_filter]
  congr 1
  exact List.filter_congr fun i _ => by simp

theorem maskOf_congr {n : Nat} {kept kept' : List Nat} (h : ∀ i, i ∈ kept ↔ i ∈ kept') :
    maskOf n kept = maskOf n kept' := by
  simp only [maskOf_eq, h]

theorem getElem?_toList_mark {n : Nat} {mask : Array Bool} {kept : List Nat}
    (hmask : mask.toList = maskOf n kept) (group : List Nat) (value : Bool) (i : Nat) :
    (mark mask group value).toList[i]? =
      if i ∈ group ∧ i < n then some value else (maskOf n kept)[i]? := by
  have hsize : mask.size = n := by rw [← Array.length_toList, hmask, length_maskOf]
  rw [← hmask, Array.getElem?_toList, Array.getElem?_toList, getElem?_mark, hsize]

theorem toList_mark_false {n : Nat} {mask : Array Bool} {kept group : List Nat}
    (hmask : mask.toList = maskOf n (kept ++ group)) (hdisjoint : ∀ i ∈ kept, i ∉ group) :
    (mark mask group false).toList = maskOf n kept := by
  apply List.ext_getElem?
  intro i
  rw [getElem?_toList_mark hmask]
  by_cases hn : i < n
  · by_cases hg : i ∈ group
    · have hk : i ∉ kept := fun hk => hdisjoint i hk hg
      simp [maskOf_eq, hn, hg, hk]
    · simp [maskOf_eq, hn, hg]
  · simp [maskOf_eq, hn]

theorem toList_mark_true {n : Nat} {mask : Array Bool} {kept : List Nat}
    (hmask : mask.toList = maskOf n kept) (group : List Nat) :
    (mark mask group true).toList = maskOf n (kept ++ group) := by
  apply List.ext_getElem?
  intro i
  rw [getElem?_toList_mark hmask]
  by_cases hn : i < n <;> by_cases hg : i ∈ group <;> simp [maskOf_eq, hn, hg]

theorem keeping_eq (items : List α) (kept : List Nat) :
    keeping items kept =
      (ofMask (List.finRange items.length)
        ((List.finRange items.length).map fun i => decide (i.val ∈ kept))).map items.get := by
  rw [← ofMask_map, List.map_get_finRange, keeping, maskOf_eq]
  congr 1
  apply List.ext_getElem <;> simp

theorem keeping_retained (items : List α) (kept : List Nat) :
    (keeping items kept).retained =
      ((List.finRange items.length).filter fun i => decide (i.val ∈ kept)).map items.get := by
  rw [keeping_eq, ofMask_filter, map]

theorem positions_eq {n : Nat} {kept : List Nat} (h : kept.Sublist (List.range n)) :
    ((List.finRange n).filter fun i => decide (i.val ∈ kept)).map Fin.val = kept := by
  conv_rhs => rw [← filter_mem_eq_of_sublist List.nodup_range h]
  rw [← List.map_coe_finRange_eq_range, List.filter_map]
  rfl

theorem length_keeping_retained {items : List α} {kept : List Nat}
    (h : kept.Sublist (List.range items.length)) :
    (keeping items kept).retained.length = kept.length := by
  rw [keeping, length_ofMask_retained (by simp), count_maskOf (h.nodup List.nodup_range)
    fun i hi => List.mem_range.mp (h.subset hi)]

theorem map_eraseIdx (f : α → β) (l : List α) (i : Nat) :
    (l.eraseIdx i).map f = (l.map f).eraseIdx i := by
  simp [List.eraseIdx_eq_take_drop_succ]

theorem keeping_retained_eraseIdx {items : List α} {kept : List Nat}
    (h : kept.Sublist (List.range items.length)) (i : Nat) :
    (keeping items (kept.eraseIdx i)).retained = (keeping items kept).retained.eraseIdx i := by
  rw [keeping_retained, keeping_retained, ← map_eraseIdx]
  congr 1
  apply List.map_injective_iff.mpr Fin.val_injective
  rw [map_eraseIdx, positions_eq h, positions_eq ((List.eraseIdx_sublist kept i).trans h)]

end Cut

end DeltaDebugging
