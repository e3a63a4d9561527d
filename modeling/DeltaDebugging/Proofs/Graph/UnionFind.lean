import DeltaDebugging.Graph.UnionFind
import Mathlib.Data.List.Induction
import Mathlib.Data.List.Nodup
import Mathlib.Data.List.Perm.Subperm
import Mathlib.Logic.Relation

/-!
# Disjoint sets are equivalence classes

Every walk up a forest ends, because the rank grows on the way, and it ends at one root.
Shortening a path keeps all roots; hanging one root below another gives its tree to the
other. So after any unions two elements have the same root exactly if the pairs united
link them, and the groups are the sets of elements with one root that are not alone.
-/
namespace DeltaDebugging.UnionFind

variable {parent : Array Nat} {rank : Nat → Nat} {u : UnionFind} {x y z r s : Nat}

/-- The walk from `x` up ends at the root `r`. -/
inductive Climbs (parent : Array Nat) : Nat → Nat → Prop
  | root {x : Nat} : up parent x = x → Climbs parent x x
  | step {x r : Nat} : up parent x ≠ x → Climbs parent (up parent x) r → Climbs parent x r

namespace Climbs

theorem unique (h : Climbs parent x r) (h' : Climbs parent x s) : r = s := by
  induction h with
  | root hx =>
    cases h' with
    | root => rfl
    | step hne => exact absurd hx hne
  | step hne _ ih =>
    cases h' with
    | root hx => exact absurd hx hne
    | step _ h' => exact ih h'

theorem up_eq (h : Climbs parent x r) : up parent r = r := by
  induction h with
  | root hx => exact hx
  | step _ _ ih => exact ih

end Climbs

theorem lt_of_up_ne (h : up parent x ≠ x) : x < parent.size := by
  by_contra hge
  simp [up, hge] at h

theorem getD_set {a : Array Nat} (hx : x < a.size) (y d : Nat) :
    (a.setIfInBounds x r).getD y d = if y = x then r else a.getD y d := by
  simp only [Array.getD_eq_getD_getElem?, Array.getElem?_setIfInBounds]
  by_cases hy : y = x
  · subst hy
    simp [hx]
  · simp [hy, Ne.symm hy]

theorem up_set (hx : x < parent.size) (y : Nat) :
    up (parent.setIfInBounds x r) y = if y = x then r else up parent y :=
  getD_set hx y y

/-- Parents are elements, and a parent has a higher rank than its child. -/
structure Forest (rank : Nat → Nat) (parent : Array Nat) : Prop where
  up_lt : ∀ x < parent.size, up parent x < parent.size
  rank_lt : ∀ x, up parent x ≠ x → rank x < rank (up parent x)

namespace Forest

/-- The elements of higher rank than `x`. -/
def above (rank : Nat → Nat) (n x : Nat) : List Nat :=
  (List.range n).filter fun y => rank x < rank y

theorem above_up_lt (h : Forest rank parent) (hx : up parent x ≠ x) :
    (above rank parent.size (up parent x)).length < (above rank parent.size x).length := by
  have hrank := h.rank_lt x hx
  have hup : up parent x ∉ above rank parent.size (up parent x) := by simp [above]
  have hsub : up parent x :: above rank parent.size (up parent x) ⊆ above rank parent.size x := by
    intro y hy
    rcases List.mem_cons.mp hy with rfl | hy
    · simp [above, hrank, h.up_lt x (lt_of_up_ne hx)]
    · simp only [above, List.mem_filter, decide_eq_true_eq] at hy ⊢
      exact ⟨hy.1, by omega⟩
  have hnodup : (up parent x :: above rank parent.size (up parent x)).Nodup :=
    List.nodup_cons.mpr ⟨hup, List.nodup_range.filter _⟩
  exact (List.subperm_of_subset hnodup hsub).length_le

theorem climbs_rootWithin (h : Forest rank parent) {steps : Nat}
    (hsteps : (above rank parent.size x).length ≤ steps) :
    Climbs parent x (rootWithin parent steps x) := by
  induction steps generalizing x with
  | zero =>
    by_cases hx : up parent x = x
    · exact .root hx
    · have := h.above_up_lt hx
      omega
  | succ steps ih =>
    unfold rootWithin
    split
    · next hx => exact .root hx
    · next hx =>
      have := h.above_up_lt hx
      exact .step hx (ih (by omega))

theorem rank_le (h : Forest rank parent) (hx : Climbs parent x r) : rank x ≤ rank r := by
  induction hx with
  | root => exact Nat.le_refl _
  | @step x r hne _ ih =>
    have := h.rank_lt x hne
    omega

theorem lt_size (h : Forest rank parent) (hx : Climbs parent x r) (hlt : x < parent.size) :
    r < parent.size := by
  induction hx with
  | root => exact hlt
  | step _ _ ih => exact ih (h.up_lt _ hlt)

theorem set (h : Forest rank parent) (hx : x < parent.size) (hr : r < parent.size)
    (hrank : rank x < rank r) : Forest rank (parent.setIfInBounds x r) where
  up_lt y hy := by
    rw [Array.size_setIfInBounds] at hy ⊢
    rw [up_set hx]
    split
    · exact hr
    · exact h.up_lt y hy
  rank_lt y hy := by
    rw [up_set hx] at hy ⊢
    split
    · next heq => rwa [heq]
    · next hne =>
      rw [if_neg hne] at hy
      exact h.rank_lt y hy

end Forest

section Compress

/-- An element pointed at its root leaves every walk where it ended before. -/
theorem Climbs.redirect (hx : Climbs parent x r) (hne : up parent x ≠ x)
    (hy : Climbs parent y s) : Climbs (parent.setIfInBounds x r) y s := by
  have hlt := lt_of_up_ne hne
  have hrx : r ≠ x := fun heq => hne (heq ▸ hx.up_eq)
  have hroot : Climbs (parent.setIfInBounds x r) r r :=
    .root (by rw [up_set hlt, if_neg hrx, hx.up_eq])
  induction hy with
  | @root y hy =>
    have hyx : y ≠ x := fun heq => hne (heq ▸ hy)
    exact .root (by rw [up_set hlt, if_neg hyx, hy])
  | @step y s hney hy ih =>
    by_cases hyx : y = x
    · subst hyx
      obtain rfl := hx.unique (.step hney hy)
      have hup : up (parent.setIfInBounds y r) y = r := by rw [up_set hlt, if_pos rfl]
      exact .step (by rwa [hup]) (by rwa [hup])
    · have hup : up (parent.setIfInBounds x r) y = up parent y := by rw [up_set hlt, if_neg hyx]
      exact .step (by rwa [hup]) (by rwa [hup])

theorem size_compress (steps : Nat) : (compress r steps parent x).size = parent.size := by
  induction steps generalizing parent x with
  | zero => rfl
  | succ steps ih =>
    unfold compress
    split
    · rfl
    · rw [ih, Array.size_setIfInBounds]

theorem Forest.compress (h : Forest rank parent) (hx : Climbs parent x r) (steps : Nat) :
    Forest rank (compress r steps parent x) ∧
      ∀ y s, Climbs parent y s → Climbs (UnionFind.compress r steps parent x) y s := by
  induction steps generalizing parent x with
  | zero => exact ⟨h, fun _ _ hy => hy⟩
  | succ steps ih =>
    unfold UnionFind.compress
    split
    · exact ⟨h, fun _ _ hy => hy⟩
    · next hup =>
      cases hx with
      | root hroot => exact absurd hroot hup
      | step hne hrest =>
        have hlt := lt_of_up_ne hne
        have hr := h.lt_size hrest (h.up_lt x hlt)
        have hrank := Nat.lt_of_lt_of_le (h.rank_lt x hne) (h.rank_le hrest)
        have hkeeps : ∀ {y s}, Climbs parent y s → Climbs (parent.setIfInBounds x r) y s :=
          Climbs.redirect (.step hne hrest) hne
        obtain ⟨hforest, hclimbs⟩ := ih (h.set hlt hr hrank) (hkeeps hrest)
        exact ⟨hforest, fun y s hy => hclimbs y s (hkeeps hy)⟩

end Compress

section Sets

/-- The ranks kept with the forest order it. -/
structure WF (u : UnionFind) : Prop where
  size_rank : u.rank.size = u.parent.size
  forest : Forest (fun x => u.rank.getD x 0) u.parent

theorem wf_singletons (n : Nat) : (singletons n).WF := by
  have hup : ∀ x, up (singletons n).parent x = x := by
    intro x
    by_cases hx : x < n <;> simp [up, singletons, hx]
  refine ⟨by simp [singletons], fun x hx => ?_, fun x hx => absurd (hup x) hx⟩
  rwa [hup]

@[simp] theorem size_singletons (n : Nat) : (singletons n).size = n := by
  simp [size, singletons]

theorem root_singletons (n x : Nat) : (singletons n).root x = x := by
  have hup : up (singletons n).parent x = x := by
    by_cases hx : x < n <;> simp [up, singletons, hx]
  unfold root
  cases (singletons n).size with
  | zero => rfl
  | succ steps => exact if_pos hup

namespace WF

variable (h : u.WF)

include h

theorem climbs_root (x : Nat) : Climbs u.parent x (u.root x) := by
  refine h.forest.climbs_rootWithin (Nat.le_trans (List.length_filter_le _ _) ?_)
  simp [size]

theorem root_eq (hx : Climbs u.parent x r) : u.root x = r := (h.climbs_root x).unique hx

theorem root_lt (hx : x < u.size) : u.root x < u.size := h.forest.lt_size (h.climbs_root x) hx

theorem root_root (x : Nat) : u.root (u.root x) = u.root x :=
  h.root_eq (.root (h.climbs_root x).up_eq)

end WF

/-- A forest with the same roots, which differs in the paths to them at most. -/
structure Alike (u v : UnionFind) : Prop where
  wf : v.WF
  size : v.size = u.size
  root : ∀ x, v.root x = u.root x
  rank : ∀ x, v.rank.getD x 0 = u.rank.getD x 0
  setCount : v.setCount = u.setCount

namespace Alike

theorem refl (h : u.WF) : Alike u u := ⟨h, rfl, fun _ => rfl, fun _ => rfl, rfl⟩

theorem symm {v : UnionFind} (h : u.WF) (hv : Alike u v) : Alike v u :=
  ⟨h, hv.size.symm, fun x => (hv.root x).symm, fun x => (hv.rank x).symm, hv.setCount.symm⟩

theorem trans {v w : UnionFind} (h : Alike u v) (h' : Alike v w) : Alike u w :=
  ⟨h'.wf, h'.size.trans h.size, fun x => (h'.root x).trans (h.root x),
    fun x => (h'.rank x).trans (h.rank x), h'.setCount.trans h.setCount⟩

end Alike

theorem WF.find (h : u.WF) (x : Nat) : Alike u (u.find x).2 := by
  obtain ⟨hforest, hclimbs⟩ := h.forest.compress (h.climbs_root x) u.size
  have hwf : (u.find x).2.WF :=
    ⟨by simpa [UnionFind.find, size_compress] using h.size_rank, hforest⟩
  exact ⟨hwf, size_compress _, fun y => hwf.root_eq (hclimbs y _ (h.climbs_root y)), fun _ => rfl,
    rfl⟩

@[simp] theorem size_find (u : UnionFind) (x : Nat) : (u.find x).2.size = u.size :=
  size_compress _

@[simp] theorem size_link (u : UnionFind) (x y : Nat) : (u.link x y).size = u.size :=
  Array.size_setIfInBounds

theorem Climbs.hang (hx : up parent x = x) (hy : up parent y = y) (hne : x ≠ y)
    (hlt : y < parent.size) (hz : Climbs parent z s) :
    Climbs (parent.setIfInBounds y x) z (if s = y then x else s) := by
  have hroot : Climbs (parent.setIfInBounds y x) x x :=
    .root (by rw [up_set hlt, if_neg hne, hx])
  induction hz with
  | @root z hz =>
    by_cases hzy : z = y
    · subst hzy
      have hup : up (parent.setIfInBounds z x) z = x := by rw [up_set hlt, if_pos rfl]
      rw [if_pos rfl]
      exact .step (by rwa [hup]) (by rwa [hup])
    · rw [if_neg hzy]
      exact .root (by rw [up_set hlt, if_neg hzy, hz])
  | @step z s hnez _ ih =>
    have hzy : z ≠ y := fun heq => hnez (heq ▸ hy)
    have hup : up (parent.setIfInBounds y x) z = up parent z := by rw [up_set hlt, if_neg hzy]
    exact .step (by rwa [hup]) (by rwa [hup])

theorem Forest.hang {rank' : Nat → Nat} (h : Forest rank parent) (hx : up parent x = x)
    (hxlt : x < parent.size) (hylt : y < parent.size)
    (hsame : ∀ z ≠ x, rank' z = rank z) (hle : rank x ≤ rank' x) (hlt : rank y < rank' x)
    (hne : x ≠ y) : Forest rank' (parent.setIfInBounds y x) where
  up_lt z hz := by
    rw [Array.size_setIfInBounds] at hz ⊢
    rw [up_set hylt]
    split
    · exact hxlt
    · exact h.up_lt z hz
  rank_lt z hz := by
    rw [up_set hylt] at hz ⊢
    split
    · next heq =>
      rw [heq, hsame y hne.symm]
      exact hlt
    · next hzy =>
      rw [if_neg hzy] at hz
      have hzx : z ≠ x := fun heq => hz (heq ▸ hx)
      have hup := h.rank_lt z hz
      rw [hsame z hzx]
      by_cases hux : up parent z = x
      · rw [hux] at hup ⊢
        omega
      · rwa [hsame _ hux]

namespace WF

variable (h : u.WF)

include h

theorem up_of_root (hx : u.root x = x) : up u.parent x = x := by
  have hclimbs := h.climbs_root x
  rw [hx] at hclimbs
  exact hclimbs.up_eq

end WF

/-- The root `y` of `u` is hung below the root `x`, whose rank is not lower. If the ranks are
equal, that of `x` grows by one. -/
structure Hung (u : UnionFind) (x y : Nat) (v : UnionFind) : Prop where
  parent : v.parent = u.parent.setIfInBounds y x
  setCount : v.setCount = u.setCount - 1
  size_rank : v.rank.size = u.rank.size
  rank : ∀ z, v.rank.getD z 0 =
    if z = x ∧ u.rank.getD y 0 = u.rank.getD x 0 then u.rank.getD x 0 + 1 else u.rank.getD z 0
  rank_le : u.rank.getD y 0 ≤ u.rank.getD x 0

namespace Hung

variable {v : UnionFind}

variable (hung : Hung u x y v) (h : u.WF) (hx : u.root x = x) (hxlt : x < u.size)
  (hylt : y < u.size) (hne : x ≠ y)

include hung h hx hxlt hylt hne

theorem wf : v.WF := by
  have hrank := hung.rank
  refine ⟨?_, ?_⟩
  · rw [hung.size_rank, hung.parent, Array.size_setIfInBounds, h.size_rank]
  · rw [hung.parent]
    refine h.forest.hang (h.up_of_root hx) hxlt hylt (fun z hz => ?_) ?_ ?_ hne
    · rw [hrank, if_neg fun heq => hz heq.1]
    · rw [hrank]
      split <;> omega
    · have hle := hung.rank_le
      rw [hrank]
      split
      · next heq => omega
      · next hlt =>
        have hranks : u.rank.getD y 0 ≠ u.rank.getD x 0 := fun heq => hlt ⟨rfl, heq⟩
        omega

theorem root (hy : u.root y = y) (z : Nat) :
    v.root z = if u.root z = y then x else u.root z := by
  have hclimbs := Climbs.hang (h.up_of_root hx) (h.up_of_root hy) hne hylt (h.climbs_root z)
  rw [← hung.parent] at hclimbs
  exact (hung.wf h hx hxlt hylt hne).root_eq hclimbs

end Hung

/-- The root that stays one when two sets are united. -/
def upper (u : UnionFind) (x y : Nat) : Nat :=
  if u.rank.getD (u.root x) 0 < u.rank.getD (u.root y) 0 then u.root y else u.root x

theorem upper_eq_or (u : UnionFind) (x y : Nat) :
    u.upper x y = u.root x ∨ u.upper x y = u.root y := by
  unfold upper
  split
  · exact .inr rfl
  · exact .inl rfl

namespace WF

variable (h : u.WF)

include h

/-- A union looks for both roots. If they differ, it hangs the second below the first, unless the
first has a lower rank. -/
theorem exists_union_eq (hx : x < u.size) (y : Nat) :
    ∃ v, Alike u v ∧
      (u.root x = u.root y ∧ u.union x y = (u.root x, v) ∨
        u.root x ≠ u.root y ∧ ∃ r s v', u.union x y = (r, v') ∧ Hung v r s v' ∧
          (r = u.root x ∧ s = u.root y ∨
            r = u.root y ∧ s = u.root x ∧ v.rank.getD s 0 < v.rank.getD r 0)) := by
  have h₁ := h.find x
  have hv := h₁.trans (h₁.wf.find y)
  have hunion : u.union x y =
      let v := ((u.find x).2.find y).2
      if u.root x = u.root y then (u.root x, v)
      else if v.rank.getD (u.root x) 0 < v.rank.getD (u.root y) 0 then
        (u.root y, v.link (u.root y) (u.root x))
      else if v.rank.getD (u.root y) 0 < v.rank.getD (u.root x) 0 then
        (u.root x, v.link (u.root x) (u.root y))
      else
        (u.root x, { v.link (u.root x) (u.root y) with
          rank := v.rank.setIfInBounds (u.root x) (v.rank.getD (u.root x) 0 + 1) }) := by
    rw [← h₁.root y]
    rfl
  refine ⟨((u.find x).2.find y).2, hv, ?_⟩
  rw [hunion]
  generalize ((u.find x).2.find y).2 = v at hv
  dsimp only
  split
  · next heq => exact .inl ⟨heq, rfl⟩
  · next hne =>
    refine .inr ⟨hne, ?_⟩
    split
    · next hlt =>
      refine ⟨_, _, _, rfl, ⟨rfl, rfl, rfl, fun z => ?_, Nat.le_of_lt hlt⟩,
        .inr ⟨rfl, rfl, hlt⟩⟩
      exact (if_neg fun heq => Nat.ne_of_lt hlt heq.2).symm
    · next hge =>
      split
      · next hlt =>
        refine ⟨_, _, _, rfl, ⟨rfl, rfl, rfl, fun z => ?_, Nat.le_of_lt hlt⟩, .inl ⟨rfl, rfl⟩⟩
        exact (if_neg fun heq => Nat.ne_of_lt hlt heq.2).symm
      · next hle =>
        have hlt : u.root x < v.size := hv.size ▸ h.root_lt hx
        have hrank : u.root x < v.rank.size := hv.wf.size_rank ▸ hlt
        refine ⟨_, _, _, rfl, ⟨rfl, rfl, by simp, fun z => ?_, Nat.le_of_not_lt hge⟩,
          .inl ⟨rfl, rfl⟩⟩
        have heq : v.rank.getD (u.root y) 0 = v.rank.getD (u.root x) 0 := by omega
        rw [getD_set hrank]
        simp [heq]

/-- What a union does: the two sets have one root afterwards, and no other set has changed. -/
theorem union_spec (hx : x < u.size) (hy : y < u.size) :
    let v := (u.union x y).2
    v.WF ∧ (u.union x y).1 = u.upper x y ∧
      (∀ z, v.root z =
        if u.root z = u.root x ∨ u.root z = u.root y then u.upper x y else u.root z) ∧
      (∀ z, v.rank.getD z 0 =
        if u.root x ≠ u.root y ∧ u.rank.getD (u.root x) 0 = u.rank.getD (u.root y) 0 ∧ z = u.root x
        then u.rank.getD z 0 + 1 else u.rank.getD z 0) ∧
      v.setCount = if u.root x = u.root y then u.setCount else u.setCount - 1 := by
  obtain ⟨v, hv, ⟨heq, hunion⟩ | ⟨hne, r, s, v', hunion, hung, hroots⟩⟩ := h.exists_union_eq hx y
  · rw [hunion]
    refine ⟨hv.wf, ?_, fun z => ?_, fun z => ?_, ?_⟩
    · simp [upper, heq]
    · rw [hv.root]
      simp [upper, heq]
    · simp [hv.rank, heq]
    · simp [hv.setCount, heq]
  · have hroot : ∀ {z}, z < u.size → v.root (u.root z) = u.root z ∧ u.root z < v.size :=
      fun hz => ⟨by rw [hv.root, h.root_root], hv.size ▸ h.root_lt hz⟩
    obtain ⟨hxroot, hxlt⟩ := hroot hx
    obtain ⟨hyroot, hylt⟩ := hroot hy
    have hcount : v'.setCount = u.setCount - 1 := hung.setCount.trans (by rw [hv.setCount])
    have hrank := hung.rank
    have hle := hung.rank_le
    simp only [hv.rank] at hrank hle hroots
    rw [hunion, if_neg hne]
    rcases hroots with ⟨rfl, rfl⟩ | ⟨rfl, rfl, hlt⟩
    · have hupper : u.upper x y = u.root x := if_neg (by omega)
      refine ⟨hung.wf hv.wf hxroot hxlt hylt hne, hupper.symm, fun z => ?_, fun z => ?_, hcount⟩
      · rw [hung.root hv.wf hxroot hxlt hylt hne hyroot, hv.root, hupper]
        grind
      · rw [hrank]
        grind
    · have hupper : u.upper x y = u.root y := if_pos hlt
      refine ⟨hung.wf hv.wf hyroot hylt hxlt hne.symm, hupper.symm, fun z => ?_, fun z => ?_,
        hcount⟩
      · rw [hung.root hv.wf hyroot hylt hxlt hne.symm hxroot, hv.root, hupper]
        grind
      · rw [hrank]
        grind

theorem root_union (hx : x < u.size) (hy : y < u.size) (z : Nat) :
    (u.union x y).2.root z =
      if u.root z = u.root x ∨ u.root z = u.root y then u.upper x y else u.root z :=
  (h.union_spec hx hy).2.2.1 z

/-- Only elements of the two sets get a root in common that they had not. -/
theorem root_union_iff (hx : x < u.size) (hy : y < u.size) {z w : Nat} :
    (u.union x y).2.root z = (u.union x y).2.root w ↔
      u.root z = u.root w ∨ (u.root z = u.root x ∨ u.root z = u.root y) ∧
        (u.root w = u.root x ∨ u.root w = u.root y) := by
  have hone := u.upper_eq_or x y
  rw [h.root_union hx hy, h.root_union hx hy]
  split_ifs with hz hw hw
  · exact ⟨fun _ => .inr ⟨hz, hw⟩, fun _ => rfl⟩
  · constructor
    · exact fun heq => absurd (hone.imp (heq ▸ ·) (heq ▸ ·)) hw
    · exact fun heq => heq.elim (fun heq => absurd (heq ▸ hz) hw) fun heq => absurd heq.2 hw
  · constructor
    · exact fun heq => absurd (hone.imp (heq ▸ ·) (heq ▸ ·)) hz
    · exact fun heq => heq.elim (fun heq => absurd (heq ▸ hw) hz) fun heq => absurd heq.1 hz
  · exact ⟨.inl, fun heq => heq.resolve_right fun heq => hz heq.1⟩

end WF

@[simp] theorem size_union (u : UnionFind) (x y : Nat) : (u.union x y).2.size = u.size := by
  unfold union
  dsimp only
  split_ifs
  · simp
  · simp
  · simp
  · exact (size_link _ _ _).trans (by simp)

end Sets

section Unions

open Relation (EqvGen)

variable {pairs : List (Nat × Nat)} {n : Nat} {l : List Nat}

def unions (u : UnionFind) (pairs : List (Nat × Nat)) : UnionFind :=
  pairs.foldl (fun sets e => (sets.union e.1 e.2).2) u

theorem root_eq_of_eqvGen (hpairs : ∀ e ∈ pairs, u.root e.1 = u.root e.2) {z w : Nat}
    (h : EqvGen (fun x y => (x, y) ∈ pairs) z w) : u.root z = u.root w :=
  (eq_equivalence.comap u.root).eqvGen_iff.mp (h.mono fun _ _ he => hpairs _ he)

/-- Two elements have the same root exactly if the pairs united link them. -/
theorem unions_singletons (hlt : ∀ e ∈ pairs, e.1 < n ∧ e.2 < n) :
    ((singletons n).unions pairs).WF ∧ ((singletons n).unions pairs).size = n ∧
      ∀ z w, ((singletons n).unions pairs).root z = ((singletons n).unions pairs).root w ↔
        EqvGen (fun x y => (x, y) ∈ pairs) z w := by
  induction pairs using List.reverseRecOn with
  | nil =>
    refine ⟨wf_singletons n, size_singletons n, fun z w => ⟨fun h => ?_,
      root_eq_of_eqvGen (by simp)⟩⟩
    simp only [unions, List.foldl_nil, root_singletons] at h
    exact h ▸ .refl z
  | append_singleton pairs e ih =>
    obtain ⟨hwf, hsize, hroot⟩ := ih fun e he => hlt e (List.mem_append_left _ he)
    obtain ⟨hx, hy⟩ := hlt e (by simp)
    rw [unions, List.foldl_append, List.foldl_cons, List.foldl_nil, ← unions]
    generalize (singletons n).unions pairs = v at hwf hsize hroot
    rw [← hsize] at hx hy
    refine ⟨(hwf.union_spec hx hy).1, (size_union v _ _).trans hsize, fun z w => ⟨fun h => ?_, ?_⟩⟩
    · have hlinked : EqvGen (fun x y => (x, y) ∈ pairs ++ [e]) e.1 e.2 := .rel _ _ (by simp)
      have hkept {a b : Nat} (hab : v.root a = v.root b) :
          EqvGen (fun x y => (x, y) ∈ pairs ++ [e]) a b :=
        ((hroot a b).mp hab).mono fun _ _ he => List.mem_append_left _ he
      have hjoined {a : Nat} (ha : v.root a = v.root e.1 ∨ v.root a = v.root e.2) :
          EqvGen (fun x y => (x, y) ∈ pairs ++ [e]) a e.1 :=
        ha.elim hkept fun ha => .trans _ _ _ (hkept ha) (.symm _ _ hlinked)
      rcases (hwf.root_union_iff hx hy).mp h with h | ⟨hz, hw⟩
      · exact hkept h
      · exact .trans _ _ _ (hjoined hz) (.symm _ _ (hjoined hw))
    · refine root_eq_of_eqvGen fun e' he' => (hwf.root_union_iff hx hy).mpr ?_
      rcases List.mem_append.mp he' with he' | he'
      · exact .inl ((hroot _ _).mpr (.rel _ _ he'))
      · obtain rfl := List.mem_singleton.mp he'
        exact .inr ⟨.inl rfl, .inr rfl⟩

end Unions

section Groups

variable {root : Nat → Nat} {k : Nat} {groups : List (Nat × List Nat)}

theorem lookup_eq_some_iff {g : List Nat} (h : groups.Pairwise fun a b => a.1 < b.1) :
    groups.lookup r = some g ↔ (r, g) ∈ groups := by
  induction groups with
  | nil => simp
  | cons a groups ih =>
    obtain ⟨hfirst, hrest⟩ := List.pairwise_cons.mp h
    rw [List.lookup_cons, List.mem_cons]
    by_cases hr : r = a.1
    · subst hr
      have hout : (a.1, g) ∉ groups := fun hmem => Nat.lt_irrefl _ (hfirst (a.1, g) hmem)
      simp [hout, Prod.ext_iff, eq_comm]
    · simp [beq_eq_false_iff_ne.mpr hr, ih hrest, Prod.ext_iff, hr]

theorem lookup_eq_none_of_lt (h : ∀ b ∈ groups, r < b.1) : groups.lookup r = none :=
  List.lookup_eq_none_iff.mpr fun b hb => by simpa using Nat.ne_of_lt (h b hb)

theorem file_cons (r x : Nat) (a : Nat × List Nat) (groups : List (Nat × List Nat)) :
    file r x (a :: groups) =
      if r < a.1 then (r, [x]) :: a :: groups
      else if r = a.1 then (a.1, a.2 ++ [x]) :: groups
      else a :: file r x groups := rfl

theorem eq_or_exists_of_mem_file {g : Nat × List Nat} (hg : g ∈ file r x groups) :
    g.1 = r ∨ ∃ a ∈ groups, a.1 = g.1 := by
  induction groups with
  | nil =>
    obtain rfl := List.mem_singleton.mp hg
    exact .inl rfl
  | cons a groups ih =>
    rw [file_cons] at hg
    split_ifs at hg with hlt heq
    · rcases List.mem_cons.mp hg with rfl | hg
      · exact .inl rfl
      · exact .inr ⟨g, hg, rfl⟩
    · rcases List.mem_cons.mp hg with rfl | hg
      · exact .inl heq.symm
      · exact .inr ⟨g, List.mem_cons_of_mem _ hg, rfl⟩
    · rcases List.mem_cons.mp hg with rfl | hg
      · exact .inr ⟨g, List.mem_cons_self, rfl⟩
      · exact (ih hg).imp_right fun ⟨b, hb, heq⟩ => ⟨b, List.mem_cons_of_mem _ hb, heq⟩

theorem pairwise_file (h : groups.Pairwise fun a b => a.1 < b.1) :
    (file r x groups).Pairwise fun a b => a.1 < b.1 := by
  induction groups with
  | nil => exact List.pairwise_singleton _ _
  | cons a groups ih =>
    obtain ⟨hfirst, hrest⟩ := List.pairwise_cons.mp h
    rw [file_cons]
    split_ifs with hlt heq
    · refine List.pairwise_cons.mpr ⟨fun b hb => ?_, h⟩
      rcases List.mem_cons.mp hb with rfl | hb
      · exact hlt
      · exact Nat.lt_trans hlt (hfirst b hb)
    · exact List.pairwise_cons.mpr ⟨hfirst, hrest⟩
    · refine List.pairwise_cons.mpr ⟨fun b hb => ?_, ih hrest⟩
      rcases eq_or_exists_of_mem_file hb with hb | ⟨c, hc, hb⟩
      · rw [hb]
        exact Nat.lt_of_le_of_ne (Nat.le_of_not_lt hlt) (Ne.symm heq)
      · exact hb ▸ hfirst c hc

theorem lookup_file (h : groups.Pairwise fun a b => a.1 < b.1) (r' : Nat) :
    (file r x groups).lookup r' =
      if r' = r then some ((groups.lookup r).getD [] ++ [x]) else groups.lookup r' := by
  induction groups with
  | nil => by_cases hr : r' = r <;> simp [file, List.lookup_cons, hr, beq_eq_false_iff_ne.mpr]
  | cons a groups ih =>
    obtain ⟨hfirst, hrest⟩ := List.pairwise_cons.mp h
    rw [file_cons]
    by_cases hlt : r < a.1
    · have hnone : (a :: groups).lookup r = none := lookup_eq_none_of_lt fun b hb => by
        rcases List.mem_cons.mp hb with rfl | hb
        · exact hlt
        · exact Nat.lt_trans hlt (hfirst b hb)
      rw [if_pos hlt, List.lookup_cons, hnone]
      by_cases hr : r' = r <;> simp [hr, beq_eq_false_iff_ne.mpr]
    · by_cases heq : r = a.1
      · subst heq
        rw [if_neg hlt, if_pos rfl, List.lookup_cons, List.lookup_cons, List.lookup_cons]
        by_cases hr : r' = a.1 <;> simp [hr, beq_eq_false_iff_ne.mpr]
      · rw [if_neg hlt, if_neg heq, List.lookup_cons, List.lookup_cons, List.lookup_cons, ih hrest]
        by_cases hr : r' = a.1
        · simp [hr, Ne.symm heq]
        · simp [beq_eq_false_iff_ne.mpr hr, beq_eq_false_iff_ne.mpr heq]

/-- The elements below `k` with the root `r`, ascending. -/
def members (root : Nat → Nat) (k r : Nat) : List Nat :=
  (List.range k).filter fun y => decide (root y = r)

/-- The elements below `k` are filed under their roots. -/
structure Filed (root : Nat → Nat) (k : Nat) (groups : List (Nat × List Nat)) : Prop where
  ascending : groups.Pairwise fun a b => a.1 < b.1
  found : ∀ r, groups.lookup r = if members root k r = [] then none else some (members root k r)

theorem mem_members : y ∈ members root k r ↔ y < k ∧ root y = r := by
  simp [members]

theorem members_succ (root : Nat → Nat) (k r : Nat) :
    members root (k + 1) r = members root k r ++ if root k = r then [k] else [] := by
  rw [members, List.range_succ, List.filter_append]
  split <;> simp_all [members]

theorem Filed.file (h : Filed root k groups) : Filed root (k + 1) (file (root k) k groups) where
  ascending := pairwise_file h.ascending
  found r := by
    rw [lookup_file h.ascending, h.found, h.found, members_succ]
    by_cases hr : r = root k
    · subst hr
      by_cases hnil : members root k (root k) = [] <;> simp [hnil]
    · simp [hr, Ne.symm hr]

/-- Filing the elements in order leaves each group ascending. -/
theorem filed_range (root : Nat → Nat) (n : Nat) :
    Filed root n ((List.range n).foldl (fun groups x => UnionFind.file (root x) x groups) []) := by
  induction n with
  | zero => exact ⟨List.Pairwise.nil, fun r => by simp [members]⟩
  | succ n ih =>
    rw [List.range_succ, List.foldl_append, List.foldl_cons, List.foldl_nil]
    exact ih.file

/-- Each search finds the root that there was at first, and shortens paths at most. -/
theorem WF.fileAll (h : u.WF) (l : List Nat) (groups : List (Nat × List Nat)) :
    (fileAll l groups u).1 = l.foldl (fun groups x => file (u.root x) x groups) groups ∧
      Alike u (fileAll l groups u).2 := by
  induction l generalizing u groups with
  | nil => exact ⟨rfl, .refl h⟩
  | cons x l ih =>
    have hfind := h.find x
    have hroot : (u.find x).2.root = u.root := funext hfind.root
    obtain ⟨hall, halike⟩ := ih hfind.wf (file (u.root x) x groups)
    rw [hroot] at hall
    exact ⟨hall, hfind.trans halike⟩

theorem WF.filed (h : u.WF) :
    Filed u.root u.size (UnionFind.fileAll (List.range u.size) [] u).1 :=
  (h.fileAll (List.range u.size) []).1 ▸ filed_range u.root u.size

/-- Gathering the groups shortens paths at most. -/
theorem WF.gather (h : u.WF) : Alike u u.gather.2 := (h.fileAll _ _).2

theorem mem_filed (h : Filed root k groups) {g : List Nat} :
    (r, g) ∈ groups ↔ g ≠ [] ∧ g = members root k r := by
  rw [← lookup_eq_some_iff h.ascending, h.found]
  split
  · next hnil => simp [hnil]
  · next hne =>
    rw [Option.some_inj, eq_comm, iff_and_self]
    exact fun heq => heq ▸ hne

theorem perm_place (g : List Nat) (l : List (List Nat)) : (place g l).Perm (g :: l) := by
  induction l with
  | nil => exact .refl _
  | cons a l ih =>
    unfold place
    split
    · exact .refl _
    · exact (ih.cons a).trans (.swap g a l)

theorem perm_foldr_place (l : List (List Nat)) : (l.foldr place []).Perm l := by
  induction l with
  | nil => exact .refl _
  | cons g l ih => exact (perm_place g _).trans (ih.cons g)

theorem pairwise_place {g : List Nat} {l : List (List Nat)}
    (h : l.Pairwise fun g g' => g.headD 0 ≤ g'.headD 0) :
    (place g l).Pairwise fun g g' => g.headD 0 ≤ g'.headD 0 := by
  induction l with
  | nil => exact List.pairwise_singleton _ _
  | cons a l ih =>
    obtain ⟨hfirst, hrest⟩ := List.pairwise_cons.mp h
    unfold place
    split
    · next hle =>
      refine List.pairwise_cons.mpr ⟨fun b hb => ?_, h⟩
      rcases List.mem_cons.mp hb with rfl | hb
      · exact hle
      · exact Nat.le_trans hle (hfirst b hb)
    · next hlt =>
      refine List.pairwise_cons.mpr ⟨fun b hb => ?_, ih hrest⟩
      rcases List.mem_cons.mp ((perm_place g l).mem_iff.mp hb) with rfl | hb
      · exact Nat.le_of_not_le hlt
      · exact hfirst b hb

theorem pairwise_foldr_place (l : List (List Nat)) :
    (l.foldr place []).Pairwise fun g g' => g.headD 0 ≤ g'.headD 0 := by
  induction l with
  | nil => exact List.Pairwise.nil
  | cons g l ih => exact pairwise_place ih

/-- The groups are the sets of elements with one root that are not alone. -/
theorem WF.mem_groups (h : u.WF) {g : List Nat} :
    g ∈ u.groups ↔ 1 < g.length ∧ ∃ r, g = members u.root u.size r := by
  have hfiled := h.filed
  rw [UnionFind.groups, UnionFind.gather]
  dsimp only
  rw [(perm_foldr_place _).mem_iff, List.mem_filter, decide_eq_true_eq, and_comm, List.mem_map]
  refine and_congr_right fun hlong => ⟨?_, ?_⟩
  · rintro ⟨⟨r, g⟩, hg, rfl⟩
    exact ⟨r, ((mem_filed hfiled).mp hg).2⟩
  · rintro ⟨r, hg⟩
    exact ⟨(r, g), (mem_filed hfiled).mpr ⟨List.ne_nil_of_length_pos (by omega), hg⟩, rfl⟩

theorem pairwise_members (root : Nat → Nat) (k r : Nat) : (members root k r).Pairwise (· < ·) :=
  List.pairwise_lt_range.filter _

theorem headD_le_of_mem_members (hy : y ∈ members root k r) : (members root k r).headD 0 ≤ y := by
  have hascending := pairwise_members root k r
  cases hmembers : members root k r with
  | nil => simp [hmembers] at hy
  | cons x rest =>
    rw [hmembers] at hy hascending
    rcases List.mem_cons.mp hy with rfl | hy
    · exact Nat.le_refl y
    · exact Nat.le_of_lt ((List.pairwise_cons.mp hascending).1 y hy)

/-- A group begins with a member that is smaller than all of the groups after it. -/
theorem WF.pairwise_groups (h : u.WF) :
    u.groups.Pairwise fun g g' => ∃ a ∈ g, ∀ b ∈ g', a < b := by
  have hfiled := h.filed
  have hsorted : u.groups.Pairwise fun g g' => g.headD 0 ≤ g'.headD 0 := pairwise_foldr_place _
  have hapart : u.groups.Pairwise fun g g' => ∀ y ∈ g, y ∉ g' := by
    refine ((perm_foldr_place _).pairwise_iff fun hxy y hy hy' => hxy y hy' hy).mpr ?_
    refine List.Pairwise.filter _ (List.pairwise_map.mpr ?_)
    refine hfiled.ascending.imp_of_mem fun {a b} ha hb hlt y hy hy' => ?_
    rw [((mem_filed hfiled).mp ha).2, mem_members] at hy
    rw [((mem_filed hfiled).mp hb).2, mem_members] at hy'
    exact Nat.ne_of_lt hlt (hy.2.symm.trans hy'.2)
  refine (hsorted.and hapart).imp_of_mem fun {g g'} hg hg' hboth => ?_
  obtain ⟨hlong, r, rfl⟩ := h.mem_groups.mp hg
  obtain ⟨-, r', rfl⟩ := h.mem_groups.mp hg'
  have hhead : (members u.root u.size r).headD 0 ∈ members u.root u.size r := by
    cases hmembers : members u.root u.size r with
    | nil => simp [hmembers] at hlong
    | cons x rest => simp
  refine ⟨_, hhead, fun b hb => Nat.lt_of_le_of_ne ?_ ?_⟩
  · exact Nat.le_trans hboth.1 (headD_le_of_mem_members hb)
  · rintro rfl
    exact hboth.2 _ hhead hb

theorem WF.root_eq_of_mem_groups (h : u.WF) {l : List Nat} (hl : l ∈ u.groups) (hx : x ∈ l)
    (hy : y ∈ l) : x < u.size ∧ y < u.size ∧ u.root x = u.root y := by
  obtain ⟨-, r, rfl⟩ := h.mem_groups.mp hl
  obtain ⟨hxlt, hxroot⟩ := mem_members.mp hx
  obtain ⟨hylt, hyroot⟩ := mem_members.mp hy
  exact ⟨hxlt, hylt, hxroot.trans hyroot.symm⟩

theorem WF.exists_mem_groups (h : u.WF) (hx : x < u.size) (hy : y < u.size) (hne : x ≠ y)
    (hroot : u.root x = u.root y) : ∃ l ∈ u.groups, x ∈ l ∧ y ∈ l := by
  have hxmem : x ∈ members u.root u.size (u.root x) := mem_members.mpr ⟨hx, rfl⟩
  have hymem : y ∈ members u.root u.size (u.root x) := mem_members.mpr ⟨hy, hroot.symm⟩
  refine ⟨_, h.mem_groups.mpr ⟨?_, _, rfl⟩, hxmem, hymem⟩
  cases hmembers : members u.root u.size (u.root x) with
  | nil => simp [hmembers] at hxmem
  | cons z rest =>
    rw [hmembers] at hxmem hymem
    cases rest with
    | nil =>
      rw [List.mem_singleton] at hxmem hymem
      exact absurd (hxmem.trans hymem.symm) hne
    | cons => simp

end Groups

end DeltaDebugging.UnionFind
