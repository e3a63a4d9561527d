import DeltaDebugging.Proofs.Cut
import DeltaDebugging.Proofs.Dialogue
import Mathlib.Data.List.DropRight

/-!
# What a sequence of trials has settled

Only a trial that holds changes anything: its cut is the confirmed configuration until
another one holds. A disciplined sequence reads every cut off a mask over the positions
of the items, and each mask stands in a fixed relation to the one committed last.
-/
namespace DeltaDebugging

namespace Trials

variable {α : Type}

/-- The cut of the last trial that held; before the first one nothing is deleted. -/
def confirmed (items : List α) (h : Trials α) : Cut α :=
  ((h.filter fun x => x.2.isHolds).getLast?.map Prod.fst).getD ⟨items, []⟩

/-- The trials made after the last one that held. -/
def sinceHolds (h : Trials α) : Trials α := h.rtakeWhile fun x => !x.2.isHolds

@[simp] theorem confirmed_nil (items : List α) : confirmed items ([] : Trials α) = ⟨items, []⟩ :=
  rfl

theorem confirmed_concat_holds (items : List α) (h : Trials α) (c : Cut α) :
    confirmed items (h ++ [(c, .holds)]) = c := by
  simp [confirmed, Verdict.isHolds]

theorem confirmed_concat_of_ne {v : Verdict} (hv : v ≠ .holds) (items : List α) (h : Trials α)
    (c : Cut α) : confirmed items (h ++ [(c, v)]) = confirmed items h := by
  have hfalse : v.isHolds = false := by simpa using hv
  simp [confirmed, hfalse]

/-- Trials about cuts that stand for others, made from where the trials before left off, confirm
what the confirmed one of those stands for, up to what `r` leaves out of account. -/
theorem confirmed_append_map {β : Type} {f : Cut α → Cut β} {r : Cut β → Cut β → Prop}
    (hrefl : ∀ c, r c c) {items : List α} {items' : List β} {h : Trials β}
    (hstart : r (f ⟨items, []⟩) (confirmed items' h)) (own : Trials α) :
    r (f (confirmed items own)) (confirmed items' (h ++ own.map (Prod.map f id))) := by
  induction own using List.reverseRecOn with
  | nil => simpa using hstart
  | append_singleton own x ih =>
    obtain ⟨c, v⟩ := x
    have happend : h ++ (own ++ [(c, v)]).map (Prod.map f id) =
        h ++ own.map (Prod.map f id) ++ [(f c, v)] := by simp
    rw [happend]
    by_cases hv : v = .holds
    · subst hv
      rw [confirmed_concat_holds, confirmed_concat_holds]
      exact hrefl (f c)
    · rwa [confirmed_concat_of_ne hv, confirmed_concat_of_ne hv]

theorem sinceHolds_concat_of_ne {v : Verdict} (hv : v ≠ .holds) (h : Trials α) (c : Cut α) :
    sinceHolds (h ++ [(c, v)]) = sinceHolds h ++ [(c, v)] :=
  List.rtakeWhile_concat_pos _ _ _ (by simpa using hv)

theorem ne_holds_of_mem_sinceHolds {h : Trials α} {x : Cut α × Verdict} (hx : x ∈ sinceHolds h) :
    x.2 ≠ .holds := by
  simpa using List.mem_rtakeWhile_imp hx

theorem sinceHolds_subset (h : Trials α) : sinceHolds h ⊆ h :=
  (List.rtakeWhile_suffix _ _).subset

/-- Sequences of trials whose cuts are those of masks over the positions of `items`, each
in the relation `admits` to the mask that held last, with all positions before the
first; the last argument is the mask committed in the end. -/
inductive Disciplined (items : List α) (admits : List Bool → List Bool → Prop) :
    Trials α → List Bool → Prop
  | start : Disciplined items admits [] (List.replicate items.length true)
  | held {h committed mask} : Disciplined items admits h committed →
      mask.length = items.length → admits committed mask →
      Disciplined items admits (h ++ [(Cut.ofMask items mask, .holds)]) mask
  | refused {h committed mask v} : Disciplined items admits h committed →
      mask.length = items.length → admits committed mask → v ≠ .holds →
      Disciplined items admits (h ++ [(Cut.ofMask items mask, v)]) committed

/-- What a base algorithm may ask about: a mask within the committed one, a smaller one
if `strict`, that keeps at least `least` positions. -/
structure Narrows (strict : Prop) (least : Nat) (committed mask : List Bool) : Prop where
  within : Within mask committed
  smaller : strict → mask ≠ committed
  least_le : least ≤ mask.count true

namespace Disciplined

variable {items : List α} {admits admits' : List Bool → List Bool → Prop} {h : Trials α}
  {committed mask : List Bool}

theorem mono (hd : Disciplined items admits h committed)
    (himp : ∀ committed mask, admits committed mask → admits' committed mask) :
    Disciplined items admits' h committed := by
  induction hd with
  | start => exact .start
  | held _ hlen hmask ih => exact .held ih hlen (himp _ _ hmask)
  | refused _ hlen hmask hv ih => exact .refused ih hlen (himp _ _ hmask) hv

theorem concat (hd : Disciplined items admits h committed) (hlen : mask.length = items.length)
    (hmask : admits committed mask) (v : Verdict) :
    Disciplined items admits (h ++ [(Cut.ofMask items mask, v)])
      (if v = .holds then mask else committed) := by
  split
  · next hv => exact hv ▸ .held hd hlen hmask
  · next hv => exact .refused hd hlen hmask hv

theorem length_eq (hd : Disciplined items admits h committed) :
    committed.length = items.length := by
  induction hd with
  | start => simp
  | held _ hlen => exact hlen
  | refused _ _ _ _ ih => exact ih

theorem confirmed_eq (hd : Disciplined items admits h committed) :
    confirmed items h = Cut.ofMask items committed := by
  induction hd with
  | start => rw [confirmed_nil, Cut.ofMask_replicate_true]
  | held => exact confirmed_concat_holds _ _ _
  | refused _ _ _ hv ih => rw [confirmed_concat_of_ne hv, ih]

theorem exists_mask (hd : Disciplined items admits h committed) {x : Cut α × Verdict}
    (hx : x ∈ h) : ∃ committed mask, mask.length = items.length ∧ admits committed mask ∧
      x.1 = Cut.ofMask items mask := by
  induction hd with
  | start => simp at hx
  | @held h committed mask _ hlen hmask ih =>
    rcases List.mem_append.mp hx with hx | hx
    · exact ih hx
    · exact ⟨committed, mask, hlen, hmask, by rw [List.mem_singleton.mp hx]⟩
  | @refused h committed mask v _ hlen hmask hv ih =>
    rcases List.mem_append.mp hx with hx | hx
    · exact ih hx
    · exact ⟨committed, mask, hlen, hmask, by rw [List.mem_singleton.mp hx]⟩

end Disciplined

end Trials

end DeltaDebugging
