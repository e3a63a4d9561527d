import DeltaDebugging.Memo
import DeltaDebugging.Proofs.Runs

/-!
# What testers go through

A tester is in some state after every call. A wrapper passes a call on as it is or answers
without it, so whatever a run asks of a stack of wrappers, the tester inside only goes
through states that calls lead to, and these are among the calls of the run.
-/
namespace DeltaDebugging

variable {σ ω ψ α β : Type}

def Call.isHeld : Call α → Bool
  | .trial _ v => v.isHolds
  | .emptyLevel => false

namespace Tester

/-- After the calls, latest first, the tester is in the state. -/
inductive Reaches (t : Tester σ α) (start : σ) : List (Call α) → σ → Prop
  | start : Reaches t start [] start
  | trial {calls : List (Call α)} {s : σ} (c : Cut α) : Reaches t start calls s →
      Reaches t start (.trial c (t.test c s).1 :: calls) (t.test c s).2
  | emptyLevel {calls : List (Call α)} {s : σ} : Reaches t start calls s →
      Reaches t start (.emptyLevel :: calls) (t.emptyLevel s)

/-- The wrapper answers a trial as the tester inside does, or leaves it alone. -/
structure Wraps (outer : Tester ω α) (t : Tester σ α) (inner : ω → σ) : Prop where
  test : ∀ c w, inner (outer.test c w).2 = inner w ∨
    (outer.test c w).1 = (t.test c (inner w)).1 ∧
      inner (outer.test c w).2 = (t.test c (inner w)).2
  emptyLevel : ∀ w, inner (outer.emptyLevel w) = t.emptyLevel (inner w)

namespace Wraps

theorem counted (t : Tester σ α) : t.counted.Wraps t Counted.inner where
  test _ _ := Or.inr ⟨rfl, rfl⟩
  emptyLevel _ := rfl

theorem cached [DecidableEq α] (t : Tester σ α) : t.cached.Wraps t Cached.inner where
  test c w := by
    cases h : w.memory.get? c.retained with
    | some v => exact Or.inl (by simp [Tester.cached, h])
    | none => exact Or.inr (by simp [Tester.cached, h])
  emptyLevel _ := rfl

theorem trans {outermost : Tester ψ α} {outer : Tester ω α} {t : Tester σ α} {middle : ψ → ω}
    {inner : ω → σ} (h : outermost.Wraps outer middle) (h' : outer.Wraps t inner) :
    outermost.Wraps t (inner ∘ middle) where
  test c w := by
    rcases h.test c w with hw | ⟨hv, hw⟩
    · exact Or.inl (congrArg inner hw)
    · rcases h'.test c (middle w) with hw' | ⟨hv', hw'⟩
      · exact Or.inl ((congrArg inner hw).trans hw')
      · exact Or.inr ⟨hv.trans hv', (congrArg inner hw).trans hw'⟩
  emptyLevel w := (congrArg inner (h.emptyLevel w)).trans (h'.emptyLevel (middle w))

end Wraps

end Tester

namespace Dialogue

/-- The states that a run takes a tester through, the first and the last included, each with
the calls made before it, latest first. -/
def history (t : Tester σ α) : Dialogue α β → List (Call α) → σ → List (List (Call α) × σ)
  | done _, calls, s => [(calls, s)]
  | ask c k, calls, s =>
    let (v, after) := t.test c s
    (calls, s) :: (k v).history t (.trial c v :: calls) after
  | poll k, calls, s => (k (t.cancelled s)).history t calls s
  | emptyLevel k, calls, s =>
    (calls, s) :: (k ()).history t (.emptyLevel :: calls) (t.emptyLevel s)
  | note _ k, calls, s => (k ()).history t calls s

theorem run_state_mem_history (t : Tester σ α) (d : Dialogue α β) (calls : List (Call α)) (s : σ) :
    ∃ x ∈ d.history t calls s, x.2 = (d.run t s).state := by
  induction d generalizing calls s with
  | done b => exact ⟨_, List.mem_singleton.mpr rfl, rfl⟩
  | ask c k ih =>
    obtain ⟨x, hx, heq⟩ := ih (t.test c s).1 (.trial c (t.test c s).1 :: calls) (t.test c s).2
    exact ⟨x, List.mem_cons_of_mem _ hx, heq⟩
  | poll k ih => exact ih _ calls s
  | emptyLevel k ih =>
    obtain ⟨x, hx, heq⟩ := ih () (.emptyLevel :: calls) (t.emptyLevel s)
    exact ⟨x, List.mem_cons_of_mem _ hx, heq⟩
  | note n k ih => exact ih () calls s

/-- The tester inside a wrapper only goes through states that some of the calls lead to. -/
theorem reaches_of_mem_history {outer : Tester ω α} {t : Tester σ α} {inner : ω → σ}
    (h : outer.Wraps t inner) {d : Dialogue α β} {outerCalls calls : List (Call α)} {start : σ}
    {w : ω} (hsub : calls.Sublist outerCalls) (hw : t.Reaches start calls (inner w))
    {x : List (Call α) × ω} (hx : x ∈ d.history outer outerCalls w) :
    ∃ calls, calls.Sublist x.1 ∧ t.Reaches start calls (inner x.2) := by
  induction d generalizing outerCalls calls w with
  | done b =>
    obtain rfl := List.mem_singleton.mp hx
    exact ⟨calls, hsub, hw⟩
  | ask c k ih =>
    rcases List.mem_cons.mp hx with rfl | hx
    · exact ⟨calls, hsub, hw⟩
    rcases h.test c w with heq | ⟨hv, heq⟩
    · exact ih _ (hsub.cons _) (heq ▸ hw) hx
    · have hreached := hw.trial c
      rw [← hv, ← heq] at hreached
      exact ih _ (hsub.cons_cons _) hreached hx
  | poll k ih => exact ih _ hsub hw hx
  | emptyLevel k ih =>
    rcases List.mem_cons.mp hx with rfl | hx
    · exact ⟨calls, hsub, hw⟩
    have hreached := hw.emptyLevel
    rw [← h.emptyLevel] at hreached
    exact ih () (hsub.cons_cons _) hreached hx
  | note n k ih => exact ih () hsub hw hx

end Dialogue

end DeltaDebugging
