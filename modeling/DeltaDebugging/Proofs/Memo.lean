import DeltaDebugging.Memo
import DeltaDebugging.Proofs.Trie

/-!
# Testers that remember

What a stack of wrappers does to a trial, seen from the tester inside: it is answered from
memory or passed on, and then nothing is remembered besides what was and this answer. Seen
from outside, a memory in front of a tester whose verdicts depend on what is retained alone
only shows in how often the tester is asked.
-/
namespace DeltaDebugging

variable {σ ω α : Type}

namespace Tester

/-- The wrapper answers a trial with what it recalls of the retained list, and asks the
tester inside if it recalls nothing; `valid` are the states in which this is so. -/
structure Memoizes (outer : Tester ω α) (t : Tester σ α) (inner : ω → σ)
    (recalls : ω → List α → Option Verdict) (valid : ω → Prop) : Prop where
  cancelled : ∀ w, outer.cancelled w = t.cancelled (inner w)
  valid_test : ∀ c w, valid w → valid (outer.test c w).2
  hit : ∀ c w v, valid w → recalls w c.retained = some v →
    (outer.test c w).1 = v ∧ inner (outer.test c w).2 = inner w ∧
      recalls (outer.test c w).2 = recalls w
  miss : ∀ c w, valid w → recalls w c.retained = none →
    (outer.test c w).1 = (t.test c (inner w)).1 ∧
      inner (outer.test c w).2 = (t.test c (inner w)).2 ∧
      ∀ key v, recalls (outer.test c w).2 key = some v →
        recalls w key = some v ∨ key = c.retained ∧ v = (outer.test c w).1

namespace Memoizes

theorem refl (t : Tester σ α) : t.Memoizes t id (fun _ _ => none) fun _ => True where
  cancelled _ := rfl
  valid_test _ _ _ := trivial
  hit _ _ _ _ h := by cases h
  miss _ _ _ _ := ⟨rfl, rfl, fun _ _ h => by cases h⟩

theorem counted {outer : Tester ω α} {t : Tester σ α} {inner : ω → σ}
    {recalls : ω → List α → Option Verdict} {valid : ω → Prop}
    (h : outer.Memoizes t inner recalls valid) :
    outer.counted.Memoizes t (fun w => inner w.inner) (fun w => recalls w.inner)
      fun w => valid w.inner where
  cancelled w := h.cancelled w.inner
  valid_test c w := h.valid_test c w.inner
  hit c w := h.hit c w.inner
  miss c w := h.miss c w.inner

theorem cached [DecidableEq α] (t : Tester σ α) :
    t.cached.Memoizes t Cached.inner (fun w => w.memory.get?) fun w => w.memory.WF where
  cancelled _ := rfl
  valid_test c w hw := by
    unfold Tester.cached
    dsimp only
    split
    · exact hw
    · dsimp only
      split
      · exact hw
      · exact hw.insert _ _
  hit c w v _ h := by simp [Tester.cached, h]
  miss c w hw h := by
    simp only [Tester.cached, h, true_and]
    intro key v hkey
    split at hkey
    · exact Or.inl hkey
    · rw [hw.get?_insert] at hkey
      split at hkey
      · next heq => exact Or.inr ⟨heq, (Option.some_inj.mp hkey).symm⟩
      · exact Or.inl hkey

end Memoizes

/-- Every verdict that is recalled is that of a cut in `asked` which retains the list. -/
structure Remembers [DecidableEq α] (f : Cut α → Verdict) (asked : Cut α → Prop) (w : Cached σ α) :
    Prop where
  valid : w.memory.WF
  recalled : ∀ key v, w.memory.get? key = some v → ∃ c, asked c ∧ c.retained = key ∧ f c = v

namespace Remembers

variable [DecidableEq α] {f : Cut α → Verdict} {asked asked' : Cut α → Prop} {w : Cached σ α}

theorem empty (s : σ) (hits : Nat) : Remembers f asked ⟨s, .empty, hits⟩ where
  valid := Trie.wf_empty
  recalled key v hkey := by simp at hkey

theorem forget (h : Remembers f asked w) (s : σ) :
    Remembers f asked ⟨s, w.memory.clear, w.hits⟩ := by
  rw [h.valid.clear_eq_empty]
  exact empty s w.hits

theorem mono (h : Remembers f asked w) (hsub : ∀ c, asked c → asked' c) :
    Remembers f asked' w where
  valid := h.valid
  recalled key v hkey := by
    obtain ⟨c, hc, hretained⟩ := h.recalled key v hkey
    exact ⟨c, hsub c hc, hretained⟩

/-- If the verdict on the cuts asked about depends on what they retain alone, a trial is
answered as it would be without the memory. -/
theorem test {t : Tester σ α} (ht : ∀ c s, (t.test c s).1 = f c) (h : Remembers f asked w)
    (hsame : ∀ c c', asked c → asked c' → c.retained = c'.retained → f c = f c') {c : Cut α}
    (hc : asked c) : (t.cached.test c w).1 = f c ∧ Remembers f asked (t.cached.test c w).2 := by
  have hvalid := (Memoizes.cached t).valid_test c w h.valid
  cases hrecall : w.memory.get? c.retained with
  | some v =>
    obtain ⟨hv, -, hmemory⟩ := (Memoizes.cached t).hit c w v h.valid hrecall
    obtain ⟨c', hc', hretained, hv'⟩ := h.recalled _ _ hrecall
    refine ⟨?_, hvalid, fun key v hkey => h.recalled key v (hmemory ▸ hkey)⟩
    rw [hv, ← hv', hsame c' c hc' hc hretained]
  | none =>
    obtain ⟨hv, -, hmemory⟩ := (Memoizes.cached t).miss c w h.valid hrecall
    rw [ht] at hv
    refine ⟨hv, hvalid, fun key v hkey => ?_⟩
    rcases hmemory key v hkey with hold | ⟨rfl, rfl⟩
    · exact h.recalled key v hold
    · exact ⟨c, hc, rfl, hv.symm⟩

end Remembers

end Tester

/-- What is asked of a tester from outside. -/
inductive Request (α : Type) where
  | trial (cut : Cut α)
  | emptyLevel
  deriving DecidableEq, Repr

namespace Call

def isTrial : Call α → Bool
  | trial .. => true
  | emptyLevel => false

def retains [DecidableEq α] (key : List α) : Call α → Bool
  | trial c _ => c.retained = key
  | emptyLevel => false

@[simp] theorem isTrial_trial (c : Cut α) (v : Verdict) : (trial c v).isTrial = true := rfl

@[simp] theorem isTrial_emptyLevel : (emptyLevel : Call α).isTrial = false := rfl

end Call

namespace Request

/-- The call that a request becomes if the verdict depends on what is retained alone. -/
def answered (f : List α → Verdict) : Request α → Call α
  | trial c => .trial c (f c.retained)
  | emptyLevel => .emptyLevel

/-- The calls that are left for a tester behind a memory: a trial is dropped if what it retains
is known, and becomes known if it is decided; an empty level forgets what is known. -/
def missed [DecidableEq α] (f : List α → Verdict) (known : List (List α)) :
    List (Request α) → List (Call α)
  | [] => []
  | .emptyLevel :: requests => .emptyLevel :: missed f [] requests
  | .trial c :: requests =>
    if c.retained ∈ known then missed f known requests
    else .trial c (f c.retained) ::
      missed f (if f c.retained = .unknown then known else c.retained :: known) requests

section Missed

variable [DecidableEq α] {f : List α → Verdict} {known : List (List α)}
  {requests : List (Request α)} {key : List α}

theorem missed_sublist (f : List α → Verdict) (known : List (List α))
    (requests : List (Request α)) :
    (missed f known requests).Sublist (requests.map (answered f)) := by
  induction requests generalizing known with
  | nil => exact .refl _
  | cons request requests ih =>
    cases request with
    | emptyLevel => exact (ih []).cons_cons _
    | trial c =>
      rw [missed]
      split
      · exact (ih known).cons _
      · exact (ih _).cons_cons _

/-- Empty levels are never dropped. -/
theorem filter_missed (f : List α → Verdict) (known : List (List α)) (requests : List (Request α)) :
    (missed f known requests).filter (fun call => !call.isTrial) =
      (requests.map (answered f)).filter fun call => !call.isTrial := by
  induction requests generalizing known with
  | nil => rfl
  | cons request requests ih =>
    cases request with
    | emptyLevel => simp [missed, answered, ih]
    | trial c =>
      rw [missed]
      split <;> simp [answered, ih]

/-- Before the next empty level, what is known is not asked about again. -/
theorem countP_missed_of_mem (hkey : key ∈ known) (hempty : .emptyLevel ∉ requests) :
    (missed f known requests).countP (·.retains key) = 0 := by
  induction requests generalizing known with
  | nil => rfl
  | cons request requests ih =>
    obtain ⟨hne, hrest⟩ := not_or.mp (mt List.mem_cons.mpr hempty)
    cases request with
    | emptyLevel => exact absurd rfl hne
    | trial c =>
      rw [missed]
      split
      · exact ih hkey hrest
      · next hmiss =>
        have hother : c.retained ≠ key := fun heq => hmiss (heq ▸ hkey)
        rw [List.countP_cons_of_neg (by simp [Call.retains, hother])]
        refine ih ?_ hrest
        split
        · exact hkey
        · exact List.mem_cons_of_mem _ hkey

/-- Before the next empty level, a list on which the verdict is decided is asked about at most
once. -/
theorem countP_missed_le_one (hkey : f key ≠ .unknown) (hempty : .emptyLevel ∉ requests) :
    (missed f known requests).countP (·.retains key) ≤ 1 := by
  induction requests generalizing known with
  | nil => exact Nat.zero_le 1
  | cons request requests ih =>
    obtain ⟨hne, hrest⟩ := not_or.mp (mt List.mem_cons.mpr hempty)
    cases request with
    | emptyLevel => exact absurd rfl hne
    | trial c =>
      rw [missed]
      split
      · exact ih hrest
      · by_cases hc : c.retained = key
        · have hdecided : f c.retained ≠ .unknown := hc ▸ hkey
          refine Nat.le_of_eq ?_
          rw [List.countP_cons_of_pos (by simp [Call.retains, hc]), if_neg hdecided,
            countP_missed_of_mem (by simp [hc]) hrest]
        · rw [List.countP_cons_of_neg (by simp [Call.retains, hc])]
          exact ih hrest

/-- A list on which the verdict is not decided is asked about whenever it is tried. -/
theorem countP_missed_of_unknown (hkey : f key = .unknown) (hknown : ∀ l ∈ known, f l ≠ .unknown) :
    (missed f known requests).countP (·.retains key) =
      (requests.map (answered f)).countP (·.retains key) := by
  induction requests generalizing known with
  | nil => rfl
  | cons request requests ih =>
    cases request with
    | emptyLevel =>
      have hnone : ∀ l ∈ ([] : List (List α)), f l ≠ .unknown := by simp
      simpa [missed, answered, Call.retains] using ih hnone
    | trial c =>
      rw [missed]
      split
      · next hmem =>
        have hother : c.retained ≠ key := fun heq => hknown _ hmem (heq ▸ hkey)
        rw [ih hknown, List.map_cons,
          List.countP_cons_of_neg (by simp [answered, Call.retains, hother])]
      · rw [List.map_cons, List.countP_cons, List.countP_cons, ih]
        · rfl
        · split
          · exact hknown
          · next hdecided => exact List.forall_mem_cons.mpr ⟨hdecided, hknown⟩

end Missed

end Request

namespace Tester

/-- The calls of a tester that serves requests one after another, and the state they leave. -/
def serve (t : Tester σ α) : List (Request α) → σ → List (Call α) × σ
  | [], s => ([], s)
  | .trial c :: requests, s =>
    let (calls, after) := t.serve requests (t.test c s).2
    (.trial c (t.test c s).1 :: calls, after)
  | .emptyLevel :: requests, s =>
    let (calls, after) := t.serve requests (t.emptyLevel s)
    (.emptyLevel :: calls, after)

/-- A tester without a memory answers every request as its verdicts say. -/
theorem serve_calls {t : Tester σ α} {f : List α → Verdict}
    (ht : ∀ c s, (t.test c s).1 = f c.retained) (requests : List (Request α)) (s : σ) :
    (t.serve requests s).1 = requests.map (Request.answered f) := by
  induction requests generalizing s with
  | nil => rfl
  | cons request requests ih =>
    cases request with
    | trial c => simp [serve, Request.answered, ht, ih]
    | emptyLevel => simp [serve, Request.answered, ih]

variable [DecidableEq α] {t : Tester σ α} {f : List α → Verdict} {known : List (List α)}
  {requests : List (Request α)} {w : Cached (Recorded σ α) α} {key : List α}

/-- What is remembered are the verdicts on the lists in `known`, none of them undecided. -/
structure Knows (f : List α → Verdict) (known : List (List α)) (w : Cached ω α) : Prop where
  valid : w.memory.WF
  decided : ∀ key ∈ known, f key ≠ .unknown
  recalled : ∀ key, w.memory.get? key = if key ∈ known then some (f key) else none

theorem Knows.empty (s : ω) (hits : Nat) : Knows f [] ⟨s, .empty, hits⟩ where
  valid := Trie.wf_empty
  decided := by simp
  recalled := by simp

theorem Knows.forget {w : Cached ω α} (h : Knows f known w) (s : ω) :
    Knows f [] ⟨s, w.memory.clear, w.hits⟩ := by
  rw [h.valid.clear_eq_empty]
  exact .empty s w.hits

theorem Knows.learn {w : Cached ω α} (h : Knows f known w) (s : ω) (key : List α) :
    Knows f (if f key = .unknown then known else key :: known)
      ⟨s, if f key = .unknown then w.memory else (w.memory.insert key (f key)).2, w.hits⟩ := by
  split
  · exact ⟨h.valid, h.decided, h.recalled⟩
  · next hdecided =>
    refine ⟨h.valid.insert _ _, List.forall_mem_cons.mpr ⟨hdecided, h.decided⟩, fun key' => ?_⟩
    rw [h.valid.get?_insert, h.recalled]
    by_cases heq : key' = key
    · simp [heq]
    · simp [heq]

/-- How a memory serves requests: it answers them as the tester inside does, passes on those it
misses, and counts the others. -/
theorem serve_cached (ht : ∀ c s, (t.test c s).1 = f c.retained) (hw : Knows f known w)
    (requests : List (Request α)) :
    let r := t.recorded.cached.serve requests w
    r.1 = requests.map (Request.answered f) ∧
      r.2.inner.calls = (Request.missed f known requests).reverse ++ w.inner.calls ∧
      r.2.hits + (Request.missed f known requests).countP Call.isTrial =
        w.hits + (requests.map (Request.answered f)).countP Call.isTrial ∧
      ∃ known', Knows f known' r.2 := by
  induction requests generalizing known w with
  | nil => exact ⟨rfl, rfl, rfl, known, hw⟩
  | cons request requests ih =>
    cases request with
    | emptyLevel =>
      obtain ⟨hcalls, hinner, hhits, hknown⟩ :=
        ih (hw.forget (t.recorded.emptyLevel w.inner))
      refine ⟨congrArg _ hcalls, hinner.trans ?_, hhits, hknown⟩
      simp [Request.missed, recorded]
    | trial c =>
      have hrecall := hw.recalled c.retained
      by_cases hmem : c.retained ∈ known
      · rw [if_pos hmem] at hrecall
        have htest : t.recorded.cached.test c w =
            (f c.retained, { w with hits := w.hits + 1 }) := by
          simp [cached, hrecall]
        obtain ⟨hcalls, hinner, hhits, hknown⟩ :=
          ih (w := { w with hits := w.hits + 1 }) ⟨hw.valid, hw.decided, hw.recalled⟩
        simp only [serve, htest, Request.missed, if_pos hmem, List.map_cons]
        refine ⟨congrArg _ hcalls, hinner, ?_, hknown⟩
        rw [hhits, List.countP_cons_of_pos (by rfl)]
        exact Nat.succ_add_eq_add_succ _ _
      · rw [if_neg hmem] at hrecall
        have htest : t.recorded.cached.test c w = (f c.retained,
            ⟨⟨(t.test c w.inner.inner).2, .trial c (f c.retained) :: w.inner.calls⟩,
              if f c.retained = .unknown then w.memory
                else (w.memory.insert c.retained (f c.retained)).2, w.hits⟩) := by
          simp [cached, hrecall, recorded, ht]
        obtain ⟨hcalls, hinner, hhits, hknown⟩ := ih (hw.learn
          ⟨(t.test c w.inner.inner).2, .trial c (f c.retained) :: w.inner.calls⟩ c.retained)
        simp only [serve, htest, Request.missed, if_neg hmem, List.map_cons]
        refine ⟨congrArg _ hcalls, hinner.trans (by simp), ?_, hknown⟩
        rw [List.countP_cons_of_pos (by rfl), List.countP_cons_of_pos (by rfl)]
        dsimp only at hhits
        omega

/-- A memory in front of a tester whose verdicts depend on what is retained alone changes no
verdict. The tester inside gets some of the calls in their order, every empty level among them,
and the hits are the trials that it did not get. As long as no level is empty, it is asked at
most once about a list on which it decides, and every time about one on which it does not. -/
theorem serve_cached_transparent (t : Tester σ α) (f : List α → Verdict)
    (ht : ∀ c s, (t.test c s).1 = f c.retained) (requests : List (Request α)) (s : σ) :
    let start : Cached (Recorded σ α) α := ⟨⟨s, []⟩, .empty, 0⟩
    let r := t.recorded.cached.serve requests start
    let passed := r.2.inner.calls.reverse
    r.1 = (t.serve requests s).1 ∧
    passed.Sublist r.1 ∧
    passed.filter (fun call => !call.isTrial) = r.1.filter (fun call => !call.isTrial) ∧
    r.2.hits + passed.countP Call.isTrial = r.1.countP Call.isTrial ∧
    ∀ before middle, .emptyLevel ∉ middle →
      let found := (t.recorded.cached.serve before start).2
      let served := t.recorded.cached.serve middle found
      ∃ asked, served.2.inner.calls = asked ++ found.inner.calls ∧ ∀ key,
        (f key ≠ .unknown → asked.countP (·.retains key) ≤ 1) ∧
        (f key = .unknown → asked.countP (·.retains key) = served.1.countP (·.retains key)) := by
  intro start r passed
  have hstart : Knows f [] start := Knows.empty _ _
  obtain ⟨hcalls, hinner, hhits, -⟩ := serve_cached ht hstart requests
  have hpassed : passed = Request.missed f [] requests := by
    change r.2.inner.calls.reverse = _
    rw [hinner]
    simp [start]
  refine ⟨?_, ?_, ?_, ?_, fun before middle hempty => ?_⟩
  · rw [hcalls, serve_calls ht]
  · rw [hpassed, hcalls]
    exact Request.missed_sublist f [] requests
  · rw [hpassed, hcalls]
    exact Request.filter_missed f [] requests
  · rw [hpassed, hcalls]
    exact hhits.trans (Nat.zero_add _)
  · obtain ⟨-, -, -, known, hknown⟩ := serve_cached ht hstart before
    obtain ⟨hcalls, hinner, -⟩ := serve_cached ht hknown middle
    refine ⟨_, hinner, fun key => ?_⟩
    simp only [List.countP_reverse, hcalls]
    exact ⟨fun hkey => Request.countP_missed_le_one hkey hempty,
      fun hkey => Request.countP_missed_of_unknown hkey hknown.decided⟩

/-- Undecided on nothing, holds as long as there is a one. -/
def wantsOne : List Nat → Verdict
  | [] => .unknown
  | retained => if 1 ∈ retained then .holds else .lost

/-- A list tried twice on each of two levels, then nothing tried twice. -/
def repeats : List (Request Nat) :=
  [.trial ⟨[1], [2]⟩, .trial ⟨[1], [2, 3]⟩, .emptyLevel, .trial ⟨[1], [2]⟩, .trial ⟨[2], [1]⟩,
    .trial ⟨[1], [2]⟩, .trial ⟨[], [1]⟩, .trial ⟨[], [2]⟩]

theorem serve_cached_transparent_repeats :
    let t : Tester Unit Nat := .ofFunction fun c => wantsOne c.retained
    let start : Cached (Recorded Unit Nat) Nat := ⟨⟨(), []⟩, .empty, 0⟩
    let r := t.recorded.cached.serve repeats start
    (∀ c s, (t.test c s).1 = wantsOne c.retained) ∧ r.1 = (t.serve repeats ()).1 ∧
    r.1.map (fun call => call.trial?.map Prod.snd) = [some .holds, some .holds, none, some .holds,
      some .lost, some .holds, some .unknown, some .unknown] ∧
    r.2.hits = 2 ∧ r.2.inner.calls.length = 6 := by
  intro t start r
  have ht : ∀ c s, (t.test c s).1 = wantsOne c.retained := fun _ _ => rfl
  exact ⟨ht, (serve_cached_transparent t wantsOne ht repeats ()).1, by decide +kernel,
    by decide +kernel, by decide +kernel⟩

end Tester

end DeltaDebugging
