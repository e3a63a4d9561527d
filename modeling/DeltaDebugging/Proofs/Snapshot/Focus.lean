import DeltaDebugging.Proofs.Snapshot.Transaction
import Mathlib.Data.List.Basic

/-!
# Concurrent focusing is sequential focusing

Preparations may be started as soon as there is room and may complete in any order, but they
are handed on in the order of the items. So each slot of a window stands for what its item
comes to in the end, whenever that is, and a step that starts or completes a preparation
changes nothing about the results still to be handed on. Only a panic shows when it happens:
it ends everything at once, before any edit is applied.
-/
namespace DeltaDebugging

variable {χ τ ι ε : Type} {prepare : ι → Except PrepareError ε} {limit : Nat}
  {window : List (Slot ι ε)} {waiting : List ι} {r : Except PrepareError (List ε)}

/-- What a preparation comes to in the end. -/
def Slot.result (prepare : ι → Except PrepareError ε) : Slot ι ε → Except PrepareError ε
  | running i => prepare i
  | finished r => r.mapError .refused

theorem Slot.result_ended {s : Slot ι ε} {e : Except PrepareError ε} (h : ended e = .ok s)
    (prepare : ι → Except PrepareError ε) :
    s.result prepare = e ∧ s.isRunning = false := by
  unfold ended at h
  split at h
  · obtain rfl := Except.ok.inj h
    exact ⟨rfl, rfl⟩
  · obtain rfl := Except.ok.inj h
    exact ⟨rfl, rfl⟩
  · cases h

theorem Slot.panicked_of_ended {message : String} {e : Except PrepareError ε}
    (h : (ended e : Except String (Slot ι ε)) = .error message) :
    e = .error (.panicked message) := by
  unfold ended at h
  split at h
  · cases h
  · cases h
  · rw [Except.error.inj h]

/-- What may come of preparing the waiting items beside those in the window: whenever fewer
than `limit` preparations are under way the next one may be started, any one under way may
complete, and results are handed on in the order of the items, up to the first error. -/
inductive Buffered (prepare : ι → Except PrepareError ε) (limit : Nat) :
    List (Slot ι ε) → List ι → Except PrepareError (List ε) → Prop
  | none : Buffered prepare limit [] [] (.ok [])
  | start {window : List (Slot ι ε)} {i : ι} {waiting : List ι}
      {r : Except PrepareError (List ε)} : Slot.inFlight window < limit →
      Buffered prepare limit (window ++ [.running i]) waiting r →
      Buffered prepare limit window (i :: waiting) r
  | complete {before after : List (Slot ι ε)} {i : ι} {s : Slot ι ε} {waiting : List ι}
      {r : Except PrepareError (List ε)} : Slot.ended (prepare i) = .ok s →
      Buffered prepare limit (before ++ s :: after) waiting r →
      Buffered prepare limit (before ++ .running i :: after) waiting r
  | panic {before after : List (Slot ι ε)} {i : ι} {waiting : List ι} {message : String} :
      prepare i = .error (.panicked message) →
      Buffered prepare limit (before ++ .running i :: after) waiting (.error (.panicked message))
  | yield {edit : ε} {window : List (Slot ι ε)} {waiting : List ι}
      {r : Except PrepareError (List ε)} : Buffered prepare limit window waiting r →
      Buffered prepare limit (.finished (.ok edit) :: window) waiting (r.map (edit :: ·))
  | fail {cause : String} {window : List (Slot ι ε)} {waiting : List ι} :
      Buffered prepare limit (.finished (.error cause) :: window) waiting (.error (.refused cause))

namespace Buffered

theorem mapM_cons_ok (edit : ε) (l : List (Except PrepareError ε)) :
    (.ok edit :: l).mapM id = (l.mapM id).map (edit :: ·) := by
  rw [List.mapM_cons]
  cases l.mapM id <;> rfl

/-- Unless a preparation panics, only one result is possible. -/
theorem eq_mapM_or_panicked (h : Buffered prepare limit window waiting r) :
    r = (window.map (Slot.result prepare) ++ waiting.map prepare).mapM id ∨
      ∃ i message, (.running i ∈ window ∨ i ∈ waiting) ∧
        prepare i = .error (.panicked message) ∧ r = .error (.panicked message) := by
  -- Each step leaves what is still to be handed on as it is, or hands on the first of it.
  induction h with
  | none => exact .inl rfl
  | @start window i waiting r _ _ ih =>
    refine ih.imp (fun heq => by simpa [Slot.result] using heq) ?_
    rintro ⟨j, message, hj, hpanic⟩
    exact ⟨j, message, by simpa [or_assoc] using hj, hpanic⟩
  | @complete before after i s waiting r hended _ ih =>
    obtain ⟨hresult, hrunning⟩ := Slot.result_ended hended prepare
    refine ih.imp (fun heq => ?_) ?_
    · rw [heq, List.map_append, List.map_append, List.map_cons, List.map_cons, hresult]
      rfl
    · rintro ⟨j, message, hj, hpanic⟩
      have hne : Slot.running j ≠ s := fun heq => by simp [← heq, Slot.isRunning] at hrunning
      refine ⟨j, message, hj.imp_left fun hj => ?_, hpanic⟩
      rcases List.mem_append.mp hj with hj | hj
      · exact List.mem_append_left _ hj
      · have hafter := (List.mem_cons.mp hj).resolve_left hne
        exact List.mem_append_right _ (List.mem_cons_of_mem _ hafter)
  | @panic before after i waiting message hpanic =>
    exact .inr ⟨i, message, .inl (by simp), hpanic, rfl⟩
  | @yield edit window waiting r _ ih =>
    refine ih.imp (fun heq => ?_) ?_
    · rw [heq]
      exact (mapM_cons_ok edit _).symm
    · rintro ⟨j, message, hj, hpanic, rfl⟩
      exact ⟨j, message, hj.imp_left (List.mem_cons_of_mem _), hpanic, rfl⟩
  | fail => exact .inl rfl

theorem start_all {n : Nat} (hn : n ≤ limit - window.length)
    (h : Buffered prepare limit (window ++ (waiting.take n).map .running) (waiting.drop n) r) :
    Buffered prepare limit window waiting r := by
  induction n generalizing window waiting with
  | zero => simpa using h
  | succ n ih =>
    cases waiting with
    | nil => simpa using h
    | cons i waiting =>
      have hfew : Slot.inFlight window ≤ window.length := List.length_filter_le _ _
      refine .start (by omega) (ih (by simp; omega) ?_)
      simpa using h

theorem of_complete_ok {k : Nat} {slots slots' : List (Slot ι ε)} (hk : k < Slot.inFlight slots)
    (hcomplete : Slot.complete prepare k slots = .ok slots')
    (h : Buffered prepare limit slots' waiting r) : Buffered prepare limit slots waiting r := by
  obtain ⟨before, i, after, rfl, hone⟩ := Slot.exists_complete_eq prepare hk
  rw [hone] at hcomplete
  cases hended : (Slot.ended (prepare i) : Except String (Slot ι ε)) with
  | error message =>
    rw [hended] at hcomplete
    cases hcomplete
  | ok s =>
    rw [hended] at hcomplete
    obtain rfl := Except.ok.inj hcomplete
    exact .complete hended h

theorem of_complete_error {k : Nat} {slots : List (Slot ι ε)} {message : String}
    (hk : k < Slot.inFlight slots) (hcomplete : Slot.complete prepare k slots = .error message) :
    Buffered prepare limit slots waiting (.error (.panicked message)) := by
  obtain ⟨before, i, after, rfl, hone⟩ := Slot.exists_complete_eq prepare hk
  rw [hone] at hcomplete
  cases hended : (Slot.ended (prepare i) : Except String (Slot ι ε)) with
  | ok s =>
    rw [hended] at hcomplete
    cases hcomplete
  | error message' =>
    rw [hended] at hcomplete
    obtain rfl := Except.error.inj hcomplete
    exact .panic (Slot.panicked_of_ended hended)

end Buffered

namespace ConcurrentLens

open Slot (inFlight)

/-- The preparations that a schedule orders are started and completed as they may be. -/
theorem buffered_prepareAll (prepare : ι → Except PrepareError ε) (limit : Nat)
    (schedule : List Nat) (window : List (Slot ι ε)) (waiting : List ι) :
    Buffered prepare (concurrency limit) window waiting
      (prepareAll prepare limit schedule window waiting) := by
  fun_induction prepareAll prepare limit schedule window waiting with
  | case1 => exact .fail
  | case2 schedule waiting edit window ih => exact .yield ih
  | case3 schedule waiting window herror hok slots hnone =>
    -- Nothing is under way and nothing could be started, so nothing is left.
    cases window with
    | nil =>
      cases waiting with
      | nil => exact .none
      | cons i waiting =>
        have hroom : 1 ≤ room limit ([] : List (Slot ι ε)) := Nat.le_max_right _ _
        obtain ⟨n, hn⟩ := Nat.exists_eq_add_of_le' hroom
        simp [slots, hn, inFlight, Slot.isRunning] at hnone
    | cons s window =>
      cases s with
      | running i => simp [slots, inFlight, Slot.isRunning] at hnone
      | finished r =>
        cases r with
        | error cause => exact absurd rfl (herror cause window)
        | ok edit => exact absurd rfl (hok edit window)
  | case4 schedule waiting window herror hok slots hsome message hcomplete =>
    refine .start_all (Nat.le_refl _) ?_
    exact .of_complete_error (Nat.mod_lt _ (Nat.pos_of_ne_zero hsome)) hcomplete
  | case5 schedule waiting window herror hok slots hsome slots' hcomplete ih =>
    refine .start_all (Nat.le_refl _) ?_
    exact .of_complete_ok (Nat.mod_lt _ (Nat.pos_of_ne_zero hsome)) hcomplete ih

/-- Prepares the items one by one and then applies in order. -/
def oneByOne (lens : ConcurrentLens χ τ ι ε) : Lens χ τ ι := fun items => do
  let (context, _) ← Activity.get
  lens.finish (items.mapM (lens.prepare · context))

variable {lens : ConcurrentLens χ τ ι ε} {interrupted : χ × τ → Bool} {s s' : χ × τ}

/-- The edits are applied one after another, none of them fails, and they lead from `s` to `s'`. -/
inductive Applied (lens : ConcurrentLens χ τ ι ε) (interrupted : χ × τ → Bool) :
    List ε → χ × τ → χ × τ → Prop
  | nil {s : χ × τ} : Applied lens interrupted [] s s
  | cons {edit : ε} {edits : List ε} {s s' s'' : χ × τ} :
      (lens.apply edit).run interrupted s = (.done (.ok ()), s') →
      Applied lens interrupted edits s' s'' → Applied lens interrupted (edit :: edits) s s''

theorem run_applyAll_cons_ok {edit : ε}
    (h : (lens.apply edit).run interrupted s = (.done (.ok ()), s')) (edits : List ε) :
    (lens.applyAll (edit :: edits)).run interrupted s =
      (lens.applyAll edits).run interrupted s' := by
  rw [applyAll, Activity.run_seq, h]

theorem run_applyAll_cons_of_ne {edit : ε}
    (h : ((lens.apply edit).run interrupted s).1 ≠ .done (.ok ())) (edits : List ε) :
    (lens.applyAll (edit :: edits)).run interrupted s = (lens.apply edit).run interrupted s := by
  rw [applyAll, Activity.run_seq]
  cases hrun : (lens.apply edit).run interrupted s with
  | mk halt s' =>
    rw [hrun] at h
    rcases halt with (cause | done) | message | _
    · rfl
    · exact absurd rfl h
    · rfl
    · rfl

/-- Either all edits are applied, or those before the first one that ends otherwise. -/
theorem run_applyAll (edits : List ε) (s : χ × τ) :
    let r := (lens.applyAll edits).run interrupted s
    (∃ s', Applied lens interrupted edits s s' ∧ r = (.done (.ok ()), s')) ∨
      ∃ before edit after s', edits = before ++ edit :: after ∧
        Applied lens interrupted before s s' ∧ r = (lens.apply edit).run interrupted s' ∧
        r.1 ≠ .done (.ok ()) := by
  induction edits generalizing s with
  | nil => exact .inl ⟨s, .nil, rfl⟩
  | cons edit edits ih =>
    by_cases hdone : ((lens.apply edit).run interrupted s).1 = .done (.ok ())
    · have happly : (lens.apply edit).run interrupted s = (.done (.ok ()), _) :=
        Prod.ext hdone rfl
      dsimp only
      rw [run_applyAll_cons_ok happly]
      rcases ih _ with ⟨s', happlied, hr⟩ | ⟨before, other, after, s', rfl, happlied, hr⟩
      · exact .inl ⟨s', .cons happly happlied, hr⟩
      · exact .inr ⟨edit :: before, other, after, s', rfl, .cons happly happlied, hr⟩
    · have hrun := run_applyAll_cons_of_ne hdone edits
      exact .inr ⟨[], edit, edits, s, rfl, .nil, hrun, by rwa [hrun]⟩

/-- What preparing concurrently comes to, if not to a panic. -/
theorem buffered_items {items : List ι} (h : Buffered prepare limit [] items r) :
    r = items.mapM prepare ∨ ∃ i ∈ items, ∃ message, prepare i = .error (.panicked message) ∧
      r = .error (.panicked message) := by
  refine h.eq_mapM_or_panicked.imp (fun heq => ?_) ?_
  · rw [heq, List.map_nil, List.nil_append, List.mapM_map]
    rfl
  · rintro ⟨i, message, hi, hpanic, heq⟩
    exact ⟨i, hi.resolve_left List.not_mem_nil, message, hpanic, heq⟩

theorem run_focus (lens : ConcurrentLens χ τ ι ε) (limit : Nat) (schedule : List Nat)
    (items : List ι) (interrupted : χ × τ → Bool) (x : χ) (t : τ) :
    (lens.focus limit schedule items).run interrupted (x, t) =
      (lens.finish (prepareAll (lens.prepare · x) limit schedule [] items)).run interrupted
        (x, t) := by
  rw [focus, Activity.run_seq, Activity.run_get]

theorem run_oneByOne (lens : ConcurrentLens χ τ ι ε) (items : List ι)
    (interrupted : χ × τ → Bool) (x : χ) (t : τ) :
    (lens.oneByOne items).run interrupted (x, t) =
      (lens.finish (items.mapM (lens.prepare · x))).run interrupted (x, t) := by
  rw [oneByOne, Activity.run_seq, Activity.run_get]

/-- A preparation that panics may decide how a run ends, but the context stays as it was. -/
theorem focus_eq_oneByOne_or_panicked (lens : ConcurrentLens χ τ ι ε) (limit : Nat)
    (schedule : List Nat) (items : List ι) (interrupted : χ × τ → Bool) (x : χ) (t : τ) :
    let r := (lens.focus limit schedule items).run interrupted (x, t)
    r = (lens.oneByOne items).run interrupted (x, t) ∨
      ∃ i ∈ items, ∃ message, lens.prepare i x = .error (.panicked message) ∧
        r = (.panicked message, x, t) := by
  dsimp only
  rw [run_focus, run_oneByOne]
  rcases buffered_items (buffered_prepareAll (lens.prepare · x) limit schedule [] items) with
    heq | ⟨i, hi, message, hpanic, heq⟩
  · rw [heq]
    exact .inl rfl
  · rw [heq]
    exact .inr ⟨i, hi, message, hpanic, rfl⟩

/-- An item that cannot be prepared is either the first such, or comes after it. -/
theorem mapM_eq_error_or_ok (prepare : ι → Except PrepareError ε) (items : List ι) :
    (∃ before i after e, items = before ++ i :: after ∧
      (∀ j ∈ before, (prepare j).isOk = true) ∧ prepare i = .error e ∧
      items.mapM prepare = .error e) ∨
    ∃ edits, items.map prepare = edits.map .ok ∧ items.mapM prepare = .ok edits := by
  induction items with
  | nil => exact .inr ⟨[], rfl, rfl⟩
  | cons i items ih =>
    rw [List.mapM_cons]
    cases hi : prepare i with
    | error e => exact .inl ⟨[], i, items, e, rfl, by simp, hi, rfl⟩
    | ok edit =>
      rcases ih with ⟨before, j, after, e, rfl, hbefore, hj, hmap⟩ | ⟨edits, hedits, hmap⟩
      · refine .inl ⟨i :: before, j, after, e, rfl, ?_, hj, by rw [hmap]; rfl⟩
        simpa [hi, Except.isOk, Except.toBool] using hbefore
      · exact .inr ⟨edit :: edits, by simp [hi, hedits], by rw [hmap]; rfl⟩

/-- However many preparations run at a time and in whatever order they complete, focusing comes
to what preparing the items one by one and then applying the edits in order comes to. The first
item that cannot be prepared is the one that is reported, and then the context is as it was.
Otherwise the edits are applied up to the first that fails. -/
theorem focus_eq_oneByOne (lens : ConcurrentLens χ τ ι ε) (limit : Nat) (items : List ι)
    (interrupted : χ × τ → Bool) (x : χ) (t : τ)
    (hreturns : ∀ i ∈ items, ∀ message, lens.prepare i x ≠ .error (.panicked message)) :
    (∀ r, Buffered (lens.prepare · x) (concurrency limit) [] items r →
      r = items.mapM (lens.prepare · x)) ∧
    ∀ schedule, let r := (lens.focus limit schedule items).run interrupted (x, t)
      r = (lens.oneByOne items).run interrupted (x, t) ∧
      ((∃ before i after cause, items = before ++ i :: after ∧
          (∀ j ∈ before, (lens.prepare j x).isOk = true) ∧
          lens.prepare i x = .error (.refused cause) ∧ r = (.done (.error cause), x, t)) ∨
        ∃ edits, items.map (lens.prepare · x) = edits.map .ok ∧
          ((∃ s, Applied lens interrupted edits (x, t) s ∧ r = (.done (.ok ()), s)) ∨
            ∃ before edit after s, edits = before ++ edit :: after ∧
              Applied lens interrupted before (x, t) s ∧
              r = (lens.apply edit).run interrupted s ∧ r.1 ≠ .done (.ok ()))) := by
  refine ⟨fun r hr => (buffered_items hr).resolve_right ?_, fun schedule => ?_⟩
  · rintro ⟨i, hi, message, hpanic, -⟩
    exact hreturns i hi message hpanic
  have hfocus : (lens.focus limit schedule items).run interrupted (x, t) =
      (lens.oneByOne items).run interrupted (x, t) := by
    have hrun := focus_eq_oneByOne_or_panicked lens limit schedule items interrupted x t
    refine hrun.resolve_right ?_
    rintro ⟨i, hi, message, hpanic, -⟩
    exact hreturns i hi message hpanic
  refine ⟨hfocus, ?_⟩
  rw [hfocus, run_oneByOne]
  rcases mapM_eq_error_or_ok (lens.prepare · x) items with
    ⟨before, i, after, e, hitems, hbefore, hi, hmap⟩ | ⟨edits, hedits, hmap⟩
  · rw [hmap]
    cases e with
    | refused cause => exact .inl ⟨before, i, after, cause, hitems, hbefore, hi, rfl⟩
    | panicked message => exact absurd hi (hreturns i (by simp [hitems]) message)
  · rw [hmap]
    exact .inr ⟨edits, hedits, run_applyAll edits (x, t)⟩

/-- A lens on a list of numbers that cannot prepare 8 and 9, and cannot apply the edit of 5. -/
def picky : ConcurrentLens (List Nat) Unit Nat Nat where
  prepare i _ :=
    if i = 8 ∨ i = 9 then .error (.refused ("locked: " ++ toString i)) else .ok i
  apply edit :=
    if edit = 5 then return .error "not applied" else
      Activity.act (fun s => (s.1.erase edit, s.2)) fun _ => return .ok ()

/-- The later preparations complete first. -/
theorem focus_eq_oneByOne_picky :
    let run (items : List Nat) :=
      (picky.focus 3 [2, 1, 0] items).run (fun _ => false) ([1, 2, 5], ())
    run [1, 9, 8] = (.done (.error "locked: 9"), [1, 2, 5], ()) ∧
      run [1, 5, 2] = (.done (.error "not applied"), [2, 5], ()) := by
  intro run
  have hreturns (items : List Nat) : ∀ i ∈ items, ∀ message,
      picky.prepare i [1, 2, 5] ≠ .error (.panicked message) := by
    intro i _ message
    simp only [picky]
    split <;> simp
  have hrefused := (focus_eq_oneByOne picky 3 [1, 9, 8] (fun _ => false) [1, 2, 5] ()
    (hreturns _)).2 [2, 1, 0]
  have hfailed := (focus_eq_oneByOne picky 3 [1, 5, 2] (fun _ => false) [1, 2, 5] ()
    (hreturns _)).2 [2, 1, 0]
  exact ⟨hrefused.1.trans rfl, hfailed.1.trans rfl⟩

end ConcurrentLens

end DeltaDebugging
