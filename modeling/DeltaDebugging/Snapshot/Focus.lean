import DeltaDebugging.Snapshot.Activity

/-!
# Focusing

A lens deletes items from a working context. A concurrent lens first prepares an edit
for every item against the unchanged context, several at a time, and then applies the
edits in the order of the items. The outcome does not depend on the order in which the
preparations complete.
-/
namespace DeltaDebugging

/-- Deletes items from the context `χ` amid the surroundings `τ`, or says why it cannot. -/
abbrev Lens (χ τ ι : Type) := List ι → Activity (χ × τ) (Except String Unit)

inductive PrepareError where
  | refused (cause : String)
  | panicked (message : String)
  deriving DecidableEq, Repr

structure ConcurrentLens (χ τ ι ε : Type) where
  prepare : ι → χ → Except PrepareError ε
  apply : ε → Activity (χ × τ) (Except String Unit)

/-- A preparation that was started. One that panics ends the whole run at once, so it is never
found finished. -/
inductive Slot (ι ε : Type) where
  | running (i : ι)
  | finished (r : Except String ε)

namespace Slot

variable {ι ε : Type}

def isRunning : Slot ι ε → Bool
  | running _ => true
  | finished _ => false

def inFlight (slots : List (Slot ι ε)) : Nat := (slots.filter isRunning).length

/-- The slot of a preparation that completed. If it panicked, the message is all that is left. -/
def ended : Except PrepareError ε → Except String (Slot ι ε)
  | .ok edit => .ok (finished (.ok edit))
  | .error (.refused cause) => .ok (finished (.error cause))
  | .error (.panicked message) => .error message

/-- Completes the running preparation that has `k` running ones before it. -/
def complete (prepare : ι → Except PrepareError ε) :
    (k : Nat) → List (Slot ι ε) → Except String (List (Slot ι ε))
  | _, [] => .ok []
  | k, finished r :: slots => (complete prepare k slots).map (finished r :: ·)
  | 0, running i :: slots => (ended (prepare i)).map (· :: slots)
  | k + 1, running i :: slots => (complete prepare k slots).map (running i :: ·)

theorem exists_complete_eq (prepare : ι → Except PrepareError ε) {k : Nat}
    {slots : List (Slot ι ε)} (hk : k < inFlight slots) :
    ∃ before i after, slots = before ++ running i :: after ∧
      complete prepare k slots = (ended (prepare i)).map fun s => before ++ s :: after := by
  induction slots generalizing k with
  | nil => exact absurd hk (Nat.not_lt_zero k)
  | cons s slots ih =>
    have hmap (e : Except String (Slot ι ε)) (before after : List (Slot ι ε)) :
        (e.map fun s' => before ++ s' :: after).map (s :: ·) =
          e.map fun s' => (s :: before) ++ s' :: after := by
      cases e <;> rfl
    cases s with
    | finished r =>
      obtain ⟨before, i, after, rfl, hcomplete⟩ := ih (k := k) hk
      exact ⟨finished r :: before, i, after, rfl, by rw [complete, hcomplete, hmap]⟩
    | running i =>
      cases k with
      | zero => exact ⟨[], i, slots, rfl, rfl⟩
      | succ k =>
        obtain ⟨before, j, after, rfl, hcomplete⟩ := ih (Nat.lt_of_succ_lt_succ hk)
        exact ⟨running i :: before, j, after, rfl, by rw [complete, hcomplete, hmap]⟩

/-- Work left in a window of slots: two for a running one, one for a finished one. -/
def load : List (Slot ι ε) → Nat
  | [] => 0
  | running _ :: slots => load slots + 2
  | finished _ :: slots => load slots + 1

theorem load_append (a b : List (Slot ι ε)) : load (a ++ b) = load a + load b := by
  induction a with
  | nil => simp [load]
  | cons s a ih => cases s <;> simp [load, ih] <;> omega

theorem load_map_running (l : List ι) : load (l.map (running : ι → Slot ι ε)) = 2 * l.length := by
  induction l with
  | nil => rfl
  | cons i l ih =>
    rw [List.map_cons, load, ih, List.length_cons]
    omega

theorem load_ended {r : Except PrepareError ε} {s : Slot ι ε} (h : ended r = .ok s)
    (slots : List (Slot ι ε)) : load (s :: slots) = load slots + 1 := by
  unfold ended at h
  split at h
  · obtain rfl := Except.ok.inj h
    rfl
  · obtain rfl := Except.ok.inj h
    rfl
  · cases h

theorem load_complete_lt {prepare : ι → Except PrepareError ε} {k : Nat}
    {slots slots' : List (Slot ι ε)} (h : complete prepare k slots = .ok slots')
    (hk : k < inFlight slots) : load slots' < load slots := by
  obtain ⟨before, i, after, rfl, hcomplete⟩ := exists_complete_eq prepare hk
  rw [hcomplete] at h
  cases hended : (ended (prepare i) : Except String (Slot ι ε)) with
  | error message =>
    rw [hended] at h
    cases h
  | ok s =>
    rw [hended] at h
    obtain rfl := Except.ok.inj h
    rw [load_append, load_append, load_ended hended, load]
    omega

end Slot

namespace ConcurrentLens

variable {χ τ ι ε : Type}

def concurrency (limit : Nat) : Nat := max limit 1

def room (limit : Nat) (window : List (Slot ι ε)) : Nat := concurrency limit - window.length

/-- Prepares the waiting items with at most `limit` started at a time and hands out the
edits in the order of the items, up to the first error. `schedule` says, step by step,
which of the running preparations completes next. -/
def prepareAll (prepare : ι → Except PrepareError ε) (limit : Nat) (schedule : List Nat)
    (window : List (Slot ι ε)) (waiting : List ι) : Except PrepareError (List ε) :=
  match window with
  | .finished (.error cause) :: _ => .error (.refused cause)
  | .finished (.ok edit) :: window =>
    (prepareAll prepare limit schedule window waiting).map (edit :: ·)
  | window =>
    let slots := window ++ (waiting.take (room limit window)).map .running
    if _ : Slot.inFlight slots = 0 then .ok [] else
    match _ : Slot.complete prepare (schedule.headD 0 % Slot.inFlight slots) slots with
    | .error message => .error (.panicked message)
    | .ok slots' =>
      prepareAll prepare limit schedule.tail slots' (waiting.drop (room limit window))
  termination_by 3 * waiting.length + Slot.load window
  decreasing_by
    · simp [Slot.load]
    · next hnone hslots =>
      have hless := Slot.load_complete_lt hslots (Nat.mod_lt _ (Nat.pos_of_ne_zero hnone))
      rw [Slot.load_append, Slot.load_map_running, List.length_take] at hless
      rw [List.length_drop]
      omega

def applyAll (lens : ConcurrentLens χ τ ι ε) : List ε → Activity (χ × τ) (Except String Unit)
  | [] => return .ok ()
  | edit :: edits => do
    match ← lens.apply edit with
    | .error cause => return .error cause
    | .ok () => lens.applyAll edits

def finish (lens : ConcurrentLens χ τ ι ε) :
    Except PrepareError (List ε) → Activity (χ × τ) (Except String Unit)
  | .error (.refused cause) => return .error cause
  | .error (.panicked message) => .panic message
  | .ok edits => lens.applyAll edits

def focus (lens : ConcurrentLens χ τ ι ε) (limit : Nat) (schedule : List Nat) : Lens χ τ ι :=
  fun items => do
    let (context, _) ← Activity.get
    lens.finish (prepareAll (lens.prepare · context) limit schedule [] items)

end ConcurrentLens

end DeltaDebugging
