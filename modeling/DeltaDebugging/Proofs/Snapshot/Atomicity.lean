import DeltaDebugging.Proofs.Text.Document
import Mathlib.Tactic.FinCases

/-!
# Sequences of transactions

However the transactions of a sequence end, each keeps all of its change or none of it, and it
is counted as what it was. Whether they work on copies or in place cannot be told from what
they return and leave, as long as checkpoints can be taken and undo what the bodies do.
-/
namespace DeltaDebugging

variable {χ κ τ ρ β : Type}

/-- A transaction to come, and what becomes of the surroundings before it is begun. -/
structure Turn (χ τ ρ β : Type) where
  event : τ → τ := id
  body : Work χ τ ρ β

/-- A transaction of a sequence: its body, what it found, what it returned and what it left. -/
structure Transacted (χ τ ρ β : Type) where
  body : Work χ τ ρ β
  found : Manager χ
  amid : τ
  result : Except (TransactionError ρ) β
  left : Manager χ

/-- The transactions of a sequence, one after another. -/
def Manager.transactions (strategy : Strategy χ κ) (cancelled : τ → Bool) :
    List (Turn χ τ ρ β) → Manager χ → τ → List (Transacted χ τ ρ β)
  | [], _, _ => []
  | turn :: turns, m, t =>
    let r := m.transaction strategy cancelled turn.body (turn.event t)
    ⟨turn.body, m, turn.event t, r.1, r.2.1⟩ :: transactions strategy cancelled turns r.2.1 r.2.2

namespace Transacted

/-- All that the body did was kept, if it came to commit, and otherwise none of it. -/
def Atomic (cancelled : τ → Bool) (x : Transacted χ τ ρ β) : Prop :=
  match x.result with
  | .ok b => ∃ w t, x.body.run (fun s => cancelled s.2) (x.found.context, x.amid) =
      (.done (.ok b), w, t) ∧ x.left = x.found.commit w
  | .error _ => x.left = x.found.rollback x.found.context

/-- The transaction can be begun, and whatever its body does to the context can be undone. -/
def Undone (strategy : Strategy χ κ) (cancelled : τ → Bool) (x : Transacted χ τ ρ β) : Prop :=
  strategy.Takes x.found.context ∧ strategy.Undoes x.found.context x.found.context ∧
    strategy.Undoes x.found.context
      (x.body.run (fun s => cancelled s.2) (x.found.context, x.amid)).2.1

variable {cancelled : τ → Bool} {x : Transacted χ τ ρ β}

theorem Atomic.count (hx : x.Atomic cancelled) :
    x.left.commits + x.left.rollbacks = x.found.commits + x.found.rollbacks + 1 := by
  unfold Atomic at hx
  split at hx
  · obtain ⟨w, t, -, hleft⟩ := hx
    rw [hleft]
    exact Nat.add_right_comm x.found.commits 1 x.found.rollbacks
  · rw [hx]
    rfl

end Transacted

namespace Manager

variable {strategy : Strategy χ κ} {cancelled : τ → Bool} {turns : List (Turn χ τ ρ β)}
  {m : Manager χ} {t : τ}

theorem transaction_clone_atomic (m : Manager χ) (body : Work χ τ ρ β) (t : τ) :
    let r := m.transaction (.clone : Strategy χ κ) cancelled body t
    (Transacted.mk body m t r.1 r.2.1).Atomic cancelled := by
  unfold transaction
  dsimp only
  rcases hexecute : body.execute cancelled (m.context, t) with ⟨e | b, w, t'⟩
  · rfl
  · exact ⟨w, t', Work.execute_ok hexecute, rfl⟩

theorem transactions_clone_atomic (turns : List (Turn χ τ ρ β)) (m : Manager χ) (t : τ) :
    ∀ x ∈ m.transactions (.clone : Strategy χ κ) cancelled turns t, x.Atomic cancelled := by
  induction turns generalizing m t with
  | nil => simp [transactions]
  | cons turn turns ih =>
    exact List.forall_mem_cons.mpr ⟨transaction_clone_atomic m turn.body (turn.event t), ih _ _⟩

/-- A transaction finds what the one before it left, so the counters tell how many there were. -/
theorem transactions_count
    (hatomic : ∀ x ∈ m.transactions strategy cancelled turns t, x.Atomic cancelled) (i : Nat)
    (hi : i < (m.transactions strategy cancelled turns t).length) :
    (m.transactions strategy cancelled turns t)[i].left.commits +
      (m.transactions strategy cancelled turns t)[i].left.rollbacks =
        m.commits + m.rollbacks + (i + 1) := by
  induction turns generalizing m t i with
  | nil => simp [transactions] at hi
  | cons turn turns ih =>
    obtain ⟨hfirst, hrest⟩ := List.forall_mem_cons.mp hatomic
    cases i with
    | zero => exact hfirst.count
    | succ i =>
      refine (ih hrest i (Nat.lt_of_succ_lt_succ hi)).trans ?_
      have hcount := hfirst.count
      dsimp only at hcount ⊢
      omega

theorem length_transactions (strategy : Strategy χ κ) (turns : List (Turn χ τ ρ β))
    (m : Manager χ) (t : τ) :
    (m.transactions strategy cancelled turns t).length = turns.length := by
  induction turns generalizing m t with
  | nil => rfl
  | cons turn turns ih => exact congrArg (· + 1) (ih _ _)

theorem exists_turn {x : Transacted χ τ ρ β}
    (hx : x ∈ m.transactions strategy cancelled turns t) : ∃ turn ∈ turns, x.body = turn.body := by
  induction turns generalizing m t with
  | nil => simp [transactions] at hx
  | cons turn turns ih =>
    rcases List.mem_cons.mp hx with rfl | hx
    · exact ⟨turn, by simp, rfl⟩
    · obtain ⟨later, hlater, hbody⟩ := ih hx
      exact ⟨later, List.mem_cons_of_mem _ hlater, hbody⟩

theorem transactions_eq_clone
    (hundone : ∀ x ∈ m.transactions (.clone : Strategy χ κ) cancelled turns t,
      x.Undone strategy cancelled) :
    m.transactions strategy cancelled turns t =
      m.transactions (.clone : Strategy χ κ) cancelled turns t := by
  induction turns generalizing m t with
  | nil => rfl
  | cons turn turns ih =>
    obtain ⟨hfirst, hrest⟩ := List.forall_mem_cons.mp hundone
    have hsame : m.transaction strategy cancelled turn.body (turn.event t) =
        m.transaction (.clone : Strategy χ κ) cancelled turn.body (turn.event t) :=
      transaction_eq_clone hfirst.1 hfirst.2.1 hfirst.2.2
    rw [transactions, transactions, hsame, ih hrest]

/-- Without a checkpoint nothing is run. -/
theorem transaction_creationFailed {take : χ → Except String κ} {restore : κ → χ → χ}
    {reason : String} (htake : take m.context = .error reason) (body : Work χ τ ρ β) (t : τ) :
    m.transaction (.checkpoint take restore) cancelled body t =
      (.error (.creationFailed reason), m, t) := by
  simp only [transaction, htake]

end Manager

section Documents

namespace Document

/-- One call to delete a unit; a call that fails changes nothing. -/
def attempt (d : Document) (u : TextUnit) : Document :=
  match d.delete u with
  | .ok d => d
  | .error _ => d

theorem exists_attempts (d : Document) (units : List TextUnit) :
    ∃ gone, units.foldl attempt d = d.kill gone := by
  induction units generalizing d with
  | nil => exact ⟨[], (select_eq_self (by simp)).symm⟩
  | cons u units ih =>
    obtain ⟨gone, hgone⟩ := ih (d.attempt u)
    rw [List.foldl_cons, hgone, attempt]
    by_cases hu : d.Has u
    · exact ⟨d.unitLines u ++ gone, by rw [delete_eq hu, kill_kill]⟩
    · obtain ⟨cause, hcause⟩ := delete_error hu
      exact ⟨gone, by rw [hcause]⟩

/-- Deletions only touch the marks, so taking up the marks again undoes any number of them. -/
theorem undone_of_attempts {cancelled : τ → Bool} {x : Transacted Document τ ρ β}
    (hx : ∃ units : List TextUnit,
      (x.body.run (fun s => cancelled s.2) (x.found.context, x.amid)).2.1 =
        units.foldl attempt x.found.context) :
    x.Undone checkpointing cancelled := by
  obtain ⟨units, hunits⟩ := hx
  obtain ⟨gone, hgone⟩ := exists_attempts x.found.context units
  refine ⟨checkpointing_takes _, fun saved hsaved => ?_, fun saved hsaved => ?_⟩
  · rw [← Except.ok.inj hsaved]
  · rw [hunits, hgone, ← Except.ok.inj hsaved]
    rfl

end Document

end Documents

namespace Manager

/-- If the transactions of a sequence can be begun and undone, then in place they return and
leave, one after another, exactly what they do on copies. Each keeps all of its change or none,
and the counters tell how many there were. Where no checkpoint can be taken, nothing is run and
nothing changes. The marks of a document undo whatever deletions are attempted. -/
theorem transactions_atomic (strategy : Strategy χ κ) (cancelled : τ → Bool)
    (turns : List (Turn χ τ ρ β)) (m : Manager χ) (t : τ)
    (hundone : ∀ x ∈ m.transactions (.clone : Strategy χ κ) cancelled turns t,
      x.Undone strategy cancelled) :
    let copied := m.transactions (.clone : Strategy χ κ) cancelled turns t
    let guarded := m.transactions strategy cancelled turns t
    guarded = copied ∧ guarded.length = turns.length ∧ (∀ x ∈ guarded, x.Atomic cancelled) ∧
    (∀ (i : Nat) (hi : i < guarded.length), guarded[i].left.commits + guarded[i].left.rollbacks =
      m.commits + m.rollbacks + (i + 1)) ∧
    (∀ (take : χ → Except String κ) (restore : κ → χ → χ) (m : Manager χ) (body : Work χ τ ρ β)
      (t : τ) (reason : String), take m.context = .error reason →
      m.transaction (.checkpoint take restore) cancelled body t =
        (.error (.creationFailed reason), m, t)) ∧
    ∀ x : Transacted Document τ ρ β, (∃ units : List TextUnit,
      (x.body.run (fun s => cancelled s.2) (x.found.context, x.amid)).2.1 =
        units.foldl Document.attempt x.found.context) →
      x.Undone Document.checkpointing cancelled := by
  intro copied guarded
  have heq : guarded = copied := transactions_eq_clone hundone
  have hatomic : ∀ x ∈ guarded, x.Atomic cancelled := by
    rw [heq]
    exact transactions_clone_atomic turns m t
  refine ⟨heq, length_transactions _ turns m t, hatomic, transactions_count hatomic, ?_, ?_⟩
  · exact fun take restore m body t reason htake => transaction_creationFailed htake body t
  · exact fun x hx => Document.undone_of_attempts hx

/-- Attempts to delete some units of a document and then comes to its end. -/
def deleting (units : List TextUnit)
    (ending : Activity (Document × Bool) (Except (Refusal String) Nat)) :
    Work Document Bool String Nat :=
  .act (fun s => (units.foldl Document.attempt s.1, s.2)) fun _ => ending

/-- A commit, an abort, a fault, a panic, a token that fires under way, and one that had fired
before. -/
def sixTurns : List (Turn Document Bool String Nat) :=
  [{ body := deleting [.line 1, .line 9] (.done (.ok 7)) },
   { body := deleting [.block 0] (.done (.error (.abort "needed"))) },
   { body := deleting [.line 0, .block 9] (.done (.error (.fault "no block 9"))) },
   { body := deleting [.line 3] (.panic "lost") },
   { body := deleting [.line 3] (.act (fun s => (s.1, true)) fun _ => .suspend fun _ =>
      .done (.ok 9)) },
   { event := fun _ => true, body := deleting [.line 3] (.done (.ok 10)) }]

theorem transactions_atomic_sixTurns :
    let d : Document := ⟨["a", "b", "", "c"], [⟨0, 2⟩, ⟨3, 4⟩], [true, true, false, true], false⟩
    let m : Manager Document := ⟨d, 0, 0⟩
    let copied := m.transactions (.clone : Strategy Document (List Bool)) id sixTurns false
    let guarded := m.transactions Document.checkpointing id sixTurns false
    (∀ x ∈ copied, x.Undone Document.checkpointing id) ∧ guarded = copied ∧
    guarded.map (fun x => (x.left.context.alive, x.left.commits, x.left.rollbacks)) =
      [([true, false, false, true], 1, 0), ([true, false, false, true], 1, 1),
       ([true, false, false, true], 1, 2), ([true, false, false, true], 1, 3),
       ([true, false, false, true], 1, 4), ([true, false, false, true], 1, 5)] := by
  intro d m copied guarded
  have hundone : ∀ x ∈ copied, x.Undone Document.checkpointing id := by
    intro x hx
    obtain ⟨turn, hturn, hbody⟩ := exists_turn hx
    apply Document.undone_of_attempts
    rw [hbody]
    fin_cases hturn <;> exact ⟨_, rfl⟩
  exact ⟨hundone, (transactions_atomic Document.checkpointing id sixTurns m false hundone).1,
    by decide +kernel⟩

end Manager

end DeltaDebugging
