/-!
# Levels

The items minimized together in one step of a hierarchical run, each item once.
Building a level from a list keeps the first occurrence of every item.
-/
namespace DeltaDebugging

variable {α : Type}

/-- The list without repetitions, each item at its first position. -/
def distinct [DecidableEq α] : List α → List α
  | [] => []
  | a :: l => a :: (distinct l).filter (fun b => decide (b ≠ a))

theorem mem_distinct [DecidableEq α] {l : List α} {a : α} : a ∈ distinct l ↔ a ∈ l := by
  induction l with
  | nil => simp [distinct]
  | cons b l ih => by_cases h : a = b <;> simp [distinct, ih, h]

theorem nodup_distinct [DecidableEq α] (l : List α) : (distinct l).Nodup := by
  induction l with
  | nil => simp [distinct]
  | cons b l ih =>
    simp only [distinct, List.nodup_cons, List.mem_filter, decide_eq_true_eq]
    exact ⟨fun h => h.2 rfl, ih.filter _⟩

structure Level (α : Type) where
  items : List α
  nodup : items.Nodup
  deriving DecidableEq

namespace Level

def empty : Level α := ⟨[], List.nodup_nil⟩

def ofList [DecidableEq α] (l : List α) : Level α := ⟨distinct l, nodup_distinct l⟩

def size (l : Level α) : Nat := l.items.length

def isEmpty (l : Level α) : Bool := l.items.isEmpty

@[simp] theorem mem_ofList [DecidableEq α] {l : List α} {a : α} :
    a ∈ (ofList l).items ↔ a ∈ l := mem_distinct

@[simp] theorem isEmpty_ofList [DecidableEq α] (l : List α) : (ofList l).isEmpty = l.isEmpty := by
  cases l <;> rfl

end Level

end DeltaDebugging
