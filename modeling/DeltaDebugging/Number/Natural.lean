/-!
# Natural numbers

The sum of a list, and how many values a machine word has.
-/
namespace DeltaDebugging.Number

def total : List Nat → Nat
  | [] => 0
  | n :: ns => n + total ns

theorem total_perm {ms ns : List Nat} (h : ms.Perm ns) : total ms = total ns := by
  induction h with
  | nil => rfl
  | cons _ _ ih => simp [total, ih]
  | swap => simp [total, Nat.add_left_comm]
  | trans _ _ ih₁ ih₂ => exact ih₁.trans ih₂

theorem total_le_of_sublist {ms ns : List Nat} (h : ms.Sublist ns) : total ms ≤ total ns := by
  induction h with
  | slnil => exact Nat.le_refl _
  | cons _ _ ih => exact Nat.le_trans ih (Nat.le_add_left _ _)
  | cons_cons _ _ ih => exact Nat.add_le_add_left ih _

def wordCount : Nat := 0x10000000000000000

end DeltaDebugging.Number
