/-!
# Verdicts

What a tester says about one configuration: the property still holds, it was
lost, or the tester could not decide. Only `holds` ever commits a deletion.
-/
namespace DeltaDebugging

inductive Verdict where
  | holds
  | lost
  | unknown
  deriving DecidableEq, Repr

namespace Verdict

def isHolds : Verdict → Bool
  | holds => true
  | _ => false

/-- The wording of a refusal; a confirmed configuration has none. -/
def message? : Verdict → Option String
  | holds => none
  | lost => some "property does not hold"
  | unknown => some "property could not be decided"

@[simp] theorem isHolds_iff (v : Verdict) : v.isHolds = true ↔ v = holds := by
  cases v <;> simp [isHolds]

@[simp] theorem isHolds_eq_false_iff (v : Verdict) : v.isHolds = false ↔ v ≠ holds := by
  cases v <;> simp [isHolds]

end Verdict

end DeltaDebugging
