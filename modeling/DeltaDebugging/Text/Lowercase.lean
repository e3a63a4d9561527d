import DeltaDebugging.Text.CaseTable

/-!
# Lower case

Full lower-casing of a text: every character has its lower-case form, the dotted
capital I becomes two characters, and a capital sigma that ends a word becomes the
final form.
-/
namespace DeltaDebugging.Text

/-- The lower-case form of a single character, seen alone. -/
def lowerChar (c : Char) : Char :=
  if c.toNat < 128 then c.toLower else
  match CaseTable.lower.find? fun r =>
      r.first ≤ c.toNat && c.toNat ≤ r.last && (c.toNat - r.first) % r.step = 0 with
  | some r => Char.ofNat ((c.toNat : Int) + r.shift).toNat
  | none => c

def inRanges (ranges : List (Nat × Nat)) (c : Char) : Bool :=
  ranges.any fun r => r.1 ≤ c.toNat && c.toNat ≤ r.2

def nextIsCased : List Char → Bool
  | [] => false
  | c :: cs =>
    if inRanges CaseTable.ignorable c then nextIsCased cs else inRanges CaseTable.cased c

/-- Lower-cases the rest of a text; `before` holds the characters passed, nearest first. -/
def lowerFrom (before : List Char) : List Char → List Char
  | [] => []
  | c :: cs =>
    let lowered :=
      if c = 'Σ' then [if nextIsCased before && !nextIsCased cs then 'ς' else 'σ']
      else if c = 'İ' then ['i', '\u0307']
      else [lowerChar c]
    lowered ++ lowerFrom (c :: before) cs

def lowercase (s : String) : String := String.ofList (lowerFrom [] s.toList)

end DeltaDebugging.Text
