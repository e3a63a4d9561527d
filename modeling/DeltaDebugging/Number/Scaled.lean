/-!
# Sizes with units

A size is told in the greatest unit that it reaches, with one figure behind the point while it
has only one before it. What is lost is rounded to the nearest, with ties to the even figure, or
upwards.
-/
namespace DeltaDebugging.Number

/-- A size as whole units and tenths of the unit with some exponent, and what is left: nothing,
less than half a tenth, a half, or more. -/
structure Scaled where
  whole : Nat
  tenths : Nat := 0
  left : Nat := 0
  exponent : Nat := 0
  deriving DecidableEq, Repr

namespace Scaled

def reduce (base : Nat) : (steps : Nat) → Scaled → Scaled
  | 0, s => s
  | steps + 1, s =>
    if s.whole < base then s else
    let r10 := s.whole % base * 10 + s.tenths
    let r2 := r10 % base * 2 + s.left / 2
    let left := if r2 < base then (if r2 + s.left = 0 then 0 else 1)
      else if base < r2 + s.left then 3 else 2
    reduce base steps ⟨s.whole / base, r10 / base, left, s.exponent + 1⟩

def figures (upwards : Bool) (base : Nat) (s : Scaled) : String × Nat :=
  let short := s.exponent ≠ 0 && s.whole < 10
  let s := if short && (if upwards then 0 < s.left else 2 < s.left + s.tenths % 2) then
      if s.tenths = 9 then { s with whole := s.whole + 1, tenths := 0, left := 0 }
      else { s with tenths := s.tenths + 1, left := 0 }
    else s
  if short && s.whole < 10 then (toString s.whole ++ "." ++ toString s.tenths, s.exponent) else
  let more := if upwards then 0 < s.tenths + s.left
    else 5 < s.tenths + (if 0 < s.left + s.whole % 2 then 1 else 0)
  let whole := if more then s.whole + 1 else s.whole
  if whole = base && s.exponent < 8 then ("1.0", s.exponent + 1) else (toString whole, s.exponent)

end Scaled

/-- A size in the greatest unit it reaches: its figures and the letter of the unit. -/
def scaled (upwards : Bool) (base n : Nat) : String × String :=
  let (text, exponent) := Scaled.figures upwards base (Scaled.reduce base 8 { whole := n })
  let letter := match exponent with
    | 0 => ""
    | 1 => if base = 1000 then "k" else "K"
    | e => (("MGTPEZY".toList[e - 2]?).map String.singleton).getD ""
  (text, letter)

def byteSize (base n : Nat) : String :=
  let (text, letter) := scaled false base n
  text ++ " " ++ letter ++ (if base = 1024 && !letter.isEmpty then "i" else "") ++ "B"

end DeltaDebugging.Number
