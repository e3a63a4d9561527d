import DeltaDebugging.Number.Figures

/-!
# Layouts of binary floats

A binary float is a sign, an exponent and a fraction, in fields of fixed sizes. Its text has the
fewest figures from a least number on that read back as the same float.
-/
namespace DeltaDebugging.Number

/-- How a float is laid out in bits, and how many figures its text has at least and at most. -/
structure Layout where
  fractionBits : Nat
  exponentBits : Nat
  /-- Whether the bit before the fraction is stored. -/
  leading : Bool := false
  least : Nat
  most : Nat
  deriving DecidableEq, Repr

namespace Layout

def single : Layout := { fractionBits := 23, exponentBits := 8, least := 6, most := 9 }

def double : Layout := { fractionBits := 52, exponentBits := 11, least := 15, most := 17 }

def extended : Layout :=
  { fractionBits := 63, exponentBits := 15, leading := true, least := 18, most := 21 }

/-- A finite magnitude as a multiple of a power of two, and whether the next smaller one is nearer
than the next greater one. -/
structure Magnitude where
  mantissa : Nat
  power : Int
  narrow : Bool
  /-- Whether it is less than all floats with a full mantissa. -/
  tiny : Bool

def fraction (n : Nat) (power : Int) : Nat × Nat :=
  if 0 ≤ power then (n * Nat.pow 2 power.toNat, 1) else (n, Nat.pow 2 (-power).toNat)

/-- Whether a decimal number is read as a magnitude: whether it lies nearer to it than to its
neighbours, ties going to an even mantissa. -/
def readsAs (m : Magnitude) (figures : Nat) (power : Int) : Bool :=
  let (num, den) := if 0 ≤ power then (figures * Nat.pow 10 power.toNat, 1)
    else (figures, Nat.pow 10 (-power).toNat)
  let (above, aboveDen) := fraction (2 * m.mantissa + 1) (m.power - 1)
  let (below, belowDen) := if m.narrow then fraction (4 * m.mantissa - 1) (m.power - 2)
    else fraction (2 * m.mantissa - 1) (m.power - 1)
  let (up, down) := (num * aboveDen, above * den)
  let (high, low) := (num * belowDen, below * den)
  if m.mantissa % 2 = 0 then up ≤ down && low ≤ high else up < down && low < high

def shortest (s : Shape) (negative : Bool) (m : Magnitude) (most : Nat) :
    (steps : Nat) → (figures : Nat) → String
  | 0, _ => ""
  | steps + 1, n =>
    let (num, den) := fraction m.mantissa m.power
    let (figures, exponent) := Shape.scientific (n - 1) num den
    if most ≤ n || readsAs m figures (exponent - (n - 1 : Nat)) then
      Shape.quantity { s with precision := some n } 'g' false (.finite negative num den)
    else shortest s negative m most steps (n + 1)

def text (l : Layout) (bits : Nat) : String :=
  let stored := l.fractionBits + (if l.leading then 1 else 0)
  let mantissa := bits % Nat.pow 2 stored
  let exponent := bits / Nat.pow 2 stored % Nat.pow 2 l.exponentBits
  let negative := bits / Nat.pow 2 (stored + l.exponentBits) % 2 = 1
  let unit := Nat.pow 2 l.fractionBits
  let sign := if negative then "-" else ""
  let full := if l.leading then mantissa / unit = 1 else exponent ≠ 0
  if exponent = Nat.pow 2 l.exponentBits - 1 then
    sign ++ if mantissa % unit = 0 && full then "inf" else "nan"
  else if l.leading && exponent ≠ 0 && !full then sign ++ "nan"
  else
    let whole := mantissa % unit + if full then unit else 0
    let power : Int := (max exponent 1 : Nat) - (Nat.pow 2 (l.exponentBits - 1) - 1 : Nat) - (l.fractionBits : Int)
    if whole = 0 then sign ++ "0" else
    let m : Magnitude :=
      { mantissa := whole, power, narrow := whole = unit && 1 < exponent, tiny := whole < unit }
    shortest {} negative m l.most l.most (if m.tiny then 1 else l.least)

end Layout

end DeltaDebugging.Number
