/-!
# Binary numbers read exactly, and durations

A finite binary floating-point number is `m · 2^q` for integers `m` and `q`.
This module reads a `Float` that way and rounds it to a fixed number of decimal
places in exact arithmetic, a tie going to the even neighbour. It also orders
all floats totally by their bits. A duration is written in the largest unit of which
it holds at least one, with as many decimal places as it needs: `0ns`, `1.5µs`, `2ms`,
`1.000000001s`.
-/
namespace DeltaDebugging.Number

/-- Rounds `num / den` to an integer, a tie going to the even neighbour. -/
def roundDiv (num den : Nat) : Nat :=
  let q := num / den
  let r := 2 * (num % den)
  if r < den then q else if den < r then q + 1 else if q % 2 = 0 then q else q + 1

def magnitude (x : Float) : Nat × Nat :=
  let bits := x.toBits.toNat
  let fraction := bits % Nat.pow 2 52
  let exponent := bits / Nat.pow 2 52 % Nat.pow 2 11
  if exponent = 0 then (fraction, Nat.pow 2 1074)
  else if exponent ≥ 1075 then ((Nat.pow 2 52 + fraction) * Nat.pow 2 (exponent - 1075), 1)
  else (Nat.pow 2 52 + fraction, Nat.pow 2 (1075 - exponent))

def padded (width n : Nat) : String :=
  let digits := toString n
  String.ofList (List.replicate (width - digits.length) '0') ++ digits

/-- The number with exactly `places` digits after the point. -/
def fixed (places : Nat) (x : Float) : String :=
  if x.isNaN then "NaN" else
  let sign := if x.toBits.toNat ≥ Nat.pow 2 63 then "-" else ""
  if x.isInf then sign ++ "inf" else
  let (num, den) := magnitude x
  let scaled := roundDiv (num * Nat.pow 10 places) den
  let whole := toString (scaled / Nat.pow 10 places)
  if places = 0 then sign ++ whole
  else sign ++ whole ++ "." ++ padded places (scaled % Nat.pow 10 places)

/-- A rank that orders all floats: negative ones by falling bits, the others by rising bits. -/
def totalRank (x : Float) : Int :=
  let bits := x.toBits.toNat
  if bits < Nat.pow 2 63 then (bits : Int) else -((bits - Nat.pow 2 63 : Nat) : Int) - 1

structure Duration where
  nanoseconds : Nat
  deriving DecidableEq, Repr

namespace Duration

def ofSeconds (s : Nat) : Duration := ⟨s * Nat.pow 10 9⟩

/-- The digits of a fraction without the zeros that end it, behind the point. -/
def fraction (digits : String) : String :=
  let kept := (digits.toList.reverse.dropWhile (· == '0')).reverse
  if kept.isEmpty then "" else "." ++ String.ofList kept

def inUnit (places : Nat) (unit : String) (n : Nat) : String :=
  toString (n / Nat.pow 10 places) ++ fraction (padded places (n % Nat.pow 10 places)) ++ unit

def render (d : Duration) : String :=
  let n := d.nanoseconds
  if n ≥ Nat.pow 10 9 then inUnit 9 "s" n
  else if n ≥ Nat.pow 10 6 then inUnit 6 "ms" n
  else if n ≥ Nat.pow 10 3 then inUnit 3 "µs" n
  else inUnit 0 "ns" n

end Duration

end DeltaDebugging.Number
