import DeltaDebugging.Number.Figures

/-!
# Arithmetic on extended floats

Sums, products and the order of numbers with 64 significant bits. Each operation is exact but
for one rounding at its end.
-/
namespace DeltaDebugging.Number.Quantity

def zero : Quantity := .finite false 0 1

def rounded (negative : Bool) (num den : Nat) : Quantity :=
  if num = 0 then .finite negative 0 1 else Numeral.extended.rounded negative num den

def isNegative : Quantity → Bool
  | nan negative => negative
  | infinite negative => negative
  | finite negative _ _ => negative

def isZero : Quantity → Bool
  | finite _ n _ => n = 0
  | _ => false

def signed (negative : Bool) (n : Nat) : Int := if negative then -n else n

/-- The sum. Zero is negative only as the sum of negative zeros. -/
def plus : Quantity → Quantity → Quantity
  | nan s, _ => nan s
  | _, nan s => nan s
  | infinite s, infinite t => if s = t then infinite s else nan true
  | infinite s, _ => infinite s
  | _, infinite s => infinite s
  | finite s a b, finite t c d =>
    let n := signed s (a * d) + signed t (c * b)
    if n = 0 then .finite (s && t) 0 1 else rounded (decide (n < 0)) n.natAbs (b * d)

def times (x : Quantity) (k : Nat) : Quantity := match x with
  | finite s a b => rounded s (a * k) b
  | infinite s => if k = 0 then nan true else infinite s
  | nan s => nan s

def negated : Quantity → Quantity
  | nan s => nan s
  | infinite s => infinite !s
  | finite s a b => finite (!s) a b

/-- The product of finite numbers; others stay what they are. -/
def product : Quantity → Quantity → Quantity
  | finite s a b, finite t c d => rounded (s != t) (a * c) (b * d)
  | finite _ _ _, y => y
  | x, _ => x

/-- The quotient of finite numbers, of which the second is not zero. -/
def quotient : Quantity → Quantity → Quantity
  | finite s a b, finite t c d => if c = 0 then infinite (s != t) else rounded (s != t) (a * d) (b * c)
  | finite _ _ _, y => y
  | x, _ => x

def ofNat (n : Nat) : Quantity := rounded false n 1

/-- The part of a finite number before the point, without its sign. -/
def whole : Quantity → Nat
  | finite _ a b => a / b
  | _ => 0

def isBroken : Quantity → Bool
  | finite _ a b => a % b ≠ 0
  | _ => false

/-- Whether a number reaches a positive one, without regard to its sign. -/
def reaches (x : Quantity) (n : Nat) : Bool := match x with
  | finite _ a b => n * b ≤ a
  | _ => false

/-- Whether a number comes before another one; what is no number never does. -/
def isLess : Quantity → Quantity → Bool
  | nan _, _ => false
  | _, nan _ => false
  | infinite s, infinite t => s && !t
  | infinite s, _ => s
  | _, infinite t => !t
  | finite s a b, finite t c d => signed s (a * d) < signed t (c * b)

def equals (x y : Quantity) : Bool := match x, y with
  | nan _, _ => false
  | _, nan _ => false
  | x, y => !x.isLess y && !y.isLess x

end DeltaDebugging.Number.Quantity
