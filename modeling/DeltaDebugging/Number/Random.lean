/-!
# Random numbers and choices

Additive random numbers: each is the sum of the third and the thirty-first one before it, less
its lowest bit. The first ones follow from a seed by multiplication, and some are passed over
before any is used. A fair choice among `n` numbers takes as many random bytes as it needs, and
keeps what is left of their randomness for the next one. What would favour some numbers is tried
again.
-/
namespace DeltaDebugging.Number

/-- A generator by its last thirty-one sums, the latest first. -/
structure Generator where
  recent : List Nat
  deriving DecidableEq, Repr

namespace Generator

def next (g : Generator) : Nat × Generator :=
  let n := (g.recent.getD 2 0 + g.recent.getD 30 0) % 4294967296
  (n / 2, { recent := n :: g.recent.take 30 })

def skip : Nat → Generator → Generator
  | 0, g => g
  | n + 1, g => skip n g.next.2

def ofSeed (seed : Nat) : Generator :=
  let first := if seed % 4294967296 = 0 then 1 else seed % 4294967296
  let products := (List.range 30).foldl (fun (rs : List Nat) _ => 16807 * rs.headD 0 % 2147483647 :: rs) [first]
  let oldest := products.reverse
  skip 310 { recent := (oldest.take 3).reverse ++ products.take 28 }

end Generator

structure Chooser where
  number : Nat := 0
  greatest : Nat := 0
  bytes : List Char
  deriving Repr

namespace Chooser

/-- Takes bytes until the greatest number reaches a limit. -/
def fed (limit : Nat) : (steps : Nat) → Chooser → Option Chooser
  | 0, c => some c
  | steps + 1, c =>
    if limit ≤ c.greatest then some c else
    match c.bytes with
    | [] => none
    | b :: bytes => fed limit steps
        ⟨(c.number * 256 + b.toNat) % Nat.pow 2 64, (c.greatest * 256 + 255) % Nat.pow 2 64, bytes⟩

/-- A number up to a limit; nothing if there are not enough bytes. -/
def upTo (limit : Nat) : (steps : Nat) → Chooser → Option (Nat × Chooser)
  | 0, _ => none
  | steps + 1, c => do
    let c ← fed limit 9 c
    if c.greatest = limit then return (c.number, { c with number := 0, greatest := 0 })
    let choices := limit + 1
    let excess := c.greatest - limit
    let unusable := excess % choices
    if c.number ≤ c.greatest - unusable then
      return (c.number % choices, { c with number := c.number / choices, greatest := excess / choices })
    else upTo limit steps { c with number := c.number % choices, greatest := unusable - 1 }

def below (n : Nat) (c : Chooser) : Option (Nat × Chooser) := upTo (n - 1) 200 c

end Chooser

end DeltaDebugging.Number
