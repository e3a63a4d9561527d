import DeltaDebugging.Utility.Program

/-!
# Differences of sequences

Which elements of two sequences have no partner in the other one. A shortest edit is found by
searching from both ends until the searches meet, and then on both sides of that place. Rows of
changes are then moved, so that they are merged with others where that is possible.
-/
namespace DeltaDebugging.Utility

namespace Difference

/-- How far the searches have come on each diagonal, and where the changes are. -/
structure Search where
  forward : Array Int
  backward : Array Int
  deleted : Array Bool
  inserted : Array Bool

structure Part where
  xs : Array Nat
  ys : Array Nat
  xStart : Nat
  xStop : Nat
  yStart : Nat
  yStop : Nat

namespace Part

/-- Where diagonals are kept: the one of equal positions behind all that are below it. -/
def slot (p : Part) (diagonal : Int) : Nat := (diagonal + p.ys.size + 1).toNat

def same (p : Part) (x y : Nat) : Bool :=
  match p.xs[x]?, p.ys[y]? with
  | some a, some b => a = b
  | _, _ => false

def slideDown (p : Part) : (steps : Nat) → (x y : Nat) → Nat × Nat
  | 0, x, y => (x, y)
  | steps + 1, x, y =>
    if x < p.xStop && y < p.yStop && p.same x y then slideDown p steps (x + 1) (y + 1) else (x, y)

def slideUp (p : Part) : (steps : Nat) → (x y : Nat) → Nat × Nat
  | 0, x, y => (x, y)
  | steps + 1, x, y =>
    if p.xStart < x && p.yStart < y && p.same (x - 1) (y - 1) then slideUp p steps (x - 1) (y - 1)
    else (x, y)

end Part

structure Band where
  low : Int
  high : Int

/-- A band made wider by one on both sides, within limits; `far` marks what is beyond. -/
def widened (p : Part) (far : Int) (b : Band) (reached : Array Int) (least most : Int) : Band × Array Int :=
  let (low, reached) := if least < b.low then
      (b.low - 1, reached.setIfInBounds (p.slot (b.low - 2)) far) else (b.low + 1, reached)
  let (high, reached) := if b.high < most then
      (b.high + 1, reached.setIfInBounds (p.slot (b.high + 2)) far) else (b.high - 1, reached)
  (⟨low, high⟩, reached)

/-- One more step of the search from the start, on every other diagonal of the band from the top
on; the place where the searches meet, if they do. -/
def stepForward (p : Part) (meets : Bool) (other : Band) (bottom : Int) : (steps : Nat) → (diagonal : Int) →
    Search → Search × Option (Nat × Nat)
  | 0, _, s => (s, none)
  | steps + 1, d, s =>
    if d < bottom then (s, none) else
    let reached (d : Int) : Int := (s.forward[p.slot d]?).getD (-1)
    let (low, high) := (reached (d - 1), reached (d + 1))
    let x := if low < high then high else low + 1
    let (x, y) := p.slideDown (p.xs.size + 1) x.toNat (x - d).toNat
    let s := { s with forward := s.forward.setIfInBounds (p.slot d) x }
    if meets && other.low ≤ d && d ≤ other.high && (s.backward[p.slot d]?).getD 0 ≤ (x : Int) then
      (s, some (x, y))
    else stepForward p meets other bottom steps (d - 2) s

def stepBackward (p : Part) (meets : Bool) (other : Band) (bottom : Int) : (steps : Nat) → (diagonal : Int) →
    Search → Search × Option (Nat × Nat)
  | 0, _, s => (s, none)
  | steps + 1, d, s =>
    if d < bottom then (s, none) else
    let reached (d : Int) : Int := (s.backward[p.slot d]?).getD 0
    let (low, high) := (reached (d - 1), reached (d + 1))
    let x := if low < high then low else high - 1
    let (x, y) := p.slideUp (p.xs.size + 1) x.toNat (x - d).toNat
    let s := { s with backward := s.backward.setIfInBounds (p.slot d) x }
    if meets && other.low ≤ d && d ≤ other.high && (x : Int) ≤ (s.forward[p.slot d]?).getD (-1) then
      (s, some (x, y))
    else stepBackward p meets other bottom steps (d - 2) s

def meeting (p : Part) : (rounds : Nat) → (forward backward : Band) → Search → Search × (Nat × Nat)
  | 0, _, _, s => (s, (p.xStart, p.yStart))
  | rounds + 1, f, b, s =>
    let least : Int := (p.xStart : Int) - p.yStop
    let most : Int := (p.xStop : Int) - p.yStart
    let odd : Bool := decide ((((p.xStart : Int) - p.yStart) - ((p.xStop : Int) - p.yStop)) % 2 ≠ 0)
    let (f, forward) := widened p (-1) f s.forward least most
    let steps := p.xs.size + p.ys.size + 2
    match stepForward p odd b f.low steps f.high { s with forward } with
    | (s, some found) => (s, found)
    | (s, none) =>
      let (b, backward) := widened p (p.xs.size + p.ys.size + 2) b s.backward least most
      match stepBackward p (!odd) f b.low steps b.high { s with backward } with
      | (s, some found) => (s, found)
      | (s, none) => meeting p rounds f b s

/-- Marks the elements without partners in a part. -/
def mark : (depth : Nat) → Part → Search → Search
  | 0, _, s => s
  | depth + 1, p, s =>
    let steps := p.xs.size + 1
    let (xStart, yStart) := p.slideDown steps p.xStart p.yStart
    let p := { p with xStart, yStart }
    let (xStop, yStop) := p.slideUp steps p.xStop p.yStop
    let p := { p with xStop, yStop }
    let setBetween (a b : Nat) (flags : Array Bool) : Array Bool :=
      (List.range (b - a)).foldl (fun flags k => flags.setIfInBounds (a + k) true) flags
    if xStart = xStop then { s with inserted := setBetween yStart yStop s.inserted }
    else if yStart = yStop then { s with deleted := setBetween xStart xStop s.deleted }
    else
      let f : Int := (xStart : Int) - yStart
      let b : Int := (xStop : Int) - yStop
      let forward := s.forward.setIfInBounds (p.slot f) (xStart : Int)
      let backward := s.backward.setIfInBounds (p.slot b) (xStop : Int)
      let s := { s with forward, backward }
      let (s, x, y) := meeting p (p.xs.size + p.ys.size + 2) ⟨f, f⟩ ⟨b, b⟩ s
      let s := mark depth { p with xStop := x, yStop := y } s
      mark depth { p with xStart := x, yStart := y } s

/-- The changes between two sequences, in which elements that the other one does not have at all
are set apart before the rest is compared. -/
def changes (xs ys : Array Nat) : Array Bool × Array Bool :=
  let kept (as bs : Array Nat) : Array (Nat × Nat) :=
    as.zipIdx.filter fun e => bs.contains e.1
  let (us, vs) := (kept xs ys, kept ys xs)
  let size := us.size + vs.size + 5
  let part : Part := ⟨us.map Prod.fst, vs.map Prod.fst, 0, us.size, 0, vs.size⟩
  let s := mark (size + 2) part
    { forward := Array.replicate size (-1), backward := Array.replicate size 0
      deleted := Array.replicate us.size false, inserted := Array.replicate vs.size false }
  let back (as : Array Nat) (kept : Array (Nat × Nat)) (flags : Array Bool) : Array Bool :=
    (kept.zip flags).foldl (fun a e => a.setIfInBounds e.1.2 e.2) (Array.replicate as.size true)
  (back xs us s.deleted, back ys vs s.inserted)

/-- A row of changes on one side while it is moved, with its place on the other side. -/
structure Sliding where
  changed : Array Bool
  start : Nat
  stop : Nat
  place : Nat
  /-- The last end at which the other side had changes, too. -/
  matching : Option Nat := none

/-- Whether there is a change at a place; there is none before the first one. -/
def isSet (flags : Array Bool) (k : Nat) : Bool := (flags[k]?).getD false

def isSetBefore (flags : Array Bool) (k : Nat) : Bool := 0 < k && isSet flags (k - 1)

def pastSet (flags : Array Bool) : (steps : Nat) → Nat → Nat
  | 0, k => k
  | steps + 1, k => if isSet flags k then pastSet flags steps (k + 1) else k

/-- Back to the first of the changes right before a place. -/
def beforeSet (flags : Array Bool) : (steps : Nat) → Nat → Nat
  | 0, k => k
  | steps + 1, k => if isSetBefore flags k then beforeSet flags steps (k - 1) else k

/-- Moves a row back as long as the element before it is like its last one. -/
def slideBack (xs : Array Nat) (other : Array Bool) : (steps : Nat) → Sliding → Sliding
  | 0, s => s
  | steps + 1, s =>
    if 0 < s.start && xs[s.start - 1]? = xs[s.stop - 1]? then
      let changed := (s.changed.setIfInBounds (s.start - 1) true).setIfInBounds (s.stop - 1) false
      slideBack xs other steps
        { s with changed, start := beforeSet changed changed.size (s.start - 1), stop := s.stop - 1
                 place := lastUnset other other.size (s.place - 1) }
    else s
where
  /-- The last place at or before one where nothing is changed. -/
  lastUnset (flags : Array Bool) : (steps : Nat) → Nat → Nat
    | 0, k => k
    | steps + 1, k => if isSet flags k && 0 < k then lastUnset flags steps (k - 1) else k

/-- Moves a row forward as long as the element behind it is like its first one. -/
def slideForward (xs : Array Nat) (other : Array Bool) : (steps : Nat) → Sliding → Sliding
  | 0, s => s
  | steps + 1, s =>
    if s.stop < xs.size && xs[s.start]? = xs[s.stop]? then
      let changed := (s.changed.setIfInBounds s.start false).setIfInBounds s.stop true
      let stop := pastSet changed changed.size (s.stop + 1)
      let next := s.place + 1
      let place := pastSet other other.size next
      slideForward xs other steps
        { changed, start := s.start + 1, stop, place
          matching := if next < place then some stop else s.matching }
    else s

/-- Moves a row back and forth until it does not grow any more. -/
def settle (xs : Array Nat) (other : Array Bool) : (rounds : Nat) → Sliding → Sliding
  | 0, s => s
  | rounds + 1, s =>
    let before := s.stop - s.start
    let s := slideBack xs other (xs.size + 1) s
    let s := { s with matching := if isSetBefore other s.place then some s.stop else none }
    let s := slideForward xs other (xs.size + 1) s
    if s.stop - s.start = before then s else settle xs other rounds s

/-- Moves a row back to the last place where the other side has changes, too. -/
def restore (other : Array Bool) : (steps : Nat) → Sliding → Sliding
  | 0, s => s
  | steps + 1, s => match s.matching with
    | none => s
    | some m =>
      if m < s.stop then
        let changed := (s.changed.setIfInBounds (s.start - 1) true).setIfInBounds (s.stop - 1) false
        restore other steps { s with changed, start := s.start - 1, stop := s.stop - 1
                                     place := slideBack.lastUnset other other.size (s.place - 1) }
      else s

def shifted (xs : Array Nat) (other : Array Bool) : (rounds : Nat) → (i j : Nat) → Array Bool → Array Bool
  | 0, _, _, changed => changed
  | rounds + 1, i, j, changed =>
    if xs.size ≤ i then changed
    else if !isSet changed i then
      shifted xs other rounds (i + 1) (pastSet other other.size j + 1) changed
    else
      let stop := pastSet changed changed.size i
      let place := pastSet other other.size j
      let s := restore other (xs.size + 1)
        (settle xs other (xs.size + 1) { changed, start := i, stop, place })
      shifted xs other rounds s.stop s.place s.changed

/-- A change: from where elements are deleted and how many, and where others are inserted. -/
structure Change where
  old : Nat
  deleted : Nat
  new : Nat
  inserted : Nat
  deriving DecidableEq, Repr

def script (deleted inserted : Array Bool) : (steps : Nat) → (i j : Nat) → List Change
  | 0, _, _ => []
  | steps + 1, i, j =>
    if deleted.size ≤ i && inserted.size ≤ j then []
    else if isSet deleted i || isSet inserted j then
      let a := pastSet deleted deleted.size i
      let b := pastSet inserted inserted.size j
      ⟨i, a - i, j, b - j⟩ :: script deleted inserted steps a b
    else script deleted inserted steps (i + 1) (j + 1)

def edit (xs ys : Array Nat) : List Change :=
  let (deleted, inserted) := changes xs ys
  let deleted := shifted xs inserted (xs.size + 1) 0 0 deleted
  let inserted := shifted ys deleted (ys.size + 1) 0 0 inserted
  script deleted inserted (xs.size + ys.size + 2) 0 0

end Difference

end DeltaDebugging.Utility
