/-!
# Disjoint sets

A partition of `0 … n-1` kept as a forest: every element points towards the root of
its set. A search shortens the path it walked, and a union hangs the lower tree
below the higher one. A walk up never takes more steps than there are elements.
-/
namespace DeltaDebugging

structure UnionFind where
  parent : Array Nat
  /-- An upper bound of the height below each root. -/
  rank : Array Nat
  setCount : Nat
  deriving DecidableEq, Repr

namespace UnionFind

def singletons (n : Nat) : UnionFind :=
  ⟨(List.range n).toArray, Array.replicate n 0, n⟩

def size (u : UnionFind) : Nat := u.parent.size

def isEmpty (u : UnionFind) : Bool := u.parent.isEmpty

/-- Where `x` points; an element outside the partition points to itself. -/
def up (parent : Array Nat) (x : Nat) : Nat := parent.getD x x

def rootWithin (parent : Array Nat) : (steps : Nat) → Nat → Nat
  | 0, x => x
  | steps + 1, x =>
    if up parent x = x then x else rootWithin parent steps (up parent x)

def root (u : UnionFind) (x : Nat) : Nat := rootWithin u.parent u.size x

def compress (root : Nat) : (steps : Nat) → Array Nat → Nat → Array Nat
  | 0, parent, _ => parent
  | steps + 1, parent, x =>
    if up parent x = root then parent
    else compress root steps (parent.setIfInBounds x root) (up parent x)

def find (u : UnionFind) (x : Nat) : Nat × UnionFind :=
  let r := u.root x
  (r, { u with parent := compress r u.size u.parent x })

def link (u : UnionFind) (x y : Nat) : UnionFind :=
  { u with parent := u.parent.setIfInBounds y x, setCount := u.setCount - 1 }

/-- Merges the sets of `x` and `y` and returns the new representative. Of two trees of
equal rank the second is hung below the first. -/
def union (u : UnionFind) (x y : Nat) : Nat × UnionFind :=
  let (rx, u) := u.find x
  let (ry, u) := u.find y
  if rx = ry then (rx, u) else
  let kx := u.rank.getD rx 0
  let ky := u.rank.getD ry 0
  if kx < ky then (ry, u.link ry rx)
  else if ky < kx then (rx, u.link rx ry)
  else
    let u := u.link rx ry
    (rx, { u with rank := u.rank.setIfInBounds rx (kx + 1) })

def connected (u : UnionFind) (x y : Nat) : Bool × UnionFind :=
  let (rx, u) := u.find x
  let (ry, u) := u.find y
  (decide (rx = ry), u)

/-- Puts `x` at the end of the group of `root`, among groups in ascending order of roots. -/
def file (root x : Nat) : List (Nat × List Nat) → List (Nat × List Nat)
  | [] => [(root, [x])]
  | (r, group) :: groups =>
    if root < r then (root, [x]) :: (r, group) :: groups
    else if root = r then (r, group ++ [x]) :: groups
    else (r, group) :: file root x groups

def fileAll : List Nat → List (Nat × List Nat) → UnionFind → List (Nat × List Nat) × UnionFind
  | [], groups, u => (groups, u)
  | x :: xs, groups, u =>
    let (r, u) := u.find x
    fileAll xs (file r x groups) u

def place (group : List Nat) : List (List Nat) → List (List Nat)
  | [] => [group]
  | g :: groups =>
    if group.headD 0 ≤ g.headD 0 then group :: g :: groups else g :: place group groups

/-- Every set of more than one member, ordered by smallest member, and the forest after the
searches that this takes. -/
def gather (u : UnionFind) : List (List Nat) × UnionFind :=
  let (groups, u) := fileAll (List.range u.size) [] u
  let large := (groups.map Prod.snd).filter fun group => decide (1 < group.length)
  (large.foldr place [], u)

def groups (u : UnionFind) : List (List Nat) := u.gather.1

end UnionFind

end DeltaDebugging
