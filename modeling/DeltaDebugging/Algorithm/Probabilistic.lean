import DeltaDebugging.Algorithm.Basic
import DeltaDebugging.Random.ChaCha
import DeltaDebugging.Number.Binary

/-!
# Probabilistic delta debugging

Every position carries an estimate of the probability that it is needed. A round
deletes the group of least likely positions that promises the most deletions; if
the trial fails, the estimates of the group are raised by conditioning on at least
one of them being needed. Ties between equal estimates follow random keys drawn
once from the seed.
-/
namespace DeltaDebugging

structure ProbabilisticLimits where
  base : Limits := {}
  seed : UInt64 := 0
  deriving DecidableEq, Repr

namespace Probabilistic

variable {α : Type}

/-- From here on an item counts as needed. -/
def certain : Float := 1.0 - 1e-9

def epsilon : Float := 1.0 / 4503599627370496.0

def initialProbability (size : Nat) : Float := 1.0 - ((-2.0) / size.toFloat).exp

/-- Estimates and tie-breaking keys by position. -/
structure Estimates where
  probabilities : Array Float
  keys : Array UInt64

namespace Estimates

def initial (seed : UInt64) (size : Nat) : Estimates where
  probabilities := Array.replicate size (initialProbability size)
  keys := (ChaCha.words seed size).toArray

def probability (e : Estimates) (i : Nat) : Float := e.probabilities.getD i 0.0

def key (e : Estimates) (i : Nat) : UInt64 := e.keys.getD i 0

/-- More likely positions first, then the smaller key. -/
def precedes (e : Estimates) (i j : Nat) : Bool :=
  let p := Number.totalRank (e.probability i)
  let q := Number.totalRank (e.probability j)
  if p = q then e.key i ≤ e.key j else q < p

def sort (e : Estimates) (order : List Nat) : List Nat := order.mergeSort e.precedes

/-- The estimates after a trial of `group` failed that had all of it unneeded with
probability `p`. -/
def raise (e : Estimates) (group : List Nat) (p : Float) : Estimates :=
  let denominator := 1.0 - p
  let raised (q : Float) : Float :=
    let r := if denominator ≤ epsilon then 1.0 else q / denominator
    if r ≥ certain then 1.0 else r
  { e with
    probabilities := group.foldl (fun ps i => ps.modify i raised) e.probabilities }

end Estimates

/-- How many of the positions, least likely first, to delete together, and the
probability that none of them is needed. Another one is taken while the expected
number of deletions does not fall; the last one is never taken. -/
def selectFrom (e : Estimates) : List Nat → (taken : Nat) → (p : Float) → Nat × Float
  | i :: j :: rest, taken, p =>
    if p > 0.0 then
      let next := p * (1.0 - e.probability i)
      if next * (taken + 1).toFloat ≥ p * taken.toFloat then
        selectFrom e (j :: rest) (taken + 1) next
      else (taken, p)
    else (taken, p)
  | _, taken, p => (taken, p)

def select (e : Estimates) (order : List Nat) : Nat × Float :=
  selectFrom e order.reverse 0 1.0

/-- Rounds over the positions left, most likely first, at most `remaining` of them. The
mask `keep` is set at the positions left; a round clears it at the positions it deletes
and sets it there again if the trial fails. -/
def rounds (limits : Limits) (cancellable : Bool) (items : List α) :
    (remaining : Nat) → (keep : Array Bool) → (order : List Nat) → Estimates → Statistics →
      Attempt AlgorithmError α (Array Bool × Statistics)
  | remaining, keep, order, e, s =>
    if order.length ≤ 1 || order.length ≤ limits.minSize then return (keep, s) else
    if (order.getLast?.map e.probability).any (fun p => p ≥ certain) then
      return (keep, s)
    else match remaining with
    | 0 => throw (.maxIterationsReached limits.maxIterations)
    | remaining + 1 => do
      Attempt.check cancellable .cancelled
      let (taken, p) := select e order
      let taken := min taken (order.length - limits.minSize)
      let left := order.take (order.length - taken)
      let group := order.drop (order.length - taken)
      let keep := Cut.mark keep group false
      let v ← Attempt.trial cancellable (Cut.ofMask items keep.toList)
      let s := s.afterTrial v
      if v.isHolds then
        rounds limits cancellable items remaining keep left e s
      else
        let e := e.raise group p
        rounds limits cancellable items remaining (Cut.mark keep group true)
          (e.sort (left ++ group)) e s

def minimize (limits : ProbabilisticLimits) (cancellable : Bool) (items : List α) :
    Attempt AlgorithmError α (Outcome α) := do
  limits.base.validate
  if items.length ≤ 1 then
    return Outcome.ofCut ⟨items, []⟩ {}
  let e := Estimates.initial limits.seed items.length
  let (keep, s) ←
    rounds limits.base cancellable items limits.base.maxIterations
      (Array.replicate items.length true) (e.sort (List.range items.length)) e {}
  return Outcome.ofCut (Cut.ofMask items keep.toList) s

end Probabilistic

def Algorithm.probabilistic (limits : ProbabilisticLimits) (cancellable : Bool) : Algorithm where
  name := "probabilistic"
  description := "Probabilistic delta debugging driven by per-item necessity estimates"
  cancellable := cancellable
  minimize := Probabilistic.minimize limits cancellable

end DeltaDebugging
