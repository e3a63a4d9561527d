import DeltaDebugging.Algorithm.Ddmin
import DeltaDebugging.Algorithm.Probabilistic
import DeltaDebugging.Text.Lowercase

/-!
# Choosing an algorithm by name

Names are read in any case and have one alias; the stored form is the lower-case
name alone.
-/
namespace DeltaDebugging

inductive AlgorithmKind where
  | ddmin
  | probabilistic
  deriving DecidableEq, Repr

namespace AlgorithmKind

def name : AlgorithmKind → String
  | ddmin => "ddmin"
  | probabilistic => "probabilistic"

def ofName? (s : String) : Option AlgorithmKind :=
  if s = "ddmin" then some ddmin
  else if s = "probabilistic" then some probabilistic
  else none

/-- The kind a user means, in any case; the refusal quotes the lower-case text. -/
def parse (s : String) : Except AlgorithmError AlgorithmKind :=
  let s := Text.lowercase s
  if s = "ddmin" then .ok ddmin
  else if s = "probabilistic" || s = "probdd" then .ok probabilistic
  else .error (.invalidConfig ("unknown algorithm: " ++ s))

end AlgorithmKind

/-- The algorithm of a kind; only the probabilistic one uses the seed. -/
def Algorithm.ofKind (kind : AlgorithmKind) (limits : Limits) (seed : UInt64)
    (cancellable : Bool) : Algorithm :=
  match kind with
  | .ddmin => .ddmin limits cancellable
  | .probabilistic => .probabilistic ⟨limits, seed⟩ cancellable

end DeltaDebugging
