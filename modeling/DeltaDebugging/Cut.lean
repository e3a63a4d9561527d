/-!
# Cuts

A cut splits the items under test into those retained and those deleted. The
algorithms only ever propose cuts read off a mask over the positions of their
input, so duplicate items are told apart by position.
-/
namespace DeltaDebugging

structure Cut (α : Type) where
  retained : List α
  deleted : List α
  deriving DecidableEq, Repr

namespace Cut

variable {α β : Type}

def empty : Cut α := ⟨[], []⟩

def size (c : Cut α) : Nat := c.retained.length + c.deleted.length

def isEmpty (c : Cut α) : Bool := c.retained.isEmpty && c.deleted.isEmpty

/-- Positions whose mask is set are retained; both sides keep the input's order. -/
def ofMask : List α → List Bool → Cut α
  | a :: items, true :: mask => let c := ofMask items mask; ⟨a :: c.retained, c.deleted⟩
  | a :: items, false :: mask => let c := ofMask items mask; ⟨c.retained, a :: c.deleted⟩
  | _, _ => empty

def mark (mask : Array Bool) (positions : List Nat) (value : Bool) : Array Bool :=
  positions.foldl (fun mask i => mask.setIfInBounds i value) mask

def maskOf (size : Nat) (kept : List Nat) : List Bool :=
  (mark (Array.replicate size false) kept true).toList

def keeping (items : List α) (kept : List Nat) : Cut α :=
  ofMask items (maskOf items.length kept)

def map (f : α → β) (c : Cut α) : Cut β := ⟨c.retained.map f, c.deleted.map f⟩

end Cut

end DeltaDebugging
