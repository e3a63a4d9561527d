/-!
# Prefix trees

A finite map from sequences to values. The nodes live in one array and refer to
their children by index; the root is node 0 and children are always appended, so
every index stored in a node is one of the array's.
-/
namespace DeltaDebugging

structure TrieNode (κ β : Type) where
  children : List (κ × Nat) := []
  value : Option β := none

structure Trie (κ β : Type) where
  nodes : Array (TrieNode κ β)
  /-- How many keys hold a value. -/
  size : Nat

namespace Trie

variable {κ β : Type} [DecidableEq κ]

def empty : Trie κ β := ⟨#[{}], 0⟩

def isEmpty (t : Trie κ β) : Bool := t.size == 0

def node (nodes : Array (TrieNode κ β)) (i : Nat) : TrieNode κ β := nodes.getD i {}

def child? (nodes : Array (TrieNode κ β)) (i : Nat) (k : κ) : Option Nat :=
  (node nodes i).children.lookup k

def walk? (nodes : Array (TrieNode κ β)) : Nat → List κ → Option Nat
  | i, [] => some i
  | i, k :: key => (child? nodes i k).bind fun j => walk? nodes j key

def get? (t : Trie κ β) (key : List κ) : Option β :=
  (walk? t.nodes 0 key).bind fun i => (node t.nodes i).value

/-- The node reached from `i` along a key, appending the steps that are missing. -/
def descend (nodes : Array (TrieNode κ β)) : Nat → List κ → Array (TrieNode κ β) × Nat
  | i, [] => (nodes, i)
  | i, k :: key =>
    match child? nodes i k with
    | some j => descend nodes j key
    | none =>
      let j := nodes.size
      let parent := node nodes i
      let nodes := nodes.setIfInBounds i { parent with children := (k, j) :: parent.children }
      descend (nodes.push {}) j key

def insert (t : Trie κ β) (key : List κ) (b : β) : Option β × Trie κ β :=
  let (nodes, i) := descend t.nodes 0 key
  let target := node nodes i
  let nodes := nodes.setIfInBounds i { target with value := some b }
  (target.value, ⟨nodes, if target.value.isNone then t.size + 1 else t.size⟩)

/-- Drops every node but the root, and what the root holds. -/
def clear (t : Trie κ β) : Trie κ β := ⟨(t.nodes.take 1).setIfInBounds 0 {}, 0⟩

end Trie

end DeltaDebugging
