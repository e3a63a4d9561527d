import Std.Data.HashMap
import DeltaDebugging.Utility.Lines

/-!
# Total orders from pairs

Puts items that are given by pairs of an earlier and a later one into one row. As often as
nothing is without a predecessor a cycle is told and broken at one of its pairs.
-/
namespace DeltaDebugging.Utility

open Program

namespace Precedence

structure Item where
  /-- How many predecessors are left. -/
  count : Nat := 0
  /-- The successors, the latest first, each as often as it was given. -/
  successors : List String := []
  printed : Bool := false
  /-- The next item on the path that is searched for a cycle. -/
  next : Option String := none

structure State where
  items : Std.HashMap String Item := {}
  /-- The first item of the path that is searched. -/
  path : Option String := none

namespace State

def item (s : State) (name : String) : Item := s.items.getD name {}

def modify (s : State) (name : String) (f : Item → Item) : State :=
  { s with items := s.items.insert name (f (s.item name)) }

def relate (s : State) (earlier later : String) : State :=
  let s := (s.modify earlier id).modify later id
  if earlier = later then s else
  (s.modify later fun i => { i with count := i.count + 1 }).modify earlier fun i =>
    { i with successors := later :: i.successors }

/-- Prints items that wait, and those that lose their last predecessor by that. -/
def drain (s : State) : (steps : Nat) → (waiting : List String) → State × List String
  | 0, _ => (s, [])
  | _, [] => (s, [])
  | steps + 1, name :: waiting =>
    let s := s.modify name fun i => { i with printed := true }
    let (s, freed) := (s.item name).successors.foldl (fun (s, freed) k =>
      let s := s.modify k fun i => { i with count := i.count - 1 }
      (s, if (s.item k).count = 0 then k :: freed else freed)) (s, [])
    let (s, more) := drain s steps (waiting ++ freed.reverse)
    (s, name :: more)

/-- The items of the path from its first one up to one, and those behind it. -/
def chain (s : State) (last : String) : (steps : Nat) → (name : String) → List String
  | 0, _ => []
  | steps + 1, name =>
    if name = last then [name] else
    match (s.item name).next with
    | some next => name :: chain s last steps next
    | none => [name]

/-- Goes on with the search at an item; a cycle that ends there is given and broken. -/
def seek (s : State) (k : String) : State × Option (List String) :=
  let i := s.item k
  if i.count = 0 then (s, none) else
  match s.path with
  | none => ({ s with path := some k }, none)
  | some first =>
    if !i.successors.contains first then (s, none)
    else if i.next.isNone then
      ({ s.modify k (fun i => { i with next := some first }) with path := some k }, none)
    else
      let cycle := s.chain k (s.items.size + 1) first
      let s := s.modify k fun i => { i with successors := i.successors.erase first }
      let s := s.modify first fun i => { i with count := i.count - 1 }
      let items := s.items.fold (fun (t : Std.HashMap String Item) name i => t.insert name { i with next := none })
        (∅ : Std.HashMap String Item)
      ({ s with items, path := none }, some cycle)

/-- Goes through all items until a cycle is found. -/
def seekAll (names : List String) : (steps : Nat) → State → State × List String
  | 0, s => (s, [])
  | steps + 1, s =>
    let rec go : List String → State → State × Option (List String)
      | [], s => (s, none)
      | k :: ks, s => match s.seek k with
        | (s, some cycle) => (s, some cycle)
        | (s, none) => go ks s
    match go names s with
    | (s, some cycle) => (s, cycle)
    | (s, none) => if s.path.isSome then seekAll names steps s else (s, [])

end State

def order (file : String) (names : List String) : (steps : Nat) → State → Program Unit
  | 0, _ => return
  | steps + 1, s => do
    let ready := names.filter fun k => (s.item k).count = 0 && !(s.item k).printed
    let (s, done) := s.drain (names.length + 1) ready
    for k in done do putLine k
    if names.any fun k => !(s.item k).printed then
      complain (file ++ ": input contains a loop:")
      let (s, cycle) := State.seekAll names (names.length * names.length + 4) s
      for k in cycle do complain k
      raise 1
      order file names steps s

end Precedence

open Precedence in
/-- Puts items into an order that keeps to all pairs. -/
def tsort : Program Nat := do
  let p ← parsed { choices := [] }
  match p.operands with
  | _ :: extra :: _ => misuse ("extra operand " ++ Text.literalQuote extra) 1
  | _ => pure ()
  let path := p.operands.headD "-"
  let cs ← match ← operand path with
    | .ok cs => pure cs
    | .error (.unopened e) => die (Text.shellName path ++ ": " ++ e.reason) 1
    | .error (.unreadable e) => die (Text.shellName path ++ ": read error: " ++ e.reason) 1
  let text := String.ofList (cs.map fun c => if c = '\n' || c = '\t' then ' ' else c)
  let words := (text.splitOn " ").filter fun (w : String) => !w.isEmpty
  let rec relations : List String → State → State
    | a :: b :: rest, s => relations rest (s.relate a b)
    | _, s => s
  if words.length % 2 = 1 then die (Text.shellName path ++ ": input contains an odd number of tokens") 1
  let s := relations words {}
  let names := (s.items.toList.map Prod.fst).mergeSort fun a b => a ≤ b
  order (Text.shellName path) names (words.length + 1) s
  return 0

end DeltaDebugging.Utility
