import Std.Data.HashMap
import DeltaDebugging.Number.Random
import DeltaDebugging.Utility.Lines
import DeltaDebugging.Utility.Numeral

/-!
# Lines in random order

Lines, words or numbers in an order that random bytes decide. A few lines out of many are taken
while they are read, each later one in place of an earlier one with falling probability.
-/
namespace DeltaDebugging.Utility

open Program Number

namespace Shuffling

/-- Work that chooses, and fails if the random bytes run out. -/
abbrev Choosing := StateT Chooser Option

def choose (n : Nat) : Choosing Nat := fun c => c.below n

/-- The first places of a random order of so many places. Places that were exchanged are kept in
a table. -/
def permutation (count : Nat) : (wanted : Nat) → (index : Nat) → Std.HashMap Nat Nat → Choosing (List Nat)
  | 0, _, _ => return []
  | wanted + 1, i, moved => do
    let j := i + (← choose (count - i))
    let here := moved.getD i i
    let there := moved.getD j j
    let more ← permutation count wanted (i + 1) (moved.insert j here)
    return there :: more

/-- A sample of some lines, with each line that is read later in place of one of them or of none. -/
def sample (size : Nat) : List String → (seen : Nat) → Array String → Choosing (Array String)
  | rest, seen, kept => do
    match rest with
    | [] =>
      -- the choice for a line that does not come
      if size ≤ seen then
        let _ ← choose (seen + 1)
      return kept
    | l :: rest =>
      if seen < size then sample size rest (seen + 1) (kept.push l)
      else
        let j ← choose (seen + 1)
        sample size rest (seen + 1) (if h : j < kept.size then kept.set j l h else kept)

def noise (seed count : Nat) : List Char :=
  let rec go : Nat → Number.Generator → List Char
    | 0, _ => []
    | n + 1, g =>
      let (x, g) := g.next
      Char.ofNat (x / 64 % 256) :: go n g
  go count (Number.Generator.ofSeed seed)

def readRange (text : String) : Program (Nat × Nat) := do
  let bad (reason : String) : Program (Nat × Nat) :=
    die ("invalid input range: " ++ Text.literalQuote text ++ reason) 1
  let cs := text.toList
  let low := cs.takeWhile (· ≠ '-')
  match numeral 10 false "" (String.ofList low), cs.drop low.length with
  | (_, some .tooLarge), _ => bad ": Value too large for defined data type"
  | (a, none), '-' :: high =>
    match numeral 10 false "" (String.ofList high) with
    | (_, some .tooLarge) => bad ": Value too large for defined data type"
    | (b, none) => if b < a then bad "" else return (a.toNat, b.toNat)
    | _ => bad ""
  | _, _ => bad ""

def single (p : Parsed) (key complaint : String) : Program (Option String) := do
  match p.values key with
  | [] => return none
  | v :: rest =>
    if rest.any (· ≠ v) then die complaint 1
    return some v

/-- The most that is printed of what never ends. -/
def endlessCount : Nat := 20000

end Shuffling

open Shuffling in
def shuf : Program Nat := do
  let p ← parsed { choices := ["e,echo", "i,input-range:", "n,head-count:", "o,output:", "random-source:", "r,repeat",
    "z,zero-terminated"] }
  let ends := if p.has "z" then '\x00' else '\n'
  if 1 < (p.values "i").length then die "multiple -i options specified" 1
  let range ← match p.value? "i" with
    | some t => some <$> readRange t
    | none => pure none
  let mut wanted : Option Nat := none
  for v in p.values "n" do
    match numeral 10 false "" v with
    | (n, none) => wanted := some (match wanted with
        | some m => min m n.toNat
        | none => n.toNat)
    | (_, some .tooLarge) => pure ()
    | _ => die ("invalid line count: " ++ Text.literalQuote v) 1
  let most := wanted
  let target ← single p "o" "multiple output files specified"
  let source ← single p "random-source" "multiple random sources specified"
  if p.has "e" && range.isSome then misuse "cannot combine -e and -i options" 1
  let allowed := if p.has "e" then p.operands.length else if range.isSome then 0 else 1
  match p.operands[allowed]? with
  | some extra => misuse ("extra operand " ++ Text.literalQuote extra) 1
  | none => pure ()
  let path := p.operands.headD "-"
  let nothing := most = some 0
  let reads := !nothing && !p.has "e" && range.isNone
  let s ← system
  let given := (← opening? 0).bind s.opening?
  let whole : Bool := path ≠ "-" || match given.map Opening.target with
    | some (.node n) => match (s.files.node? n).map FileNode.kind with
      | some (.regular _) => true
      | _ => false
    | _ => false
  let lines ← if !reads then pure p.operands else
    match ← operand path with
    | .ok cs => pure ((linesOf ends cs).map String.ofList)
    | .error (.unopened e) => die (Text.shellName path ++ ": " ++ e.reason) 1
    | .error (.unreadable e) => die ("read error: " ++ e.reason) 1
  let count := if nothing then 0 else match range with
    | some (a, b) => b - a + 1
    | none => lines.length
  let text (n : Nat) : String := match range with
    | some (a, _) => toString (a + n)
    | none => (lines[n]?).getD ""
  let ahead := if p.has "r" then most.getD endlessCount else min (most.getD count) count
  let bytes ← match source with
    | none => pure (noise (s.clock + 7 * s.processes + 1) (8 * (ahead + count) + 64))
    | some name => match ← beginningOf name with
      | .ok (cs, _) => pure cs
      | .error (.unopened e) => die (Text.shellName name ++ ": " ++ e.reason) 1
      | .error (.unreadable e) => die (Text.literalQuote name ++ ": read error: " ++ e.reason) 1
  let table := lines.toArray
  let work : Choosing (List String) := do
    if p.has "r" then
      if count = 0 then return []
      (List.range ahead).mapM fun _ => do
        let n ← choose count
        return if range.isSome then text n else table.getD n ""
    else if reads && most.isSome && !whole then
      let kept ← sample (most.getD count) lines 0 #[]
      let order ← permutation kept.size kept.size 0 {}
      return order.map fun n => kept.getD n ""
    else
      let order ← permutation count ahead 0 {}
      return order.map fun n => if range.isSome then text n else table.getD n ""
  match work { bytes } with
  | none => die (Text.literalQuote (source.getD "") ++ ": end of file") 1
  | some (texts, _) =>
    let all := String.join (texts.map fun t => t ++ String.singleton ends)
    if p.has "r" && count = 0 && !nothing then die "no lines to repeat" 1
    match target with
    | some path => match ← replaceFile path all with
      | some e => die (Text.shellName path ++ ": " ++ e.reason) 1
      | none => pure ()
    | none => put all
    if p.has "r" && most.isNone then throw .endless
    return 0

end DeltaDebugging.Utility
