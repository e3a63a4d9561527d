import DeltaDebugging.Utility.Options

/-!
# Numbers in arguments

A number in an argument is a row of digits with blanks and a sign before it and a unit behind
it. It has to fit into a machine word, and its unit has to be one of those that the option
allows. Complaints differ by what is wrong and by who asked.
-/
namespace DeltaDebugging.Utility

inductive NumeralFault where
  | malformed
  | unit
  | tooLarge
  | unitAndTooLarge
  deriving DecidableEq, Repr

namespace Numeral

def power? (c : Char) : Option Nat :=
  [('k', 1), ('K', 1), ('m', 2), ('M', 2), ('g', 3), ('G', 3), ('t', 4), ('T', 4), ('P', 5), ('E', 6),
    ('Z', 7), ('Y', 8)].lookup c

/-- The factor of a unit and what stands behind it. A zero among the allowed units allows a `B` or
`iB` behind one. -/
def factor? (units : String) : List Char → Option (Nat × List Char)
  | [] => some (1, [])
  | c :: cs =>
    if !units.toList.contains c then none
    else if c = 'b' then some (512, cs)
    else if c = 'B' then some (1024, cs)
    else if c = 'c' then some (1, cs)
    else if c = 'w' then some (2, cs)
    else (power? c).map fun n =>
      let wide := units.toList.contains '0'
      match cs with
      | 'i' :: 'B' :: rest => if wide then (Nat.pow 1024 n, rest) else (Nat.pow 1024 n, cs)
      | 'B' :: rest => if wide then (Nat.pow 1000 n, rest) else (Nat.pow 1024 n, cs)
      | 'D' :: rest => if wide then (Nat.pow 1000 n, rest) else (Nat.pow 1024 n, cs)
      | _ => (Nat.pow 1024 n, cs)

def digit? (base : Nat) (c : Char) : Option Nat :=
  let n := if c.isDigit then c.toNat - '0'.toNat
    else if 'a' ≤ c && c ≤ 'f' then c.toNat - 'a'.toNat + 10
    else if 'A' ≤ c && c ≤ 'F' then c.toNat - 'A'.toNat + 10 else 16
  if n < base then some n else none

/-- The base that a number is written in if it is to show it, and its digits. -/
def based (cs : List Char) : Nat × List Char :=
  match cs with
  | '0' :: x :: d :: rest =>
    if (x = 'x' || x = 'X') && (digit? 16 d).isSome then (16, d :: rest) else (8, cs)
  | '0' :: _ => (8, cs)
  | _ => (10, cs)

end Numeral

open Numeral in
/-- A number that may be negative if `signed` holds. Base 0 lets the number itself show its base.
Past the limits of its word the nearest limit is meant. -/
def numeral (base : Nat) (signed : Bool) (units : String) (s : String) : Int × Option NumeralFault :=
  let cs := s.toList.dropWhile fun c => c = ' ' || ('\t' ≤ c && c ≤ '\r')
  let negative := cs.head? = some '-'
  let bare := if negative || cs.head? = some '+' then cs.tail else cs
  let (base, ds) := if base = 0 then based bare else (base, bare)
  let digits := ds.takeWhile fun c => (digit? base c).isSome
  if negative && !signed then (0, some .malformed) else
  if digits.isEmpty && !(s.toList.head?.any units.toList.contains) then
    (0, some .malformed)
  else
    let n := if digits.isEmpty then 1 else
      digits.foldl (fun n c => n * base + (digit? base c).getD 0) 0
    let rest := ds.drop digits.length
    let limit : Nat := if !signed then Nat.pow 2 64 - 1 else if negative then Nat.pow 2 63 else Nat.pow 2 63 - 1
    let value (n : Nat) : Int := if negative then -(min n limit : Nat) else (min n limit : Nat)
    match factor? units rest with
    | none => (value n, some (if limit < n then .unitAndTooLarge else .unit))
    | some (f, rest) =>
      let large := limit < n || limit < n * f
      let fault : Option NumeralFault := match large, rest.isEmpty with
        | false, true => none
        | false, false => some .unit
        | true, true => some .tooLarge
        | true, false => some .unitAndTooLarge
      (value (n * f), fault)

namespace Program

/-- A number within bounds; the complaint tells what it counts. -/
def numeralWithin (what : String) (low high : Int) (units text : String) (status : Nat := 1)
    (base : Nat := 10) : Program Int := do
  let bad (reason : String) : Program Int :=
    die (what ++ ": " ++ Text.literalQuote text ++ reason) status
  match numeral base (decide (low < 0)) units text with
  | (n, none) =>
    if low ≤ n && n ≤ high then return n
    else bad (if 1073741823 < n || n < -1073741824 then ": Value too large for defined data type"
      else ": Numerical result out of range")
  | (_, some .tooLarge) => bad ": Value too large for defined data type"
  | _ => bad ""

def badNumeral (spelled text : String) (status : Nat) : NumeralFault → Program α
  | .malformed => die ("invalid " ++ spelled ++ " argument '" ++ text ++ "'") status
  | .tooLarge => die (spelled ++ " argument '" ++ text ++ "' too large") status
  | _ => die ("invalid suffix in " ++ spelled ++ " argument '" ++ text ++ "'") status

/-- The number that an option was given, which is told as it was spelled. -/
def numeralOf (spelled units text : String) (status : Nat := 1) (base : Nat := 10) : Program Nat := do
  match numeral base false units text with
  | (n, none) => return n.toNat
  | (_, some fault) => badNumeral spelled text status fault

/-- The names of files that a list holds, each ended by a null character. -/
def namesOf (cs : List Char) : List String := (go [] cs).map String.ofList
where
  go (name : List Char) : List Char → List (List Char)
    | [] => if name.isEmpty then [] else [name.reverse]
    | c :: cs => if c = '\x00' then name.reverse :: go [] cs else go (c :: name) cs

end Program

end DeltaDebugging.Utility
