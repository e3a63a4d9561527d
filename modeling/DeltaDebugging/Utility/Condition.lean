import DeltaDebugging.Shell.Condition
import DeltaDebugging.Utility.Program

/-!
# Conditions as a program

Conditions on files, texts and numbers, read by the number of arguments as long as there are
few, and by operators that bind closer or less close otherwise.
-/
namespace DeltaDebugging.Utility

namespace Tested

structure Place where
  rest : List String
  /-- The last of all arguments. -/
  last : String
  /-- What stands behind the arguments. -/
  behind : Option String

abbrev Reader := EStateM String Place

def peek : Reader (Option String) := return (← get).rest.head?

def left : Reader Nat := return (← get).rest.length

def beyond : Reader α := do throw ("missing argument after " ++ Text.literalQuote (← get).last)

def next : Reader String := do
  match (← get).rest with
  | [] => beyond
  | a :: rest =>
    modify fun p => { p with rest }
    return a

def isBinary (op : String) : Bool :=
  ["=", "!=", "==", "-nt", "-ot", "-ef", "-eq", "-ne", "-lt", "-le", "-gt", "-ge"].contains op

def isUnary (op : String) : Bool :=
  match op.toList with
  | ['-', c] => "bcdefghkLnNOGprsStuwxz".toList.contains c
  | _ => false

def isFlag (a : String) : Bool := a.length = 2 && a.toList.head? = some '-'

def integer (s : String) : Reader Int := do
  let blank (c : Char) : Bool := c = ' ' || c = '\t'
  let cs := ((s.toList.dropWhile blank).reverse.dropWhile blank).reverse
  let (negative, ds) := match cs with
    | '-' :: ds => (true, ds)
    | '+' :: ds => (false, ds)
    | ds => (false, ds)
  match natural? (String.ofList ds) with
  | some n => return if negative then -n else n
  | none => throw ("invalid integer " ++ Text.literalQuote s)

/-- A comparison; a length stands for a text where one is asked for. -/
def binary (f : Files) : Reader Bool := do
  let side : Reader (String × Option Nat) := do
    if (← peek) = some "-l" && 2 ≤ (← left) then
      let _ ← next
      let s ← next
      return (s, some s.length)
    return (← next, none)
  let (a, m) ← if 4 ≤ (← left) then side else pure (← next, none)
  let op ← next
  let (b, n) ← if 2 ≤ (← left) then side else pure (← next, none)
  let number (s : String) (n : Option Nat) : Reader Int := do
    match n with
    | some n => return n
    | none => integer s
  let compared (holds : Int → Int → Bool) : Reader Bool := do return holds (← number a m) (← number b n)
  match op with
  | "=" => return decide (a = b)
  | "==" => return decide (a = b)
  | "!=" => return decide (a ≠ b)
  | "-eq" => compared fun x y => x = y
  | "-ne" => compared fun x y => x ≠ y
  | "-lt" => compared fun x y => x < y
  | "-le" => compared fun x y => x ≤ y
  | "-gt" => compared fun x y => y < x
  | "-ge" => compared fun x y => y ≤ x
  | "-nt" => match f.look? a, f.look? b with
    | some x, some y => return decide (y.changed < x.changed)
    | x, _ => return x.isSome
  | "-ot" => match f.look? a, f.look? b with
    | some x, some y => return decide (x.changed < y.changed)
    | _, y => return y.isSome
  | _ => return match f.locate true a, f.locate true b with
    | .ok (_, n, _), .ok (_, m, _) => decide (n = m)
    | _, _ => false

def unary (f : Files) : Reader Bool := do
  let op ← next
  if !isUnary op then throw (Text.literalQuote op ++ ": unary operator expected")
  let a ← next
  if op = "-t" then
    let _ ← integer a
    return false
  return Shell.Condition.unaryHolds f op a

def oneArgument : Reader Bool := return !(← next).isEmpty

def twoArguments (f : Files) : Reader Bool := do
  match (← get).rest with
  | "!" :: _ =>
    let _ ← next
    return !(← oneArgument)
  | a :: _ =>
    if isFlag a then unary f
    else
      let _ ← next
      let _ ← next
      beyond
  | [] => beyond

mutual

def disjunction (f : Files) : (steps : Nat) → Reader Bool
  | 0 => beyond
  | steps + 1 => do
    let value ← conjunction f steps
    if (← peek) = some "-o" then
      let _ ← next
      let other ← disjunction f steps
      return value || other
    return value

def conjunction (f : Files) : (steps : Nat) → Reader Bool
  | 0 => beyond
  | steps + 1 => do
    let value ← term f steps
    if (← peek) = some "-a" then
      let _ ← next
      let other ← conjunction f steps
      return value && other
    return value

def term (f : Files) : (steps : Nat) → Reader Bool
  | 0 => beyond
  | steps + 1 => do
    match (← get).rest with
    | [] => beyond
    | "!" :: _ =>
      let _ ← next
      if (← left) = 0 then beyond
      return !(← term f steps)
    | "(" :: _ =>
      let _ ← next
      if (← left) = 0 then beyond
      let inside := ((← get).rest.tail.takeWhile (· ≠ ")")).length + 1
      let all ← left
      let value ← counted f steps (if 4 < inside then all else inside)
      match (← get).rest with
      | ")" :: _ =>
        let _ ← next
        return value
      | a :: _ => throw (Text.literalQuote ")" ++ " expected, found " ++ Text.literalQuote a)
      | [] => throw (Text.literalQuote ")" ++ " expected" ++ match (← get).behind with
        | some a => ", found " ++ Text.literalQuote a
        | none => "")
    | as =>
      let op := (as[1]?).getD ""
      if (4 ≤ as.length && as.head? = some "-l" && isBinary ((as[2]?).getD "")) ||
          (3 ≤ as.length && isBinary op) then binary f
      else if isFlag (as.headD "") then unary f
      else oneArgument

def threeArguments (f : Files) : (steps : Nat) → Reader Bool
  | 0 => beyond
  | steps + 1 => do
    match (← get).rest with
    | a :: op :: b :: _ =>
      if isBinary op then binary f
      else if a = "!" then
        let _ ← next
        return !(← twoArguments f)
      else if a = "(" && b = ")" then
        let _ ← next
        let value ← oneArgument
        let _ ← next
        return value
      else if op = "-a" || op = "-o" then disjunction f steps
      else throw (Text.literalQuote op ++ ": binary operator expected")
    | _ => beyond

/-- A condition of so many arguments. -/
def counted (f : Files) : (steps : Nat) → (count : Nat) → Reader Bool
  | 0, _ => beyond
  | steps + 1, count => do
    match count with
    | 1 => oneArgument
    | 2 => twoArguments f
    | 3 => threeArguments f steps
    | 4 => match (← get).rest with
      | "!" :: _ =>
        let _ ← next
        return !(← threeArguments f steps)
      | "(" :: _ :: _ :: ")" :: _ =>
        let _ ← next
        let value ← twoArguments f
        let _ ← next
        return value
      | _ => disjunction f steps
    | _ => disjunction f steps

end

def holds (f : Files) (arguments : List String) (behind : Option String) : Except String Bool :=
  if arguments.isEmpty then .ok false else
  let whole : Reader Bool := do
    let value ← counted f (4 * arguments.length + 8) arguments.length
    match ← peek with
    | some a => throw ("extra argument " ++ Text.literalQuote a)
    | none => return value
  match whole { rest := arguments, last := (arguments.getLast?).getD "", behind } with
  | .ok value _ => .ok value
  | .error e _ => .error e

end Tested

open Program in
/-- A condition whose arguments a bracket closes if one opened them. -/
def condition (bracketed : Bool) : Program Nat := do
  let given ← arguments
  let given ← if !bracketed then pure given
    else if given.getLast? = some "]" then pure given.dropLast
    else die ("missing " ++ Text.literalQuote "]") 2
  match Tested.holds (← files) given (if bracketed then some "]" else none) with
  | .ok value => return if value then 0 else 1
  | .error e => die e 2

end DeltaDebugging.Utility
