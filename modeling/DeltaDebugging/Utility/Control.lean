import DeltaDebugging.Text.Format
import DeltaDebugging.Utility.Lines

/-!
# Utilities that print, and running others

Programs that print what they are told or let time pass, and how a utility runs another program.
-/
namespace DeltaDebugging.Utility

open Program

def echo : Program Nat := do
  let rec split (newline escapes : Bool) : List String → Bool × Bool × List String
    | [] => (newline, escapes, [])
    | a :: rest => match a.toList with
      | '-' :: c :: cs =>
        if (c :: cs).all fun c => c = 'n' || c = 'e' || c = 'E' then
          let escapes := match (c :: cs).reverse.find? fun c => c ≠ 'n' with
            | some 'e' => true
            | some _ => false
            | none => escapes
          split (newline && !(c :: cs).contains 'n') escapes rest
        else (newline, escapes, a :: rest)
      | _ => (newline, escapes, a :: rest)
  let (newline, escapes, words) := split true false (← arguments)
  let text := String.intercalate " " words
  let (text, goesOn) := if escapes then Escape.replaceIn true text else (text, true)
  put (if newline && goesOn then text ++ "\n" else text)
  return 0

def formatWording : Format.Wording where
  notNumeric s := Text.literalQuote s ++ ": expected a numeric value"
  notWhole s := Text.literalQuote s ++ ": value not completely converted"
  outOfRange s := Text.literalQuote s ++ ": Numerical result out of range"
  shell := false
  missingLetter s := s ++ ": invalid conversion specification"
  badDirective s := s ++ ": invalid conversion specification"

def printf : Program Nat := do
  match ← arguments with
  | [] => misuse "missing operand" 1
  | first :: rest =>
    let all := if first = "--" then rest else first :: rest
    match all with
    | [] => misuse "missing operand" 1
    | format :: values =>
      let (pieces, fatal) := Format.format formatWording format values
      for piece in pieces do
        match piece with
        | .text s => put s
        | .complaint s =>
          complain s
          raise 1
        | .warning s => complain s
      match fatal with
      | some text => die text 1
      | none => return 0

def yes : Program Nat := do
  let p ← parsed { choices := [] }
  let line := (if p.operands.isEmpty then "y" else String.intercalate " " p.operands) ++ "\n"
  put (String.join (List.replicate (65536 / line.length + 1) line))
  match ← flush with
  | some e =>
    complain ("standard output: " ++ e.reason)
    return 1
  | none => throw .endless

def interval? (s : String) : Option Nat :=
  let (body, factor) : List Char × Nat := match s.toList.getLast? with
    | some 's' => (s.toList.dropLast, 1)
    | some 'm' => (s.toList.dropLast, 60)
    | some 'h' => (s.toList.dropLast, 3600)
    | some 'd' => (s.toList.dropLast, 86400)
    | _ => (s.toList, 1)
  match Number.floatAt? body with
  | some (x, []) =>
    if x < 0 || x.isNaN then none
    else if x.isInf || 1e12 < x then some (Nat.pow 10 15)
    else some ((x * 1000).ceil.toUInt64.toNat * factor)
  | _ => none

def sleep : Program Nat := do
  let p ← parsed { choices := [] }
  if p.operands.isEmpty then misuse "missing operand" 1
  let bad := p.operands.filter fun a => (interval? a).isNone
  if !bad.isEmpty then
    for a in bad do complain ("invalid time interval " ++ Text.literalQuote a)
    tell (← hint)
    exit 1
  wait ((p.operands.filterMap interval?).foldl (· + ·) 0)
  return 0

/-- Runs another program with the same descriptors, and gives how it ended. A fault tells why it
could not be run. -/
def runOther (start : Runner) (command : List String) (environment : List (String × String)) :
    Program (Except FileFault Fate) := do
  let _ ← flush
  let i ← invocation
  match (← files).programPath (command.headD "") ((environment.lookup "PATH").getD defaultSearchPath) with
  | .error e => return .error e
  | .ok path =>
    if command.any fun a => maximalArgument < a.length then return .error .tooLong
    let s ← system
    let (o, s) := start { i with path, name := command.headD "", arguments := command.tail, environment }
      { s with processes := s.processes + 1 }
    setSystem s
    if o = .endless then throw .endless
    return .ok o

/-- What a command that a shell runs writes to its standard output. -/
def shellOutput (start : Runner) (name text : String) : Program (List Char) := do
  let i ← invocation
  let (s, reader, writer) := (← system).addPipe ""
  let descriptors := (1, writer) :: i.descriptors.filter fun d => d.1 ≠ 1
  let (fate, s) := start { i with path := "/bin/sh", name, arguments := ["-c", text], descriptors }
    { s with processes := s.processes + 1 }
  setSystem s
  if fate = .endless then throw .endless
  match s.contents reader with
  | .ok (cs, endless) =>
    if endless then throw .endless
    return cs
  | .error _ => return []

end DeltaDebugging.Utility
