import DeltaDebugging.Regex.Parser
import DeltaDebugging.Utility.Lines

/-!
# Turning texts around

Records in reverse order, and lines with their characters in reverse order.
-/
namespace DeltaDebugging.Utility

open Program

namespace Records

/-- Where a separator is found last that starts before a place and ends at most there. -/
def lastBefore? (found? : List Char → Nat → Option (Nat × Nat)) (cs : List Char) : (place : Nat) →
    Option (Nat × Nat)
  | 0 => none
  | n + 1 => match found? cs n with
    | some span => some span
    | none => lastBefore? found? cs n

/-- Where the separators are, the last one first. -/
def separators (found? : (whole : List Char) → (start : Nat) → Option (Nat × Nat)) :
    (steps : Nat) → List Char → List (Nat × Nat)
  | 0, _ => []
  | steps + 1, cs => match lastBefore? found? cs cs.length with
    | none => []
    | some (a, b) => (a, b) :: separators found? steps (cs.take a)

/-- The records of a text from the last one on. A separator belongs to the record before it, or
behind it. -/
def reversed (before : Bool) (cs : List Char) (spans : List (Nat × Nat)) : List (List Char) :=
  let cuts := spans.map fun s => if before then s.1 else s.2
  -- what ends the text does not begin a record
  let cuts := if !before && cuts.head? = some cs.length then cuts.tail else cuts
  go cs.length cuts
where
  go (finish : Nat) : List Nat → List (List Char)
    | [] => [cs.take finish]
    | a :: rest => (cs.take finish).drop a :: go a rest

end Records

open Records in
/-- Prints records in reverse order. -/
def tac : Program Nat := do
  let p ← parsed { choices := ["b,before", "r,regex", "s,separator:"] }
  let separator := (p.value? "s").getD "\n"
  if p.has "r" && separator.isEmpty then die "separator cannot be empty" 1
  let pattern : Option Regex.Parsed ← if !p.has "r" then pure none else
    match Regex.parse .mixed (Octets.characters separator.toList) with
    | .ok r => pure (some r)
    | .error e => die e 1
  let plain := if separator.isEmpty then ['\x00'] else separator.toList
  let literal (cs : List Char) (a : Nat) : Option (Nat × Nat) :=
    if plain.isPrefixOf (cs.drop a) then some (a, a + plain.length) else none
  let text (path : String) : Unread → String
    | .unopened e => "failed to open " ++ Text.shellQuote path ++ " for reading: " ++ e.reason
    | .unreadable .isDirectory => Text.shellName path ++ ": read error: Invalid argument"
    | .unreadable e => Text.shellName path ++ ": read error: " ++ e.reason
  eachInput (inputs p) 1 text fun _ bytes => do
    let records := match pattern with
      | none => reversed (p.has "b") bytes (separators literal (bytes.length + 1) bytes)
      | some r =>
        let cs := Octets.characters bytes
        let found (cs : List Char) (a : Nat) : Option (Nat × Nat) :=
          (Regex.matchAt? { text := cs.toArray, lines := true, wide := true } r.regex a).map fun (m : Regex.Spot) =>
            (a, m.position)
        (reversed (p.has "b") cs (separators found (cs.length + 1) cs)).map Octets.ofCharacters
    put (String.ofList records.flatten)
  return 0

def rev : Program Nat := do
  whenUnwritten fun e =>
    if e = .badDescriptor then ([], 0) else (["write error: " ++ e.reason], 1)
  let p ← parsed { choices := ["V", "h"] }
  let text (path : String) (e : Unread) : String := "cannot open " ++ path ++ ": " ++ e.fault.reason
  eachInput (inputs p) 1 text fun _ cs => do
    let lines := linesOf '\n' cs
    let closed := cs.getLast? = some '\n'
    put (String.intercalate "\n" (lines.map fun l => String.ofList (Octets.onCharacters List.reverse l)) ++
      (if closed then "\n" else ""))
  return 0

end DeltaDebugging.Utility
