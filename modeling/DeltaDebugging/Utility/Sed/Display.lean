import DeltaDebugging.Text.Escape
import DeltaDebugging.Utility.Sed.Script

/-!
# Showing editing scripts

An instruction is shown in a form of its own, whatever the script looked like, and a text being
worked on with all that cannot be printed made visible.
-/
namespace DeltaDebugging.Utility.Sed

/-- A byte made visible. High ones are taken as negative numbers. -/
def visibleByte (c : Char) : String :=
  if c = '\\' then "\\\\"
  else if ' ' ≤ c && c ≤ '~' then String.singleton c
  else match ([('\x07', "\\a"), ('\x0c', "\\f"), ('\n', "\\n"), ('\r', "\\r"), ('\t', "\\t"),
      ('\x0b', "\\v")] : List (Char × String)).lookup c with
    | some s => s
    | none =>
      let n := if c.toNat < 0x80 then c.toNat else 0xffffff00 + c.toNat
      let digits := String.ofList (Nat.toDigits 8 n)
      "\\o" ++ String.ofList (List.replicate (3 - digits.length) '0') ++ digits

def visibleText (cs : List Char) : String := String.join (cs.map visibleByte)

namespace Sought

def shown (s : Sought) : String :=
  "/" ++ String.join (s.text.map fun c => if c = '/' then "\\/" else visibleByte c) ++ "/"

def shownFlags (s : Sought) (folds lines : String) : String :=
  (if s.folds then folds else "") ++ (if s.lines then lines else "")

end Sought

def Address.shown : Address → String
  | line n => toString n
  | every first step => toString first ++ "~" ++ toString step
  | last => "$"
  | regex r => r.shown ++ r.shownFlags "I" "M"

def Limit.shown : Limit → String
  | .at a => a.shown
  | after n => if n = 0 then "[ADDR-NULL]" else "+" ++ toString n
  | multiple n => if n = 0 then "[ADDR-NULL]" else "~" ++ toString n

def Lines.shown : Lines → String
  | all => ""
  | single a => a.shown
  | range a b => a.shown ++ "," ++ b.shown

/-- The change of case that a segment begins with, if it is not the one before. -/
def Segment.shownChange (s : Segment) : String :=
  match s.first, s.casing with
  | .upper, _ => "\\u"
  | .lower, _ => "\\l"
  | .plain, .upper => "\\U"
  | .plain, .lower => "\\L"
  | .plain, .plain => "\\E"

/-- Segments in a row, behind a change of case and one for a first character. -/
def shownSegments (casing first : Casing) : List Segment → String
  | [] => ""
  | s :: ss =>
    (if s.casing = casing && s.first = first then "" else s.shownChange) ++ String.ofList s.text ++
      (match s.group with
        | some 0 => "&"
        | some n => "\\" ++ toString n
        | none => "") ++ shownSegments s.casing s.first ss

def Substitution.shown (s : Substitution) : String :=
  s.sought.shown ++ shownSegments .plain .plain s.replacement ++ "/" ++ s.sought.shownFlags "i" "m" ++
    (if s.everywhere then "g" else "") ++ (if s.runs then "e" else "") ++ (if s.prints then "p" else "") ++
    (if s.first = 0 then "" else toString s.first) ++
    (match s.file with
      | some path => "w" ++ path
      | none => "")

/-- A command, where `labels` gives the labels of places. -/
def Command.shown (labels : Nat → Option String) : Command → String
  | block _ => "\x7b"
  | close => "\x7d"
  | mark l => ":" ++ l
  | append t => "a\\" ++ t
  | insert t => "i\\" ++ t
  | change t => "c\\" ++ t
  | branch n => "b" ++ label n
  | branchIfChanged n => "t" ++ label n
  | branchUnlessChanged n => "T" ++ label n
  | delete => "d"
  | deleteFirst => "D"
  | execute t => "e " ++ t
  | print => "p"
  | printFirst => "P"
  | hold => "h"
  | holdMore => "H"
  | get => "g"
  | getMore => "G"
  | exchange => "x"
  | next => "n"
  | nextMore => "N"
  | quit n => "q" ++ number n
  | quitSilently n => "Q" ++ number n
  | readFile path => "r " ++ path
  | readBefore path => "r " ++ path
  | readLine path => "R " ++ path
  | writeFile path => "w" ++ path
  | writeFirst path => "W" ++ path
  | .number => "="
  | fileName => "F"
  | list n => "l" ++ number n
  | empty => "z"
  | translate pairs => "y/" ++ chars (pairs.map Prod.fst) ++ "/" ++ chars (pairs.map Prod.snd) ++ "/"
  | substitute s => "s" ++ s.shown
where
  label (n : Nat) : String := match labels n with
    | some l => " " ++ l
    | none => ""
  number : Option Nat → String
    | some n => " " ++ toString n
    | none => ""
  chars (cs : List Char) : String := String.ofList (Octets.ofCharacters cs)

def labelAt (script : Array Instruction) (place : Nat) : Option String :=
  match (script[place]?).map Instruction.command with
  | some (.mark l) => some l
  | _ => none

/-- An instruction within some blocks on a line of its own, and the blocks that the next one is in. -/
def Instruction.shown (script : Array Instruction) (blocks : Nat) (i : Instruction) : String × Nat :=
  let blocks := if i.command = .close then blocks - 1 else blocks
  let text := i.lines.shown ++ (if i.negated then (if i.lines = .all then "!" else "! ") else "") ++
    (if i.lines = .all || i.negated then "" else " ") ++ i.command.shown (labelAt script)
  let isBlock := match i.command with
    | .block _ => true
    | _ => false
  (String.join (List.replicate blocks "  ") ++ text ++ "\n", if isBlock then blocks + 1 else blocks)

def shownScript (script : Array Instruction) : String :=
  (script.foldl (fun (acc : String × Nat) i =>
    let (text, blocks) := i.shown script acc.2
    (acc.1 ++ text, blocks)) ("SED PROGRAM:\n", 1)).1

end DeltaDebugging.Utility.Sed
