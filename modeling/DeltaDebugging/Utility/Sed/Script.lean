import DeltaDebugging.Regex.Basic
import DeltaDebugging.Regex.Parser

/-!
# Editing scripts

A script is a row of instructions, each with the lines it is for and a command. Blocks and
branches are given by the place of the instruction at which they go on.
-/
namespace DeltaDebugging.Utility.Sed

/-- An expression to look for; without one, the expression used last is meant. -/
structure Sought where
  regex : Option Regex
  /-- The expression as it was written. -/
  text : List Char := []
  folds : Bool := false
  lines : Bool := false
  /-- The expression on bytes, if it does not have to see whole characters. -/
  encoded : Option Regex := none
  deriving DecidableEq, Repr

inductive Address where
  | line (n : Nat)
  /-- Every `step`-th line from the first one. -/
  | every (first step : Nat)
  | last
  | regex (r : Sought)
  deriving DecidableEq, Repr

inductive Limit where
  | at (a : Address)
  | after (lines : Nat)
  | multiple (n : Nat)
  deriving DecidableEq, Repr

inductive Lines where
  | all
  | single (a : Address)
  | range (a : Address) (b : Limit)
  deriving DecidableEq, Repr

inductive Casing where
  | plain
  | upper
  | lower
  deriving DecidableEq, Repr

def Casing.change : Casing → Char → Char
  | .plain, c => c
  | .upper, c => Text.upperChar c
  | .lower, c => Text.lowerChar c

/-- A part of a replacement: a text, a group behind it, the change of case for both, and the one
for the first character. -/
structure Segment where
  text : List Char := []
  group : Option Nat := none
  casing : Casing := .plain
  first : Casing := .plain
  deriving DecidableEq, Repr

structure Substitution where
  sought : Sought
  replacement : List Segment
  everywhere : Bool := false
  /-- The first match that is replaced; zero if none was named. -/
  first : Nat := 0
  prints : Bool := false
  /-- Whether the outcome is run as a command, and whether what is printed is still the command. -/
  runs : Bool := false
  printsCommand : Bool := false
  file : Option String := none
  deriving DecidableEq, Repr

inductive Command where
  | block (size : Nat)
  /-- The end of a block. -/
  | close
  /-- A place to go on at. -/
  | mark (label : String)
  | append (text : String)
  | insert (text : String)
  | change (text : String)
  | branch (target : Nat)
  | branchIfChanged (target : Nat)
  | branchUnlessChanged (target : Nat)
  | delete
  | deleteFirst
  /-- Runs a command; without one, the line is the command. -/
  | execute (text : String)
  | print
  | printFirst
  | hold
  | holdMore
  | get
  | getMore
  | exchange
  | next
  | nextMore
  | quit (status : Option Nat)
  | quitSilently (status : Option Nat)
  | readFile (path : String)
  /-- The file comes in front of the line. -/
  | readBefore (path : String)
  | readLine (path : String)
  | writeFile (path : String)
  | writeFirst (path : String)
  | number
  | fileName
  | list (width : Option Nat)
  | empty
  | translate (pairs : List (Char × Char))
  | substitute (s : Substitution)
  deriving DecidableEq, Repr

/-- What is left of a command that was run: its text was closed off for that. -/
def Command.afterRunning : Command → Command
  | execute t => execute (String.ofList (t.toList.dropLast ++ ['\x00']))
  | c => c

structure Instruction where
  lines : Lines
  negated : Bool
  command : Command
  deriving DecidableEq, Repr

end DeltaDebugging.Utility.Sed
