import DeltaDebugging.Utility.Program

/-!
# Options of utilities

Short options are letters behind a dash, several to one dash; long ones are words behind two,
and may be cut short as long as they stay unique. Either kind may take a value. Options may
stand among the operands, up to two dashes alone.
-/
namespace DeltaDebugging.Utility

inductive Takes where
  | nothing
  | value
  | perhaps
  deriving DecidableEq, Repr

structure Choice where
  names : List String
  takes : Takes
  deriving DecidableEq, Repr

namespace Choice

/-- A choice from its names with commas between them; a colon behind them asks for a value, two
allow one. A comma alone is a name. -/
def ofText (s : String) : Choice :=
  let colons := (s.toList.reverse.takeWhile (· = ':')).length
  { names := if s = "," then [s] else (String.ofList (s.toList.take (s.length - colons))).splitOn ","
    takes := if colons = 0 then .nothing else if colons = 1 then .value else .perhaps }

/-- The name under which a choice is reported: the first one. -/
def key (c : Choice) : String := c.names.headD ""

end Choice

structure Given where
  key : String
  value : String := ""
  /-- The option with its dashes: a letter, or a long name in full. -/
  spelled : String := ""
  deriving DecidableEq, Repr

structure Parsed where
  options : List Given := []
  operands : List String := []
  deriving DecidableEq, Repr

namespace Parsed

def has (p : Parsed) (key : String) : Bool := p.options.any fun o => o.key = key

def value? (p : Parsed) (key : String) : Option String :=
  (p.options.reverse.find? fun o => o.key = key).map Given.value

def values (p : Parsed) (key : String) : List String :=
  p.options.filterMap fun o => if o.key = key then some o.value else none

/-- The last of some options that was given. -/
def last? (p : Parsed) (keys : List String) : Option String :=
  (p.options.reverse.find? fun o => keys.contains o.key).map Given.key

end Parsed

namespace Program

/-- What is to be said of options that are not understood. -/
structure Manual where
  /-- The choices, as `Choice.ofText` reads them. -/
  choices : List String
  /-- The status after a mistake. -/
  status : Nat := 1
  /-- Whether options may follow operands. -/
  permutes : Bool := true
  /-- What is told after the complaint, if it is not where help is found. -/
  usage : Option String := none

def refuse (m : Manual) (text : String) : Program α := do
  complain text
  tell (m.usage.getD (← hint))
  exit m.status

/-- The place of a word among those that are valid, which may be cut short as long as it stays
unique, or not at all if `exact` holds. Words that mean the same stand together. -/
def wordAmong (subject word : String) (valid : List (List String)) (exact : Bool := false) : Program Nat := do
  let begun (words : List String) : Bool := !exact && words.any fun w => word.toList.isPrefixOf w.toList
  match valid.findIdx? fun words => words.contains word with
  | some n => return n
  | none =>
    if valid.countP begun = 1 then return valid.findIdx begun
    complain ((if valid.any begun then "ambiguous" else "invalid") ++ " argument " ++
      Text.literalQuote word ++ " for " ++ Text.literalQuote subject)
    tell ("Valid arguments are:\n" ++ String.join (valid.map fun words =>
      "  - " ++ String.intercalate ", " (words.map Text.literalQuote) ++ "\n"))
    tell (← hint)
    exit 1

def wordChoice (option word : String) (valid : List (List String)) (exact : Bool := false) : Program Nat :=
  wordAmong ("--" ++ option) word valid exact

/-- A choice by its long name or the beginning of one; `given` is the whole argument. -/
def longChoice (m : Manual) (choices : List Choice) (given name : String) :
    Program (Choice × String) := do
  let isLong (n : String) : Bool := decide (1 < n.length)
  match choices.find? fun c => c.names.any fun n => isLong n && n = name with
  | some c => return (c, name)
  | none =>
    let hits := choices.flatMap fun c =>
      (c.names.filter fun n => isLong n && name.toList.isPrefixOf n.toList).map fun n => (c, n)
    match hits with
    | [] => refuse m ("unrecognized option '" ++ given ++ "'")
    | [hit] => return hit
    | (c, n) :: more =>
      if more.all fun h => h.1 = c then return (c, n)
      else refuse m ("option '" ++ given ++ "' is ambiguous; possibilities:" ++
        String.join (hits.map fun h => " '--" ++ h.2 ++ "'"))

def cluster (m : Manual) (choices : List Choice) : List Char → List String →
    Program (List Given × List String)
  | [], rest => return ([], rest)
  | c :: cs, rest => do
    match choices.find? fun o => o.names.contains (String.singleton c) with
    | none => refuse m ("invalid option -- '" ++ String.singleton c ++ "'")
    | some o =>
      let given (value : String) : Given := ⟨o.key, value, "-" ++ String.singleton c⟩
      match o.takes with
      | .nothing =>
        let (more, rest) ← cluster m choices cs rest
        return (given "" :: more, rest)
      | .perhaps => return ([given (String.ofList cs)], rest)
      | .value =>
        if !cs.isEmpty then return ([given (String.ofList cs)], rest)
        else match rest with
          | v :: rest => return ([given v], rest)
          | [] => refuse m ("option requires an argument -- '" ++ String.singleton c ++ "'")

def readOptions (m : Manual) (choices : List Choice) : (steps : Nat) → List String → Program Parsed
  | 0, _ => return {}
  | _, [] => return {}
  | steps + 1, a :: rest => do
    match a.toList with
    | ['-', '-'] => return { operands := rest }
    | '-' :: '-' :: cs =>
      let name := cs.takeWhile (· ≠ '=')
      let value := if name.length < cs.length then some (String.ofList (cs.drop (name.length + 1))) else none
      if String.ofList name = "help" || String.ofList name = "version" then exit 0
      let (c, full) ← longChoice m choices a (String.ofList name)
      match c.takes, value, rest with
      | .nothing, some _, _ => refuse m ("option '--" ++ full ++ "' doesn't allow an argument")
      | .value, none, [] => refuse m ("option '--" ++ full ++ "' requires an argument")
      | .value, none, v :: rest =>
        let p ← readOptions m choices steps rest
        return { p with options := ⟨c.key, v, "--" ++ full⟩ :: p.options }
      | _, _, _ =>
        let p ← readOptions m choices steps rest
        return { p with options := ⟨c.key, value.getD "", "--" ++ full⟩ :: p.options }
    | '-' :: c :: cs =>
      let (os, rest) ← cluster m choices (c :: cs) rest
      let p ← readOptions m choices steps rest
      return { p with options := os ++ p.options }
    | _ =>
      if m.permutes then
        let p ← readOptions m choices steps rest
        return { p with operands := a :: p.operands }
      else return { operands := a :: rest }

def parsed (m : Manual) : Program Parsed := do
  let as ← arguments
  readOptions m (m.choices.map Choice.ofText) (as.length + 1) as

end Program

end DeltaDebugging.Utility
