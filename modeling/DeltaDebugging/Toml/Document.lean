import DeltaDebugging.Toml.Scalar
import DeltaDebugging.Data.Value

/-!
# TOML documents

A document is read line by line into a tree of tables. A table that a header only passed
through, or that a dotted key made, may still be extended; one that was defined may not be
defined again; a value is never extended. What is written is a document of sections, each a
header with its simple fields; arrays of more than one value are written one value to a line.
-/
namespace DeltaDebugging.Toml

inductive Origin where
  | header
  | passed
  | dotted
  deriving DecidableEq, Repr

inductive Node where
  | value (v : Value)
  | table (origin : Origin) (entries : List (String × Node))
  /-- An array of tables, the latest first. -/
  | tables (entries : List (List (String × Node)))
  deriving Inhabited

abbrev Entries := List (String × Node)

namespace Entries

def set (entries : Entries) (name : String) (n : Node) : Entries :=
  if (entries.lookup name).isSome then
    entries.map fun e => if e.1 = name then (name, n) else e
  else entries ++ [(name, n)]

/-- Adds `name = v` below tables that may be made or extended on the way. The value itself
goes only into a table that is `extensible`: the one that is open, or one that a dotted key
made. -/
def insertValue (v : Value) : (path : List String) → (extensible : Bool) → Entries → Option Entries
  | [], _, _ => none
  | [name], extensible, entries =>
    if !extensible || (entries.lookup name).isSome then none
    else some (entries.set name (.value v))
  | name :: path, _, entries => do
    match entries.lookup name with
    | none => return entries.set name (.table .dotted (← insertValue v path true []))
    | some (.table .header _) => none
    | some (.table origin inner) =>
      return entries.set name (.table origin
        (← insertValue v path (decide (origin = .dotted)) inner))
    | some (.tables (last :: earlier)) =>
      return entries.set name (.tables ((← insertValue v path false last) :: earlier))
    | some _ => none

def atHeader (f : String → Entries → Option Entries) : (path : List String) → Entries → Option Entries
  | [], _ => none
  | [name], entries => f name entries
  | name :: path, entries => do
    match entries.lookup name with
    | none => return entries.set name (.table .passed (← atHeader f path []))
    | some (.table origin inner) => return entries.set name (.table origin (← atHeader f path inner))
    | some (.tables (last :: earlier)) =>
      return entries.set name (.tables ((← atHeader f path last) :: earlier))
    | some _ => none

/-- Opens a table under a header: a new one, or one that was only passed through. -/
def openTable (name : String) (entries : Entries) : Option Entries :=
  match entries.lookup name with
  | none => some (entries.set name (.table .header []))
  | some (.table .passed inner) => some (entries.set name (.table .header inner))
  | some _ => none

def openElement (name : String) (entries : Entries) : Option Entries :=
  match entries.lookup name with
  | none => some (entries.set name (.tables [[]]))
  | some (.tables earlier) => some (entries.set name (.tables ([] :: earlier)))
  | some _ => none

def assign (header path : List String) (v : Value) (entries : Entries) : Option Entries :=
  match header with
  | [] => insertValue v path true entries
  | _ => atHeader (fun name entries => do
      match entries.lookup name with
      | some (.table origin inner) =>
        return entries.set name (.table origin (← insertValue v path true inner))
      | some (.tables (last :: earlier)) =>
        return entries.set name (.tables ((← insertValue v path true last) :: earlier))
      | _ => none) header entries

end Entries

mutual

def Node.toValue : Node → Value
  | .value v => v
  | .table _ entries => .table (fieldsOf entries)
  | .tables entries => .list (tablesOf entries [])

def fieldsOf : List (String × Node) → List (String × Value)
  | [] => []
  | (name, n) :: entries => (name, n.toValue) :: fieldsOf entries

def tablesOf : List (List (String × Node)) → List Value → List Value
  | [], later => later
  | entries :: earlier, later => tablesOf earlier (.table (fieldsOf entries) :: later)

end

mutual

def value (depth : Nat) : Reader Value
  | '[' :: cs => match depth with
    | 0 => none
    | depth + 1 => elements depth cs.length [] cs
  | '\x7b' :: cs => match depth with
    | 0 => none
    | depth + 1 => match skipBlanks cs with
      | '\x7d' :: cs => some (.table [], cs)
      | cs => fields depth cs.length [] cs
  | c :: cs =>
    if c = '"' || c = '\'' then (string (c :: cs)).map fun (s, cs) => (.string s, cs)
    else word (c :: cs)
  | [] => none
  termination_by (depth, 0)

def elements (depth : Nat) : (steps : Nat) → (read : List Value) → Reader Value
  | steps, read, cs =>
    match skipLines (cs.length + 1) cs with
    | ']' :: cs => some (.list read.reverse, cs)
    | cs => match value depth cs with
      | none => none
      | some (v, cs) => match skipLines (cs.length + 1) cs with
        | ']' :: cs => some (.list (v :: read).reverse, cs)
        | ',' :: cs => match steps with
          | 0 => none
          | steps + 1 => elements depth steps (v :: read) cs
        | _ => none
  termination_by steps => (depth, steps + 1)

def fields (depth : Nat) : (steps : Nat) → (read : Entries) → Reader Value
  | steps, read, cs =>
    match key maximalDepth cs with
    | some (path, '=' :: cs) => match value depth (skipBlanks cs) with
      | none => none
      | some (v, cs) => match read.insertValue v path true with
        | none => none
        | some read => match skipBlanks cs with
          | '\x7d' :: cs => some (.table (fieldsOf read), cs)
          | ',' :: cs => match steps with
            | 0 => none
            | steps + 1 => fields depth steps read cs
          | _ => none
    | _ => none
  termination_by steps => (depth, steps + 1)

end

def restOfLine (cs : List Char) : Option (List Char) := lineEnd? (skipComment (skipBlanks cs))

def sections : (steps : Nat) → (header : List String) → Entries → List Char → Option Entries
  | 0, _, _, _ => none
  | steps + 1, header, entries, cs =>
    match skipLines (cs.length + 1) cs with
    | [] => some entries
    | '[' :: '[' :: cs => do
      let (path, cs) ← key maximalDepth cs
      let ']' :: ']' :: cs := cs | none
      let cs ← restOfLine cs
      sections steps path (← entries.atHeader Entries.openElement path) cs
    | '[' :: cs => do
      let (path, cs) ← key maximalDepth cs
      let ']' :: cs := cs | none
      let cs ← restOfLine cs
      sections steps path (← entries.atHeader Entries.openTable path) cs
    | cs => do
      let (path, cs) ← key maximalDepth cs
      let '=' :: cs := cs | none
      let (v, cs) ← value maximalDepth (skipBlanks cs)
      let cs ← restOfLine cs
      sections steps header (← entries.assign header path v) cs

/-- The root table of a document. A byte order mark in front is skipped. -/
def parse (text : String) : Option Value :=
  let cs := match text.toList with
    | '\ufeff' :: cs => cs
    | cs => cs
  (sections (cs.length + 1) [] [] cs).map fun entries => .table (fieldsOf entries)

def quote (s : String) : String :=
  let escape (c : Char) : String :=
    if c = '"' then "\\\"" else if c = '\\' then "\\\\"
    else if c = '\n' then "\\n" else if c = '\t' then "\\t" else if c = '\r' then "\\r"
    else String.singleton c
  "\"" ++ String.join (s.toList.map escape) ++ "\""

def scalar : Value → String
  | .bool b => if b then "true" else "false"
  | .int n => toString n
  | .string s => quote s
  | _ => ""

def printValue : Value → String
  | .list [] => "[]"
  | .list [v] => "[" ++ scalar v ++ "]"
  | .list vs => "[\n" ++ String.join (vs.map fun v => "    " ++ scalar v ++ ",\n") ++ "]"
  | v => scalar v

/-- A section; fields without a value are left out. -/
def printSection (name : String) (fields : List (String × Value)) : String :=
  let line : String × Value → String
    | (_, .null) => ""
    | (key, v) => key ++ " = " ++ printValue v ++ "\n"
  "[" ++ name ++ "]\n" ++ String.join (fields.map line)

def print (sections : List (String × List (String × Value))) : String :=
  String.intercalate "\n" (sections.map fun s => printSection s.1 s.2)

end DeltaDebugging.Toml
