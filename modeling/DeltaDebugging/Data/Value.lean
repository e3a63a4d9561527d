import DeltaDebugging.Number.Natural

/-!
# Structured values

What a configuration file or a report holds: a tree of named and listed values.
Reading a record takes its fields by name from a table or by position from a list;
a field that is absent keeps its default, and a field of the wrong type refuses the
whole record.
-/
namespace DeltaDebugging

inductive Value where
  | null
  | bool (b : Bool)
  | int (n : Int)
  | float (x : Float)
  | string (s : String)
  | list (vs : List Value)
  | table (fields : List (String × Value))
  deriving Inhabited

namespace Value

def nat (n : Nat) : Value := int n

def ofOption (s : Option String) : Value := (s.map string).getD null

/-- The named fields of a record; a list gives the names their values in order, and values
beyond the last name are passed over. -/
def openRecord? (names : List String) : Value → Option (List (String × Value))
  | table fields => some fields
  | list vs => some (names.zip vs)
  | _ => none

/-- The named fields of a record; a list may not have more values than there are names. -/
def record? (names : List String) : Value → Option (List (String × Value))
  | list vs => if vs.length ≤ names.length then openRecord? names (list vs) else none
  | v => openRecord? names v

def field (fields : List (String × Value)) (name : String) (default : α)
    (read : Value → Option α) : Option α :=
  match fields.lookup name with
  | some v => read v
  | none => some default

def bool? : Value → Option Bool
  | bool b => some b
  | _ => none

def word? : Value → Option Nat
  | int n => if 0 ≤ n ∧ n < Number.wordCount then some n.toNat else none
  | _ => none

/-- One of several names: the name itself, or a table of that one name with nothing in it. -/
def choice? (read : String → Option α) : Value → Option α
  | string s => read s
  | table [(s, table [])] => read s
  | table [(s, list [])] => read s
  | _ => none

def string? : Value → Option String
  | string s => some s
  | _ => none

def list? : Value → Option (List Value)
  | list vs => some vs
  | _ => none

end Value

end DeltaDebugging
