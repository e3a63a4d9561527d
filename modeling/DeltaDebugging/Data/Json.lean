import DeltaDebugging.Data.Value

/-!
# Writing JSON

Structured values over several lines, each level indented by two spaces.
-/
namespace DeltaDebugging.Json

def hex4 (n : Nat) : String :=
  let digits := Nat.toDigits 16 n
  String.ofList (List.replicate (4 - digits.length) '0' ++ digits)

def escape (c : Char) : String :=
  if c = '"' then "\\\"" else if c = '\\' then "\\\\"
  else if c = '\n' then "\\n" else if c = '\t' then "\\t" else if c = '\r' then "\\r"
  else if c = '\x08' then "\\b" else if c = '\x0c' then "\\f"
  else if c.toNat < 0x20 then "\\u" ++ hex4 c.toNat
  else String.singleton c

def quote (s : String) : String := "\"" ++ String.join (s.toList.map escape) ++ "\""

def indent (level : Nat) : String := String.ofList (List.replicate (2 * level) ' ')

/-- Written items between brackets, each on a line of its own; none need no line. -/
def block (level : Nat) (opening closing : String) (items : List String) : String :=
  if items.isEmpty then opening ++ closing else
  opening ++ "\n" ++
    String.intercalate ",\n" (items.map fun item => indent (level + 1) ++ item) ++
    "\n" ++ indent level ++ closing

mutual

def pretty (level : Nat) : Value → String
  | .null => "null"
  | .bool b => if b then "true" else "false"
  | .int n => toString n
  | .float x => toString x
  | .string s => quote s
  | .list vs => block level "[" "]" (prettyAll (level + 1) vs)
  | .table fields => block level "\x7b" "\x7d" (prettyFields (level + 1) fields)

def prettyAll (level : Nat) : List Value → List String
  | [] => []
  | v :: vs => pretty level v :: prettyAll level vs

def prettyFields (level : Nat) : List (String × Value) → List String
  | [] => []
  | (name, v) :: fields => (quote name ++ ": " ++ pretty level v) :: prettyFields level fields

end

end DeltaDebugging.Json
