import DeltaDebugging.Number.Figures
import DeltaDebugging.Text.Escape

/-!
# Words of pattern scanning programs

A word depends on those before it: a slash begins a regular expression unless something
stands before it that could be divided, a sign for greater is a redirection while something
is being printed, and a closing brace brings the semicolon that is missing before it.
-/
namespace DeltaDebugging.Utility.Awk

inductive Token where
  | number (text : String)
  | text (s : String)
  | pattern (source : String)
  | name (s : String)
  /-- A name that is called. -/
  | function (s : String)
  | builtin (s : String)
  | keyword (s : String)
  | sign (s : String)
  /-- A sign that sends output somewhere. -/
  | redirection (s : String)
  | newline
  | semicolon
  /-- The semicolon that a closing brace brings. -/
  | implied
  | finished
  deriving DecidableEq, Repr

namespace Token

def shown : Token → String
  | number s | text s | name s | function s | builtin s | keyword s | sign s | redirection s => s
  | pattern s => "/" ++ s ++ "/"
  | newline => "end of line"
  | semicolon => ";"
  | implied => "\x7d"
  | finished => "end of file"

def divides : Token → Bool
  | number _ | text _ | pattern _ | name _ | function _ | builtin _ => true
  | sign s => [")", "]", "$", "++", "--"].contains s
  | _ => false

end Token

inductive Kind where
  | variable
  | table
  | function
  deriving DecidableEq, Repr

inductive Use where
  /-- In a function, a name is used as a table. -/
  | table (scope : Option String) (name : String)
  /-- In a function, a name is used as a variable. -/
  | value (scope : Option String) (name : String)
  /-- In a function, a name or something else is passed on as an argument of another. -/
  | passed (scope name : Option String) (callee : String) (position line : Nat)

structure Reading where
  rest : List Char
  /-- The file that the program was read from. -/
  file : Option String := none
  line : Nat := 1
  /-- The line of the word read last. -/
  wordLine : Nat := 1
  previous : Token := .newline
  /-- The next word, if it was looked at. -/
  ahead : Option Token := none
  braces : Nat := 0
  brackets : Nat := 0
  /-- Whether a sign for greater sends output somewhere. -/
  printing : Bool := false
  kinds : List (String × Kind) := []
  scope : Option String := none
  parameters : List String := []
  /-- What the parameters are, as far as that has shown. -/
  parameterKinds : List (String × Kind) := []
  loops : Nat := 0
  /-- Calls, by the name, the number of arguments and the line. -/
  calls : List (String × Nat × Nat) := []
  uses : List Use := []
  /-- Whether a rule for records is being read. -/
  inRule : Bool := false

/-- Reads a program; what is wrong with it is told in full. -/
abbrev Reader := EStateM String Reading

namespace Reader

def place : Reader String := do
  let r ← get
  return (r.file.map (· ++ ": ")).getD "" ++ "line " ++ toString r.wordLine

def fail (text : String) : Reader α := do throw ((← place) ++ ": " ++ text)

def skip (n : Nat) : Reader Unit := modify fun r => { r with rest := r.rest.drop n }

/-- Passes over blanks, comments and joined lines, and over the ends of lines if asked for. -/
def skipBlanks (lines : Bool) : (steps : Nat) → Reader Unit
  | 0 => return
  | steps + 1 => do
    match (← get).rest with
    | ' ' :: rest | '\t' :: rest | '\r' :: rest =>
      modify fun r => { r with rest }
      skipBlanks lines steps
    | '\\' :: '\n' :: rest =>
      modify fun r => { r with rest, line := r.line + 1 }
      skipBlanks lines steps
    | '\\' :: '\r' :: '\n' :: rest =>
      modify fun r => { r with rest, line := r.line + 1 }
      skipBlanks lines steps
    | '#' :: rest =>
      modify fun r => { r with rest := rest.dropWhile (· ≠ '\n') }
      skipBlanks lines steps
    | '\n' :: rest =>
      if lines then
        modify fun r => { r with rest, line := r.line + 1 }
        skipBlanks lines steps
      else return
    | _ => return

def fuel : Reader Nat := return (← get).rest.length + 1

def skipLines : Reader Unit := do skipBlanks true (← fuel)

def keywords : List String :=
  ["BEGIN", "END", "if", "else", "while", "for", "do", "break", "continue", "next", "nextfile",
    "return", "exit", "delete", "in", "getline", "print", "printf", "function"]

/-- The builtin functions, with the least and the greatest number of their arguments. -/
def builtins : List (String × Nat × Nat) :=
  [("length", 0, 1), ("index", 2, 2), ("substr", 2, 3), ("sprintf", 1, 255), ("sin", 1, 1),
    ("cos", 1, 1), ("atan2", 2, 2), ("exp", 1, 1), ("log", 1, 1), ("int", 1, 1), ("sqrt", 1, 1),
    ("rand", 0, 0), ("srand", 0, 1), ("close", 1, 1), ("system", 1, 1), ("toupper", 1, 1),
    ("tolower", 1, 1), ("fflush", 0, 1), ("systime", 0, 0), ("split", 2, 3), ("match", 2, 2),
    ("sub", 2, 3), ("gsub", 2, 3)]

/-- The signs, a longer one before those it begins with. -/
def signs : List String :=
  ["&&", "||", "++", "--", "+=", "-=", "*=", "/=", "%=", "^=", "==", "<=", ">=", "!=", "!~", "+",
    "-", "*", "/", "%", "^", "=", "<", ">", "!", "~", "?", ":", ",", "$", "[", "]", "|"]

def numberAt (cs : List Char) : String × List Char :=
  let whole := cs.takeWhile Char.isDigit
  let rest := cs.drop whole.length
  let (fraction, rest) := match rest with
    | '.' :: more =>
      let ds := more.takeWhile Char.isDigit
      ('.' :: ds, more.drop ds.length)
    | _ => ([], rest)
  let (power, rest) : List Char × List Char := match rest with
    | e :: more =>
      if e ≠ 'e' && e ≠ 'E' then ([], rest) else
      let sign := more.takeWhile fun c => c == '+' || c == '-'
      let ds := (more.drop sign.length).takeWhile Char.isDigit
      if 1 < sign.length || ds.isEmpty then ([], rest)
      else (e :: sign ++ ds, more.drop (sign.length + ds.length))
    | [] => ([], rest)
  (String.ofList (whole ++ fraction ++ power), rest)

def unescaped : (steps : Nat) → List Char → List Char
  | 0, cs => cs
  | _, [] => []
  | steps + 1, '\\' :: c :: rest =>
    if Escape.isOctal c then
      let ds := ((c :: rest).take 3).takeWhile Escape.isOctal
      Escape.octal ds :: unescaped steps ((c :: rest).drop ds.length)
    else match c with
      | '"' => '"' :: unescaped steps rest
      | 'x' =>
        let ds := (rest.take 2).takeWhile Escape.isHexadecimal
        if ds.isEmpty then '\\' :: 'x' :: unescaped steps rest
        else Char.ofNat (ds.foldl (fun n d => n * 16 + Escape.hexadecimalValue d) 0) ::
          unescaped steps (rest.drop ds.length)
      | _ => match Escape.control? c with
        | some d => d :: unescaped steps rest
        | none => '\\' :: c :: unescaped steps rest
  | steps + 1, c :: rest => c :: unescaped steps rest

def unescape (s : String) : String := String.ofList (unescaped (s.length + 1) s.toList)

def quoted (start : List Char) : (steps : Nat) → (read : List Char) → List Char → Reader Token
  | 0, _, _ => runaway start
  | _, _, [] => runaway start
  | steps + 1, read, c :: rest => match c, rest with
    | '"', _ => do
      modify fun r => { r with rest }
      let text := read.reverse
      return .text (String.ofList (unescaped (text.length + 1) text))
    | '\n', _ => runaway start
    | '\\', '\n' :: rest => do
      modify fun r => { r with line := r.line + 1 }
      quoted start steps read rest
    | '\\', d :: rest => quoted start steps (d :: '\\' :: read) rest
    | c, rest => quoted start steps (c :: read) rest
where
  runaway (start : List Char) : Reader Token :=
    fail ("runaway string constant \"" ++ String.ofList ((start.takeWhile (· ≠ '\n')).take 10) ++ " ...")

/-- A regular expression up to its closing slash; within brackets a slash does not close it. -/
def slashed (start : List Char) : (steps : Nat) → (inside : Bool) → (read : List Char) →
    List Char → Reader Token
  | 0, _, _, _ => runaway start
  | _, _, _, [] => runaway start
  | steps + 1, inside, read, c :: rest => match c, rest with
    | '\n', _ => runaway start
    | '/', _ =>
      if inside then slashed start steps inside ('/' :: read) rest else do
      modify fun r => { r with rest }
      return .pattern (String.ofList read.reverse)
    | '\\', '/' :: rest => slashed start steps inside ('/' :: read) rest
    | '\\', d :: rest => slashed start steps inside (d :: '\\' :: read) rest
    | '[', rest =>
      if inside then slashed start steps inside ('[' :: read) rest else
      let front := match rest with
        | '^' :: ']' :: _ => ['^', ']']
        | ']' :: _ => [']']
        | '^' :: _ => ['^']
        | _ => []
      slashed start steps true (front.reverse ++ '[' :: read) (rest.drop front.length)
    | ']', rest => slashed start steps false (']' :: read) rest
    | c, rest => slashed start steps inside (c :: read) rest
where
  runaway (start : List Char) : Reader Token :=
    fail ("runaway regular expression /" ++ String.ofList ((start.takeWhile (· ≠ '\n')).take 10) ++ " ...")

/-- A character that cannot stand where it does. -/
def unexpected (c : Char) : Reader α := do
  let r ← get
  let shown := if ' ' ≤ c && c ≤ '~' then "'" ++ String.singleton c ++ "'"
    else "0x" ++ String.ofList (Nat.toDigits 16 (c.toNat / 16 % 16) ++ Nat.toDigits 16 (c.toNat % 16))
  throw ((r.file.map (· ++ ": ")).getD "" ++ toString r.wordLine ++ ": unexpected character " ++ shown)

def word (s : String) : Reader Token := do
  let r ← get
  if keywords.contains s then
    if s = "print" || s = "printf" then modify fun r => { r with printing := true }
    return .keyword s
  else if (builtins.lookup s).isSome then return .builtin s
  else if r.parameters.contains s then return .name s
  else match r.kinds.lookup s with
  | some .function => return .function s
  | some _ => return .name s
  | none =>
    if r.rest.head? = some '(' || r.previous = .keyword "function" then
      modify fun r => { r with kinds := (s, .function) :: r.kinds }
      return .function s
    else return .name s

/-- A closing brace, or the semicolon that is missing before it. -/
def closingBrace (rest : List Char) : Reader Token := do
  let r ← get
  if r.braces = 0 then fail "extra '\x7d'"
  if [.newline, .semicolon, .implied, .sign "\x7d"].contains r.previous then
    modify fun r => { r with rest, braces := r.braces - 1 }
    if r.braces = 1 then
      skipBlanks false (← fuel)
      match (← get).rest with
      | ';' :: rest => modify fun r => { r with rest }
      | _ => pure ()
    skipLines
    return .sign "\x7d"
  else
    modify fun r => { r with printing := false }
    return .implied

def scan : Reader Token := do
  skipBlanks false (← fuel)
  modify fun r => { r with wordLine := r.line }
  let r ← get
  match r.rest with
  | [] => return .finished
  | c :: rest =>
    let sign (s : String) : Reader Token := do
      skip s.length
      return .sign s
    if c = '\n' then
      modify fun r => { r with printing := false }
      skipLines
      return .newline
    else if c = ';' then
      modify fun r => { r with rest, printing := false }
      skipLines
      return .semicolon
    else if c = '\x7b' then
      modify fun r => { r with rest, braces := r.braces + 1 }
      skipLines
      return .sign "\x7b"
    else if c = '\x7d' then closingBrace rest
    else if c = '(' then
      modify fun r => { r with rest, brackets := r.brackets + 1 }
      return .sign "("
    else if c = ')' then
      if r.brackets = 0 then fail "extra ')'"
      modify fun r => { r with rest, brackets := r.brackets - 1 }
      return .sign ")"
    else if c = '"' then quoted rest (rest.length + 1) [] rest
    else if c = '/' && !r.previous.divides then slashed rest (rest.length + 1) false [] rest
    else if c.isDigit || (c = '.' && rest.head?.any Char.isDigit) then
      let (text, rest) := numberAt r.rest
      modify fun r => { r with rest }
      return .number text
    else if c.isAlpha || c = '_' then
      let s := r.rest.takeWhile fun d => d.isAlphanum || d = '_'
      skip s.length
      word (String.ofList s)
    else if r.printing && r.brackets = 0 && (c = '>' || (c = '|' && rest.head? ≠ some '|')) then
      modify fun r => { r with printing := false }
      let s := if c = '>' && rest.head? = some '>' then ">>" else String.singleton c
      skip s.length
      return .redirection s
    else match signs.find? fun s => s.toList.isPrefixOf r.rest with
      | none => unexpected c
      | some s =>
        let t ← sign s
        if ["&&", "||", ","].contains s then skipLines
        return t

def peek : Reader Token := do
  match (← get).ahead with
  | some t => return t
  | none =>
    let t ← scan
    modify fun r => { r with ahead := some t, previous := t }
    return t

def drop : Reader Unit := do
  let _ ← peek
  modify fun r => { r with ahead := none }

end Reader

end DeltaDebugging.Utility.Awk
