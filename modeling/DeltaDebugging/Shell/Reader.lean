import DeltaDebugging.Shell.Command

/-!
# Reading a script

A script is read command by command, so what stands before a mistake still runs. The reader
keeps the text that is left, the number of the line, one token that was looked at too early,
and the here-documents that a line has announced and that follow it.
-/
namespace DeltaDebugging.Shell

structure SyntaxError where
  line : Nat
  message : String
  deriving DecidableEq, Repr

/-- The words that only count as such where a command may begin. -/
inductive Keyword where
  | bang
  | caseWord
  | doWord
  | doneWord
  | elifWord
  | elseWord
  | esacWord
  | fiWord
  | forWord
  | ifWord
  | inWord
  | thenWord
  | untilWord
  | whileWord
  | openBrace
  | closeBrace
  deriving DecidableEq, Repr

namespace Keyword

def all : List Keyword :=
  [bang, caseWord, doWord, doneWord, elifWord, elseWord, esacWord, fiWord, forWord, ifWord,
    inWord, thenWord, untilWord, whileWord, openBrace, closeBrace]

def text : Keyword → String
  | bang => "!"
  | caseWord => "case"
  | doWord => "do"
  | doneWord => "done"
  | elifWord => "elif"
  | elseWord => "else"
  | esacWord => "esac"
  | fiWord => "fi"
  | forWord => "for"
  | ifWord => "if"
  | inWord => "in"
  | thenWord => "then"
  | untilWord => "until"
  | whileWord => "while"
  | openBrace => "\x7b"
  | closeBrace => "\x7d"

def ofText? (s : String) : Option Keyword := all.find? fun k => k.text = s

def closes : Keyword → Bool
  | doWord | doneWord | elifWord | elseWord | esacWord | fiWord | thenWord | closeBrace => true
  | _ => false

end Keyword

/-- The operator of a redirection; a here-document may have its leading tabs taken away. -/
inductive RedirectionMark where
  | open (mode : OpenMode)
  | duplicate
  | document (stripTabs : Bool)
  deriving DecidableEq, Repr

inductive Token where
  | endOfFile
  | newline
  | semicolon
  | background
  | andIf
  | orIf
  | pipe
  | opening
  | closing
  | branchEnd
  | redirection (descriptor : Nat) (mark : RedirectionMark)
  | word
  | keyword (k : Keyword)
  deriving DecidableEq, Repr

namespace Token

def name : Token → String
  | endOfFile => "end of file"
  | newline => "newline"
  | semicolon => "\";\""
  | background => "\"&\""
  | andIf => "\"&&\""
  | orIf => "\"||\""
  | pipe => "\"|\""
  | opening => "\"(\""
  | closing => "\")\""
  | branchEnd => "\";;\""
  | redirection _ _ => "redirection"
  | word => "word"
  | keyword k => "\"" ++ k.text ++ "\""

def closes : Token → Bool
  | endOfFile | closing | branchEnd => true
  | keyword k => k.closes
  | _ => false

end Token

structure Attention where
  /-- Line ends are passed over. -/
  newlines : Bool := false
  keywords : Bool := false
  aliases : Bool := false
  /-- The word is the mark that ends a here-document: nothing is expanded in it. -/
  mark : Bool := false
  deriving DecidableEq, Repr

structure Announced where
  number : Nat
  mark : String
  stripTabs : Bool
  expands : Bool
  deriving DecidableEq, Repr

structure Reader where
  rest : List Char
  line : Nat := 1
  /-- The token last read, and whether it is to be read again. -/
  token : Token := .endOfFile
  again : Bool := false
  word : Word := []
  /-- Whether anything in the word was quoted. -/
  quoted : Bool := false
  attention : Attention := {}
  announced : List Announced := []
  /-- The here-documents read so far, by number. -/
  documents : List (Nat × Word) := []
  nextDocument : Nat := 0
  aliases : List (String × String) := []
  /-- Aliases that are being read, with how much text is left after each. -/
  active : List (String × Nat) := []

abbrev Reading := EStateM SyntaxError Reader

namespace Reading

def mistake (message : String) : Reading α := do throw ⟨(← get).line, message⟩

/-- A complaint about the token read last. -/
def unexpected : Reading α := do mistake ((← get).token.name ++ " unexpected")

def expecting (t : Token) : Reading α := do
  mistake ((← get).token.name ++ " unexpected (expecting " ++ t.name ++ ")")

/-- Drops line ends that a backslash hides; they still count as lines. -/
def joinLines : Reading Unit := do
  let r ← get
  let rec go : List Char → Nat → List Char × Nat
    | '\\' :: '\n' :: cs, n => go cs (n + 1)
    | cs, n => (cs, n)
  match r.rest with
  | '\\' :: '\n' :: _ =>
    let (rest, hidden) := go r.rest 0
    set { r with rest, line := r.line + hidden }
  | _ => pure ()

def raw : Reading (Option Char) := do
  let r ← get
  match r.rest with
  | [] => return none
  | c :: rest =>
    set { r with rest, line := if c = '\n' then r.line + 1 else r.line }
    return some c

/-- The next character, looked at only, past hidden line ends. -/
def peek : Reading (Option Char) := do
  joinLines
  return (← get).rest.head?

def next : Reading (Option Char) := do
  joinLines
  raw

/-- Takes the next character if it is the given one. -/
def take (c : Char) : Reading Bool := do
  if (← peek) = some c then
    let _ ← raw
    return true
  else return false

/-- More than the tokens that are left, one of them perhaps to be read again. -/
def fuel : Reading Nat := return (← get).rest.length + 3

end Reading

def isNameStart (c : Char) : Bool := c.isAlpha || c == '_'

def isNameChar (c : Char) : Bool := c.isAlphanum || c == '_'

def isSpecial (c : Char) : Bool := "?$#@*!-".toList.contains c || c.isDigit

def isName (s : String) : Bool :=
  s.toList.head?.any isNameStart && s.toList.all isNameChar

def endsWord (c : Char) : Bool :=
  c == ' ' || c == '\t' || c == '\n' || c == ';' || c == '&' || c == '|' || c == '<' ||
    c == '>' || c == '(' || c == ')'

end DeltaDebugging.Shell
