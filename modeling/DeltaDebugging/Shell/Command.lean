/-!
# Shell commands

A word is a row of parts, each literal text or something to be expanded; commands are
built from words. Commands keep the number of the line on which they begin, since that is
told where they fail. The text of a here-document is read after the command it belongs to,
so a redirection only holds the document's number.
-/
namespace DeltaDebugging.Shell

inductive OpenMode where
  | read
  | write
  /-- Writes also where an option protects files that are there. -/
  | overwrite
  | append
  | readWrite
  deriving DecidableEq, Repr

/-- What another word takes the place of, or is done, if a parameter is missing. -/
inductive Fallback where
  /-- The word is used if the parameter is there. -/
  | instead
  | default
  | assign
  | complain
  deriving DecidableEq, Repr

mutual

inductive Part where
  | text (s : String)
  /-- Text that a backslash or single quotes protect. -/
  | quoted (s : String)
  | double (ps : List Part)
  | parameter (name : String) (op : Operation)
  | output (c : Command)
  | arithmetic (ps : List Part)
  deriving Inhabited

inductive Operation where
  | plain
  | malformed
  | length
  | trim (atEnd longest : Bool) (pattern : List Part)
  | fallback (kind : Fallback) (orEmpty : Bool) (w : List Part)
  deriving Inhabited

inductive Redirection where
  | file (descriptor : Nat) (mode : OpenMode) (target : List Part)
  | duplicate (descriptor : Nat) (source : Option Nat)
  /-- The descriptor to duplicate is only known once the word is expanded. -/
  | duplicateWord (descriptor : Nat) (source : List Part)
  | document (descriptor : Nat) (number : Nat)
  deriving Inhabited

inductive Command where
  | simple (line : Nat) (assignments : List (String × List Part)) (words : List (List Part))
      (redirections : List Redirection)
  | pipeline (stages : List Command)
  | background (line : Nat) (c : Command)
  | negation (c : Command)
  | both (a b : Command)
  | either (a b : Command)
  | sequence (cs : List Command)
  | conditional (c yes : Command) (no : Option Command)
  | loop (stopWhen : Bool) (c body : Command)
  | each (line : Nat) (name : String) (words : List (List Part)) (body : Command)
  | choose (line : Nat) (w : List Part) (branches : List (List (List Part) × Option Command))
  | redirected (line : Nat) (c : Command) (redirections : List Redirection)
  | subshell (line : Nat) (c : Command) (redirections : List Redirection)
  | define (line : Nat) (name : String) (body : Command)
  deriving Inhabited

end

abbrev Word := List Part

/-- The text of a word that is nothing but unquoted text. -/
def Part.bare? : Word → Option String
  | [.text s] => some s
  | _ => none

def Command.nothing : Command := .sequence []

end DeltaDebugging.Shell
