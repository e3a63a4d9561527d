import DeltaDebugging.Regex.Basic
import DeltaDebugging.Text.Escape

/-!
# Regular expressions of pattern scanning programs

They are extended ones, with escapes as in the constants of a program, also within brackets.
Edges are those of the whole text. A bracket that nothing opened stands for itself, and so do
braces.

In a replacement an ampersand stands for what was found. Of backslashes right before one, each
pair becomes a single one, and one that is left over makes the ampersand plain.
-/
namespace DeltaDebugging.Utility.Awk

/-- Why a text is no regular expression. -/
inductive Misread where
  | unclosed
  | noOperand
  | badClass
  | repeatedEdge
  | tooLarge
  deriving DecidableEq, Repr

def Misread.reason : Misread → String
  | unclosed => "missing ')'"
  | noOperand => "missing operand"
  | badClass => "bad class -- [], [^] or ["
  | repeatedEdge => "syntax error ^* or ^+"
  | tooLarge => "resource exhaustion -- regular expression too large"

namespace Matching

abbrev Reader := StateT (List Char) (Except Misread)

def fail (e : Misread) : Reader α := StateT.lift (.error e)

/-- The character that an escape stands for, from behind its backslash. -/
def escaped (cs : List Char) : Char × List Char :=
  match cs with
  | [] => ('\\', [])
  | c :: rest =>
    if Escape.isOctal c || c = 'x' then
      match Escape.next true cs with
      | ('\\', _) => (c, rest)
      | found => found
    else ((Escape.control? c).getD c, rest)

def single (c : Char) : Regex := .set { ranges := [(c, c)] }

def members : (steps : Nat) → (first : Bool) → Reader (List (Char × Char))
  | 0, _ => fail .badClass
  | steps + 1, first => do
    match ← get with
    | [] => fail .badClass
    | '[' :: ':' :: rest =>
      let name := rest.takeWhile fun c => c ≠ ':' && c ≠ ']'
      match rest.drop name.length, CharSet.class? (String.ofList name) with
      | ':' :: ']' :: rest, some ranges =>
        set rest
        return ranges ++ (← members steps false)
      | ':' :: ']' :: _, none => fail .badClass
      | _, _ =>
        set (':' :: rest)
        return ('[', '[') :: (← members steps false)
    | c :: rest =>
      if c = ']' && !first then
        set rest
        return []
      let (low, rest) := if c = '\\' then escaped rest else (c, rest)
      match rest with
      | '-' :: d :: more =>
        if d = ']' then
          set rest
          return (low, low) :: (← members steps false)
        let (high, more) := if d = '\\' then escaped more else (d, more)
        set more
        let ranges := if low ≤ high then [(low, high)] else [(low, low), ('-', '-'), (high, high)]
        return ranges ++ (← members steps false)
      | _ =>
        set rest
        return (low, low) :: (← members steps false)

def repeated : (steps : Nat) → Regex → Reader Regex
  | 0, r => return r
  | steps + 1, r => do
    match ← get with
    | '*' :: rest =>
      set rest
      repeated steps (.many r 0 none false)
    | '+' :: rest =>
      set rest
      repeated steps (.many r 1 none false)
    | '?' :: rest =>
      set rest
      repeated steps (.many r 0 (some 1) false)
    | _ => return r

mutual

def choices : (steps : Nat) → (inside : Bool) → Reader Regex
  | 0, _ => fail .tooLarge
  | steps + 1, inside => do
    let r ← row steps inside false
    match ← get with
    | '|' :: rest =>
      set rest
      return .alt r (← choices steps inside)
    | _ => return r

/-- Expressions behind one another; `follows` tells whether there was one before. -/
def row : (steps : Nat) → (inside follows : Bool) → Reader Regex
  | 0, _, _ => fail .tooLarge
  | steps + 1, inside, follows => do
    let cs ← get
    let finished := match cs with
      | [] => true
      | '|' :: _ => true
      | ')' :: _ => inside
      | _ => false
    if finished then
      if follows then return .empty else fail .noOperand
    let r ← repeated (cs.length + 1) (← atom steps follows)
    match ← row steps inside true with
    | .empty => return r
    | more => return .seq r more

def atom : (steps : Nat) → (follows : Bool) → Reader Regex
  | 0, _ => fail .tooLarge
  | steps + 1, follows => do
    match ← get with
    | [] => fail .noOperand
    | '(' :: ')' :: rest =>
      if !follows then fail .noOperand
      set rest
      return .empty
    | '(' :: rest =>
      set rest
      if rest.isEmpty then fail .unclosed
      let r ← choices steps true
      match ← get with
      | ')' :: rest =>
        set rest
        return r
      | _ => fail .unclosed
    | '[' :: rest =>
      let (negated, rest) := match rest with
        | '^' :: rest => (true, rest)
        | rest => (false, rest)
      set rest
      return .set { negated, ranges := ← members (rest.length + 1) true }
    | '.' :: rest =>
      set rest
      return .set { negated := true, ranges := [] }
    | '^' :: rest =>
      if rest.head? = some '*' || rest.head? = some '+' then fail .repeatedEdge
      set rest
      return .edge .textStart
    | '$' :: rest =>
      set rest
      return .edge .textEnd
    | '\\' :: rest =>
      let (c, rest) := escaped rest
      set rest
      return single c
    | c :: rest =>
      if c = '*' || c = '+' || c = '?' then fail .noOperand
      set rest
      return single c

end

def read (source : String) : Except Misread Regex :=
  if source.isEmpty then .ok .empty else
  let cs := source.toList
  match (choices (4 * cs.length + 8) false).run cs with
  | .ok (r, _) => .ok r
  | .error e => .error e

end Matching

/-- A replacement as pieces; one that is missing stands for what was found. -/
def replacementPieces : (backslashes : Nat) → List Char → List (Option (List Char))
  | n, '\\' :: cs => replacementPieces (n + 1) cs
  | n, '&' :: cs =>
    let mark := if n % 2 = 0 then none else some ['&']
    some (List.replicate (n / 2) '\\') :: mark :: replacementPieces 0 cs
  | n, c :: cs => some (List.replicate n '\\' ++ [c]) :: replacementPieces 0 cs
  | n, [] => [some (List.replicate n '\\')]

/-- Replaces from a place on what fits, once or as often as it does; `taken` is where a match that
took something ended last. The text comes with the number of replacements. -/
def substitutedFrom (s : Regex.Subject) (r : Regex) (all : Bool) (pieces : List (Option (List Char))) :
    (steps : Nat) → Nat → (taken : Option Nat) → List Char × Nat
  | 0, i, _ => (s.piece i s.text.size, 0)
  | steps + 1, i, taken =>
    match Regex.search s r i with
    | none => (s.piece i s.text.size, 0)
    | some p =>
      let (a, b) := (p.start, p.position)
      let isEmpty := decide (a = b)
      if isEmpty && taken = some a then
        -- nothing right behind a match does not count
        if a < s.text.size then
          let (rest, n) := substitutedFrom s r all pieces steps (a + 1) none
          (s.piece i (a + 1) ++ rest, n)
        else (s.piece i s.text.size, 0)
      else
        let found := s.piece a b
        let text := pieces.flatMap fun q => q.getD found
        let front := s.piece i a ++ text
        if !all then (front ++ s.piece b s.text.size, 1)
        else if isEmpty then
          if a < s.text.size then
            let (rest, n) := substitutedFrom s r all pieces steps (a + 1) none
            (front ++ s.piece a (a + 1) ++ rest, n + 1)
          else (front, 1)
        else
          let (rest, n) := substitutedFrom s r all pieces steps b (some b)
          (front ++ rest, n + 1)

/-- A text with what fits an expression replaced, and how often it did. -/
def substituted (r : Regex) (all : Bool) (replacement text : String) : String × Nat :=
  let s : Regex.Subject := { text := text.toList.toArray }
  let pieces := replacementPieces 0 replacement.toList
  let (cs, n) := substitutedFrom s r all pieces (s.text.size + 2) 0 none
  (String.ofList cs, n)

end DeltaDebugging.Utility.Awk
