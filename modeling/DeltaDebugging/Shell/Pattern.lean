import DeltaDebugging.Regex.CharSet

/-!
# Shell patterns

A star matches any text, a question mark one character, a bracket expression one of its
members. A character that was quoted, or that a backslash precedes, stands for itself.
-/
namespace DeltaDebugging.Shell

inductive Glob where
  | text
  | one
  | set (s : CharSet)
  | char (c : Char)
  deriving DecidableEq, Repr

abbrev Marked := List (Char × Bool)

namespace Glob

/-- A class name between its brackets and colons, after the opening pair. -/
def className? (cs : Marked) : Option (List (Char × Char) × Marked) :=
  let name := (cs.map Prod.fst).takeWhile (· != ':')
  match CharSet.class? (String.ofList name), cs.drop name.length with
  | some ranges, (':', _) :: (']', _) :: rest => some (ranges, rest)
  | _, _ => none

/-- The members of a bracket expression; a bracket closes it unless nothing was read yet. -/
def members : (steps : Nat) → (first : Bool) → Marked →
    Option (List (Char × Char) × Marked)
  | 0, _, _ => none
  | _ + 1, _, [] => none
  | steps + 1, first, (c, quoted) :: rest =>
    if c = ']' && !quoted && !first then some ([], rest) else
    let named := match c, quoted, rest with
      | '[', false, (':', _) :: more => className? more
      | _, _, _ => none
    match named with
    | some (ranges, rest) => (members steps false rest).map fun (more, rest) => (ranges ++ more, rest)
    | none =>
      let (c, rest) := match c, quoted, rest with
        | '\\', false, (d, _) :: more => (d, more)
        | _, _, _ => (c, rest)
      match rest with
      | ('-', false) :: (d, quotedEnd) :: more =>
        if d = ']' && !quotedEnd then
          (members steps false rest).map fun (more, rest) => ((c, c) :: more, rest)
        else
          let (d, more) := match d, quotedEnd, more with
            | '\\', false, (e, _) :: more => (e, more)
            | _, _, _ => (d, more)
          (members steps false more).map fun (ms, rest) => ((c, d) :: ms, rest)
      | _ => (members steps false rest).map fun (more, rest) => ((c, c) :: more, rest)

def bracket? (cs : Marked) : Option (CharSet × Marked) :=
  let (negated, cs) := match cs with
    | ('!', false) :: rest => (true, rest)
    | _ => (false, cs)
  (members (cs.length + 1) true cs).map fun (ranges, rest) => ({ negated, ranges }, rest)

def parse : (steps : Nat) → Marked → List Glob
  | 0, _ => []
  | _ + 1, [] => []
  | steps + 1, (c, quoted) :: rest =>
    if quoted then char c :: parse steps rest
    else if c = '*' then text :: parse steps rest
    else if c = '?' then one :: parse steps rest
    else if c = '\\' then match rest with
      | (d, _) :: more => char d :: parse steps more
      | [] => [char c]
    else if c = '[' then
      match bracket? rest with
      | some (s, after) => set s :: parse steps after
      | none => char c :: parse steps rest
    else char c :: parse steps rest

def ofMarked (cs : Marked) : List Glob := parse (cs.length + 1) cs

/-- The rests of a text after its beginnings that a star may take, the longest last. -/
def tails : List Char → List (List Char)
  | [] => [[]]
  | c :: cs => (c :: cs) :: tails cs

def accepts : List Glob → List Char → Bool
  | [], cs => cs.isEmpty
  | [text], _ => true
  | text :: gs, cs => (tails cs).any (accepts gs)
  | one :: gs, _ :: cs => accepts gs cs
  | set s :: gs, c :: cs => s.has c && accepts gs cs
  | char d :: gs, c :: cs => decide (c = d) && accepts gs cs
  | _, [] => false

/-- The text without the shortest or longest beginning that the pattern accepts. -/
def trimStart (longest : Bool) (gs : List Glob) (cs : List Char) : List Char :=
  let cuts := List.range (cs.length + 1)
  match (if longest then cuts.reverse else cuts).find? fun n => accepts gs (cs.take n) with
  | some n => cs.drop n
  | none => cs

/-- The text without the shortest or longest end that the pattern accepts. -/
def trimEnd (longest : Bool) (gs : List Glob) (cs : List Char) : List Char :=
  let cuts := List.range (cs.length + 1)
  match (if longest then cuts else cuts.reverse).find? fun n => accepts gs (cs.drop n) with
  | some n => cs.take n
  | none => cs

/-- Whether a text is a pattern at all: it has a star, a question mark or a bracket
expression that is not quoted. -/
def isPattern (cs : Marked) : Bool :=
  (ofMarked cs).any fun g => match g with
    | .char _ => false
    | _ => true

end Glob

end DeltaDebugging.Shell
