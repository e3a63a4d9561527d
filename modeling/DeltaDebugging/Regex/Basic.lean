import DeltaDebugging.Regex.CharSet

/-!
# Regular expressions

An expression takes a place in a text to the places where a match from there may end, each
with what the groups took on the way. Of several ways to the same end the one that comes
first is kept, so the number of places stays within that of the text.
-/
namespace DeltaDebugging

/-- A place that something is tied to, without a width. -/
inductive Edge where
  | lineStart
  | lineEnd
  | textStart
  | textEnd
  /-- The end of the text, or before a newline that ends it. -/
  | lastEnd
  | word
  | noWord
  | wordStart
  | wordEnd
  deriving DecidableEq, Repr

inductive Regex where
  | empty
  | set (s : CharSet)
  | seq (a b : Regex)
  | alt (a b : Regex)
  | group (number : Nat) (r : Regex)
  | many (r : Regex) (least : Nat) (most : Option Nat) (lazily : Bool)
  | same (number : Nat)
  | edge (e : Edge)
  /-- Something that must be ahead or behind, or must not be, and takes nothing. -/
  | look (ahead negated : Bool) (r : Regex)
  /-- The match only starts here. -/
  | cut
  /-- Of the ways to a match the first one, once and for all. -/
  | atomic (r : Regex)
  /-- Within, the case of letters counts or does not. -/
  | caseless (folds : Bool) (r : Regex)
  /-- The expression of a group once more; that of group zero is the whole. -/
  | call (number : Nat)
  /-- One of two expressions, by whether a group took something. -/
  | ifTaken (number : Nat) (yes no : Regex)
  deriving DecidableEq, Repr

namespace Regex

structure Subject where
  text : Array Char
  /-- Whether the case of letters counts. -/
  folds : Bool := false
  /-- Whether newlines within the text end lines, too. -/
  lines : Bool := false
  /-- What counts as a newline. -/
  newline : Char := '\n'
  /-- Whether the longest match is wanted, and not the first in the order of choices. -/
  longest : Bool := true
  /-- Whether ways to the same end differ if their groups do. -/
  exact : Bool := false
  /-- Whether letters outside ASCII make words. -/
  wide : Bool := false
  /-- The expressions that may be called. -/
  routines : List (Nat × Regex) := []

structure Spot where
  position : Nat
  /-- Where the match starts. -/
  start : Nat
  groups : List (Nat × Nat × Nat) := []
  deriving DecidableEq, Repr

namespace Subject

def wordAt (s : Subject) (i : Nat) : Bool :=
  (s.text[i]?).any fun c => CharSet.has
    { ranges := CharSet.wordRanges, kinds := if s.wide then [.letter] else [] }
    (if s.wide && Octets.isStray c then Char.ofNat (c.toNat - Octets.strayBase) else c)

def wordBefore (s : Subject) (i : Nat) : Bool := 0 < i && s.wordAt (i - 1)

def newlineAt (s : Subject) (i : Nat) : Bool := s.text[i]? == some s.newline

def atEdge (s : Subject) (i : Nat) : Edge → Bool
  | .lineStart => i = 0 || (s.lines && s.newlineAt (i - 1))
  | .lineEnd => i = s.text.size || (s.lines && s.newlineAt i)
  | .textStart => i = 0
  | .textEnd => i = s.text.size
  | .lastEnd => i = s.text.size || (i + 1 = s.text.size && s.newlineAt i)
  | .word => s.wordBefore i != s.wordAt i
  | .noWord => s.wordBefore i == s.wordAt i
  | .wordStart => !s.wordBefore i && s.wordAt i
  | .wordEnd => s.wordBefore i && !s.wordAt i

/-- Whether a set takes a character. Stray bytes are never outside a set. -/
def accepts (s : Subject) (set : CharSet) (c : Char) : Bool :=
  if set.negated && Octets.isStray c then false
  else if s.folds then (set.lists (Text.lowerChar c) || set.lists (Text.upperChar c)) != set.negated
  else set.has c

def same (s : Subject) (a b : Char) : Bool :=
  if s.folds then Text.lowerChar a == Text.lowerChar b else a == b

/-- Whether the piece between two places is found again at a third. -/
def repeats (s : Subject) (a b i : Nat) : Bool :=
  (List.range (b - a)).all fun k => match s.text[a + k]?, s.text[i + k]? with
    | some c, some d => s.same c d
    | _, _ => false

end Subject

/-- Places found so far, the latest first, and those that need not be found again. -/
structure Found where
  seen : Array Bool
  seenExactly : List (Nat × Spot) := []
  spots : List Spot := []

namespace Found

/-- Nothing found in a text, for ways of `layers` kinds. -/
def none (s : Subject) (layers : Nat) : Found :=
  { seen := if s.exact then #[] else Array.replicate ((s.text.size + 1) * layers) false }

def key (s : Subject) (layer : Nat) (p : Spot) : Nat := layer * (s.text.size + 1) + p.position

def isSeen (f : Found) (s : Subject) (layer : Nat) (p : Spot) : Bool :=
  if s.exact then f.seenExactly.contains (layer, p)
  else f.seen.getD (key s layer p) false

def mark (f : Found) (s : Subject) (layer : Nat) (p : Spot) : Found :=
  if s.exact then { f with seenExactly := (layer, p) :: f.seenExactly }
  else { f with seen := f.seen.setIfInBounds (key s layer p) true }

def add (f : Found) (p : Spot) : Found := { f with spots := p :: f.spots }

end Found

/-- The places without repetitions, in the order in which they are preferred. -/
def distinct (s : Subject) (ps : List Spot) : List Spot :=
  match ps with
  | [] => []
  | [p] => [p]
  | ps =>
    let f := ps.foldl (fun f p => if f.isSeen s 0 p then f else (f.mark s 0 p).add p) (Found.none s 1)
    let kept := f.spots.reverse
    if s.longest then kept.mergeSort fun a b => decide (b.position ≤ a.position) else kept

/-- The places after at most `rounds` more rounds of a step; with `counts` each round is a
layer of its own. A round that takes nothing leads nowhere. -/
def furtherFrom (s : Subject) (step : Spot → List Spot) (lazily counts : Bool) :
    (rounds : Nat) → Spot → Found → Found
  | rounds, p, f =>
    let layer := if counts then rounds else 0
    if f.isSeen s layer p then f else
    let f := f.mark s layer p
    let f := if lazily then f.add p else f
    let f := match rounds with
      | 0 => f
      | rounds + 1 => (step p).foldl (fun f q =>
          if p.position < q.position then furtherFrom s step lazily counts rounds q f else f) f
    if lazily then f else f.add p

/-- The places after exactly `n` rounds of a step. -/
def rounds (s : Subject) (step : Spot → List Spot) : (n : Nat) → List Spot → List Spot
  | 0, ps => ps
  | n + 1, ps => rounds s step n (distinct s (ps.flatMap step))

/-- The places to which an expression leads from one, where `further` leads on by a group that is called. -/
def endsBy (further : Subject → Nat → Spot → List Spot) : Subject → Regex → Spot → List Spot
  | _, empty, p => [p]
  | s, set cs, p => match s.text[p.position]? with
    | some c => if s.accepts cs c then [{ p with position := p.position + 1 }] else []
    | none => []
  | s, seq a b, p => match endsBy further s a p with
    | [] => []
    | [q] => endsBy further s b q
    | qs => distinct s (qs.flatMap (endsBy further s b))
  | s, alt a b, p => distinct s (endsBy further s a p ++ endsBy further s b p)
  | s, group n r, p => (endsBy further s r p).map fun q =>
      { q with groups := (n, p.position, q.position) :: q.groups.filter fun g => g.1 ≠ n }
  | s, many r least most lazily, p =>
    let step := endsBy further s r
    let firsts := rounds s step least [p]
    let (more, counts) := match most with
      | none => (s.text.size + 1, false)
      | some n => if s.text.size + least < n then (s.text.size + 1, false) else (n - least, true)
    let start := Found.none s (if counts then more + 1 else 1)
    let f := firsts.foldl (fun f q => furtherFrom s step lazily counts more q f) start
    distinct s f.spots.reverse
  | s, same n, p => match p.groups.lookup n with
    | some (a, b) =>
      if s.repeats a b p.position then [{ p with position := p.position + (b - a) }] else []
    | none => []
  | s, edge e, p => if s.atEdge p.position e then [p] else []
  | s, look true false r, p => match endsBy further s r p with
    | q :: _ => [{ p with groups := q.groups }]
    | [] => []
  | s, look true true r, p => if (endsBy further s r p).isEmpty then [p] else []
  | s, look false negated r, p =>
    let found := (List.range (p.position + 1)).any fun k =>
      (endsBy further s r { p with position := k }).any fun q => q.position = p.position
    if found = negated then [] else [p]
  | _, cut, p => [{ p with start := p.position }]
  | s, atomic r, p => (endsBy further s r p).take 1
  | s, caseless folds r, p => endsBy further { s with folds } r p
  | s, call n, p => further s n p
  | s, ifTaken n yes no, p =>
    if (p.groups.lookup n).isSome then endsBy further s yes p else endsBy further s no p

/-- The places to which a group leads that is called, with the groups as they were before. -/
def called : (depth : Nat) → Subject → Nat → Spot → List Spot
  | 0, _, _, _ => []
  | depth + 1, s, n, p => match s.routines.lookup n with
    | some r => distinct s ((endsBy (called depth) s r p).map fun q => { q with groups := p.groups })
    | none => []

def maximalDepth : Nat := 250

def ends (s : Subject) (r : Regex) (p : Spot) : List Spot := endsBy (called maximalDepth) s r p

def refersBack : Regex → Bool
  | same _ => true
  | seq a b => refersBack a || refersBack b
  | alt a b => refersBack a || refersBack b
  | group _ r => refersBack r
  | many r _ _ _ => refersBack r
  | look _ _ r => refersBack r
  | atomic r => refersBack r
  | caseless _ r => refersBack r
  | ifTaken .. => true
  | _ => false

/-- How many characters an expression takes, if it always takes the same number. -/
def width? : Regex → Option Nat
  | empty => some 0
  | set _ => some 1
  | seq a b => match width? a, width? b with
    | some m, some n => some (m + n)
    | _, _ => none
  | alt a b => match width? a, width? b with
    | some m, some n => if m = n then some m else none
    | _, _ => none
  | group _ r => width? r
  | many r least most _ => if most = some least then (width? r).map (· * least) else none
  | edge _ => some 0
  | look .. => some 0
  | cut => some 0
  | atomic r => width? r
  | caseless _ r => width? r
  | ifTaken _ yes no => match width? yes, width? no with
    | some m, some n => if m = n then some m else none
    | _, _ => none
  | same _ => none
  | call _ => none

def isFixed : Regex → Bool
  | alt a b => (width? a).isSome && isFixed b
  | r => (width? r).isSome

/-- The match at a place, if there is one. -/
def matchAt? (s : Subject) (r : Regex) (i : Nat) : Option Spot :=
  (ends s r { position := i, start := i }).head?

def search (s : Subject) (r : Regex) (i : Nat) : Option Spot :=
  let rec go : (steps : Nat) → Nat → Option Spot
    | 0, _ => none
    | steps + 1, i => match matchAt? s r i with
      | some p => some p
      | none => go steps (i + 1)
  go (s.text.size + 1 - i) i

def Subject.piece (s : Subject) (a b : Nat) : List Char := (s.text.extract a b).toList

def ofText (cs : List Char) : Regex :=
  cs.foldr (fun c r => match r with
    | empty => set { ranges := [(c, c)] }
    | r => seq (set { ranges := [(c, c)] }) r) empty

end Regex

end DeltaDebugging

namespace DeltaDebugging.Regex

/-!
## Expressions on encoded texts

An expression on characters as one on the bytes that encode them, where each of its sets is a
character by itself, ASCII, or without bounds. The second may start where no character does.
-/

def byteRow : List (Nat × Nat) → Regex
  | [] => empty
  | [r] => set { ranges := [(Char.ofNat r.1, Char.ofNat r.2)] }
  | r :: rs => seq (set { ranges := [(Char.ofNat r.1, Char.ofNat r.2)] }) (byteRow rs)

/-- The bytes of any character outside ASCII. -/
def encodedCharacter : Regex :=
  let more : Nat × Nat := (0x80, 0xbf)
  [[(0xe0, 0xe0), (0xa0, 0xbf), more], [(0xe1, 0xef), more, more],
    [(0xf0, 0xf0), (0x90, 0xbf), more, more], [(0xf1, 0xf4), more, more, more]].foldl
    (fun r row => alt r (byteRow row)) (byteRow [(0xc2, 0xdf), more])

def encodedSet (s : CharSet) : Regex :=
  if s.negated then
    alt (set { ranges := (CharSet.gaps s.ranges).filterMap fun r =>
      if r.1.toNat < 0x80 then some (r.1, if r.2.toNat < 0x80 then r.2 else '\x7f') else none }) encodedCharacter
  else match s.ranges with
    | [(a, b)] => if a = b then ofText (Octets.ofCharacter a) else set s
    | _ => set s

def encoded : Regex → Regex
  | set s => encodedSet s
  | seq a b => seq (encoded a) (encoded b)
  | alt a b => alt (encoded a) (encoded b)
  | group n r => group n (encoded r)
  | many r least most lazily => many (encoded r) least most lazily
  | look ahead negated r => look ahead negated (encoded r)
  | atomic r => atomic (encoded r)
  | caseless folds r => caseless folds (encoded r)
  | ifTaken n yes no => ifTaken n (encoded yes) (encoded no)
  | r => r

end DeltaDebugging.Regex
