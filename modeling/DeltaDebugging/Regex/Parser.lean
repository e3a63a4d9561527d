import DeltaDebugging.Regex.Basic

/-!
# Reading regular expressions

Basic and extended expressions, in the strict reading of stream editors and the loose one of
line filters. In a basic expression an operator has a backslash in front; where an operator has
nothing to work on, the loose reading takes it literally or passes over it with a warning. The
plain reading knows only what is standard. Between basic and extended ones stand those in which
only groups and alternatives have a backslash.
-/
namespace DeltaDebugging.Regex

inductive Grammar where
  /-- Basic, with operators that have nothing to work on taken literally. -/
  | basic
  | strictBasic
  | extended
  | strictExtended
  | plainBasic
  | plainExtended
  /-- Basic, without a second look at bracket expressions that seem to be mistakes. -/
  | looseBasic
  /-- Groups and alternatives have a backslash, other operators none; there are no bounds and no
  classes. -/
  | mixed
  deriving DecidableEq, Repr

namespace Grammar

def isBasic (g : Grammar) : Bool :=
  g = basic || g = strictBasic || g = plainBasic || g = looseBasic || g = mixed

/-- Whether bracket expressions that look like mistakes are refused. -/
def advises (g : Grammar) : Bool := g ≠ looseBasic && g ≠ mixed

def isPlain (g : Grammar) : Bool := g = plainBasic || g = plainExtended

end Grammar

structure Reading where
  rest : List Char
  /-- The number of groups begun, and those that are closed. -/
  groups : Nat := 0
  closed : List Nat := []
  warnings : List String := []
  /-- Whether newlines are only taken by what names them. -/
  lines : Bool := false
  /-- Whether something was read that has to see whole characters. -/
  wide : Bool := false

abbrev Reader := EStateM String Reading

inductive Sign where
  | finished
  | opens
  | closes
  | bar
  | times (mark : Char)
  | brace
  | bracket
  | any
  | caret
  | dollar
  | escaped (c : Char)
  | char (c : Char)
  deriving DecidableEq, Repr

def sign (g : Grammar) : List Char → Sign × List Char
  | [] => (.finished, [])
  | '\\' :: [] => (.escaped '\\', [])
  | '\\' :: c :: rest =>
    if g.isBasic then match c with
      | '(' => (.opens, rest)
      | ')' => (.closes, rest)
      | _ => if g = .mixed then if c = '|' then (.bar, rest) else (.escaped c, rest)
        else if c = '\x7b' then (.brace, rest)
        else if g.isPlain then (.escaped c, rest) else match c with
        | '|' => (.bar, rest)
        | '+' => (.times c, rest)
        | '?' => (.times c, rest)
        | _ => (.escaped c, rest)
    else (.escaped c, rest)
  | c :: rest => match c with
    | '[' => (.bracket, rest)
    | '.' => (.any, rest)
    | '^' => (.caret, rest)
    | '$' => (.dollar, rest)
    | '*' => (.times c, rest)
    | _ => if g = .mixed then if c = '+' || c = '?' then (.times c, rest) else (.char c, rest)
      else if g.isBasic then (.char c, rest) else match c with
      | '(' => (.opens, rest)
      | ')' => (.closes, rest)
      | '|' => (.bar, rest)
      | '\x7b' => (.brace, rest)
      | '+' => (.times c, rest)
      | '?' => (.times c, rest)
      | _ => (.char c, rest)

namespace Reader

def peek (g : Grammar) : Reader Sign := return (sign g (← get).rest).1

def drop (g : Grammar) : Reader Unit := modify fun r => { r with rest := (sign g r.rest).2 }

def setRest (cs : List Char) : Reader Unit := modify fun r => { r with rest := cs }

def warn (text : String) : Reader Unit := modify fun r => { r with warnings := r.warnings ++ [text] }

def fail (text : String) : Reader α := throw text

end Reader

open Reader

def unmatchedBracket : String := "Unmatched [, [^, [:, [., or [="

def escapedSet? (c : Char) : Option CharSet :=
  let spaces : List (Char × Char) := [('\t', '\r'), (' ', ' ')]
  match c with
  | 'w' => some ⟨false, CharSet.wordRanges, [.letter]⟩
  | 'W' => some ⟨true, CharSet.wordRanges, [.letter]⟩
  | 's' => some ⟨false, spaces, [.space]⟩
  | 'S' => some ⟨true, spaces, [.space]⟩
  | _ => none

def hexValue? (cs : List Char) : Option Nat :=
  if cs.isEmpty then none else cs.foldl (fun n c =>
    let v := if c.isDigit then some (c.toNat - '0'.toNat)
      else if 'a' ≤ c.toLower && c.toLower ≤ 'f' then some (c.toLower.toNat - 'a'.toNat + 10) else none
    match n, v with
    | some n, some v => some (n * 16 + v)
    | _, _ => none) (some 0)

/-- A class, an equivalence or a named character within a bracket expression, after its
opening bracket. -/
def bracketClass (mark : Char) (cs : List Char) : Reader (CharSet × List Char) := do
  let rec split : List Char → Option (List Char × List Char)
    | [] => none
    | c :: cs => match cs with
      | ']' :: rest => if c = mark then some ([], rest) else (split cs).map fun (n, r) => (c :: n, r)
      | _ => (split cs).map fun (n, r) => (c :: n, r)
  match split cs with
  | none => fail unmatchedBracket
  | some (name, rest) =>
    let name := String.ofList name
    if mark = ':' then match CharSet.class? name with
      | some ranges => return ({ ranges, kinds := CharSet.kindsOf name }, rest)
      | none => fail "Invalid character class name"
    else match name.toList with
      | [c] =>
        if 0x80 ≤ c.toNat then fail "Invalid collation character"
        return ({ ranges := [(c, c)] }, rest)
      | _ => fail "Invalid collation character"

/-- What one member of a bracket expression begins with: a set, or a character that may begin a
range. -/
def bracketItem (g : Grammar) (c : Char) (rest : List Char) : Reader ((CharSet ⊕ Char) × List Char) := do
  match c, rest with
  | '[', mark :: more =>
    if (mark = ':' && g ≠ .mixed) || mark = '.' || mark = '=' then
      let (members, rest) ← bracketClass mark more
      match mark, members.ranges with
      | '.', [(c, _)] => return (.inr c, rest)
      | _, _ => return (.inl members, rest)
    else return (.inr c, rest)
  | _, _ => return (.inr c, rest)

/-- The members of a bracket expression; a bracket closes it unless nothing was read yet. -/
def bracketMembers (g : Grammar) : (steps : Nat) → (first : Bool) → List Char →
    Reader (CharSet × List Char)
  | 0, _, _ => fail unmatchedBracket
  | steps + 1, first, cs => do
    match cs with
    | [] => fail unmatchedBracket
    | c :: rest =>
      if c = ']' && !first then return ({ ranges := [] }, rest) else
      let adding (ranges : List (Char × Char)) (rest : List Char) : Reader (CharSet × List Char) := do
        let (more, rest) ← bracketMembers g steps false rest
        return ({ more with ranges := ranges ++ more.ranges }, rest)
      let (item, rest) ← bracketItem g c rest
      match item, rest with
      | .inl members, rest =>
        let (more, rest) ← bracketMembers g steps false rest
        return (⟨false, members.ranges ++ more.ranges, members.kinds ++ more.kinds⟩, rest)
      | .inr c, '-' :: ']' :: _ => adding [(c, c)] rest
      | .inr c, '-' :: d :: rest =>
        let (item, rest) ← bracketItem g d rest
        match item with
        | .inr d =>
          if 0x80 ≤ c.toNat || 0x80 ≤ d.toNat then fail "Invalid collation character"
          else if d < c then fail "Invalid range end"
          else adding [(c, d)] rest
        | .inl _ => fail "Invalid range end"
      | .inr c, rest => adding [(c, c)] rest

/-- Whether a bracket expression looks like a class whose outer brackets were forgotten. -/
def looksLikeClass (cs : List Char) : Bool :=
  let inner := cs.takeWhile (· ≠ ']')
  inner.head? = some ':' && 2 < inner.length && inner.getLast? = some ':' &&
    inner.length < cs.length && !inner.contains '['

def forgottenBrackets : String := "character class syntax is [[:space:]], not [:space:]"

def bracketSet (g : Grammar) : Reader Regex := do
  let cs := (← get).rest
  if g.advises && looksLikeClass cs then fail forgottenBrackets
  let (negated, cs) := match cs with
    | '^' :: rest => (true, rest)
    | _ => (false, cs)
  if cs.isEmpty then fail "Invalid regular expression"
  let (members, rest) ← bracketMembers g (cs.length + 1) true cs
  let isNarrow := !negated && members.kinds.isEmpty && members.ranges.all fun r => r.1 = r.2 && r.1.toNat < 0x80
  modify fun r => { r with rest, wide := r.wide || !isNarrow }
  let ranges := if negated && (← get).lines then ('\n', '\n') :: members.ranges else members.ranges
  return .set { members with negated, ranges }

inductive Interval where
  | bounds (least : Nat) (most : Option Nat) (rest : List Char)
  | unfinished
  | bad
  | tooBig

def maximalCount : Nat := 32767

def interval (g : Grammar) (cs : List Char) : Interval :=
  let number (cs : List Char) : Option Nat × List Char :=
    let ds := cs.takeWhile Char.isDigit
    (if ds.isEmpty then none else some (ds.foldl (fun n d => n * 10 + (d.toNat - '0'.toNat)) 0),
      cs.drop ds.length)
  let close : List Char → Option (List Char)
    | '\\' :: '\x7d' :: rest => if g.isBasic then some rest else none
    | '\x7d' :: rest => if g.isBasic then none else some rest
    | _ => none
  let ending (least : Nat) (most : Option Nat) (rest : List Char) : Interval :=
    match close rest with
    | none => if rest.isEmpty then .unfinished else .bad
    | some rest =>
      if most.any fun n => n < least then .bad
      else if maximalCount < most.getD least then .tooBig
      else .bounds least most rest
  let (least, rest) := number cs
  match least, rest with
  | none, ',' :: rest =>
    let (most, rest) := number rest
    ending 0 most rest
  | none, rest => if rest.isEmpty then .unfinished else .bad
  | some n, ',' :: rest =>
    let (most, rest) := number rest
    ending n most rest
  | some n, rest => ending n (some n) rest

/-- The complaint about an operator that has nothing to work on. -/
def idle : String := "Invalid preceding regular expression"

/-- An operator where an expression should begin. Gives the character it stands for if it is
taken literally. -/
def leadingOperator (g : Grammar) (s : Sign) : Reader (Option Char) := do
  match g, s with
  | .basic, .times c => return some c
  | .strictBasic, .times c => return some c
  | .plainBasic, .times c => return some c
  | .looseBasic, .times c => return some c
  | .mixed, .times c => return some c
  | .looseBasic, .brace => return some '\x7b'
  | .basic, .brace => return some '\x7b'
  | .extended, .times c =>
    warn (String.singleton c ++ " at start of expression")
    return none
  | .extended, .brace => match interval g (← get).rest with
    | .bounds _ _ rest =>
      warn "\x7b...\x7d at start of expression"
      setRest rest
      return none
    | _ => return some '\x7b'
  | _, _ => fail idle

def repeated (g : Grammar) : (steps : Nat) → (already : Bool) → Regex → Reader Regex
  | 0, _, r => return r
  | steps + 1, already, r => do
    let apply (least : Nat) (most : Option Nat) : Reader Regex := do
      if already && (g = .strictBasic || g = .plainBasic) then fail idle
      repeated g steps true (.many r least most false)
    match ← peek g with
    | .times c =>
      drop g
      apply (if c = '+' then 1 else 0) (if c = '?' then some 1 else none)
    | .brace => match interval g (sign g (← get).rest).2 with
      | .bounds least most rest =>
        setRest rest
        apply least most
      | .tooBig => fail "Regular expression too big"
      | .unfinished => if g = .extended then return r else fail "Unmatched \\\x7b"
      | .bad =>
        let bounded := match interval .strictExtended (sign g (← get).rest).2 with
          | .bad => true
          | _ => false
        let cs := (sign g (← get).rest).2
        -- bounds in the wrong order are refused even by those who else read literally
        let shaped := cs.takeWhile fun c => c.isDigit || c = ','
        let numbers := (String.ofList shaped).splitOn ","
        let swapped := bounded && (cs.drop shaped.length).head? = some '\x7d' && numbers.length = 2 &&
          numbers.all fun n => !n.isEmpty
        if g = .extended && !swapped then return r
        else fail "Invalid content of \\\x7b\\\x7d"
    | _ => return r

/-- What a backslash and a character stand for outside brackets. The flag tells an edge, which
cannot be repeated. -/
def escape (g : Grammar) (c : Char) : Reader (Regex × Bool) := do
  let edge : Option Edge := match c with
    | 'b' => some .word
    | 'B' => some .noWord
    | '<' => some .wordStart
    | '>' => some .wordEnd
    | '\x60' => some .textStart
    | '\'' => some .textEnd
    | _ => none
  let literal : Regex := .set { ranges := [(c, c)] }
  if '1' ≤ c && c ≤ '9' then
    let n := c.toNat - '0'.toNat
    if (← get).closed.contains n then return (.same n, false) else fail "Invalid back reference"
  else if g.isPlain then return (literal, false)
  else match edge, escapedSet? c with
    | some e, _ =>
      modify fun r => { r with wide := r.wide || (e ≠ .textStart && e ≠ .textEnd) }
      return (.edge e, true)
    | none, some s =>
      modify fun r => { r with wide := true }
      return (.set s, false)
    | none, none => return (literal, false)

mutual

/-- An expression with its alternatives, up to its end or the end of its group. -/
def alternatives (g : Grammar) : (steps : Nat) → (depth : Nat) → Reader Regex
  | 0, _ => return .empty
  | steps + 1, depth => do
    let a ← row g steps depth true
    match ← peek g with
    | .bar => do
      drop g
      return .alt a (← alternatives g steps depth)
    | _ => return a

/-- Expressions in a row; `leads` holds where nothing is there yet to be repeated. -/
def row (g : Grammar) : (steps : Nat) → (depth : Nat) → (leads : Bool) → Reader Regex
  | 0, _, _ => return .empty
  | steps + 1, depth, leads => do
    let goOn (r : Regex) (leads : Bool) : Reader Regex := do
      match ← row g steps depth leads with
      | .empty => return r
      | more => return .seq r more
    let atom (r : Regex) : Reader Regex := do
      goOn (← repeated g steps false r) false
    let literal (c : Char) : Reader Regex := atom (.set { ranges := [(c, c)] })
    let s ← peek g
    match s with
    | .finished => return .empty
    | .bar => return .empty
    | .closes =>
      if 0 < depth then return .empty
      else if g = .extended || g = .plainExtended then
        drop g
        literal ')'
      else fail "Unmatched ) or \\)"
    | .opens => do
      drop g
      let n := (← get).groups + 1
      modify fun r => { r with groups := n }
      let inner ← alternatives g steps (depth + 1)
      match ← peek g with
      | .closes => drop g
      | _ => fail "Unmatched ( or \\("
      modify fun r => { r with closed := n :: r.closed }
      atom (.group n inner)
    | .times _ => operator g steps depth leads s
    | .brace => operator g steps depth leads s
    | .bracket => do
      drop g
      atom (← bracketSet g)
    | .any => do
      drop g
      let apart := (← get).lines || g = .mixed
      atom (.set { negated := true, ranges := if apart then [('\n', '\n')] else [] })
    | .caret => do
      drop g
      if g.isBasic && !leads then literal '^' else goOn (.edge .lineStart) true
    | .dollar => do
      drop g
      let ends := match ← peek g with
        | .finished => true
        | .bar => true
        | .closes => true
        | _ => false
      if g.isBasic && !ends then literal '$' else goOn (.edge .lineEnd) true
    | .escaped c => do
      if (← get).rest.length < 2 then fail "Trailing backslash"
      drop g
      let (r, isEdge) ← escape g c
      if isEdge then goOn r true else atom r
    | .char c => do
      drop g
      literal c

/-- An operator in a row, where it follows nothing that it could work on, or reads literally. -/
def operator (g : Grammar) : (steps : Nat) → (depth : Nat) → (leads : Bool) → Sign → Reader Regex
  | 0, _, _, _ => return .empty
  | steps + 1, depth, leads, s => do
    drop g
    let found ← if leads then leadingOperator g s else
      pure (some (match s with
        | .times c => c
        | _ => '\x7b'))
    match found with
    | none => row g steps depth true
    | some c =>
      let r ← repeated g steps false (.set { ranges := [(c, c)] })
      match ← row g steps depth false with
      | .empty => return r
      | more => return .seq r more

end

/-- An expression that was read: itself, its groups, and what there is to warn of. -/
structure Parsed where
  regex : Regex
  groups : Nat := 0
  /-- The expressions of groups that are called. -/
  routines : List (Nat × Regex) := []
  warnings : List String := []
  /-- Whether it has to see whole characters. -/
  wide : Bool := false

def parse (g : Grammar) (cs : List Char) (lines : Bool := false) : Except String Parsed :=
  match alternatives g (4 * cs.length + 8) 0 { rest := cs, lines } with
  | .ok r s => .ok { regex := r, groups := s.groups, warnings := s.warnings, wide := s.wide }
  | .error e _ => .error e

end DeltaDebugging.Regex
