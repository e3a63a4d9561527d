import DeltaDebugging.Regex.Parser

/-!
# Reading rich regular expressions

Expressions with groups that begin with a question mark: with names, with modes, that look
around, that are taken once and for all, that are called again or depend on others. A pattern is
read twice, as what comes later decides what a mention of a group means.
-/
namespace DeltaDebugging.Regex.Perl

structure Modes where
  folds : Bool := false
  /-- Whether a dot takes the end of a line. -/
  dots : Bool := false
  lines : Bool := true
  /-- Whether blanks and comments are passed over. -/
  spaced : Bool := false
  lazily : Bool := false
  /-- Whether plain groups have no numbers. -/
  unnumbered : Bool := false

/-- The groups that a first reading has found. -/
structure Known where
  groups : Nat
  named : List (String × Nat)

structure Reading where
  rest : List Char
  modes : Modes := {}
  groups : Nat := 0
  named : List (String × Nat) := []
  routines : List (Nat × Regex) := []
  known : Option Known := none

abbrev Scan := EStateM String Reading

namespace Scan

def rest : Scan (List Char) := return (← get).rest

def setRest (cs : List Char) : Scan Unit := modify fun r => { r with rest := cs }

def modes : Scan Modes := return (← get).modes

def fail (text : String) : Scan α := throw text

end Scan

open Scan

def idle : String := "quantifier does not follow a repeatable item"

def unknownGroup : String := "reference to non-existent subpattern"

def unclosed : String := "missing closing parenthesis"

def one (c : Char) : CharSet := { ranges := [(c, c)] }

def moded (r : Regex) : Scan Regex := return if (← modes).folds then .caseless true r else r

def checkedNumber (n : Nat) : Scan Nat := do
  match (← get).known with
  | some k => if k.groups < n then fail unknownGroup else return n
  | none => return n

def checkedName (name : String) : Scan Nat := do
  match (← get).known with
  | some k => match k.named.lookup name with
    | some n => return n
    | none => fail unknownGroup
  | none => return 0

def isNameChar (c : Char) : Bool := c.isAlphanum || c = '_'

def nameUntil (terminator : Char) (complaint : String) : Scan String := do
  let cs ← rest
  let name := cs.takeWhile isNameChar
  if name.isEmpty then fail "subpattern name expected"
  if (name.headD 'a').isDigit then fail "subpattern name must start with a non-digit"
  if 32 < name.length then fail "subpattern name is too long (maximum 32 code units)"
  if cs[name.length]? ≠ some terminator then fail complaint
  setRest (cs.drop (name.length + 1))
  return String.ofList name

def unterminatedName : String := "syntax error in subpattern name (missing terminator?)"

def valueIn (base : Nat) (ds : List Char) : Nat :=
  ds.foldl (fun n d => n * base + ((hexValue? [d]).getD 0)) 0

/-- The number of a group, perhaps counted from the current one, at the front of a text. -/
def groupNumber? (cs : List Char) : Scan (Option (Nat × List Char)) := do
  let current := (← get).groups
  let (sign, ds) := match cs with
    | '+' :: cs => (some '+', cs)
    | '-' :: cs => (some '-', cs)
    | cs => (none, cs)
  let digits := ds.takeWhile Char.isDigit
  if digits.isEmpty then return none
  let n := valueIn 10 digits
  let after := ds.drop digits.length
  match sign with
  | none => return some (n, after)
  | some s =>
    if n = 0 then fail "a relative value of zero is not allowed"
    if s = '+' then return some (current + n, after)
    else if current + 1 ≤ n then fail unknownGroup
    else return some (current + 1 - n, after)

def octal (c : Char) : Bool := '0' ≤ c && c ≤ '7'

def isHex (c : Char) : Bool := (hexValue? [c]).isSome

/-- A character that is written by its code behind a backslash and a letter. -/
def coded? (c : Char) (cs : List Char) : Scan (Option (Char × List Char)) := do
  let char (n : Nat) (after : List Char) : Scan (Option (Char × List Char)) := do
    if 0x10ffff < n then fail "character code point value in \\x\x7b\x7d or \\o\x7b\x7d is too large"
    return some (Char.ofNat n, after)
  match c, cs with
  | 'a', _ => return some ('\x07', cs)
  | 'e', _ => return some ('\x1b', cs)
  | 'f', _ => return some ('\x0c', cs)
  | 'n', _ => return some ('\n', cs)
  | 'r', _ => return some ('\r', cs)
  | 't', _ => return some ('\t', cs)
  | '0', _ =>
    let ds := (cs.take 2).takeWhile octal
    char (valueIn 8 ds) (cs.drop ds.length)
  | 'o', '\x7b' :: more =>
    let ds := more.takeWhile octal
    if ds.isEmpty || more[ds.length]? ≠ some '\x7d' then
      fail "non-octal character in \\o\x7b\x7d (closing brace missing?)"
    char (valueIn 8 ds) (more.drop (ds.length + 1))
  | 'o', _ => fail "missing opening brace after \\o"
  | 'x', '\x7b' :: more =>
    let ds := more.takeWhile isHex
    if ds.isEmpty || more[ds.length]? ≠ some '\x7d' then
      fail "non-hex character in \\x\x7b\x7d (closing brace missing?)"
    char (valueIn 16 ds) (more.drop (ds.length + 1))
  | 'x', _ =>
    let ds := (cs.take 2).takeWhile isHex
    char (valueIn 16 ds) (cs.drop ds.length)
  | 'c', [] => fail "\\c at end of pattern"
  | 'c', d :: more =>
    if ' ' ≤ d && d ≤ '~' then return some (Char.ofNat (d.toUpper.toNat ^^^ 64), more)
    else fail "\\c must be followed by a printable ASCII character"
  | _, _ => return none

def vertical : List (Char × Char) := [('\n', '\r'), ('\u0085', '\u0085'), ('\u2028', '\u2029')]

def horizontal : List (Char × Char) :=
  [('\t', '\t'), (' ', ' '), ('\u00a0', '\u00a0'), ('\u1680', '\u1680'), ('\u180e', '\u180e'),
    ('\u2000', '\u200a'), ('\u202f', '\u202f'), ('\u205f', '\u205f'), ('\u3000', '\u3000')]

/-- The set that a letter behind a backslash stands for, within brackets as well. -/
def letterSet? (c : Char) : Option CharSet :=
  let ranges? : Option (List (Char × Char)) := match c.toLower with
    | 'd' => some [('0', '9')]
    | 'w' => some CharSet.wordRanges
    | 's' => some [('\t', '\r'), (' ', ' ')]
    | 'h' => some horizontal
    | 'v' => some vertical
    | _ => none
  ranges?.map fun ranges => { negated := c.isUpper, ranges }

def property? (name : String) : Option CharSet :=
  let ascii (p : Char → Bool) : List (Char × Char) :=
    ((List.range 128).map Char.ofNat).filterMap fun c => if p c then some (c, c) else none
  let letters : CharSet := ⟨false, ascii Char.isAlpha, [.letter]⟩
  let signs : List Char := "$+<=>^\x60|~".toList
  let block (a b : Nat) : CharSet := { ranges := [(Char.ofNat a, Char.ofNat b)] }
  ([("Any", { negated := true, ranges := [] }), ("L", letters), ("L&", letters),
    ("Lu", ⟨false, [('A', 'Z')], [.upper]⟩), ("Ll", ⟨false, [('a', 'z')], [.lower]⟩),
    ("Lt", { ranges := [] }), ("Lm", { ranges := [] }), ("Lo", { ranges := [] }),
    ("M", block 0x300 0x36f), ("Mn", block 0x300 0x36f),
    ("N", { ranges := [('0', '9')] }), ("Nd", { ranges := [('0', '9')] }),
    ("P", ⟨false, ascii (fun c => Text.isSign c && !signs.contains c), [.sign]⟩),
    ("S", { ranges := ascii signs.contains }),
    ("Z", ⟨false, [(' ', ' ')], [.space]⟩), ("Zs", ⟨false, [(' ', ' ')], [.blank]⟩),
    ("C", ⟨false, [('\x00', '\x1f'), ('\x7f', '\x7f')], [.control]⟩),
    ("Cc", ⟨false, [('\x00', '\x1f'), ('\x7f', '\x7f')], [.control]⟩),
    ("Xan", ⟨false, ascii Char.isAlphanum, [.letter]⟩),
    ("Xwd", ⟨false, CharSet.wordRanges, [.letter]⟩),
    ("Xsp", ⟨false, [('\t', '\r'), (' ', ' ')], [.space]⟩),
    ("Xps", ⟨false, [('\t', '\r'), (' ', ' ')], [.space]⟩),
    ("Latin", { ranges := ascii Char.isAlpha ++ [('ª', 'ª'), ('º', 'º'), ('À', 'Ö'), ('Ø', 'ö'),
      ('ø', '\u02b8'), ('\u1e00', '\u1eff')] }),
    ("Greek", { ranges := [('\u0370', '\u0373'), ('\u0375', '\u03ff'), ('\u1f00', '\u1ffe')] }),
    ("Cyrillic", block 0x400 0x52f), ("Hebrew", block 0x591 0x5f4), ("Arabic", block 0x600 0x6ff),
    ("Hiragana", block 0x3041 0x309f), ("Katakana", block 0x30a1 0x30ff),
    ("Han", { ranges := [('\u3400', '\u4dbf'), ('\u4e00', '\u9fff')] }),
    ("Hangul", block 0xac00 0xd7a3), ("Common", ⟨false, ascii (fun c => !c.isAlpha), [.sign]⟩)] :
      List (String × CharSet)).lookup name

def property (negated : Bool) : Scan CharSet := do
  let cs ← rest
  let (text, after) ← match cs with
    | '\x7b' :: more =>
      let name := more.takeWhile (· ≠ '\x7d')
      if name.length = more.length then fail "malformed \\P or \\p sequence"
      pure (name, more.drop (name.length + 1))
    | c :: more => pure ([c], more)
    | [] => fail "malformed \\P or \\p sequence"
  setRest after
  let (inverted, name) := match text with
    | '^' :: name => (true, name)
    | name => (false, name)
  match property? (String.ofList name) with
  | some s => return { s with negated := s.negated != (negated != inverted) }
  | none => fail "unknown property after \\P or \\p"

def asMembers (s : CharSet) : CharSet :=
  if s.negated then { ranges := CharSet.gaps s.ranges } else s

/-- A named class within brackets, after its opening bracket and colon. -/
def namedClass? (cs : List Char) : Scan (Option (CharSet × List Char)) := do
  let (inverted, cs) := match cs with
    | '^' :: cs => (true, cs)
    | cs => (false, cs)
  let name := cs.takeWhile Char.isAlpha
  match cs.drop name.length with
  | ':' :: ']' :: after => match CharSet.class? (String.ofList name) with
    | some ranges => return some (if inverted then { ranges := CharSet.gaps ranges } else { ranges }, after)
    | none =>
      if String.ofList name = "word" then
        let s : CharSet := { negated := inverted, ranges := CharSet.wordRanges }
        return some (asMembers s, after)
      else if String.ofList name = "ascii" then
        let s : CharSet := { negated := inverted, ranges := [('\x00', '\x7f')] }
        return some (asMembers s, after)
      else fail "unknown POSIX class name"
  | _ => return none

def bracketItem : Scan (CharSet ⊕ Char) := do
  match ← rest with
  | '[' :: ':' :: more => match ← namedClass? more with
    | some (s, after) =>
      setRest after
      return .inl s
    | none =>
      setRest (':' :: more)
      return .inr '['
  | '\\' :: c :: more =>
    setRest more
    match letterSet? c with
    | some s => return .inl (asMembers s)
    | none => match ← coded? c more with
      | some (d, after) =>
        setRest after
        return .inr d
      | none =>
        if c = 'b' then return .inr '\x08'
        else if c = 'p' || c = 'P' then return .inl (asMembers (← property (c = 'P')))
        else if c = 'N' || c = 'R' || c = 'X' || c = 'B' then
          fail "escape sequence is invalid in character class"
        else if octal c then
          let ds := (c :: more).take 3 |>.takeWhile octal
          setRest ((c :: more).drop ds.length)
          return .inr (Char.ofNat (valueIn 8 ds))
        else if c.isAlphanum then fail "unrecognized character follows \\"
        else return .inr c
  | c :: more =>
    setRest more
    return .inr c
  | [] => fail "missing terminating ] for character class"

/-- The rest of a bracket expression behind a member, which may begin a range; `again` reads the
members behind it. -/
def bracketMember (again : Scan CharSet) (item : CharSet ⊕ Char) : Scan CharSet := do
  let joined (a b : CharSet) : CharSet := ⟨false, a.ranges ++ b.ranges, a.kinds ++ b.kinds⟩
  match item, ← rest with
  | .inl s, _ => return joined s (← again)
  | .inr c, '-' :: ']' :: _ => return joined (one c) (← again)
  | .inr c, '-' :: after =>
    setRest after
    match ← bracketItem with
    | .inl s => return joined ⟨false, (c, c) :: ('-', '-') :: s.ranges, s.kinds⟩ (← again)
    | .inr d =>
      if d < c then fail "range out of order in character class"
      return joined { ranges := [(c, d)] } (← again)
  | .inr c, _ => return joined (one c) (← again)

/-- The members of a bracket expression; a bracket closes it unless nothing was read yet. -/
def bracketMembers : (steps : Nat) → (first : Bool) → Scan CharSet
  | 0, _ => fail "missing terminating ] for character class"
  | steps + 1, first => do
    match ← rest with
    | ']' :: after =>
      setRest after
      if first then bracketMember (bracketMembers steps false) (.inr ']') else return { ranges := [] }
    | _ =>
      let item ← bracketItem
      bracketMember (bracketMembers steps false) item

def bracketed : Scan Regex := do
  let cs ← rest
  let (negated, cs) := match cs with
    | '^' :: cs => (true, cs)
    | cs => (false, cs)
  match cs with
  | ':' :: more => match ← namedClass? more with
    | some _ => if !negated then fail "POSIX named classes are supported only within a class"
    | none => pure ()
  | _ => pure ()
  setRest cs
  let s ← bracketMembers (cs.length + 2) true
  moded (.set { s with negated })

def bounds? (cs : List Char) : Scan (Option (Nat × Option Nat × List Char)) := do
  match cs with
  | '*' :: after => return some (0, none, after)
  | '+' :: after => return some (1, none, after)
  | '?' :: after => return some (0, some 1, after)
  | '\x7b' :: more =>
    let low := more.takeWhile Char.isDigit
    let checked (least : Nat) (most : Option Nat) (after : List Char) :
        Scan (Option (Nat × Option Nat × List Char)) := do
      if 65535 < max least (most.getD 0) then fail "number too big in \x7b\x7d quantifier"
      if most.any fun n => n < least then fail "numbers out of order in \x7b\x7d quantifier"
      return some (least, most, after)
    if low.isEmpty then return none
    match more.drop low.length with
    | '\x7d' :: after => checked (valueIn 10 low) (some (valueIn 10 low)) after
    | ',' :: '\x7d' :: after => checked (valueIn 10 low) none after
    | ',' :: more =>
      let high := more.takeWhile Char.isDigit
      match high, more.drop high.length with
      | _ :: _, '\x7d' :: after => checked (valueIn 10 low) (some (valueIn 10 high)) after
      | _, _ => return none
    | _ => return none
  | _ => return none

/-- Passes over blanks and comments, if they do not count. -/
def skipSpaced : (steps : Nat) → Scan Unit
  | 0 => return
  | steps + 1 => do
    if !(← modes).spaced then return
    match ← rest with
    | '#' :: cs =>
      setRest ((cs.dropWhile (· ≠ '\n')).drop 1)
      skipSpaced steps
    | c :: cs =>
      if c = ' ' || ('\t' ≤ c && c ≤ '\r') then
        setRest cs
        skipSpaced steps
    | [] => return

def quantified (r : Regex) : Scan Regex := do
  let cs ← rest
  skipSpaced (cs.length + 1)
  match ← bounds? (← rest) with
  | none => return r
  | some (least, most, after) =>
    match after with
    | '+' :: after =>
      setRest after
      return .atomic (.many r least most false)
    | '?' :: after =>
      setRest after
      return .many r least most (!(← modes).lazily)
    | _ =>
      setRest after
      return .many r least most (← modes).lazily

/-- A mention of a group behind `g` or `k`. The flag tells a call. -/
def mention (c : Char) : Scan Regex := do
  let complaint := if c = 'k' then
      "\\k is not followed by a braced, angle-bracketed, or quoted name"
    else "\\g is not followed by a braced, angle-bracketed, or quoted name/number or by a plain number"
  let within (terminator : Char) (more : List Char) (calls : Bool) : Scan Regex := do
    let numbered ← if c = 'g' then groupNumber? more else pure none
    match numbered with
    | some (n, after) =>
      if after.head? ≠ some terminator then fail complaint
      setRest (after.drop 1)
      let n ← checkedNumber n
      if calls then return .call n else moded (.same n)
    | none =>
      setRest more
      let n ← checkedName (← nameUntil terminator unterminatedName)
      if calls then return .call n else moded (.same n)
  match ← rest with
  | '\x7b' :: more => within '\x7d' more false
  | '<' :: more => within '>' more (c = 'g')
  | '\'' :: more => within '\'' more (c = 'g')
  | cs => do
    if c = 'k' then fail complaint
    match ← groupNumber? cs with
    | some (n, after) =>
      setRest after
      moded (.same (← checkedNumber n))
    | none => fail complaint

def quotation : List Char → List Char × List Char
  | [] => ([], [])
  | '\\' :: 'E' :: rest => ([], rest)
  | c :: cs =>
    let (text, rest) := quotation cs
    (c :: text, rest)

/-- What a backslash and a character stand for outside brackets. The flag tells what cannot be
repeated. -/
def escape (c : Char) : Scan (Regex × Bool) := do
  let cs ← rest
  let edge : Option Edge := [('b', Edge.word), ('B', .noWord), ('A', .textStart), ('G', .textStart),
    ('z', .textEnd), ('Z', .lastEnd)].lookup c
  match edge, letterSet? c with
  | some e, _ => return (.edge e, true)
  | none, some s => return (.set s, false)
  | none, none =>
    if '1' ≤ c && c ≤ '9' then
      let ds := (c :: cs).takeWhile Char.isDigit
      let n := valueIn 10 ds
      let total := ((← get).known.map Known.groups).getD n
      if n < 10 || n ≤ total then
        setRest ((c :: cs).drop ds.length)
        return (← moded (.same (← checkedNumber n)), false)
      else
        let ds := ((c :: cs).take 3).takeWhile octal
        if ds.isEmpty then fail unknownGroup
        setRest ((c :: cs).drop ds.length)
        return (.set (one (Char.ofNat (valueIn 8 ds))), false)
    else match ← coded? c cs with
      | some (d, after) =>
        setRest after
        return (← moded (.set (one d)), false)
      | none => match c with
        | 'N' => return (.set ⟨true, [('\n', '\n')], []⟩, false)
        | 'K' => return (.cut, true)
        | 'R' => return (.atomic (.alt (.seq (.set (one '\r')) (.set (one '\n'))) (.set { ranges := vertical })), false)
        | 'X' => return (.set { negated := true, ranges := [] }, false)
        | 'E' => return (.empty, true)
        | 'g' => return (← mention 'g', false)
        | 'k' => return (← mention 'k', false)
        | 'p' => return (.set (← property false), false)
        | 'P' => return (.set (← property true), false)
        | _ =>
          if ['F', 'L', 'l', 'U', 'u'].contains c then
            fail "PCRE2 does not support \\F, \\L, \\l, \\N\x7bname\x7d, \\U, or \\u"
          else if c.isAlphanum then fail "unrecognized character follows \\"
          else return (← moded (.set (one c)), false)

def moves : Regex → Bool
  | .cut => true
  | .seq a b => moves a || moves b
  | .alt a b => moves a || moves b
  | .group _ r => moves r
  | .many r _ _ _ => moves r
  | .atomic r => moves r
  | .caseless _ r => moves r
  | .ifTaken _ a b => moves a || moves b
  | _ => false

/-- The letters of modes, up to a parenthesis or a colon; the flag holds behind a dash. -/
def modeLetters (off : Bool) (m : Modes) : List Char → Scan (Modes × List Char)
  | [] => fail unclosed
  | c :: cs => match c with
    | ')' => return (m, c :: cs)
    | ':' => return (m, c :: cs)
    | '^' => modeLetters off { lines := m.lines, lazily := m.lazily } cs
    | '-' => modeLetters true m cs
    | 'i' => modeLetters off { m with folds := !off } cs
    | 's' => modeLetters off { m with dots := !off } cs
    | 'm' => modeLetters off { m with lines := !off } cs
    | 'x' => modeLetters off { m with spaced := !off } cs
    | 'n' => modeLetters off { m with unnumbered := !off } cs
    | 'U' => modeLetters off { m with lazily := !off } cs
    | 'J' => modeLetters off m cs
    | _ => fail "unrecognized character after (? or (?-"

def closing : Scan Unit := do
  match ← rest with
  | ')' :: after => setRest after
  | _ => fail unclosed

/-- Verbs that do not change which lines match, at least if they stand at the front. -/
def verbs : List String :=
  ["ACCEPT", "COMMIT", "PRUNE", "SKIP", "THEN", "MARK", "", "UTF", "UCP", "CR", "LF", "CRLF", "ANY",
    "ANYCRLF", "NUL", "BSR_ANYCRLF", "BSR_UNICODE", "NOTEMPTY", "NO_AUTO_POSSESS", "NO_START_OPT",
    "NO_JIT", "NO_DOTSTAR_ANCHOR", "LIMIT_MATCH", "LIMIT_DEPTH", "LIMIT_HEAP"]

inductive Test where
  | taken (group : Nat)
  | never
  | looking (r : Regex)

mutual

/-- An expression with its alternatives, up to its end or the end of its group. With `resets`
the groups of each alternative have the same numbers. -/
def alternatives : (steps : Nat) → (resets : Bool) → Scan Regex
  | 0, _ => return .empty
  | steps + 1, resets => do
    let first := (← get).groups
    let a ← row steps
    match ← rest with
    | '|' :: after =>
      setRest after
      let reached := (← get).groups
      if resets then modify fun r => { r with groups := first }
      let b ← alternatives steps resets
      modify fun r => { r with groups := max reached r.groups }
      return .alt a b
    | _ => return a

def row : (steps : Nat) → Scan Regex
  | 0 => return .empty
  | steps + 1 => do
    let followed (r : Regex) : Scan Regex := do
      match ← row steps with
      | .empty => return r
      | more => return .seq r more
    let atom (r : Regex) : Scan Regex := do
      let r ← quantified r
      followed r
    let fixed (r : Regex) : Scan Regex := do
      match ← bounds? (← rest) with
      | some _ => fail idle
      | none => followed r
    let before ← rest
    skipSpaced (before.length + 1)
    let cs ← rest
    match cs with
    | [] => return .empty
    | c :: more => match c with
      | '|' => return .empty
      | ')' => return .empty
      | '(' =>
        setRest more
        let (r, repeatable) ← group steps
        if repeatable then atom r else followed r
      | '[' =>
        setRest more
        atom (← bracketed)
      | '.' =>
        setRest more
        atom (.set ⟨true, if (← modes).dots then [] else [('\n', '\n')], []⟩)
      | '^' =>
        setRest more
        fixed (.edge (if (← modes).lines then .lineStart else .textStart))
      | '$' =>
        setRest more
        fixed (.edge (if (← modes).lines then .lineEnd else .lastEnd))
      | '\\' => match more with
        | [] => fail "\\ at end of pattern"
        | 'Q' :: more =>
          let (text, after) := quotation more
          setRest after
          match text.reverse with
          | [] => row steps
          | last :: others =>
            let whole ← moded (ofText others.reverse)
            let last ← quantified (← moded (.set (one last)))
            followed (if others.isEmpty then last else .seq whole last)
        | d :: more =>
          setRest more
          let (r, isFixed) ← escape d
          if isFixed then fixed r else atom r
      | c =>
        if (← bounds? cs).isSome then fail idle
        setRest more
        atom (← moded (.set (one c)))

/-- A group after its opening parenthesis, and whether it can be repeated. -/
def group : (steps : Nat) → Scan (Regex × Bool)
  | 0 => return (.empty, false)
  | steps + 1 => do
    let outer ← modes
    let finish (r : Regex) : Scan (Regex × Bool) := do
      closing
      modify fun s => { s with modes := outer }
      return (r, true)
    let inner (cs : List Char) : Scan Regex := do
      setRest cs
      alternatives steps false
    let capture (name : Option String) : Scan (Regex × Bool) := do
      let n := (← get).groups + 1
      modify fun s => { s with groups := n }
      match name with
      | none => pure ()
      | some name =>
        if ((← get).named.lookup name).any fun m => m ≠ n then
          fail "two named subpatterns have the same name (PCRE2_DUPNAMES not set)"
        modify fun s => { s with named := (name, n) :: s.named }
      let r ← alternatives steps false
      let r : Regex := .group n r
      modify fun s => { s with routines := (n, r) :: s.routines }
      finish r
    let looking (ahead negated : Bool) (cs : List Char) : Scan (Regex × Bool) := do
      let r ← inner cs
      if moves r then
        fail "\\K is not allowed in lookarounds (but see PCRE2_EXTRA_ALLOW_LOOKAROUND_BSK)"
      if !ahead && !r.isFixed then fail "lookbehind assertion is not fixed length"
      finish (.look ahead negated r)
    let called (n : Nat) (complaint : String) : Scan (Regex × Bool) := do
      match ← rest with
      | ')' :: after =>
        setRest after
        return (.call n, true)
      | _ => fail complaint
    match ← rest with
    | '*' :: cs =>
      let name := cs.takeWhile (· ≠ ')')
      let verb := String.ofList (name.takeWhile fun c => c ≠ ':' && c ≠ '=')
      setRest (cs.drop name.length)
      closing
      if verb = "F" || verb = "FAIL" then return (.set { ranges := [] }, false)
      else if verbs.contains verb then return (.empty, false)
      else fail "(*VERB) not recognized or malformed"
    | '?' :: cs => match cs with
      | '#' :: more =>
        let text := more.takeWhile (· ≠ ')')
        if text.length = more.length then fail "missing ) after (?# comment"
        setRest (more.drop (text.length + 1))
        return (.empty, false)
      | ':' :: more => finish (← inner more)
      | '>' :: more => finish (.atomic (← inner more))
      | '|' :: more =>
        setRest more
        finish (← alternatives steps true)
      | '=' :: more => looking true false more
      | '!' :: more => looking true true more
      | '<' :: '=' :: more => looking false false more
      | '<' :: '!' :: more => looking false true more
      | '<' :: more =>
        setRest more
        capture (some (← nameUntil '>' unterminatedName))
      | '\'' :: more =>
        setRest more
        capture (some (← nameUntil '\'' unterminatedName))
      | 'P' :: '<' :: more =>
        setRest more
        capture (some (← nameUntil '>' unterminatedName))
      | 'P' :: '=' :: more =>
        setRest more
        let n ← checkedName (← nameUntil ')' unterminatedName)
        return (← moded (.same n), true)
      | 'P' :: '>' :: more =>
        setRest more
        return (.call (← checkedName (← nameUntil ')' unterminatedName)), true)
      | 'P' :: more => fail (if more.isEmpty then unclosed else "unrecognized character after (?P")
      | '&' :: more =>
        setRest more
        return (.call (← checkedName (← nameUntil ')' unterminatedName)), true)
      | 'R' :: more =>
        setRest more
        called 0 "(?R (recursive pattern call) must be followed by a closing parenthesis"
      | '(' :: more =>
        setRest more
        let r ← conditional steps
        finish r
      | _ =>
        match ← groupNumber? cs with
        | some (n, after) =>
          setRest after
          let n ← checkedNumber n
          called n unclosed
        | none =>
          match cs with
          | '+' :: _ => fail "digit expected after (?+ or (?-"
          | _ =>
            let (m, after) ← modeLetters false outer cs
            match after with
            | ':' :: more =>
              modify fun s => { s with modes := m }
              let r ← inner more
              finish r
            | _ =>
              setRest (after.drop 1)
              modify fun s => { s with modes := m }
              return (.empty, false)
    | cs =>
      if outer.unnumbered then
        let r ← inner cs
        finish r
      else capture none

/-- A condition and what depends on it, after the second opening parenthesis. -/
def conditional : (steps : Nat) → Scan Regex
  | 0 => return .empty
  | steps + 1 => do
    let cs ← rest
    let named (mark : Char) (more : List Char) : Scan Test := do
      setRest more
      let name ← nameUntil mark unterminatedName
      let n ← checkedName name
      closing
      return .taken n
    let test : Test ← match cs with
      | '?' :: _ => do
        let (r, _) ← group steps
        match r with
        | .look .. => pure (.looking r)
        | _ => fail "atomic assertion expected after (?( or (?(?C)"
      | '<' :: more => named '>' more
      | '\'' :: more => named '\'' more
      | _ => do
        match ← groupNumber? cs with
        | some (n, after) =>
          setRest after
          let n ← checkedNumber n
          match ← rest with
          | ')' :: after => setRest after
          | _ => fail "missing closing parenthesis for condition"
          pure (.taken n)
        | none =>
          let name ← nameUntil ')' "missing closing parenthesis for condition"
          if name = "DEFINE" || (name.toList.head? = some 'R' && (name.toList.drop 1).all Char.isDigit) then
            pure .never
          else pure (.taken (← checkedName name))
    let yes ← row steps
    let no ← match ← rest with
      | '|' :: after => do
        setRest after
        row steps
      | _ => pure .empty
    if (← rest).head? = some '|' && (← get).known.isSome then fail "conditional subpattern contains more than two branches"
    match test with
    | .taken n => return .ifTaken n yes no
    | .never => return no
    | .looking r => match r with
      | .look ahead negated inner => return .alt (.seq r yes) (.seq (.look ahead (!negated) inner) no)
      | _ => return yes

end

def whole (cs : List Char) : Scan Regex := do
  let r ← alternatives (6 * cs.length + 12) false
  match ← rest with
  | [] => return r
  | _ => fail "unmatched closing parenthesis"

/-- Reads an expression; the whole of it is the routine with number zero. -/
def parse (cs : List Char) : Except String Parsed :=
  match whole cs { rest := cs } with
  | .error e _ => .error e
  | .ok _ s =>
    match whole cs { rest := cs, known := some { groups := s.groups, named := s.named } } with
    | .error e _ => .error e
    | .ok r s => .ok { regex := r, groups := s.groups, routines := (0, r) :: s.routines }

end DeltaDebugging.Regex.Perl
