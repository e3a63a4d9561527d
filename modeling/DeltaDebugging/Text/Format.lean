import DeltaDebugging.Number.Figures
import DeltaDebugging.Text.Escape
import DeltaDebugging.Text.ShellQuoted

/-!
# Formats

A format is text with escapes and conversions; each conversion takes the next argument, and
the format starts again as long as arguments are left. Arguments that are missing count as
empty.
-/
namespace DeltaDebugging.Format

structure Wording where
  notNumeric : String → String
  notWhole : String → String
  outOfRange : String → String
  /-- Whether formats are those of a shell: without characters by hexadecimal numbers, without
  quoting, with floats that are no longer than words. -/
  shell : Bool
  missingLetter : String → String
  badDirective : String → String

inductive Piece where
  | text (s : String)
  | complaint (s : String)
  | warning (s : String)
  deriving DecidableEq, Repr

structure Progress where
  arguments : List String
  /-- The pieces so far, the latest first. -/
  pieces : List Piece := []
  /-- Whether an escape ended all output. -/
  stopped : Bool := false

/-- Formatting goes on, or ends at a directive that cannot be carried out. -/
abbrev Formatting := EStateM String Progress

def put (s : String) : Formatting Unit :=
  modify fun p => { p with pieces := .text s :: p.pieces }

def warn (s : String) : Formatting Unit :=
  modify fun p => { p with pieces := .complaint s :: p.pieces }

def argument? : Formatting (Option String) := do
  match (← get).arguments with
  | a :: rest =>
    modify fun p => { p with arguments := rest }
    return some a
  | [] => return none

def blank (c : Char) : Bool := c == ' ' || ('\t' ≤ c && c ≤ '\r')

def integerAt? (cs : List Char) : Option (Int × List Char) :=
  let cs := cs.dropWhile blank
  let (negative, ds) := match cs with
    | '-' :: ds => (true, ds)
    | '+' :: ds => (false, ds)
    | ds => (false, ds)
  let value (c : Char) : Nat :=
    if c.isDigit then c.toNat - '0'.toNat
    else if 'a' ≤ c.toLower && c.toLower ≤ 'f' then c.toLower.toNat - 'a'.toNat + 10 else 99
  let (base, ds) := match ds with
    | '0' :: x :: c :: rest =>
      if (x == 'x' || x == 'X') && value c < 16 then (16, c :: rest) else (8, ds)
    | '0' :: _ => (8, ds)
    | _ => (10, ds)
  let digits := ds.takeWhile fun c => value c < base
  if digits.isEmpty then none else
  let n : Nat := digits.foldl (fun n c => n * base + value c) 0
  some (if negative then -n else n, ds.drop digits.length)

def wordHalf : Nat := Nat.pow 2 63

def characterNumber (w : Wording) (cs : List Char) : Formatting Nat := do
  let cs := if w.shell then cs else Octets.characters cs
  match cs with
  | [] => return 0
  | c :: rest =>
    if !w.shell && !rest.isEmpty then
      let rest := String.ofList (Octets.ofCharacters rest)
      let text := "warning: " ++ rest ++ ": character(s) following character constant have been ignored"
      modify fun p => { p with pieces := .warning text :: p.pieces }
    return if Octets.isStray c then c.toNat - Octets.strayBase else c.toNat

/-- The next argument as an integer within the given bounds; `under` stands for one that is less
than the least. -/
def integer (w : Wording) (least most under : Int) : Formatting Int := do
  match ← argument? with
  | none => return 0
  | some a => match a.toList with
    | q :: cs =>
      if (q == '"' || q == '\'') && (w.shell || !cs.isEmpty) then
        let n ← characterNumber w cs
        return n
      else
      match integerAt? a.toList with
      | none =>
        warn (w.notNumeric a)
        return 0
      | some (n, rest) =>
        if !rest.isEmpty then warn (w.notWhole a)
        if n < least then
          if rest.isEmpty then warn (w.outOfRange a)
          return under
        else if most < n then
          if rest.isEmpty then warn (w.outOfRange a)
          return most
        else return n
    | [] => return 0

def outOfRange (x : Float) (text : List Char) : Bool :=
  let cs := text.dropWhile fun c => blank c || c == '+' || c == '-'
  if x.isInf then cs.head?.any Char.isDigit || cs.head? = some '.'
  else x.abs < 2.2250738585072014e-308 &&
    (cs.takeWhile fun c => c != 'e' && c != 'E').any fun c => '1' ≤ c && c ≤ '9'

def float (w : Wording) : Formatting Number.Quantity := do
  match ← argument? with
  | none => return .finite false 0 1
  | some a => match a.toList with
    | q :: cs =>
      if (q == '"' || q == '\'') && (w.shell || !cs.isEmpty) then
        let n ← characterNumber w cs
        return .finite false n 1
      else match Number.Numeral.at? a.toList with
      | none =>
        warn (w.notNumeric a)
        return .finite false 0 1
      | some (negative, n, rest) =>
        let x := if negative then -n.toFloat else n.toFloat
        let lost := match n.extended negative with
          | .infinite _ => n ≠ .infinite
          | _ => false
        if !rest.isEmpty then warn (w.notWhole a)
        else if (if w.shell then outOfRange x a.toList else lost) then warn (w.outOfRange a)
        return if w.shell then (match n with
          | .nan => .nan negative
          | _ => .ofFloat x) else n.extended negative
    | [] => return .finite false 0 1

def flags (s : Number.Shape) : List Char → Number.Shape × List Char
  | '-' :: cs => flags { s with left := true } cs
  | '+' :: cs => flags { s with plus := true } cs
  | ' ' :: cs => flags { s with space := true } cs
  | '#' :: cs => flags { s with alternate := true } cs
  | '0' :: cs => flags { s with zeros := true } cs
  | cs => (s, cs)

def allowed (cs : List Char) : List Char :=
  let front := cs.takeWhile fun c => "-+ #0'I".toList.contains c
  let rest := cs.drop front.length
  let without (p : Bool) (letters : String) (left : List Char) : List Char :=
    if p then left.filter fun c => !letters.toList.contains c else left
  without (front.any fun c => c = '\'' || c = 'I') "aAceEosxX"
    (without (front.contains '#') "cdisu"
      (without (front.contains '0') "cs"
        (without (rest.contains '.') "c" "aAceEdfFgGiosuxX".toList)))

def natural (cs : List Char) : Nat × List Char :=
  let ds := cs.takeWhile Char.isDigit
  (ds.foldl (fun n d => n * 10 + (d.toNat - '0'.toNat)) 0, cs.drop ds.length)

def maximalWidth : Nat := 100000

/-- A character by its number in as many hexadecimal figures as are asked for, with what
follows. -/
def universal (letter : Char) (figures : Nat) (cs : List Char) : Formatting (List Char) := do
  let ds := (cs.take figures).takeWhile Escape.isHexadecimal
  if ds.length < figures then throw "missing hexadecimal number in escape"
  let n := ds.foldl (fun n d => n * 16 + Escape.hexadecimalValue d) 0
  if (n ≤ 0x9f && !([0x24, 0x40, 0x60].contains n)) || (0xd800 ≤ n && n ≤ 0xdfff) then
    throw ("invalid universal character name \\" ++ String.singleton letter ++
      String.ofList (ds.map Char.toLower))
  put (if n < 0x110000 then Octets.ofText (String.singleton (Char.ofNat n))
    else "\\" ++ String.singleton letter ++ String.ofList (ds.map Char.toUpper))
  return cs.drop figures

/-- What stands behind a backslash, put as it is meant, with what follows. In an argument a zero
may stand before three octal figures. -/
def escape (inArgument : Bool) (cs : List Char) : Formatting (List Char) := do
  match cs with
  | 'c' :: rest =>
    modify fun p => { p with stopped := true }
    return rest
  | 'u' :: rest => universal 'u' 4 rest
  | 'U' :: rest => universal 'U' 8 rest
  | '"' :: rest =>
    put "\""
    return rest
  | d :: rest =>
    if d = 'x' && !rest.head?.any Escape.isHexadecimal then throw "missing hexadecimal number in escape"
    let figures := match inArgument, cs with
      | true, '0' :: e :: more => if Escape.isOctal e then e :: more else cs
      | _, _ => cs
    let (c, after) := Escape.next true figures
    -- a character without a meaning loses any other that it has
    if c = '\\' && d ≠ '\\' then
      put (String.ofList ['\\', d])
      return rest
    else
      put (String.singleton c)
      return after
  | [] =>
    put "\\"
    return []

def escaped : (steps : Nat) → List Char → Formatting Unit
  | 0, _ => pure ()
  | steps + 1, cs => do
    if (← get).stopped then return
    match cs with
    | [] => return
    | '\\' :: rest => escaped steps (← escape true rest)
    | c :: rest =>
      put (String.singleton c)
      escaped steps rest

def conversion (w : Wording) (cs : List Char) : Formatting (List Char) := do
  let signed := integer w (-(wordHalf : Int)) (wordHalf - 1 : Nat) (-(wordHalf : Int))
  match w.shell, cs with
  | false, 'b' :: rest =>
    let a := ((← argument?).getD "").toList
    escaped (a.length + 1) a
    return rest
  | false, 'q' :: rest =>
    match ← argument? with
    | some a => put (Text.shellName a)
    | none => pure ()
    return rest
  | _, _ =>
  let (s, rest) := flags {} (if w.shell then cs else cs.filter fun c => c ≠ '\'')
  let (s, rest) ← match rest with
    | '*' :: rest => do
      let n ← signed
      pure ({ s with width := min n.natAbs maximalWidth, left := s.left || n < 0 }, rest)
    | _ =>
      let (n, rest) := natural rest
      pure ({ s with width := min n maximalWidth }, rest)
  let (s, rest) ← match rest with
    | '.' :: '*' :: rest => do
      let n ← signed
      pure ({ s with precision := if n < 0 then none else some (min n.toNat maximalWidth) }, rest)
    | '.' :: rest =>
      let (n, rest) := natural rest
      pure ({ s with precision := some (min n maximalWidth) }, rest)
    | _ => pure (s, rest)
  let rest := if w.shell then rest else rest.dropWhile fun c => "lLhjtz".toList.contains c
  let directive (rest : List Char) : String :=
    String.ofList ('%' :: cs.take (cs.length - rest.length))
  match rest with
  | [] => throw (w.missingLetter (directive []))
  | c :: rest =>
    if !w.shell && !(allowed (cs.take (cs.length - rest.length))).contains c then
      throw (w.badDirective (directive rest))
    match c with
    | 's' => put (s.text ((← argument?).getD ""))
    | 'c' =>
      let a := ((← argument?).getD "").toList
      put (s.pad (String.singleton (a.headD '\x00')))
    | 'b' =>
      let (t, goesOn) := Escape.replaceIn false ((← argument?).getD "")
      put (s.text t)
      if !goesOn then modify fun p => { p with stopped := true }
    | 'd' => put (s.integer (← signed))
    | 'i' => put (s.integer (← signed))
    | 'o' => put (s.natural 8 false (← unsigned))
    | 'u' => put (s.natural 10 false (← unsigned))
    | 'x' => put (s.natural 16 false (← unsigned))
    | 'X' => put (s.natural 16 true (← unsigned))
    | c =>
      if "aAeEfFgG".toList.contains c then put (s.quantity c (!w.shell) (← float w))
      else throw (w.badDirective (directive rest))
    return rest
where
  /-- An argument as a natural number; a negative one wraps around. -/
  unsigned : Formatting Nat := do
    let n ← integer w (-(2 * wordHalf : Nat) + 1) (2 * wordHalf - 1 : Nat) (2 * wordHalf - 1 : Nat)
    return if n < 0 then (n + (2 * wordHalf : Nat)).toNat else n.toNat

def pass (w : Wording) : (steps : Nat) → List Char → Formatting Unit
  | 0, _ => pure ()
  | steps + 1, cs => do
    if (← get).stopped then return
    match cs with
    | [] => return
    | '\\' :: rest =>
      if w.shell then
        let (c, after) := Escape.next false rest
        put (String.singleton c)
        pass w steps after
      else pass w steps (← escape false rest)
    | '%' :: '%' :: rest =>
      put "%"
      pass w steps rest
    | '%' :: rest => pass w steps (← conversion w rest)
    | c :: rest =>
      put (String.singleton c)
      pass w steps rest

/-- Passes as long as each takes an argument and some are left. -/
def passes (w : Wording) (format : List Char) : (steps : Nat) → Formatting Unit
  | 0 => pure ()
  | steps + 1 => do
    let before := (← get).arguments.length
    pass w (format.length + 1) format
    let p ← get
    if p.stopped || p.arguments.isEmpty then return
    if p.arguments.length = before then
      if !w.shell then
        let text := "warning: ignoring excess arguments, starting with " ++
          Text.literalQuote (p.arguments.headD "")
        modify fun p => { p with pieces := .warning text :: p.pieces }
      return
    passes w format steps

/-- What a format and its arguments come to, and the complaint that ended it, if one did. -/
def format (w : Wording) (format : String) (arguments : List String) : List Piece × Option String :=
  match passes w format.toList (arguments.length + 1) { arguments } with
  | .ok () p => (p.pieces.reverse, none)
  | .error e p => (p.pieces.reverse, some e)

end DeltaDebugging.Format
