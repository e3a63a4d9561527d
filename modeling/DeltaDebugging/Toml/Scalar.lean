import DeltaDebugging.Data.Value
import DeltaDebugging.Number.Natural

/-!
# Words of a TOML document

Blanks, comments, keys, strings, numbers and dates. A reader takes the rest of the
document and returns what it read with what follows, or nothing.
-/
namespace DeltaDebugging.Toml

abbrev Reader (α : Type) := List Char → Option (α × List Char)

def isBlank (c : Char) : Bool := c == ' ' || c == '\t'

def isPrintable (c : Char) : Bool := c == '\t' || (0x20 ≤ c.toNat && c.toNat != 0x7f)

def skipBlanks (cs : List Char) : List Char := cs.dropWhile isBlank

def skipComment : List Char → List Char
  | '#' :: cs => cs.dropWhile isPrintable
  | cs => cs

/-- Past one line end; the end of the document counts as one. -/
def lineEnd? : List Char → Option (List Char)
  | [] => some []
  | '\n' :: cs => some cs
  | '\r' :: '\n' :: cs => some cs
  | _ => none

def skipLines : (steps : Nat) → List Char → List Char
  | 0, cs => cs
  | steps + 1, cs => match skipComment (skipBlanks cs) with
    | '\n' :: rest => skipLines steps rest
    | '\r' :: '\n' :: rest => skipLines steps rest
    | rest => rest

def isBareKey (c : Char) : Bool := c.isAlphanum || c == '_' || c == '-'

def hexValue? (c : Char) : Option Nat :=
  if '0' ≤ c && c ≤ '9' then some (c.toNat - '0'.toNat)
  else if 'a' ≤ c && c ≤ 'f' then some (c.toNat - 'a'.toNat + 10)
  else if 'A' ≤ c && c ≤ 'F' then some (c.toNat - 'A'.toNat + 10)
  else none

def codePoint (digits : Nat) (cs : List Char) : Option (Char × List Char) := do
  let ds := cs.take digits
  if ds.length < digits then none else
  let n ← ds.foldlM (fun n d => (hexValue? d).map (n * 16 + ·)) 0
  if n < 0xd800 ∨ (0xdfff < n ∧ n < 0x110000) then some (Char.ofNat n, cs.drop digits) else none

def escaped : Reader Char
  | 'b' :: cs => some ('\x08', cs)
  | 't' :: cs => some ('\t', cs)
  | 'n' :: cs => some ('\n', cs)
  | 'f' :: cs => some ('\x0c', cs)
  | 'r' :: cs => some ('\r', cs)
  | '"' :: cs => some ('"', cs)
  | '\\' :: cs => some ('\\', cs)
  | 'u' :: cs => codePoint 4 cs
  | 'U' :: cs => codePoint 8 cs
  | _ => none

def basicString : (steps : Nat) → (read : List Char) → Reader String
  | 0, _, _ => none
  | _ + 1, _, [] => none
  | steps + 1, read, c :: cs =>
    if c = '"' then some (String.ofList read.reverse, cs)
    else if c = '\\' then do
      let (c, cs) ← escaped cs
      basicString steps (c :: read) cs
    else if isPrintable c then basicString steps (c :: read) cs
    else none

def literalString (cs : List Char) : Option (String × List Char) :=
  match cs.dropWhile fun c => isPrintable c && c != '\'' with
  | '\'' :: rest =>
    some (String.ofList (cs.takeWhile fun c => isPrintable c && c != '\''), rest)
  | _ => none

/-- Past blanks and line ends. A carriage return counts only as part of a line end. -/
def skipBlankLines : List Char → List Char
  | '\r' :: '\n' :: cs => skipBlankLines cs
  | c :: cs => if isBlank c || c == '\n' then skipBlankLines cs else c :: cs
  | [] => []

/-- After a backslash at the end of a line: past all blanks and line ends that follow, if
there is a line end among them. -/
def foldedLine? (cs : List Char) : Option (List Char) := do
  let rest ← lineEnd? (skipBlanks cs)
  if (skipBlanks cs).isEmpty then none else some (skipBlankLines rest)

/-- The rest of a multi-line string that closes with three of `quote`. Up to two more
quotes may stand before the closing ones. -/
def multiline (quote : Char) (escapes : Bool) : (steps : Nat) → (read : List Char) → Reader String
  | 0, _, _ => none
  | _ + 1, _, [] => none
  | steps + 1, read, c :: cs =>
    if c = quote then
      let quotes := (c :: cs).takeWhile (· == quote)
      if quotes.length ≥ 3 then
        if quotes.length > 5 then none else
        let inner := List.replicate (quotes.length - 3) quote
        some (String.ofList (read.reverse ++ inner), (c :: cs).drop quotes.length)
      else multiline quote escapes steps (c :: read) cs
    else if escapes && c = '\\' then
      match foldedLine? cs with
      | some rest => multiline quote escapes steps read rest
      | none => do
        let (c, cs) ← escaped cs
        multiline quote escapes steps (c :: read) cs
    else if c = '\r' then
      match cs with
      | '\n' :: cs => multiline quote escapes steps ('\n' :: read) cs
      | _ => none
    else if isPrintable c || c = '\n' then multiline quote escapes steps (c :: read) cs
    else none

/-- The line end right after the opening quotes of a multi-line string does not count. -/
def skipFirstLineEnd : List Char → List Char
  | '\n' :: cs => cs
  | '\r' :: '\n' :: cs => cs
  | cs => cs

def string (cs : List Char) : Option (String × List Char) :=
  match cs with
  | '"' :: '"' :: '"' :: cs => multiline '"' true (cs.length + 1) [] (skipFirstLineEnd cs)
  | '\'' :: '\'' :: '\'' :: cs => multiline '\'' false (cs.length + 1) [] (skipFirstLineEnd cs)
  | '"' :: cs => basicString (cs.length + 1) [] cs
  | '\'' :: cs => literalString cs
  | _ => none

def keyPart (cs : List Char) : Option (String × List Char) :=
  match cs with
  | '"' :: rest => basicString (rest.length + 1) [] rest
  | '\'' :: rest => literalString rest
  | _ =>
    let name := cs.takeWhile isBareKey
    if name.isEmpty then none else some (String.ofList name, cs.drop name.length)

/-- How many parts a key may have, and how deep values may be nested in one another. -/
def maximalDepth : Nat := 79

def key : (steps : Nat) → Reader (List String)
  | 0, _ => none
  | steps + 1, cs => do
    let (name, cs) ← keyPart (skipBlanks cs)
    match skipBlanks cs with
    | '.' :: cs => do
      let (names, cs) ← key steps cs
      return (name :: names, cs)
    | cs => return ([name], cs)

def grouped? (isDigit : Char → Bool) (cs : List Char) : Option (List Char) :=
  let parts := cs.splitOn '_'
  if parts.all fun part => !part.isEmpty && part.all isDigit then some parts.flatten else none

def naturalIn (base : Nat) (digits : List Char) : Nat :=
  digits.foldl (fun n d => n * base + (hexValue? d).getD 0) 0

def digitIn (base : Nat) (c : Char) : Bool := (hexValue? c).any (· < base)

def integer? (word : List Char) : Option Int := do
  let unsigned (base : Nat) (cs : List Char) : Option Int := do
    let ds ← grouped? (digitIn base) cs
    return naturalIn base ds
  let decimal (cs : List Char) : Option Int :=
    if cs.length > 1 && cs.head? = some '0' then none else unsigned 10 cs
  let n ← match word with
    | '0' :: 'x' :: cs => unsigned 16 cs
    | '0' :: 'o' :: cs => unsigned 8 cs
    | '0' :: 'b' :: cs => unsigned 2 cs
    | '-' :: cs => (decimal cs).map (- ·)
    | '+' :: cs => decimal cs
    | cs => decimal cs
  if n = Int.bmod n Number.wordCount then some n else none

def unsigned (cs : List Char) : List Char :=
  match cs with
  | '+' :: cs => cs
  | '-' :: cs => cs
  | cs => cs

/-- The float nearest to `m` times ten to the `e`. Far outside the range of floats it is an
infinity or zero without any computing. -/
def scaled (m : Nat) (e : Int) : Float :=
  let size : Int := (Nat.toDigits 10 m).length + e
  if m = 0 || size < -330 then 0.0
  else if size > 310 then 1.0 / 0.0
  else Float.ofScientific m (decide (e < 0)) e.natAbs

/-- A number with a fraction or an exponent, an infinity or a not-a-number. A number that is
too large for a float is refused. -/
def float? (word : List Char) : Option Float := do
  let body := unsigned word
  let signed (x : Float) : Float := if word.head? = some '-' then -x else x
  if body = "inf".toList then return signed (1.0 / 0.0)
  if body = "nan".toList then return signed (0.0 / 0.0)
  let isExponentMark (c : Char) : Bool := c == 'e' || c == 'E'
  let mantissa := body.takeWhile fun c => !isExponentMark c
  let exponent := body.drop mantissa.length
  let whole := mantissa.takeWhile (· != '.')
  let fraction := mantissa.drop whole.length
  if fraction.isEmpty && exponent.isEmpty then none
  if whole.length > 1 && whole.head? = some '0' then none
  let wholeDigits ← grouped? Char.isDigit whole
  let fractionDigits ← if fraction.isEmpty then some [] else grouped? Char.isDigit (fraction.drop 1)
  let exponentDigits ←
    if exponent.isEmpty then some [] else grouped? Char.isDigit (unsigned (exponent.drop 1))
  let power : Int := naturalIn 10 exponentDigits
  let power := if (exponent.drop 1).head? = some '-' then -power else power
  let x := signed (scaled (naturalIn 10 (wholeDigits ++ fractionDigits))
    (power - fractionDigits.length))
  if x == 1.0 / 0.0 then none else some x

def twoDigits (count : Nat) (cs : List Char) : Option (Nat × List Char) :=
  let ds := cs.take count
  if ds.length = count && ds.all Char.isDigit then some (naturalIn 10 ds, cs.drop count) else none

def daysIn (year month : Nat) : Nat :=
  if month = 2 then
    if (year % 4 = 0 ∧ year % 100 ≠ 0) ∨ year % 400 = 0 then 29 else 28
  else if month = 4 ∨ month = 6 ∨ month = 9 ∨ month = 11 then 30 else 31

def date (cs : List Char) : Option (List Char) := do
  let (year, cs) ← twoDigits 4 cs
  let '-' :: cs := cs | none
  let (month, cs) ← twoDigits 2 cs
  let '-' :: cs := cs | none
  let (day, cs) ← twoDigits 2 cs
  if 1 ≤ month ∧ month ≤ 12 ∧ 1 ≤ day ∧ day ≤ daysIn year month then some cs else none

def time (cs : List Char) : Option (List Char) := do
  let (hour, cs) ← twoDigits 2 cs
  let ':' :: cs := cs | none
  let (minute, cs) ← twoDigits 2 cs
  let ':' :: cs := cs | none
  let (second, cs) ← twoDigits 2 cs
  if hour ≤ 23 ∧ minute ≤ 59 ∧ second ≤ 60 then
    match cs with
    | '.' :: rest =>
      if rest.head?.any Char.isDigit then some (rest.dropWhile Char.isDigit) else none
    | _ => some cs
  else none

def offset (cs : List Char) : Option (List Char) :=
  match cs with
  | 'Z' :: cs => some cs
  | 'z' :: cs => some cs
  | c :: rest =>
    if c = '+' || c = '-' then do
      let (hour, rest) ← twoDigits 2 rest
      let ':' :: rest := rest | none
      let (minute, rest) ← twoDigits 2 rest
      if hour ≤ 23 ∧ minute ≤ 59 then some rest else none
    else some cs
  | [] => some []

def moment (cs : List Char) : Option (List Char) :=
  match date cs with
  | some (c :: rest) =>
    if c = 'T' || c = 't' || (c = ' ' && rest.head?.any Char.isDigit) then
      (time rest).bind offset
    else some (c :: rest)
  | some [] => some []
  | none => time cs

def isWordChar (c : Char) : Bool := c.isAlphanum || c == '_' || c == '+' || c == '-' || c == '.'

/-- A boolean, a number or a date. A date is kept as a record of its text. -/
def word (cs : List Char) : Option (Value × List Char) :=
  match moment cs with
  | some rest =>
    let text := cs.take (cs.length - rest.length)
    some (.table [("datetime", .string (String.ofList text))], rest)
  | none =>
    let w := cs.takeWhile isWordChar
    let rest := cs.drop w.length
    if w = "true".toList then some (.bool true, rest)
    else if w = "false".toList then some (.bool false, rest)
    else match integer? w with
      | some n => some (.int n, rest)
      | none => (float? w).map fun x => (.float x, rest)

end DeltaDebugging.Toml
