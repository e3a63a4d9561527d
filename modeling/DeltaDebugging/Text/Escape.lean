/-!
# Backslash escapes

What a backslash and the characters after it stand for in formats and in what `echo`
prints: control characters, and characters by their octal number.
-/
namespace DeltaDebugging.Escape

def isOctal (c : Char) : Bool := '0' ≤ c && c ≤ '7'

def octal (digits : List Char) : Char :=
  Char.ofNat (digits.foldl (fun n d => n * 8 + (d.toNat - '0'.toNat)) 0 % 256)

def isHexadecimal (c : Char) : Bool := c.isDigit || ('a' ≤ c.toLower && c.toLower ≤ 'f')

def hexadecimalValue (c : Char) : Nat :=
  if c.isDigit then c.toNat - '0'.toNat else c.toLower.toNat - 'a'.toNat + 10

def control? (c : Char) : Option Char :=
  [('a', '\x07'), ('b', '\x08'), ('f', '\x0c'), ('n', '\n'), ('r', '\r'), ('t', '\t'),
    ('v', '\x0b'), ('\\', '\\')].lookup c

/-- What follows a backslash, as one character, with the rest. A character without a meaning
leaves the backslash alone; `hexadecimal` numbers behind an `x` are not known everywhere. -/
def next (hexadecimal : Bool) (cs : List Char) : Char × List Char :=
  match cs with
  | c :: rest =>
    if isOctal c then
      let ds := (cs.take 3).takeWhile isOctal
      (octal ds, cs.drop ds.length)
    else if c = 'e' then ('\x1b', rest)
    else if hexadecimal && c = 'x' && rest.head?.any isHexadecimal then
      let ds := (rest.take 2).takeWhile isHexadecimal
      (Char.ofNat (ds.foldl (fun n d => n * 16 + hexadecimalValue d) 0), rest.drop ds.length)
    else match control? c with
      | some d => (d, rest)
      | none => ('\\', cs)
  | [] => ('\\', [])

/-- A text with its escapes replaced, and whether it goes on after them: `\c` ends all
output. A zero may stand before three octal digits. -/
def replace (hexadecimal : Bool) : (steps : Nat) → List Char → List Char × Bool
  | 0, cs => (cs, true)
  | steps + 1, cs => match cs with
    | [] => ([], true)
    | '\\' :: 'c' :: _ => ([], false)
    | '\\' :: rest =>
      let digits := match rest with
        | '0' :: d :: more => if isOctal d then d :: more else rest
        | _ => rest
      let (c, rest) := next hexadecimal digits
      let (more, goesOn) := replace hexadecimal steps rest
      (c :: more, goesOn)
    | c :: rest =>
      let (more, goesOn) := replace hexadecimal steps rest
      (c :: more, goesOn)

def replaceIn (hexadecimal : Bool) (s : String) : String × Bool :=
  let (cs, goesOn) := replace hexadecimal (s.length + 1) s.toList
  (String.ofList cs, goesOn)

end DeltaDebugging.Escape
