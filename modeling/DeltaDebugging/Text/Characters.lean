import DeltaDebugging.Text.KindTable
import DeltaDebugging.Text.Lowercase
import DeltaDebugging.Text.Utf8

/-!
# Characters within texts of bytes

Programs that know of characters see them where bytes encode them, and every other byte as a
stray one. A stray byte becomes a character past all that are in use, so that a text of bytes
is recovered from its characters.
-/
namespace DeltaDebugging.Octets

/-- The first of the characters that stand for stray bytes. -/
def strayBase : Nat := 0x10ff00

def isStray (c : Char) : Bool := strayBase + 0x80 ≤ c.toNat

def stray (b : Char) : Char := Char.ofNat (strayBase + b.toNat)

/-- The characters of a row of bytes, with the bytes to be skipped first. -/
def charactersFrom (skip : Nat) : List Char → List Char
  | [] => []
  | b :: bs => match skip with
    | skip + 1 => charactersFrom skip bs
    | 0 =>
      if b.toNat < 0x80 then b :: charactersFrom 0 bs else
      match Text.decodeChar (UInt8.ofNat b.toNat) ((bs.take 3).map fun b => UInt8.ofNat b.toNat) with
      | .ok (c, n) => if isStray c then stray b :: charactersFrom 0 bs else c :: charactersFrom (n - 1) bs
      | .error _ => stray b :: charactersFrom 0 bs

def isAscii (bs : List Char) : Bool := bs.all fun b => b.toNat < 0x80

def characters (bs : List Char) : List Char := if isAscii bs then bs else charactersFrom 0 bs

def ofCharacter (c : Char) : List Char :=
  if c.toNat < 0x80 then [c]
  else if isStray c then [Char.ofNat (c.toNat - strayBase)]
  else (ofText (String.singleton c)).toList

def ofCharacters (cs : List Char) : List Char := if isAscii cs then cs else cs.flatMap ofCharacter

def onCharacters (f : List Char → List Char) (bs : List Char) : List Char :=
  ofCharacters (f (characters bs))

end DeltaDebugging.Octets

namespace DeltaDebugging.Text

def isLetter (c : Char) : Bool := if c.toNat < 0x80 then c.isAlpha else inRanges KindTable.letters c

def isSign (c : Char) : Bool :=
  if c.toNat < 0x80 then '!' ≤ c && c ≤ '~' && !c.isAlphanum
  else !Octets.isStray c && inRanges KindTable.signs c

def isBlankCharacter (c : Char) : Bool :=
  if c.toNat < 0x80 then c = ' ' || c = '\t' else inRanges KindTable.blanks c

def isSpaceCharacter (c : Char) : Bool :=
  if c.toNat < 0x80 then c = ' ' || ('\t' ≤ c && c ≤ '\r')
  else inRanges KindTable.blanks c || c = '\u2028' || c = '\u2029'

def isPrintable (c : Char) : Bool :=
  if c.toNat < 0x80 then ' ' ≤ c && c ≤ '~'
  else !Octets.isStray c &&
    (inRanges KindTable.letters c || inRanges KindTable.signs c || inRanges KindTable.blanks c)

def isControlCharacter (c : Char) : Bool :=
  c.toNat < 0x20 || (0x7f ≤ c.toNat && c.toNat < 0xa0) || c = '\u2028' || c = '\u2029'

/-- The upper-case forms of characters that are not the lower-case form of theirs. -/
def irregularUpper : List (Char × Char) :=
  [('µ', 'Μ'), ('ß', 'ß'), ('ı', 'I'), ('ſ', 'S'), ('ǅ', 'Ǆ'), ('ǈ', 'Ǉ'), ('ǋ', 'Ǌ'), ('ǲ', 'Ǳ'),
    ('\u0345', 'Ι'), ('ς', 'Σ'), ('ϐ', 'Β'), ('ϑ', 'Θ'), ('ϕ', 'Φ'), ('ϖ', 'Π'), ('ϰ', 'Κ'), ('ϱ', 'Ρ'),
    ('ϵ', 'Ε'), ('\u1c80', 'В'), ('\u1c81', 'Д'), ('\u1c82', 'О'), ('\u1c83', 'С'), ('\u1c84', 'Т'),
    ('\u1c85', 'Т'), ('\u1c86', 'Ъ'), ('\u1c87', 'Ѣ'), ('\u1c88', 'Ꙋ'), ('ẛ', 'Ṡ'), ('\u1fbe', 'Ι')]

def upperChar (c : Char) : Char :=
  if c.toNat < 0x80 then c.toUpper else
  match irregularUpper.lookup c with
  | some u => u
  | none => match CaseTable.lower.find? fun r =>
        let n := (c.toNat : Int) - r.shift
        r.first ≤ n && n ≤ r.last && (n - r.first) % r.step = 0 with
    | some r => Char.ofNat ((c.toNat : Int) - r.shift).toNat
    | none => c

def isUpperCharacter (c : Char) : Bool :=
  if c.toNat < 0x80 then c.isUpper else inRanges CaseTable.cased c && lowerChar c != c

def isLowerCharacter (c : Char) : Bool :=
  if c.toNat < 0x80 then c.isLower else inRanges CaseTable.cased c && lowerChar c == c

def columns (c : Char) : Nat :=
  if c.toNat < 0x80 then (if isPrintable c then 1 else 0)
  else if inRanges KindTable.marks c || !isPrintable c then 0
  else if inRanges KindTable.wide c then 2 else 1

end DeltaDebugging.Text
