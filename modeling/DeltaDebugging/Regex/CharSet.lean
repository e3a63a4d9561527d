import DeltaDebugging.Text.Characters

/-!
# Sets of characters

What a bracket expression of a pattern or a regular expression accepts: ranges, and named
classes. Of a class the ASCII characters are ranges; those outside ASCII belong to it by their
kind, where texts are read as characters and not as bytes.
-/
namespace DeltaDebugging

inductive CharKind where
  | letter
  | upper
  | lower
  | sign
  | space
  | blank
  | printable
  | visible
  | control
  deriving DecidableEq, Repr

namespace CharKind

def has (k : CharKind) (c : Char) : Bool :=
  0x80 ≤ c.toNat && match k with
    | letter => Text.isLetter c
    | upper => Text.isUpperCharacter c
    | lower => Text.isLowerCharacter c
    | sign => Text.isSign c
    | space => Text.isSpaceCharacter c
    | blank => Text.isBlankCharacter c
    | printable => Text.isPrintable c
    | visible => Text.isPrintable c && !Text.isBlankCharacter c
    | control => Text.isControlCharacter c

end CharKind

/-- The characters within some ranges or of some kinds, or those outside them. -/
structure CharSet where
  negated : Bool := false
  /-- Inclusive ranges. -/
  ranges : List (Char × Char)
  kinds : List CharKind := []
  deriving DecidableEq, Repr

namespace CharSet

def lists (s : CharSet) (c : Char) : Bool :=
  s.ranges.any (fun r => r.1 ≤ c && c ≤ r.2) || s.kinds.any fun k => k.has c

def has (s : CharSet) (c : Char) : Bool := s.lists c != s.negated

def class? (name : String) : Option (List (Char × Char)) :=
  [("upper", [('A', 'Z')]), ("lower", [('a', 'z')]), ("digit", [('0', '9')]),
    ("alpha", [('A', 'Z'), ('a', 'z')]), ("alnum", [('0', '9'), ('A', 'Z'), ('a', 'z')]),
    ("space", [('\t', '\r'), (' ', ' ')]), ("blank", [('\t', '\t'), (' ', ' ')]),
    ("punct", [('!', '/'), (':', '@'), ('[', '\x60'), ('\x7b', '~')]),
    ("xdigit", [('0', '9'), ('A', 'F'), ('a', 'f')]), ("print", [(' ', '~')]),
    ("graph", [('!', '~')]), ("cntrl", [('\x00', '\x1f'), ('\x7f', '\x7f')])].lookup name

/-- The kinds of the characters outside ASCII that a named class has. -/
def kindsOf (name : String) : List CharKind :=
  ([("upper", [CharKind.upper]), ("lower", [.lower]), ("alpha", [.letter]), ("alnum", [.letter]),
    ("space", [.space]), ("blank", [.blank]), ("punct", [.sign]), ("print", [.printable]),
    ("graph", [.visible]), ("cntrl", [.control])].lookup name).getD []

def wordRanges : List (Char × Char) := [('0', '9'), ('A', 'Z'), ('_', '_'), ('a', 'z')]

/-- The ranges of the characters outside some, up to the last character that is in use. -/
def gaps (ranges : List (Char × Char)) : List (Char × Char) :=
  let sorted := ranges.mergeSort fun a b => a.1 ≤ b.1
  let (out, next) := sorted.foldl (fun (acc : List (Char × Char) × Nat) r =>
    let out := if acc.2 < r.1.toNat then (Char.ofNat acc.2, Char.ofNat (r.1.toNat - 1)) :: acc.1 else acc.1
    (out, max acc.2 (r.2.toNat + 1))) ([], 0)
  let last := Octets.strayBase + 0x7f
  (if next ≤ last then (Char.ofNat next, Char.ofNat last) :: out else out).reverse

end CharSet

end DeltaDebugging
