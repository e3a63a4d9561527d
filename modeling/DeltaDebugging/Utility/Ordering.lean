import DeltaDebugging.Digest.Narrow
import DeltaDebugging.Number.Figures
import DeltaDebugging.Utility.Lines

/-!
# Orders of texts

Texts are compared byte by byte, by the numbers or the versions they begin with, or by the
months they name; and a line by some of its fields, each in an order of its own.
-/
namespace DeltaDebugging.Utility

structure Order where
  dictionary : Bool := false
  folds : Bool := false
  printable : Bool := false
  numeric : Bool := false
  general : Bool := false
  human : Bool := false
  month : Bool := false
  version : Bool := false
  random : Bool := false
  reversed : Bool := false
  skipsStart : Bool := false
  skipsEnd : Bool := false
  deriving DecidableEq, Repr

/-- A part of a line. Places count from zero; without an end it goes to the end of the line. -/
structure SortKey where
  field : Nat := 0
  offset : Nat := 0
  /-- The last field and how many of its characters count, zero for all. -/
  last : Option (Nat × Nat) := none
  order : Order := {}
  deriving DecidableEq, Repr

def isBlankChar (c : Char) : Bool := c = ' ' || c = '\t'

def compareChars (a b : List Char) : Ordering := compare (String.ofList a) (String.ofList b)

/-- The sign, the whole figures without leading zeros and the fraction without trailing ones. -/
def decimalParts (cs : List Char) : Bool × List Char × List Char :=
  let cs := cs.dropWhile isBlankChar
  let (negative, cs) := match cs with
    | '-' :: rest => (true, rest)
    | rest => (false, rest)
  let whole := cs.takeWhile Char.isDigit
  let fraction := match cs.drop whole.length with
    | '.' :: rest => rest.takeWhile Char.isDigit
    | _ => []
  (negative, whole.dropWhile (· = '0'), (fraction.reverse.dropWhile (· = '0')).reverse)

def compareMagnitudes (a b : List Char × List Char) : Ordering :=
  match compare a.1.length b.1.length with
  | .eq => match compareChars a.1 b.1 with
    | .eq => compareChars a.2 b.2
    | o => o
  | o => o

def compareNumbers (a b : List Char) : Ordering :=
  let (na, wa, fa) := decimalParts a
  let (nb, wb, fb) := decimalParts b
  let zero (w f : List Char) : Bool := w.isEmpty && f.isEmpty
  let na := na && !zero wa fa
  let nb := nb && !zero wb fb
  match na, nb with
  | true, false => .lt
  | false, true => .gt
  | false, false => compareMagnitudes (wa, fa) (wb, fb)
  | true, true => compareMagnitudes (wb, fb) (wa, fa)

/-- How long the unsigned number at the front is, and the greatest of its digits. -/
def rawNumber (cs : List Char) : Nat × Option Char :=
  let whole := cs.takeWhile Char.isDigit
  let fraction := match cs.drop whole.length with
    | '.' :: rest => '.' :: rest.takeWhile Char.isDigit
    | _ => []
  let greatest := (whole ++ fraction.drop 1).foldl (fun (m : Option Char) c => some (max c (m.getD c))) none
  (whole.length + fraction.length, greatest)
where
  max (a b : Char) : Char := if a < b then b else a

/-- The rank of a unit; none if it is not one. -/
def unitOrder (c : Char) : Nat :=
  match "KMGTPEZY".toList.idxOf? (if c = 'k' then 'K' else c) with
  | some i => i + 1
  | none => 0

def unitRank (cs : List Char) : Int :=
  let cs := cs.dropWhile isBlankChar
  let negative := cs.head? = some '-'
  let cs := if negative then cs.tail else cs
  match rawNumber cs with
  | (n, some greatest) =>
    let rank := ((cs.drop n).head?.map unitOrder).getD 0
    if greatest = '0' then 0 else if negative then -(rank : Int) else rank
  | _ => 0

def compareHuman (a b : List Char) : Ordering :=
  match compare (unitRank a) (unitRank b) with
  | .eq => compareNumbers a b
  | o => o

/-- Floats, after what is no number, then what is not a number in the float's own sense. -/
def compareGeneral (a b : List Char) : Ordering :=
  let rank : Option (Float × List Char) → Nat
    | none => 0
    | some (x, _) => if x.isNaN then 1 else 2
  let x := Number.floatAt? a
  let y := Number.floatAt? b
  match compare (rank x) (rank y) with
  | .eq => match x, y with
    | some (x, _), some (y, _) => if x < y then .lt else if y < x then .gt else .eq
    | _, _ => .eq
  | o => o

def monthRank (cs : List Char) : Nat :=
  let name := String.ofList (((cs.dropWhile isBlankChar).take 3).map Char.toUpper)
  match ["JAN", "FEB", "MAR", "APR", "MAY", "JUN", "JUL", "AUG", "SEP", "OCT", "NOV", "DEC"].idxOf? name with
  | some i => i + 1
  | none => 0

/-- The rank of a character among those that are no digits: a tilde before the end, letters before
all others. -/
def versionRank : Option Char → Int
  | none => 0
  | some c => if c = '~' then -1 else if c.isDigit then 0 else if c.isAlpha then c.toNat else c.toNat + 256

/-- Compares versions piece by piece: texts by rank, numbers by value. -/
def compareVersionParts : (steps : Nat) → List Char → List Char → Ordering
  | 0, _, _ => .eq
  | _, [], [] => .eq
  | steps + 1, a, b =>
    let isText (c : Char) : Bool := !c.isDigit
    let ta := a.takeWhile isText
    let tb := b.takeWhile isText
    let byText := (List.range (max ta.length tb.length)).findSome? fun i =>
      match compare (versionRank ta[i]?) (versionRank tb[i]?) with
      | .eq => none
      | o => some o
    match byText with
    | some o => o
    | none =>
      let da := (a.drop ta.length).takeWhile Char.isDigit
      let db := (b.drop tb.length).takeWhile Char.isDigit
      match compareMagnitudes (da.dropWhile (· = '0'), []) (db.dropWhile (· = '0'), []) with
      | .eq => compareVersionParts steps (a.drop (ta.length + da.length)) (b.drop (tb.length + db.length))
      | o => o

/-- A version without the endings of a file name. -/
def withoutEndings (cs : List Char) : List Char :=
  let rec strip : (steps : Nat) → List Char → List Char
    | 0, cs => cs
    | steps + 1, cs =>
      let ending := cs.reverse.takeWhile fun c => c.isAlphanum || c = '~'
      match cs.reverse.drop ending.length, ending.reverse with
      | '.' :: before, c :: _ => if before.isEmpty || !(c.isAlpha || c = '~') then cs else strip steps before.reverse
      | _, _ => cs
  strip cs.length cs

def compareVersions (a b : List Char) : Ordering :=
  let size := a.length + b.length + 2
  match compareVersionParts size (withoutEndings a) (withoutEndings b) with
  | .eq => compareVersionParts size a b
  | o => o

namespace Order

def isPlain (o : Order) : Bool := o = {}

def isNumeric (o : Order) : Bool := o.numeric || o.general || o.human

def letters (o : Order) : String :=
  String.ofList (([(o.skipsStart || o.skipsEnd, 'b'), (o.dictionary, 'd'), (o.folds, 'f'), (o.general, 'g'),
    (o.human, 'h'), (o.printable && !o.dictionary, 'i'), (o.month, 'M'), (o.numeric, 'n'), (o.random, 'R'),
    (o.reversed, 'r'), (o.version, 'V')].filter Prod.fst).map Prod.snd)

/-- Compares two texts; texts in random order are compared by their digests behind a seed. -/
def compare (o : Order) (seed : List Char) (a b : List Char) : Ordering :=
  let keep (c : Char) : Bool :=
    if o.dictionary then isBlankChar c || c.isAlphanum else !o.printable || Text.isPlain c
  let result :=
    if o.numeric then compareNumbers a b
    else if o.general then compareGeneral a b
    else if o.human then compareHuman a b
    else if o.month then Ord.compare (monthRank a) (monthRank b)
    else
      let prepare (cs : List Char) : List Char :=
        let cs := cs.filter keep
        if o.folds then cs.map Char.toUpper else cs
      let digest (cs : List Char) : String := Digest.md5 (Digest.bytesOf (seed ++ cs))
      if o.random then
        (Ord.compare (digest (prepare a)) (digest (prepare b))).then (compareChars (prepare a) (prepare b))
      else if o.version then compareVersions (prepare a) (prepare b)
      else compareChars (prepare a) (prepare b)
  if o.reversed then result.swap else result

end Order

namespace SortKey

def start (separator : Option Char) (cs : List Char) : (n : Nat) → Nat
  | 0 => 0
  | n + 1 =>
    let rest := cs
    match separator with
    | some t =>
      let field := rest.takeWhile (· ≠ t)
      if field.length < rest.length then
        field.length + 1 + start separator (rest.drop (field.length + 1)) n
      else field.length
    | none =>
      let blanks := rest.takeWhile isBlankChar
      let field := (rest.drop blanks.length).takeWhile fun c => !isBlankChar c
      let taken := blanks.length + field.length
      if taken = 0 then 0 else taken + start separator (rest.drop taken) n

/-- How many characters stand before the end of the `n`-th field, counted from one. -/
def finish (separator : Option Char) (cs : List Char) (n : Nat) : Nat :=
  match separator with
  | none => start none cs n
  | some t =>
    let before := start separator cs (n - 1)
    before + ((cs.drop before).takeWhile (· ≠ t)).length

/-- Where the part of a line that a key is begins and ends. -/
def span (k : SortKey) (separator : Option Char) (cs : List Char) : Nat × Nat :=
  let skip (skips : Bool) (n : Nat) : Nat :=
    if skips then n + ((cs.drop n).takeWhile isBlankChar).length else n
  let a := min cs.length (skip k.order.skipsStart (start separator cs k.field) + k.offset)
  let b := match k.last with
    | none => cs.length
    | some (field, 0) => finish separator cs (field + 1)
    | some (field, n) => min cs.length (skip k.order.skipsEnd (start separator cs field) + n)
  (a, max a b)

def part (k : SortKey) (separator : Option Char) (cs : List Char) : List Char :=
  let (a, b) := k.span separator cs
  (cs.drop a).take (b - a)

end SortKey

end DeltaDebugging.Utility
