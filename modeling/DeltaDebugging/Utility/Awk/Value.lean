import DeltaDebugging.Number.Figures

/-!
# Values and tables of pattern scanning programs

A value is a number or a text and counts as the other where that is wanted. Text from outside
counts as a number, too, if it looks like one. A table keeps its elements in the order in which
a loop over it finds them.
-/
namespace DeltaDebugging.Utility.Awk

inductive Value where
  /-- What a variable holds before anything is assigned to it. -/
  | nothing
  /-- A number; one that is none has a sign. -/
  | number (x : Float)
  /-- What is no number and has no sign. -/
  | nan
  | text (s : String)
  /-- A text from outside. -/
  | outside (s : String)
  deriving Inhabited, Repr

/-- Whether a text is a number with blanks around it at most. It ends in a figure or a point. -/
def looksNumeric (s : String) : Bool :=
  let blank (c : Char) : Bool := c = ' ' || c = '\t' || c = '\n'
  let cs := ((s.toList.dropWhile blank).reverse.dropWhile blank).reverse
  let figure (c : Char) : Bool := c.isDigit || c = '.'
  cs.head?.any (fun c => figure c || c = '+' || c = '-') && cs.getLast?.any figure &&
    match Number.Numeral.at? cs with
    | some (_, _, rest) => rest.isEmpty
    | none => false

def numberIn (s : String) : Value :=
  match Number.Numeral.at? s.toList with
  | some (negative, n, _) =>
    if n = .nan && !negative then .nan
    else .number (if negative then -n.toFloat else n.toFloat)
  | none => .number 0.0

def greatestWhole : Float := 2147483647.0

/-- The number of a whole float that is not too great. -/
def whole? (x : Float) : Option Int :=
  if x.floor != x || x < -greatestWhole || greatestWhole < x then none
  else if x < 0 then some (-Int.ofNat (-x).toUInt64.toNat)
  else some (Int.ofNat x.toUInt64.toNat)

def wholePart (x : Float) : Int :=
  if greatestWhole ≤ x then 2147483647
  else if -greatestWhole < x then
    if x < 0 then -Int.ofNat (-x).toUInt64.toNat else Int.ofNat x.toUInt64.toNat
  else -2147483647

/-- A number as one without a sign, cut off and kept within a word; a negative one wraps around. -/
def wordPart (x : Float) : Nat :=
  if 4294967295.0 ≤ x then 4294967295 else if -greatestWhole < x then
    (if x < 0 then (-Int.ofNat (-x).toUInt64.toNat) % 4294967296 else Int.ofNat x.toUInt64.toNat).toNat
  else 2147483649

namespace Value

def asNumber : Value → Value
  | nothing => number 0.0
  | text s => numberIn s
  | outside s => numberIn s
  | v => v

def toNumber (v : Value) : Float :=
  match v.asNumber with
  | number x => x
  | nan => 0.0 / 0.0
  | _ => 0.0

/-- The outcome of an operation on numbers. What is no number has the sign of the first operand
that is none, and a negative one if all are numbers. -/
def outcome (x : Float) (operands : List Value) : Value :=
  if !x.isNaN then number x
  else match (operands.map asNumber).find? fun v => v.toNumber.isNaN with
    | some v => v
    | none => number x

def opposite (v : Value) : Value :=
  match v.asNumber with
  | number x => if x.isNaN then nan else number (-x)
  | _ => number (0.0 / 0.0)

/-- Whether a value is compared as a number if the other one is, too. -/
def isNumeric : Value → Bool
  | nothing => true
  | number _ => true
  | nan => true
  | text _ => false
  | outside s => looksNumeric s

def isTrue : Value → Bool
  | nothing => false
  | number x => x != 0
  | nan => true
  | text s => !s.isEmpty
  | outside s => if looksNumeric s then (outside s).toNumber != 0 else !s.isEmpty

end Value

/-! ## Formats -/

inductive Misfit where
  | tooFew
  /-- The conversion of the given number is not one. -/
  | improper (number : Nat)
  deriving DecidableEq, Repr

namespace Figures

/-- The text of infinite numbers and of those that are none. -/
def special? (v : Value) : Option String :=
  match v.asNumber with
  | .number x => if x.isNaN then some "-nan" else if x.isInf then some (if x < 0 then "-inf" else "inf") else none
  | _ => some "nan"

def flags (s : Number.Shape) : List Char → Number.Shape × List Char
  | '-' :: cs => flags { s with left := true } cs
  | '+' :: cs => flags { s with plus := true } cs
  | ' ' :: cs => flags { s with space := true } cs
  | '#' :: cs => flags { s with alternate := true } cs
  | '0' :: cs => flags { s with zeros := true } cs
  | cs => (s, cs)

def convert (plain : Value → String) (s : Number.Shape) (letter : Char) (v : Value) : Option String :=
  let x := v.toNumber
  let textOf : Value → String
    | .nothing => ""
    | .text t => t
    | .outside t => t
    | v => plain v
  if letter = 's' then some (s.text (textOf v))
  else if letter = 'c' then
    let isNumber := match v with
      | .nothing => false
      | v => v.isNumeric
    let c := if isNumber then Char.ofNat ((wholePart x % 256).toNat) else (textOf v).toList.headD '\x00'
    some ({ s with precision := none }.pad (String.singleton c))
  else if letter = 'd' || letter = 'i' then some (s.integer (wholePart x))
  else if letter = 'o' || letter = 'x' || letter = 'X' || letter = 'u' then
    let base := if letter = 'o' then 8 else if letter = 'u' then 10 else 16
    some (s.natural base (letter = 'X') (wordPart x))
  else if "eEfgG".toList.contains letter then
    match special? v with
    | some t =>
      let (sign, digits) := if t.startsWith "-" then ("-", String.ofList (t.toList.drop 1)) else (s.sign false, t)
      some (s.padNumber false sign (if letter.isUpper then digits.toUpper else digits))
    | none => some (s.float letter x)
  else none

/-- A number out of a format, or out of the values for a star. -/
def amount (cs : List Char) (vs : List Value) : Option (Int × List Char × List Value) :=
  match cs, vs with
  | '*' :: _, [] => none
  | '*' :: rest, v :: vs => some (wholePart v.toNumber, rest, vs)
  | cs, vs =>
    let ds := cs.takeWhile Char.isDigit
    some (ds.foldl (fun n d => n * 10 + Int.ofNat (d.toNat - '0'.toNat)) 0, cs.drop ds.length, vs)

/-- A format with its conversions replaced by values, up to what does not fit. -/
def fill (plain : Value → String) : (steps : Nat) → (conversions : Nat) → List Char → List Value →
    List Char → List Char × Option Misfit
  | 0, _, _, _, out => (out.reverse, none)
  | steps + 1, n, cs, vs, out => match cs with
    | [] => (out.reverse, none)
    | '%' :: '%' :: rest => fill plain steps n rest vs ('%' :: out)
    | '%' :: rest =>
      let (s, rest) := flags {} rest
      match amount rest vs with
      | none => (out.reverse, some .tooFew)
      | some (width, rest, vs) =>
        let s := if width < 0 then { s with left := true, width := width.natAbs }
          else { s with width := width.natAbs }
        let found : Option (Number.Shape × List Char × List Value) := match rest with
          | '.' :: more => (amount more vs).map fun (p, rest, vs) =>
            (if p < 0 then s else { s with precision := some p.natAbs }, rest, vs)
          | rest => some (s, rest, vs)
        match found with
        | none => (out.reverse, some .tooFew)
        | some (s, rest, vs) =>
          let rest := rest.dropWhile fun c => c = 'l' || c = 'h'
          match vs, rest with
          | [], _ => (out.reverse, some .tooFew)
          | v :: vs, letter :: rest => match convert plain s letter v with
            | some t => fill plain steps (n + 1) rest vs (t.toList.reverse ++ out)
            | none => (out.reverse, some (.improper (n + 1)))
          | _ :: _, [] => (out.reverse, some (.improper (n + 1)))
    | c :: rest => fill plain steps n rest vs (c :: out)

/-- Values in a format; `plain` writes a number that is asked for as text. -/
def format (plain : Value → String) (format : String) (vs : List Value) : String × Option Misfit :=
  let (cs, misfit) := fill plain (format.length + 1) 0 format.toList vs []
  (String.ofList cs, misfit)

/-- The text of a number, which is written in a format unless it is whole. -/
def numberText (f : String) (v : Value) : String :=
  match special? v with
  | some t => t
  | none => match whole? v.toNumber with
    | some n => toString n
    | none =>
      let usual (v : Value) : String := Number.Shape.float {} 'g' v.toNumber
      if f = "%.6g" then usual v else (format usual f [v]).1

end Figures

/-- The text of a value, if numbers are written in a format. -/
def Value.toText (format : String) : Value → String
  | nothing => ""
  | text s => s
  | outside s => s
  | v => Figures.numberText format v

/-! ## Tables -/

structure Subscript where
  text : String
  /-- The number, if it was one. -/
  whole : Option Int := none
  deriving DecidableEq, Repr

structure Table where
  entries : List (String × Value) := []
  /-- The subscripts that are known as texts, the one used last first. -/
  texts : List String := []
  /-- The subscripts that are known as numbers, the one used last first. -/
  wholes : List Int := []
  /-- Whether new subscripts become known as texts. -/
  keepsTexts : Bool := false
  buckets : Nat := 64
  deriving Inhabited

namespace Table

def size (t : Table) : Nat := t.entries.length

def hash (s : String) : Nat :=
  s.toList.foldl (fun h c => (h.xor c.toNat * 16777619) % 4294967296) 2166136261

def toFront [BEq α] (a : α) (as : List α) : List α := a :: as.erase a

def inBuckets (t : Table) (bucket : α → Nat) (as : List α) : List α :=
  as.mergeSort fun a b => decide (bucket a % t.buckets ≤ bucket b % t.buckets)

def withTexts (t : Table) : Table :=
  if t.keepsTexts then t else
  let wholes := t.inBuckets (fun n => (n % Int.ofNat t.buckets).toNat) t.wholes
  { t with
    texts := wholes.foldl (fun ts n => if ts.contains (toString n) then ts else toString n :: ts) t.texts
    keepsTexts := true }

/-- Looks an element up, which moves it to the front of its bucket. -/
def find? (t : Table) (k : Subscript) : Table × Option Value :=
  if t.entries.isEmpty then (t, none) else
  let t := if k.whole.isNone then t.withTexts else t
  match t.entries.lookup k.text with
  | none => (t, none)
  | some v => match k.whole with
    | some n =>
      if t.wholes.contains n then ({ t with wholes := toFront n t.wholes }, some v)
      else ({ t with wholes := n :: t.wholes, texts := toFront k.text t.texts }, some v)
    | none => ({ t with texts := toFront k.text t.texts }, some v)

/-- Makes room for an element that is not there. -/
def add (t : Table) (k : Subscript) (v : Value) : Table :=
  let t := if k.whole.isNone then { t.withTexts with keepsTexts := true } else t
  let t := { t with entries := (k.text, v) :: t.entries }
  let t := match k.whole with
    | some n => { t with wholes := n :: t.wholes }
    | none => t
  let t := if t.keepsTexts then { t with texts := k.text :: t.texts } else t
  if 12 * t.buckets < t.size then { t with buckets := 2 * t.buckets } else t

def put (t : Table) (k : Subscript) (v : Value) : Table :=
  let (t, found) := t.find? k
  if found.isSome then
    { t with entries := t.entries.map fun e => if e.1 = k.text then (e.1, v) else e }
  else t.add k v

def get (t : Table) (k : Subscript) : Table × Value :=
  match t.find? k with
  | (t, some v) => (t, v)
  | (t, none) => (t.add k .nothing, .nothing)

def erase (t : Table) (k : Subscript) : Table :=
  let (t, found) := t.find? k
  if found.isNone then t else
  let entries := t.entries.filter fun e => e.1 ≠ k.text
  if entries.isEmpty then {} else
  { t with
    entries, texts := t.texts.erase k.text, wholes := t.wholes.filter fun n => toString n ≠ k.text }

/-- The subscripts in the order in which a loop finds them. -/
def keys (t : Table) : Table × List String :=
  let t := t.withTexts
  (t, t.inBuckets hash t.texts)

def ofPieces (pieces : List String) : Table :=
  let n := pieces.length
  let numbers := (List.range n).map (· + 1)
  let rec room : (steps : Nat) → (buckets : Nat) → Nat
    | 0, buckets => buckets
    | steps + 1, buckets => if 12 * buckets < n then room steps (2 * buckets) else buckets
  { entries := (numbers.zip pieces).map fun (i, p) => (toString i, .outside p)
    wholes := numbers.reverse.map Int.ofNat
    buckets := room n 64 }

end Table

end DeltaDebugging.Utility.Awk
