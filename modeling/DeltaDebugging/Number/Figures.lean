import DeltaDebugging.Number.Binary

/-!
# Numbers in figures

Integers and floats as a format with width, precision and flags asks for them, and the
reading of floats. All rounding is exact.
-/
namespace DeltaDebugging.Number

inductive Quantity where
  | nan (negative : Bool)
  | infinite (negative : Bool)
  /-- A fraction. -/
  | finite (negative : Bool) (num den : Nat)
  deriving DecidableEq, Repr

def Quantity.ofFloat (x : Float) : Quantity :=
  let negative := decide (x.toBits.toNat ≥ Nat.pow 2 63)
  if x.isNaN then .nan negative
  else if x.isInf then .infinite negative
  else
    let (num, den) := magnitude x
    .finite negative num den

def binaryExponent (num den : Nat) : Int :=
  let up : Int := (num.log2 : Int) - den.log2
  let reaches : Bool :=
    if up ≥ 0 then den * Nat.pow 2 up.toNat ≤ num else den ≤ num * Nat.pow 2 (-up).toNat
  if reaches then up else up - 1

structure Shape where
  /-- Filled up on the right. -/
  left : Bool := false
  plus : Bool := false
  space : Bool := false
  alternate : Bool := false
  zeros : Bool := false
  width : Nat := 0
  precision : Option Nat := none
  deriving DecidableEq, Repr

namespace Shape

def fill (c : Char) (n : Nat) : String := String.ofList (List.replicate n c)

def pad (s : Shape) (text : String) : String :=
  let missing := s.width - text.length
  if s.left then text ++ fill ' ' missing else fill ' ' missing ++ text

/-- A number on its side of the width, or with zeros between its sign and its digits. -/
def padNumber (s : Shape) (zeros : Bool) (sign digits : String) : String :=
  if zeros && !s.left then
    sign ++ fill '0' (s.width - sign.length - digits.length) ++ digits
  else s.pad (sign ++ digits)

def text (s : Shape) (t : String) : String :=
  s.pad (match s.precision with
    | some n => String.ofList (t.toList.take n)
    | none => t)

def sign (s : Shape) (negative : Bool) : String :=
  if negative then "-" else if s.plus then "+" else if s.space then " " else ""

/-- Digits with at least as many as the precision asks for; a zero may vanish. -/
def precise (s : Shape) (digits : String) : String := match s.precision with
  | some 0 => if digits = "0" then "" else digits
  | some n => fill '0' (n - digits.length) ++ digits
  | none => digits

def integer (s : Shape) (n : Int) : String :=
  s.padNumber (s.zeros && s.precision.isNone) (s.sign (n < 0)) (s.precise (toString n.natAbs))

def natural (s : Shape) (base : Nat) (upper : Bool) (n : Nat) : String :=
  let digits := String.ofList (Nat.toDigits base n)
  let digits := s.precise (if upper then digits.toUpper else digits)
  let (mark, digits) :=
    if !s.alternate then ("", digits)
    else if base = 16 then (if n = 0 then "" else if upper then "0X" else "0x", digits)
    else if base = 8 then ("", if digits.toList.head? = some '0' then digits else "0" ++ digits)
    else ("", digits)
  s.padNumber (s.zeros && s.precision.isNone) mark digits

/-- The decimal exponent of a positive fraction, if it has at most `most` figures. -/
def exponentOf (num den : Nat) : Int :=
  let up : Int := (toString num).length - (toString den).length
  -- the exponent is `up` or one less
  let reaches (e : Int) : Bool :=
    if e ≥ 0 then den * Nat.pow 10 e.toNat ≤ num else den ≤ num * Nat.pow 10 (-e).toNat
  if reaches up then up else up - 1

/-- The digits of a fraction in scientific form with `places` behind the point, and its
exponent. -/
def scientific (places : Nat) (num den : Nat) : Nat × Int :=
  if num = 0 then (0, 0) else
  let e := exponentOf num den
  let shift : Int := places - e
  let digits := if shift ≥ 0 then roundDiv (num * Nat.pow 10 shift.toNat) den
    else roundDiv num (den * Nat.pow 10 (-shift).toNat)
  if Nat.pow 10 (places + 1) ≤ digits then (digits / 10, e + 1) else (digits, e)

def withPoint (alternate : Bool) (whole fraction : String) : String :=
  if fraction.isEmpty then (if alternate then whole ++ "." else whole) else whole ++ "." ++ fraction

def exponentText (upper : Bool) (e : Int) : String :=
  (if upper then "E" else "e") ++ (if e < 0 then "-" else "+") ++ padded 2 e.natAbs

def dropZeros (s : String) : String :=
  String.ofList (s.toList.reverse.dropWhile (· = '0')).reverse

/-- A fraction in hexadecimal figures, with a power of two. A first figure of `lead` bits stands
before the point, of the `bits` that there are in all; `least` is the least exponent. -/
def hexadecimal (s : Shape) (upper : Bool) (bits lead : Nat) (least : Int) (num den : Nat) : String :=
  let e : Int := if num = 0 then (lead : Int) - 1 else max (binaryExponent num den) least
  let shift : Int := (bits : Int) - 1 - e
  let mantissa := if num = 0 then 0
    else if shift ≥ 0 then num * Nat.pow 2 shift.toNat / den else num / (den * Nat.pow 2 (-shift).toNat)
  let unit := Nat.pow 2 (bits - lead)
  let size := (bits - lead) / 4
  let hex (n : Nat) : String := String.ofList (Nat.toDigits 16 n)
  let figures (places n : Nat) : String :=
    if places = 0 then "" else fill '0' (places - (hex n).length) ++ hex n
  let (whole, digits) := match s.precision with
    | none => (mantissa / unit, dropZeros (figures size (mantissa % unit)))
    | some places =>
      if size ≤ places then (mantissa / unit, figures size (mantissa % unit) ++ fill '0' (places - size))
      else
        let scaled := roundDiv (mantissa * Nat.pow 16 places) unit
        (scaled / Nat.pow 16 places, figures places (scaled % Nat.pow 16 places))
  let power := e - ((lead : Int) - 1)
  let body := withPoint s.alternate (hex whole) digits ++ "p" ++ (if power < 0 then "-" else "+") ++
    toString power.natAbs
  if upper then body.toUpper else body

/-- A quantity in the style of one of the letters `e`, `f`, `g` and `a`, or of a capital one;
an extended one has more bits than a float. -/
def quantity (s : Shape) (style : Char) (extended : Bool) (x : Quantity) : String :=
  let upper := style.isUpper
  let special (negative : Bool) (t : String) : String :=
    s.padNumber false (s.sign negative) (if upper then t.toUpper else t)
  match x with
  | .nan negative => special negative "nan"
  | .infinite negative => special negative "inf"
  | .finite negative num den =>
    if style.toLower = 'a' then
      s.padNumber s.zeros (s.sign negative ++ if upper then "0X" else "0x")
        (if extended then s.hexadecimal upper 64 4 (-16382) num den
          else s.hexadecimal upper 53 1 (-1022) num den)
    else
      let places := s.precision.getD 6
      let fixedText (places : Nat) (trim : Bool) : String :=
        let scaled := roundDiv (num * Nat.pow 10 places) den
        let fraction := if places = 0 then "" else padded places (scaled % Nat.pow 10 places)
        withPoint s.alternate (toString (scaled / Nat.pow 10 places))
          (if trim then dropZeros fraction else fraction)
      let scientificText (places : Nat) (trim : Bool) : String :=
        let (digits, e) := scientific places num den
        let fraction := if places = 0 then "" else padded places (digits % Nat.pow 10 places)
        withPoint s.alternate (toString (digits / Nat.pow 10 places))
          (if trim then dropZeros fraction else fraction) ++ exponentText upper e
      let body := match style.toLower with
        | 'f' => fixedText places false
        | 'e' => scientificText places false
        | _ =>
          let places := if places = 0 then 1 else places
          let (_, e) := scientific (places - 1) num den
          if -4 ≤ e && e < places then
            fixedText (places - 1 - e).toNat (!s.alternate)
          else scientificText (places - 1) (!s.alternate)
      s.padNumber s.zeros (s.sign negative) body

def float (s : Shape) (style : Char) (x : Float) : String := s.quantity style false (.ofFloat x)

end Shape

inductive Numeral where
  | nan
  | infinite
  /-- Figures and a power of ten. -/
  | decimal (figures : Nat) (power : Int)
  /-- Figures and a power of two. -/
  | binary (figures : Nat) (power : Int)
  deriving DecidableEq, Repr

namespace Numeral

def isHexadecimal (cs : List Char) : Bool :=
  let isHex (c : Char) : Bool := c.isDigit || ('a' ≤ c.toLower && c.toLower ≤ 'f')
  match cs with
  | '0' :: x :: '.' :: c :: _ => x.toLower = 'x' && isHex c
  | '0' :: x :: c :: _ => x.toLower = 'x' && isHex c
  | _ => false

/-- Figures with a point among them: their value, how many stand behind the point, and what
follows; nothing if there are none. -/
def figuresAt? (base : Nat) (cs : List Char) : Option (Nat × Nat × List Char) :=
  let value (c : Char) : Nat :=
    if c.isDigit then c.toNat - '0'.toNat
    else if 'a' ≤ c.toLower && c.toLower ≤ 'f' then c.toLower.toNat - 'a'.toNat + 10 else 99
  let isFigure (c : Char) : Bool := value c < base
  let whole := cs.takeWhile isFigure
  let rest := cs.drop whole.length
  let (fraction, rest) := match rest with
    | '.' :: more =>
      let ds := more.takeWhile isFigure
      if whole.isEmpty && ds.isEmpty then ([], rest) else (ds, more.drop ds.length)
    | _ => ([], rest)
  if whole.isEmpty && fraction.isEmpty then none
  else some ((whole ++ fraction).foldl (fun n d => n * base + value d) 0, fraction.length, rest)

/-- The power behind a mark, if one is there, with what follows. -/
def powerAt (mark : Char) (cs : List Char) : Int × List Char :=
  match cs with
  | e :: more =>
    if e.toLower = mark then
      let (minus, ds) := match more with
        | '-' :: ds => (true, ds)
        | '+' :: ds => (false, ds)
        | ds => (false, ds)
      let digits := ds.takeWhile Char.isDigit
      let n := digits.foldl (fun n d => n * 10 + (d.toNat - '0'.toNat)) 0
      if digits.isEmpty then (0, cs) else (if minus then -(n : Int) else n, ds.drop digits.length)
    else (0, cs)
  | [] => (0, cs)

/-- The number at the front of a text, whether it is negative, and what follows it; nothing if
none is there. -/
def at? (cs : List Char) : Option (Bool × Numeral × List Char) :=
  let blank (c : Char) : Bool := c == ' ' || ('\t' ≤ c && c ≤ '\r')
  let cs := cs.dropWhile blank
  let (negative, body) := match cs with
    | '-' :: rest => (true, rest)
    | '+' :: rest => (false, rest)
    | rest => (false, rest)
  let lower := (body.take 8).map Char.toLower
  if "infinity".toList.isPrefixOf lower then some (negative, infinite, body.drop 8)
  else if "inf".toList.isPrefixOf lower then some (negative, infinite, body.drop 3)
  else if "nan".toList.isPrefixOf lower then
    let word := (body.drop 4).takeWhile fun c => c.isAlphanum || c = '_'
    if body[3]? = some '(' && body[4 + word.length]? = some ')' then
      some (negative, nan, body.drop (5 + word.length))
    else some (negative, nan, body.drop 3)
  else if isHexadecimal body then
    (figuresAt? 16 (body.drop 2)).map fun (n, behind, rest) =>
      let (power, rest) := powerAt 'p' rest
      (negative, binary n (power - 4 * behind), rest)
  else
    (figuresAt? 10 body).map fun (n, behind, rest) =>
      let (power, rest) := powerAt 'e' rest
      (negative, decimal n (power - behind), rest)

def toFloat : Numeral → Float
  | nan => 0.0 / 0.0
  | infinite => 1.0 / 0.0
  | decimal m e =>
    let size : Int := (toString m).length + e
    if m = 0 || size < -330 then 0.0
    else if size > 310 then 1.0 / 0.0
    else Float.ofScientific m (decide (e < 0)) e.natAbs
  | binary m e =>
    let size : Int := m.log2 + e
    if m = 0 || size < -1100 then 0.0
    else if size > 1030 then 1.0 / 0.0
    else (Float.ofNat m).scaleB e

def extended (negative : Bool) : Numeral → Quantity
  | nan => .nan negative
  | infinite => .infinite negative
  | decimal m e =>
    let size : Int := (toString m).length + e
    if m = 0 || size < -4960 then .finite negative 0 1
    else if size > 4933 then .infinite negative
    else if e ≥ 0 then rounded negative (m * Nat.pow 10 e.toNat) 1
    else rounded negative m (Nat.pow 10 (-e).toNat)
  | binary m e =>
    let size : Int := m.log2 + e
    if m = 0 || size < -16500 then .finite negative 0 1
    else if size > 16383 then .infinite negative
    else if e ≥ 0 then rounded negative (m * Nat.pow 2 e.toNat) 1
    else rounded negative m (Nat.pow 2 (-e).toNat)
where
  /-- A fraction with its first 64 bits. -/
  rounded (negative : Bool) (num den : Nat) : Quantity :=
    let shift : Int := 63 - binaryExponent num den
    if shift ≥ 0 then .finite negative (roundDiv (num * Nat.pow 2 shift.toNat) den) (Nat.pow 2 shift.toNat)
    else .finite negative (roundDiv num (den * Nat.pow 2 (-shift).toNat) * Nat.pow 2 (-shift).toNat) 1

end Numeral

/-- The float at the front of a text, with what follows it; nothing if none is there. -/
def floatAt? (cs : List Char) : Option (Float × List Char) :=
  (Numeral.at? cs).map fun (negative, n, rest) => (if negative then -n.toFloat else n.toFloat, rest)

end DeltaDebugging.Number
