import DeltaDebugging.Number.Extended
import DeltaDebugging.Text.Format
import DeltaDebugging.Utility.Lines

/-!
# Sequences of numbers

Prints the numbers from a first to a last one. Whole numbers with a positive step are counted
exactly; others are extended floats, each of them the first and a multiple of the step. They are
shown with as many places as the first and the step have, or as a format asks for.
-/
namespace DeltaDebugging.Utility

open Program Number

/-- A number that bounds a sequence, how wide it is written, and how many places it has, if that
can be told. -/
structure Bound where
  value : Quantity
  width : Int := 0
  places : Option Nat := some 0

namespace Bound

/-- How wide a decimal number is when written without an exponent, and how many places it has. -/
def decimal (cs : List Char) : Int × Option Nat :=
  let isMark (c : Char) : Bool := c = 'e' || c = 'E'
  let point := cs.findIdx? (· = '.')
  let fraction : List Char := match point with
    | some i => (cs.drop (i + 1)).takeWhile fun c => !isMark c
    | none => []
  let digits := fraction.length
  -- a point without figures before it is written with a zero, one without figures behind it not
  let width : Int := match point with
    | none => cs.length
    | some i => cs.length + (if digits = 0 then -1
        else if i = 0 || !((cs[i - 1]?).any Char.isDigit) then 1 else 0)
  let mark := if cs.contains 'e' then cs.idxOf 'e' else cs.idxOf 'E'
  if mark = cs.length then (width, some digits) else
  let power := (Number.Numeral.powerAt 'e' (cs.drop mark)).1
  let width := width - (cs.length - mark : Nat)
  if power < 0 then
    let pointLast := point.any fun i => mark = i + 1
    (width + (if point.isNone || pointLast then 1 else 0) + power.natAbs, some (digits + power.natAbs))
  else
    let places := digits - power.toNat
    let width := if point.isSome && places = 0 && 0 < digits then width - 1 else width
    (width + (power.toNat - digits : Nat), some places)

def ofText (text : String) : Program Bound := do
  let bad (complaint : String) : Program Bound := misuse (complaint ++ Text.literalQuote text) 1
  match Number.Numeral.at? text.toList with
  | some (negative, n, []) =>
    let value := n.extended negative
    let overflows : Bool := match value with
      | .infinite _ => n ≠ Number.Numeral.infinite
      | _ => false
    if overflows then bad "invalid floating point argument: "
    else if n = Number.Numeral.nan then bad ("invalid " ++ Text.literalQuote "not-a-number" ++ " argument: ")
    else
      let cs := text.toList.dropWhile fun c => Format.blank c || c = '+'
      let whole := !cs.contains '.' && !cs.contains 'p'
      if cs.any (fun c => c = 'x' || c = 'X') || n = Number.Numeral.infinite then
        return { value, places := if whole then some 0 else none }
      else
        let (width, places) := decimal cs
        return { value, width, places }
  | _ => bad "invalid floating point argument: "

end Bound

structure FloatFormat where
  before : String := ""
  shape : Shape
  letter : Char
  after : String := ""

namespace FloatFormat

def body (f : FloatFormat) (x : Quantity) : String := f.shape.quantity f.letter true x

def render (f : FloatFormat) (x : Quantity) : String := f.before ++ f.body x ++ f.after

/-- The text up to a conversion, in which two percent signs stand for one, and the conversion. -/
def literal : List Char → List Char × List Char
  | '%' :: '%' :: rest =>
    let (a, b) := literal rest
    ('%' :: a, b)
  | '%' :: rest => ([], '%' :: rest)
  | c :: rest =>
    let (a, b) := literal rest
    (c :: a, b)
  | [] => ([], [])

/-- Reads a format, which has to have exactly one conversion. -/
def ofText (format : String) : Program FloatFormat := do
  let bad (what : String) : Program FloatFormat :=
    die ("format " ++ Text.literalQuote format ++ what) 1
  let (before, rest) := literal format.toList
  match rest with
  | [] => bad (" has no % directive")
  | _ :: rest =>
    let (shape, rest) := Format.flags {} (rest.dropWhile (· = '\''))
    let (width, rest) := Format.natural (rest.dropWhile (· = '\''))
    let (precision, rest) := match rest with
      | '.' :: more =>
        let (n, more) := Format.natural more
        (some n, more)
      | _ => (none, rest)
    match (if rest.head? = some 'L' then rest.tail else rest) with
    | [] => bad (" ends in %")
    | c :: rest =>
      if !"efgaEFGA".toList.contains c then bad (" has unknown %" ++ String.singleton c ++ " directive")
      else
        let (after, more) := literal rest
        if more.isEmpty then
          let shape : Shape := { shape with width, precision }
          return ⟨String.ofList before, shape, c, String.ofList after⟩
        else bad (" has too many % directives")

def fitting (equalWidth : Bool) (first step last : Bound) : FloatFormat :=
  match first.places, step.places, last.places with
  | some f, some s, some l =>
    let places := max f s
    if equalWidth then
      let ofFirst := first.width + (places - f : Nat) + (if f = 0 && places ≠ 0 then 1 else 0)
      let ofLast := last.width + (places : Int) - l +
        (if l = 0 && places ≠ 0 then 1 else if l ≠ 0 && places = 0 then -1 else 0)
      { shape := { zeros := true, width := (max ofFirst ofLast).toNat, precision := some places }
        letter := 'f' }
    else { shape := { precision := some places }, letter := 'f' }
  | _, _, _ => { shape := {}, letter := 'g' }

end FloatFormat

namespace Sequence

def most : Nat := 200000

/-- Natural numbers up to a last one, if there is one. -/
def counted (step : Nat) (last : Option Nat) : (steps : Nat) → (n : Nat) → List String
  | 0, _ => []
  | steps + 1, n =>
    if last.any fun l => decide (l < n) then [] else toString n :: counted step last steps (n + step)

/-- The texts of the numbers behind the one shown as `shown`. One past the last is shown as well
if it reads as the last, and not as the number before it. -/
def measured (f : FloatFormat) (first step last : Quantity) :
    (steps : Nat) → (index : Nat) → (shown : String) → List String
  | 0, _, _ => []
  | steps + 1, i, shown =>
    let x := first.plus (step.times i)
    let text := f.body x
    let past := if step.isLess .zero then x.isLess last else last.isLess x
    if past then
      let reads := match Number.Numeral.at? text.toList with
        | some (negative, n, []) => (n.extended negative).equals last
        | _ => false
      if reads && text ≠ shown then [f.render x] else []
    else f.render x :: measured f first step last steps (i + 1) text

/-- Marks a negative number among the options as the first operand. -/
def markNumber : List String → List String
  | [] => []
  | a :: rest => match a.toList with
    | '-' :: c :: cs =>
      let takesNext := if c = '-' then
          !cs.contains '=' && (cs.head? = some 's' || cs.head? = some 'f')
        else (c :: cs).findIdx? (fun d => d = 's' || d = 'f') = some cs.length
      if c.isDigit || c = '.' then "--" :: a :: rest
      else if a = "--" then a :: rest
      else match rest with
        | [] => [a]
        | v :: more => if takesNext then a :: v :: markNumber more else a :: markNumber (v :: more)
    | _ => a :: rest

/-- Prints texts with separators between them; if there are too many there is no end. -/
def list (separator : String) (texts : List String) : Program Unit := do
  if texts.isEmpty then return
  if most < texts.length then
    put (String.intercalate separator (texts.take most))
    throw .endless
  put (String.intercalate separator texts ++ "\n")

/-- A number as a natural one, if it is one. -/
def naturalOf? : Quantity → Option Nat
  | .finite negative n d => if negative || n % d ≠ 0 then none else some (n / d)
  | _ => none

def greatestStep : Nat := 200

end Sequence

open Sequence in
def seq : Program Nat := do
  withArguments markNumber
  let p ← parsed { choices := ["f,format:", "s,separator:", "w,equal-width"], permutes := false }
  if p.operands.isEmpty then misuse "missing operand" 1
  match p.operands[3]? with
  | some extra => misuse ("extra operand " ++ Text.literalQuote extra) 1
  | none => pure ()
  let format ← match p.value? "f" with
    | some f => some <$> FloatFormat.ofText f
    | none => pure none
  let equalWidth := p.has "w"
  if format.isSome && equalWidth then
    misuse "format string may not be specified when printing equal width strings" 1
  let separator := (p.value? "s").getD "\n"
  let plain := !equalWidth && format.isNone && separator.length = 1
  -- numbers of digits only may have any size
  let whole := p.operands.map natural?
  let short : Option (Nat × Nat × Nat) := match whole with
    | [some last] => some (1, 1, last)
    | [some first, some last] => some (first, 1, last)
    | [some first, some step, some last] =>
      if 0 < step && step ≤ greatestStep then some (first, step, last) else none
    | _ => none
  match plain, short with
  | true, some (first, step, last) =>
    list separator (counted step (some last) (most + 1) first)
    return 0
  | _, _ => pure ()
  let one : Bound := { value := .finite false 1 1, width := 1 }
  let (first, step, last) ← match p.operands with
    | [last] => do
      let last ← Bound.ofText last
      pure (one, one, last)
    | [first, last] => do
      let first ← Bound.ofText first
      let last ← Bound.ofText last
      pure (first, one, last)
    | first :: step :: last :: _ => do
      let first ← Bound.ofText first
      let given ← Bound.ofText step
      if given.value.isZero then misuse ("invalid Zero increment value: " ++ Text.literalQuote step) 1
      let last ← Bound.ofText last
      pure (first, given, last)
    | [] => pure (one, one, one)
  let isWhole := [first, step, last].all fun b => b.places = some 0
  let counting : Option (Nat × Nat × Option Nat) :=
    match naturalOf? first.value, naturalOf? step.value, naturalOf? last.value with
    | some f, some s, some l => some (f, s, some l)
    | some f, some s, none => match last.value with
      | .infinite false => some (f, s, none)
      | _ => none
    | _, _, _ => none
  match plain && isWhole, counting with
  | true, some (f, s, l) =>
    if s ≤ greatestStep then
      list separator (counted s l (most + 1) f)
      return 0
  | _, _ => pure ()
  let format := format.getD (FloatFormat.fitting equalWidth first step last)
  let nothing := if step.value.isLess .zero then first.value.isLess last.value else last.value.isLess first.value
  if nothing then return 0
  list separator (format.render first.value ::
    measured format first.value step.value last.value most 1 (format.body first.value))
  return 0

end DeltaDebugging.Utility
