import DeltaDebugging.Number.Figures
import DeltaDebugging.Time.Zone

/-!
# Patterns for times

A pattern is a text with conversions. Behind a percent sign stand flags that choose how a figure
is filled up or change the case, then a width, then perhaps a letter that asks for another form,
and the letter of the conversion. What is no conversion stays as it is.
-/
namespace DeltaDebugging.Time.Pattern

def weekdays : List String := ["Sunday", "Monday", "Tuesday", "Wednesday", "Thursday", "Friday", "Saturday"]

def months : List String :=
  ["January", "February", "March", "April", "May", "June", "July", "August", "September", "October",
    "November", "December"]

structure Manner where
  /-- The character that was given to fill up with: `_`, `-`, `+` or `0`. -/
  fill : Option Char := none
  width : Option Nat := none
  upper : Bool := false
  /-- Whether the case is to be turned round. -/
  turns : Bool := false
  /-- The letter that asks for another form. -/
  form : Option Char := none
  deriving DecidableEq, Repr

def maximalWidth : Nat := 100000

def filled (m : Manner) (text : String) : String :=
  let missing := if m.fill = some '-' then 0 else (min (m.width.getD 0) maximalWidth) - text.length
  Number.Shape.fill (if m.fill = some '0' || m.fill = some '+' then '0' else ' ') missing ++ text

/-- A name, in capital letters if these are asked for. -/
def word (m : Manner) (upper lower : Bool) (text : String) : String :=
  filled m (if lower then text.toLower else if upper then text.toUpper else text)

/-- Figures with at least as many as there are to be, behind a sign. -/
def figures (m : Manner) (least : Nat) (sign digits : String) : String :=
  let fill := m.fill.getD '0'
  let width := min (m.width.getD least) maximalWidth
  let missing := if fill = '-' then 0 else width - sign.length - digits.length
  if fill = '_' then Number.Shape.fill ' ' missing ++ sign ++ digits
  else sign ++ Number.Shape.fill '0' missing ++ digits

def number (m : Manner) (least : Nat) (n : Int) : String :=
  figures m least (if n < 0 then "-" else "") (toString n.natAbs)

/-- A number that is filled up with blanks unless something else is asked for. -/
def spaced (m : Manner) (least : Nat) (n : Int) : String :=
  number { m with fill := some (m.fill.getD '_') } least n

/-- Figures of a year. A plus sign is put before more of them than usual if one is asked for. -/
def ofYear (m : Manner) (usual : Option Char) (least : Nat) (negative : Bool) (n : Nat) : String :=
  let m := { m with fill := m.fill.or usual }
  let plus := m.fill = some '+' && ((if least = 2 then 99 else 9999) < n || (m.width.any fun w => least < w))
  figures m least (if negative then "-" else if plus then "+" else "") (toString n)

/-- The difference to universal time, with as many colons as are asked for. -/
def zoneOffset (m : Manner) (offset : Int) (zone : String) (colons : Nat) : Option String :=
  let negative := offset < 0 || (offset = 0 && zone.toList.head? = some '-')
  let n := offset.natAbs
  let sign := if negative then "-" else "+"
  let two (n : Nat) : String := (if n < 10 then "0" else "") ++ toString n
  let (hours, minutes, seconds) := (n / 3600, n / 60 % 60, n % 60)
  let short := toString hours
  let medium := short ++ ":" ++ two minutes
  let long := medium ++ ":" ++ two seconds
  match colons with
  | 0 => some (figures m 5 sign (toString (hours * 100 + minutes)))
  | 1 => some (figures m 6 sign medium)
  | 2 => some (figures m 9 sign long)
  | 3 => some (if seconds ≠ 0 then figures m 9 sign long else if minutes ≠ 0 then figures m 6 sign medium
    else figures m 3 sign short)
  | _ => none

def fraction (m : Manner) (nanos : Nat) : String :=
  let width := match m.width with
    | some 0 => 9
    | some w => min w maximalWidth
    | none => 9
  let all := Number.Shape.fill '0' (9 - (toString nanos).length) ++ toString nanos
  let kept := all.toList.take width
  let short := kept.take 1 ++ ((kept.drop 1).reverse.dropWhile (· = '0')).reverse
  let missing := if m.fill = some '-' then 0 else width - short.length
  String.ofList short ++ Number.Shape.fill (if m.fill = some '_' then ' ' else '0') missing

def compound? : Char → Option String
  | 'c' => some "%a %b %e %H:%M:%S %EY"
  | 'D' => some "%m/%d/%y"
  | 'x' => some "%m/%d/%y"
  | 'R' => some "%H:%M"
  | 'r' => some "%I:%M:%S %p"
  | 'T' => some "%H:%M:%S"
  | 'X' => some "%H:%M:%S"
  | _ => none

/-- One conversion that does not stand for others; nothing if there is none of that letter. -/
def simple (l : Local) (m : Manner) (c : Char) : Option String :=
  let f := l.fields
  let weekday := ((weekdays[f.weekday.toNat]?).getD "")
  let month := ((months[(f.month - 1).toNat]?).getD "")
  let hour12 := (f.hour + 11) % 12 + 1
  let half := if f.hour < 12 then "AM" else "PM"
  let plain := m.form = none
  let figured := m.form ≠ some 'E'
  let when (p : Bool) (text : String) : Option String := if p then some text else none
  let upper := m.upper || m.turns
  match c with
  | '%' => when (m = {}) "%"
  | 'n' => some (filled m "\n")
  | 't' => some (filled m "\t")
  | 'a' => when plain (word m upper false (String.ofList (weekday.toList.take 3)))
  | 'A' => when plain (word m upper false weekday)
  | 'b' => when figured (word m upper false (String.ofList (month.toList.take 3)))
  | 'h' => when figured (word m upper false (String.ofList (month.toList.take 3)))
  | 'B' => when figured (word m upper false month)
  | 'C' =>
    let century := if f.year < 0 then f.year.natAbs / 100 else f.year.toNat / 100
    some (if m.form.isSome then filled m (toString century) else ofYear m none 2 (f.year < 0) century)
  | 'Y' => when (m.form ≠ some 'O')
    (if m.form.isSome then filled m (toString f.year) else ofYear m none 4 (f.year < 0) f.year.natAbs)
  | 'y' => some (ofYear m none 2 false (if f.year < 0 then f.year.natAbs % 100 else f.year.toNat % 100))
  | 'G' => when figured (ofYear m none 4 (f.week.1 < 0) f.week.1.natAbs)
  | 'g' => when figured (ofYear m none 2 false (f.week.1 % 100).toNat)
  | 'V' => when figured (number m 2 f.week.2)
  | 'U' => when figured (number m 2 ((f.yearDay - f.weekday + 7) / 7))
  | 'W' => when figured (number m 2 ((f.yearDay - (f.weekday + 6) % 7 + 7) / 7))
  | 'm' => when figured (number m 2 f.month)
  | 'd' => when figured (number m 2 f.day)
  | 'e' => when figured (spaced m 2 f.day)
  | 'j' => when figured (number m 3 (f.yearDay + 1))
  | 'q' => when (m.form ≠ some 'O') (number m 1 ((f.month - 1) / 3 + 1))
  | 'H' => when figured (number m 2 f.hour)
  | 'I' => when figured (number m 2 hour12)
  | 'k' => when figured (spaced m 2 f.hour)
  | 'l' => when figured (spaced m 2 hour12)
  | 'M' => when figured (number m 2 f.minute)
  | 'S' => when figured (number m 2 f.second)
  | 'N' => when figured (fraction m l.moment.nanos)
  | 's' => some (number m 1 l.moment.seconds)
  | 'p' => some (word m m.upper m.turns half)
  | 'P' => some (word m false true half)
  | 'u' => some (number m 1 ((f.weekday + 6) % 7 + 1))
  | 'w' => when figured (number m 1 f.weekday)
  | 'Z' => some (word m m.upper m.turns l.zone)
  | 'z' => zoneOffset m l.offset l.zone 0
  | _ => none

/-- The text of a pattern whose conversions do not stand for others; the first one may be given
a way to fill up and a width. -/
def simpleText (l : Local) (upper : Bool) (fill : Option Char) (width : Option Nat) : List Char → String
  | [] => ""
  | '%' :: 'E' :: c :: cs =>
    (simple l { form := some 'E', upper } c).getD "" ++ simpleText l upper fill none cs
  | '%' :: c :: cs =>
    let m : Manner := { fill := if c = 'Y' then fill else none, width, upper }
    (simple l m c).getD "" ++ simpleText l upper fill none cs
  | c :: cs => String.singleton (if upper then c.toUpper else c) ++ simpleText l upper fill none cs

/-- A conversion, whether it stands for others or not. -/
def conversion (l : Local) (m : Manner) (c : Char) : Option String :=
  match c, compound? c with
  | 'F', _ =>
    if m.form.isSome then none else
    let (fill, width) := if m.fill = none && m.width = none then (some '+', 4)
      else (m.fill, (m.width.getD 0) - 6)
    some (filled { m with width := if m.width = none then none else some width }
      (simpleText l m.upper fill (some width) "%Y-%m-%d".toList))
  | _, some pattern =>
    if m.form = some 'O' || (m.form = some 'E' && !(['c', 'x', 'X'].contains c)) then none
    else some (filled m (simpleText l m.upper none none pattern.toList))
  | _, none => simple l m c

/-- The conversion behind a percent sign: its text, and how many characters it takes. What is
none stands for itself. -/
def readConversion (l : Local) (cs : List Char) : String × Nat :=
  let flags := cs.takeWhile fun c => "_-+0^#".toList.contains c
  let rest := cs.drop flags.length
  let ds := rest.takeWhile Char.isDigit
  let rest := rest.drop ds.length
  let (form, rest) : Option Char × List Char := match rest with
    | 'E' :: rest => (some 'E', rest)
    | 'O' :: rest => (some 'O', rest)
    | _ => (none, rest)
  let m : Manner :=
    { fill := (flags.filter fun c => c ≠ '^' && c ≠ '#').getLast?
      width := if ds.isEmpty then none
        else some (ds.foldl (fun n d => n * 10 + (d.toNat - '0'.toNat)) 0)
      upper := flags.contains '^', turns := flags.contains '#', form }
  let before := flags.length + ds.length + (if form.isSome then 1 else 0)
  let colons := (rest.takeWhile (· = ':')).length
  let itself (length : Nat) : String × Nat := (filled m (String.ofList ('%' :: cs.take length)), length)
  match rest.drop colons with
  | [] => itself (before + min colons 1)
  | c :: _ =>
    let found := if colons = 0 then conversion l m c
      else if c = 'z' then zoneOffset m l.offset l.zone colons else none
    match found with
    | some text => (text, before + colons + 1)
    | none => itself (if colons = 0 && c = '%' then before else before + 1)

def text (l : Local) : (steps : Nat) → List Char → String
  | 0, _ => ""
  | _, [] => ""
  | steps + 1, '%' :: cs =>
    let (found, length) := readConversion l cs
    found ++ text l steps (cs.drop length)
  | steps + 1, c :: cs => String.singleton c ++ text l steps cs

def render (l : Local) (pattern : String) : String := text l (pattern.length + 1) pattern.toList

end DeltaDebugging.Time.Pattern
