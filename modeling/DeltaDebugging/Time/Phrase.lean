import DeltaDebugging.Time.Zone

/-!
# Times in words

A time is told by a row of items: days of the calendar and of the week, times of the day, zones,
and differences such as two days ago. What is not told is taken from the present time, or is
midnight if a day is told. Each kind of item may stand there once, but differences add up.
-/
namespace DeltaDebugging.Time.Phrase

inductive Measure where
  | year
  | month
  | days (count : Int)
  | hour
  | minute
  | second
  deriving DecidableEq, Repr

inductive Token where
  /-- A number without a sign, and how many figures it has. -/
  | plain (value : Nat) (figures : Nat)
  | signed (negative : Bool) (value : Nat) (figures : Nat)
  /-- A number with a point in it. -/
  | plainPoint (m : Moment)
  | signedPoint (m : Moment)
  | month (n : Nat)
  | weekday (n : Nat)
  | measure (unit : Measure)
  | shift (days : Int)
  | ordinal (n : Int)
  | ago (sign : Int)
  | half (afternoon : Bool)
  | zone (offset : Int)
  | summerZone (offset : Int)
  | localZone (inSummer : Bool)
  | summer
  /-- The letter between a day and a time, or a zone by itself. -/
  | between
  /-- The letter for the zone of the place. -/
  | here
  | mark (c : Char)
  | unknown
  deriving DecidableEq, Repr

/-! ### Words -/

def halves : List (String × Token) :=
  [("AM", .half false), ("A.M.", .half false), ("PM", .half true), ("P.M.", .half true)]

def calendarWords : List (String × Token) :=
  [("JANUARY", .month 1), ("FEBRUARY", .month 2), ("MARCH", .month 3), ("APRIL", .month 4), ("MAY", .month 5),
    ("JUNE", .month 6), ("JULY", .month 7), ("AUGUST", .month 8), ("SEPTEMBER", .month 9), ("SEPT", .month 9),
    ("OCTOBER", .month 10), ("NOVEMBER", .month 11), ("DECEMBER", .month 12), ("SUNDAY", .weekday 0),
    ("MONDAY", .weekday 1), ("TUESDAY", .weekday 2), ("TUES", .weekday 2), ("WEDNESDAY", .weekday 3),
    ("WEDNES", .weekday 3), ("THURSDAY", .weekday 4), ("THUR", .weekday 4), ("THURS", .weekday 4),
    ("FRIDAY", .weekday 5), ("SATURDAY", .weekday 6)]

def universalZones : List (String × Token) := [("GMT", .zone 0), ("UT", .zone 0), ("UTC", .zone 0)]

def zones : List (String × Token) :=
  ([("WET", 0), ("ART", -3), ("BRT", -3), ("AST", -4), ("CLT", -4), ("EST", -5), ("CST", -6), ("MST", -7),
    ("PST", -8), ("AKST", -9), ("HST", -10), ("HAST", -10), ("SST", -12), ("WAT", 1), ("CET", 1), ("MET", 1),
    ("MEZ", 1), ("EET", 2), ("CAT", 2), ("SAST", 2), ("EAT", 3), ("MSK", 3), ("SGT", 8), ("KST", 9), ("JST", 9),
    ("GST", 10), ("NZST", 12)].map fun e => (e.1, Token.zone (e.2 * 3600))) ++
  ([("WEST", 0), ("BST", 0), ("BRST", -3), ("ADT", -4), ("CLST", -4), ("EDT", -5), ("CDT", -6), ("MDT", -7),
    ("PDT", -8), ("AKDT", -9), ("HADT", -10), ("CEST", 1), ("MEST", 1), ("MESZ", 1), ("EEST", 2), ("MSD", 3),
    ("NZDT", 12)].map fun e => (e.1, Token.summerZone (e.2 * 3600))) ++
  [("NST", .zone (-12600)), ("NDT", .summerZone (-12600)), ("IST", .zone 19800)]

def measures : List (String × Token) :=
  [("YEAR", .measure .year), ("MONTH", .measure .month), ("FORTNIGHT", .measure (.days 14)),
    ("WEEK", .measure (.days 7)), ("DAY", .measure (.days 1)), ("HOUR", .measure .hour),
    ("MINUTE", .measure .minute), ("MIN", .measure .minute), ("SECOND", .measure .second),
    ("SEC", .measure .second)]

def differences : List (String × Token) :=
  [("TOMORROW", .shift 1), ("YESTERDAY", .shift (-1)), ("TODAY", .shift 0), ("NOW", .shift 0),
    ("LAST", .ordinal (-1)), ("THIS", .ordinal 0), ("NEXT", .ordinal 1), ("FIRST", .ordinal 1),
    ("THIRD", .ordinal 3), ("FOURTH", .ordinal 4), ("FIFTH", .ordinal 5), ("SIXTH", .ordinal 6),
    ("SEVENTH", .ordinal 7), ("EIGHTH", .ordinal 8), ("NINTH", .ordinal 9), ("TENTH", .ordinal 10),
    ("ELEVENTH", .ordinal 11), ("TWELFTH", .ordinal 12), ("AGO", .ago (-1)), ("HENCE", .ago 1)]

/-- A zone by one letter, eastwards from `A` and westwards from `N`. -/
def letterZone? (c : Char) : Option Token :=
  let n : Int := c.toNat
  if c = 'T' then some .between
  else if c = 'J' then some .here
  else if c = 'Z' then some (.zone 0)
  else if 'A' ≤ c && c ≤ 'I' then some (.zone ((n - 64) * 3600))
  else if 'K' ≤ c && c ≤ 'M' then some (.zone ((n - 65) * 3600))
  else if 'N' ≤ c && c ≤ 'Y' then some (.zone ((77 - n) * 3600))
  else none

/-- A zone by its name; those of the place come behind the universal ones. -/
def zone? (z : Zone) (word : String) : Option Token :=
  match universalZones.lookup word with
  | some t => some t
  | none =>
    if word = z.name then some (.localZone false)
    else if z.summer.any fun s => s.name = word then some (.localZone true)
    else zones.lookup word

def word (z : Zone) (text : String) : Token :=
  let upper := text.toUpper
  let cs := upper.toList
  let short := cs.length = 3 || (cs.length = 4 && cs.getLast? = some '.')
  let ofCalendar : Option Token :=
    if short then (calendarWords.find? fun e => (e.1.toList.take 3) = cs.take 3).map Prod.snd
    else calendarWords.lookup upper
  let single : Option Token :=
    if cs.getLast? = some 'S' then measures.lookup (String.ofList cs.dropLast) else none
  let ofLetter : Option Token := match cs with
    | [c] => letterZone? c
    | _ => none
  let bare := cs.filter (· ≠ '.')
  let withoutPoints : Option Token :=
    if bare.length < cs.length then zone? z (String.ofList bare) else none
  let choices : List (Option Token) :=
    [halves.lookup upper, ofCalendar, zone? z upper, if upper = "DST" then some .summer else none,
      measures.lookup upper, single, differences.lookup upper, ofLetter, withoutPoints]
  (choices.findSome? id).getD .unknown

/-! ### Reading tokens -/

def isSpace (c : Char) : Bool := c = ' ' || ('\t' ≤ c && c ≤ '\r')

def isLetter (c : Char) : Bool := ('a' ≤ c && c ≤ 'z') || ('A' ≤ c && c ≤ 'Z')

def natural (ds : List Char) : Nat := ds.foldl (fun n d => n * 10 + (d.toNat - '0'.toNat)) 0

/-- The number behind a sign, if there is one. A negative one with a point counts its parts of a
second forwards. -/
def readNumber (sign : Option Bool) (cs : List Char) : Token × List Char :=
  let ds := cs.takeWhile Char.isDigit
  let rest := cs.drop ds.length
  let n := natural ds
  let negative := sign = some true
  if (if negative then Nat.pow 2 63 else Nat.pow 2 63 - 1) < n then (.unknown, []) else
  let pointed : Option (List Char) := match rest with
    | p :: d :: more => if (p = '.' || p = ',') && d.isDigit then some (d :: more) else none
    | _ => none
  match pointed with
  | some behind =>
    let part := behind.takeWhile Char.isDigit
    let nanos := natural ((part ++ List.replicate (9 - part.length) '0').take 9)
    let lost := (part.drop 9).any (· ≠ '0')
    let nanos := if negative && lost then nanos + 1 else nanos
    let m : Moment := if negative then Moment.ofTotal (-(n * Moment.billion + nanos : Nat))
      else { seconds := n, nanos }
    (if sign.isSome then .signedPoint m else .plainPoint m, behind.drop part.length)
  | none =>
    (match sign with
      | some negative => .signed negative n ds.length
      | none => .plain n ds.length, rest)

/-- What follows a comment in parentheses; nothing if it does not end. -/
def skipComment : (depth : Nat) → List Char → Option (List Char)
  | _, [] => none
  | depth, '(' :: cs => skipComment (depth + 1) cs
  | 0, ')' :: cs => some cs
  | 1, ')' :: cs => some cs
  | depth + 1, ')' :: cs => skipComment depth cs
  | depth, _ :: cs => skipComment depth cs

/-- The tokens of a text. Signs that no number follows count for nothing. -/
def tokens (z : Zone) : (steps : Nat) → List Char → List Token
  | 0, _ => []
  | _, [] => []
  | steps + 1, c :: cs =>
    if c = '\x00' then []
    else if isSpace c then tokens z steps cs
    else if c.isDigit then
      let (t, rest) := readNumber none (c :: cs)
      t :: tokens z steps rest
    else if c = '-' || c = '+' then
      let behind := cs.dropWhile isSpace
      if behind.head?.any Char.isDigit then
        let (t, rest) := readNumber (some (c = '-')) behind
        t :: tokens z steps rest
      else tokens z steps behind
    else if isLetter c then
      let letters := (c :: cs).takeWhile fun c => isLetter c || c = '.'
      word z (String.ofList (letters.take 19)) :: tokens z steps ((c :: cs).drop letters.length)
    else if c = '(' then
      match skipComment 1 cs with
      | some rest => tokens z steps rest
      | none => []
    else .mark c :: tokens z steps cs

/-! ### Reading items -/

structure Told where
  year : Int
  /-- How many figures the year has, if it was told. -/
  yearFigures : Nat := 0
  month : Int
  day : Int
  hour : Int
  minute : Int
  second : Moment
  /-- Whether the hour is one after noon, if it is one of twelve. -/
  afternoon : Option Bool := none
  zone : Int := 0
  weekday : Int := 0
  ordinal : Int := 0
  localSummer : Bool := false
  years : Int := 0
  months : Int := 0
  days : Int := 0
  hours : Int := 0
  minutes : Int := 0
  /-- The difference in nanoseconds. -/
  nanos : Int := 0
  differs : Bool := false
  datesTold : Nat := 0
  daysTold : Nat := 0
  timesTold : Nat := 0
  zonesTold : Nat := 0
  localZonesTold : Nat := 0

namespace Told

def date (t : Told) (year : Option (Int × Nat)) (month day : Int) : Told :=
  { t with
    year := (year.map Prod.fst).getD t.year, yearFigures := (year.map Prod.snd).getD t.yearFigures
    month, day, datesTold := t.datesTold + 1 }

def time (t : Told) (hour minute : Int) (second : Moment) (afternoon : Option Bool) : Told :=
  { t with hour, minute, second, afternoon, timesTold := t.timesTold + 1 }

def difference (t : Told) (count : Moment) (unit : Measure) (sign : Int := 1) : Told :=
  let n := sign * count.seconds
  let t := { t with differs := true }
  match unit with
  | .year => { t with years := t.years + n }
  | .month => { t with months := t.months + n }
  | .days k => { t with days := t.days + n * k }
  | .hour => { t with hours := t.hours + n }
  | .minute => { t with minutes := t.minutes + n }
  | .second => { t with nanos := t.nanos + sign * count.total }

/-- A number by itself: a year behind a date, a date if it is long, and a time otherwise. -/
def figures (t : Told) (value figures : Nat) : Told :=
  if 0 < t.datesTold && t.yearFigures = 0 && !t.differs && (0 < t.timesTold || 2 < figures) then
    { t with year := value, yearFigures := figures }
  else if 4 < figures then
    t.date (some ((value / 10000 : Nat), figures - 4)) (value / 100 % 100 : Nat) (value % 100 : Nat)
  else if figures ≤ 2 then t.time value 0 ⟨0, 0⟩ none
  else t.time (value / 100 : Nat) (value % 100 : Nat) ⟨0, 0⟩ none

end Told

def signedValue (negative : Bool) (n : Nat) : Int := if negative then -n else n

/-- The seconds that figures behind a sign tell as a zone: hours, or hours and minutes. -/
def zoneSeconds? (negative : Bool) (n figures : Nat) (minutes : Option Nat) : Option Int :=
  let m : Nat := match minutes with
    | some m => n * 60 + m
    | none => if figures ≤ 2 then n * 60 else n / 100 * 60 + n % 100
  if m ≤ 24 * 60 then some (signedValue negative (m * 60)) else none

def zoneOffset? : List Token → Option (Int × List Token)
  | .signed negative n figures :: .mark ':' :: .plain m _ :: rest =>
    (zoneSeconds? negative n figures (some m)).map fun z => (z, rest)
  | .signed _ _ _ :: .mark ':' :: _ => none
  | .signed negative n figures :: rest => (zoneSeconds? negative n figures none).map fun z => (z, rest)
  | _ => none

def startsSigned : List Token → Bool
  | .signed _ _ _ :: _ => true
  | _ => false

def zoned (t : Told) (rest : List Token) : Option (Told × List Token) :=
  if startsSigned rest then
    (zoneOffset? rest).map fun (z, rest) => ({ t with zone := z, zonesTold := t.zonesTold + 1 }, rest)
  else some (t, rest)

/-- A time behind its hour. Without `halves` no half of a day may follow. -/
def clock (t : Told) (halves : Bool) (hour : Int) : List Token → Option (Told × List Token)
  | .mark ':' :: .plain minute _ :: .mark ':' :: .plain second _ :: rest =>
    finish minute { seconds := second } rest
  | .mark ':' :: .plain minute _ :: .mark ':' :: .plainPoint second :: rest => finish minute second rest
  | .mark ':' :: .plain _ _ :: .mark ':' :: _ => none
  | .mark ':' :: .plain minute _ :: rest => finish minute ⟨0, 0⟩ rest
  | .mark ':' :: _ => none
  | rest => if startsSigned rest then zoned (t.time hour 0 ⟨0, 0⟩ none) rest else none
where
  finish (minute : Int) (second : Moment) : List Token → Option (Told × List Token)
    | .half afternoon :: rest =>
      if halves then some (t.time hour minute second (some afternoon), rest) else none
    | rest => zoned (t.time hour minute second none) rest

def turned (t : Told) (count : Moment) (unit : Measure) : List Token → Told × List Token
  | .ago sign :: rest => (t.difference count unit sign, rest)
  | rest => (t.difference count unit, rest)

def numbered (t : Told) (n figures : Nat) : List Token → Option (Told × List Token)
  | .half afternoon :: rest => some (t.time n 0 ⟨0, 0⟩ (some afternoon), rest)
  | .mark ':' :: rest => clock t true n (.mark ':' :: rest)
  | .signed before month _ :: .signed between day _ :: rest =>
    let dated := t.date (some ((n : Int), figures)) (-(signedValue before month)) (-(signedValue between day))
    match rest with
    | .between :: .plain hour _ :: rest => clock dated false hour rest
    | .between :: _ => none
    | rest => some (dated, rest)
  | .signed negative k _ :: .measure unit :: rest =>
    some ((t.figures n figures).difference { seconds := signedValue negative k } unit, rest)
  | .signed negative k ds :: rest => clock t true n (.signed negative k ds :: rest)
  | .mark '/' :: .plain b _ :: .mark '/' :: .plain c cs :: rest =>
    some (if 4 ≤ figures then t.date (some ((n : Int), figures)) b c else t.date (some ((c : Int), cs)) n b, rest)
  | .mark '/' :: .plain _ _ :: .mark '/' :: _ => none
  | .mark '/' :: .plain b _ :: rest => some (t.date none n b, rest)
  | .mark '/' :: _ => none
  | .month m :: .signed negative year ds :: rest =>
    some (t.date (some (-(signedValue negative year), ds)) m n, rest)
  | .month m :: .plain year ds :: rest => some (t.date (some ((year : Int), ds)) m n, rest)
  | .month m :: rest => some (t.date none m n, rest)
  | .weekday d :: rest => some ({ t with ordinal := n, weekday := d, daysTold := t.daysTold + 1 }, rest)
  | .measure unit :: rest => some (turned t { seconds := n } unit rest)
  | rest => some (t.figures n figures, rest)

/-- An item behind a zone: a difference, or figures that add to it. -/
def behindZone (t : Told) (offset : Int) (adds : Bool) : List Token → Option (Told × List Token)
  | .signed negative k _ :: .measure unit :: rest =>
    some ({ t with zone := offset }.difference { seconds := signedValue negative k } unit, rest)
  | .signed negative k ds :: rest =>
    if !adds then none else
    (zoneOffset? (.signed negative k ds :: rest)).map fun (z, rest) => ({ t with zone := z + offset }, rest)
  | .summer :: rest => if adds then some ({ t with zone := offset + 3600 }, rest) else none
  | rest => some ({ t with zone := offset }, rest)

def item (t : Told) : List Token → Option (Told × List Token)
  | .plain n figures :: rest => numbered t n figures rest
  | .plainPoint m :: .measure .second :: rest => some (turned t m .second rest)
  | .signedPoint m :: .measure .second :: rest => some (turned t m .second rest)
  | .signed negative n _ :: .measure unit :: rest => some (turned t { seconds := signedValue negative n } unit rest)
  | .month m :: .signed before day _ :: .signed negative year ds :: rest =>
    some (t.date (some (-(signedValue negative year), ds)) m (-(signedValue before day)), rest)
  | .month m :: .plain day _ :: .mark ',' :: .plain year ds :: rest =>
    some (t.date (some ((year : Int), ds)) m day, rest)
  | .month _ :: .plain _ _ :: .mark ',' :: _ => none
  | .month m :: .plain day _ :: rest => some (t.date none m day, rest)
  | .weekday d :: rest =>
    some ({ t with ordinal := 0, weekday := d, daysTold := t.daysTold + 1 }, match rest with
      | .mark ',' :: rest => rest
      | rest => rest)
  | .ordinal n :: .weekday d :: rest =>
    some ({ t with ordinal := n, weekday := d, daysTold := t.daysTold + 1 }, rest)
  | .ordinal n :: .measure unit :: rest => some (turned t { seconds := n } unit rest)
  | .measure unit :: rest => some (turned t { seconds := 1 } unit rest)
  | .shift days :: rest => some (t.difference { seconds := days } (.days 1), rest)
  | .zone offset :: rest => behindZone { t with zonesTold := t.zonesTold + 1 } offset true rest
  | .between :: rest => behindZone { t with zonesTold := t.zonesTold + 1 } (-25200) false rest
  | .here :: rest => some (t, rest)
  | .summerZone offset :: rest => some ({ t with zone := offset + 3600, zonesTold := t.zonesTold + 1 }, rest)
  | .localZone summer :: rest =>
    let (summer, rest) : Bool × List Token := match rest with
      | .summer :: rest => (true, rest)
      | rest => (summer, rest)
    some ({ t with localSummer := summer, localZonesTold := t.localZonesTold + 1 }, rest)
  | _ => none

def items : (steps : Nat) → Told → List Token → Option Told
  | _, t, [] => some t
  | 0, _, _ => none
  | steps + 1, t, ts => do
    let (t, rest) ← item t ts
    items steps t rest

/-! ### The time that is meant -/

def Told.hourOfDay? (t : Told) : Option Int := match t.afternoon with
  | none => if 0 ≤ t.hour && t.hour < 24 then some t.hour else none
  | some afternoon =>
    if t.hour < 1 || 12 < t.hour then none
    else some (t.hour % 12 + if afternoon then 12 else 0)

/-- A year of two figures lies in this century or the last one. -/
def Told.fullYear (t : Told) : Int :=
  if t.yearFigures = 2 && 0 ≤ t.year then t.year + (if t.year < 69 then 2000 else 1900) else t.year

def maximalYear : Int := 2147485547

def meant? (z : Zone) (t : Told) : Option Moment := do
  if 1 < t.timesTold || 1 < t.datesTold || 1 < t.daysTold || 1 < t.localZonesTold + t.zonesTold then failure
  let year := t.fullYear
  if maximalYear < year || year < -maximalYear then failure
  let timed := 0 < t.timesTold || (t.differs && t.datesTold = 0 && t.daysTold = 0)
  let hour ← if timed then t.hourOfDay? else some 0
  let f : Fields :=
    { year, month := t.month, day := t.day, hour
      minute := if timed then t.minute else 0, second := if timed then t.second.seconds else 0 }
  let nanos := if timed then t.second.nanos else 0
  let summer : Option Bool := if 0 < t.localZonesTold then some t.localSummer else none
  let start := z.seconds f summer
  if (z.localTime { seconds := start }).fields ≠ f then failure
  let dated : Fields :=
    if 0 < t.daysTold && t.datesTold = 0 then
      let weeks := t.ordinal - (if 0 < t.ordinal && f.weekday ≠ t.weekday then 1 else 0)
      { f with day := f.day + (t.weekday - f.weekday) % 7 + weeks * 7 }
    else f
  let moved : Fields :=
    { dated with year := dated.year + t.years, month := dated.month + t.months, day := dated.day + t.days }
  let t0 := if moved = f then start else z.seconds moved summer
  let t1 := if 0 < t.zonesTold then t0 + (z.difference t0).1 - t.zone else t0
  let total := (t1 + t.hours * 3600 + t.minutes * 60) * Moment.billion + nanos + t.nanos
  let m := Moment.ofTotal total
  if m.seconds < -(Nat.pow 2 63) || Nat.pow 2 63 ≤ m.seconds then failure
  return m

/-- The zone that a phrase names at its front between quotation marks, and what follows. -/
def ownZone? : List Char → Option (String × List Char)
  | 'T' :: 'Z' :: '=' :: '"' :: cs => go [] cs
  | _ => none
where
  go (name : List Char) : List Char → Option (String × List Char)
    | '\\' :: c :: cs => if c = '\\' || c = '"' then go (c :: name) cs else none
    | '"' :: cs => some (String.ofList name.reverse, cs.dropWhile isSpace)
    | c :: cs => go (c :: name) cs
    | [] => none

def read? (z : Zone) (now : Moment) (text : String) : Option Moment :=
  let cs := text.toList.dropWhile isSpace
  let (z, cs) := match ownZone? cs with
    | some (name, rest) => (Zone.ofSetting name, rest)
    | none => (z, cs)
  let cs := if cs.isEmpty then ['0'] else cs
  let f := (z.localTime now).fields
  let started : Told :=
    { year := f.year, month := f.month, day := f.day, hour := f.hour, minute := f.minute
      second := { seconds := f.second, nanos := now.nanos } }
  match tokens z (cs.length + 1) cs with
  | .mark '@' :: .plain n _ :: [] => some { seconds := n }
  | .mark '@' :: .signed negative n _ :: [] => some { seconds := signedValue negative n }
  | .mark '@' :: .plainPoint m :: [] => some m
  | .mark '@' :: .signedPoint m :: [] => some m
  | .mark '@' :: _ => none
  | ts => (items ts.length started ts).bind (meant? z)

end DeltaDebugging.Time.Phrase
