/-!
# Local time

A zone has a name and a difference to universal time, and perhaps other ones in summer. Its text
is a name and an offset, counted westwards, then the same for the summer and the days on which
summer begins and ends.
-/
namespace DeltaDebugging.Time

/-!
## Days and seconds

Days are counted from the first of January 1970, in the Gregorian calendar, which is taken to
hold always. A year is counted from March on, so that the day that is left out is its last one;
400 years are 146097 days. Seconds are counted without leap seconds.
-/

/-- The number of a day. Months and days past their ends run on into the next ones. -/
def dayNumber (year month day : Int) : Int :=
  let months := year * 12 + (month - 1)
  let fromMarch := months - 2
  let y := fromMarch / 12
  let m := fromMarch % 12
  let ofEra := y % 400
  let ofYear := (153 * m + 2) / 5 + day - 1
  y / 400 * 146097 + ofEra * 365 + ofEra / 4 - ofEra / 100 + ofYear - 719468

structure Fields where
  year : Int
  month : Int
  day : Int
  hour : Int
  minute : Int
  second : Int
  deriving DecidableEq, Repr

namespace Fields

/-- Seconds since the start of 1970, for one whose clock shows no difference to that. -/
def seconds (f : Fields) : Int :=
  dayNumber f.year f.month f.day * 86400 + f.hour * 3600 + f.minute * 60 + f.second

def ofSeconds (t : Int) : Fields :=
  let days := t / 86400
  let z := days + 719468
  let ofEra := z % 146097
  let y := (ofEra - ofEra / 1460 + ofEra / 36524 - ofEra / 146096) / 365
  let ofYear := ofEra - (365 * y + y / 4 - y / 100)
  let m := (5 * ofYear + 2) / 153
  let month := if m < 10 then m + 3 else m - 9
  { year := y + z / 146097 * 400 + (if month ≤ 2 then 1 else 0)
    month
    day := ofYear - (153 * m + 2) / 5 + 1
    hour := t % 86400 / 3600
    minute := t % 3600 / 60
    second := t % 60 }

def weekday (f : Fields) : Int := (dayNumber f.year f.month f.day + 4) % 7

def yearDay (f : Fields) : Int := dayNumber f.year f.month f.day - dayNumber f.year 1 1

/-- The week of the year in which most of this week lies, and that year. Weeks begin on Monday. -/
def week (f : Fields) : Int × Int :=
  let day := dayNumber f.year f.month f.day
  let thursday := day - (f.weekday + 6) % 7 + 3
  let year := (ofSeconds (thursday * 86400)).year
  (year, (thursday - dayNumber year 1 1) / 7 + 1)

end Fields

/-- A point of time, by seconds since the start of 1970 and nanoseconds. -/
structure Moment where
  seconds : Int
  nanos : Nat := 0
  deriving DecidableEq, Repr

namespace Moment

def billion : Nat := 1000000000

/-- Nanoseconds since the start of 1970. -/
def total (m : Moment) : Int := m.seconds * billion + m.nanos

def ofTotal (n : Int) : Moment := { seconds := n / billion, nanos := (n % billion).toNat }

end Moment

/-! ## Zones -/

inductive Yearly where
  /-- A day of the year from 1 on, where the 29th of February is not counted. -/
  | julian (day : Int)
  /-- A day of the year from 0 on. -/
  | ordinal (day : Int)
  /-- A day of the week in some week of a month; the fifth week is the last one. -/
  | weekly (month week weekday : Int)
  deriving DecidableEq, Repr

def Yearly.dayIn (year : Int) : Yearly → Int
  | julian day => dayNumber year (if day ≤ 59 then 1 else 3) (if day ≤ 59 then day else day - 59)
  | ordinal day => dayNumber year 1 1 + day
  | weekly month week weekday =>
    let first := dayNumber year month 1
    let earliest := first + (weekday - (first + 4)) % 7
    let day := earliest + 7 * (week - 1)
    if day < dayNumber year (month + 1) 1 then day else day - 7

structure Summer where
  name : String
  /-- Seconds east of universal time. -/
  offset : Int
  first : Yearly
  /-- The second of the first day, by the clock before. -/
  firstTime : Int
  last : Yearly
  lastTime : Int
  deriving DecidableEq, Repr

structure Zone where
  name : String
  /-- Seconds east of universal time. -/
  offset : Int
  summer : Option Summer := none
  deriving DecidableEq, Repr

structure Local where
  fields : Fields
  moment : Moment
  zone : String
  offset : Int
  inSummer : Bool
  deriving DecidableEq, Repr

namespace Zone

def universal : Zone := { name := "UTC", offset := 0 }

def inSummer (z : Zone) (t : Int) : Bool := match z.summer with
  | none => false
  | some s =>
    let year := (Fields.ofSeconds (t + z.offset)).year
    let start := s.first.dayIn year * 86400 + s.firstTime - z.offset
    let stop := s.last.dayIn year * 86400 + s.lastTime - s.offset
    if start < stop then start ≤ t && t < stop else t < stop || start ≤ t

def difference (z : Zone) (t : Int) : Int × String := match z.summer with
  | none => (z.offset, z.name)
  | some s => if z.inSummer t then (s.offset, s.name) else (z.offset, z.name)

def localTime (z : Zone) (m : Moment) : Local :=
  let (offset, zone) := z.difference m.seconds
  { fields := Fields.ofSeconds (m.seconds + offset), moment := m, zone, offset, inSummer := z.inSummer m.seconds }

/-- The time that the clock of a zone tells. Where it tells a time twice, or not at all, `summer`
chooses between the clocks of summer and winter if it is given. -/
def seconds (z : Zone) (f : Fields) (summer : Option Bool := none) : Int :=
  match z.summer with
  | none => f.seconds - z.offset
  | some s =>
    let ofWinter := f.seconds - z.offset
    let ofSummer := f.seconds - s.offset
    match summer with
    | some true => ofSummer
    | some false => ofWinter
    | none => if z.inSummer ofSummer then ofSummer else ofWinter

/-! ### The text of a zone -/

def isNameLetter (c : Char) : Bool := ('a' ≤ c && c ≤ 'z') || ('A' ≤ c && c ≤ 'Z')

/-- The name at the front: letters, or what stands in angle brackets. -/
def readName? (cs : List Char) : Option (String × List Char) :=
  let letters := cs.takeWhile isNameLetter
  if 3 ≤ letters.length then some (String.ofList letters, cs.drop letters.length) else
  match cs with
  | '<' :: cs =>
    let name := cs.takeWhile fun c => isNameLetter c || c.isDigit || c = '+' || c = '-'
    if 3 ≤ name.length && (cs.drop name.length).head? = some '>' then
      some (String.ofList name, cs.drop (name.length + 1))
    else none
  | _ => none

def number (cs : List Char) : Int × List Char :=
  let ds := cs.takeWhile Char.isDigit
  (ds.foldl (fun n d => n * 10 + (d.toNat - '0'.toNat)) 0, cs.drop ds.length)

/-- Hours, minutes and seconds with colons between them, as seconds. -/
def readTime? (most : Int) (cs : List Char) : Option (Int × List Char) :=
  let (negative, cs) : Bool × List Char := match cs with
    | '+' :: cs => (false, cs)
    | '-' :: cs => (true, cs)
    | _ => (false, cs)
  if !(cs.head?.any Char.isDigit) then none else
  let (hours, cs) := number cs
  let part (cs : List Char) : Int × List Char := match cs with
    | ':' :: d :: rest => if d.isDigit then number (d :: rest) else (0, cs)
    | _ => (0, cs)
  let (minutes, cs) := part cs
  let (seconds, cs) := part cs
  let n := min hours most * 3600 + min minutes 59 * 60 + min seconds 59
  some (if negative then -n else n, cs)

def readYearly? (cs : List Char) : Option (Yearly × Int × List Char) :=
  let time (cs : List Char) : Option (Int × List Char) := match cs with
    | '/' :: cs => readTime? 167 cs
    | _ => some (7200, cs)
  match cs with
  | ',' :: 'J' :: cs =>
    let (n, rest) := number cs
    if n < 1 || 365 < n then none else (time rest).map fun t => (.julian n, t)
  | ',' :: 'M' :: cs =>
    let (month, cs) := number cs
    let (week, cs) := number (cs.drop 1)
    let (weekday, cs) := number (cs.drop 1)
    if month < 1 || 12 < month || week < 1 || 5 < week || 6 < weekday then none
    else (time cs).map fun t => (.weekly month week weekday, t)
  | ',' :: c :: cs =>
    if !c.isDigit then none else
    let (n, rest) := number (c :: cs)
    if 365 < n then none else (time rest).map fun t => (.ordinal n, t)
  | _ => none

/-- The zone that a text describes. A text that does not is a zone like universal time, under the
name that it begins with. -/
def ofRule (text : String) : Zone :=
  match readName? text.toList with
  | none => { name := "", offset := 0 }
  | some (name, cs) => match readTime? 24 cs with
    | none => { name, offset := 0 }
    | some (west, cs) =>
      let z : Zone := { name, offset := -west }
      match readName? cs with
      | none => z
      | some (name, cs) =>
        let (offset, cs) := match readTime? 24 cs with
          | some (west, cs) => (-west, cs)
          | none => (z.offset + 3600, cs)
        let usual : Summer :=
          { name, offset, first := .weekly 3 2 0, firstTime := 7200, last := .weekly 11 1 0, lastTime := 7200 }
        let given : Option Summer := do
          let (first, firstTime, cs) ← readYearly? cs
          let (last, lastTime, _) ← readYearly? cs
          return { usual with first, firstTime, last, lastTime }
        { z with summer := some (given.getD usual) }

def known : List (String × String) :=
  [("UTC0", "UTC Etc/UTC Etc/UCT Etc/Zulu Etc/Universal Zulu UCT Universal"),
    ("GMT0", "GMT GMT0 Etc/GMT Etc/GMT0 Etc/GMT+0 Etc/GMT-0 GMT+0 GMT-0 Greenwich Etc/Greenwich " ++
      "Atlantic/Reykjavik Africa/Accra Africa/Abidjan Africa/Dakar"),
    ("EST5EDT,M3.2.0,M11.1.0", "EST5EDT America/New_York America/Toronto America/Detroit US/Eastern Canada/Eastern"),
    ("CST6CDT,M3.2.0,M11.1.0", "CST6CDT America/Chicago America/Winnipeg US/Central Canada/Central"),
    ("MST7MDT,M3.2.0,M11.1.0", "MST7MDT America/Denver America/Edmonton America/Boise US/Mountain Canada/Mountain"),
    ("PST8PDT,M3.2.0,M11.1.0", "PST8PDT America/Los_Angeles America/Vancouver America/Tijuana US/Pacific Canada/Pacific"),
    ("AKST9AKDT,M3.2.0,M11.1.0", "America/Anchorage US/Alaska"),
    ("AST4ADT,M3.2.0,M11.1.0", "America/Halifax Atlantic/Bermuda Canada/Atlantic"),
    ("NST3:30NDT,M3.2.0,M11.1.0", "America/St_Johns Canada/Newfoundland"),
    ("EST5", "EST America/Panama America/Jamaica America/Cancun"), ("MST7", "MST America/Phoenix US/Arizona"),
    ("HST10", "HST Pacific/Honolulu US/Hawaii"), ("CST6", "America/Mexico_City America/Costa_Rica America/Guatemala"),
    ("AST4", "America/Puerto_Rico"), ("<-05>5", "America/Bogota America/Lima America/Guayaquil"),
    ("<-04>4", "America/Caracas America/La_Paz America/Manaus"),
    ("<-04>4<-03>,M9.1.6/24,M4.1.6/24", "America/Santiago"),
    ("<-03>3", "America/Sao_Paulo America/Argentina/Buenos_Aires America/Buenos_Aires America/Montevideo"),
    ("<-01>1<+00>,M3.5.0/0,M10.5.0/1", "Atlantic/Azores"),
    ("GMT0BST,M3.5.0/1,M10.5.0", "Europe/London GB Europe/Belfast"), ("GMT0IST,M3.5.0/1,M10.5.0", "Europe/Dublin Eire"),
    ("WET0WEST,M3.5.0/1,M10.5.0", "WET Europe/Lisbon Portugal"),
    ("CET-1CEST,M3.5.0,M10.5.0/3", "CET Europe/Amsterdam Europe/Berlin Europe/Brussels Europe/Budapest " ++
      "Europe/Copenhagen Europe/Luxembourg Europe/Madrid Europe/Oslo Europe/Paris Europe/Prague Europe/Rome " ++
      "Europe/Stockholm Europe/Vienna Europe/Warsaw Europe/Zurich Europe/Zagreb Europe/Belgrade Poland"),
    ("MET-1MEST,M3.5.0,M10.5.0/3", "MET"),
    ("EET-2EEST,M3.5.0/3,M10.5.0/4", "EET Europe/Athens Europe/Bucharest Europe/Helsinki Europe/Kiev Europe/Kyiv " ++
      "Europe/Riga Europe/Sofia Europe/Tallinn Europe/Vilnius"),
    ("MSK-3", "Europe/Moscow W-SU"), ("<+03>-3", "Europe/Istanbul Turkey Europe/Minsk Asia/Baghdad Asia/Riyadh"),
    ("CET-1", "Africa/Algiers Africa/Tunis"), ("WAT-1", "Africa/Lagos"), ("CAT-2", "Africa/Maputo Africa/Harare"),
    ("EAT-3", "Africa/Nairobi"), ("SAST-2", "Africa/Johannesburg"), ("IST-2IDT,M3.4.4/26,M10.5.0", "Asia/Jerusalem Israel"),
    ("<+0330>-3:30", "Asia/Tehran Iran"), ("<+04>-4", "Asia/Dubai Asia/Baku"), ("<+0430>-4:30", "Asia/Kabul"),
    ("PKT-5", "Asia/Karachi"), ("<+05>-5", "Asia/Tashkent"), ("IST-5:30", "Asia/Kolkata Asia/Calcutta"),
    ("<+0545>-5:45", "Asia/Kathmandu Asia/Katmandu"), ("<+06>-6", "Asia/Dhaka"), ("<+0630>-6:30", "Asia/Yangon"),
    ("<+07>-7", "Asia/Bangkok Asia/Ho_Chi_Minh Asia/Saigon"), ("WIB-7", "Asia/Jakarta"),
    ("CST-8", "Asia/Shanghai Asia/Taipei PRC ROC"), ("HKT-8", "Asia/Hong_Kong Hongkong"),
    ("<+08>-8", "Asia/Singapore Singapore"), ("PST-8", "Asia/Manila"), ("JST-9", "Asia/Tokyo Japan"),
    ("KST-9", "Asia/Seoul ROK"), ("AWST-8", "Australia/Perth"), ("ACST-9:30", "Australia/Darwin"),
    ("ACST-9:30ACDT,M10.1.0,M4.1.0/3", "Australia/Adelaide"), ("AEST-10", "Australia/Brisbane"),
    ("AEST-10AEDT,M10.1.0,M4.1.0/3", "Australia/Hobart Australia/Melbourne Australia/Sydney"),
    ("<+1030>-10:30<+11>-11,M10.1.0,M4.1.0", "Australia/Lord_Howe"),
    ("NZST-12NZDT,M9.5.0,M4.1.0/3", "Pacific/Auckland NZ"), ("<+12>-12", "Pacific/Fiji"),
    ("<+1245>-12:45<+1345>,M9.5.0/2:45,M4.1.0/3:45", "Pacific/Chatham"), ("<+13>-13", "Pacific/Apia Pacific/Tongatapu"),
    ("<+14>-14", "Pacific/Kiritimati")]

def ofOffset? (name : String) : Option Zone :=
  match name.toList with
  | 'E' :: 't' :: 'c' :: '/' :: 'G' :: 'M' :: 'T' :: sign :: ds =>
    let n := (number ds).1
    if (sign = '+' || sign = '-') && !ds.isEmpty && ds.all Char.isDigit && 1 ≤ n &&
        n ≤ (if sign = '+' then 12 else 14) then
      let two := (if n < 10 then "0" else "") ++ toString n
      some { name := (if sign = '+' then "-" else "+") ++ two, offset := if sign = '+' then -n * 3600 else n * 3600 }
    else none
  | _ => none

def ofSetting (text : String) : Zone :=
  let bare := match text.toList with
    | ':' :: cs => String.ofList cs
    | _ => text
  if bare.isEmpty then universal else
  match known.find? fun e => (e.2.splitOn " ").contains bare with
  | some e => ofRule e.1
  | none => (ofOffset? bare).getD (ofRule bare)

end Zone

end DeltaDebugging.Time
