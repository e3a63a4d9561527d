import DeltaDebugging.Time.Pattern
import DeltaDebugging.Time.Phrase
import DeltaDebugging.Utility.Filing

/-!
# Dates

Telling a time as a pattern wants it, and giving files times.
-/
namespace DeltaDebugging.Utility

open Program

namespace Dates

/-- The zone of whoever runs a program with such an environment. -/
def zoneIn (environment : List (String × String)) : Time.Zone :=
  match environment.lookup "TZ" with
  | some setting => Time.Zone.ofSetting setting
  | none => Time.Zone.universal

def zone : Program Time.Zone := return zoneIn (← invocation).environment

def now : Program Time.Moment := return (← system).now

/-- The time when a file was changed last. -/
def changeTime (node : FileNode) : Time.Moment := Time.Moment.ofTotal (systemStart + node.changed)

def patternOf (o : Given) : Program (Option String) := do
  match o.key with
  | "R" => return some "%a, %d %b %Y %H:%M:%S %z"
  | "rfc-3339" =>
    let k ← wordChoice "rfc-3339" o.value [["date"], ["seconds"], ["ns"]]
    return ["%Y-%m-%d", "%Y-%m-%d %H:%M:%S%:z", "%Y-%m-%d %H:%M:%S.%N%:z"][k]?
  | "I" =>
    let k ← if o.value.isEmpty then pure 2
      else wordChoice "iso-8601" o.value [["hours"], ["minutes"], ["date"], ["seconds"], ["ns"]]
    return ["%Y-%m-%dT%H%:z", "%Y-%m-%dT%H:%M%:z", "%Y-%m-%d", "%Y-%m-%dT%H:%M:%S%:z",
      "%Y-%m-%dT%H:%M:%S,%N%:z"][k]?
  | _ => return none

inductive YearPlace where
  | first
  | last
  deriving DecidableEq

/-- A time of pairs of figures: month, day, hour and minute, with a year of two or four figures
before or behind them, and seconds behind a point. -/
def ofFigures? (z : Time.Zone) (now : Time.Moment) (place : YearPlace) (text : String) : Option Time.Moment := do
  let whole := text.toList
  let ds := whole.takeWhile (· ≠ '.')
  let behind := whole.drop (ds.length + 1)
  if ds.length ≠ 8 && ds.length ≠ 10 && ds.length ≠ 12 then failure
  if ds.length < whole.length && behind.length ≠ 2 then failure
  if !(ds.all Char.isDigit && behind.all Char.isDigit) then failure
  let number (cs : List Char) : Int := Time.Phrase.natural cs
  let (years, rest) := match place with
    | .first => (ds.take (ds.length - 8), ds.drop (ds.length - 8))
    | .last => (ds.drop 8, ds.take 8)
  let part (k : Nat) : Int := number ((rest.drop (2 * k)).take 2)
  let year : Int := if years.isEmpty then (z.localTime now).fields.year
    else if years.length = 4 then number years
    else number years + if number years ≤ 68 then 2000 else 1900
  let f : Time.Fields :=
    { year, month := part 0, day := part 1, hour := part 2, minute := part 3, second := number behind }
  let sixty := decide (f.second = 60)
  let f := if sixty then { f with second := 59 } else f
  let t := z.seconds f
  if (z.localTime { seconds := t }).fields ≠ f then failure
  return { seconds := if sixty then t + 1 else t }

end Dates

open Dates in
def date : Program Nat := do
  let p ← parsed
    { choices := ["d,date:", "debug", "f,file:", "I,iso-8601::", "r,reference:",
        "R,rfc-email,rfc-822,rfc-2822", "rfc-3339:", "s,set:", "u,utc,uct,universal"] }
  let mut pattern : Option String := none
  for o in p.options do
    match ← patternOf o with
    | none => pure ()
    | some found =>
      if pattern.isSome then die "multiple output formats specified" 1
      pattern := some found
  let told := ["d", "f", "r"].filter p.has
  if 1 < told.length then misuse "the options to specify dates for printing are mutually exclusive" 1
  if p.has "s" && !told.isEmpty then
    misuse "the options to print and set the time may not be used together" 1
  let chosen := !told.isEmpty || p.has "s"
  match p.operands with
  | _ :: extra :: _ => misuse ("extra operand " ++ Text.literalQuote extra) 1
  | [a] =>
    if a.toList.head? = some '+' then
      if pattern.isSome then die "multiple output formats specified" 1
      pattern := some (String.ofList a.toList.tail)
    else if chosen then
      misuse ("the argument " ++ Text.literalQuote a ++ " lacks a leading '+';\n" ++
        "when using an option to specify date(s), any non-option\n" ++
        "argument must be a format string beginning with '+'") 1
  | [] => pure ()
  let shape := pattern.getD "%a %b %e %H:%M:%S %Z %Y"
  let z ← if p.has "u" then pure (Time.Zone.ofSetting "UTC0") else zone
  let present ← now
  let tell (m : Time.Moment) : Program Unit := putLine (Time.Pattern.render (z.localTime m) shape)
  let refuse (text : String) : Program Nat := die ("invalid date " ++ Text.literalQuote text) 1
  let setTo (m : Option Time.Moment) (text : String) : Program Nat := match m with
    | none => refuse text
    | some m => do
      complain ("cannot set date: " ++ FileFault.notPermitted.reason)
      tell m
      return 1
  match p.value? "f", p.value? "r", (p.value? "s").or (p.value? "d") with
  | some path, _, _ => match ← operand path with
    | .error e => die (Text.shellName path ++ ": " ++ e.fault.reason) 1
    | .ok cs =>
      let mut status := 0
      for line in linesOf '\n' cs do
        let text := String.ofList line
        match Time.Phrase.read? z present text with
        | some m => tell m
        | none =>
          complain ("invalid date " ++ Text.literalQuote text)
          status := 1
      return status
  | _, some path, _ => match ← Filing.found true path with
    | .error e => die (Text.shellName path ++ ": " ++ e.reason) 1
    | .ok (_, _, node) =>
      tell (changeTime node)
      return 0
  | _, _, some text =>
    let m := Time.Phrase.read? z present text
    if p.has "s" then setTo m text else match m with
      | none => refuse text
      | some m =>
        tell m
        return 0
  | none, none, none => match p.operands with
    | [a] =>
      if a.toList.head? = some '+' then
        tell present
        return 0
      else setTo (ofFigures? z present .last a) a
    | _ =>
      tell present
      return 0

/-- Gives files a time, the present one unless another is told, and makes those that are not
there. -/
def touch : Program Nat := do
  let p ← parsed
    { choices := ["a", "c,no-create", "d,date:", "f", "h,no-dereference", "m", "r,reference:", "t:", "time:"] }
  let z ← Dates.zone
  let present ← Dates.now
  let mut figured : Option Time.Moment := none
  let mut changes := false
  for o in p.options do
    if o.key = "t" then
      match Dates.ofFigures? z present .first o.value with
      | some m => figured := some m
      | none => die ("invalid date format " ++ Text.literalQuote o.value) 1
    else if o.key = "time" then
      let k ← wordChoice "time" o.value [["atime", "access", "use"], ["mtime", "modify"]]
      if k = 1 then changes := true
  let onlyAccess := (p.has "a" || p.has "time") && !p.has "m" && !changes
  if figured.isSome && (p.has "r" || p.has "d") then
    misuse "cannot specify times from more than one source" 1
  let reference ← match p.value? "r" with
    | none => pure none
    | some path => match ← Filing.found (!p.has "h") path with
      | .ok (_, _, node) => pure (some (Dates.changeTime node))
      | .error e => die ("failed to get attributes of " ++ Text.shellQuote path ++ ": " ++ e.reason) 1
  let told ← match p.value? "d" with
    | none => pure (figured.or reference)
    | some text => match Time.Phrase.read? z (reference.getD present) text with
      | some m => pure (some m)
      | none => die ("invalid date format " ++ Text.literalQuote text) 1
  if p.operands.isEmpty then misuse "missing file operand" 1
  for path in p.operands do
    if path ≠ "-" then
      let setTime (n : Nat) : Program Unit := do
        let f ← files
        if !onlyAccess then
          let changed := match told with
            | some m => m.total - systemStart
            | none => f.tick
          setFiles (f.setProperties n fun node => { node with changed })
      match ← Filing.found (!p.has "h") path with
      | .ok (_, n, _) => setTime n
      | .error e =>
        if p.has "c" then
          if e ≠ .notFound then Filing.failed ("setting times of " ++ Text.shellQuote path) e
        else if p.has "h" then Filing.failed ("setting times of " ++ Text.shellQuote path) e
        else
          match (← files).opened path (← masked 0o666) with
          | .ok (f, n, _) =>
            setFiles f
            setTime n
          | .error .isDirectory => Filing.failed ("setting times of " ++ Text.shellQuote path) .notFound
          | .error e => Filing.failed ("cannot touch " ++ Text.shellQuote path) e
  return 0

end DeltaDebugging.Utility
