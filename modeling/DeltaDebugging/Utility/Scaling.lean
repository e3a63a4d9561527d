import DeltaDebugging.Number.Extended
import DeltaDebugging.Utility.Columns
import DeltaDebugging.Utility.Numeral

/-!
# Numbers with units

Rewrites numbers in fields of lines: reads them with or without a unit, scales and rounds them,
and writes them with or without a unit. All arithmetic is that of extended floats.
-/
namespace DeltaDebugging.Utility

open Program Number

namespace Scaling

inductive Scale where
  | plain
  /-- By 1024 if an `i` follows, by 1000 if not. -/
  | automatic
  | decimal
  | binary
  /-- Binary with an `i` behind each unit. -/
  | marked
  deriving DecidableEq, Repr

def Scale.base : Scale → Nat
  | binary => 1024
  | marked => 1024
  | _ => 1000

inductive Rounding where
  | up
  | down
  | fromZero
  | towardsZero
  | nearest
  deriving DecidableEq, Repr

inductive OnFault where
  | abort
  | fail
  | warn
  | ignore
  deriving DecidableEq, Repr

structure Request where
  source : Scale := .plain
  target : Scale := .plain
  sourceUnit : Nat := 1
  targetUnit : Nat := 1
  rounding : Rounding := .fromZero
  grouping : Bool := false
  /-- The width of numbers, which may be fixed. -/
  width : Nat := 0
  left : Bool := false
  zeros : Nat := 0
  places : Option Nat := none
  before : String := ""
  after : String := ""
  suffix : String := ""
  fields : Option Cut.Ranges := none
  delimiter : Option Char := none
  ends : Char := '\n'
  debug : Bool := false
  header : Nat := 0
  onFault : OnFault := .abort

/-- The letters of units in rising order. -/
def units : List Char := "KMGTPEZY".toList

/-- The most digits that a number may have, and the most that are exact. -/
def mostDigits : Nat := 27

def exactDigits : Nat := 18

inductive Fault where
  | overflow
  | noNumber
  | forbidden
  | unit
  | unmarked
  deriving DecidableEq, Repr

def Fault.text (shown : String) : Fault → String
  | overflow => "value too large to be converted: " ++ shown
  | noNumber => "invalid number: " ++ shown
  | forbidden => "rejecting suffix in input: " ++ shown ++ " (consider using --from)"
  | unit => "invalid suffix in input: " ++ shown
  | unmarked => "missing 'i' suffix in input: " ++ shown ++ " (e.g Ki/Mi/Gi)"

/-- The value of a row of digits, each step rounded, with the count of digits that count. -/
def digitsValue (ds : List Char) : Quantity × Nat :=
  ds.foldl (fun (x, n) d =>
    let next := (x.times 10).plus (.ofNat (d.toNat - '0'.toNat))
    (next, if n = 0 && d = '0' then 0 else n + 1)) (Quantity.zero, 0)

def power (base n : Nat) : Quantity := .ofNat (Nat.pow base n)

/-- A number as it is read: its value, its places, what follows it, and whether it is exact. -/
structure Read where
  value : Quantity
  places : Nat
  rest : List Char
  exact : Bool

/-- The number at the front of a text, without its unit. -/
def number (cs : List Char) : Except Fault Read := do
  let negative := cs.head? = some '-'
  let cs := if negative then cs.tail else cs
  let whole := cs.takeWhile Char.isDigit
  let rest := cs.drop whole.length
  let (value, n) := digitsValue whole
  if mostDigits < n then throw .overflow
  if whole.isEmpty && rest.head? ≠ some '.' then throw .noNumber
  let value := if negative then value.negated else value
  match rest with
  | '.' :: more =>
    let fraction := more.takeWhile Char.isDigit
    let after := more.drop fraction.length
    if fraction.isEmpty && after.head? ≠ some '.' then throw .noNumber
    let (part, k) := digitsValue fraction
    if mostDigits < k then throw .overflow
    let part := part.quotient (power 10 fraction.length)
    return {
      value := value.plus (if negative then part.negated else part)
      places := fraction.length
      rest := after
      exact := decide (n ≤ exactDigits) && decide (k ≤ exactDigits) }
  | _ => return { value, places := 0, rest, exact := decide (n ≤ exactDigits) }

def scaledNumber (scale : Scale) (cs : List Char) : Except Fault Read := do
  let r ← number cs
  let rest := r.rest.dropWhile fun c => c = ' ' || c = '\t'
  let marked (r : Read) : Except Fault Read := do
    if scale ≠ .marked then return r
    match r.rest with
    | 'i' :: rest => return { r with rest }
    | _ => throw .unmarked
  if r.rest.isEmpty then marked r else
  match rest with
  | [] => if scale = .plain then throw .forbidden else marked { r with rest := [], places := 0 }
  | c :: rest =>
    if !units.contains c then throw .unit
    if scale = .plain then throw .forbidden
    let n := units.idxOf c + 1
    let (base, rest) := match scale, rest with
      | .automatic, 'i' :: rest => (1024, rest)
      | _, _ => (scale.base, rest)
    let r ← marked { r with rest, places := 0 }
    return { r with value := r.value.product (power base n) }

def rounded (r : Rounding) (x : Quantity) : Quantity :=
  let n := x.whole
  let half := match x with
    | .finite _ a b => decide (b ≤ 2 * (a % b))
    | _ => false
  let outwards := x.isBroken && match r with
    | .up => !x.isNegative
    | .down => x.isNegative
    | .fromZero => true
    | .towardsZero => false
    | .nearest => half
  let n := if outwards then n + 1 else n
  if n = 0 then .zero else .rounded x.isNegative n 1

/-- A number divided by a base as long as it reaches it, and how often. -/
def reduced (base : Nat) : (steps : Nat) → Quantity → Nat → Quantity × Nat
  | 0, x, n => (x, n)
  | steps + 1, x, n =>
    if x.reaches base then reduced base steps (x.quotient (.ofNat base)) (n + 1) else (x, n)

/-- The text of a number with so many places before it is padded. -/
def Request.render (r : Request) (x : Quantity) (places : Nat) : String :=
  let shape (places : Nat) : Shape := { precision := some places, zeros := 0 < r.zeros, width := r.zeros }
  let roundedTo (places : Nat) (x : Quantity) : Quantity :=
    (rounded r.rounding (x.product (power 10 places))).quotient (power 10 places)
  if r.target = .plain then (shape places).quantity 'f' true (roundedTo places x) else
  let (x, n) := reduced r.target.base 5000 x 0
  let adjust := match r.places with
    | some places => min (n * 3) places
    | none => if x.reaches 10 then 0 else 1
  let x := roundedTo adjust x
  let (x, n) := if x.reaches r.target.base then (x.quotient (.ofNat r.target.base), n + 1) else (x, n)
  let pointed := !x.isZero && !x.reaches 10 && 0 < n
  let unit := if n = 0 then "" else ((units[n - 1]?).map String.singleton).getD "(error)"
  (shape (r.places.getD (if pointed then 1 else 0))).quantity 'f' true x ++ unit ++
    if r.target = .marked && 0 < n then "i" else ""

/-- Tells of a fault, which ends all if that is asked for. -/
def Request.fault (r : Request) (text : String) : Program Unit := do
  match r.onFault with
  | .ignore => pure ()
  | .abort => die text 2
  | _ => complain text

/-- One field in its new form; nothing if it cannot be read or written. -/
def Request.convert (r : Request) (field : Nat) (text : String) : Program (Option String) := do
  let cs := text.toList
  let suffix := r.suffix.toList
  let cs := if !suffix.isEmpty && suffix.length < cs.length && suffix.isSuffixOf cs then
    cs.take (cs.length - suffix.length) else cs
  let bare := cs.dropWhile fun c => c = ' ' || c = '\t'
  let width := if r.width = 0 && r.delimiter.isNone then
      if bare.length < cs.length || 1 < field then cs.length else 0
    else r.width
  let shown := Text.literalQuote (String.ofList bare)
  match scaledNumber r.source bare with
  | .error e =>
    r.fault (e.text shown)
    return none
  | .ok n =>
    if !n.rest.isEmpty then
      r.fault ("invalid suffix in input " ++ shown ++ ": " ++ Text.literalQuote (String.ofList n.rest))
      return none
    if !n.exact && r.debug then
      complain ("large input value " ++ shown ++ ": possible precision loss")
    let x := if r.sourceUnit = 1 && r.targetUnit = 1 then n.value
      else (n.value.product (.ofNat r.sourceUnit)).quotient (.ofNat r.targetUnit)
    let places := r.places.getD n.places
    let size := (reduced 10 5000 x 0).2
    let general := Shape.quantity {} 'g' true x
    if r.target = .plain && exactDigits < size + places then
      r.fault (if places = 0 then "value too large to be printed: '" ++ general ++ "' (consider using --to)"
        else "value/precision too large to be printed: '" ++ general ++ "/" ++ toString places ++
          "' (consider using --to)")
      return none
    if mostDigits - 1 < size then
      r.fault ("value too large to be printed: '" ++ general ++ "' (cannot handle values > 999Y)")
      return none
    let body := r.render x places ++ r.suffix
    let padding := String.ofList (List.replicate (width - body.length) ' ')
    return some (r.before ++ (if r.left then body ++ padding else padding ++ body) ++ r.after)

/-- The fields of a line. Without a delimiter blanks before a field belong to it, and one blank
ends it. -/
def cutFields (delimiter : Option Char) : (steps : Nat) → List Char → List String
  | 0, _ => []
  | steps + 1, cs =>
    let isBlank (c : Char) : Bool := c = ' ' || c = '\t' || c = '\n'
    let field := match delimiter with
      | some d => cs.takeWhile fun c => c ≠ d
      | none =>
        let blanks := cs.takeWhile isBlank
        blanks ++ (cs.drop blanks.length).takeWhile fun c => !isBlank c
    match cs.drop field.length with
    | [] => [String.ofList field]
    | _ :: rest => String.ofList field :: cutFields delimiter steps rest

def Request.line (r : Request) (cs : List Char) (ended : Bool) : Program Bool := do
  let mut valid := true
  for (text, k) in (cutFields r.delimiter (cs.length + 1) cs).zipIdx 1 do
    if 1 < k then put (String.singleton (r.delimiter.getD ' '))
    let wanted := match r.fields with
      | some ranges => Cut.selects ranges k
      | none => k = 1
    let converted ← if wanted then r.convert k text else pure (some text)
    if converted.isNone then valid := false
    put (converted.getD text)
  if ended then put (String.singleton r.ends)
  return valid

/-- The size of a unit: `K` is 1000 and `Ki` is 1024. -/
def unitSize (text : String) : Program Nat := do
  let bad : Program Nat := die ("invalid unit size: " ++ Text.literalQuote text) 1
  let cs := text.toList
  let marked := cs.getLast? = some 'i' && 2 ≤ cs.length && !((cs[cs.length - 2]?).any Char.isDigit)
  let (whole, letters) := if cs.getLast?.all Char.isDigit then (text, "KMGTPEZY")
    else if marked then (String.ofList cs.dropLast, "KMGTPEZY")
    else (text ++ "B", "KMGTPEZY0")
  match numeral 10 false letters whole with
  | (n, none) => if n = 0 then bad else return n.toNat
  | _ => bad

def Request.formatted (r : Request) (format : String) : Program Request := do
  let shown := Text.literalQuote format
  let rec start : List Char → (passed : Nat) → Nat × List Char
    | '%' :: '%' :: rest, n => start rest (n + 1)
    | '%' :: rest, n => (n, '%' :: rest)
    | _ :: rest, n => start rest (n + 1)
    | [], n => (n, [])
  let rec flags : List Char → (grouping zeros : Bool) → Bool × Bool × List Char
    | ' ' :: rest, g, z => flags rest g z
    | '\'' :: rest, _, z => flags rest true z
    | '0' :: rest, g, _ => flags rest g true
    | rest, g, z => (g, z, rest)
  let (passed, rest) := start format.toList 0
  match rest with
  | [] => die ("format " ++ shown ++ " has no % directive") 1
  | _ :: rest =>
    let (grouping, zeros, rest) := flags rest false false
    let negative := rest.head? = some '-'
    let signed := if negative || rest.head? = some '+' then rest.tail else rest
    let digits := signed.takeWhile Char.isDigit
    let n := digits.foldl (fun n d => n * 10 + (d.toNat - '0'.toNat)) 0
    if Nat.pow 2 63 ≤ n then die ("invalid format " ++ shown ++ " (width overflow)") 1
    let rest := if digits.isEmpty then rest else signed.drop digits.length
    if n ≠ 0 && r.debug && r.width ≠ 0 && !(zeros && !negative) then
      complain "--format padding overriding --padding"
    let r := if n = 0 then r
      else if negative then { r with left := true, width := n }
      else if zeros then { r with zeros := n }
      else { r with width := n }
    if rest.isEmpty then die ("format " ++ shown ++ " ends in %") 1
    let (places, rest) ← match rest with
      | '.' :: rest => do
        let digits := rest.takeWhile Char.isDigit
        let n := digits.foldl (fun n d => n * 10 + (d.toNat - '0'.toNat)) 0
        if Nat.pow 2 63 ≤ n || rest.head?.any (fun c => c = ' ' || c = '\t' || c = '+') ||
            (rest.head? = some '-' && (rest[1]?).any fun c => '1' ≤ c && c ≤ '9') then
          die ("invalid precision in format " ++ shown) 1
        pure (some n, rest.drop digits.length)
      | rest => pure (none, rest)
    match rest with
    | 'f' :: after =>
      if (start after 0).2 ≠ [] then die ("format " ++ shown ++ " has too many % directives") 1
      return { r with
        grouping := r.grouping || grouping
        places
        before := String.ofList (format.toList.take passed)
        after := String.ofList after }
    | _ => die ("invalid format " ++ shown ++ ", directive must be %[0]['][-][N][.][N]f") 1

def scales : List (List String) := [["none"], ["auto"], ["si"], ["iec"], ["iec-i"]]

def Request.with (r : Request) (o : Given) : Program Request := do
  match o.key with
  | "from" =>
    let n ← wordChoice "from" o.value scales
    return { r with source := ([.plain, .automatic, .decimal, .binary, .marked][n]?).getD .plain }
  | "to" =>
    let n ← wordChoice "to" o.value (scales.filter fun s => s ≠ ["auto"])
    return { r with target := ([.plain, .decimal, .binary, .marked][n]?).getD .plain }
  | "from-unit" =>
    let n ← unitSize o.value
    return { r with sourceUnit := n }
  | "to-unit" =>
    let n ← unitSize o.value
    return { r with targetUnit := n }
  | "round" =>
    let n ← wordChoice "round" o.value [["up"], ["down"], ["from-zero"], ["towards-zero"], ["nearest"]]
    return { r with rounding := ([.up, .down, .fromZero, .towardsZero, .nearest][n]?).getD .up }
  | "grouping" => return { r with grouping := true }
  | "padding" =>
    match numeral 10 true "" o.value with
    | (n, none) =>
      if n = 0 then die ("invalid padding value " ++ Text.literalQuote o.value) 1
      return { r with left := n < 0, width := n.natAbs }
    | _ => die ("invalid padding value " ++ Text.literalQuote o.value) 1
  | "field" =>
    if r.fields.isSome then die "multiple field specifications" 1
    let ranges ← if o.value = "-" then pure [(1, none)] else Cut.readRanges true o.value
    return { r with fields := some ranges }
  | "d" =>
    match o.value.toList with
    | [] => return { r with delimiter := some '\x00' }
    | [c] => return { r with delimiter := some c }
    | _ => die "the delimiter must be a single character" 1
  | "z" => return { r with ends := '\x00' }
  | "suffix" => return { r with suffix := o.value }
  | "debug" => return { r with debug := true }
  | "header" =>
    if o.value.isEmpty then return { r with header := 1 }
    match numeral 10 false "" o.value with
    | (n, none) =>
      if n = 0 then die ("invalid header value " ++ Text.literalQuote o.value) 1
      return { r with header := n.toNat }
    | _ => die ("invalid header value " ++ Text.literalQuote o.value) 1
  | "invalid" =>
    let n ← wordChoice "invalid" o.value [["abort"], ["fail"], ["warn"], ["ignore"]]
    return { r with onFault := ([.abort, .fail, .warn, .ignore][n]?).getD .abort }
  | _ => return r

end Scaling

open Scaling in
/-- Rewrites numbers with or without units. -/
def numfmt : Program Nat := do
  let p ← parsed
    { choices := ["from:", "from-unit:", "to:", "to-unit:", "round:", "padding:", "suffix:", "grouping",
        "d,delimiter:", "field:", "debug", "header::", "format:", "invalid:", "z,zero-terminated"] }
  let mut r : Request := {}
  for o in p.options do r ← r.with o
  let format := p.value? "format"
  if format.isSome && r.grouping then die "--grouping cannot be combined with --format" 1
  if r.debug && r.source = .plain && r.target = .plain && !r.grouping && r.width = 0 && format.isNone then
    complain "no conversion option specified"
  if let some f := format then r ← r.formatted f
  if r.grouping then
    if r.target ≠ .plain then die "grouping cannot be combined with --to" 1
    if r.debug then complain "grouping has no effect in this locale"
  let mut valid := true
  if !p.operands.isEmpty then
    if r.debug && 0 < r.header then complain "--header ignored with command-line input"
    for a in p.operands do
      let done ← r.line a.toList true
      if !done then valid := false
  else
    match ← input with
    | .error e => complain ("error reading input: " ++ e.fault.reason)
    | .ok cs =>
      let lines := linesOf r.ends cs
      let whole := cs.getLast? = some r.ends
      for (l, k) in lines.zipIdx do
        let ended := k + 1 < lines.length || whole
        if k < r.header then put (String.ofList l ++ if ended then String.singleton r.ends else "")
        else
          let done ← r.line l ended
          if !done then valid := false
  if r.debug && !valid then complain "failed to convert some of the input numbers"
  return if !valid && (r.onFault = .abort || r.onFault = .fail) then 2 else 0

end DeltaDebugging.Utility
