import DeltaDebugging.Utility.Ordering

/-!
# Tabs and blanks

Tabs reach to the next of some stops, which stand at multiples of one number or at places of
their own. Tabs are turned into blanks and blanks that reach a stop into tabs, line by line and
over the ends of files.
-/
namespace DeltaDebugging.Utility

open Program

/-- The stops of tabs. Behind the last of the places they go on at multiples of a number, or at
equal distances from the last place. -/
structure TabStops where
  places : List Nat := []
  multiples : Option Nat := none
  distance : Option Nat := none
  deriving DecidableEq, Repr

namespace TabStops

/-- The next stop behind a column, if there is one. `seen` of the places are not looked at any
more. -/
def next? (t : TabStops) (seen column : Nat) : Option Nat × Nat :=
  match t.places, t.multiples, t.distance with
  | [], m, d =>
    let n := (m.or d).getD 8
    (some (column + (n - column % n)), seen)
  | [n], none, none => (some (column + (n - column % n)), seen)
  | places, m, d =>
    let passed := seen + ((places.drop seen).takeWhile fun p => p ≤ column).length
    match places[passed]?, m, d with
    | some p, _, _ => (some p, passed)
    | none, some n, _ => (some (column + (n - column % n)), passed)
    | none, none, some n => (some (column + (n - (column - places.getLastD 0) % n)), passed)
    | none, none, none => (none, passed)

structure Draft where
  stops : TabStops := {}
  number : Option Nat := none
  /-- Whether a number is one of multiples, or a distance. -/
  multiple : Bool := false
  relative : Bool := false
  wrong : Bool := false

namespace Draft

def close (d : Draft) : Program Draft := do
  let only (mark : String) : Program Unit :=
    complain ("'" ++ mark ++ "' specifier only allowed with the last value")
  match d.number with
  | none => return d
  | some n =>
    let d := { d with number := none }
    if d.multiple then
      if d.stops.multiples.any (· ≠ 0) then
        only "/"
        exit 1
      return { d with stops := { d.stops with multiples := some n } }
    else if d.relative then
      if d.stops.distance.any (· ≠ 0) then
        only "+"
        exit 1
      return { d with stops := { d.stops with distance := some n } }
    else return { d with stops := { d.stops with places := d.stops.places ++ [n] } }

def read (d : Draft) : List Char → Program Draft
  | [] => do
    if d.wrong then exit 1
    d.close
  | c :: cs => do
    if c = ',' || isBlankChar c then read { (← d.close) with number := none } cs
    else if c = '/' || c = '+' then
      let misplaced := d.number.isSome
      if misplaced then
        complain ("'" ++ String.singleton c ++ "' specifier not at start of number: " ++
          Text.literalQuote (String.ofList (c :: cs)))
      read { d with multiple := c = '/', relative := c = '+', wrong := d.wrong || misplaced } cs
    else if c.isDigit then
      let n := d.number.getD 0 * 10 + (c.toNat - '0'.toNat)
      if Nat.pow 2 64 ≤ n then
        complain ("tab stop is too large " ++ Text.literalQuote (toString (d.number.getD 0) ++
          String.ofList ((c :: cs).takeWhile Char.isDigit)))
        exit 1
      read { d with number := some n } cs
    else
      complain ("tab size contains invalid character(s): " ++ Text.literalQuote (String.ofList (c :: cs)))
      exit 1

end Draft

def ofTexts (texts : List String) : Program TabStops := do
  let rec all (t : TabStops) : List String → Program TabStops
    | [] => return t
    | s :: rest => do all (← Draft.read { stops := t } s.toList).stops rest
  let t ← all {} texts
  if t.places.contains 0 then
    if (t.places.takeWhile (· ≠ 0)).zip (t.places.takeWhile (· ≠ 0)).tail |>.any fun p => p.2 ≤ p.1 then
      die "tab sizes must be ascending" 1
    die "tab size cannot be 0" 1
  if (t.places.zip t.places.tail).any fun p => p.2 ≤ p.1 then die "tab sizes must be ascending" 1
  let t := { t with multiples := t.multiples.filter (· ≠ 0), distance := t.distance.filter (· ≠ 0) }
  if t.multiples.isSome && t.distance.isSome then die "'/' specifier is mutually exclusive with '+'" 1
  return t

end TabStops

/-- Where a program that follows columns is: the column, how many stops are passed, and whether
the rest of the line still matters. -/
structure TabPlace where
  column : Nat := 0
  passed : Nat := 0
  converts : Bool := true

/-- Turns tabs into blanks, as far as the first other character if only `initial` ones count. -/
def expandTabs (t : TabStops) (initial : Bool) : TabPlace → (out : List Char) → List Char → TabPlace × List Char
  | p, out, [] => (p, out)
  | p, out, c :: cs =>
    if c = '\n' then expandTabs t initial {} (c :: out) cs
    else if !p.converts then expandTabs t initial p (c :: out) cs
    else if c = '\t' then
      let (stop, passed) := t.next? p.passed p.column
      let stop := stop.getD (p.column + 1)
      expandTabs t initial { p with column := stop, passed } (List.replicate (stop - p.column) ' ' ++ out) cs
    else
      let converts := !initial || isBlankChar c
      let p : TabPlace := if c = '\x08' then ⟨p.column - 1, p.passed - 1, converts⟩
        else ⟨p.column + 1, p.passed, converts⟩
      expandTabs t initial p (c :: out) cs

def expand : Program Nat := do
  let p ← parsed { choices := ["i,initial", "t,tabs:"] ++ (List.range 10).map fun n => toString n ++ "::" }
  let stops ← TabStops.ofTexts (p.options.filterMap fun o =>
    if o.key = "t" then some o.value else if o.key.toList.all Char.isDigit then some (o.key ++ o.value) else none)
  let mut place : TabPlace := {}
  for path in inputs p do
    match ← streamed path with
    | .error e =>
      complain (nameAndReason path e)
      raise 1
    | .ok cs =>
      let (next, out) := expandTabs stops (p.has "i") place [] cs
      place := next
      put (String.ofList out.reverse)
  return 0

/-- Where a program that gathers blanks is: blanks that wait, backwards, whether the first of them
came just before a stop, and whether a blank came last. -/
structure BlankPlace extends TabPlace where
  pending : List Char := []
  single : Bool := false
  afterBlank : Bool := true

/-- What waits, as it is written when something else follows. -/
def BlankPlace.released (p : BlankPlace) : List Char :=
  if 1 < p.pending.length && p.single then p.pending.dropLast ++ ['\t'] else p.pending

/-- Turns blanks that reach a stop into tabs; `all` tells that not only the first ones count. -/
def gatherBlanks (t : TabStops) (all : Bool) : BlankPlace → (out : List Char) → List Char →
    BlankPlace × List Char
  | p, out, [] => (p, out)
  | p, out, c :: cs =>
    if !p.converts then
      gatherBlanks t all (if c = '\n' then {} else p) (c :: out) cs
    else if isBlankChar c then
      match t.next? p.passed p.column with
      | (none, passed) =>
        let p := { p with passed, converts := false, afterBlank := true }
        gatherBlanks t all { p with pending := [], single := false } (c :: (p.released ++ out)) cs
      | (some stop, passed) =>
        let p := { p with passed }
        -- a lone blank before the stop before stays, as a tab
        let kept : List Char := if p.single then ['\t'] else []
        if c = '\t' then
          gatherBlanks t all { p with column := stop, pending := [], single := false, afterBlank := true }
            (c :: (if p.pending.isEmpty then out else kept ++ out)) cs
        else if p.afterBlank && p.column + 1 = stop then
          gatherBlanks t all { p with column := stop, pending := [], single := false, afterBlank := true }
            ('\t' :: (kept ++ out)) cs
        else
          gatherBlanks t all
            { p with
              column := p.column + 1, pending := c :: p.pending, afterBlank := true
              single := p.single || p.column + 1 = stop } out cs
    else
      let out := c :: (p.released ++ out)
      let place : TabPlace := if c = '\n' then {}
        else if c = '\x08' then ⟨p.column - 1, p.passed - 1, all⟩ else ⟨p.column + 1, p.passed, all⟩
      gatherBlanks t all { place with afterBlank := c = '\n' } out cs

def stopsOfDigits : List Given → (number : Option Nat) → List Nat
  | [], n => n.toList
  | o :: rest, n => match o.key.toList with
    | [','] => n.toList ++ stopsOfDigits rest none
    | [c] => if c.isDigit then stopsOfDigits rest (some (n.getD 0 * 10 + (c.toNat - '0'.toNat)))
        else stopsOfDigits rest n
    | _ => stopsOfDigits rest n

def unexpand : Program Nat := do
  let p ← parsed { choices := ["a,all", "first-only", "t,tabs:", ","] ++ (List.range 10).map toString }
  let stops ← TabStops.ofTexts (p.values "t" ++ (stopsOfDigits p.options none).map toString)
  let all := (p.has "a" || p.has "t") && !p.has "first-only"
  let mut place : BlankPlace := {}
  for path in inputs p do
    match ← streamed path with
    | .error e =>
      complain (nameAndReason path e)
      raise 1
    | .ok cs =>
      let (next, out) := gatherBlanks stops all place [] cs
      place := next
      put (String.ofList out.reverse)
  put (String.ofList place.released.reverse)
  return 0

end DeltaDebugging.Utility
