import DeltaDebugging.Text.Escape
import DeltaDebugging.Utility.Ordering

/-!
# Columns

Taking columns out of lines, putting lines side by side, and breaking them.
-/
namespace DeltaDebugging.Utility

open Program

namespace Cut

/-- Inclusive ranges of positions that are counted from one; without an end they go on. -/
abbrev Ranges := List (Nat × Option Nat)

def readRanges (fields : Bool) (text : String) : Program Ranges := do
  let what := if fields then "field value" else "byte/character position"
  let plural := if fields then "fields" else "byte/character positions"
  let invalid (s : String) : Program (Option Nat) := misuse ("invalid " ++ what ++ " " ++ Text.literalQuote s) 1
  let number (s : String) : Program (Option Nat) := do
    if s.isEmpty then return none
    match natural? s with
    | some n =>
      if Nat.pow 2 64 - 1 ≤ n then
        misuse ((if fields then "field number " else "byte/character offset ") ++
          Text.literalQuote s ++ " is too large") 1
      return some n
    | none => invalid s
  let parts := (text.toList.map fun c => if c = ' ' || c = '\t' then ',' else c)
  ((String.ofList parts).splitOn ",").mapM fun (part : String) => do
    match part.splitOn "-" with
    | [a] =>
      match ← number a with
      | none => misuse (plural ++ " are numbered from 1") 1
      | some 0 => misuse (plural ++ " are numbered from 1") 1
      | some n => return (n, some n)
    | [a, b] =>
      let x ← number a
      let y ← number b
      match x, y with
      | none, none => misuse "invalid range with no endpoint: -" 1
      | some 0, _ => misuse (plural ++ " are numbered from 1") 1
      | x, some y =>
        if y < x.getD 1 then misuse "invalid decreasing range" 1
        return (x.getD 1, some y)
      | x, none => return (x.getD 1, none)
    | _ => misuse (if fields then "invalid field range" else "invalid byte or character range") 1

def selects (rs : Ranges) (n : Nat) : Bool :=
  rs.any fun r => r.1 ≤ n && r.2.all fun b => n ≤ b

/-- Whether a range begins at a position, so that it is kept apart from what comes before. -/
def begins (rs : Ranges) (n : Nat) : Bool := rs.any (fun r => r.1 = n) && !selects rs (n - 1)

end Cut

open DeltaDebugging.Utility.Cut in
def cut : Program Nat := do
  let p ← parsed { choices := ["b,bytes:", "c,characters:", "d,delimiter:", "f,fields:", "n", "s,only-delimited",
    "complement", "output-delimiter:", "z,zero-terminated"] }
  let lists := p.options.filter fun o => ["b", "c", "f"].contains o.key
  match lists with
  | [] => misuse "you must specify a list of bytes, characters, or fields" 1
  | _ :: _ :: _ => misuse "only one list may be specified" 1
  | [o] =>
    let byFields := o.key = "f"
    let delimiter ← match p.value? "d" with
      | none => pure '\t'
      | some "" => pure '\x00'
      | some d => match d.toList with
        | [c] => pure c
        | _ => misuse "the delimiter must be a single character" 1
    if !byFields && p.has "d" then
      misuse "an input delimiter may be specified only when operating on fields" 1
    if !byFields && p.has "s" then
      misuse "suppressing non-delimited lines makes sense\n\tonly when operating on fields" 1
    let ranges ← readRanges byFields o.value
    let wanted (n : Nat) : Bool := selects ranges n != p.has "complement"
    let ends := if p.has "z" then '\x00' else '\n'
    let between := (p.value? "output-delimiter").map fun d => if d.isEmpty then "\x00" else d
    let byPlace (l : List Char) : String :=
      let kept := (l.zipIdx 1).filter fun e => wanted e.2
      match between with
      | none => String.ofList (kept.map Prod.fst)
      | some d => String.join ((kept.zip (0 :: kept.map Prod.snd)).map fun e =>
          let apart := e.2 ≠ 0 && (e.2 + 1 ≠ e.1.2 || begins ranges e.1.2)
          (if apart then d else "") ++ String.singleton e.1.1)
    let byField (l : List Char) : Option String :=
      if !l.contains delimiter then if p.has "s" then none else some (String.ofList l)
      else
        let fs := (String.ofList l).splitOn (String.singleton delimiter)
        let kept := ((fs.zipIdx 1).filter fun e => wanted e.2).map Prod.fst
        some (String.intercalate (between.getD (String.singleton delimiter)) kept)
    eachStream (inputs p) 1 nameAndReason fun _ cs => do
      if byFields && delimiter = ends then
        -- the fields are whole lines
        let kept := ((linesOf ends cs).zipIdx 1).filter fun e => wanted e.2
        put (String.intercalate (between.getD (String.singleton ends)) (kept.map fun e => String.ofList e.1))
        if !cs.isEmpty then put (String.singleton ends)
      else for l in linesOf ends cs do
        match (if byFields then byField l else some (byPlace l)) with
        | some t => put (t ++ String.singleton ends)
        | none => pure ()
    return 0

/-- Puts the lines of several files side by side, or those of each file into one line. -/
def paste : Program Nat := do
  let p ← parsed { choices := ["d,delimiters:", "s,serial", "z,zero-terminated"] }
  let ends := if p.has "z" then '\x00' else '\n'
  let rec delimiters : (steps : Nat) → List Char → Option (List String)
    | 0, _ => some []
    | _, [] => some []
    | _, ['\\'] => none
    | steps + 1, '\\' :: c :: cs =>
      (delimiters steps cs).map fun more =>
        (if c = '0' then "" else match Escape.control? c with
          | some d => String.singleton d
          | none => String.singleton c) :: more
    | steps + 1, c :: cs => (delimiters steps cs).map fun more => String.singleton c :: more
  let text := (p.value? "d").getD "\t"
  let ds ← match delimiters (text.length + 1) text.toList with
    | some ds => pure (if ds.isEmpty then [""] else ds)
    | none => die ("delimiter list ends with an unescaped backslash: " ++ text) 1
  let delimiter (k : Nat) : String := (ds[k % ds.length]?).getD ""
  let paths := inputs p
  if p.has "s" then
    for path in paths do
      match ← operand path with
      | .error e =>
        complain (nameAndReason path e)
        raise 1
      | .ok cs =>
        let ls := (linesOf ends cs).map String.ofList
        put (String.join (ls.zipIdx.map fun e => (if e.2 = 0 then "" else delimiter (e.2 - 1)) ++ e.1) ++
          String.singleton ends)
    return 0
  else
    -- the standard input, named several times, gives its lines in turn
    let dashes := (paths.filter (· = "-")).length
    let mut columns : List (List String) := []
    let mut shared : Option (List String) := none
    let mut turn := 0
    for path in paths do
      let lines ← match path, shared with
        | "-", some ls => pure ls
        | _, _ => match ← operand path with
          | .error (.unopened e) => die (nameAndReason path (.unopened e)) 1
          | .error e =>
            complain (nameAndReason path e)
            raise 1
            pure []
          | .ok cs => pure ((linesOf ends cs).map String.ofList)
      if path = "-" then
        shared := some lines
        let own := (lines.zipIdx.filter fun e => e.2 % dashes = turn).map Prod.fst
        turn := turn + 1
        columns := columns ++ [own]
      else columns := columns ++ [lines]
    let height := (columns.map List.length).foldl max 0
    for i in List.range height do
      let row := columns.map fun column => (column[i]?).getD ""
      put (String.join (row.zipIdx.map fun e => (if e.2 = 0 then "" else delimiter (e.2 - 1)) ++ e.1) ++
        String.singleton ends)
    return 0

def advanceColumn (bytes : Bool) (column : Nat) (c : Char) : Nat :=
  if bytes then column + 1
  else if c = '\x08' then column - 1
  else if c = '\r' then 0
  else if c = '\t' then column + (8 - column % 8)
  else column + 1

/-- Breaks a line so that no row is wider than asked for; at blanks, if there are any and that is
wanted. `row` is the row so far, backwards. -/
def foldLine (bytes spaces : Bool) (width : Nat) : (steps : Nat) → (row : List Char) → (column : Nat) →
    List Char → List (List Char)
  | 0, row, _, cs => [row.reverse ++ cs]
  | _, row, _, [] => [row.reverse]
  | steps + 1, row, column, c :: cs =>
    let next := advanceColumn bytes column c
    if next ≤ width || row.isEmpty then foldLine bytes spaces width steps (c :: row) next cs
    else
      let tail := if spaces then row.takeWhile fun d => !isBlankChar d else []
      if spaces && tail.length < row.length then
        let kept := row.drop tail.length
        let again := tail.reverse
        let column := again.foldl (advanceColumn bytes) 0
        kept.reverse :: foldLine bytes spaces width steps tail column (c :: cs)
      else row.reverse :: foldLine bytes spaces width steps [] 0 (c :: cs)

def fold : Program Nat := do
  withArguments fun as => as.map fun a => match a.toList with
    | '-' :: c :: cs => if (c :: cs).all Char.isDigit then "-w" ++ String.ofList (c :: cs) else a
    | _ => a
  let p ← parsed { choices := ["b,bytes", "s,spaces", "w,width:"] }
  let width ← match p.value? "w" with
    | none => pure 80
    | some v => match natural? v with
      | some 0 => die ("invalid number of columns: " ++ Text.literalQuote v ++ ": Numerical result out of range") 1
      | some n => pure n
      | none => die ("invalid number of columns: " ++ Text.literalQuote v) 1
  eachStream (inputs p) 1 nameAndReason fun _ cs => do
    let ls := linesOf '\n' cs
    let rows := ls.map fun l => String.intercalate "\n"
      ((foldLine (p.has "b") (p.has "s") width (2 * l.length + 2) [] 0 l).map String.ofList)
    put (String.intercalate "\n" rows ++ if cs.getLast? = some '\n' then "\n" else "")
  return 0

end DeltaDebugging.Utility
