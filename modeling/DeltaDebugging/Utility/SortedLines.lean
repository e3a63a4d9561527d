import DeltaDebugging.Utility.KeyMarks
import DeltaDebugging.Utility.Numeral

/-!
# Sorting and comparing sorted lines

Sorting lines by keys, dropping or showing repeated lines, and what two sorted files have in
common.
-/
namespace DeltaDebugging.Utility

open Program

namespace Sorting

/-- Applies the letters of an ordering; gives the letters that are none. -/
def setOrder (start finish : Bool) : Order → List Char → Order × List Char
  | o, [] => (o, [])
  | o, c :: cs =>
    match c with
    | 'b' => setOrder start finish { o with
        skipsStart := o.skipsStart || start, skipsEnd := o.skipsEnd || finish } cs
    | 'd' => setOrder start finish { o with dictionary := true } cs
    | 'f' => setOrder start finish { o with folds := true } cs
    | 'g' => setOrder start finish { o with general := true } cs
    | 'h' => setOrder start finish { o with human := true } cs
    | 'i' => setOrder start finish { o with printable := true } cs
    | 'M' => setOrder start finish { o with month := true } cs
    | 'n' => setOrder start finish { o with numeric := true } cs
    | 'R' => setOrder start finish { o with random := true } cs
    | 'r' => setOrder start finish { o with reversed := true } cs
    | 'V' => setOrder start finish { o with version := true } cs
    | _ => (o, c :: cs)

/-- The letters of orders that exclude one another, if an order has more than one of them. -/
def conflict? (o : Order) : Option String :=
  let kinds := [o.numeric, o.general, o.human, o.month, o.version || o.random || o.dictionary || o.printable]
  if 1 < (kinds.filter id).length then
    some ({ o with skipsStart := false, skipsEnd := false, reversed := false } : Order).letters
  else none

def readKey (text : String) : Program SortKey := do
  let invalid (what : String) : Program SortKey :=
    die (what ++ ": invalid field specification " ++ Text.literalQuote text) 2
  let number (what : String) (cs : List Char) : Program (Nat × List Char) := do
    let ds := cs.takeWhile Char.isDigit
    match natural? (String.ofList ds) with
    | some n => return (n, cs.drop ds.length)
    | none => die (what ++ ": invalid count at start of " ++ Text.literalQuote (String.ofList cs)) 2
  let (field, rest) ← number "invalid number at field start" text.toList
  if field = 0 then invalid "field number is zero" else
  let (offset, rest) ← match rest with
    | '.' :: more => number "invalid number after '.'" more
    | _ => pure (1, rest)
  if offset = 0 then invalid "character offset is zero" else
  let (order, rest) := setOrder true false {} rest
  match rest with
  | [] => return { field := field - 1, offset := offset - 1, order }
  | ',' :: more =>
    let (last, rest) ← number "invalid number after ','" more
    if last = 0 then invalid "field number is zero" else
    let (count, rest) ← match rest with
      | '.' :: more => number "invalid number after '.'" more
      | _ => pure (0, rest)
    let (order, rest) := setOrder false true order rest
    if !rest.isEmpty then invalid "stray character in field spec" else
    return { field := field - 1, offset := offset - 1, last := some (last - 1, count), order }
  | _ => invalid "stray character in field spec"

/-- How lines are compared: by their keys, and then as a whole unless that is not wanted. -/
structure Comparison where
  keys : List SortKey
  separator : Option Char
  whole : Bool
  reversed : Bool
  /-- What stands before texts whose digests are compared. -/
  seed : List Char := []

def Comparison.byKeys (c : Comparison) (a b : List Char) : Ordering :=
  c.keys.foldl (fun o k => match o with
    | .eq => k.order.compare c.seed (k.part c.separator a) (k.part c.separator b)
    | o => o) .eq

def Comparison.compare (c : Comparison) (a b : List Char) : Ordering :=
  match c.byKeys a b with
  | .eq =>
    if c.whole then
      let o := compareChars a b
      if c.reversed then o.swap else o
    else .eq
  | o => o

def Comparison.le (c : Comparison) (a b : List Char) : Bool := c.compare a b != .gt

/-- The first of each run of lines with equal keys. -/
def firsts (same : List Char → List Char → Bool) : List (List Char) → List (List Char)
  | [] => []
  | l :: ls => l :: go l ls
where
  go (l : List Char) : List (List Char) → List (List Char)
    | [] => []
    | m :: ms => if same l m then go l ms else m :: go m ms

/-- Rows of lines put together without sorting them: always the least of the first lines. -/
def mergeRows (le : List Char → List Char → Bool) (rows : List (List (List Char))) : List (List Char) :=
  rows.foldl (fun all row => List.merge all row le) []

def checkResources (p : Parsed) : Program Unit := do
  for o in p.options do
    let spelled := o.spelled
    match o.key, numeral 10 false "" o.value with
    | "parallel", (0, none) => die "number in parallel must be nonzero" 2
    | "parallel", (_, none) => pure ()
    | "parallel", (_, some .tooLarge) => pure ()
    | "parallel", (_, some fault) => badNumeral spelled o.value 2 fault
    | "batch-size", (n, none) =>
      if n < 2 then
        complain ("invalid --batch-size argument " ++ Text.literalQuote o.value)
        die ("minimum --batch-size argument is " ++ Text.literalQuote "2") 2
    | "batch-size", (_, some fault) => badNumeral spelled o.value 2 fault
    | key, _ =>
      if key = "S" || key = "buffer-size" then
        let relative := ["b", "%"].any fun u => u = String.ofList (o.value.toList.dropWhile Char.isDigit)
        match numeral 10 false "EgGkKmMPtTYZ" o.value with
        | (_, some .unit) => if !relative then badNumeral spelled o.value 2 .unit
        | (_, some fault) => badNumeral spelled o.value 2 fault
        | (_, none) => pure ()

def namedInputs (p : Parsed) : Program (List String) := do
  match p.value? "files0-from", p.operands with
  | none, _ => return inputs p
  | some _, extra :: _ =>
    complain ("extra operand " ++ Text.shellQuote extra)
    tell ("file operands cannot be combined with --files0-from\n" ++ (← hint))
    exit 2
  | some list, [] => match ← operand list with
    | .error e => die ("open failed: " ++ Text.shellName list ++ ": " ++ e.fault.reason) 2
    | .ok cs =>
      let names := namesOf cs
      if names.isEmpty then die ("no input from " ++ Text.shellQuote list) 2
      for (name, k) in names.zipIdx 1 do
        if list = "-" && name = "-" then
          die ("when reading file names from stdin, no file name of " ++ Text.shellQuote name ++ " allowed") 2
        if name.isEmpty then
          die (Text.shellName list ++ ":" ++ toString k ++ ": invalid zero-length file name") 2
      return names

/-- The first line out of order, with its number. -/
def disorder? (bad : List Char → List Char → Bool) : (number : Nat) → List (List Char) →
    Option (Nat × List Char)
  | n, a :: b :: rest => if bad a b then some (n + 1, b) else disorder? bad (n + 1) (b :: rest)
  | _, _ => none

end Sorting

/-- The key that an argument starts in the old way, with fields counted from zero: a plus and a
position, and a minus and another one in the next argument. -/
def oldKeys : List String → List String
  | [] => []
  | "--" :: rest => "--" :: rest
  | a :: rest => match a.toList with
    | '+' :: c :: cs =>
      if !c.isDigit then a :: oldKeys rest else
      let position (cs : List Char) : Nat × Nat × String :=
        let field := cs.takeWhile Char.isDigit
        let rest := cs.drop field.length
        let char := if rest.head? = some '.' then (rest.drop 1).takeWhile Char.isDigit else []
        let rest := if rest.head? = some '.' then rest.drop (1 + char.length) else rest
        let number (ds : List Char) : Nat := (natural? (String.ofList ds)).getD 0
        (number field, number char, String.ofList rest)
      let (field, char, letters) := position (c :: cs)
      let start := toString (field + 1) ++ "." ++ toString (char + 1) ++ letters
      let finish : Option String := match (rest.headD "").toList with
        | '-' :: d :: ds =>
          if !d.isDigit then none else
          let (field, char, letters) := position (d :: ds)
          some ("," ++ (if char = 0 then toString field
            else toString (field + 1) ++ "." ++ toString char) ++ letters)
        | _ => none
      match finish, rest with
      | some f, _ :: rest => ("-k" ++ start ++ f) :: oldKeys rest
      | _, rest => ("-k" ++ start) :: oldKeys rest
    | _ => a :: oldKeys rest

open Sorting in
def sort : Program Nat := do
  withArguments oldKeys
  let p ← parsed
    { choices := ["b,ignore-leading-blanks", "d,dictionary-order", "f,ignore-case", "g,general-numeric-sort",
        "i,ignore-nonprinting", "M,month-sort", "h,human-numeric-sort", "n,numeric-sort", "R,random-sort",
        "random-source:", "r,reverse", "sort:", "V,version-sort", "batch-size:", "c", "C", "check::",
        "compress-program:", "debug", "files0-from:", "k,key:", "m,merge", "o,output:", "s,stable",
        "S:", "buffer-size:", "t,field-separator:", "T,temporary-directory:", "parallel:", "u,unique",
        "z,zero-terminated"]
      status := 2 }
  whenUnwritten fun e => (["fflush failed: 'standard output': " ++ e.reason, "write error"], 2)
  let letters := ["b", "d", "f", "g", "i", "M", "h", "n", "R", "r", "V"].filter p.has
  let words ← (p.values "sort").mapM fun w => do
    let n ← wordChoice "sort" w
      [["general-numeric"], ["human-numeric"], ["month"], ["numeric"], ["random"], ["version"]]
    return (["g", "h", "M", "n", "R", "V"][n]?).getD ""
  let (global, _) := setOrder true true {} ((letters ++ words).flatMap String.toList)
  let keys ← (p.values "k").mapM readKey
  let inherits (k : SortKey) : SortKey := if k.order.isPlain then { k with order := global } else k
  let keys := keys.map inherits
  let wholly := keys.isEmpty && !({ global with reversed := false } : Order).isPlain
  let keys := if wholly then [{ order := global }] else keys
  match (keys.map SortKey.order).findSome? conflict? with
  | some both => die ("options '-" ++ both ++ "' are incompatible") 2
  | none => pure ()
  let separators ← (p.values "t").mapM fun s => do
    if s.isEmpty then die "empty tab" 2
    if s = "\\0" then return '\x00'
    match s.toList with
    | [c] => return c
    | _ => die ("multi-character tab " ++ Text.literalQuote s) 2
  if separators.eraseDups.length > 1 then die "incompatible tabs" 2
  let separator := separators.head?
  checkResources p
  if 1 < (p.values "o").eraseDups.length then die "multiple output files specified" 2
  let ends := if p.has "z" then '\x00' else '\n'
  let unique := p.has "u"
  let c : Comparison :=
    { keys, separator, whole := keys.isEmpty || !(p.has "s" || unique), reversed := global.reversed }
  let checkings ← ((p.values "check").filter fun (v : String) => !v.isEmpty).mapM fun v =>
    wordChoice "check" v [["quiet", "silent"], ["diagnose-first"]]
  let checks := p.has "c" || p.has "C" || p.has "check"
  let quiet := p.has "C" || checkings.getLast? = some 0
  if p.has "C" && (p.has "c" || (p.has "check" && !quiet)) then die "options '-cC' are incompatible" 2
  let paths ← namedInputs p
  let settled := p.has "s" || unique
  if p.has "debug" then
    if checks || p.has "o" then
      die ("options '-" ++ (if !checks then "o" else if quiet then "C" else "c") ++
        " --debug' are incompatible") 2
    complain "text ordering performed using simple byte comparison"
    (keyOddities keys wholly separator global settled).forM complain
  if checks then
    match p.operands with
    | _ :: extra :: _ => die ("extra operand " ++ Text.shellQuote extra ++ " not allowed with -" ++
        (if quiet then "C" else "c")) 2
    | _ => if p.has "o" then die ("options '-" ++ (if quiet then "C" else "c") ++ "o' are incompatible") 2
  let c ← if !keys.any (fun k => k.order.random) then pure c else match p.value? "random-source" with
    | none => pure c
    | some path => match ← beginningOf path with
      | .error e => die ((match e with
          | .unopened _ => "open failed: "
          | .unreadable _ => "read error: ") ++ Text.shellName path ++ ": " ++ e.fault.reason) 2
      | .ok (cs, endless) =>
        let seed := if endless then extended cs 16 else cs
        if seed.length < 16 then die (Text.shellName path ++ ": end of file") 2
        pure { c with seed := seed.take 16 }
  let rows ← paths.mapM fun path => do
    match ← operand path with
    | .ok cs => return linesOf ends cs
    | .error (.unopened e) => die ("cannot read: " ++ Text.shellName path ++ ": " ++ e.reason) 2
    | .error (.unreadable e) => die ("read failed: " ++ Text.shellName path ++ ": " ++ e.reason) 2
  let same (a b : List Char) : Bool :=
    if c.keys.isEmpty then decide (a = b) else c.byKeys a b == .eq
  if checks then
    let bad (a b : List Char) : Bool := if unique then c.compare a b != .lt else c.compare a b == .gt
    match disorder? bad 1 (rows.headD []) with
    | none => return 0
    | some (n, l) =>
      if !quiet then
        complain (Text.shellName (paths.headD "-") ++ ":" ++ toString n ++ ": disorder: " ++ String.ofList l)
      return 1
  let sorted := if p.has "m" then mergeRows c.le rows else rows.flatten.mergeSort c.le
  let sorted := if unique then firsts same sorted else sorted
  let line (l : List Char) : String :=
    if p.has "debug" then markedLine keys wholly (!settled) separator l
    else String.ofList l ++ String.singleton ends
  let text := String.join (sorted.map line)
  match p.value? "o" with
  | none => put text
  | some path =>
    match ← replaceFile path text with
    | none => pure ()
    | some e => die ("open failed: " ++ Text.shellName path ++ ": " ++ e.reason) 2
  return 0

/-- Runs of lines that count as the same. -/
def runs (same : List Char → List Char → Bool) : List (List Char) → List (List (List Char))
  | [] => []
  | l :: ls => match runs same ls with
    | (m :: ms) :: rest => if same l m then (l :: m :: ms) :: rest else [l] :: (m :: ms) :: rest
    | other => [l] :: other

namespace Uniq

/-- Old options for characters to skip as new ones, as far as two dashes. -/
def skipOptions : List String → List String
  | [] => []
  | "--" :: rest => "--" :: rest
  | a :: rest => (match a.toList with
    | '+' :: cs => if !cs.isEmpty && cs.all Char.isDigit then "-s" ++ String.ofList cs else a
    | _ => a) :: skipOptions rest

def size (text what : String) : Program Nat := do
  match numeral 10 false "" text with
  | (n, none) => return n.toNat
  | (n, some .tooLarge) => return n.toNat
  | _ => die (text ++ ": invalid number of " ++ what) 1

/-- The fields to be skipped: a number, or digits that are options of their own. -/
def fieldsSkipped : List Given → (n : Nat) → (fresh : Bool) → Program Nat
  | [], n, _ => return n
  | o :: rest, n, fresh => do
    match o.key.toList with
    | ['f'] => fieldsSkipped rest (← size o.value "fields to skip") true
    | [c] =>
      if c.isDigit then
        let n := (if fresh then 0 else n * 10) + (c.toNat - '0'.toNat)
        fieldsSkipped rest (min (Nat.pow 2 64 - 1) n) false
      else fieldsSkipped rest n fresh
    | _ => fieldsSkipped rest n fresh

def behindFields : Nat → List Char → List Char
  | 0, cs => cs
  | n + 1, cs => if cs.isEmpty then cs else
    behindFields n ((cs.dropWhile isBlankChar).dropWhile fun c => !isBlankChar c)

end Uniq

open Uniq in
def uniq : Program Nat := do
  withArguments skipOptions
  let p ← parsed { choices := ["c,count", "d,repeated", "D", "all-repeated::", "f,skip-fields:", "group::",
    "i,ignore-case", "s,skip-chars:", "u,unique", "w,check-chars:", "z,zero-terminated"] ++
    (List.range 10).map toString }
  let last (key what : String) : Program (Option Nat) := do
    return (← (p.values key).mapM fun v => Uniq.size v what).getLast?
  let fields ← fieldsSkipped p.options 0 false
  let skipped := (← last "s" "bytes to skip").getD 0
  let checked ← last "w" "bytes to compare"
  let methods := ["none", "prepend", "separate"]
  let chosen ← ((p.values "all-repeated").filter fun (v : String) => !v.isEmpty).mapM fun v =>
    wordChoice "all-repeated" v (methods.map fun m => [m])
  let all := p.has "D" || p.has "all-repeated"
  let method := if p.last? ["D", "all-repeated"] = some "all-repeated" &&
      p.value? "all-repeated" ≠ some "" then ((chosen.getLast?.bind fun n => methods[n]?).getD "none") else "none"
  let groupings := ["prepend", "append", "separate", "both"]
  let chosen ← ((p.values "group").filter fun (v : String) => !v.isEmpty).mapM fun v =>
    wordChoice "group" v (groupings.map fun m => [m])
  let grouping := if !p.has "group" then none else some (if p.value? "group" = some "" then "separate" else
    (chosen.getLast?.bind fun n => groupings[n]?).getD "separate")
  match p.operands with
  | _ :: _ :: extra :: _ => misuse ("extra operand " ++ Text.literalQuote extra) 1
  | _ => pure ()
  if grouping.isSome && (p.has "c" || p.has "d" || all || p.has "u") then
    misuse "--group is mutually exclusive with -c/-d/-D/-u" 1
  if all && p.has "c" then misuse "printing all duplicated lines and repeat counts is meaningless" 1
  let path := p.operands.headD "-"
  let cs ← match ← operand path with
    | .ok cs => pure cs
    | .error (.unopened e) => die (Text.shellName path ++ ": " ++ e.reason) 1
    | .error (.unreadable e) => die ("error reading " ++ Text.shellQuote path ++ ": " ++ e.reason) 1
  let ends := if p.has "z" then '\x00' else '\n'
  let key (l : List Char) : List Char :=
    let l := (behindFields fields l).drop skipped
    let l := match checked with
      | some n => l.take n
      | none => l
    if p.has "i" then l.map Char.toUpper else l
  let rs := runs (fun a b => decide (key a = key b)) (linesOf ends cs)
  let line (l : List Char) : String := String.ofList l ++ String.singleton ends
  let shown := rs.filter fun r =>
    if all then 1 < r.length
    else grouping.isSome || ((!p.has "d" || 1 < r.length) && (!p.has "u" || r.length = 1))
  let texts := shown.map fun r =>
    -- where no single lines and no first ones are wanted, the last of a run is left out
    if all then String.join ((if p.has "u" then r.dropLast else r).map line)
    else if grouping.isSome then String.join (r.map line)
    else
      let count := if p.has "c" then rightAligned 7 (toString r.length) ++ " " else ""
      count ++ line (r.headD [])
  let mark := String.singleton ends
  let text := match (if all then method else grouping.getD "none") with
    | "prepend" => String.join (texts.map fun t => mark ++ t)
    | "append" => String.join (texts.map fun t => t ++ mark)
    | "both" => if texts.isEmpty then "" else mark ++ String.join (texts.map fun t => t ++ mark)
    | "separate" => String.intercalate mark texts
    | _ => String.join texts
  match p.operands with
  | [_, target] =>
    if target = "-" then put text else
    match ← replaceFile target text with
    | none => pure ()
    | some e => die (Text.shellName target ++ ": " ++ e.reason) 1
  | _ => put text
  return 0

/-- The lines of two sorted files side by side: those of the first only, of the second only, and
of both. -/
def commRows : (steps : Nat) → List (List Char) → List (List Char) → List (Nat × List Char)
  | 0, _, _ => []
  | _, [], bs => bs.map (1, ·)
  | _, as, [] => as.map (0, ·)
  | steps + 1, a :: as, b :: bs => match compareChars a b with
    | .lt => (0, a) :: commRows steps as (b :: bs)
    | .gt => (1, b) :: commRows steps (a :: as) bs
    | .eq => (2, a) :: commRows steps as bs

def comm : Program Nat := do
  let p ← parsed { choices := ["1", "2", "3", "check-order", "nocheck-order", "output-delimiter:", "total",
    "z,zero-terminated"] }
  let ends := if p.has "z" then '\x00' else '\n'
  match p.operands with
  | [] => misuse "missing operand" 1
  | [a] => misuse ("missing operand after " ++ Text.literalQuote a) 1
  | [a, b] =>
    let lines (path : String) : Program (List (List Char)) := do
      match ← operand path with
      | .ok cs => return linesOf ends cs
      | .error e => die (nameAndReason path e) 1
    let x ← lines a
    let y ← lines b
    let delimiter := match p.value? "output-delimiter" with
      | some "" => "\x00"
      | some d => d
      | none => "\t"
    let hidden (k : Nat) : Bool := p.has (toString (k + 1))
    let rows := commRows (x.length + y.length + 1) x y
    let unsorted (ls : List (List Char)) : Option (Nat × List Char) :=
      Sorting.disorder? (fun a b => compareChars a b == .gt) 1 ls
    for (k, l) in rows do
      if !hidden k then
        let tabs := (List.range k).filter fun i => !hidden i
        put (String.join (tabs.map fun _ => delimiter) ++ String.ofList l ++ String.singleton ends)
    if p.has "total" then
      let count (k : Nat) : String := toString (rows.filter fun r => r.1 = k).length
      put (count 0 ++ delimiter ++ count 1 ++ delimiter ++ count 2 ++ delimiter ++ "total" ++ String.singleton ends)
    if !p.has "nocheck-order" then
      let mut bad := false
      for (n, ls) in [("1", x), ("2", y)] do
        if (unsorted ls).isSome && (p.has "check-order" || x ≠ y) then
          complain ("file " ++ n ++ " is not in sorted order")
          bad := true
      if bad then die "input is not in sorted order" 1
    return 0
  | _ :: _ :: extra :: _ => misuse ("extra operand " ++ Text.literalQuote extra) 1

namespace Join

def fields (separator : Option Char) (l : List Char) : List (List Char) :=
  match separator with
  | some t => ((String.ofList l).splitOn (String.singleton t)).map String.toList
  | none => (((String.ofList (l.map fun c => if c = '\t' then ' ' else c)).splitOn " ").filter
      fun (w : String) => !w.isEmpty).map String.toList

/-- Pairs of lines whose keys are equal, and lines without a partner. -/
def rows (key₁ key₂ : List (List Char) → List Char) (cmp : List Char → List Char → Ordering) :
    (steps : Nat) → List (List (List Char)) → List (List (List Char)) →
    List (Option (List (List Char)) × Option (List (List Char)))
  | 0, _, _ => []
  | _, [], bs => bs.map fun b => (none, some b)
  | _, as, [] => as.map fun a => (some a, none)
  | steps + 1, a :: as, b :: bs =>
    match cmp (key₁ a) (key₂ b) with
    | .lt => (some a, none) :: rows key₁ key₂ cmp steps as (b :: bs)
    | .gt => (none, some b) :: rows key₁ key₂ cmp steps (a :: as) bs
    | .eq =>
      let more := as.takeWhile fun x => cmp (key₁ x) (key₂ b) == .eq
      let others := bs.takeWhile fun y => cmp (key₁ a) (key₂ y) == .eq
      let pairs := (a :: more).flatMap fun x => (b :: others).map fun y => (some x, some y)
      pairs ++ rows key₁ key₂ cmp steps (as.drop more.length) (bs.drop others.length)

/-- A place in the output: a file and a field, or no file for the field that is common. -/
def readPlace (text : String) : Program (Nat × Nat) := do
  let bad (what part : String) : Program (Nat × Nat) := die (what ++ ": " ++ Text.literalQuote part) 1
  match text.toList with
  | ['0'] => return (0, 0)
  | '0' :: _ => bad "invalid field specifier" text
  | file :: rest =>
    if file ≠ '1' && file ≠ '2' then bad "invalid file number in field spec" text
    else match rest with
      | '.' :: ds => match natural? (String.ofList ds) with
        | some 0 => bad "invalid field number" (String.ofList ds)
        | some n => return (file.toNat - '0'.toNat, n)
        | none => bad "invalid field number" (String.ofList ds)
      | _ => bad "invalid field specifier" text
  | [] => return (0, 0)

end Join

open Join in
def join : Program Nat := do
  let p ← parsed { choices := ["a:", "v:", "e:", "i,ignore-case", "j:", "o:", "t:", "1:", "2:",
    "check-order", "nocheck-order", "header", "z,zero-terminated"] }
  let number (key : String) : Program (Option Nat) := do
    match p.value? key with
    | none => return none
    | some v => match natural? v with
      | some 0 => die ("invalid field number: " ++ Text.literalQuote v) 1
      | some n => return some n
      | none => die ("invalid field number: " ++ Text.literalQuote v) 1
  for side in p.values "a" ++ p.values "v" do
    if side ≠ "1" && side ≠ "2" then die ("invalid field number: " ++ Text.literalQuote side) 1
  let j ← number "j"
  let f₁ := ((← number "1").or j).getD 1
  let f₂ := ((← number "2").or j).getD 1
  let separator ← match p.value? "t" with
    | none => pure none
    | some "" => pure (some '\n')
    | some s => match s.toList with
      | [c] => pure (some c)
      | _ => if s = "\\0" then pure (some '\x00') else die ("multi-character tab " ++ Text.literalQuote s) 1
  let format ← if p.values "o" = ["auto"] then pure [] else
    ((p.values "o").flatMap fun o => (o.splitOn ",").flatMap fun (w : String) =>
      (w.splitOn " ").filter fun (v : String) => !v.isEmpty).mapM readPlace
  match p.operands with
  | [] => misuse "missing operand" 1
  | [a] => misuse ("missing operand after " ++ Text.literalQuote a) 1
  | [a, b] =>
    let ends := if p.has "z" then '\x00' else '\n'
    let lines (path : String) : Program (List (List Char)) := do
      match ← operand path with
      | .ok cs => return linesOf ends cs
      | .error e => die (nameAndReason path e) 1
    let x ← lines a
    let y ← lines b
    let fold (cs : List Char) : List Char := if p.has "i" then cs.map Char.toUpper else cs
    let key (n : Nat) (fs : List (List Char)) : List Char := fold ((fs[n - 1]?).getD [])
    let xs := x.map (fields separator)
    let ys := y.map (fields separator)
    let (header, xs, ys) := if p.has "header" then
        ((match xs.head?, ys.head? with
          | none, none => []
          | h, k => [(some (h.getD []), some (k.getD []))]), xs.tail, ys.tail)
      else ([], xs, ys)
    let all := rows (key f₁) (key f₂) compareChars (xs.length + ys.length + 1) xs ys
    let between := String.singleton (separator.getD ' ')
    let filler := (p.value? "e").getD ""
    let shown (fs : List (List Char)) (n : Nat) : String := match fs[n]? with
      | some [] => filler
      | some cs => String.ofList cs
      | none => filler
    let others (n : Nat) (fs : List (List Char)) : List String :=
      ((fs.zipIdx).filter fun e => e.2 + 1 ≠ n).map fun e => shown fs e.2
    let render (r : Option (List (List Char)) × Option (List (List Char))) : String :=
      let u := r.1.getD []
      let v := r.2.getD []
      let k := if r.1.isSome then shown u (f₁ - 1) else shown v (f₂ - 1)
      let texts := if format.isEmpty then k :: others f₁ u ++ others f₂ v
        else format.map fun f => match f with
          | (0, _) => k
          | (1, n) => shown u (n - 1)
          | (_, n) => shown v (n - 1)
      String.intercalate between texts ++ String.singleton ends
    let sides := p.values "a" ++ p.values "v"
    for r in header ++ all do
      let wanted := match r with
        | (some _, some _) => !p.has "v"
        | (some _, none) => sides.contains "1"
        | (none, some _) => sides.contains "2"
        | (none, none) => false
      if wanted then put (render r)
    let unsorted (n : Nat) (ls : List (List Char)) : Option (Nat × List Char) :=
      Sorting.disorder? (fun a b => compareChars (key n (fields separator a)) (key n (fields separator b)) == .gt) 1 ls
    if !p.has "nocheck-order" && !p.has "header" then
      let unpaired := all.any fun r => r.1.isNone || r.2.isNone
      let mut bad := false
      for (path, found) in [(a, unsorted f₁ x), (b, unsorted f₂ y)] do
        match found with
        | some (n, l) =>
          if unpaired || p.has "check-order" then
            complain (Text.shellName path ++ ":" ++ toString n ++ ": is not sorted: " ++ String.ofList l)
            bad := true
        | none => pure ()
      if bad then die "input is not in sorted order" 1
    return 0
  | _ :: _ :: extra :: _ => misuse ("extra operand " ++ Text.literalQuote extra) 1

end DeltaDebugging.Utility
