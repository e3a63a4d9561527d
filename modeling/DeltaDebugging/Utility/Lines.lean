import DeltaDebugging.Utility.Options

/-!
# Filters over lines

Programs that pass on, cut off or count the lines of their inputs.
-/
namespace DeltaDebugging.Utility

open Program

/-- A number on the right of a field. -/
def rightAligned (width : Nat) (s : String) : String :=
  String.ofList (List.replicate (width - s.length) ' ') ++ s

def leftAligned (width : Nat) (s : String) : String :=
  s ++ String.ofList (List.replicate (width - s.length) ' ')

/-- The operands, or the standard input if there are none. -/
def inputs (p : Parsed) : List String := if p.operands.isEmpty then ["-"] else p.operands

/-- Works on the content of each input; one that cannot be read is complained of. -/
def eachRead (read : String → Program (Except Unread (List Char))) (paths : List String) (status : Nat)
    (text : String → Unread → String) (act : String → List Char → Program Unit) : Program Unit :=
  paths.forM fun path => do
    match ← read path with
    | .ok cs => act path cs
    | .error e =>
      complain (text path e)
      raise status

def eachInput (paths : List String) (status : Nat) (text : String → Unread → String)
    (act : String → List Char → Program Unit) : Program Unit := eachRead operand paths status text act

def eachStream (paths : List String) (status : Nat) (text : String → Unread → String)
    (act : String → List Char → Program Unit) : Program Unit := eachRead streamed paths status text act

def nameAndReason (path : String) (e : Unread) : String :=
  Text.shellName path ++ ": " ++ e.fault.reason

/-- A byte made visible: control characters behind a caret, high ones behind `M-`. -/
def visible (tabs : Bool) (c : Char) : String :=
  let low (n : Nat) : String :=
    if n < 32 then "^" ++ String.singleton (Char.ofNat (n + 64))
    else if n = 127 then "^?" else String.singleton (Char.ofNat n)
  let n := c.toNat
  if c = '\n' || (c = '\t' && !tabs) then String.singleton c
  else if n < 128 then low n else "M-" ++ low (n - 128)

structure Shown where
  numbers : Bool := false
  onlyFull : Bool := false
  squeezes : Bool := false
  ends : Bool := false
  tabs : Bool := false
  controls : Bool := false

/-- Where `cat` is: the number of the last line, whether a line begins, and how many empty lines
came before. -/
structure CatPlace where
  number : Nat := 0
  begins : Bool := true
  blanks : Nat := 0

def Shown.char (s : Shown) (next : Option Char) (c : Char) : String :=
  if s.controls then visible s.tabs c
  else if c = '\t' && s.tabs then "^I"
  else if c = '\r' && s.ends && next = some '\n' then "^M"
  else String.singleton c

def Shown.lines (s : Shown) : CatPlace → List Char → List Char → CatPlace × List Char
  | place, out, [] => (place, out)
  | place, out, c :: cs =>
    let blank := place.begins && c = '\n'
    if blank && s.squeezes && 1 ≤ place.blanks then s.lines place out cs else
    let counts := place.begins && (s.numbers || s.onlyFull) && !(blank && s.onlyFull)
    let number := if counts then place.number + 1 else place.number
    let mark := if counts then rightAligned 6 (toString number) ++ "\t" else ""
    let text := if c = '\n' then (if s.ends then "$\n" else "\n") else s.char cs.head? c
    let out := text.toList.reverse ++ (mark.toList.reverse ++ out)
    s.lines ⟨number, c = '\n', if blank then place.blanks + 1 else 0⟩ out cs

def cat : Program Nat := do
  let p ← parsed { choices := ["A,show-all", "b,number-nonblank", "e", "E,show-ends", "n,number",
    "s,squeeze-blank", "t", "T,show-tabs", "u", "v,show-nonprinting"] }
  let all := p.has "A"
  let shown : Shown :=
    { numbers := p.has "n" && !p.has "b", onlyFull := p.has "b", squeezes := p.has "s"
      ends := all || p.has "e" || p.has "E", tabs := all || p.has "t" || p.has "T"
      controls := all || p.has "e" || p.has "t" || p.has "v" }
  let plain := !(shown.numbers || shown.onlyFull || shown.squeezes || shown.ends || shown.tabs ||
    shown.controls)
  if (← opening? 1).isNone then die ("standard output: " ++ FileFault.badDescriptor.reason) 1
  let mut place : CatPlace := {}
  for path in inputs p do
    match ← streamed path with
    | .error e =>
      complain (nameAndReason path e)
      raise 1
    | .ok cs =>
      if plain then put (String.ofList cs) else
      let (next, out) := shown.lines place [] cs
      place := next
      put (String.ofList out.reverse)
  if (inputs p).contains "-" && (← opening? 0).isNone then
    complain ("closing standard input: " ++ FileFault.badDescriptor.reason)
    raise 1
  return 0

def suffixFactor? (s : String) : Option Nat :=
  if s = "" then some 1 else if s = "b" then some 512
  else
    let units := "KMGTPEZY".toList
    let unit (c : Char) : Option Nat :=
      let c := if c = 'k' then 'K' else if c = 'm' then 'M' else c
      (units.idxOf? c).map (· + 1)
    match s.toList with
    | [c] => (unit c).map fun n => Nat.pow 1024 n
    | [c, 'B'] => (unit c).map fun n => Nat.pow 1000 n
    | [c, 'i', 'B'] => (unit c).map fun n => Nat.pow 1024 n
    | _ => none

def count? (s : String) : Option Nat :=
  let ds := s.toList.takeWhile Char.isDigit
  match natural? (String.ofList ds), suffixFactor? (String.ofList (s.toList.drop ds.length)) with
  | some n, some f => some (n * f)
  | _, _ => none

def countOrDie (what text : String) : Program Nat := do
  match count? text with
  | some n =>
    if Nat.pow 2 64 ≤ n then
      die ("invalid number of " ++ what ++ ": " ++ Text.literalQuote text ++
        ": Value too large for defined data type") 1
    else return n
  | none => die ("invalid number of " ++ what ++ ": " ++ Text.literalQuote text) 1

/-- The first bytes up to the `n`-th end of a line. -/
def firstLines (ends : Char) : Nat → List Char → List Char
  | 0, _ => []
  | _, [] => []
  | n + 1, c :: cs => c :: firstLines ends (if c = ends then n else n + 1) cs

/-- The text behind the first `n` lines. -/
def afterLines (ends : Char) : Nat → List Char → List Char
  | 0, cs => cs
  | _, [] => []
  | n + 1, c :: cs => afterLines ends (if c = ends then n else n + 1) cs

def lineCount (ends : Char) (cs : List Char) : Nat :=
  cs.count ends + (if cs.getLast?.any (· ≠ ends) then 1 else 0)

/-- A part of a text: some lines or bytes of its beginning or end, or all but some. -/
structure Section where
  bytes : Bool := false
  size : Nat := 10
  /-- Whether the size tells what is left out, and not what is taken. -/
  spares : Bool := false
  ends : Char := '\n'

def Section.first (s : Section) (cs : List Char) : List Char :=
  let n := if s.spares then (if s.bytes then cs.length else lineCount s.ends cs) - s.size else s.size
  if s.bytes then cs.take n else firstLines s.ends n cs

/-- The end of a text; what is spared is at its beginning. -/
def Section.last (s : Section) (cs : List Char) : List Char :=
  if s.spares then if s.bytes then cs.drop (s.size - 1) else afterLines s.ends (s.size - 1) cs
  else if s.bytes then cs.drop (cs.length - s.size)
  else afterLines s.ends (lineCount s.ends cs - s.size) cs

/-- An old form of an option, as a number with letters behind a sign; gives the new one. -/
def oldOption (sign : Char) : List String → List String
  | a :: rest => match a.toList with
    | c :: cs =>
      let ds := cs.takeWhile Char.isDigit
      let letters := cs.drop ds.length
      if c = sign && !ds.isEmpty && letters.all (fun l => "bcklmqvz".toList.contains l) then
        let n := String.ofList ds
        let n := if sign = '+' then "+" ++ n else n
        let size := if letters.contains 'c' then "-c" ++ n
          else if letters.contains 'b' then "-c" ++ n ++ "b"
          else if letters.contains 'k' then "-c" ++ n ++ "k"
          else if letters.contains 'm' then "-c" ++ n ++ "m"
          else "-n" ++ n
        let more := letters.filter fun l => l = 'q' || l = 'v' || l = 'z'
        (if more.isEmpty then [size] else [size, "-" ++ String.ofList more]) ++ rest
      else a :: rest
    | [] => a :: rest
  | [] => []

def withArguments (f : List String → List String) : Program Unit :=
  modify fun w => { w with invocation := { w.invocation with arguments := f w.invocation.arguments } }

def banner (started : Bool) (path : String) : String :=
  (if started then "\n" else "") ++ "==> " ++ (if path = "-" then "standard input" else path) ++ " <==\n"

/-- The part that options ask for; `mark` is the sign before a size that spares. -/
def sectionOf (p : Parsed) (mark : Char) : Program Section := do
  let ends := if p.has "z" then '\x00' else '\n'
  match p.last? ["n", "c"] with
  | none => return { ends }
  | some key =>
    let text := (p.value? key).getD ""
    let spares := text.toList.head? = some mark
    let bare := match text.toList with
      | '-' :: cs => String.ofList cs
      | '+' :: cs => if mark = '+' then String.ofList cs else text
      | _ => text
    let size ← countOrDie (if key = "c" then "bytes" else "lines") bare
    return { bytes := key = "c", size, spares, ends }

def extended (cs : List Char) (length : Nat) : List Char :=
  if cs.isEmpty || length ≤ cs.length then cs
  else List.replicate (min length 20000000) (cs.headD '\x00')

def head : Program Nat := do
  withArguments (oldOption '-')
  let p ← parsed { choices := ["n,lines:", "c,bytes:", "q,quiet,silent", "v,verbose", "z,zero-terminated"] }
  let s ← sectionOf p '-'
  let paths := inputs p
  let banners := match p.last? ["q", "v"] with
    | some k => decide (k = "v")
    | none => decide (1 < paths.length)
  let mut started := false
  for path in paths do
    let found ← if path = "-" then inputSoFar else beginningOf path
    match found with
    | .error (.unopened e) =>
      complain ("cannot open " ++ Text.shellQuote path ++ " for reading: " ++ e.reason)
      raise 1
    | .error (.unreadable e) =>
      if banners then put (banner started path)
      started := true
      complain ("error reading " ++ Text.shellQuote (if path = "-" then "standard input" else path) ++
        ": " ++ e.reason)
      raise 1
    | .ok (cs, endless) =>
      if endless && s.spares then throw .endless
      let cs := if endless && s.bytes then extended cs s.size else cs
      let part := s.first cs
      if endless && !s.bytes && lineCount s.ends part < s.size then throw .endless
      if banners then put (banner started path)
      started := true
      put (String.ofList part)
      if path = "-" then
        takeInput cs.length
        giveBack (cs.drop part.length) (s.bytes && !s.spares)
  return 0

def tail : Program Nat := do
  withArguments (oldOption '-' ∘ oldOption '+')
  let p ← parsed { choices := ["n,lines:", "c,bytes:", "q,quiet,silent", "v,verbose", "z,zero-terminated",
    "f,follow::", "F", "s,sleep-interval:", "pid:", "retry", "max-unchanged-stats:"] }
  let s ← sectionOf p '+'
  let paths := inputs p
  let banners := match p.last? ["q", "v"] with
    | some k => decide (k = "v")
    | none => decide (1 < paths.length)
  let mut started := false
  for path in paths do
    match ← operand path with
    | .error (.unopened e) =>
      complain ("cannot open " ++ Text.shellQuote path ++ " for reading: " ++ e.reason)
      raise 1
    | .error (.unreadable e) =>
      if banners then put (banner started path)
      started := true
      complain ("error reading " ++ Text.shellQuote (if path = "-" then "standard input" else path) ++
        ": " ++ e.reason)
      raise 1
    | .ok cs =>
      if banners then put (banner started path)
      started := true
      put (String.ofList (s.last cs))
  if (p.has "f" || p.has "F") && paths ≠ ["-"] then
    let _ ← flush
    throw .endless
  return 0

structure Counts where
  lines : Nat := 0
  words : Nat := 0
  characters : Nat := 0
  bytes : Nat := 0
  longest : Nat := 0

def Counts.add (a b : Counts) : Counts :=
  ⟨a.lines + b.lines, a.words + b.words, a.characters + b.characters, a.bytes + b.bytes,
    max a.longest b.longest⟩

/-- Whether a character keeps words apart, although it may not be broken at. -/
def isFirmBlank (c : Char) : Bool := ['\u00a0', '\u2007', '\u202f', '\u2060'].contains c

/-- Counts characters; `column` is the width of the line so far, and the flag holds within a
word. Stray bytes count for nothing. -/
def Counts.of (k : Counts) (column : Nat) (inWord : Bool) : List Char → Counts
  | [] => { k with
      longest := max k.longest column, words := if inWord then k.words + 1 else k.words }
  | c :: cs =>
    if Octets.isStray c then Counts.of k column inWord cs else
    let blank := (Text.isSpaceCharacter c || isFirmBlank c) && (c.toNat < 0x80 || Text.isPrintable c)
    let words := if blank && inWord then k.words + 1 else k.words
    let next : Nat := if c = '\n' || c = '\r' || c = '\x0c' then 0
      else if c = '\t' then column + (8 - column % 8)
      else column + Text.columns c
    let longest := if next = 0 then max k.longest column else k.longest
    let counted : Counts :=
      { k with lines := if c = '\n' then k.lines + 1 else k.lines, words, characters := k.characters + 1, longest }
    Counts.of counted next (!blank && (inWord || Text.isPrintable c)) cs

def Counts.ofBytes (bytes : List Char) : Counts :=
  { Counts.of {} 0 false (Octets.characters bytes) with bytes := bytes.length }

/-- The size of what a path names, if that is a plain file. -/
def regularSize? (path : String) : Program (Option (Option Nat)) := do
  let size (node : FileNode) : Option Nat := match node.kind with
    | .regular content => some content.length
    | _ => none
  if path = "-" then
    match ← opening? 0 with
    | none => return none
    | some o =>
      let s ← system
      match s.opening? o with
      | some ⟨.node n, _, _, _, _⟩ => return some ((s.files.node? n).bind size)
      | _ => return some none
  else return ((← files).look? path).map size

def wc : Program Nat := do
  whenUnwrittenLate
  let p ← parsed { choices := ["l,lines", "w,words", "c,bytes", "m,chars", "L,max-line-length",
    "files0-from:"] }
  let all := !(["l", "w", "c", "m", "L"].any p.has)
  let columns (k : Counts) : List Nat :=
    (if all || p.has "l" then [k.lines] else []) ++ (if all || p.has "w" then [k.words] else []) ++
      (if p.has "m" then [k.characters] else []) ++ (if all || p.has "c" then [k.bytes] else []) ++
      (if p.has "L" then [k.longest] else [])
  let listed ← match p.value? "files0-from", p.operands with
    | none, _ => pure none
    | some _, extra :: _ => do
      complain ("extra operand " ++ Text.literalQuote extra)
      tell ("file operands cannot be combined with --files0-from\n" ++ (← hint))
      exit 1
    | some list, [] => match ← operand list with
      | .ok cs => pure (some ((linesOf '\x00' cs).map String.ofList))
      | .error e => die ("cannot open " ++ Text.shellQuote list ++ " for reading: " ++ e.fault.reason) 1
  let paths := listed.getD (inputs p)
  let width ← if paths.length = 1 && (columns {}).length = 1 then pure 1 else do
    let sizes ← paths.mapM regularSize?
    let total := (sizes.map fun s => (s.getD (some 0)).getD 0).foldl (· + ·) 0
    let least := if sizes.any fun s => s = some none then 7 else 1
    pure (match sizes with
      | none :: _ => 1
      | _ => max least (toString total).length)
  let line (k : Counts) (name : Option String) : String :=
    String.intercalate " " ((columns k).map fun n => rightAligned width (toString n)) ++
      (match name with
      | some s => " " ++ s
      | none => "") ++ "\n"
  let mut sum : Counts := {}
  for path in paths do
    let name := if p.operands.isEmpty && listed.isNone then none else some (Text.shellName path)
    match ← operand path with
    | .error e =>
      complain (nameAndReason path e)
      raise 1
      match e with
      | .unreadable _ => put (line {} name)
      | .unopened _ => pure ()
    | .ok cs =>
      let k := Counts.ofBytes cs
      sum := sum.add k
      put (line k name)
  if 1 < paths.length then put (line sum (some "total"))
  return 0

def tee : Program Nat := do
  whenUnwritten fun e => (["'standard output': " ++ e.reason], 1)
  let p ← parsed { choices := ["a,append", "i,ignore-interrupts", "p,output-error::"] }
  let access : System.Access := if p.has "a" then .toAppend else .toReplace
  let mut openings : List (String × Nat) := []
  for path in p.operands do
    match ← openPath path access with
    | .ok o => openings := openings ++ [(path, o)]
    | .error e =>
      complain (Text.shellName path ++ ": " ++ e.reason)
      raise 1
  match ← streamed "-" with
  | .error e =>
    complain ("read error: " ++ e.fault.reason)
    if e.fault = .badDescriptor then complain ("standard input: " ++ e.fault.reason)
    raise 1
  | .ok cs =>
    put (String.ofList cs)
    for (path, o) in openings do
      match (← system).write o (String.ofList cs) with
      | .ok s => setSystem s
      | .error e =>
        complain (Text.shellName path ++ ": " ++ e.reason)
        raise 1
  return 0

end DeltaDebugging.Utility
