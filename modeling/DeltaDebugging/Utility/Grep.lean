import DeltaDebugging.Regex.Perl
import DeltaDebugging.Shell.Pattern
import DeltaDebugging.Utility.Lines

/-!
# Selecting lines by patterns

Prints the lines in which one of some patterns is found, or those in which none is, with what
surrounds them; or only counts them, or names the files.
-/
namespace DeltaDebugging.Utility

open Program

namespace Grep

/-- The patterns, and where in a line they may be found. -/
structure Sought where
  patterns : List Regex.Parsed
  folds : Bool
  /-- Whether the first match in the order of choices counts, and not the longest. -/
  ordered : Bool
  words : Bool
  wholeLines : Bool

/-- The colors of what is printed; an empty one leaves a text as it is. -/
structure Palette where
  selected : String := "01;31"
  context : String := "01;31"
  selectedLine : String := ""
  contextLine : String := ""
  name : String := "35"
  number : String := "32"
  offset : String := "32"
  sign : String := "36"
  /-- Whether colors of lines change places if lines are selected that do not match. -/
  reverses : Bool := false
  /-- Whether the rest of a line is cleared behind a color. -/
  clears : Bool := true

structure Output where
  inverted : Bool := false
  counts : Bool := false
  onlyMatches : Bool := false
  /-- Names of files only: of those that have lines selected, or of those that have none. -/
  names : Option Bool := none
  quiet : Bool := false
  numbers : Bool := false
  offsets : Bool := false
  withName : Bool := false
  /-- Whether a null character stands behind names. -/
  nullNames : Bool := false
  tab : Bool := false
  palette : Option Palette := none
  limit : Option Nat := none
  before : Nat := 0
  after : Nat := 0
  /-- Whether groups of lines that do not touch are kept apart. -/
  contextual : Bool := false
  separator : Option String := some "--"
  ends : Char := '\n'
  /-- What is done with files that are no text: nothing special, or passed over. -/
  asText : Bool := false
  skipsBinary : Bool := false

def subject (s : Sought) (r : Regex.Parsed) (line : Array Char) : Regex.Subject :=
  { text := line, folds := s.folds, lines := s.ordered, longest := !s.ordered
    exact := r.regex.refersBack, wide := !s.ordered, routines := r.routines }

/-- The first place from `i` on where an expression is found as asked for. -/
def find? (s : Sought) (r : Regex.Parsed) (line : Array Char) (i : Nat) : Option (Nat × Nat) :=
  let t := subject s r line
  if s.wholeLines then
    if i = 0 && (Regex.ends t r.regex { position := 0, start := 0 }).any (fun p => p.position = line.size) then
      some (0, line.size)
    else none
  else if s.words then
    (List.range (line.size + 1 - i)).findSome? fun k =>
      let a := i + k
      if t.wordBefore a then none else
      ((Regex.ends t r.regex { position := a, start := a }).find? fun p => !t.wordAt p.position).map fun p =>
        (p.start, p.position)
  else (Regex.search t r.regex i).map fun p => (p.start, p.position)

/-- The first of the longest matches of any pattern. -/
def findAny? (s : Sought) (line : Array Char) (i : Nat) : Option (Nat × Nat) :=
  s.patterns.foldl (fun best r => match best, find? s r line i with
    | none, found => found
    | best, none => best
    | some (a, b), some (c, d) => if c < a || (c = a && b < d) then some (c, d) else some (a, b)) none

def matchesLine (s : Sought) (line : Array Char) : Bool :=
  s.patterns.any fun r => (find? s r line 0).isSome

/-- All matches in a line that are not empty, from left to right. -/
def allMatches (s : Sought) (line : Array Char) : (steps : Nat) → (i : Nat) → List (Nat × Nat)
  | 0, _ => []
  | steps + 1, i =>
    if line.size < i then [] else
    match findAny? s line i with
    | none => []
    | some (a, b) =>
      if a = b then allMatches s line steps (a + 1) else (a, b) :: allMatches s line steps b

/-- A line by its characters, with its number and where it starts. -/
structure Line where
  text : Array Char
  number : Nat
  offset : Nat
  deriving Inhabited

def numbered (ends : Char) (cs : List Char) : List Line :=
  ((linesOf ends cs).foldl (fun (acc : List Line × Nat × Nat) l =>
    (⟨(Octets.characters l).toArray, acc.2.1, acc.2.2⟩ :: acc.1, acc.2.1 + 1, acc.2.2 + l.length + 1))
      ([], 1, 0)).1.reverse

def bytesOf (cs : Array Char) : String := String.ofList (Octets.ofCharacters cs.toList)

def colored (o : Output) (color : Palette → String) (text : String) : String :=
  match o.palette with
  | none => text
  | some p =>
    let clear := if p.clears then "\x1b[K" else ""
    if (color p).isEmpty then text
    else "\x1b[" ++ color p ++ "m" ++ clear ++ text ++ "\x1b[m" ++ clear

def begun (o : Output) (color : Palette → String) (text : String) : String :=
  match o.palette with
  | none => text
  | some p => if (color p).isEmpty then text
    else "\x1b[" ++ color p ++ "m" ++ (if p.clears then "\x1b[K" else "") ++ text

/-- The name of a file, with the sign behind it or a null character. -/
def nameLead (o : Output) (path sign : String) : String :=
  colored o Palette.name path ++ (if o.nullNames then "\x00" else colored o Palette.sign sign)

/-- What stands before a line: the name of its file, its number, its place. -/
def lead (o : Output) (width : Nat) (path sign : String) (number offset length : Nat) : String :=
  let shown (color : Palette → String) (n : Nat) : String :=
    colored o color (rightAligned (if o.tab then width else 0) (toString n)) ++ colored o Palette.sign sign
  let all := (if o.withName then nameLead o path sign else "") ++
    (if o.numbers then shown Palette.number number else "") ++
    (if o.offsets then shown Palette.offset offset else "")
  if o.tab && !all.isEmpty && 0 < length then all ++ "\t" else all

/-- Whether some bytes of a text are no characters, and that matters. -/
def isBroken (o : Output) (cs : Array Char) : Bool := !o.asText && cs.any Octets.isStray

structure Task where
  output : Output
  sought : Sought
  path : String
  /-- The width of numbers that are lined up. -/
  width : Nat
  lines : Array Line

/-- Shows the matches of a line, each on its own, up to one that is no text. -/
def showMatches (t : Task) (sign : String) (l : Line) : List (Nat × Nat) → Program Bool
  | [] => return true
  | (a, b) :: more => do
    let o := t.output
    let piece := l.text.extract a b
    if isBroken o piece then return false
    let offset := l.offset + (bytesOf (l.text.extract 0 a)).length
    put (lead o t.width t.path sign l.number offset piece.size ++ colored o Palette.selected (bytesOf piece) ++
      String.singleton o.ends)
    showMatches t sign l more

/-- Shows a line, selected or around one; tells whether it could be shown. -/
def showLine (t : Task) (selected : Bool) (l : Line) : Program Bool := do
  let o := t.output
  let sign := if selected then ":" else "-"
  let matching := selected != o.inverted
  let found : Unit → List (Nat × Nat) := fun _ => allMatches t.sought l.text (l.text.size + 2) 0
  if o.onlyMatches then
    if matching then showMatches t sign l (found ()) else return true
  else
    if isBroken o l.text then return false
    let text := match o.palette with
      | none => bytesOf l.text
      | some p =>
        let swaps := o.inverted && p.reverses
        let line (p : Palette) : String := if selected != swaps then p.selectedLine else p.contextLine
        let hit (p : Palette) : String := if selected then p.selected else p.context
        let (out, last) := (if matching then found () else []).foldl (fun (acc : String × Nat) m =>
          (acc.1 ++ begun o line (bytesOf (l.text.extract acc.2 m.1)) ++ colored o hit (bytesOf (l.text.extract m.1 m.2)), m.2)) ("", 0)
        out ++ if last = l.text.size then "" else colored o line (bytesOf (l.text.extract last l.text.size))
    put (lead o t.width t.path sign l.number l.offset l.text.size ++ text ++ String.singleton o.ends)
    return true

/-- Where the printing of one file is: the number selected, the place behind the line shown
last, how many more follow a selected one, whether a group of lines was shown, and whether
some line could not be. -/
structure Progress where
  selected : Nat := 0
  behind : Option Nat := none
  pending : Nat := 0
  used : Bool := false
  broken : Bool := false
  /-- The place behind the line selected last. -/
  next : Nat := 0

def showAt (t : Task) (selected : Bool) (place : Nat) (g : Progress) : Program Progress := do
  match t.lines[place]? with
  | none => return g
  | some l =>
    if ← showLine t selected l then return { g with behind := some (place + 1) }
    else return { g with broken := true }

/-- Shows the lines that follow a selected one, up to a place. -/
def showPending (t : Task) (place : Nat) : (pending : Nat) → Progress → Program Progress
  | 0, g => return { g with pending := 0 }
  | pending + 1, g => do
    let next := g.behind.getD 0
    if place ≤ next then return { g with pending := 0 }
    showPending t place pending (← showAt t false next g)

/-- Shows the selected line at a place with what is before it. -/
def showSelected (t : Task) (place : Nat) (g : Progress) : Program Progress := do
  let o := t.output
  let g ← showPending t place g.pending g
  let first := max (place - o.before) (min place (g.behind.getD 0))
  match o.separator with
  | some text =>
    if o.contextual && g.used && g.behind ≠ some first then put (colored o Palette.sign text ++ "\n")
  | none => pure ()
  let mut g := g
  for k in List.range (place - first) do g ← showAt t false (first + k) g
  g ← showAt t true place g
  return { g with pending := o.after, used := true }

def scan (t : Task) (silent : Bool) : (left : Nat) → (place : Nat) → Progress → Program Progress
  | 0, _, g => if silent then return g else showPending t t.lines.size g.pending g
  | left + 1, place, g => do
    let full := t.output.limit.any fun n => n ≤ g.selected
    if full then if silent then return g else return ← showPending t t.lines.size g.pending g
    let hit := (t.lines[place]?).any fun l => matchesLine t.sought l.text != t.output.inverted
    if !hit then scan t silent left (place + 1) g else
    let g := { g with selected := g.selected + 1, next := place + 1 }
    if silent then
      if t.output.counts then scan t silent left (place + 1) g else return g
    else scan t silent left (place + 1) (← showSelected t place g)

/-- How many figures a place in a file has at most; what is no plain file may be of any size. -/
def placeWidth (o : Output) (path : String) : Program Nat := do
  match ← regularSize? path with
  | some (some n) => return (toString (n + if o.numbers then 1 else 0)).length
  | _ => return 19

/-- Searches the content of a file; tells whether a line was selected. -/
def searchContent (o : Output) (s : Sought) (path shown : String) (cs : List Char) : Program Bool := do
  let binary := !o.asText && o.ends = '\n' && cs.contains '\x00'
  if binary && o.skipsBinary then return false
  let cs := if binary then cs.map fun c => if c = '\x00' then '\n' else c else cs
  if o.limit = some 0 then return false
  let listing := o.counts || o.names.isSome || o.quiet
  let width ← if o.tab then placeWidth o path else pure 0
  let t : Task := { output := o, sought := s, path := shown, width, lines := (numbered o.ends cs).toArray }
  let g ← scan t (listing || binary) t.lines.size 0 {}
  let n := g.selected
  if o.quiet && 0 < n then exit 0
  let full := o.limit.any fun m => m ≤ n
  if (o.names.isSome && 0 < n) || full then settle
  if path = "-" && full then
    match t.lines[g.next]? with
    | some l => giveBack (cs.drop l.offset) false
    | none => pure ()
  if !o.skipsBinary && ((binary && !listing && 0 < n) || g.broken) then
    complain (shown ++ ": binary file matches")
  let nameOnly := o.names.any fun selected => selected = decide (0 < n)
  if o.counts && o.names.isNone then
    put ((if o.withName then nameLead o shown ":" else "") ++ toString n ++ "\n")
  if nameOnly then put (colored o Palette.name shown ++ (if o.nullNames then "\x00" else "\n"))
  return decide (0 < n)

def readPalette (p : Palette) (text : String) : Palette :=
  (text.splitOn ":").foldl (fun p item =>
    let key := String.ofList (item.toList.takeWhile (· ≠ '='))
    let value := String.ofList ((item.toList.dropWhile (· ≠ '=')).drop 1)
    match key with
    | "mt" => { p with selected := value, context := value }
    | "ms" => { p with selected := value }
    | "mc" => { p with context := value }
    | "sl" => { p with selectedLine := value }
    | "cx" => { p with contextLine := value }
    | "fn" => { p with name := value }
    | "ln" => { p with number := value }
    | "bn" => { p with offset := value }
    | "se" => { p with sign := value }
    | "rv" => { p with reverses := true }
    | "ne" => { p with clears := false }
    | _ => p) p

structure Filter where
  includes : List String := []
  excludes : List String := []
  excludedDirectories : List String := []

def fits (pattern name : String) : Bool :=
  Shell.Glob.accepts (Shell.Glob.ofMarked (pattern.toList.map fun c => (c, false))) name.toList

def lastName (path : String) : String :=
  (((path.splitOn "/").filter fun (n : String) => !n.isEmpty).getLast?).getD path

def Filter.takes (f : Filter) (path : String) : Bool :=
  let name := lastName path
  !f.excludes.any (fun p => fits p name || fits p path) &&
    (f.includes.isEmpty || f.includes.any fun p => fits p name || fits p path)

/-- The files below a path, those of a directory in order. -/
def below (files : Files) (f : Filter) (deep : Bool) : (depth : Nat) → (top : Bool) → String → List String
  | 0, _, path => [path]
  | depth + 1, top, path =>
    let kind := if deep || top then (files.look? path).map FileNode.kind else
      match files.locate false path with
      | .ok (_, _, node) => some node.kind
      | .error _ => none
    match kind with
    | some .directory =>
      if !top && f.excludedDirectories.any fun p => fits p (lastName path) then [] else
      (files.list path).flatMap fun name =>
        below files f deep depth false
          ((if path.toList.getLast? = some '/' then path else path ++ "/") ++ name)
    | some (.regular _) => if top || f.takes path then [path] else []
    | some (.program _) => if top || f.takes path then [path] else []
    | _ => if top then [path] else []

end Grep

open Grep in
/-- Selects lines; `grammar?` is the kind of pattern if nothing else is said. -/
def grepAs (given : Option String) : Program Nat := do
  let usage := "Usage: grep [OPTION]... PATTERNS [FILE]...\nTry 'grep --help' for more information.\n"
  let p ← parsed
    { choices := ["E,extended-regexp", "F,fixed-strings,fixed-regexp", "G,basic-regexp", "P,perl-regexp",
        "e,regexp:", "f,file:", "i,ignore-case", "y", "no-ignore-case", "v,invert-match", "w,word-regexp",
        "x,line-regexp", "c,count", "color,colour::", "L,files-without-match", "l,files-with-matches",
        "m,max-count:", "o,only-matching", "q,quiet,silent", "s,no-messages", "b,byte-offset",
        "H,with-filename", "h,no-filename", "label:", "n,line-number", "T,initial-tab", "Z,null",
        "z,null-data", "A,after-context:", "B,before-context:", "C,context:", "a,text", "binary-files:",
        "D,devices:", "d,directories:", "I", "r,recursive", "R,dereference-recursive", "include:",
        "exclude:", "exclude-from:", "exclude-dir:", "line-buffered", "U,binary", "u,unix-byte-offsets",
        "group-separator:", "no-group-separator", "V",
        "0", "1", "2", "3", "4", "5", "6", "7", "8", "9"]
      status := 2
      usage := some usage }
  whenUnwrittenExit 2
  if p.has "V" then exit 0
  let modes := (p.options.filter fun o => ["E", "F", "G", "P"].contains o.key).map Given.key
  let mode := (modes.getLast?).getD (given.getD "G")
  if modes.contains "P" && modes.any (· ≠ "P") then die "conflicting matchers specified" 2
  let count (key : String) : Program (Option Nat) := do
    match p.value? key with
    | none => return none
    | some v => match natural? v with
      | some n => return some n
      | none => die (v ++ ": invalid context length argument") 2
  let digits := String.join ((p.options.map Given.key).filter fun k => k.toList.all Char.isDigit)
  let context := (← count "C").or (natural? digits)
  let before := (← count "B").or context
  let after := (← count "A").or context
  let limit ← match p.value? "m" with
    | none => pure none
    | some v => match v.toInt? with
      | some n => pure (if n < 0 then none else some n.toNat)
      | none => die "invalid max count" 2
  match p.value? "binary-files" with
  | some v => if !(["binary", "text", "without-match"].contains v) then die "unknown binary-files type" 2
  | none => pure ()
  match p.value? "color" with
  | some v =>
    if !(["", "auto", "tty", "if-tty", "always", "yes", "force", "never", "no", "none"].contains v) then exit 0
  | none => pure ()
  match p.value? "D" with
  | some v => if !(["read", "skip"].contains v) then die "unknown devices method" 2
  | none => pure ()
  match p.value? "d" with
  | some v => if !(["read", "recurse", "skip"].contains v) then
      complain ("invalid argument " ++ Text.literalQuote v ++ " for " ++ Text.literalQuote "--directories")
      tell ("Valid arguments are:\n" ++ String.join (["read", "recurse", "skip"].map fun w =>
        "  - " ++ Text.literalQuote w ++ "\n") ++ usage)
      exit 1
  | none => pure ()
  let listed := !(p.values "e" ++ p.values "f").isEmpty
  let (texts, paths) ← if listed then do
      let files ← (p.values "f").mapM fun path => do
        match ← operand path with
        | .ok cs => return (linesOf '\n' cs).map String.ofList
        | .error e => die (path ++ ": " ++ e.fault.reason) 2
      pure ((p.values "e").flatMap (fun (e : String) => e.splitOn "\n") ++ files.flatten, p.operands)
    else match p.operands with
      | [] =>
        tell usage
        exit 2
      | first :: rest => pure (first.splitOn "\n", rest)
  if mode = "P" && texts.length ≠ 1 then die "the -P option only supports a single pattern" 2
  let parsedPatterns ← texts.mapM fun t =>
    let cs := Octets.characters t.toList
    if mode = "F" then pure { regex := Regex.ofText cs : Regex.Parsed }
    else match (if mode = "P" then Regex.Perl.parse cs
        else Regex.parse (if mode = "E" then .extended else .basic) cs) with
      | .ok r => pure r
      | .error e => die e 2
  for r in parsedPatterns do
    for w in r.warnings do complain ("warning: " ++ w)
  let folds := match p.last? ["i", "y", "no-ignore-case"] with
    | some k => decide (k ≠ "no-ignore-case")
    | none => false
  let sought : Sought :=
    { patterns := parsedPatterns, folds, ordered := mode = "P"
      words := p.has "w", wholeLines := p.has "x" }
  let recursive := p.has "r" || p.has "R" || p.value? "d" = some "recurse"
  let paths := if paths.isEmpty then (if recursive then [] else ["-"]) else paths
  let withName := match p.last? ["H", "h"] with
    | some k => decide (k = "H")
    | none => recursive || decide (1 < paths.length)
  let palette ← if ["always", "yes", "force"].contains ((p.value? "color").getD "") then do
      let environment := (← invocation).environment
      let single ← match environment.lookup "GREP_COLOR" with
        | some v => do
          if v.isEmpty then pure {} else
          complain ("warning: GREP_COLOR='" ++ v ++ "' is deprecated; use GREP_COLORS='mt=" ++ v ++ "'")
          pure { selected := v, context := v : Palette }
        | none => pure {}
      pure (some (readPalette single ((environment.lookup "GREP_COLORS").getD "")))
    else pure none
  let o : Output :=
    { inverted := p.has "v", counts := p.has "c", onlyMatches := p.has "o"
      names := (p.last? ["l", "L"]).map fun k => decide (k = "l")
      quiet := p.has "q", numbers := p.has "n", offsets := p.has "b", withName
      nullNames := p.has "Z"
      tab := p.has "T"
      palette
      limit
      before := before.getD 0
      after := after.getD 0
      contextual := before.isSome || after.isSome
      separator := match p.last? ["group-separator", "no-group-separator"] with
        | some "group-separator" => p.value? "group-separator"
        | some _ => none
        | none => some "--"
      ends := if p.has "z" then '\x00' else '\n'
      asText := p.has "a" || p.value? "binary-files" = some "text"
      skipsBinary := p.has "I" || p.value? "binary-files" = some "without-match" }
  let excludedByFiles ← (p.values "exclude-from").mapM fun path => do
    match ← operand path with
    | .ok cs => return (linesOf '\n' cs).map String.ofList
    | .error e => die (path ++ ": " ++ e.fault.reason) 2
  let filter : Filter :=
    { includes := p.values "include", excludes := p.values "exclude" ++ excludedByFiles.flatten
      excludedDirectories := p.values "exclude-dir" }
  let files ← files
  let all := if !recursive then paths else
    if paths.isEmpty then
      (below files filter (p.has "R") 64 true ".").map fun (path : String) => String.ofList (path.toList.drop 2)
    else paths.flatMap fun path => if path = "-" then ["-"] else below files filter (p.has "R") 64 true path
  let mut selected := false
  for path in all do
    let skips := p.value? "d" = some "skip" && files.isDirectory path
    if !skips && (recursive || path = "-" || filter.takes path) then
      let shown := if path = "-" then (p.value? "label").getD "(standard input)" else path
      match ← (if o.counts then operand path else streamed path) with
      | .ok cs => if ← searchContent o sought path shown cs then selected := true
      | .error e =>
        if !p.has "s" then complain (shown ++ ": " ++ e.fault.reason)
        raise 2
  if (← get).status = 2 then return 2
  return if selected then 0 else 1

def grep : Program Nat := grepAs none

end DeltaDebugging.Utility
