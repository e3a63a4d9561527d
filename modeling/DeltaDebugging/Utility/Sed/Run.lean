import DeltaDebugging.Utility.Control
import DeltaDebugging.Utility.Sed.Display
import DeltaDebugging.Utility.Sed.Parser

/-!
# Editing streams

Reads lines one by one, runs the script on each, and prints what it made of it. The held
space passes text from one line to the next; texts to be appended wait for the end of a line's
turn.
-/
namespace DeltaDebugging.Utility.Sed

structure Space where
  text : List Char := []
  ended : Bool := true

def Space.append (ends : Char) (a b : Space) : Space :=
  { text := a.text ++ ends :: b.text, ended := b.ended }

def Space.firstLine (ends : Char) (p : Space) : Space :=
  let text := p.text.takeWhile (· ≠ ends)
  { text, ended := p.ended || text.length < p.text.length }

inductive Waiting where
  | text (s : String)
  | file (path : String)

inductive Progress where
  | outside
  | until (l : Limit)
  /-- Up to a line. -/
  | upTo (n : Nat)

structure State where
  pattern : Space := {}
  held : Space := {}
  /-- Lines of the current input, and whether each has an end. -/
  lines : List Space := []
  name : String := "-"
  paths : List String := []
  lineNumber : Nat := 0
  changed : Bool := false
  waiting : List Waiting := []
  progress : Array Progress
  lastRegex : Option Sought := none
  /-- The outputs whose last line lacks its end, by the files of the script; the usual one has none. -/
  unended : List (Option String) := []
  /-- Files that are written to, by their openings. -/
  openings : List (String × Nat) := []
  /-- Lines of files that are read one at a time. -/
  queues : List (String × List Space) := []
  /-- Where the output goes if not to the standard output. -/
  inPlace : Option (String × String) := none
  /-- The blocks that the next instruction is shown in. -/
  blocks : Nat := 0
  /-- The places of commands that were run. -/
  ran : List Nat := []

structure Setting where
  script : Array Instruction
  silent : Bool
  separate : Bool
  ends : Char
  width : Nat
  /-- The ending of copies, if files are edited in place. -/
  edits : Option String
  start : Runner
  /-- Whether what is done is shown. -/
  shows : Bool
  /-- Whether only what is standard is done. -/
  plain : Bool
  /-- Whether no more of a pipe is read than the lines that are worked on. -/
  thrifty : Bool

inductive Flow where
  /-- At an instruction. -/
  | at (place : Nat)
  /-- The line's turn is over; it is printed. -/
  | finished
  | finishedSilently
  /-- The line is dropped, and nothing is told of it. -/
  | dropped
  /-- The script starts again without a new line. -/
  | again
  | quit (status : Nat) (prints : Bool)

abbrev Editing := StateT State Program

namespace Editing

def put (text : String) : Editing Unit := do
  match (← get).inPlace with
  | none => Program.put text
  | some (path, out) => modify fun s => { s with inPlace := some (path, out ++ text) }

def «show» (set : Setting) (text : String) : Editing Unit := do
  if set.shows then Program.put text

def showPattern (set : Setting) : Editing Unit := do
  if set.shows then Program.put ("PATTERN: " ++ visibleText (← get).pattern.text ++ "\n")

def showHeld (set : Setting) : Editing Unit := do
  if set.shows then Program.put ("HOLD:    " ++ visibleText (← get).held.text ++ "\n")

/-- Gives back the lines that were not worked on. -/
def giveBack (set : Setting) : Editing Unit := do
  let s ← get
  if s.name = "-" && !s.lines.isEmpty then
    Program.giveBack (s.lines.flatMap fun l => if l.ended then l.text ++ [set.ends] else l.text) set.thrifty

def spacesOf (ends : Char) (cs : List Char) : List Space :=
  let ls := linesOf ends cs
  let whole := cs.isEmpty || cs.getLast? = some ends
  ls.zipIdx.map fun l => { text := l.1, ended := whole || l.2 + 1 < ls.length }

/-- What a command writes to its standard output. It may read of the input what is left there. -/
def outputOf (set : Setting) (command : List Char) : Editing (List Char) := do
  let shares := set.thrifty && (← get).name = "-"
  if shares then giveBack set
  let out ← shellOutput set.start "sh" (String.ofList command)
  if shares then
    match ← Program.streamed "-" with
    | .ok cs => modify fun s => { s with lines := spacesOf set.ends cs }
    | .error _ => pure ()
  return out

/-- What ends the line before, if an output lacks that. -/
def ending (set : Setting) (output : Option String) : Editing String := do
  if (← get).unended.contains output then
    modify fun s => { s with unended := s.unended.filter (· ≠ output) }
    return String.singleton set.ends
  else return ""

def emit (set : Setting) (text : String) : Editing Unit := do
  put ((← ending set none) ++ text)

/-- A text for an output, with the end of its line if it has one. -/
def ended (set : Setting) (output : Option String) (p : Space) : Editing String := do
  if !p.ended then modify fun s => { s with unended := output :: s.unended }
  return String.ofList p.text ++ if p.ended then String.singleton set.ends else ""

def emitSpace (set : Setting) (p : Space) : Editing Unit := do
  let before ← ending set none
  put (before ++ (← ended set none p))

def writeTo (set : Setting) (path : String) (p : Space) : Editing Unit := do
  let before ← ending set (some path)
  let text := before ++ (← ended set (some path) p)
  if path = "/dev/stdout" && !set.plain then Program.put text
  else if path = "/dev/stderr" && !set.plain then Program.tell text
  else match (← get).openings.lookup path with
    | none => return
    | some o => match (← Program.system).write o text with
      | .ok s => Program.setSystem s
      | .error e => Program.die ("couldn't write 1 item to " ++ path ++ ": " ++ e.reason) 4

def closeInPlace (set : Setting) : Editing Unit := do
  match (← get).inPlace, set.edits with
  | some (path, out), some suffix =>
    if !suffix.isEmpty then
      match ← Program.contentOf path with
      | .ok cs =>
        let copy := if suffix.toList.contains '*' then
            String.intercalate path (suffix.splitOn "*") else path ++ suffix
        let _ ← Program.replaceFile copy (String.ofList cs)
      | .error _ => pure ()
    let _ ← Program.replaceFile path out
    modify fun s => { s with inPlace := none }
  | _, _ => return

/-- Opens inputs until one has lines; says whether there is one. -/
def openNext (set : Setting) : (steps : Nat) → Editing Bool
  | 0 => return false
  | steps + 1 => do
    closeInPlace set
    match (← get).paths with
    | [] => return false
    | path :: rest =>
      modify fun s => { s with paths := rest }
      if set.edits.isSome && (← Program.files).isDirectory path then
        Program.complain ("couldn't edit " ++ path ++ ": not a regular file")
        Program.raise 4
        openNext set steps
      else match ← Program.streamed path with
      | .error (.unopened e) =>
        Program.complain ("can't read " ++ path ++ ": " ++ e.reason)
        Program.raise 2
        openNext set steps
      | .error (.unreadable e) =>
        Program.die ("read error on " ++ (if path = "-" then "stdin" else path) ++ ": " ++ e.reason) 4
      | .ok cs =>
        let lines := spacesOf set.ends cs
        modify fun s => { s with
          lines, name := path
          lineNumber := if set.separate then 0 else s.lineNumber
          unended := if set.edits.isSome then s.unended.filter Option.isSome else s.unended
          inPlace := if set.edits.isSome then some (path, "") else none }
        if lines.isEmpty then openNext set steps else return true

def moreBehind : List String → Editing Bool
  | [] => return false
  | path :: rest => do
    let found ← if path = "-" then Program.inputSoFar else Program.beginningOf path
    match found with
    | .ok (_ :: _, _) => return true
    | _ => moreBehind rest

def isLast (set : Setting) : Editing Bool := do
  let s ← get
  if !s.lines.isEmpty then return false
  else if set.separate then return true
  else return !(← moreBehind s.paths)

def release (set : Setting) : Editing Unit := do
  let waiting := (← get).waiting
  modify fun s => { s with waiting := [] }
  for w in waiting.reverse do
    match w with
    | .text t => emit set t
    | .file path =>
      emit set ""
      match ← Program.operand (if path = "/dev/stdin" then "-" else path) with
      | .ok cs => if !cs.isEmpty then emit set (String.ofList cs)
      | .error _ => pure ()

/-- Takes the next line of the inputs, if there is one. -/
def readLine? (set : Setting) : Editing (Option Space) := do
  release set
  let found ← if (← get).lines.isEmpty then openNext set ((← get).paths.length + 1) else pure true
  if !found then return none
  match (← get).lines with
  | [] => return none
  | l :: ls =>
    modify fun s => { s with lines := ls, lineNumber := s.lineNumber + 1, changed := false }
    return some l

/-- The expression that is meant, which becomes the one used last. -/
def resolve (r : Sought) : Editing Sought := do
  match r.regex with
  | some _ =>
    modify fun s => { s with lastRegex := some r }
    return r
  | none => match (← get).lastRegex with
    | some l => return l
    | none => Program.die "-e expression #1, char 0: no previous regular expression" 1

/-- An expression for a text of bytes, and the text as it is to be searched: a text of ASCII
characters as it is, any other one as characters or as bytes. -/
def search (set : Setting) (r : Sought) (text : List Char) : Regex × Regex.Subject :=
  let regex := r.regex.getD .empty
  let subject (text : List Char) (wide : Bool) : Regex.Subject :=
    { text := text.toArray, folds := r.folds, lines := r.lines, newline := set.ends
      exact := regex.refersBack, wide }
  if Octets.isAscii text then (regex, subject text false)
  else match r.encoded with
    | some e => (e, subject text false)
    | none => (regex, subject (Octets.characters text) true)

def matchesRegex (set : Setting) (r : Sought) : Editing Bool := do
  let (r, on) := search set (← resolve r) (← get).pattern.text
  return (Regex.search on r 0).isSome

def matchesAddress (set : Setting) (a : Address) : Editing Bool := do
  match a with
  | .line n => return (← get).lineNumber = n
  | .every first step =>
    let l := (← get).lineNumber
    return first ≤ l && (l - first) % step = 0
  | .last => isLast set
  | .regex r => matchesRegex set r

def setProgress (place : Nat) (p : Progress) : Editing Unit :=
  modify fun s => { s with progress := s.progress.setIfInBounds place p }

def applies (set : Setting) (place : Nat) (lines : Lines) : Editing Bool := do
  match lines with
  | .all => return true
  | .single a => matchesAddress set a
  | .range a b =>
    let l := (← get).lineNumber
    match ((← get).progress[place]?).getD .outside with
    | .outside =>
      if !(← matchesAddress set a) then return false
      match b with
      | .at (.line n) => if l < n then setProgress place (.upTo n)
      | .at b => setProgress place (.until (.at b))
      | .after n => if 0 < n then setProgress place (.upTo (l + n))
      | .multiple n =>
        let target := if n = 0 then l else (l / n + 1) * n
        if l < target then setProgress place (.upTo target)
      return true
    | .upTo n =>
      if n ≤ l then setProgress place .outside
      return decide (l ≤ n)
    | .until b =>
      match b with
      | .at b => if ← matchesAddress set b then setProgress place .outside
      | _ => pure ()
      return true

/-- Bytes under a change of case, and one for the first character. -/
def changed (casing first : Casing) (bs : List Char) : List Char :=
  if casing = .plain && first = .plain then bs else
  bs |> Octets.onCharacters fun cs => match cs with
    | [] => []
    | c :: cs => (if first = .plain then casing else first).change c :: cs.map casing.change

/-- The segments of a replacement put together. A change of case for the first character is left
`pending` where its group is empty. -/
def expand (group : Nat → List Char) (pending : Casing) : List Segment → List Char
  | [] => []
  | s :: ss =>
    let first := if s.first = .plain then pending else s.first
    let text := changed s.casing first s.text
    let first := if s.text.isEmpty then first else .plain
    match s.group.map group with
    | none => text ++ expand group .plain ss
    | some [] => text ++ expand group (if s.first = .plain then .plain else first) ss
    | some taken => text ++ changed s.casing first taken ++ expand group .plain ss

def bytesBetween (on : Regex.Subject) (a b : Nat) : List Char :=
  if on.wide then Octets.ofCharacters (on.piece a b) else on.piece a b

/-- Replaces matches from a place on. Gives the bytes behind that place, and whether anything was
replaced. -/
def replaceFrom (r : Regex) (s : Substitution) (on : Regex.Subject) : (steps : Nat) →
    (start count : Nat) → (previous : Option Nat) → List Char × Bool
  | 0, start, _, _ => (piece start on.text.size, false)
  | steps + 1, start, count, previous =>
    if on.text.size < start then ([], false) else
    match Regex.search on r start with
    | none => (piece start on.text.size, false)
    | some m =>
      let before := piece start m.start
      let skipOne (out : List Char) (count : Nat) : List Char × Bool :=
        if m.position < on.text.size then
          let (more, done) := replaceFrom r s on steps (m.position + 1) count (some m.position)
          (out ++ piece m.position (m.position + 1) ++ more, done)
        else (out, false)
      if m.start = m.position && previous = some m.start then skipOne before count else
      let count := count + 1
      if count < s.first then
        if m.start = m.position then skipOne before count else
        let (more, done) := replaceFrom r s on steps m.position count (some m.position)
        (before ++ piece m.start m.position ++ more, done)
      else
        let group (n : Nat) : List Char :=
          if n = 0 then piece m.start m.position
          else match m.groups.lookup n with
            | some (a, b) => piece a b
            | none => []
        let out := before ++ expand group .plain s.replacement
        if !s.everywhere then (out ++ piece m.position on.text.size, true)
        else if m.start = m.position then ((skipOne out count).1, true)
        else
          let (more, _) := replaceFrom r s on steps m.position count (some m.position)
          (out ++ more, true)
where
  piece (a b : Nat) : List Char := bytesBetween on a b

/-- What a match and its groups took, with the places in bytes. -/
def shownMatch (on : Regex.Subject) (m : Regex.Spot) : String :=
  let place (n : Nat) : Nat := (bytesBetween on 0 n).length
  let row (n a b : Nat) : String := "  regex[" ++ toString n ++ "] = " ++ toString (place a) ++ "-" ++
    toString (place b) ++ " '" ++ String.ofList (bytesBetween on a b) ++ "'\n"
  let groups := m.groups.mergeSort fun a b => a.1 ≤ b.1
  "MATCHED REGEX REGISTERS\n" ++ row 0 m.start m.position ++
    String.join (groups.map fun g => row g.1 g.2.1 g.2.2)

/-- A text with all that cannot be printed made visible, broken into rows. -/
def listed (ends : Char) (width : Option Nat) (text : List Char) : String :=
  let ends := String.singleton ends
  let shown (c : Char) : String :=
    if c = '\\' then "\\\\" else if Text.isPlain c then String.singleton c else Text.byteEscape c
  let (out, row) := text.foldl (fun (acc : String × String) c =>
    let t := shown c
    match width with
    | some w => if w < acc.2.length + t.length then (acc.1 ++ acc.2 ++ "\\" ++ ends, t) else (acc.1, acc.2 ++ t)
    | none => (acc.1, acc.2 ++ t)) ("", "")
  out ++ row ++ "$" ++ ends

/-- What a character becomes. A stray byte is taken for what begins with it. -/
def translated (pairs : List (Char × Char)) (c : Char) : Char :=
  let found := pairs.find? fun p => p.1 = c ||
    (Octets.isStray c && (Octets.ofCharacter p.1).head? = (Octets.ofCharacter c).head?)
  (found.map Prod.snd).getD c

def setText (f : List Char → List Char) : Editing Unit :=
  modify fun s => { s with pattern := { s.pattern with text := f s.pattern.text } }

def wait (w : Waiting) : Editing Unit := modify fun s => { s with waiting := w :: s.waiting }

def carryOut (set : Setting) (place : Nat) (lines : Lines) (negated : Bool) (c : Command) : Editing Flow := do
  let ends := set.ends
  let on : Flow := .at (place + 1)
  match c with
  | .block _ => return on
  | .close => return on
  | .mark _ => return on
  | .append t =>
    wait (.text t)
    return on
  | .insert t =>
    if !t.isEmpty then emit set (String.ofList t.toList.dropLast ++ String.singleton ends)
    return on
  | .change t =>
    let closed := match ((← get).progress[place]?).getD .outside with
      | .outside => true
      | _ => false
    let shows := match lines with
      | .range .. => negated || closed
      | _ => true
    if shows && !t.isEmpty then emit set (String.ofList t.toList.dropLast ++ String.singleton ends)
    return .finishedSilently
  | .branch target => return .at target
  | .branchIfChanged target =>
    if (← get).changed then
      modify fun s => { s with changed := false }
      return .at target
    else return on
  | .branchUnlessChanged target =>
    if (← get).changed then
      modify fun s => { s with changed := false }
      return on
    else return .at target
  | .delete => return .finishedSilently
  | .deleteFirst =>
    let text := (← get).pattern.text
    if !text.contains ends then return .dropped
    setText fun t => (t.dropWhile (· ≠ ends)).drop 1
    showPattern set
    return .again
  | .execute text =>
    if text.isEmpty then
      let out ← outputOf set (← get).pattern.text
      let out := if out.getLast? = some ends then out.dropLast else out
      modify fun s => { s with pattern := { text := out } }
    else
      let out ← outputOf set text.toList.dropLast
      modify fun s => { s with ran := place :: s.ran.filter (· ≠ place) }
      emit set (String.ofList out)
    return on
  | .print =>
    emitSpace set (← get).pattern
    return on
  | .printFirst =>
    emitSpace set ((← get).pattern.firstLine ends)
    return on
  | .hold =>
    modify fun s => { s with held := s.pattern }
    showHeld set
    return on
  | .holdMore =>
    modify fun s => { s with held := s.held.append ends s.pattern }
    showHeld set
    return on
  | .get =>
    modify fun s => { s with pattern := s.held }
    showHeld set
    return on
  | .getMore =>
    modify fun s => { s with pattern := s.pattern.append ends s.held }
    showPattern set
    return on
  | .exchange =>
    modify fun s => { s with pattern := s.held, held := s.pattern }
    showPattern set
    showHeld set
    return on
  | .next =>
    if ← isLast set then
      if set.separate && !(← get).paths.isEmpty then pure () else
      if !set.silent then emitSpace set (← get).pattern
      return .finishedSilently
    if !set.silent then emitSpace set (← get).pattern
    match ← readLine? set with
    | some l =>
      modify fun s => { s with pattern := l }
      showPattern set
      return on
    | none => return .quit 0 false
  | .nextMore =>
    if ← isLast set then
      if set.separate && !(← get).paths.isEmpty then pure () else
      return if set.plain then .finishedSilently else .finished
    let changed := (← get).changed
    match ← readLine? set with
    | some l =>
      modify fun s => { s with
        pattern := { text := s.pattern.text ++ ends :: l.text, ended := l.ended }, changed }
      showPattern set
      return on
    | none => return .quit 0 true
  | .quit n => return .quit (n.getD 0) true
  | .quitSilently n => return .quit (n.getD 0) false
  | .readFile path =>
    wait (.file path)
    return on
  | .readBefore path =>
    match ← Program.operand (if path = "/dev/stdin" then "-" else path) with
    | .ok cs => if !cs.isEmpty then emit set (String.ofList cs)
    | .error _ => pure ()
    return on
  | .readLine path =>
    let queue ← match (← get).queues.lookup path with
      | some q => pure q
      | none => match ← Program.operand path with
        | .ok cs => pure (spacesOf ends cs)
        | .error _ => pure []
    match queue with
    | l :: rest =>
      modify fun s => { s with queues := (path, rest) :: s.queues.filter fun q => q.1 ≠ path }
      wait (.text (String.ofList l.text ++ if l.ended then String.singleton ends else ""))
    | [] => modify fun s => { s with queues := (path, []) :: s.queues.filter fun q => q.1 ≠ path }
    return on
  | .writeFile path =>
    writeTo set path (← get).pattern
    return on
  | .writeFirst path =>
    writeTo set path ((← get).pattern.firstLine ends)
    return on
  | .number =>
    emit set (toString (← get).lineNumber ++ String.singleton ends)
    return on
  | .fileName =>
    emit set ((← get).name ++ String.singleton ends)
    return on
  | .list width =>
    let n := width.getD set.width
    emit set (listed ends (if n = 0 then none else some (n - 1)) (← get).pattern.text)
    return on
  | .empty =>
    setText fun _ => []
    showPattern set
    return on
  | .translate pairs =>
    setText (Octets.onCharacters fun t => t.map (translated pairs))
    showPattern set
    return on
  | .substitute s =>
    let r ← resolve s.sought
    let (r, found) := search set r (← get).pattern.text
    Program.spend (found.text.size / 100)
    if set.shows then
      match Regex.search found r 0 with
      | some m => Program.put (shownMatch found m)
      | none => pure ()
    let (out, done) := replaceFrom r s found (found.text.size + 2) 0 0 none
    if done then
      setText fun _ => out
      modify fun s => { s with changed := true }
      if s.prints && s.runs && s.printsCommand then emitSpace set (← get).pattern
      if s.runs then
        let out ← outputOf set out
        setText fun _ => if out.getLast? = some ends then out.dropLast else out
      if s.prints && !(s.runs && s.printsCommand) then emitSpace set (← get).pattern
      match s.file with
      | some path => writeTo set path (← get).pattern
      | none => pure ()
    showPattern set
    return on

def runFrom (set : Setting) : (steps : Nat) → (place : Nat) → Editing Flow
  | 0, _ => throw .endless
  | steps + 1, place => do
    match set.script[place]? with
    | none => return .finished
    | some i =>
      if set.shows then
        let i := if (← get).ran.contains place then { i with command := i.command.afterRunning } else i
        let (text, blocks) := i.shown set.script (← get).blocks
        Program.put ("COMMAND: " ++ text)
        modify fun s => { s with blocks }
      if (← applies set place i.lines) = i.negated then
        match i.command with
        | .block size => runFrom set steps size
        | _ => runFrom set steps (place + 1)
      else match ← carryOut set place i.lines i.negated i.command with
        | .at p => runFrom set steps p
        | flow => return flow

def maximalSteps : Nat := 200000

/-- Runs the script on line after line; gives the status. -/
def runAll (set : Setting) : (steps : Nat) → (restarted : Bool) → Editing Nat
  | 0, _ => throw .endless
  | steps + 1, restarted => do
    let more ← if restarted then pure true else
      match ← readLine? set with
      | some l =>
        modify fun s => { s with pattern := l }
        let s ← get
        «show» set ("INPUT:   '" ++ (if s.name = "-" then "STDIN" else s.name) ++ "' line " ++
          toString s.lineNumber ++ "\n")
        showPattern set
        pure true
      | none => pure false
    if !more then
      closeInPlace set
      return 0
    match ← runFrom set maximalSteps 0 with
    | .finished =>
      «show» set "END-OF-CYCLE:\n"
      if !set.silent then emitSpace set (← get).pattern
      runAll set steps false
    | .dropped => runAll set steps false
    | .again =>
      release set
      runAll set steps true
    | .quit n prints =>
      if prints then
        if !set.silent then emitSpace set (← get).pattern
        emit set ""
      release set
      Program.settle
      giveBack set
      if (← get).inPlace.isSome then
        let rest := (← get).lines
        for l in rest do emitSpace set l
      closeInPlace set
      return n
    | _ =>
      «show» set "END-OF-CYCLE:\n"
      runAll set steps false

end Editing

end Sed

open Program Sed

def sedUsage : String :=
  "Usage: sed [OPTION]... \x7bscript-only-if-no-other-script\x7d [input-file]...\n\n"

def sed (start : Runner) : Program Nat := do
  let p ← parsed
    { choices := ["n,quiet,silent", "e,expression:", "f,file:", "E,r,regexp-extended", "s,separate",
        "i,in-place::", "l,line-length:", "posix", "u,unbuffered", "z,null-data,zero-terminated",
        "b,binary", "debug", "sandbox", "follow-symlinks"]
      usage := some sedUsage }
  whenUnwritten fun e =>
    (["couldn't " ++ (if e = .badDescriptor then "close" else "flush") ++ " stdout: " ++ e.reason], 4)
  let given := p.options.filter fun o => o.key = "e" || o.key = "f"
  let (pieces, paths) ← if given.isEmpty then match p.operands with
      | [] =>
        tell sedUsage
        exit 1
      | script :: rest => pure ([({ key := "e", value := script } : Given)], rest)
    else pure (given, p.operands)
  let mut sources : List Source := []
  let mut number := 0
  for o in pieces do
    if o.key = "e" then
      match sources with
      | last :: before =>
        if last.file.isNone && last.text.toList.getLast? = some '\\' then
          sources := { last with text := last.text ++ "\n" ++ o.value } :: before
        else
          number := number + 1
          sources := { text := o.value, number } :: sources
      | [] =>
        number := number + 1
        sources := [{ text := o.value, number }]
    else
      match ← operand o.value with
      | .ok cs =>
        let text := String.ofList cs
        let text := if sources.isEmpty && "#!".toList.isPrefixOf cs then text else text
        sources := { text, file := some o.value } :: sources
      | .error (.unopened e) => die ("couldn't open file " ++ o.value ++ ": " ++ e.reason) 4
      | .error (.unreadable e) => die ("read error on " ++ o.value ++ ": " ++ e.reason) 4
  let plain := p.has "posix" || ((← invocation).environment.lookup "POSIXLY_CORRECT").isSome
  let manner : Manner := { extended := p.has "E", plain, guarded := p.has "sandbox" }
  match readScript manner sources.reverse with
  | .error m =>
    complain m.text
    return m.status
  | .ok script =>
    let mut openings : List (String × Nat) := []
    for path in script.files do
      if plain || (path ≠ "/dev/stdout" && path ≠ "/dev/stderr") then
        match ← openPath path .toReplace with
        | .ok o => openings := (path, o) :: openings
        | .error e => die ("couldn't open file " ++ path ++ ": " ++ e.reason) 4
    let edits := p.value? "i"
    if edits.isSome && paths.isEmpty then die "no input files" 4
    let set : Setting :=
      { script := script.instructions
        silent := p.has "n" || script.silent
        separate := p.has "s" || edits.isSome
        ends := if p.has "z" then '\x00' else '\n'
        width := ((p.value? "l").bind natural?).getD 70
        edits
        start
        shows := p.has "debug"
        plain
        thrifty := p.has "u" }
    let first : State :=
      { paths := if paths.isEmpty then ["-"] else paths
        progress := script.instructions.map fun i => match i.lines with
          | .range (.line 0) b => .until b
          | _ => .outside
        openings }
    if set.shows then put (shownScript set.script)
    let (status, _) ← (Editing.runAll set Editing.maximalSteps false).run first
    return status

end DeltaDebugging.Utility
