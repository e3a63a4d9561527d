import DeltaDebugging.Utility.Control
import DeltaDebugging.Utility.Numeral

/-!
# Programs over arguments that are read

An input is cut into arguments, and a program is run with as many of them as fit, or as are asked
for, or once for each line. What is read comes as a row of findings, so that a program runs
before a fault that is found behind its arguments.
-/
namespace DeltaDebugging.Utility

open Program

/-- What is found while arguments are read. -/
inductive Finding where
  | argument (cs : List Char)
  /-- The end of a line behind which no blank joins the next one. -/
  | line
  /-- One line or one argument is read; the text is what a mark stands for. -/
  | turn (cs : List Char)
  | warning (text : String)
  | fault (text : String)
  deriving DecidableEq, Repr

namespace Batch

/-- How characters are taken: as blanks between words, as they are, after a backslash, or up to a
quotation mark. -/
inductive Mode where
  | blank
  | plain
  | escaped
  | quoted (mark : Char)
  deriving DecidableEq, Repr

structure Reading where
  mode : Mode := .blank
  /-- The word, its last character first. -/
  word : List Char := []
  length : Nat := 0
  /-- Whether no word of the line came before. -/
  first : Bool := true
  /-- Whether there was a quotation mark. -/
  seen : Bool := false
  previous : Char := '\x00'

def isBlank (c : Char) : Bool := c = ' ' || c = '\t'

def isSpace (c : Char) : Bool := c = ' ' || ('\t' ≤ c && c ≤ '\r')

def unmatched (mark : Char) : String :=
  "unmatched " ++ (if mark = '"' then "double" else "single") ++
    " quote; by default quotes are special to xargs unless you use the -0 option"

def nullWarning : String :=
  "WARNING: a NUL character occurred in the input.  It cannot be passed through in the argument list.  " ++
    "Did you mean to use the --null option?"

/-- What a program is told of a word: nothing from a null character on. -/
def told (cs : List Char) : List Char := cs.takeWhile fun c => c ≠ '\x00'

/-- The findings in a text with quotes and backslashes, the latest first. Words end at blanks
unless a whole line is to replace a mark; reading ends at the word `stop`. -/
def words (replacing : Bool) (stop : Option (List Char)) (room : Int) : List Char → Reading → List Finding → List Finding
  | [], r, found =>
    if r.length = 0 then found else
    match r.mode with
    | .quoted mark => .fault (unmatched mark) :: found
    | _ =>
      let word := told r.word.reverse
      if r.first && stop = some word then found
      else if replacing then .turn word :: found else .turn word :: .argument word :: found
  | c :: cs, r, found =>
    let mode := if r.mode = .blank && !isSpace c then .plain else r.mode
    let r' := { r with mode, previous := c }
    let found := if c = '\x00' && mode ≠ .blank && !found.any (fun f => f = .warning nullWarning) then
      .warning nullWarning :: found else found
    let full := room ≤ r.length
    let push := { r' with mode := .plain, word := c :: r.word, length := r.length + 1 }
    let word := told r.word.reverse
    match mode with
    | .blank => words replacing stop room cs r' found
    | .escaped => if full then .fault "argument line too long" :: found else words replacing stop room cs push found
    | .quoted mark =>
      if c = '\n' then .fault (unmatched mark) :: found
      else if c = mark then words replacing stop room cs { r' with mode := .plain, seen := true } found
      else if full then .fault "argument line too long" :: found
      else words replacing stop room cs { push with mode := mode } found
    | .plain =>
      if c = '\n' then
        let found := if isBlank r.previous then found else .line :: found
        if r.length = 0 && !r.seen then words replacing stop room cs { r' with mode := .blank } found
        else if stop = some word then if r.first then found else .turn word :: found
        else
          let found := if replacing then found else .argument word :: found
          words replacing stop room cs {} (.turn word :: found)
      else if !replacing && isBlank c then
        if stop = some word then if r.first then found else .turn word :: found
        else words replacing stop room cs
          { r' with mode := .blank, word := [], length := 0, first := false } (.argument word :: found)
      else if c = '\\' then words replacing stop room cs { r' with mode := .escaped } found
      else if c = '\'' || c = '"' then
        words replacing stop room cs { r' with mode := .quoted c, seen := true } found
      else if full then .fault "argument line too long" :: found
      else words replacing stop room cs push found

def pieces (replacing : Bool) (ends : Char) (room : Int) (cs : List Char) : List Finding :=
  let rec go : List (List Char) → List Finding
    | [] => []
    | l :: rest =>
      if room < l.length then [.fault "argument line too long"]
      else if replacing then .line :: .turn (told l) :: go rest
      else .line :: .argument (told l) :: .turn (told l) :: go rest
  go (linesOf ends cs)

structure Request where
  /-- What a mark in the command is replaced by a line. -/
  mark : Option String := none
  perRun : Option Nat := none
  lines : Option Nat := none
  /-- How many characters a command may have. -/
  room : Nat := 131072
  stop : Option String := none
  ends : Option Char := none
  source : Option String := none
  /-- Whether it is a fault if what is asked for does not fit. -/
  exits : Bool := false
  /-- Whether a program runs without arguments, too. -/
  always : Bool := true
  verbose : Bool := false
  asks : Bool := false
  slot : Option String := none

def number (letter text : String) (low : Int) : Program Int := do
  match numeral 10 true "" text with
  | (n, none) =>
    if n < low then misuse ("value " ++ text ++ " for -" ++ letter ++ " option should be >= " ++ toString low) 1
    return n
  | (n, some .tooLarge) => return n
  | _ => misuse ("invalid number \"" ++ text ++ "\" for -" ++ letter ++ " option") 1

def delimiter (text : String) : Program Char := do
  let bad (rest : String) : Program Char := die ("Invalid escape sequence " ++ text ++ " in input delimiter specification" ++ rest) 1
  match text.toList with
  | [c] => return c
  | '\\' :: c :: cs =>
    match ['a', 'b', 'f', 'n', 'r', 't', 'v', '\\'].zip
        ['\x07', '\x08', '\x0c', '\n', '\r', '\t', '\x0b', '\\'] |>.lookup c with
    | some d => return d
    | none =>
      if c ≠ 'x' && !c.isDigit then bad "." else
      let (base, digits) := if c = 'x' then (16, cs) else (8, c :: cs)
      let taken := digits.takeWhile fun d => (Numeral.digit? base d).isSome
      let n := taken.foldl (fun n d => n * base + (Numeral.digit? base d).getD 0) 0
      let rest := digits.drop taken.length
      if 255 < n then
        bad ("; character values must not exceed " ++ (if base = 16 then "ff" else "377") ++ ".")
      else if !rest.isEmpty then bad ("; trailing characters " ++ String.ofList rest ++ " not recognised.")
      else return Char.ofNat n
  | _ => die ("Invalid input delimiter specification " ++ text ++
      ": the delimiter must be either a single character or an escape sequence starting with \\.") 1

def exclude (earlier later : String) : Program Unit :=
  complain ("warning: options --" ++ earlier ++ " and " ++ later ++
    " are mutually exclusive, ignoring previous --" ++ earlier ++ " value")

/-- Takes an option into account. Of marks, lines and numbers of arguments the last one counts. -/
def Request.with (r : Request) (o : Given) : Program Request := do
  let byLines (n : Nat) (later : String) : Program Request := do
    if r.perRun.isSome then exclude "max-args" later
    if r.mark.isSome then exclude "replace" later
    return { r with perRun := none, mark := none, lines := some n }
  let byMark (mark : String) : Program Request := do
    if r.perRun.isSome then exclude "max-args" "--replace/-I/-i"
    if r.lines.isSome then exclude "max-lines" "--replace/-I/-i"
    return { r with perRun := none, lines := none, mark := some mark }
  match o.key with
  | "0" => return { r with ends := some '\x00' }
  | "a" => return { r with source := some o.value }
  | "d" =>
    let c ← delimiter o.value
    return { r with ends := some c }
  | "E" => return { r with stop := if o.value.isEmpty then none else some o.value }
  | "e" => return { r with stop := if o.value.isEmpty then none else some o.value }
  | "I" => byMark o.value
  | "i" => byMark (if o.value.isEmpty then "\x7b\x7d" else o.value)
  | "L" =>
    let n ← number "L" o.value 1
    byLines n.toNat "-L"
  | "l" =>
    let n ← if o.value.isEmpty then pure 1 else number "l" o.value 1
    byLines n.toNat "--max-lines/-l"
  | "n" =>
    let n ← number "n" o.value 1
    if r.lines.isSome then exclude "max-lines" "--max-args/-n"
    if r.mark.isSome && n = 1 then return { r with lines := none }
    if r.mark.isSome then exclude "replace" "--max-args/-n"
    return { r with lines := none, mark := none, perRun := some n.toNat }
  | "P" =>
    let _ ← number "P" o.value 0
    return r
  | "r" => return { r with always := false }
  | "s" =>
    let n ← number "s" o.value (-1000000)
    if n < 1 then complain ("value " ++ o.value ++ " for -s option should be >= 1")
    return { r with room := max n.toNat 1 }
  | "t" => return { r with verbose := true }
  | "p" => return { r with asks := true }
  | "x" => return { r with exits := true }
  | "process-slot-var" =>
    if o.value.toList.contains '=' then
      die "option --process-slot-var may not be set to a value which includes \x60='" 1
    return { r with slot := some o.value }
  | _ => return r

def execute (start : Runner) (r : Request) (command : List String) : Program Unit := do
  let shown := String.intercalate " " (command.map Text.shellName)
  if r.asks then
    tell shown
    die "failed to open /dev/tty for reading: No such device or address" 1
  if r.verbose then tell (shown ++ "\n")
  let i ← invocation
  let environment := match r.slot with
    | some name => (name, "0") :: i.environment.filter fun e => e.1 ≠ name
    | none => i.environment
  if r.source.isNone then
    match ← openPath "/dev/null" .toRead with
    | .ok o => modify fun w => { w with invocation :=
        { w.invocation with descriptors := (0, o) :: i.descriptors.filter fun d => d.1 ≠ 0 } }
    | .error _ => pure ()
  let outcome ← runOther start command environment
  modify fun w => { w with invocation := i }
  let name := command.headD ""
  match outcome with
  | .error e => die (name ++ ": " ++ e.reason) (if e = .notFound then 127 else 126)
  | .ok (.exited n) =>
    let n := n % 256
    if n = 255 then die (name ++ ": exited with status 255; aborting") 124
    if n ≠ 0 then raise 123
  | .ok (.killed n) => die (name ++ ": terminated by signal " ++ toString n) 125
  | .ok .endless => throw .endless

structure Waiting where
  /-- The arguments, the last first. -/
  arguments : List String := []
  count : Nat := 0
  size : Nat
  lines : Nat := 0
  ran : Bool := false

def perform (start : Runner) (r : Request) (command : List String) : List Finding → Waiting → Program Unit
  | [], w => do
    if r.mark.isNone && (0 < w.count || (r.always && !w.ran)) then
      execute start r (command ++ w.arguments.reverse)
  | f :: rest, w => do
    let initial := command.foldl (fun n a => n + a.length + 1) 0
    let fresh : Waiting := { size := initial, lines := w.lines, ran := true }
    match f with
    | .warning text =>
      complain text
      perform start r command rest w
    | .line => perform start r command rest { w with lines := w.lines + 1 }
    | .turn cs =>
      match r.mark with
      | some mark =>
        let replaced (a : String) : String :=
          if mark.isEmpty then a else String.intercalate (String.ofList cs) (a.splitOn mark)
        execute start r (command.headD "" :: command.tail.map replaced)
        perform start r command rest fresh
      | none =>
        if r.lines.any fun n => decide (n ≤ w.lines) then
          execute start r (command ++ w.arguments.reverse)
          perform start r command rest { fresh with lines := 0 }
        else perform start r command rest w
    | .argument cs =>
      let a := String.ofList cs
      let tight := decide (r.room < w.size + a.length + 1)
      if tight && w.count = 0 then die "cannot fit single argument within argument list size limit" 1
      if tight && r.exits && (r.lines.isSome || r.perRun.isSome) then die "argument list too long" 1
      if tight then execute start r (command ++ w.arguments.reverse)
      let w := if tight then fresh else w
      let w := { w with
        arguments := a :: w.arguments
        count := w.count + 1
        size := w.size + a.length + 1 }
      if r.perRun = some w.count then
        execute start r (command ++ w.arguments.reverse)
        perform start r command rest fresh
      else perform start r command rest w
    | .fault text =>
      let startable := (← files).programPath (command.headD "") <|
        ((← invocation).environment.lookup "PATH").getD defaultSearchPath
      if r.mark.isSome || w.count = 0 || r.exits then die text 1
      match startable with
      | .ok _ =>
        complain text
        execute start r (command ++ w.arguments.reverse)
      | .error _ => execute start r (command ++ w.arguments.reverse)
      exit 1

end Batch

open Batch in
def xargs (start : Runner) : Program Nat := do
  let p ← parsed
    { choices := ["0,null", "a,arg-file:", "d,delimiter:", "E:", "e,eof::", "I:", "i,replace::", "L:",
        "l,max-lines::", "n,max-args:", "s,max-chars:", "P,max-procs:", "process-slot-var:", "r,no-run-if-empty",
        "show-limits", "t,verbose", "x,exit", "p,interactive", "o,open-tty"]
      permutes := false }
  let mut r : Request := {}
  for o in p.options do r ← r.with o
  if r.stop.isSome && r.ends.isSome then
    complain "warning: the -E option has no effect if -0 or -d is used.\n"
  let cs ← match r.source with
    | some path => do
      match ← contentOf path with
      | .ok cs => pure cs
      | .error (.unopened e) =>
        die ("Cannot open input file " ++ Text.literalQuote path ++ ": " ++ e.reason) 1
      | .error (.unreadable _) => pure []
    | none => do
      match ← input with
      | .ok cs => pure cs
      | .error _ => pure []
  let command := if p.operands.isEmpty then ["echo"] else p.operands
  let initial : Nat := command.foldl (fun n a => n + a.length + 1) 0
  let replacing := r.mark.isSome
  let room : Int := r.room - (if replacing then 0 else (initial : Int)) - 1
  if !replacing && r.room < initial then die "cannot fit single argument within argument list size limit" 1
  let found := match r.ends with
    | some c => pieces replacing c room cs
    | none => (words replacing (r.stop.map String.toList) room cs {} []).reverse
  perform start r command found { size := initial }
  return 0

end DeltaDebugging.Utility
