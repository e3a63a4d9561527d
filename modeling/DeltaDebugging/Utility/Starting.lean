import DeltaDebugging.Shell.Signal
import DeltaDebugging.Utility.Control
import DeltaDebugging.Utility.Numeral

/-!
# Programs under changed conditions

Utilities that run another program in another environment or directory, with signals ignored, at
another priority, with other buffers, or for a limited time.
-/
namespace DeltaDebugging.Utility

open Program

namespace Starting

/-- Runs a program in place of a utility, which complains if that is not possible. -/
def become (start : Runner) (command : List String) (environment : List (String × String))
    (complaint : String → String := Text.literalQuote) : Program Nat := do
  match ← runOther start command environment with
  | .ok o => throw o
  | .error e =>
    complain (complaint (command.headD "") ++ ": " ++ e.reason)
    return if e = .notFound then 127 else 126

def isSpace (c : Char) : Bool := c = ' ' || ('\t' ≤ c && c ≤ '\r')

/-- The name of a variable in braces behind a dollar sign, and what follows. -/
def bracedName? : List Char → Option (String × List Char)
  | '{' :: c :: cs =>
    let more := cs.takeWhile fun d => d.isAlphanum || d = '_'
    if (c.isAlpha || c = '_') && cs[more.length]? = some '}' then
      some (String.ofList (c :: more), cs.drop (more.length + 1))
    else none
  | _ => none

/-- Where the reading of a text in words is. -/
structure Splitting where
  words : List String := []
  /-- The word that is read, its last character first. -/
  word : Option (List Char) := none
  single : Bool := false
  double : Bool := false

namespace Splitting

/-- The end of a word, if one is read. -/
def stop (s : Splitting) : Splitting := match s.word with
  | some w => { s with words := String.ofList w.reverse :: s.words, word := none }
  | none => s

def start (s : Splitting) : Splitting := { s with word := some (s.word.getD []) }

def push (s : Splitting) (c : Char) : Splitting := { s with word := some (c :: s.word.getD []) }

end Splitting

/-- The words of a text in which quotes keep blanks, backslashes have meanings, and variables stand
for their values. -/
def words (environment : List (String × String)) : (steps : Nat) → List Char → Splitting → Program (List String)
  | 0, _, _ => return []
  | steps + 1, cs, s => do
    let next := words environment steps
    match cs with
    | [] =>
      if s.single || s.double then die "no terminating quote in -S string" 125
      return s.stop.words.reverse
    | c :: rest =>
      if c = '\'' && !s.double then next rest { s.start with single := !s.single }
      else if c = '"' && !s.single then next rest { s.start with double := !s.double }
      else if isSpace c && !s.single && !s.double then next rest s.stop
      else if c = '#' && s.word.isNone then next [] s.stop
      else if c = '$' && !s.single then
        match bracedName? rest with
        | none => die ("only $\x7bVARNAME\x7d expansion is supported, error at: " ++ String.ofList cs) 125
        | some (name, rest) =>
          match environment.lookup name with
          | some v => next rest (v.toList.foldl Splitting.push s.start)
          | none => next rest s
      else if c = '\\' then
        match rest with
        | [] =>
          if s.single then next rest (s.push c)
          else die "invalid backslash at end of string in -S" 125
        | d :: rest =>
          if s.single && d ≠ '\\' && d ≠ '\'' then next (d :: rest) (s.push c)
          else if "\"#$'\\".toList.contains d then next rest (s.push d)
          else if d = '_' then next rest (if s.double then s.push ' ' else s.stop)
          else if d = 'c' then
            if s.double then die "'\\c' must not appear in double-quoted -S string" 125
            next [] { s.stop with single := false }
          else match ['f', 'n', 'r', 't', 'v'].zip ['\x0c', '\n', '\r', '\t', '\x0b'] |>.lookup d with
            | some e => next rest (s.push e)
            | none => die ("invalid sequence '\\" ++ String.singleton d ++ "' in -S") 125
      else next rest (s.push c)

def envChoices : List String :=
  ["i,ignore-environment", "0,null", "u,unset:", "C,chdir:", "S,split-string:", "v,debug", "default-signal::",
    "ignore-signal::", "block-signal::", "list-signal-handling"]

/-- Puts the words of texts that are to be split in the place of these texts. -/
def splitUp (environment : List (String × String)) : (steps : Nat) → (verbose : Bool) → List String →
    Program (List String)
  | 0, _, as => return as
  | _, _, [] => return []
  | steps + 1, verbose, a :: rest => do
    let replaced (verbose : Bool) (before : List String) (text : String) (rest : List String) :
        Program (List String) := do
      let ws ← words environment (text.length + 1) text.toList {}
      if verbose then
        match ws with
        | [] => pure ()
        | w :: more =>
          tell ("split -S:  " ++ Text.literalQuote text ++ "\n into:    " ++ Text.literalQuote w ++ "\n" ++
            String.join (more.map fun v => "     &    " ++ Text.literalQuote v ++ "\n"))
      let more ← splitUp environment steps verbose (ws ++ rest)
      return before ++ more
    let keep (count : Nat) (verbose : Bool) : Program (List String) := do
      let more ← splitUp environment steps verbose (rest.drop count)
      return a :: rest.take count ++ more
    match a.toList with
    | '-' :: '-' :: c :: cs =>
      let name := (c :: cs).takeWhile (· ≠ '=')
      let valued := decide (name.length < cs.length + 1)
      let value := String.ofList ((c :: cs).drop (name.length + 1))
      if name.isPrefixOf "split-string".toList then
        match valued, rest with
        | true, _ => replaced verbose [] value rest
        | false, v :: rest => replaced verbose [] v rest
        | false, [] => return [a]
      else
        let takes := name.isPrefixOf "unset".toList || name.isPrefixOf "chdir".toList
        keep (if takes && !valued then 1 else 0) (verbose || (name.isPrefixOf "debug".toList && 2 ≤ name.length))
    | '-' :: c :: cs =>
      let letters := (c :: cs).takeWhile fun d => d = 'i' || d = '0' || d = 'v'
      let verbose := verbose || letters.contains 'v'
      let before := if letters.isEmpty then [] else [String.ofList ('-' :: letters)]
      match (c :: cs).drop letters.length, rest with
      | [], _ => if c = '-' then return a :: rest else keep 0 verbose
      | ['S'], v :: rest => replaced verbose before v rest
      | ['S'], [] => return [a]
      | 'S' :: value, rest => replaced verbose before (String.ofList value) rest
      | d :: _, _ =>
        if isSpace d then
          complain ("invalid option -- '" ++ String.singleton d ++ "'")
          misuse "use -[v]S to pass options in shebang lines" 125
        else if (d = 'u' || d = 'C') then keep (if (c :: cs).length = letters.length + 1 then 1 else 0) verbose
        else return a :: rest
    | _ => return a :: rest

/-- The numbers of signals by their names, with commas between them. -/
def signals (text : String) : Program (List Nat) := do
  if text.isEmpty then return List.range' 1 31
  (text.splitOn ",").mapM fun (name : String) => do
    match Shell.signalNumber? false name with
    | some n => return n
    | none => misuse (Text.literalQuote name ++ ": invalid signal") 125

/-- An environment with a variable set, in its place if it is there. -/
def set (environment : List (String × String)) (name value : String) : List (String × String) :=
  if (environment.lookup name).isSome then
    environment.map fun e => if e.1 = name then (name, value) else e
  else environment ++ [(name, value)]

end Starting

open Starting in
/-- Runs a program in another environment, or prints the environment. -/
def env (start : Runner) : Program Nat := do
  whenUnwrittenExit 125
  let inherited := (← invocation).environment
  let given ← splitUp inherited 200 false (← arguments)
  withArguments fun _ => given
  let p ← parsed { choices := envChoices, status := 125, permutes := false }
  for o in p.options do
    if o.key = "ignore-signal" then
      let ns ← signals o.value
      modify fun w => { w with invocation := { w.invocation with ignored := ns ++ w.invocation.ignored } }
    if o.key = "default-signal" then
      let ns ← signals o.value
      modify fun w => { w with invocation := { w.invocation with
        ignored := w.invocation.ignored.filter fun n => !ns.contains n } }
    if o.key = "block-signal" then
      let _ ← signals o.value
  let verbose := p.has "v"
  let tellOf (text : String) : Program Unit := if verbose then tell (text ++ "\n") else pure ()
  let dashed := p.operands.head? = some "-"
  let operands := if dashed then p.operands.tail else p.operands
  let mut environment := inherited
  if p.has "i" || dashed then
    tellOf "cleaning environ"
    environment := []
  else
    for name in p.values "u" do
      tellOf ("unset:    " ++ name)
      if name.isEmpty || name.toList.contains '=' then
        die ("cannot unset " ++ Text.literalQuote name ++ ": " ++ FileFault.invalid.reason) 125
      environment := environment.filter fun e => e.1 ≠ name
  let isAssignment (a : String) : Bool := a.toList.contains '='
  for a in operands.takeWhile isAssignment do
    tellOf ("setenv:   " ++ a)
    let name := a.toList.takeWhile (· ≠ '=')
    environment := set environment (String.ofList name) (String.ofList (a.toList.drop (name.length + 1)))
  let command := operands.dropWhile isAssignment
  if p.has "0" && !command.isEmpty then misuse "cannot specify --null (-0) with command" 125
  if p.has "C" && command.isEmpty then misuse "must specify command with --chdir (-C)" 125
  match p.value? "C" with
  | none => pure ()
  | some d =>
    tellOf ("chdir:    " ++ Text.shellQuote d)
    let f ← files
    let cannot (e : FileFault) : Program Unit :=
      die ("cannot change directory to " ++ Text.shellQuote d ++ ": " ++ e.reason) 125
    match f.way true d with
    | .ok w =>
      if f.isDirectory d then modify fun s => { s with invocation := { s.invocation with directory := w } }
      else cannot (if f.present d then .notDirectory else .notFound)
    | .error e => cannot e
  if command.isEmpty then
    let ends := if p.has "0" then "\x00" else "\n"
    put (String.join (environment.map fun e => e.1 ++ "=" ++ e.2 ++ ends))
    return 0
  tellOf ("executing: " ++ command.headD "" ++ String.join (command.zipIdx.map fun e =>
    "\n   arg[" ++ toString e.2 ++ "]= " ++ Text.literalQuote e.1))
  match ← runOther start command environment with
  | .ok o => throw o
  | .error e =>
    complain (Text.literalQuote (command.headD "") ++ ": " ++ e.reason)
    if e = .notFound && (command.headD "").toList.any isSpace then
      complain "use -[v]S to pass options in shebang lines"
    return if e = .notFound then 127 else 126

def printenv : Program Nat := do
  whenUnwrittenExit 2
  let p ← parsed { choices := ["0,null"], status := 2, permutes := false }
  let ends := if p.has "0" then "\x00" else "\n"
  let environment := (← invocation).environment
  if p.operands.isEmpty then
    put (String.join (environment.map fun e => e.1 ++ "=" ++ e.2 ++ ends))
    return 0
  else
    for name in p.operands do
      match environment.lookup name with
      | some v => put (v ++ ends)
      | none => raise 1
    return 0

open Starting in
def timeout (start : Runner) : Program Nat := do
  let p ← parsed
    { choices := ["k,kill-after:", "s,signal:", "foreground", "preserve-status", "v,verbose"]
      status := 125
      permutes := false }
  let intervalOf (text : String) : Program Nat := do
    match interval? text with
    | some n => return n
    | none => misuse ("invalid time interval " ++ Text.literalQuote text) 125
  let mut signal := 15
  for o in p.options do
    if o.key = "k" then
      let _ ← intervalOf o.value
    if o.key = "s" then
      match Shell.signalNumber? false o.value with
      | some n => signal := n
      | none => misuse (Text.literalQuote o.value ++ ": invalid signal") 125
  let number := signal
  match p.operands with
  | limit :: command :: rest =>
    let limit ← intervalOf limit
    let s ← system
    let outer := s.deadline
    let own := if limit = 0 then outer else min outer (s.clock + limit)
    setSystem { s with deadline := own }
    let late : Program Nat := do
      setSystem { (← system) with deadline := outer, clock := own }
      if outer ≤ own then throw .endless
      if p.has "v" then
        complain ("sending signal " ++ (Shell.signalName? number).getD "" ++ " to command " ++
          Text.literalQuote command)
      if number = 9 then throw (.killed 9)
      return if p.has "preserve-status" then 128 + number else 124
    let work : Program (Except FileFault Fate) := runOther start (command :: rest) (← invocation).environment
    match work (← get) with
    | .ok (.ok o) w =>
      set { w with system := { w.system with deadline := outer } }
      match o with
      | .killed n => if n = 9 then throw (.killed 9) else return 128 + n
      | o => return o.status
    | .ok (.error e) w =>
      set { w with system := { w.system with deadline := outer } }
      complain ("failed to run command " ++ Text.literalQuote command ++ ": " ++ e.reason)
      return if e = .notFound then 127 else 126
    | .error .endless w =>
      set w
      late
    | .error o w =>
      set w
      throw o
  | _ =>
    tell (← hint)
    return 125

open Starting in
def nohup (start : Runner) : Program Nat := do
  let p ← parsed { choices := [], status := 125, permutes := false }
  if p.operands.isEmpty then misuse "missing operand" 125
  modify fun w => { w with invocation := { w.invocation with ignored := 1 :: w.invocation.ignored } }
  become start p.operands (← invocation).environment fun name => "failed to run command " ++ Text.shellQuote name

namespace Starting

/-- Old forms of adjustments among the options are spelled out. -/
def adjustments : List String → List String
  | [] => []
  | a :: rest => match a.toList with
    | '-' :: c :: cs =>
      let number := if c = '-' || c = '+' then cs.head?.any Char.isDigit else c.isDigit
      if number then ("-n" ++ String.ofList (c :: cs)) :: adjustments rest
      else if a = "-n" || (a ≠ "--" && a.toList.isPrefixOf "--adjustment".toList) then
        match rest with
        | v :: rest => a :: v :: adjustments rest
        | [] => [a]
      else if c = '-' && cs.isEmpty then a :: rest
      else a :: adjustments rest
    | _ => a :: rest

end Starting

open Starting in
/-- Runs a program at another priority, or prints the priority. -/
def nice (start : Runner) : Program Nat := do
  withArguments adjustments
  let p ← parsed { choices := ["n,adjustment:"], status := 125, permutes := false }
  let given := p.value? "n"
  let change : Int ← match given with
    | none => pure 10
    | some t => match numeral 10 true "" t with
      | (n, none) => pure (max (-39) (min n 39))
      | (n, some .tooLarge) => pure (max (-39) (min n 39))
      | _ => die ("invalid adjustment " ++ Text.literalQuote t) 125
  let now := (← system).niceness
  if p.operands.isEmpty then
    if given.isSome then misuse "a command must be given with an adjustment" 125
    putLine (toString now)
    return 0
  if change < 0 then complain ("cannot set niceness: " ++ FileFault.denied.reason)
  else setSystem { (← system) with niceness := min 19 (now + change) }
  let outcome ← runOther start p.operands (← invocation).environment
  setSystem { (← system) with niceness := now }
  match outcome with
  | .ok o => throw o
  | .error e =>
    complain (Text.literalQuote (p.operands.headD "") ++ ": " ++ e.reason)
    return if e = .notFound then 127 else 126

open Starting in
/-- Runs a program whose streams have other buffers, which shows nowhere. -/
def stdbuf (start : Runner) : Program Nat := do
  let p ← parsed { choices := ["i,input:", "o,output:", "e,error:"], status := 125, permutes := false }
  for o in p.options do
    let mode := o.value.toList.dropWhile isSpace
    if mode.head? = some 'L' && o.key = "i" then misuse "line buffering stdin is meaningless" 125
    if mode ≠ ['L'] then
      match numeral 10 false "EGkKMPTYZ0" (String.ofList mode) with
      | (_, none) => pure ()
      | (_, some .tooLarge) =>
        die ("invalid mode " ++ Text.literalQuote o.value ++ ": Value too large for defined data type") 125
      | _ => die ("invalid mode " ++ Text.literalQuote o.value) 125
  if p.operands.isEmpty then misuse "missing operand" 125
  if p.options.isEmpty then misuse "you must specify a buffering mode option" 125
  become start p.operands (← invocation).environment fun name => "failed to run command " ++ Text.literalQuote name

end DeltaDebugging.Utility
