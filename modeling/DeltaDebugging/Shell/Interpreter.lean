import DeltaDebugging.Process.Executable
import DeltaDebugging.Shell.Builtins
import DeltaDebugging.Shell.Parser

/-!
# Running shell commands

Each function says how one kind of command is run, given an evaluator for the commands
within it; `evaluator` closes the circle by how deep commands may call one another. Loops
are bounded by the patience of the system, which every command uses up: what runs out of it
counts as running forever.
-/
namespace DeltaDebugging.Shell

open Run

/-- The lines that a reader has taken in on its way to a later one, as far as the end of the last. -/
def linesTaken (before after : Reader) : String :=
  let taken := before.rest.take (before.rest.length - after.rest.length)
  let whole := taken.getLast?.all (· = '\n')
  String.ofList (if whole then taken else
    taken ++ (before.rest.drop taken.length).takeWhile (· ≠ '\n') ++
      ((before.rest.drop taken.length).dropWhile (· ≠ '\n')).take 1)

/-- Runs the lines of a script, and gives the status of the last command. Those of a file are
told as they are read, if that is asked for. -/
def runLines (ev : Evaluator) (place : Place) (ofFile : Bool) : (steps : Nat) → (status : Nat) →
    Reader → Run Nat
  | 0, status, _ => return status
  | steps + 1, status, before => do
    let s ← session
    let tell (after : Reader) : Run Unit := do
      if ofFile && s.options.contains 'v' then
        let _ ← put 2 (linesTaken before after)
    match Reading.nextLine { before with
        aliases := s.aliases, documents := [], nextDocument := s.nextDocument } with
    | .error e r =>
      tell r
      update fun s => { s with line := e.line }
      fail ("Syntax error: " ++ e.message)
    | .ok line r =>
      tell r
      update fun s => { s with
        documents := r.documents ++ s.documents, nextDocument := r.nextDocument }
      match line with
      | none => return status
      | some none => runLines ev place ofFile steps status r
      | some (some c) =>
        let atEnd := r.again && r.token = .endOfFile
        let status ← ev.run { place with last := place.last && atEnd } c
        if ← skipping then return status else runLines ev place ofFile steps status r

def runText (ev : Evaluator) (place : Place) (ofFile : Bool) (text : String) : Run Nat :=
  runLines ev place ofFile (text.length + 2) 0 { rest := text.toList.filter (· ≠ '\x00') }

/-- Runs the traps of the signals that have arrived, and keeps the status as it was, unless one of them returns from a function. -/
def runTraps (ev : Evaluator) : (steps : Nat) → Run Unit
  | 0 => return
  | steps + 1 => do
    let s ← session
    match s.pending with
    | [] => return
    | n :: more =>
      if s.skip ≠ .none then return
      update fun s => { s with pending := more }
      match s.traps.lookup n with
      | none => runTraps ev steps
      | some text =>
        let n ← runText ev {} false text
        -- a trap that returns from a function gives the function's status
        setStatus (if (← session).skip = .returning then n else s.status)
        runTraps ev steps

/-- What a session does at its end: the trap for it. Its status stays unless the trap exits
with another. -/
def runEnding (ev : Evaluator) : Run Unit := do
  let s ← session
  match s.traps.lookup 0 with
  | none => return
  | some text =>
    update fun s => { s with
      traps := s.traps.filter (fun t => t.1 ≠ 0), skip := .none, builtin := none }
    let _ ← runText ev {} false text
    setStatus s.status

def announce (o : Fate) : Run Unit := do
  match o with
  | .killed n => if n ≠ 2 && n ≠ 13 then
      let _ ← put 2 (signalText n ++ "\n")
  | _ => return

def openReason (creates : Bool) : FileFault → String
  | .notFound | .notDirectory => if creates then "Directory nonexistent" else "No such file"
  | e => e.reason

def execReason : FileFault → String
  | .notFound | .notDirectory => "not found"
  | e => e.reason

/-- The status of a command that could not be run. -/
def execStatus : FileFault → Nat
  | .notFound | .notDirectory | .nameTooLong | .manyLinks => 127
  | _ => 126

inductive Direction where
  | file (descriptor : Nat) (mode : OpenMode) (path : String)
  | duplicate (descriptor : Nat) (source : Option Nat)
  /-- The text of a here-document is expanded when it is put in place. -/
  | content (descriptor : Nat) (w : Word)

def direction (ev : Evaluator) : Redirection → Run Direction
  | .file descriptor mode w => do
    return .file descriptor mode (Letter.text (← ev.single w))
  | .duplicate descriptor source => return .duplicate descriptor source
  | .duplicateWord descriptor w => do
    let text := Letter.text (← ev.single w)
    match text.toList with
    | ['-'] => return .duplicate descriptor none
    | [c] => if c.isDigit then return .duplicate descriptor (some (c.toNat - '0'.toNat)) else
      fail "Syntax error: Bad fd number"
    | _ => fail "Syntax error: Bad fd number"
  | .document descriptor number => do
    return .content descriptor (((← session).documents.lookup number).getD [])

def connect (descriptor opening : Nat) : Run Unit :=
  update fun s => { s with
    descriptors := (descriptor, opening) :: s.descriptors.filter fun d => d.1 ≠ descriptor }

def disconnect (descriptor : Nat) : Run Unit :=
  update fun s => { s with descriptors := s.descriptors.filter fun d => d.1 ≠ descriptor }

/-- Carries out a redirection. One that is to be undone puts the old descriptor aside first. -/
def redirect (ev : Evaluator) (undone : Bool) : Direction → Run Unit
  | .file descriptor mode path => do
    let s ← session
    let access : System.Access := match mode with
      | .read => .toRead
      | .write => { System.Access.toReplace with fresh := s.options.contains 'C' }
      | .overwrite => .toReplace
      | .append => .toAppend
      | .readWrite => .toUpdate
    match (← system).open s.directory s.descriptors s.mask path access with
    | .ok (system, o) =>
      setSystem system
      connect descriptor o
    | .error e =>
      if mode = .read then fail ("cannot open " ++ path ++ ": " ++ openReason false e)
      else fail ("cannot create " ++ path ++ ": " ++ openReason true e)
  | .duplicate descriptor none => disconnect descriptor
  | .duplicate descriptor (some source) => do
    match (← session).descriptors.lookup source with
    | some o => connect descriptor o
    | none =>
      if undone && descriptor = 2 then disconnect 2
      fail (toString source ++ ": Bad file descriptor")
  | .content descriptor w => do
    let ls ← Run.letters ev Evaluator.maximalParts { full := false, quoted := true } false w
    let (system, reader, _) := (← system).addPipe (Letter.text ls)
    setSystem system
    connect descriptor reader

def redirectAll (ev : Evaluator) (undone : Bool) (ds : List Direction) : Run Unit :=
  ds.forM (redirect ev undone)

/-- Runs some work under redirections, which are undone afterwards. A redirection that fails
is the status of the whole. -/
def redirected (ev : Evaluator) (ds : List Direction) (act : Run Nat) : Run Nat := do
  let before := (← session).descriptors
  let restore : Run Unit := update fun s => { s with descriptors := before }
  match ← attempt (redirectAll ev true ds) with
  | .error .mistake =>
    restore
    return 2
  | .error stop => throw stop
  | .ok () =>
    match ← attempt act with
    | .ok n =>
      restore
      return n
    | .error stop => throw stop

def startProgram (ev : Evaluator) (path : String) (arguments : List String) : Run Fate := do
  let s ← session
  let (fate, system) := ev.start
    { path, name := arguments.headD "", arguments := arguments.tail, environment := s.environment
      descriptors := s.descriptors, directory := s.directory, mask := s.mask
      ignored := (s.traps.filter fun t => t.2.isEmpty && t.1 ≠ 0).map Prod.fst ++ s.ignored }
    { (← system) with processes := (← system).processes + 1 }
  setSystem system
  if fate = .endless then throw .endless
  noticeJobs
  return fate

def findProgram (name : String) : Run (Except FileFault String) := do
  return (← files).programPath name ((← value? "PATH").getD "")

/-- Runs a program beside the session, or in its place if the session ends with it. -/
def runProgram (ev : Evaluator) (place : Place) (arguments : List String) : Run Nat := do
  let name := arguments.headD ""
  match ← findProgram name with
  | .error e =>
    complain (name ++ ": " ++ if name.isEmpty then FileFault.denied.reason else execReason e)
    return if name.toList.contains '/' then execStatus e else 127
  | .ok path =>
    if arguments.any fun a => maximalArgument < a.length then
      complain (arguments.headD "" ++ ": " ++ FileFault.tooLong.reason)
      return 126
    if !(← files).isReadable path then
      complain (name ++ ": " ++ FileFault.badFormat.reason)
      return 126
    if !name.toList.contains '/' then
      update fun s => { s with remembered := s.remembered.filter (· ≠ name) ++ [name] }
    let fate ← startProgram ev path arguments
    match fate with
    | .killed n =>
      if place.last && (← session).traps.isEmpty then throw (.killed n)
      announce fate
      return fate.status
    | _ => return fate.status

def maximalCalls : Nat := 1000

def call (ev : Evaluator) (place : Place) (body : Command) (arguments : List String) : Run Nat := do
  let s ← session
  if maximalCalls ≤ s.functionDepth then
    fail ("Maximum function recursion depth (" ++ toString maximalCalls ++ ") reached")
  update fun s => { s with
    arguments, optionArgument := 1, optionPlace := 0, loops := 0, functionDepth := s.functionDepth + 1 }
  let r ← attempt (ev.run { tested := place.tested } body)
  update fun t => { t with
    arguments := s.arguments, optionArgument := s.optionArgument, optionPlace := s.optionPlace
    loops := s.loops, functionDepth := s.functionDepth
    skip := if t.skip = .returning then .none else t.skip }
  match r with
  | .ok n => return n
  | .error stop => throw stop

def source (ev : Evaluator) (arguments : List String) : Run Nat := do
  let (_, rest) ← letterOptions [] arguments
  match rest with
  | [] => return 0
  | name :: _ =>
    let f ← files
    let directories := ((← value? "PATH").getD "").splitOn ":"
    let found : Option String :=
      if name.toList.contains '/' then some name else
      directories.findSome? fun directory =>
        let path := if directory.isEmpty then name else directory ++ "/" ++ name
        match f.read path with
        | .ok _ => some path
        | .error _ => none
    match found with
    | none => fail (name ++ ": not found")
    | some path => match f.read path with
      | .error .isDirectory => return 0
      | .error e => fail ("cannot open " ++ path ++ ": " ++ openReason false e)
      | .ok text =>
        update fun s => { s with builtin := some path }
        let status ← runText ev {} true text
        update fun s => { s with skip := if s.skip = .returning then .none else s.skip }
        return status

inductive Meaning where
  | keyword
  | shorthand (value : String)
  | function
  | special
  | builtin
  | program (path : String)
  | nothing

def builtinNames : List String :=
  [".", ":", "[", "alias", "bg", "break", "cd", "chdir", "command", "continue", "echo", "eval",
    "exec", "exit", "export", "false", "fg", "getopts", "hash", "jobs", "kill", "local", "printf",
    "pwd", "read", "readonly", "return", "set", "shift", "test", "times", "trap", "true", "type",
    "ulimit", "umask", "unalias", "unset", "wait"]

def isSpecialBuiltin (name : String) : Bool :=
  Reading.specialBuiltins.contains name || name = "local"

def meaning (name : String) : Run Meaning := do
  let s ← session
  if Builtin.reserved.contains name then return .keyword
  else match s.aliases.lookup name with
  | some v => return .shorthand v
  | none =>
    if (s.functions.lookup name).isSome then return .function
    else if builtinNames.contains name then
      return if isSpecialBuiltin name then .special else .builtin
    else match ← findProgram name with
      | .ok path => return .program path
      | .error _ => return .nothing

def describe (atLength : Bool) (names : List String) : Run Nat := do
  let mut status := 0
  for name in names do
    let line : Option String := match ← meaning name with
      | .keyword => some (if atLength then name ++ " is a shell keyword" else name)
      | .shorthand v => some (if atLength then name ++ " is an alias for " ++ v
          else "alias " ++ name ++ "=" ++ singleQuote v)
      | .function => some (if atLength then name ++ " is a shell function" else name)
      | .special => some (if atLength then name ++ " is a special shell builtin" else name)
      | .builtin => some (if atLength then name ++ " is a shell builtin" else name)
      | .program path => some (if atLength then name ++ " is " ++ path else path)
      | .nothing => none
    match line with
    | some l => if (← print (l ++ "\n")) ≠ 0 then status := 1
    | none =>
      if atLength then
        let _ ← print (name ++ ": not found\n")
      status := 127
  return status

def hashRow (name : String) : Nat :=
  (name.toList.foldl (fun n c => n + c.toNat) (16 * (name.toList.headD ' ').toNat)) % 31

/-- Remembers where programs are, or tells those that were run or looked for. -/
def hash (arguments : List String) : Run Nat := do
  let (os, names) ← letterOptions ['r', 'v'] arguments
  if (os.lookup 'r').isSome then
    update fun s => { s with remembered := [] }
    return 0
  if names.isEmpty then
    let found ← ((← session).remembered.mergeSort fun a b => decide (hashRow a ≤ hashRow b)).filterMapM
      fun (name : String) => do
        return (← findProgram name).toOption
    return (← print (String.join (found.map (· ++ "\n"))))
  let mut status := 0
  for name in names do
    match ← meaning name with
    | .nothing =>
      warn (name ++ ": " ++ if name.isEmpty then FileFault.denied.reason else execReason .notFound)
      status := 1
    | .program _ => update fun s =>
        { s with remembered := s.remembered.filter (· ≠ name) ++ [name] }
    | _ => pure ()
  return status

/-- Another program in place of the session; without one, only the redirections stay. -/
def replace (ev : Evaluator) (arguments : List String) : Run Nat := do
  let (_, rest) ← letterOptions [] arguments
  match rest with
  | [] => return 0
  | name :: _ => match ← findProgram name with
    | .ok path => throw (.replaced (← startProgram ev path rest))
    | .error e =>
      complain (name ++ ": " ++ if name.isEmpty then FileFault.denied.reason else execReason e)
      setStatus (if name.isEmpty then 126 else execStatus e)
      throw .exit

def builtin (ev : Evaluator) (place : Place) (name : String) (arguments : List String) : Run Nat :=
  match name with
  | ":" => return 0
  | "true" => return 0
  | "false" => return 1
  | "." => source ev arguments
  | "[" => Builtin.test name arguments
  | "test" => Builtin.test name arguments
  | "alias" => Builtin.aliases arguments
  | "bg" => Builtin.resume arguments
  | "fg" => Builtin.resume arguments
  | "jobs" => Builtin.listJobs arguments
  | "break" => Builtin.leave false arguments
  | "continue" => Builtin.leave true arguments
  | "cd" => Builtin.changeDirectory arguments
  | "chdir" => Builtin.changeDirectory arguments
  | "command" => return 0
  | "echo" => Builtin.echo arguments
  | "eval" =>
    if arguments.isEmpty then return 0
    else runText ev { tested := place.tested } false (String.intercalate " " arguments)
  | "exec" => replace ev arguments
  | "exit" => Builtin.exit arguments
  | "export" => Builtin.declare true arguments
  | "readonly" => Builtin.declare false arguments
  | "getopts" => Builtin.getopts arguments
  | "hash" => hash arguments
  | "kill" => Builtin.kill arguments
  | "local" => Builtin.localVariables arguments
  | "printf" => Builtin.printf arguments
  | "pwd" => Builtin.printDirectory arguments
  | "read" => Builtin.read arguments
  | "return" => Builtin.giveBack arguments
  | "set" => Builtin.set arguments
  | "shift" => Builtin.shift arguments
  | "times" => Builtin.times arguments
  | "trap" => Builtin.trap arguments
  | "type" => describe true arguments
  | "ulimit" => Builtin.ulimit arguments
  | "umask" => Builtin.umask arguments
  | "unalias" => Builtin.unalias arguments
  | "unset" => Builtin.unset arguments
  | "wait" => Builtin.wait arguments
  | _ => return 0

/-- Runs a builtin under its name. Unless it is special, its mistakes only give its status. -/
def runBuiltin (ev : Evaluator) (place : Place) (special : Bool) (name : String)
    (arguments : List String) : Run Nat := do
  let before := (← session).builtin
  update fun s => { s with builtin := some name }
  let r ← attempt (builtin ev place name arguments)
  match r with
  | .ok n =>
    update fun s => { s with builtin := before }
    return n
  | .error .mistake =>
    update fun s => { s with builtin := before }
    if special then throw .mistake else return (← session).status
  | .error stop =>
    update fun s => { s with builtin := before }
    throw stop

/-- What a command line runs, after any `command` in front: whether functions are passed over,
what is asked if it is only a question, and the words that are left. -/
structure Called where
  plain : Bool := false
  asked : Option Bool := none
  words : List String
  deriving DecidableEq, Repr

def uncommand : (steps : Nat) → List String → Run Called
  | 0, ws => return { words := ws }
  | steps + 1, ws => do
    match ws with
    | "command" :: rest =>
      if ((← session).functions.lookup "command").isSome then return { words := ws } else
      let (os, rest) ← letterOptions ['p', 'v', 'V'] rest
      if (os.lookup 'v').isSome || (os.lookup 'V').isSome then
        return { plain := true, asked := some (os.lookup 'V').isSome, words := rest }
      let c ← uncommand steps rest
      return { c with plain := true }
    | _ => return { words := ws }

/-- The words of a command, expanded. The values of a builtin that declares variables are not
split. -/
def expandWords (ev : Evaluator) : (declares : Option Bool) → List Word → Run (List String)
  | _, [] => return []
  | declares, w :: ws => do
    match declares, Reading.assignment? w with
    | some true, some (name, value) =>
      let text := Letter.text (← ev.single value true)
      return (name ++ "=" ++ text) :: (← expandWords ev declares ws)
    | _, _ =>
      let fs ← ev.fields w
      let declares := match declares, fs with
        | none, f :: _ => if f = "command" then none else
          some (["export", "readonly", "local", "alias"].contains f)
        | d, _ => d
      return fs ++ (← expandWords ev declares ws)

/-- Writes what is about to be run, if that is asked for. -/
def trace (ev : Evaluator) (descriptors : Descriptors) (words : List String) : Run Unit := do
  let s ← session
  if !s.options.contains 'x' || s.tracing then return
  update fun s => { s with tracing := true }
  let mark := (← value? "PS4").getD ""
  let mark ← match Reading.double Reading.inner .document (mark.length + 1) {} { rest := mark.toList } with
    | .ok w _ => do
      pure (Letter.text (← Run.letters ev Evaluator.maximalParts { full := false, quoted := true } false w))
    | .error _ _ => pure mark
  update fun s => { s with tracing := false }
  match descriptors.lookup 2 with
  | none => return
  | some o => match (← system).write o (mark ++ String.intercalate " " words ++ "\n") with
    | .ok s => setSystem s
    | .error _ => return

def runSimple (ev : Evaluator) (place : Place) (line : Nat) (assignments : List (String × Word))
    (words : List Word) (redirections : List Redirection) : Run Nat := do
  update fun s => { s with line, substituted := 0 }
  let args ← expandWords ev none words
  let called ← do
    let before := (← session).builtin
    update fun s => { s with builtin := if args.head? = some "command" then some "command" else before }
    let c ← uncommand (args.length + 1) args
    update fun s => { s with builtin := before }
    pure c
  let s ← session
  let before := s.descriptors
  let name := called.words.headD ""
  let function := if called.plain then none else s.functions.lookup name
  let isBuiltin := called.asked.isSome || (function.isNone && builtinNames.contains name) ||
    called.words.isEmpty
  let special := !called.plain && isBuiltin && isSpecialBuiltin name
  let keeps := args.isEmpty || special
  let ds ← redirections.mapM (direction ev)
  match ← attempt (redirectAll ev true ds) with
  | .error .mistake =>
    update fun s => { s with descriptors := before, status := 2 }
    if special then throw .mistake else return 2
  | .error stop => throw stop
  | .ok () =>
    if !keeps then update fun s => { s with hidden := {} :: s.hidden }
    let values ← assignments.mapM fun (name, w) => do
      let text := Letter.text (← ev.single w true)
      if !keeps then hide name
      assign name text (!keeps || (name != "" && args.head? = some "exec" && 1 < args.length))
      pure (name ++ "=" ++ text)
    if !(args.isEmpty && values.isEmpty && redirections.isEmpty) then
      trace ev before (values ++ args)
    let finish : Run Unit := do
      if !keeps then reveal
    let restore : Run Unit := update fun s => { s with descriptors := before }
    let act : Run Nat :=
      if args.isEmpty then do return (← session).substituted
      else match called.asked with
      | some atLength => do
        update fun s => { s with builtin := some "command" }
        let n ← describe atLength called.words
        update fun t => { t with builtin := s.builtin }
        return n
      | none =>
        if called.words.isEmpty then return 0 else
        match function with
        | some (_, body) => call ev place body called.words.tail
        | none =>
          if isBuiltin then runBuiltin ev place special name called.words.tail
          else runProgram ev place called.words
    match ← attempt act with
    | .ok n =>
      if !(name = "exec" && isBuiltin) then restore
      finish
      return n
    | .error stop =>
      finish
      throw stop

/-- Takes in the end of a round of a loop: whether the loop is over, and whether it is over
because a function returns. -/
def endRound : Run (Bool × Bool) := do
  match (← session).skip with
  | .none => return (false, false)
  | .returning => return (true, true)
  | .breaking n =>
    update fun s => { s with skip := if n ≤ 1 then .none else .breaking (n - 1) }
    return (true, false)
  | .continuing n =>
    if n ≤ 1 then
      update fun s => { s with skip := .none }
      return (false, false)
    else
      update fun s => { s with skip := .continuing (n - 1) }
      return (true, false)

/-- The rounds of a loop with a condition; `status` is that of the body when it ran last. -/
def rounds (ev : Evaluator) (place : Place) (stopWhen : Bool) (c body : Command) :
    (steps : Nat) → (status : Nat) → Run Nat
  | 0, _ => throw .endless
  | steps + 1, status => do
    let n ← ev.run { tested := true } c
    let skips ← skipping
    let (finished, returns) ← endRound
    if finished then return if returns then n else status
    else if skips then rounds ev place stopWhen c body steps status
    else if decide (n = 0) = stopWhen then return status
    else
      let status ← ev.run { tested := place.tested } body
      let (finished, _) ← endRound
      if finished then return status else rounds ev place stopWhen c body steps status

def valueRounds (ev : Evaluator) (place : Place) (name : String) (body : Command) :
    List String → (status : Nat) → Run Nat
  | [], status => return status
  | v :: vs, _ => do
    assign name v
    let status ← ev.run { tested := place.tested } body
    let (finished, _) ← endRound
    if finished then return status else valueRounds ev place name body vs status

def inLoop (act : Run Nat) : Run Nat := do
  update fun s => { s with loops := s.loops + 1 }
  let n ← act
  update fun s => { s with loops := s.loops - 1 }
  return n

/-- Whether a text fits one of some patterns, which are only expanded until one fits. -/
def fitsAny (ev : Evaluator) (text : String) : List Word → Run Bool
  | [] => return false
  | p :: ps => do
    let ls ← ev.single p
    if Glob.accepts (Glob.ofMarked (Letter.marked ls)) text.toList then return true
    else fitsAny ev text ps

def choose (ev : Evaluator) (place : Place) (text : String) :
    List (List Word × Option Command) → Run Nat
  | [] => return 0
  | (patterns, body) :: more => do
    if ← fitsAny ev text patterns then
      match body with
      | some c => ev.run place c
      | none => return 0
    else choose ev place text more

/-- Commands in a row; the place of the last is that of the row. -/
def runRow (ev : Evaluator) (place : Place) : List Command → Run Nat
  | [] => return 0
  | [c] => ev.run place c
  | c :: cs => do
    let n ← ev.run { tested := place.tested } c
    if ← skipping then return n else runRow ev place cs

/-- How many commands a stage of a pipeline may run beyond what its reader could need. -/
def stagePatience : Nat := 30000

/-- Stages of a pipeline, each in a process of its own, from the one that reads `input`. -/
def runStages (ev : Evaluator) (descriptors : Descriptors) (start : Nat) : (input : Option Nat) →
    (finish : Nat) → List Command → Run Nat
  | _, _, [] => return 0
  | input, finish, c :: cs => do
    setSystem { (← system) with clock := start }
    let reading := match input with
      | some o => (0, o) :: descriptors.filter fun d => d.1 ≠ 0
      | none => descriptors
    match cs with
    | [] =>
      update fun s => { s with descriptors := reading }
      let o ← apart ev.ending (ev.run { last := true } c)
      update fun s => { s with descriptors }
      let s ← system
      setSystem { s with clock := max s.clock finish }
      announce o
      return o.status
    | cs =>
      let (s, reader, writer) := (← system).addPipe ""
      setSystem s
      let before ← session
      let patience := (← system).patience
      let allowed := min patience stagePatience
      setSystem { (← system) with patience := allowed }
      update fun s => { s with descriptors := (1, writer) :: reading.filter fun d => d.1 ≠ 1 }
      let r ← attempt (apart ev.ending (ev.run { last := true } c))
      let s ← system
      setSystem { s with patience := patience - (allowed - s.patience) }
      update fun _ => { before with descriptors }
      match r with
      | .ok o => announce o
      | .error .endless =>
        -- the reader gets what there is; whether it asks for more will show
        let s ← system
        match s.opening? reader with
        | some ⟨.pipe p, _, _, _, _⟩ =>
          setSystem { s with pipes := s.pipes.modify p fun q => { q with endless := true } }
        | _ => pure ()
      | .error stop => throw stop
      runStages ev descriptors start (some reader) (max finish (← system).clock) cs

def runBackground (ev : Evaluator) (c : Command) : Run Nat := do
  let before := (← session).descriptors
  let start := (← system).clock
  let process := (← system).processes + 1
  let input ← match (← system).open [] before 0 "/dev/null" .toRead with
    | .ok (s, o) => do
      setSystem s
      pure ((0, o) :: before.filter fun d => d.1 ≠ 0)
    | .error _ => pure before
  update fun s => { s with descriptors := input }
  let outer := (← system).job
  modify fun m => { m with system := { m.system with job := process } }
  let r ← attempt (apart ev.ending (ev.run { last := true } c))
  update fun s => { s with descriptors := before }
  let s ← system
  let fate ← match r with
    | .ok o => pure o
    | .error .endless => pure .endless
    | .error stop => throw stop
  let finish := if fate = .endless then s.deadline else s.clock
  -- a program takes the place of the process that was to start it
  let held := match c with
    | .simple .. => false
    | _ => s.holds before
  setSystem { s with job := outer, clock := start, latest := if held then max s.latest finish else s.latest }
  update fun s => { s with
    background := some process
    jobs :=
      let last := (s.jobs.map Job.number).foldl max 0
      { number := last + 1, process, finish, fate } :: s.jobs }
  return 0

/-- Runs a command, without what comes before and after every command. -/
def runCommand (ev : Evaluator) (place : Place) : Command → Run Nat
  | .simple line assignments words redirections =>
    runSimple ev place line assignments words redirections
  | .pipeline stages => do
    let start := (← system).clock
    runStages ev (← session).descriptors start none start stages
  | .background line c => do
    update fun s => { s with line }
    runBackground ev c
  | .negation c => do
    let n ← ev.run { tested := true } c
    if ← skipping then return n else return if n = 0 then 1 else 0
  | .both a b => do
    let n ← ev.run { tested := true } a
    if n ≠ 0 || (← skipping) then return n else ev.run place b
  | .either a b => do
    let n ← ev.run { tested := true } a
    if n = 0 || (← skipping) then return n else ev.run place b
  | .sequence cs => runRow ev place cs
  | .conditional c yes no => do
    let n ← ev.run { tested := true } c
    if ← skipping then return n
    else if n = 0 then ev.run place yes
    else match no with
      | some no => ev.run place no
      | none => return 0
  | .loop stopWhen c body => do
    inLoop (rounds ev place stopWhen c body ((← system).patience + 1) 0)
  | .each line name words body => do
    update fun s => { s with line }
    let values := (← words.mapM ev.fields).flatten
    inLoop (valueRounds ev place name body values 0)
  | .choose line w branches => do
    update fun s => { s with line }
    choose ev place (Letter.text (← ev.single w)) branches
  | .redirected line c redirections => do
    update fun s => { s with line }
    let ds ← redirections.mapM (direction ev)
    redirected ev ds (ev.run { tested := place.tested } c)
  | .subshell line c redirections => do
    update fun s => { s with line }
    let ds ← redirections.mapM (direction ev)
    let o ← apart ev.ending do
      redirectAll ev false ds
      ev.run { place with last := true } c
    match o with
    | .killed n => if place.last && (← session).traps.isEmpty then throw (.killed n)
    | _ => pure ()
    announce o
    return o.status
  | .define line name body => do
    update fun s => { s with
      functions := (name, line, body) :: s.functions.filter fun f => f.1 ≠ name }
    return 0

def counts : Command → Bool
  | .simple .. | .pipeline .. | .background .. | .subshell .. => true
  | _ => false

/-- Runs a command: traps first, then the command itself, then what its failure brings. -/
def runWith (ev : Evaluator) (place : Place) (c : Command) : Run Nat := do
  let s ← session
  if s.options.contains 'n' then return s.status
  let system ← Run.system
  if system.patience = 0 || system.deadline ≤ system.clock then throw .endless
  setSystem { system with patience := system.patience - 1 }
  collect
  if !s.pending.isEmpty then runTraps ev (s.pending.length + 8)
  let n ← runCommand ev place c
  setStatus n
  collect
  let t ← session
  if !t.pending.isEmpty then
    runTraps ev (t.pending.length + 8)
    if (← session).skip = .returning then return (← session).status
  if counts c && !place.tested && n ≠ 0 && t.options.contains 'e' then throw .exit
  return n

/-- An evaluator for commands that call one another at most `depth` deep. -/
def evaluator (start : Runner) : (depth : Nat) → Evaluator
  | 0 => { run := fun _ _ => throw (.killed 11), start, ending := return }
  | depth + 1 =>
    let below := evaluator start depth
    { run := fun place c => runWith (evaluator start depth) place c
      start
      ending := runEnding below }

end DeltaDebugging.Shell
