import DeltaDebugging.Shell.Interpreter

/-!
# The shell as a program

What a shell does between its start and its end: it takes over the environment, reads its
options, finds its script, which is an argument, a file or the standard input, and ends as
its last command did.
-/
namespace DeltaDebugging.Shell

open Run

structure Start where
  /-- The text to run, if it is given with `-c`. -/
  text : Bool := false
  /-- The arguments behind the options. -/
  rest : List String := []

def startOptions : List String → Run Start
  | [] => return {}
  | a :: rest => do
    match a.toList with
    | ['-'] => return { rest }
    | ['-', '-'] => return { rest }
    | sign :: cs =>
      if sign ≠ '-' && sign ≠ '+' then return { rest := a :: rest } else
      let on := decide (sign = '-')
      (cs.filter fun c => c ≠ 'c' && c ≠ 'l' && c ≠ 'o').forM fun c => Builtin.setOption c on
      let s ← if cs.contains 'o' then match rest with
          | name :: more => do
            Builtin.setNamedOption (some name) on
            startOptions more
          | [] => do
            Builtin.setNamedOption none on
            startOptions []
        else startOptions rest
      return { s with text := s.text || cs.contains 'c' }
    | [] => return { rest := a :: rest }

def inputText : Run String := do
  match (← session).descriptors.lookup 0 with
  | none => return ""
  | some o => match (← system).contents o with
    | .error _ => return ""
    | .ok (cs, endless) =>
      if endless then throw .endless
      setSystem ((← system).consume o cs.length [])
      return String.ofList cs

def live (ev : Evaluator) (arguments : List String) : Run Unit := do
  update fun s => { s with line := 0 }
  let start ← startOptions arguments
  let s ← session
  let runAll (place : Place) (ofFile : Bool) (text : String) : Run Unit := do
    update fun s => { s with line := 1 }
    let n ← runText ev place ofFile text
    setStatus n
  match start.text, start.rest with
  | true, [] => fail "-c requires an argument"
  | true, text :: rest =>
    update fun s => { s with name := rest.headD s.name, arguments := rest.tail }
    runAll { last := true } false text
  | false, rest =>
    if s.options.contains 's' || rest.isEmpty then
      update fun s => { s with arguments := rest }
      runAll {} true (← inputText)
    else
      let path := rest.headD ""
      match (← files).read path with
      | .error .isDirectory => pure ()
      | .error e => fail ("cannot open " ++ path ++ ": " ++ openReason false e)
      | .ok text =>
        update fun s => { s with name := path, arguments := rest.tail }
        runAll {} true text

def firstVariables (environment : List (String × String)) (route : Way) (parent : Nat) :
    List (String × Variable) :=
  let own : List (String × Variable) :=
    [("PATH", ⟨some defaultSearchPath, false, false⟩), ("PS1", ⟨some "# ", false, false⟩),
      ("PS2", ⟨some "> ", false, false⟩), ("PS4", ⟨some "+ ", false, false⟩)]
  let start : Session := { bindings := own.reverse }
  let taken := environment.foldl (fun s e =>
    if isName e.1 then s.setVariable e.1 ⟨some e.2, true, false⟩ else s) start
  let put (s : Session) (name value : String) : Session :=
    s.setVariable name ⟨some value, (s.named? name).any Variable.exported, false⟩
  let s := put (put (put taken "IFS" " \t\n") "OPTIND" "1") "PPID" (toString parent)
  (s.setVariable "PWD" ⟨some (Builtin.pathOf route), true, false⟩).bindings

def maximalNesting : Nat := 6000

def run (start : Runner) : Runner := fun i s =>
  let first : Session :=
    { bindings := firstVariables i.environment (i.route s.files) (s.processes - 1)
      name := i.name
      process := s.processes
      parent := s.processes - 1
      descriptors := i.descriptors
      directory := i.directory
      mask := i.mask
      ignored := i.ignored
      route := i.route s.files }
  let ev := evaluator start maximalNesting
  let whole : Run Fate := do
    let finish : Run Fate := do
      match ← attempt ev.ending with
      | .error (.killed n) => return .killed n
      | .error .endless => return .endless
      | .error (.replaced o) => return o
      | _ => return .exited (← session).status
    match ← attempt (live ev i.arguments) with
    | .ok () => finish
    | .error .exit => finish
    | .error .mistake => finish
    | .error (.killed n) => return .killed n
    | .error .endless => return .endless
    | .error (.replaced o) => return o
  let ended (s : System) : System := { s with alive := s.alive.filter (· ≠ first.process) }
  match whole { system := { s with alive := first.process :: s.alive }, session := first } with
  | .ok o m => (o, ended m.system)
  | .error _ m => (.exited 2, ended m.system)

end DeltaDebugging.Shell
