import DeltaDebugging.Files.Mode
import DeltaDebugging.Shell.Condition
import DeltaDebugging.Shell.Expansion
import DeltaDebugging.Shell.Signal
import DeltaDebugging.Text.Format

/-!
# Builtin commands

The commands that a shell carries out itself, except those that run further commands. Each
takes its arguments and gives its status.
-/
namespace DeltaDebugging.Shell

/-- A text between single quotes, fit to be read again. -/
def singleQuote (s : String) : String :=
  "'" ++ String.intercalate "'\"'\"'" (s.splitOn "'") ++ "'"

namespace Run

/-- Prints for a builtin; the status tells whether that worked. -/
def print (text : String) : Run Nat := do
  if ← put 1 text then return 0 else
  complain (((← session).builtin.getD "") ++ ": I/O error")
  return 1

/-- A complaint that does not end the builtin. -/
def warn (text : String) : Run Unit := complain text

/-- Takes single letters from the front of some arguments. A letter before a colon has a
value. -/
def letterOptions (known : List Char) : List String → Run (List (Char × String) × List String)
  | [] => return ([], [])
  | a :: rest => do
    if a = "--" then return ([], rest) else
    match a.toList with
    | '-' :: c :: cs => cluster rest (c :: cs)
    | _ => return ([], a :: rest)
where
  cluster (rest : List String) : List Char → Run (List (Char × String) × List String)
    | [] => letterOptions known rest
    | c :: cs => do
      match known.idxOf? c with
      | none => fail ("Illegal option -" ++ String.singleton c)
      | some i =>
        if known[i + 1]? = some ':' && c ≠ ':' then
          if !cs.isEmpty then
            let (os, rest) ← letterOptions known rest
            return ((c, String.ofList cs) :: os, rest)
          else match rest with
            | v :: rest =>
              let (os, rest) ← letterOptions known rest
              return ((c, v) :: os, rest)
            | [] => fail ("No arg for -" ++ String.singleton c ++ " option")
        else
          let (os, rest) ← cluster rest cs
          return ((c, "") :: os, rest)

end Run

namespace Builtin

open Run

def echo (arguments : List String) : Run Nat := do
  let (newline, words) := match arguments with
    | "-n" :: rest => (false, rest)
    | words => (true, words)
  let (text, goesOn) := Escape.replaceIn false (String.intercalate " " words)
  print (if newline && goesOn then text ++ "\n" else text)

def formatWording : Format.Wording where
  notNumeric s := s ++ ": expected numeric value"
  notWhole s := s ++ ": not completely converted"
  outOfRange s := s ++ ": Numerical result out of range"
  shell := true
  missingLetter _ := "missing format character"
  badDirective s := s ++ ": invalid directive"

def printf (arguments : List String) : Run Nat := do
  let (_, arguments) ← letterOptions [] arguments
  match arguments with
  | [] => fail "usage: printf format [arg ...]"
  | format :: arguments =>
    let (pieces, fatal) := Format.format formatWording format arguments
    let complaints := pieces.filterMap fun p => match p with
      | .complaint s => some s
      | _ => none
    let out := String.join (pieces.map fun p => match p with
      | .text s => s
      | _ => "")
    complaints.forM warn
    match fatal with
    | some text =>
      let _ ← print out
      fail text
    | none =>
      let n ← print out
      return if complaints.isEmpty then n else 1

def test (name : String) (arguments : List String) : Run Nat := do
  match Condition.status (← files) name arguments with
  | .ok n => return n
  | .error text => fail text

def optionNames : List (String × Char) :=
  [("errexit", 'e'), ("noglob", 'f'), ("ignoreeof", 'I'), ("interactive", 'i'), ("monitor", 'm'),
    ("noexec", 'n'), ("stdin", 's'), ("xtrace", 'x'), ("verbose", 'v'), ("vi", 'V'),
    ("emacs", 'E'), ("noclobber", 'C'), ("allexport", 'a'), ("notify", 'b'), ("nounset", 'u'),
    ("privileged", 'p'), ("nolog", ' '), ("debug", ' ')]

def setOption (c : Char) (on : Bool) : Run Unit := do
  if c ≠ ' ' && !(optionNames.any fun o => o.2 = c) then
    fail ("Illegal option -" ++ String.singleton c)
  update fun s => { s with options :=
    if on then c :: s.options.filter (· ≠ c) else s.options.filter (· ≠ c) }

def setNamedOption (name : Option String) (on : Bool) : Run Unit := do
  match name with
  | none =>
    let s ← session
    let lines := optionNames.map fun o =>
      let state := s.options.contains o.2
      if on then o.1 ++ Number.Shape.fill ' ' (16 - o.1.length) ++ (if state then "on" else "off")
      else "set " ++ (if state then "-" else "+") ++ "o " ++ o.1
    let _ ← print (String.join (((if on then ["Current option settings"] else []) ++ lines).map (· ++ "\n")))
  | some name => match optionNames.lookup name with
    | some c => setOption c on
    | none => fail ("Illegal option -o " ++ name)

/-- Sets the options at the front of some arguments; gives those behind them, and whether they
are to be the new arguments of the session. -/
def takeOptions : List String → Run (List String × Bool)
  | [] => return ([], false)
  | a :: rest => do
    let on := decide (a.toList.head? = some '-')
    match a.toList with
    | ['-'] =>
      setOption 'x' false
      setOption 'v' false
      return (rest, !rest.isEmpty)
    | ['-', '-'] => return (rest, true)
    | sign :: cs =>
      if sign ≠ '-' && sign ≠ '+' then return (a :: rest, true) else
      if cs.contains 'o' then
        (cs.filter (· ≠ 'o')).forM fun c => setOption c on
        match rest with
        | name :: more =>
          setNamedOption (some name) on
          takeOptions more
        | [] =>
          setNamedOption none on
          return ([], false)
      else
        cs.forM fun c => setOption c on
        takeOptions rest
    | [] => return (a :: rest, true)

def showVariables (before : String) (which : Variable → Bool) : Run Nat := do
  let all := (← session).bindings.filter fun e => which e.2
  let all := all.mergeSort fun a b => decide (a.1 ≤ b.1)
  print (String.join (all.map fun e => before ++ e.1 ++ (match e.2.value with
    | some v => "=" ++ singleQuote v
    | none => "") ++ "\n"))

def set (arguments : List String) : Run Nat := do
  if arguments.isEmpty then showVariables "" fun v => v.value.isSome else
  let (rest, replaces) ← takeOptions arguments
  if replaces then update fun s => { s with arguments := rest, optionArgument := 1, optionPlace := 0 }
  return 0

def splitAssignment (a : String) : String × Option String :=
  let name := a.toList.takeWhile (· != '=')
  match a.toList.drop name.length with
  | _ :: value => (String.ofList name, some (String.ofList value))
  | [] => (a, none)

def declare (exports : Bool) (arguments : List String) : Run Nat := do
  let (os, names) ← letterOptions ['p'] arguments
  if !os.isEmpty || names.isEmpty then
    showVariables (if exports then "export " else "readonly ") fun v =>
      if exports then v.exported else v.readonly
  else
    for a in names do
      let (name, value) := splitAssignment a
      if !isName name then fail (name ++ ": bad variable name")
      match value with
      | some v => assign name v
      | none => pure ()
      update fun s =>
        let v := (s.named? name).getD ⟨none, false, false⟩
        s.setVariable name (if exports then { v with exported := true } else { v with readonly := true })
    return 0

def unset (arguments : List String) : Run Nat := do
  let (os, names) ← letterOptions ['f', 'v'] arguments
  let flag := (os.getLast?.map Prod.fst).getD ' '
  for name in names do
    if flag = 'f' then
      update fun s => { s with functions := s.functions.filter fun f => f.1 ≠ name }
    else if flag = 'v' then
      if !isName name then fail (name ++ ": bad variable name")
      Run.unset name
    else
      if !isName name then fail (name ++ ": bad variable name")
      if ((← session).named? name).isSome then Run.unset name
      else update fun s => { s with functions := s.functions.filter fun f => f.1 ≠ name }
  return 0

def localVariables (arguments : List String) : Run Nat := do
  if (← session).hidden.isEmpty then fail "not in a function" else
  for a in arguments do
    if a = "-" then
      hideOptions
      continue
    let (name, value) := splitAssignment a
    if !isName name then fail (name ++ ": bad variable name")
    hide name
    match value with
    | some v => assign name v
    | none => pure ()
  return 0

def shift (arguments : List String) : Run Nat := do
  let n ← match arguments with
    | [] => pure 1
    | a :: _ => number a
  let s ← session
  if s.arguments.length < n then fail "can't shift that many" else
  update fun s => { s with arguments := s.arguments.drop n, optionArgument := 1, optionPlace := 0 }
  return 0

def leave (goesOn : Bool) (arguments : List String) : Run Nat := do
  let n ← match arguments with
    | [] => pure 1
    | a :: _ => number a
  if n = 0 then fail "Illegal number: 0" else
  let loops := min n (← session).loops
  if 0 < loops then
    update fun s => { s with skip := if goesOn then .continuing loops else .breaking loops }
  return 0

def giveBack (arguments : List String) : Run Nat := do
  let n ← match arguments with
    | [] => pure (← session).status
    | a :: _ => number a
  update fun s => { s with skip := .returning }
  return n

def exit (arguments : List String) : Run Nat := do
  match arguments with
  | [] => pure ()
  | a :: _ => setStatus (← number a)
  throw .exit

def pathOf (w : Way) : String := "/" ++ String.intercalate "/" w

/-- The first directory of a name below those of a search path, and whether it is to be told.
A name that starts at the root or at a dot is not looked for. -/
def nearby (f : Files) (name searchPath : String) : String × Bool :=
  let front := (name.splitOn "/").headD ""
  if ["", ".", ".."].contains front then (name, false) else
  let found := (searchPath.splitOn ":").findSome? fun (directory : String) =>
    let path := if directory.isEmpty then name else directory ++ "/" ++ name
    if f.isDirectory path then some (path, !directory.isEmpty) else none
  found.getD (name, false)

/-- Whether the last of some options asks for a directory without links on the way to it. -/
def isPhysical (options : List (Char × String)) : Bool :=
  options.getLast?.any fun o => o.1 = 'P'

def changeDirectory (arguments : List String) : Run Nat := do
  let (os, rest) ← letterOptions ['L', 'P'] arguments
  let f ← files
  let (target, tells) ← match rest with
    | [] => pure ((← value? "HOME").getD "", false)
    | "-" :: _ => pure ((← value? "OLDPWD").getD "", true)
    | a :: _ => pure (nearby f a ((← value? "CDPATH").getD ""))
  let target := if target.isEmpty then "." else target
  let here := (← session).route
  let start := if Files.isAbsolute target then [] else here
  let route := (Files.names target).foldl (fun w name =>
    if name = "." then w else if name = ".." then w.dropLast else w ++ [name]) start
  let goal := if isPhysical os then target else pathOf route
  match f.way true goal with
  | .error _ => fail ("can't cd to " ++ target)
  | .ok w =>
    if !f.isDirectory goal then fail ("can't cd to " ++ target) else
    let old := pathOf here
    let route := if isPhysical os then w else route
    update fun s => { s with directory := w, route }
    assign "OLDPWD" old true
    assign "PWD" (pathOf route) true
    if tells then print (pathOf route ++ "\n") else return 0

def printDirectory (arguments : List String) : Run Nat := do
  let (os, _) ← letterOptions ['L', 'P'] arguments
  let s ← session
  print (pathOf (if isPhysical os then s.directory else s.route) ++ "\n")

/-- An octal number of three digits behind a zero. -/
def octal4 (n : Nat) : String :=
  let digits := String.ofList (Nat.toDigits 8 n)
  Number.Shape.fill '0' (4 - digits.length) ++ digits

def umask (arguments : List String) : Run Nat := do
  let (os, rest) ← letterOptions ['S'] arguments
  match rest with
  | [] =>
    let mask := (← session).mask
    if os.isEmpty then print (octal4 mask ++ "\n") else
    let part (name : String) (shift : Nat) : String :=
      let bits := 7 - mask / shift % 8
      name ++ "=" ++ (if bits / 4 % 2 = 1 then "r" else "") ++ (if bits / 2 % 2 = 1 then "w" else "") ++
        (if bits % 2 = 1 then "x" else "")
    print (part "u" 64 ++ "," ++ part "g" 8 ++ "," ++ part "o" 1 ++ "\n")
  | a :: _ =>
    if a.toList.all Char.isDigit then
      if !a.toList.all Escape.isOctal then fail ("Illegal number: " ++ a) else
      update fun s => { s with mask :=
        (a.toList.foldl (fun n d => n * 8 + (d.toNat - '0'.toNat)) 0) % 512 }
      return 0
    else
      -- where nobody is named everybody is meant
      let parts := (a.splitOn ",").map fun (w : String) =>
        if w.toList.head?.any "+-=".toList.contains then "a" ++ w else w
      let known (w : String) : Bool := w.toList.all "ugoa".toList.contains
      let parts := if 1 < parts.length && parts.getLast? = some "" then parts.dropLast else parts
      if known a then return 0 else
      match FileMode.read? (String.intercalate "," parts) with
      | some change =>
        update fun s => { s with mask := 0o777 - change.apply 0 false (0o777 - s.mask) % 512 }
        return 0
      | none => fail ("Illegal mode: " ++ a)

def aliases (arguments : List String) : Run Nat := do
  let shown (a : String × String) : String := a.1 ++ "=" ++ singleQuote a.2 ++ "\n"
  if arguments.isEmpty then
    print (String.join ((← session).aliases.map shown))
  else
    let mut status := 0
    for a in arguments do
      match splitAssignment a with
      | (name, some value) =>
        update fun s => { s with aliases := (name, value) :: s.aliases.filter fun b => b.1 ≠ name }
      | (name, none) => match (← session).aliases.lookup name with
        | some value => let _ ← print (shown (name, value))
        | none =>
          let _ ← put 2 ("alias: " ++ name ++ " not found\n")
          status := 1
    return status

def unalias (arguments : List String) : Run Nat := do
  let (os, names) ← letterOptions ['a'] arguments
  if !os.isEmpty then
    update fun s => { s with aliases := [] }
    return 0
  else
    let mut status := 0
    for name in names do
      if ((← session).aliases.lookup name).isSome then
        update fun s => { s with aliases := s.aliases.filter fun b => b.1 ≠ name }
      else
        let _ ← put 2 ("unalias: " ++ name ++ " not found\n")
        status := 1
    return status

/-- A line to be read, with what backslashes protect marked, as letters. A backslash at the
end of a line joins the next one to it. -/
def readLetters (keepsBackslash : Bool) : (steps : Nat) → List Char → List Letter × Bool × List Char
  | 0, cs => ([], false, cs)
  | _ + 1, [] => ([], false, [])
  | steps + 1, c :: cs =>
    if c == '\n' then ([], true, cs)
    else if c == '\\' && !keepsBackslash then match cs with
      | '\n' :: rest => readLetters keepsBackslash steps rest
      | d :: rest =>
        let (ls, ended, rest) := readLetters keepsBackslash steps rest
        (.char d true false :: ls, ended, rest)
      | [] => ([], false, [])
    else if c == '\x00' then readLetters keepsBackslash steps cs
    else
      let (ls, ended, rest) := readLetters keepsBackslash steps cs
      (.char c false true :: ls, ended, rest)

def isSeparator (separators : List Char) : Letter → Bool
  | .char c false _ => separators.contains c
  | _ => false

def isWhiteSeparator (separators : List Char) : Letter → Bool
  | .char c false _ => separators.contains c && Letter.isWhite c
  | _ => false

/-- The values that a line gives to `count` names; the last takes all that is left, without
white space at its end, and without a last separator if nothing follows it. -/
def distribute (separators : List Char) : (count : Nat) → List Letter → List String
  | 0, _ => []
  | 1, ls =>
    let ls := ls.dropWhile (isWhiteSeparator separators)
    let field := ls.takeWhile fun l => !isSeparator separators l
    let after := (ls.drop field.length).dropWhile (isWhiteSeparator separators)
    let after := match after with
      | l :: rest => if isSeparator separators l then rest.dropWhile (isWhiteSeparator separators) else after
      | [] => []
    if after.isEmpty then [Letter.text field]
    else [Letter.text (ls.reverse.dropWhile (isWhiteSeparator separators)).reverse]
  | count + 2, ls =>
    let ls := ls.dropWhile (isWhiteSeparator separators)
    let field := ls.takeWhile fun l => !isSeparator separators l
    let after := (ls.drop field.length).dropWhile (isWhiteSeparator separators)
    let after := match after with
      | l :: rest => if isSeparator separators l then rest else after
      | [] => []
    Letter.text field :: distribute separators (count + 1) after

def read (arguments : List String) : Run Nat := do
  let (os, names) ← letterOptions ['p', ':', 'r', 't', ':'] arguments
  match os.lookup 'p' with
  | some _ => pure ()
  | none => pure ()
  if names.isEmpty then fail "arg count" else
  match names.find? fun name => !isName name with
  | some name => fail (name ++ ": bad variable name")
  | none =>
    let opening := (← session).descriptors.lookup 0
    let cs := match opening.map (← system).contents with
      | some (.ok (cs, _)) => cs
      | _ => []
    let (ls, ended, rest) := readLetters (os.lookup 'r').isSome (cs.length + 1) cs
    match opening with
    | some o => setSystem ((← system).consume o (cs.length - rest.length) rest)
    | none => pure ()
    let values := distribute (← separators).toList names.length ls
    (names.zip values).forM fun p => assign p.1 p.2
    return if ended then 0 else 1

/-- Looks a letter up among the options of a list. The second part tells whether it takes a value,
which a colon behind it says. -/
def optionLetter? (c : Char) : List Char → Option Bool
  | [] => none
  | d :: ':' :: cs => if d = c then some true else optionLetter? c cs
  | d :: cs => if d = c then some false else optionLetter? c cs

/-- Reads the next option from some arguments into a variable. The place within a word counts from
the word before the next one, so that a word of several letters is done with its first letter. -/
def getopts (arguments : List String) : Run Nat := do
  match arguments with
  | letters :: name :: given =>
    let s ← session
    let words := if given.isEmpty then s.arguments else given
    let lapsed := decide (words.length + 1 < s.optionArgument)
    let index := if lapsed then 1 else s.optionArgument
    let place := if lapsed then 0 else s.optionPlace
    let silent := letters.toList.head? = some ':'
    let known := if silent then letters.toList.drop 1 else letters.toList
    let within : List Char :=
      if index ≤ 1 || place = 0 then [] else ((words[index - 2]?).getD "").toList.drop place
    -- the letters to be read, the number of the next word, and whether there are none
    let (cs, next, done) : List Char × Nat × Bool :=
      if !within.isEmpty then (within, index, false) else
      match words[index - 1]? with
      | none => ([], index, true)
      | some w => match w.toList with
        | ['-', '-'] => ([], index + 1, true)
        | '-' :: c :: cs => (c :: cs, index + 1, false)
        | _ => ([], index, true)
    let finish (value : String) (next : Nat) (rest : List Char) : Run Nat := do
      assign "OPTIND" (toString next)
      if !isName name then fail (name ++ ": bad variable name")
      assign name value
      let last := ((words[next - 2]?).getD "").length
      update fun s => { s with
        optionArgument := next
        optionPlace := if rest.isEmpty then 0 else last - rest.length }
      return if done then 1 else 0
    match cs with
    | [] => finish "?" next []
    | c :: rest =>
      match optionLetter? c known with
      | none =>
        if silent then assign "OPTARG" (String.singleton c) else
          let _ ← put 2 ("Illegal option -" ++ String.singleton c ++ "\n")
          Run.unset "OPTARG"
        finish "?" next rest
      | some false =>
        assign "OPTARG" ""
        finish (String.singleton c) next rest
      | some true =>
        if !rest.isEmpty then
          assign "OPTARG" (String.ofList rest)
          finish (String.singleton c) next []
        else match words[next - 1]? with
          | some value =>
            assign "OPTARG" value
            finish (String.singleton c) (next + 1) []
          | none =>
            if silent then
              assign "OPTARG" (String.singleton c)
              finish ":" next []
            else
              let _ ← put 2 ("No arg for -" ++ String.singleton c ++ " option\n")
              Run.unset "OPTARG"
              finish "?" next []
  | _ => fail "Usage: getopts optstring var [arg...]"

def trap (arguments : List String) : Run Nat := do
  let (_, rest) ← letterOptions [] arguments
  let setTrap (signal : Nat) (action : Option String) : Run Unit :=
    update fun s => { s with traps :=
      let others := s.traps.filter fun t => t.1 ≠ signal
      match action with
      | some a => (signal, a) :: others
      | none => others }
  match rest with
  | [] =>
    let all := (← session).traps.mergeSort fun a b => decide (a.1 ≤ b.1)
    print (String.join (all.map fun t => "trap -- " ++ singleQuote t.2 ++ " " ++
      (if t.1 = 0 then "EXIT" else (signalName? t.1).getD (toString t.1)) ++ "\n"))
  | first :: more =>
    let (action, names) : Option String × List String :=
      if more.isEmpty then (none, rest)
      else if first = "-" then (none, more)
      else (some first, more)
    let mut status := 0
    for name in names do
      match signalNumber? true name with
      | some n => setTrap n action
      | none =>
        let _ ← put 2 ("trap: " ++ name ++ ": bad trap\n")
        status := 1
    return status

/-- Sends a signal to a process: the session itself, one of its jobs, or one that waits for
it. -/
def send (n : Nat) (process : Nat) : Run Bool := do
  let s ← session
  let now := (← system).clock
  match s.jobs.find? fun j => j.process = process with
  | some j =>
    if j.noticed then return false
    if now < j.finish && n ≠ 0 then
      setSystem ((← system).silence process)
      update fun s => { s with jobs := s.jobs.map fun k =>
        if k.process = process then { k with finish := now, fate := .killed n } else k }
    return true
  | none =>
    if process = s.process && !s.isCopy then
      deliver n
      return true
    else if (← system).alive.contains process then
      if n ≠ 0 then
        setSystem { (← system) with messages := (← system).messages ++ [⟨process, n, now⟩] }
      return true
    else return decide (process = 1 && n = 0)

def namedJob? (jobs : List Job) (name : String) : Option Job :=
  match name.toList with
  | ['%'] | ['%', '%'] | ['%', '+'] => jobs.head?
  | ['%', '-'] => jobs[1]?
  | '%' :: ds => jobs.find? fun j => some j.number = (String.ofList ds).toNat?
  | _ => none

def jobNamed (name : String) : Run Job := do
  match namedJob? (← session).jobs name with
  | some j => return j
  | none => fail ("No such job: " ++ name)

def describeJob (j : Job) (now : Nat) : String :=
  if now < j.finish then "Running" else match j.fate with
  | .exited n => if n % 256 = 0 then "Done" else "Done(" ++ toString (n % 256) ++ ")"
  | .killed n => signalText n
  | .endless => "Running"

def listJobs (arguments : List String) : Run Nat := do
  let (os, names) ← letterOptions ['l', 'p'] arguments
  let now := (← system).clock
  let all := (← session).jobs
  let chosen ← if names.isEmpty then pure all else names.mapM jobNamed
  for j in chosen do
    let mark := if all.head? = some j then "+" else if all[1]? = some j then "-" else " "
    let front := "[" ++ toString j.number ++ "] " ++ mark ++ " " ++
      if (os.lookup 'l').isSome then toString j.process ++ " " else ""
    let line := if (os.lookup 'p').isSome then toString j.process else
      let text := front ++ describeJob j now
      text ++ Number.Shape.fill ' ' (33 - text.length)
    let _ ← print (line ++ "\n")
  update fun s => { s with jobs := s.jobs.filter fun j => now < j.finish || !chosen.contains j }
  return 0

/-- Jobs that run in the background stay there, since no terminal controls them. -/
def resume (arguments : List String) : Run Nat := do
  let (_, names) ← letterOptions [] arguments
  let job ← match names with
    | [] => match (← session).jobs with
      | [] => fail "No current job"
      | _ => pure "(null)"
    | name :: _ => do
      let _ ← jobNamed name
      pure name
  fail ("job " ++ job ++ " not created under job control")

def kill (arguments : List String) : Run Nat := do
  let usage : Run Nat := fail
    "Usage: kill [-s sigspec | -signum | -sigspec] [pid | job]... or\nkill -l [exitstatus]"
  let (signal, targets) ← match arguments with
    | [] => pure (none, [])
    | a :: rest => match a.toList with
      | ['-', 'l'] => pure (some none, rest)
      | ['-', 's'] => match rest with
        | name :: rest => match signalNumber? false name with
          | some n => pure (some (some n), rest)
          | none => fail ("invalid signal number or name: " ++ name)
        | [] => fail "No arg for -s option"
      | ['-', '-'] => pure (some (some 15), rest)
      | '-' :: c :: cs => match signalNumber? false (String.ofList (c :: cs)) with
        | some n => pure (some (some n), rest)
        | none => fail ("Illegal option -" ++ String.singleton c)
      | _ => pure (some (some 15), a :: rest)
  match signal with
  | none => usage
  | some none => match targets with
    | [] => print (String.join (("0" :: signalNames).map (· ++ "\n")))
    | a :: _ =>
      let n ← number a
      match signalName? (if 128 < n then n - 128 else n) with
      | some name => print (name ++ "\n")
      | none => fail ("invalid signal number or exit status: " ++ a)
  | some (some n) =>
    if targets.isEmpty then usage else
    let targets := if targets.head? = some "--" then targets.tail else targets
    let mut status := 0
    for t in targets do
      let negative := t.toList.head? = some '-'
      let digits := if negative then String.ofList (t.toList.drop 1) else t
      if digits.toList.isEmpty || !digits.toList.all Char.isDigit then
        if t.toList.head? = some '%' then
          let _ ← jobNamed t
          warn "No such process\n"
          status := 1
          continue
        else fail ("Illegal number: " ++ t)
      if !(← send n (digits.toNat?.getD 0)) then
        warn "No such process\n"
        status := 1
    return status

/-- Waits for a job to end and gives its status, unless a signal comes first. -/
def await (j : Job) (tells : Bool) : Run Nat := do
  let s ← system
  let t ← session
  let first := (s.messages.filter fun m => m.process = t.process && m.time ≤ j.finish).head?
  match first with
  | some m =>
    setSystem { s with clock := max s.clock m.time }
    collect
    return 128 + m.signal
  | none =>
    setSystem { s with clock := max s.clock j.finish }
    if j.fate = .endless then throw .endless
    match j.fate with
    | .killed n =>
      if tells && !j.noticed && n ≠ 2 && n ≠ 13 then
        let _ ← put 2 (signalText n ++ "\n")
    | _ => pure ()
    update fun t => { t with jobs := t.jobs.map fun k =>
      if k.process = j.process then { k with awaited := true, noticed := true } else k }
    return j.fate.status

/-- Waits for some jobs, until a signal comes. -/
def awaitAll : List Job → Run Nat
  | [] => return 0
  | j :: rest => do
    let n ← await j false
    if (← session).pending.isEmpty then awaitAll rest else return n

def wait (arguments : List String) : Run Nat := do
  match arguments with
  | [] =>
    awaitAll (← session).jobs
  | _ =>
    let mut status := 0
    for a in arguments do
      let job ← if a.toList.head? = some '%' then do
          pure (some (← jobNamed a))
        else do
          let n ← number a
          pure ((← session).jobs.find? fun j => j.process = n)
      match job with
      | some j => status ← await j true
      | none => status := 127
    return status

def times (_ : List String) : Run Nat :=
  print "0m0.000000s 0m0.000000s\n0m0.000000s 0m0.000000s\n"

def ulimit (arguments : List String) : Run Nat := do
  let known := "HSatcfdsmlpnvwr".toList
  for a in arguments do
    match a.toList with
    | '-' :: cs => match cs.find? fun c => !known.contains c with
      | some c => fail ("Illegal option -" ++ String.singleton c)
      | none => pure ()
    | _ => pure ()
  match arguments.find? fun a => a.toList.head? ≠ some '-' with
  | some a =>
    if a ≠ "unlimited" && !(a.toList.all Char.isDigit) then fail "bad number" else return 0
  | none => print (if arguments.contains "-c" then "0\n" else "unlimited\n")

def reserved : List String := Keyword.all.map Keyword.text

end Builtin

end DeltaDebugging.Shell
