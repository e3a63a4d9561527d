import DeltaDebugging.Process.System
import DeltaDebugging.Shell.Command
import DeltaDebugging.Shell.Reader

/-!
# Shell sessions

What a running shell keeps to itself: variables, functions, arguments, options, traps, its
descriptors and its directory. A session works on the system it shares with all others; it
is ended by an exit, a mistake, or a signal.
-/
namespace DeltaDebugging.Shell

structure Variable where
  /-- Nothing if the name was only marked. -/
  value : Option String
  exported : Bool := false
  readonly : Bool := false
  deriving DecidableEq, Repr

/-- What is to be passed over until a loop, a function or a script takes it in. -/
inductive Skip where
  | none
  | breaking (loops : Nat)
  | continuing (loops : Nat)
  | returning
  deriving DecidableEq, Repr

inductive Stop where
  | exit
  /-- A mistake that is complained of already. -/
  | mistake
  | killed (signal : Nat)
  | endless
  /-- Another program took the place of the shell and ended. -/
  | replaced (fate : Fate)
  deriving DecidableEq, Repr

structure Job where
  number : Nat
  process : Nat
  /-- When it ends, by the system's clock. -/
  finish : Nat
  fate : Fate
  /-- Whether its end was noticed, and whether it was waited for. -/
  noticed : Bool := false
  awaited : Bool := false
  deriving DecidableEq, Repr

/-- What comes back at the end of a function: variables that its own ones hide, and the options
if it keeps changes of them to itself. -/
structure Hidden where
  bindings : List (String × Option Variable) := []
  options : Option (List Char) := none
  deriving DecidableEq, Repr

structure Session where
  bindings : List (String × Variable) := []
  functions : List (String × Nat × Command) := []
  aliases : List (String × String) := []
  /-- What is run on a signal, by its number; zero is the end of the session. -/
  traps : List (Nat × String) := []
  options : List Char := []
  /-- The name under which complaints are made. -/
  name : String := "sh"
  arguments : List String := []
  status : Nat := 0
  process : Nat := 4711
  parent : Nat := 4710
  background : Option Nat := none
  jobs : List Job := []
  /-- The status of the command substitution run last, while a command is expanded. -/
  substituted : Nat := 0
  /-- The line of the command being run, and the builtin that is complaining. -/
  line : Nat := 1
  builtin : Option String := none
  loops : Nat := 0
  functionDepth : Nat := 0
  skip : Skip := .none
  /-- What is hidden, for each function being run. -/
  hidden : List Hidden := []
  /-- Where reading options goes on: the argument and the place in it. -/
  optionArgument : Nat := 1
  optionPlace : Nat := 0
  descriptors : Descriptors := []
  directory : Way := []
  /-- The directory by the names that led to it, which may be links. -/
  route : Way := []
  mask : Nat := 0o022
  /-- Here-documents by number. -/
  documents : List (Nat × Word) := []
  nextDocument : Nat := 0
  /-- The programs that were found by their names. -/
  remembered : List String := []
  /-- Whether the session is a copy that another one made of itself. -/
  isCopy : Bool := false
  /-- Signals that were ignored from the start. -/
  ignored : List Nat := []
  /-- Signals that were sent and wait for their traps. -/
  pending : List Nat := []
  tracing : Bool := false
  deriving Inhabited

structure Machine where
  system : System
  session : Session

/-- Work of a session, which may stop early; what was done until then stays done. -/
abbrev Run := EStateM Stop Machine

namespace Run

def session : Run Session := return (← get).session

def update (f : Session → Session) : Run Unit := modify fun m => { m with session := f m.session }

def system : Run System := return (← get).system

def setSystem (s : System) : Run Unit := modify fun m => { m with system := s }

def files : Run Files := return { (← system).files with directory := (← session).directory }

/-- Writes to a descriptor; says whether that worked. -/
def put (descriptor : Nat) (text : String) : Run Bool := do
  match (← session).descriptors.lookup descriptor with
  | none => return text.isEmpty
  | some o => match (← system).write o text with
    | .ok s =>
      setSystem s
      return true
    | .error _ => return false

/-- Runs some work and tells how it stopped, if it stopped early. -/
def attempt (act : Run α) : Run (Except Stop α) := fun m =>
  match act m with
  | .ok a m => .ok (.ok a) m
  | .error e m => .ok (.error e) m

def complain (text : String) : Run Unit := do
  let s ← session
  let place := s.name ++ ": " ++ toString s.line ++ ": "
  let prefixed := match s.builtin with
    | some name => place ++ name ++ ": " ++ text
    | none => place ++ text
  let _ ← put 2 (prefixed ++ "\n")

def setStatus (n : Nat) : Run Unit := update fun s => { s with status := n }

/-- A mistake: complained of, it stops what is being done. -/
def fail (text : String) (status : Nat := 2) : Run α := do
  complain text
  setStatus status
  throw .mistake

def option (c : Char) : Run Bool := return (← session).options.contains c

def value? (name : String) : Run (Option String) :=
  return ((← session).bindings.lookup name).bind Variable.value

def skipping : Run Bool := return decide ((← session).skip ≠ .none)

end Run

namespace Session

def named? (s : Session) (name : String) : Option Variable := s.bindings.lookup name

def setVariable (s : Session) (name : String) (v : Variable) : Session :=
  { s with bindings :=
      if (s.bindings.lookup name).isSome then
        s.bindings.map fun e => if e.1 = name then (name, v) else e
      else (name, v) :: s.bindings }

def dropVariable (s : Session) (name : String) : Session :=
  { s with bindings := s.bindings.filter fun e => e.1 ≠ name }

def row (name : String) : Nat :=
  match name.toList with
  | [] => 0
  | c :: cs => ((c :: cs).foldl (fun n d => n + d.toNat) (c.toNat * 16)) % 39

/-- What programs are given: the exported variables that have values, row by row. -/
def environment (s : Session) : List (String × String) :=
  let exported := s.bindings.reverse.filterMap fun e =>
    if e.2.exported then e.2.value.map fun v => (e.1, v) else none
  exported.mergeSort fun a b => decide (row a.1 ≤ row b.1)

end Session

namespace Run

/-- A decimal number that is not negative, with blanks around it. -/
def number (text : String) : Run Nat := do
  let isBlank (c : Char) : Bool := c = ' ' || ('\t' ≤ c && c ≤ '\r')
  let cs := ((text.toList.dropWhile isBlank).reverse.dropWhile isBlank).reverse
  let cs := if cs.head? = some '+' then cs.tail else cs
  let n := cs.foldl (fun n d => n * 10 + (d.toNat - '0'.toNat)) 0
  if cs.isEmpty || !cs.all Char.isDigit || 2147483647 < n then fail ("Illegal number: " ++ text)
  else return n

/-- Gives a variable a value; one that is read only refuses it. -/
def assign (name value : String) (exported : Bool := false) : Run Unit := do
  let s ← session
  let old := s.named? name
  if old.any Variable.readonly then fail (name ++ ": is read only") else
  let exported := exported || old.any Variable.exported || s.options.contains 'a'
  update fun s => s.setVariable name ⟨some value, exported, false⟩
  if name = "PATH" then update fun s => { s with remembered := [] }
  if name = "OPTIND" then
    let n ← number value
    update fun s => { s with optionArgument := if n = 0 then 1 else n, optionPlace := 0 }

def unset (name : String) : Run Unit := do
  if ((← session).named? name).any Variable.readonly then fail (name ++ ": is read only")
  else update fun s => s.dropVariable name

/-- Lets a function's variable hide the one that was there, which comes back after it. -/
def hide (name : String) : Run Unit := do
  update fun s => match s.hidden with
    | [] => s
    | frame :: frames =>
      if (frame.bindings.lookup name).isSome then s
      else { s with hidden :=
        { frame with bindings := (name, s.named? name) :: frame.bindings } :: frames }

/-- Lets a function have options of its own; those that were there come back after it. -/
def hideOptions : Run Unit := do
  update fun s => match s.hidden with
    | [] => s
    | frame :: frames =>
      { s with hidden := { frame with options := frame.options.or (some s.options) } :: frames }

/-- Brings back what the latest function hid. -/
def reveal : Run Unit := do
  update fun s => match s.hidden with
    | [] => s
    | frame :: frames =>
      let s := { s with hidden := frames, options := frame.options.getD s.options }
      frame.bindings.foldl (fun s e => match e.2 with
        | some v => s.setVariable e.1 v
        | none => s.dropVariable e.1) s

end Run

end DeltaDebugging.Shell
