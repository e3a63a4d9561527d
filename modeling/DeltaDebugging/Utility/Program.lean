import DeltaDebugging.Process.Executable
import DeltaDebugging.Text.ShellQuoted

/-!
# Programs over a system

The state of a utility that runs: the system, how it was invoked, and what it has printed but
not yet written. A utility ends by its result or early by an outcome; what it printed is
written before a complaint and at its end.
-/
namespace DeltaDebugging.Utility

structure Working where
  system : System
  invocation : Invocation
  /-- What is printed but not written yet. -/
  out : String := ""
  /-- What is said if what is printed cannot be written, and the status then. -/
  unwritten : FileFault → List String × Nat := fun e => (["write error: " ++ e.reason], 1)
  /-- The status that complaints so far lead to. -/
  status : Nat := 0
  /-- Whether there is more to an input than was read, without an end. -/
  unfinished : Bool := false

abbrev Program := EStateM Fate Working

namespace Program

def invocation : Program Invocation := return (← get).invocation

def arguments : Program (List String) := return (← get).invocation.arguments

def name : Program String := return (← get).invocation.name

def system : Program System := return (← get).system

def setSystem (s : System) : Program Unit := modify fun w => { w with system := s }

def files : Program Files := do
  let w ← get
  return { w.system.files with directory := w.invocation.directory }

def setFiles (f : Files) : Program Unit :=
  modify fun w => { w with system := { w.system with files := f } }

def exit (status : Nat) : Program α := throw (.exited status)

/-- The greater of a status and the one so far becomes the status. -/
def raise (status : Nat) : Program Unit := modify fun w => { w with status := max w.status status }

def opening? (descriptor : Nat) : Program (Option Nat) :=
  return (← invocation).descriptors.lookup descriptor

def masked (mode : Nat) : Program Nat := return FileMode.without mode (← invocation).mask

def write (descriptor : Nat) (text : String) : Program (Option FileFault) := do
  if text.isEmpty then return none
  match ← opening? descriptor with
  | none => return some .badDescriptor
  | some o => match (← system).write o text with
    | .ok s =>
      setSystem s
      return none
    | .error e => return some e

def put (text : String) : Program Unit := modify fun w => { w with out := w.out ++ text }

def putLine (text : String) : Program Unit := put (text ++ "\n")

/-- Writes what is printed; a fault is left for the end. -/
def flush : Program (Option FileFault) := do
  let out := (← get).out
  modify fun w => { w with out := "" }
  write 1 out

/-- Complains that what is printed cannot be written, and gives the status. -/
def giveUp (e : FileFault) : Program Nat := do
  let (texts, status) := (← get).unwritten e
  for text in texts do
    let _ ← write 2 ((← name) ++ ": " ++ text ++ "\n")
  return status

/-- Sets what is said if what is printed cannot be written. -/
def whenUnwritten (f : FileFault → List String × Nat) : Program Unit :=
  modify fun w => { w with unwritten := f }

def whenUnwrittenExit (status : Nat) : Program Unit :=
  whenUnwritten fun e => (["write error: " ++ e.reason], status)

/-- The complaint of those that notice a full device too late to know the reason. -/
def whenUnwrittenLate : Program Unit :=
  whenUnwritten fun e => (["write error" ++ if e = .noSpace then "" else ": " ++ e.reason], 1)

def tell (text : String) : Program Unit := do
  let fault ← flush
  let _ ← write 2 text
  match fault with
  | some e => exit (← giveUp e)
  | none => return

def complain (text : String) : Program Unit := do tell ((← name) ++ ": " ++ text ++ "\n")

def die (text : String) (status : Nat) : Program α := do
  complain text
  exit status

def hint : Program String := do
  return "Try '" ++ (← name) ++ " --help' for more information.\n"

def misuse (text : String) (status : Nat) : Program α := do
  complain text
  tell (← hint)
  exit status

inductive Unread where
  | unopened (e : FileFault)
  | unreadable (e : FileFault)
  deriving DecidableEq, Repr

def Unread.fault : Unread → FileFault
  | unopened e => e
  | unreadable e => e

/-- What is left of the standard input, and whether it never ends. -/
def inputSoFar : Program (Except Unread (List Char × Bool)) := do
  match ← opening? 0 with
  | none => return .error (.unreadable .badDescriptor)
  | some o => match (← system).contents o with
    | .ok found => return .ok found
    | .error e => return .error (.unreadable e)

/-- Takes some bytes from the standard input. Of a pipe nothing is left for others. -/
def takeInput (taken : Nat) : Program Unit := do
  match ← opening? 0 with
  | none => return
  | some o => setSystem ((← system).consume o taken [])

/-- Gives back what was taken last of the standard input, to a pipe only if `pipes` holds. -/
def giveBack (rest : List Char) (pipes : Bool) : Program Unit := do
  match ← opening? 0 with
  | none => return
  | some o => setSystem ((← system).giveBack o rest pipes)

def input : Program (Except Unread (List Char)) := do
  match ← inputSoFar with
  | .error e => return .error e
  | .ok (cs, endless) =>
    if endless then throw .endless
    takeInput cs.length
    return .ok cs

def openPath (path : String) (a : System.Access) : Program (Except FileFault Nat) := do
  let i ← invocation
  match (← system).open i.directory i.descriptors i.mask path a with
  | .ok (s, o) =>
    setSystem s
    return .ok o
  | .error e => return .error e

/-- The content of a file, and whether it never ends. -/
def beginningOf (path : String) : Program (Except Unread (List Char × Bool)) := do
  match ← openPath path .toRead with
  | .error e => return .error (.unopened e)
  | .ok o => match (← system).contents o with
    | .error e => return .error (.unreadable e)
    | .ok (cs, endless) =>
      setSystem ((← system).consume o cs.length [])
      return .ok (cs, endless)

def contentOf (path : String) : Program (Except Unread (List Char)) := do
  match ← beginningOf path with
  | .error e => return .error e
  | .ok (cs, endless) =>
    if endless then throw .endless
    return .ok cs

/-- The content that an operand names; a dash names the standard input. -/
def operand (path : String) : Program (Except Unread (List Char)) :=
  if path = "-" then input else contentOf path

/-- The content that an operand names, for work that is done as it is read. What is never at an
end lets the utility run forever after that, unless the work settles before. -/
def streamed (path : String) : Program (Except Unread (List Char)) := do
  match ← (if path = "-" then inputSoFar else beginningOf path) with
  | .error e => return .error e
  | .ok (cs, endless) =>
    if path = "-" then takeInput cs.length
    if endless then modify fun w => { w with unfinished := true }
    return .ok cs

/-- No more is wanted of the input. -/
def settle : Program Unit := modify fun w => { w with unfinished := false }

/-- Takes some of the patience of the system, of which there has to be enough. -/
def spend (n : Nat) : Program Unit := do
  let s ← system
  if s.patience < n then throw .endless
  setSystem { s with patience := s.patience - n }

/-- Puts a content into a file, which is made if it is not there. -/
def replaceFile (path content : String) : Program (Option FileFault) := do
  match ← openPath path .toReplace with
  | .error e => return some e
  | .ok o => match (← system).write o content with
    | .ok s =>
      setSystem s
      return none
    | .error e => return some e

/-- Lets some time pass; all is cut off at the deadline. -/
def wait (milliseconds : Nat) : Program Unit := do
  let s := (← system).wait milliseconds
  setSystem (if s.holds (← invocation).descriptors then { s with latest := max s.latest s.clock } else s)
  if s.deadline ≤ s.clock then throw .endless

def run (p : Program Nat) (i : Invocation) (s : System) : Fate × System :=
  let whole : Program Nat := do
    let status ← p
    match ← flush with
    | none =>
      if (← get).unfinished then throw .endless
      return max status (← get).status
    | some e => giveUp e
  match whole { system := s, invocation := i } with
  | .ok n w => (.exited n, w.system)
  | .error (.exited n) w =>
    match flush w with
    | .ok _ w => (.exited n, w.system)
    | .error _ w => (.exited n, w.system)
  | .error o w =>
    match flush w with
    | .ok _ w => (o, w.system)
    | .error _ w => (o, w.system)

end Program

/-- The lines of a text without their ends; what follows the last end counts too. -/
def linesOf (ends : Char) (cs : List Char) : List (List Char) := go [] cs
where
  go (line : List Char) : List Char → List (List Char)
    | [] => if line.isEmpty then [] else [line.reverse]
    | c :: cs => if c = ends then line.reverse :: go [] cs else go (c :: line) cs

def natural? (s : String) : Option Nat :=
  if s.isEmpty || !s.toList.all Char.isDigit then none
  else some (s.toList.foldl (fun n c => n * 10 + (c.toNat - '0'.toNat)) 0)

end DeltaDebugging.Utility
