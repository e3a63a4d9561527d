import DeltaDebugging.Shell.Session

/-!
# Signals

Their names and what they do to a process that has no trap for them.
-/
namespace DeltaDebugging.Shell

def signalNames : List String :=
  ["HUP", "INT", "QUIT", "ILL", "TRAP", "ABRT", "BUS", "FPE", "KILL", "USR1", "SEGV", "USR2",
    "PIPE", "ALRM", "TERM", "16", "CHLD", "CONT", "STOP", "TSTP", "TTIN", "TTOU", "URG",
    "XCPU", "XFSZ", "VTALRM", "PROF", "WINCH", "IO", "PWR", "SYS", "32", "33", "RTMIN"] ++
    (List.range 15).map (fun n => "RTMIN+" ++ toString (n + 1)) ++
    (List.range 14).map (fun n => "RTMAX-" ++ toString (14 - n)) ++ ["RTMAX"]

def signalName? (n : Nat) : Option String := if n = 0 then none else signalNames[n - 1]?

/-- The number of a signal by its name, with or without the usual beginning, or by its number;
the end of a session counts as number zero where it is allowed. -/
def signalNumber? (withExit : Bool) (text : String) : Option Nat :=
  match text.toNat? with
  | some n => if n ≤ 64 then some n else none
  | none =>
    let upper := text.toUpper
    if withExit && upper = "EXIT" then some 0 else
    let bare := if upper.startsWith "SIG" then String.ofList (upper.toList.drop 3) else upper
    match signalNames.idxOf? bare with
    | some i => some (i + 1)
    | none => none

def signalText (n : Nat) : String :=
  ([(1, "Hangup"), (2, "Interrupt"), (3, "Quit"), (4, "Illegal instruction"),
    (5, "Trace/breakpoint trap"), (6, "Aborted"), (7, "Bus error"),
    (8, "Floating point exception"), (9, "Killed"), (10, "User defined signal 1"),
    (11, "Segmentation fault"), (12, "User defined signal 2"), (13, "Broken pipe"),
    (14, "Alarm clock"), (15, "Terminated"), (16, "Stack fault"), (24, "CPU time limit exceeded"),
    (25, "File size limit exceeded"), (26, "Virtual timer expired"),
    (27, "Profiling timer expired"), (29, "I/O possible"), (30, "Power failure"),
    (31, "Bad system call")].lookup n).getD ("Unknown signal " ++ toString n)

/-- Signals that a process without a trap does not notice. -/
def isHarmless (n : Nat) : Bool := n = 17 || n = 18 || n = 23 || n = 28

/-- Signals that stop a process until it is told to go on. -/
def isStopping (n : Nat) : Bool := 19 ≤ n && n ≤ 22

namespace Run

def deliver (n : Nat) : Run Unit := do
  if n = 9 then throw (.killed 9)
  else if n = 19 then throw .endless
  else if (← session).ignored.contains n then return
  else match (← session).traps.lookup n with
  | some "" => return
  | some _ => update fun s => { s with pending := s.pending ++ [n] }
  | none =>
    if n = 0 || isHarmless n then return
    else if isStopping n then throw .endless
    else throw (.killed n)

/-- Takes in the signals that were sent to the session and have arrived. -/
def collect : Run Unit := do
  let s ← system
  if s.messages.isEmpty then return
  let t ← session
  if t.isCopy then return
  let arrived (m : Message) : Bool := m.process = t.process && m.time ≤ s.clock
  setSystem { s with messages := s.messages.filter fun m => !arrived m }
  (s.messages.filter arrived).forM fun m => deliver m.signal

/-- Notices the jobs that have ended, and forgets those that were waited for. -/
def noticeJobs : Run Unit := do
  if (← session).jobs.isEmpty then return
  let now := (← system).clock
  update fun s => { s with jobs := (s.jobs.filter fun j => !j.awaited).map fun j =>
    { j with noticed := j.noticed || j.finish ≤ now } }

end Run

end DeltaDebugging.Shell
