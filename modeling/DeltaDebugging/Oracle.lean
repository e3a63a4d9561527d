import DeltaDebugging.Number.Binary
import DeltaDebugging.Process.Outside
import DeltaDebugging.Settings
import DeltaDebugging.Snapshot.SameFailure
import DeltaDebugging.Text.Document
import DeltaDebugging.Text.Failure
import DeltaDebugging.Text.Utf8
import DeltaDebugging.Text.Quoted

/-!
# Oracles that are commands

An oracle writes the document to a scratch file, runs a program on it, and reads the
failure off the program's exit status and error output. The scratch file is gone
afterwards, whatever happened.
-/
namespace DeltaDebugging

/-- What surrounds a reduction of a document: the files, how many scratch files were made
so far, and the cancellation token. -/
structure Surroundings where
  files : Files
  scratches : Nat := 0
  cancelled : Bool := false
  deriving DecidableEq, Repr

structure Oracle where
  program : String
  arguments : List String
  timeoutSeconds : Nat
  scratchDirectory : String
  /-- The end of the names of scratch files, for programs that care about it. -/
  fileName : String
  deriving DecidableEq, Repr

namespace Oracle

def placeholder : String := "\x7bfile\x7d"

def ofSettings (o : OracleSettings) (temporary fileName : String) : Except String Oracle :=
  match o.command with
  | [] => .error "Oracle command is empty"
  | program :: arguments =>
    .ok { program, arguments, timeoutSeconds := o.timeoutSeconds, fileName
          scratchDirectory := o.scratchDirectory.getD temporary }

def mentions (argument : String) : Bool := decide (1 < (argument.splitOn placeholder).length)

/-- The arguments with the path in place of every placeholder, or behind them all if there
is none. -/
def argumentsFor (o : Oracle) (path : String) : List String :=
  let filled := o.arguments.map fun a => String.intercalate path (a.splitOn placeholder)
  if o.arguments.any mentions then filled else filled ++ [path]

def alphabet : List Char := "ABCDEFGHIJKLMNOPQRSTUVWXYZabcdefghijklmnopqrstuvwxyz0123456789".toList

/-- Six letters that tell the `n`-th scratch file from the others: a step prime to the
number of such words leads through all of them before it comes back. -/
def label (n : Nat) : String :=
  let words := Nat.pow alphabet.length 6
  let k := (n + 1) * 30103030103 % words
  String.ofList ((List.range 6).map fun i =>
    alphabet.getD (k / Nat.pow alphabet.length i % alphabet.length) 'A')

def scratchName (o : Oracle) (n : Nat) : String := "shrink-" ++ label n ++ "-" ++ o.fileName

def scratchPath (o : Oracle) (files : Files) (n : Nat) : String :=
  let directory := o.scratchDirectory
  let base := if Files.isAbsolute directory then directory
    else "/" ++ String.intercalate "/" files.directory ++ "/" ++ directory
  (if base.toList.getLast? = some '/' then base else base ++ "/") ++ o.scratchName n

/-- How many commands a program may run before it counts as running forever. -/
def patience : Nat := 250000

def runOn (o : Oracle) (path : String) (files : Files) : Check Failure × Files :=
  let arguments := o.argumentsFor path
  let notStarted (reason : String) : Check Failure × Files :=
    (.undecided ("failed to run " ++ o.program ++ ": " ++ reason), files)
  let late (files : Files) : Check Failure × Files :=
    (.undecided (o.program ++ " timed out after " ++
      (Number.Duration.ofSeconds o.timeoutSeconds).render), files)
  if (o.program :: arguments).any fun a => a.toList.contains '\x00' then
    notStarted "nul byte found in provided data"
  else
    let system := System.start files (1000 * o.timeoutSeconds) patience
    match system.invoke (Octets.ofText o.program) (arguments.map Octets.ofText) with
    | .error e => notStarted e.message
    | .ok (outcome, system) =>
      let finish := max system.clock system.latest
      if o.timeoutSeconds = 0 then late files
      else if outcome = .endless || 1000 * o.timeoutSeconds ≤ finish then late system.files
      else
        let failed (code : Option Int) : Check Failure × Files :=
          (.failed (Failure.ofOutput code (Octets.toText system.errors)), system.files)
        match outcome with
        | .killed _ => failed none
        | outcome => if outcome.status = 0 then (.passed, system.files)
          else failed (some (Int.ofNat outcome.status))

def checkFiles (o : Oracle) (n : Nat) (text : String) (files : Files) : Check Failure × Files :=
  let path := o.scratchPath files n
  match files.write (Octets.ofText path) (Octets.ofText text) with
  | .error e =>
    (.undecided ("failed to create a scratch file in " ++ o.scratchDirectory ++ ": " ++
      e.message ++ " at path " ++ Text.quoted path), files)
  | .ok files =>
    let (check, files) := o.runOn path files
    (check, files.remove (Octets.ofText path))

def check (o : Oracle) (d : Document) : Activity Surroundings (Check Failure) := do
  let s ← Activity.get
  let (answer, files) := o.checkFiles s.scratches d.render s.files
  Activity.modify fun s => { s with files, scratches := s.scratches + 1 }
  return answer

end Oracle

end DeltaDebugging
