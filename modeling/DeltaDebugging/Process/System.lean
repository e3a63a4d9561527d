import DeltaDebugging.Files.Mode
import DeltaDebugging.Files.System
import DeltaDebugging.Time.Zone

/-!
# Running systems

What processes share: the files, what they have opened, the pipes between them, and the
time. A descriptor of a process names an opening, and processes that inherited the same
opening also share its position. Processes run one after another, so a pipe holds all that
its writer wrote before its reader begins.
-/
namespace DeltaDebugging

inductive Target where
  | node (number : Nat)
  | pipe (number : Nat)
  deriving DecidableEq, Repr

structure Opening where
  target : Target
  /-- How many bytes stand before the position. -/
  position : Nat := 0
  /-- Whether every write goes to the end. -/
  appends : Bool := false
  reads : Bool := true
  writes : Bool := true
  deriving DecidableEq, Repr

structure Piece where
  time : Nat
  /-- The process in the background that wrote them, or zero. -/
  job : Nat
  bytes : String
  deriving DecidableEq, Repr

/-- Bytes on their way. `unread` comes before what the pieces hold, the latest of which is
the first. -/
structure Pipe where
  unread : List Char := []
  pieces : List Piece := []
  /-- Whether the writer would never have stopped. -/
  endless : Bool := false
  deriving DecidableEq, Repr

namespace Pipe

def written (p : Pipe) : String := String.join (p.pieces.reverse.map Piece.bytes)

def insert (p : Piece) : List Piece → List Piece
  | [] => [p]
  | q :: rest =>
    if p.time < q.time then q :: insert p rest
    else if p.time = q.time && p.job = q.job then { q with bytes := q.bytes ++ p.bytes } :: rest
    else p :: q :: rest

end Pipe

structure Message where
  process : Nat
  signal : Nat
  time : Nat
  deriving DecidableEq, Repr

structure System where
  files : Files
  openings : Array Opening := #[]
  pipes : Array Pipe := #[]
  /-- The time that has passed, in milliseconds. -/
  clock : Nat := 0
  /-- The number of the process started last. -/
  processes : Nat := 4711
  /-- The process in the background that is being run, or zero. -/
  job : Nat := 0
  /-- The sessions that can be sent signals, and the signals on their way. -/
  alive : List Nat := []
  messages : List Message := []
  /-- The pipes that are read from outside until all their writers are gone. -/
  watched : List Nat := []
  /-- When the last of the processes in the background that hold such a pipe ends. -/
  latest : Nat := 0
  /-- When everything is cut off. -/
  deadline : Nat := 3600000
  /-- How many more commands may be run before the system counts as running forever. -/
  patience : Nat := 0
  /-- By how much the programs that run now give way to others. -/
  niceness : Int := 0
  deriving Repr

/-- The descriptors of a process, by number, and the opening that each names. -/
abbrev Descriptors := List (Nat × Nat)

inductive Fate where
  | exited (status : Nat)
  | killed (signal : Nat)
  /-- The process had not ended by the deadline. -/
  | endless
  deriving DecidableEq, Repr

namespace Fate

def status : Fate → Nat
  | exited n => n % 256
  | killed n => 128 + n
  | endless => 0

end Fate

/-- A program that is started: the name it is called by, its arguments, and what it inherits. -/
structure Invocation where
  /-- The path of the file that is run. -/
  path : String
  /-- The name under which it was called. -/
  name : String
  arguments : List String
  environment : List (String × String)
  descriptors : Descriptors
  directory : Way
  /-- The bits that modes of new files do not get. -/
  mask : Nat := 0o022
  /-- Signals that are ignored. -/
  ignored : List Nat := []
  deriving Repr

abbrev Runner := Invocation → System → Fate × System

namespace System

def opening? (s : System) (n : Nat) : Option Opening := s.openings[n]?

def addOpening (s : System) (o : Opening) : System × Nat :=
  ({ s with openings := s.openings.push o }, s.openings.size)

/-- A new pipe, as the openings of its two ends, the one to read from first. -/
def addPipe (s : System) (content : String) : System × Nat × Nat :=
  let n := s.pipes.size
  let s := { s with pipes := s.pipes.push { pieces := [⟨s.clock, s.job, content⟩] } }
  let (s, reader) := s.addOpening { target := .pipe n, writes := false }
  let (s, writer) := s.addOpening { target := .pipe n, reads := false }
  (s, reader, writer)

/-- Whether a process with some descriptors could still write to a watched pipe. -/
def holds (s : System) (descriptors : Descriptors) : Bool :=
  descriptors.any fun d => match s.opening? d.2 with
    | some ⟨.pipe p, _, _, _, true⟩ => s.watched.contains p
    | _ => false

/-- A process in the background is stopped: it never gets to what it would have written later. -/
def silence (s : System) (job : Nat) : System :=
  { s with pipes := s.pipes.map fun p =>
    { p with pieces := p.pieces.filter fun q => q.job ≠ job || q.time ≤ s.clock } }

def wait (s : System) (milliseconds : Nat) : System :=
  { s with
    clock := s.clock + milliseconds
    files := { s.files with elapsed := s.files.elapsed + milliseconds * 1000000 } }

def now (s : System) : Time.Moment := Time.Moment.ofTotal (systemStart + s.files.elapsed)

def processCost : Nat := 15

/-- How many nanoseconds pass, by the clock of the files, until a process runs. -/
def startingTime : Nat := 1000000

def burdened (s : System) : System :=
  { s with
    patience := s.patience - processCost
    files := { s.files with elapsed := s.files.elapsed + startingTime } }

/-- How much of the patience it takes to write to a file of some size. Files that never stop
growing use it up. -/
def writingCost (size : Nat) : Nat := if size < 200000 then size / 1000 else size / 40

def setOpening (s : System) (n : Nat) (o : Opening) : System :=
  { s with openings := s.openings.setIfInBounds n o }

def setPipe (s : System) (n : Nat) (p : Pipe) : System :=
  { s with pipes := s.pipes.setIfInBounds n p }

structure Access where
  reads : Bool
  writes : Bool
  /-- Made if it is not there. -/
  creates : Bool := false
  truncates : Bool := false
  appends : Bool := false
  /-- Refused if it is there. -/
  fresh : Bool := false
  /-- The mode of what is made, before the mask of the process. -/
  mode : Nat := 0o666
  deriving DecidableEq, Repr

namespace Access

def toRead : Access := { reads := true, writes := false }

def toReplace : Access := { reads := false, writes := true, creates := true, truncates := true }

def toAppend : Access := { reads := false, writes := true, creates := true, appends := true }

def toUpdate : Access := { reads := true, writes := true, creates := true }

end Access

/-- Opens what a path names, as seen by a process with the given directory, descriptors and
mask. -/
def «open» (s : System) (directory : Way) (descriptors : Descriptors) (mask : Nat) (path : String) (a : Access) :
    Except FileFault (System × Nat) := do
  let files := { s.files with directory }
  if a.fresh then
    match (files.look? path).map FileNode.kind with
    | some (.regular _) => throw .present
    | _ => pure ()
  let (files, n, node) ← if a.creates then files.opened path (FileMode.without a.mode mask)
    else do
      let (_, n, node) ← files.locate true path
      pure (files, n, node)
  let s := { s with files }
  let fresh (s : System) : System × Nat :=
    s.addOpening { target := .node n, appends := a.appends, reads := a.reads, writes := a.writes }
  match node.kind with
  | .directory => if a.writes then throw .isDirectory else return fresh s
  | .device .terminal => throw .noDevice
  | .descriptor d => match descriptors.lookup d with
    | none => throw .notFound
    | some o => match s.opening? o with
      | some ⟨.node m, _, _, _, _⟩ => match s.files.node? m with
        | some ⟨.regular _, mode, _⟩ =>
          let s := if a.truncates then { s with files := s.files.setNode m ⟨.regular "", mode, 0⟩ } else s
          return s.addOpening
            { target := .node m, appends := a.appends, reads := a.reads, writes := a.writes }
        | _ => return (s, o)
      | _ => return (s, o)
  | .regular content =>
    let s := if a.truncates && !content.isEmpty then
        { s with files := s.files.setNode n { node with kind := .regular "" } }
      else s
    return fresh s
  | _ => return fresh s

def write (s : System) (n : Nat) (bytes : String) : Except FileFault System :=
  match s.opening? n with
  | none => .error .badDescriptor
  | some o =>
    if !o.writes then .error .badDescriptor
    else if bytes.isEmpty then .ok s
    else match o.target with
    | .pipe p => match s.pipes[p]? with
      | some pipe => .ok { s with pipes := s.pipes.modify p fun _ => 
        { pipe with pieces := Pipe.insert ⟨s.clock, s.job, bytes⟩ pipe.pieces } }
      | none => .error .badDescriptor
    | .node m => match s.files.node? m with
      | some node => match node.kind with
        | .regular content =>
          let size := content.length
          let position := if o.appends then size else o.position
          let merged := if position = size then content ++ bytes else
            let old := content.toList
            let gap := List.replicate (position - size) '\x00'
            String.ofList (old.take position ++ gap) ++ bytes ++
              String.ofList (old.drop (position + bytes.length))
          .ok ({ s with
            files := s.files.setNode m { node with kind := .regular merged }
            patience := s.patience - writingCost (size + bytes.length) }.setOpening n
              { o with position := position + bytes.length })
        | .fifo waiting =>
          .ok { s with files := s.files.setNode m { node with kind := .fifo (waiting ++ bytes) } }
        | .device .full => .error .noSpace
        | _ => .ok s
      | none => .error .badDescriptor

/-- All that is left to read from an opening, and whether there is no end to it. -/
def contents (s : System) (n : Nat) : Except FileFault (List Char × Bool) :=
  match s.opening? n with
  | none => .error .badDescriptor
  | some o =>
    if !o.reads then .error .badDescriptor
    else match o.target with
    | .pipe p => match s.pipes[p]? with
      | some pipe => .ok (pipe.unread ++ pipe.written.toList, pipe.endless)
      | none => .error .badDescriptor
    | .node m => match (s.files.node? m).map FileNode.kind with
      | some (.regular content) => .ok (content.toList.drop o.position, false)
      | some .directory => .error .isDirectory
      | some (.device .null) => .ok ([], false)
      | some (.device .zero) => .ok (List.replicate 65536 '\x00', true)
      | some (.device .full) => .ok (List.replicate 65536 '\x00', true)
      | some (.device .random) => .ok (List.replicate 65536 'x', true)
      | some (.program name) => .ok (("\x7fELF" ++ name).toList.drop o.position, false)
      | some (.fifo waiting) => .ok (waiting.toList, waiting.isEmpty)
      | _ => .ok ([], false)

/-- Moves the position of an opening past `count` bytes, of which `rest` are left. -/
def consume (s : System) (n count : Nat) (rest : List Char) : System :=
  match s.opening? n with
  | none => s
  | some o => match o.target with
    | .pipe p => match s.pipes[p]? with
      | some pipe => s.setPipe p { pipe with unread := rest, pieces := [] }
      | none => s
    | .node m => match s.files.node? m with
      | some node => match node.kind with
        | .fifo _ => { s with files := s.files.setProperties m fun node => { node with kind := .fifo "" } }
        | _ => s.setOpening n { o with position := o.position + count }
      | none => s

/-- Gives bytes back that were taken last: to a file in any case, to a pipe if `pipes` holds. -/
def giveBack (s : System) (n : Nat) (rest : List Char) (pipes : Bool) : System :=
  match s.opening? n with
  | none => s
  | some o => match o.target with
    | .pipe p => if !pipes then s else match s.pipes[p]? with
      | some pipe => s.setPipe p { pipe with unread := rest ++ pipe.unread }
      | none => s
    | .node m => match (s.files.node? m).map FileNode.kind with
      | some (.regular _) => s.setOpening n { o with position := o.position - rest.length }
      | _ => s

end System

end DeltaDebugging
