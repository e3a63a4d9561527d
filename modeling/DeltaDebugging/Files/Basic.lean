/-!
# A tree of files

Nodes hold what files are; entries give absolute paths to nodes, so one node may have
several names. A path is walked name by name as the system does it: a name can only be
looked up in a directory, a symbolic link is replaced by what it points to, and a dot or a
pair of dots is a step like any other. Contents are texts of bytes.
-/
namespace DeltaDebugging

/-!
## Faults of the file system

Why a file could not be found, opened, changed or run: the reason in words and the number
under which the system reports it.
-/

inductive FileFault where
  | notPermitted
  | notFound
  | noDevice
  | tooLong
  | badFormat
  | badDescriptor
  | denied
  | busy
  | present
  | notDirectory
  | isDirectory
  | invalid
  | noSpace
  | illegalSeek
  | nameTooLong
  | notEmpty
  | manyLinks
  deriving DecidableEq, Repr

namespace FileFault

def reason : FileFault → String
  | notPermitted => "Operation not permitted"
  | notFound => "No such file or directory"
  | noDevice => "No such device or address"
  | tooLong => "Argument list too long"
  | badFormat => "Exec format error"
  | badDescriptor => "Bad file descriptor"
  | denied => "Permission denied"
  | busy => "Device or resource busy"
  | present => "File exists"
  | notDirectory => "Not a directory"
  | isDirectory => "Is a directory"
  | invalid => "Invalid argument"
  | noSpace => "No space left on device"
  | illegalSeek => "Illegal seek"
  | nameTooLong => "File name too long"
  | notEmpty => "Directory not empty"
  | manyLinks => "Too many levels of symbolic links"

def code : FileFault → Nat
  | notPermitted => 1
  | notFound => 2
  | noDevice => 6
  | tooLong => 7
  | badFormat => 8
  | badDescriptor => 9
  | denied => 13
  | busy => 16
  | present => 17
  | notDirectory => 20
  | isDirectory => 21
  | invalid => 22
  | noSpace => 28
  | illegalSeek => 29
  | nameTooLong => 36
  | notEmpty => 39
  | manyLinks => 40

def message (e : FileFault) : String := e.reason ++ " (os error " ++ toString e.code ++ ")"

end FileFault

/-! ## Trees -/

abbrev Way := List String

inductive Device where
  | null
  | zero
  | full
  | random
  | terminal
  deriving DecidableEq, Repr

inductive FileKind where
  | regular (content : String)
  | directory
  | link (target : String)
  | device (d : Device)
  /-- Stands for a descriptor of the process that looks. -/
  | descriptor (number : Nat)
  /-- A program of the system. -/
  | program (name : String)
  /-- A pipe with a name, and what was written to it but not read yet. -/
  | fifo (waiting : String)
  deriving DecidableEq, Repr

structure FileNode where
  kind : FileKind
  /-- The permission bits. -/
  mode : Nat
  /-- When its content was changed last, in nanoseconds since the system was started. -/
  changed : Int := 0
  deriving DecidableEq, Repr

/-- When the system was started, in nanoseconds since the start of 1970. -/
def systemStart : Int := 1767225600000000000

/-- The content of a node for one who reads it from the start to the end; a descriptor of
the surrounding program has nothing to read. -/
def FileNode.read : FileNode → Except FileFault String
  | ⟨.regular content, _, _⟩ => .ok content
  | ⟨.directory, _, _⟩ => .error .isDirectory
  | ⟨.device .terminal, _, _⟩ => .error .noDevice
  | ⟨.program name, _, _⟩ => .ok ("\x7fELF" ++ name)
  | _ => .ok ""

structure Files where
  nodes : List (Nat × FileNode) := []
  entries : List (Way × Nat) := []
  /-- The number of the next node. -/
  next : Nat := 0
  /-- The nanoseconds since the system was started. -/
  elapsed : Nat := 0
  /-- The users and groups of nodes that do not belong to the superuser. -/
  owners : List (Nat × Nat × Nat) := []
  /-- Where relative paths start. -/
  directory : Way := []
  /-- What was written to descriptors of the surrounding program. -/
  written : List (Nat × String) := []
  deriving DecidableEq, Repr

namespace Files

/-- The names of a path; a slash at its end stands for a step that stays. -/
def names (path : String) : List String :=
  (path.splitOn "/").filter (fun name => !name.isEmpty) ++
    if path.toList.getLast? = some '/' then ["."] else []

def isAbsolute (path : String) : Bool := path.toList.head? = some '/'

def find? (f : Files) (way : Way) : Option Nat := f.entries.lookup way

def node? (f : Files) (n : Nat) : Option FileNode := f.nodes.lookup n

def at? (f : Files) (way : Way) : Option FileNode := (f.find? way).bind f.node?

def maximalName : Nat := 255

def maximalPath : Nat := 4095

/-- Where some names lead from a directory. Only the last name may be missing, and a link
there is followed if `follow` holds. -/
def walk (f : Files) (follow : Bool) : (steps : Nat) → (here : Way) → List String →
    Except FileFault Way
  | _, here, [] => .ok here
  | 0, _, _ :: _ => .error .manyLinks
  | steps + 1, here, name :: rest =>
    match (f.at? here).map FileNode.kind with
    | some .directory =>
      if name = "." then walk f follow steps here rest
      else if name = ".." then walk f follow steps here.dropLast rest
      else if maximalName < name.length then .error .nameTooLong
      else match (f.at? (here ++ [name])).map FileNode.kind with
        | none => if rest.isEmpty then .ok (here ++ [name]) else .error .notFound
        | some (.link target) =>
          if rest.isEmpty && !follow then .ok (here ++ [name])
          else walk f follow steps (if isAbsolute target then [] else here) (names target ++ rest)
        | some _ => walk f follow steps (here ++ [name]) rest
    | some _ => .error .notDirectory
    | none => .error .notFound

/-- The way to what a path names, which need not be there. -/
def way (f : Files) (follow : Bool) (path : String) : Except FileFault Way :=
  if path.isEmpty then .error .notFound
  else if maximalPath < path.length then .error .nameTooLong
  else
    let ns := names path
    f.walk follow (ns.length + 200) (if isAbsolute path then [] else f.directory) ns

def locate (f : Files) (follow : Bool) (path : String) : Except FileFault (Way × Nat × FileNode) := do
  let w ← f.way follow path
  match f.find? w with
  | none => throw .notFound
  | some n => match f.node? n with
    | none => throw .notFound
    | some node => return (w, n, node)

def look? (f : Files) (path : String) : Option FileNode :=
  ((f.locate true path).toOption).map fun found => found.2.2

def isDirectory (f : Files) (path : String) : Bool :=
  (f.look? path).any fun node => decide (node.kind = .directory)

def present (f : Files) (path : String) : Bool := (f.look? path).isSome

def read (f : Files) (path : String) : Except FileFault String := do
  let (_, _, node) ← f.locate true path
  node.read

/-- The present as the times of files have it, by whole ticks of a slow clock. -/
def tick (f : Files) : Int := f.elapsed / 4000000 * 4000000

def setNode (f : Files) (n : Nat) (node : FileNode) : Files :=
  let node := { node with changed := f.tick }
  { f with
    nodes := if (f.nodes.lookup n).isSome then
        f.nodes.map fun e => if e.1 = n then (n, node) else e
      else (n, node) :: f.nodes }

/-- Sets what is known of a node, but not its content. -/
def setProperties (f : Files) (n : Nat) (set : FileNode → FileNode) : Files :=
  { f with nodes := f.nodes.map fun e => if e.1 = n then (n, set e.2) else e }

def owner (f : Files) (n : Nat) : Nat × Nat := (f.owners.lookup n).getD (0, 0)

def setOwner (f : Files) (n user group : Nat) : Files :=
  { f with owners := (n, user, group) :: f.owners.filter fun e => e.1 ≠ n }

/-- Notes that the names in the directory around a place have changed. -/
def noteChange (f : Files) (w : Way) : Files :=
  match f.find? w.dropLast with
  | some n => f.setProperties n fun d => { d with changed := f.tick }
  | none => f

def add (f : Files) (w : Way) (kind : FileKind) (mode : Nat) : Files × Nat :=
  (({ f.setNode f.next ⟨kind, mode, 0⟩ with
      entries := (w, f.next) :: f.entries, next := f.next + 1 }).noteChange w, f.next)

def link (f : Files) (w : Way) (n : Nat) : Files :=
  { f with entries := (w, n) :: f.entries }.noteChange w

/-- Takes a name away; the node stays for those who hold it. -/
def unlink (f : Files) (w : Way) : Files :=
  { f with entries := f.entries.filter fun e => e.1 ≠ w }.noteChange w

def move (f : Files) (source target : Way) : Files :=
  ({ f with
    entries := (f.entries.filter fun e => !target.isPrefixOf e.1).map fun e =>
      if source.isPrefixOf e.1 then (target ++ e.1.drop source.length, e.2) else e
    : Files }.noteChange source).noteChange target

/-- A path without the slashes at its end. -/
def withoutSlashes (path : String) : String :=
  String.ofList (path.toList.reverse.dropWhile (· = '/')).reverse

/-- The node to write to at a path, made with the given mode if nothing is there. A slash at
the end of the path asks for a directory, which cannot be made so. -/
def opened (f : Files) (path : String) (mode : Nat) : Except FileFault (Files × Nat × FileNode) := do
  let bare := withoutSlashes path
  let last := ((bare.splitOn "/").getLast?).getD ""
  if bare ≠ path && !bare.isEmpty && last ≠ "." && last ≠ ".." then
    let _ ← f.way false bare
    throw .isDirectory
  let w ← f.way true path
  match f.find? w with
  | none =>
    let (f, n) := f.add w (.regular "") mode
    return (f, n, ⟨.regular "", mode, 0⟩)
  | some n => match f.node? n with
    | none => throw .notFound
    | some node => match node.kind with
      | .directory => throw .isDirectory
      | .device .terminal => throw .noDevice
      | _ => return (f, n, node)

def write (f : Files) (path : String) (content : String) : Except FileFault Files := do
  let (f, n, node) ← f.opened path 0o644
  match node.kind with
  | .device .full => if content.isEmpty then return f else throw .noSpace
  | .device _ => return f
  | .descriptor d =>
    let old := (f.written.lookup d).getD ""
    return { f with written := (d, old ++ content) :: f.written.filter fun e => e.1 ≠ d }
  | _ => return f.setNode n { node with kind := .regular content }

def remove (f : Files) (path : String) : Files :=
  match f.locate false path with
  | .ok (w, n, _) => { f.unlink w with nodes := f.nodes.filter fun e => e.1 ≠ n }
  | .error _ => f

/-- The names in a directory, in order. -/
def children (f : Files) (w : Way) : List String :=
  let found := f.entries.filterMap fun e =>
    if e.1.length = w.length + 1 && w.isPrefixOf e.1 then e.1.getLast? else none
  found.mergeSort fun a b => decide (a ≤ b)

def list (f : Files) (path : String) : List String :=
  match f.way true path with
  | .ok w => f.children w
  | .error _ => []

/-- Makes a directory at a place and all those on the way to it. -/
def makeDirectories (f : Files) (w : Way) : Files :=
  (List.range (w.length + 1)).foldl (fun f k =>
    if (f.find? (w.take k)).isSome then f else (f.add (w.take k) .directory 0o755).1) f

/-- Puts a file at a path, with the directories on the way to it. -/
def install (f : Files) (path : String) (content : String) : Files :=
  let w := (if isAbsolute path then [] else f.directory) ++ names path
  let f := f.makeDirectories w.dropLast
  (f.add w (.regular content) 0o644).1

/-- The last name of a path, unless the path ends in the parent directory or has no names. -/
def name? (path : String) : Option String :=
  match ((path.splitOn "/").filter fun name => !name.isEmpty && name ≠ ".").getLast? with
  | some ".." => none
  | other => other

end Files

end DeltaDebugging
