import DeltaDebugging.Utility.Accounts
import DeltaDebugging.Utility.Dates
import DeltaDebugging.Utility.FileMode

/-!
# What is known of files

A file takes its space in whole blocks, and its only time is that of its last change.
-/
namespace DeltaDebugging.Utility.Properties

def kindLetter : FileKind → Char
  | .directory => 'd'
  | .link _ => 'l'
  | .device _ => 'c'
  | .descriptor _ => 'l'
  | .fifo _ => 'p'
  | _ => '-'

def kindBits (kind : FileKind) : Nat := match kindLetter kind with
  | 'd' => 0o040000
  | 'l' => 0o120000
  | 'c' => 0o020000
  | 'p' => 0o010000
  | _ => 0o100000

def deviceNumbers : FileKind → Option (Nat × Nat)
  | .device .null => some (1, 3)
  | .device .zero => some (1, 5)
  | .device .full => some (1, 7)
  | .device .random => some (1, 9)
  | .device .terminal => some (5, 0)
  | _ => none

def size (node : FileNode) : Nat := match node.kind with
  | .regular content => content.length
  | .link target => target.length
  | .program name => 4 + name.length
  | .directory => 4096
  | _ => 0

/-- How many names a node has; a directory is also named by itself and those in it. -/
def linkCount (f : Files) (w : Way) (number : Nat) (node : FileNode) : Nat :=
  if node.kind = .directory then
    2 + ((f.children w).filter fun n => (f.at? (w ++ [n])).any fun c => c.kind = .directory).length
  else (f.entries.filter fun e => e.2 = number).length

def blocks (node : FileNode) : Nat := match node.kind with
  | .regular content => (content.length + 4095) / 4096 * 8
  | .program _ => 8
  | .directory => 8
  | _ => 0

def isExecutableMode (mode : Nat) : Bool := mode &&& 0o111 ≠ 0

def modeText (node : FileNode) : String :=
  String.singleton (kindLetter node.kind) ++ FileMode.letters node.mode

def inode (number : Nat) : Nat := number + 1

def ownerName (f : Files) (number : Nat) : String :=
  let n := (f.owner number).1
  if n = 0 then "root" else Accounts.nameOf (Accounts.users f) n

def groupName (f : Files) (number : Nat) : String :=
  let n := (f.owner number).2
  if n = 0 then "root" else Accounts.nameOf (Accounts.groups f) n

end DeltaDebugging.Utility.Properties
