import DeltaDebugging.Text.Lines
import DeltaDebugging.Snapshot.Transaction
import DeltaDebugging.Snapshot.Focus

/-!
# Text documents

A text is a list of lines grouped into blocks, the maximal runs of lines that are not
blank. Deleting a block or a line only marks lines as gone. What is written out are the
lines still alive, one blank line between blocks.
-/
namespace DeltaDebugging

inductive TextUnit where
  | block (index : Nat)
  | line (index : Nat)
  deriving DecidableEq, Repr

/-- The lines from `start` up to but not including `stop`. -/
structure Block where
  start : Nat
  stop : Nat
  deriving DecidableEq, Repr

namespace Block

def lines (b : Block) : List Nat := (List.range (b.stop - b.start)).map (b.start + ·)

end Block

structure Document where
  lines : List String
  blocks : List Block
  alive : List Bool
  trailingNewline : Bool
  deriving DecidableEq, Repr

namespace Document

/-- The blocks among the lines from `index` on; `start` is where the current one began. -/
def blocksFrom (index : Nat) (start : Option Nat) : List String → List Block
  | [] => match start with
    | some first => [⟨first, index⟩]
    | none => []
  | line :: rest =>
    match Text.isBlank line, start with
    | false, none => blocksFrom (index + 1) (some index) rest
    | true, some first => ⟨first, index⟩ :: blocksFrom (index + 1) none rest
    | _, _ => blocksFrom (index + 1) start rest

def parse (text : String) : Document :=
  let lines := Text.lines text
  { lines
    blocks := blocksFrom 0 none lines
    alive := lines.map fun line => !Text.isBlank line
    trailingNewline := text.toList.getLast? = some '\n' }

def isAlive (d : Document) (line : Nat) : Bool := d.alive.getD line false

def aliveIn (d : Document) (b : Block) : List String :=
  (b.lines.filter d.isAlive).map fun i => d.lines.getD i ""

def render (d : Document) : String :=
  let blocks := (d.blocks.map d.aliveIn).filter fun lines => !lines.isEmpty
  let text := String.intercalate "\n\n" (blocks.map (String.intercalate "\n"))
  if d.trailingNewline && !text.isEmpty then text ++ "\n" else text

def aliveLines (d : Document) : Nat := d.alive.count true

def blockUnits (d : Document) : List TextUnit :=
  ((List.range d.blocks.length).filter fun i =>
    (d.blocks[i]?.map fun b => b.lines.any d.isAlive).getD false).map TextUnit.block

def children (d : Document) : TextUnit → List TextUnit
  | .block i => ((d.blocks[i]?.map Block.lines).getD []).map TextUnit.line
  | .line _ => []

/-- Marks lines as gone; those already gone stay so. -/
def kill (d : Document) (gone : List Nat) : Document :=
  { d with alive := d.alive.mapIdx fun i alive => alive && !gone.contains i }

def delete (d : Document) : TextUnit → Except String Document
  | .block i => match d.blocks[i]? with
    | some b => .ok (d.kill b.lines)
    | none => .error ("no block " ++ toString i)
  | .line i => if i < d.alive.length then .ok (d.kill [i]) else .error ("no line " ++ toString i)

def deleteAll (d : Document) : List TextUnit → Document × Except String Unit
  | [] => (d, .ok ())
  | unit :: units => match d.delete unit with
    | .ok d => d.deleteAll units
    | .error cause => (d, .error cause)

def lens {τ : Type} : Lens Document τ TextUnit := fun units => do
  let (d, _) ← Activity.get
  let (d, result) := d.deleteAll units
  Activity.modify fun s => (d, s.2)
  return result

/-- Transactions on a document in place: only the marks can change, so they are all that
a checkpoint holds. -/
def checkpointing : Strategy Document (List Bool) :=
  .checkpoint (fun d => .ok d.alive) fun alive d => { d with alive }

end Document

end DeltaDebugging
