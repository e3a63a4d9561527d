import DeltaDebugging.Number.Random
import DeltaDebugging.Utility.Awk.Basic
import DeltaDebugging.Utility.Awk.Lexer
import DeltaDebugging.Utility.Awk.Matching
import DeltaDebugging.Utility.Awk.Value
import DeltaDebugging.Utility.Control

/-!
# The state of a pattern scanning program

What the variables hold, the record with its fields, and the files and commands that are read
from and written to. What goes to a command is kept until it is closed, when the command runs.
-/
namespace DeltaDebugging.Utility.Awk

structure Stream where
  rest : List Char
  endless : Bool := false
  /-- How the command ended. -/
  status : Nat := 0

structure Channel where
  isCommand : Bool
  name : String
  deriving DecidableEq, Repr

structure Outlet where
  opening : Option Nat
  /-- The texts, the last one first. -/
  texts : List String := []

inductive Slot where
  | value (v : Value)
  | table (number : Nat)

inductive Jump where
  | leave
  | goOn
  | giveBack (v : Value)
  | next
  | nextFile
  | exit
  /-- Something is wrong, which was told. -/
  | failed

structure Machine where
  functions : List Function := []
  globals : List (String × Value)
  tables : Array Table := #[]
  tableNumbers : List (String × Nat) := []
  locals : List (String × Slot) := []
  record : Value := .nothing
  fields : Array Value := #[]
  inputs : List (Channel × Stream) := []
  /-- The one opened last is the first. -/
  outputs : List (Channel × Outlet) := []
  /-- What the records are read from now. -/
  main : Option Stream := none
  /-- The operand that is read next. -/
  operand : Nat := 1
  /-- Whether an operand named a file. -/
  named : Bool := false
  /-- The rules for ranges that have begun. -/
  begun : List Nat := []
  expressions : List (String × Regex) := []
  seed : Value := .number 0.0
  generator : Option Number.Generator := none
  status : Nat := 0
  /-- How many calls are inside one another. -/
  depth : Nat := 0
  /-- How many more rounds there may be before the program counts as running forever. -/
  patience : Nat := 1000000

abbrev Run := ExceptT Jump (StateT Machine Program)

namespace Run

def lift (p : Program α) : Run α := ExceptT.lift (StateT.lift p)

def leaving (j : Jump) : Run α := throw j

/-! ## Complaints -/

def die (text : String) : Run α := do
  let _ ← lift do Program.write 2 ((← Program.name) ++ ": " ++ text ++ "\n")
  modify fun m => { m with status := 2 }
  leaving .failed

/-! ## Variables -/

/-- Replaces the value of a name, which is added if it is not there. -/
def assigned (name : String) (v : α) : List (String × α) → List (String × α)
  | [] => [(name, v)]
  | e :: es => if e.1 = name then (name, v) :: es else e :: assigned name v es

def global (name : String) : Run Value := return ((← get).globals.lookup name).getD .nothing

def setGlobal (name : String) (v : Value) : Run Unit :=
  modify fun m => { m with globals := assigned name v m.globals }

def format : Run String := return match (← get).globals.lookup "CONVFMT" with
  | some v => v.toText "%.6g"
  | none => "%.6g"

def textOf (v : Value) : Run String := do
  match v with
  | .number _ | .nan => return v.toText (← format)
  | v => return v.toText ""

def globalText (name : String) : Run String := do textOf (← global name)

def runtimeError (text : String) : Run α := do
  die ("run time error: " ++ text ++ "\n\tFILENAME=\"" ++ (← globalText "FILENAME") ++ "\" FNR=" ++
    (← globalText "FNR") ++ " NR=" ++ (← globalText "NR"))

/-- A round of a loop or a call; there cannot be too many. -/
def spend : Run Unit := do
  let m ← get
  if m.patience = 0 then lift (throw .endless)
  set { m with patience := m.patience - 1 }

/-! ## Regular expressions -/

def expression (source : String) : Run Regex := do
  match (← get).expressions.lookup source with
  | some r => return r
  | none => match Matching.read source with
    | .ok r =>
      modify fun m => { m with expressions := (source, r) :: m.expressions }
      return r
    | .error e => runtimeError ("regular expression compile failed (" ++ e.reason ++ ")\n" ++ source)

/-! ## Records and fields -/

inductive Separator where
  | blanks
  /-- Every character is a piece. -/
  | nothing
  | char (c : Char)
  | fitting (r : Regex)

def separatorOf (text : String) : Run Separator := do
  match text.toList with
  | [' '] => return .blanks
  | [] => return .nothing
  | [c] => return .char c
  | _ => return .fitting (← expression text)

/-- The first match from a place on that takes something. -/
def nonempty? (s : Regex.Subject) (r : Regex) : (steps : Nat) → Nat → Option (Nat × Nat)
  | 0, _ => none
  | steps + 1, i => match Regex.search s r i with
    | none => none
    | some p =>
      if p.start < p.position then some (p.start, p.position) else nonempty? s r steps (p.start + 1)

def Separator.split (sep : Separator) (s : String) : List String :=
  if s.isEmpty then [] else
  match sep with
  | blanks =>
    let blank (c : Char) : Bool := c = ' ' || c = '\t' || c = '\n'
    ((s.toList.splitBy fun a b => blank a == blank b).filter fun cs => !cs.any blank).map String.ofList
  | nothing => s.toList.map String.singleton
  | char c => (s.toList.splitOn c).map String.ofList
  | fitting r =>
    let subject : Regex.Subject := { text := s.toList.toArray }
    let rec go : (steps : Nat) → Nat → List String
      | 0, _ => []
      | steps + 1, i => match nonempty? subject r (subject.text.size + 1) i with
        | none => [String.ofList (subject.piece i subject.text.size)]
        | some (a, b) => String.ofList (subject.piece i a) :: go steps b
    go (subject.text.size + 1) 0

def setRecord (v : Value) : Run Unit := do
  let sep ← separatorOf (← globalText "FS")
  let pieces := sep.split (← textOf v)
  let fields := (pieces.map Value.outside).toArray
  modify fun m => { m with record := v, fields }
  setGlobal "NF" (.number (Float.ofNat fields.size))

/-- The record becomes its fields with the separator for output between them. -/
def joinFields : Run Unit := do
  let separator ← globalText "OFS"
  let texts ← (← get).fields.toList.mapM textOf
  modify fun m => { m with record := .outside (String.intercalate separator texts) }

def fieldIndex (x : Float) : Run Nat := do
  let n := wholePart x
  if n < 0 then runtimeError ("negative field index $" ++ toString n) else return n.toNat

def field (n : Nat) : Run Value := do
  let m ← get
  if n = 0 then return m.record else return m.fields.getD (n - 1) .nothing

/-- Cuts off fields or adds empty ones. -/
def resizeFields (n : Nat) : Run Unit := do
  modify fun m => { m with
    fields := if n ≤ m.fields.size then m.fields.extract 0 n
      else m.fields ++ Array.replicate (n - m.fields.size) (.outside "") }

def setField (n : Nat) (v : Value) : Run Unit := do
  if n = 0 then setRecord v else
  if (← get).fields.size < n then
    resizeFields n
    setGlobal "NF" (.number (Float.ofNat n))
  modify fun m => { m with fields := m.fields.setIfInBounds (n - 1) v }
  joinFields

def setVariable (name : String) (v : Value) : Run Unit := do
  match (← get).locals.lookup name with
  | some _ => modify fun m => { m with locals := assigned name (.value v) m.locals }
  | none =>
    if name = "NF" then
      let n := wholePart v.toNumber
      if n < 0 then runtimeError "negative value assigned to NF"
      setGlobal name v
      resizeFields n.toNat
      joinFields
    else setGlobal name v

def valueOf (name : String) : Run Value := do
  match (← get).locals.lookup name with
  | some (.value v) => return v
  | some (.table _) => return .nothing
  | none => global name

/-! ## Tables -/

def newTable : Run Nat := do
  let m ← get
  set { m with tables := m.tables.push {} }
  return m.tables.size

def tableNumber (name : String) : Run Nat := do
  let m ← get
  match m.locals.lookup name with
  | some (.table n) => return n
  | some (.value _) =>
    let n ← newTable
    modify fun m => { m with locals := assigned name (.table n) m.locals }
    return n
  | none => match m.tableNumbers.lookup name with
    | some n => return n
    | none =>
      let n ← newTable
      modify fun m => { m with tableNumbers := (name, n) :: m.tableNumbers }
      return n

def table (n : Nat) : Run Table := return (← get).tables.getD n {}

def setTable (n : Nat) (t : Table) : Run Unit :=
  modify fun m => { m with tables := m.tables.setIfInBounds n t }

def subscript (v : Value) : Run Subscript := do
  match v with
  | .number x => match whole? x with
    | some n => return ⟨toString n, some n⟩
    | none => return { text := ← textOf v }
  | v => return { text := ← textOf v }

/-! ## Output -/

/-- What is printed may be written, and then it has to be possible. -/
def put (text : String) : Run Unit := do
  lift (Program.put text)
  if 4096 < (← lift get).out.utf8ByteSize then
    match ← lift Program.flush with
    | some e => die ("write failure (" ++ e.reason ++ ")")
    | none => return

/-- Runs a command in a shell that reads and writes as the descriptors say. -/
def runCommand (start : Runner) (name text : String) (descriptors : Descriptors) : Run Fate := do
  let fate ← lift do
    let i ← Program.invocation
    let s ← Program.system
    let (fate, s) := start { i with path := "/bin/sh", name, arguments := ["-c", text], descriptors }
      { s with processes := s.processes + 1 }
    Program.setSystem s
    return fate
  return fate

def fateNumber : Fate → Nat
  | .exited n => n % 256
  | .killed n => 256 + n
  | .endless => 0

def flushFile (c : Channel) (o : Outlet) : Run Unit := do
  match o.opening with
  | none => return
  | some n =>
    match (← lift Program.system).write n (String.join o.texts.reverse) with
    | .ok s =>
      lift (Program.setSystem s)
      modify fun m => { m with outputs := replaced c { o with texts := [] } m.outputs }
    | .error e => die ("close failed on file \"" ++ c.name ++ "\" (" ++ e.reason ++ ")")
where
  replaced (c : Channel) (o : Outlet) : List (Channel × Outlet) → List (Channel × Outlet)
    | [] => []
    | e :: es => if e.1 = c then (c, o) :: es else e :: replaced c o es

def flushAll : Run Unit := do
  match ← lift Program.flush with
  | some e =>
    let _ ← lift do Program.write 2 ((← Program.name) ++ ": unexpected write error (" ++ e.reason ++ ")\n")
  | none => pure ()
  for (c, o) in (← get).outputs do
    if !o.texts.isEmpty then flushFile c o

def finish (start : Runner) (c : Channel) (o : Outlet) : Run Nat := do
  if c.isCommand then
    let descriptors ← lift do
      let (s, reader, _) := (← Program.system).addPipe (String.join o.texts.reverse)
      Program.setSystem s
      let i ← Program.invocation
      return (0, reader) :: i.descriptors.filter fun d => d.1 ≠ 0
    let fate ← runCommand start "/bin/sh" c.name descriptors
    if fate = .endless then lift (throw .endless)
    modify fun m => { m with outputs := m.outputs.filter fun e => e.1 ≠ c }
    return fateNumber fate
  else
    flushFile c o
    modify fun m => { m with outputs := m.outputs.filter fun e => e.1 ≠ c }
    return 0

def send (c : Channel) (appends : Bool) (text : String) : Run Unit := do
  if !c.isCommand && c.name = "/dev/stdout" then put text
  else if !c.isCommand && c.name = "/dev/stderr" then
    let _ ← lift (Program.write 2 text)
  else
    let m ← get
    match m.outputs.lookup c with
    | some o => set { m with
        outputs := (c, { o with texts := text :: o.texts }) :: m.outputs.filter fun e => e.1 ≠ c }
    | none =>
      let opening ← if c.isCommand then do
          flushAll
          pure none
        else match ← lift (Program.openPath c.name (if appends then .toAppend else .toReplace)) with
        | .ok n => pure (some n)
        | .error e => die ("cannot open \"" ++ c.name ++ "\" for output (" ++ e.reason ++ ")")
      modify fun m => { m with outputs := (c, { opening, texts := [text] }) :: m.outputs }

/-! ## Input -/

inductive RecordEnd where
  | char (c : Char)
  /-- Empty lines. -/
  | gap
  | fitting (r : Regex)

def recordEnd : Run RecordEnd := do
  let text ← globalText "RS"
  match text.toList with
  | [] => return .gap
  | [c] => return .char c
  | _ => return .fitting (← expression text)

/-- The record at the front of a text that is not empty, what follows it, and whether it came
to its end. -/
def RecordEnd.take (e : RecordEnd) (cs : List Char) : List Char × List Char × Bool :=
  match e with
  | char c =>
    let record := cs.takeWhile (· ≠ c)
    match cs.drop record.length with
    | [] => (record, [], false)
    | _ :: rest => (record, rest, true)
  | gap =>
    let rec go (read : List Char) : List Char → List Char × List Char × Bool
      | '\n' :: '\n' :: rest => (read.reverse, rest.dropWhile (· = '\n'), true)
      | ['\n'] => (read.reverse, [], false)
      | c :: rest => go (c :: read) rest
      | [] => (read.reverse, [], false)
    go [] cs
  | fitting r =>
    let subject : Regex.Subject := { text := cs.toArray }
    match nonempty? subject r (subject.text.size + 1) 0 with
    | some (a, b) => (cs.take a, cs.drop b, true)
    | none => (cs, [], false)

def nextRecord (s : Stream) : Run (Option String × Stream) := do
  let e ← recordEnd
  let rest := match e with
    | .gap => s.rest.dropWhile (· = '\n')
    | _ => s.rest
  if rest.isEmpty then
    if s.endless then lift (throw .endless)
    return (none, { s with rest })
  let (record, rest, ended) := e.take rest
  if !ended && s.endless then lift (throw .endless)
  return (some (String.ofList record), { s with rest })

/-- The content of a file as a stream; a dash is the standard input. -/
def streamOf (path : String) : Run (Except FileFault Stream) := do
  let found ← lift (if path = "-" then do
      match ← Program.inputSoFar with
      | .ok (cs, endless) =>
        Program.takeInput cs.length
        return .ok (cs, endless)
      | .error e => return .error e
    else Program.beginningOf path)
  match found with
  | .ok (rest, endless) => return .ok { rest, endless }
  | .error (.unopened e) => return .error e
  | .error (.unreadable e) => die ("read error (" ++ e.reason ++ ")")

def commandStream (start : Runner) (text : String) : Run Stream := do
  flushAll
  let (reader, descriptors) ← lift do
    let (s, reader, writer) := (← Program.system).addPipe ""
    Program.setSystem s
    let i ← Program.invocation
    return (reader, (1, writer) :: i.descriptors.filter fun d => d.1 ≠ 1)
  let fate ← runCommand start "/bin/sh" text descriptors
  match (← lift Program.system).contents reader with
  | .ok (rest, _) =>
    if fate = .endless && rest.isEmpty then lift (throw .endless)
    return { rest, endless := decide (fate = .endless), status := fateNumber fate }
  | .error _ => return { rest := [], status := fateNumber fate }

def isName (cs : List Char) : Bool :=
  match cs with
  | c :: rest => (c.isAlpha || c = '_') && rest.all fun d => d.isAlphanum || d = '_'
  | [] => false

/-- The name and the text of an operand that assigns to a variable. -/
def assignment? (s : String) : Option (String × String) :=
  let name := s.toList.takeWhile (· ≠ '=')
  match s.toList.drop name.length with
  | _ :: value => if isName name then some (String.ofList name, String.ofList value) else none
  | [] => none

/-- Assigns to a variable from outside the program. -/
def assignOutside (name text : String) : Run Unit := do
  let m ← get
  let taken := Reader.keywords.contains name || (Reader.builtins.lookup name).isSome ||
    (m.functions.any fun f => f.name = name) || (m.tableNumbers.lookup name).isSome
  if taken then runtimeError ("cannot command line assign to " ++ name ++ "\n\ttype clash or keyword")
  setVariable name (.outside (Reader.unescape text))

/-- The next stream that records are read from, if there is one left. -/
def nextStream : (steps : Nat) → Run (Option Stream)
  | 0 => return none
  | steps + 1 => do
    let m ← get
    let count := (wholePart (← global "ARGC").toNumber).toNat
    if count ≤ m.operand then
      if m.named then return none
      set { m with named := true }
      setGlobal "FILENAME" (.text "-")
      match ← streamOf "-" with
      | .ok s => return some s
      | .error e => die ("read error (" ++ e.reason ++ ")")
    else
      set { m with operand := m.operand + 1 }
      let arguments ← tableNumber "ARGV"
      let (t, found) := (← table arguments).find? ⟨toString m.operand, some m.operand⟩
      setTable arguments t
      let path ← match found with
        | some v => textOf v
        | none => pure ""
      if path.isEmpty then nextStream steps
      else match assignment? path with
      | some (name, text) =>
        assignOutside name text
        nextStream steps
      | none =>
        modify fun m => { m with named := true }
        setGlobal "FILENAME" (.text path)
        setGlobal "FNR" (.number 0.0)
        match ← streamOf path with
        | .ok s => return some s
        | .error e => die ("cannot open \"" ++ path ++ "\" (" ++ e.reason ++ ")")

def mainRecord : (steps : Nat) → Run (Option String)
  | 0 => return none
  | steps + 1 => do
    match (← get).main with
    | some s =>
      let (record, rest) ← nextRecord s
      match record with
      | some r =>
        modify fun m => { m with main := some rest }
        return some r
      | none =>
        modify fun m => { m with main := none }
        mainRecord steps
    | none =>
      match ← nextStream (steps + 1) with
      | some s =>
        modify fun m => { m with main := some s }
        mainRecord steps
      | none => return none

def operandLimit : Nat := 20000

def countRecord : Run Unit := do
  setGlobal "NR" (.number ((← global "NR").toNumber + 1))
  setGlobal "FNR" (.number ((← global "FNR").toNumber + 1))

/-- Closes what has a name: how that ended, if there was something. -/
def close (start : Runner) (name : String) : Run (Option Nat) := do
  let m ← get
  match m.outputs.find? fun e => e.1.name = name with
  | some (c, o) => return some (← finish start c o)
  | none => match m.inputs.find? fun e => e.1.name = name with
    | some (c, s) =>
      set { m with inputs := m.inputs.filter fun e => e.1 ≠ c }
      return some s.status
    | none => return none

end Run

end DeltaDebugging.Utility.Awk
