import DeltaDebugging.Files.Basic
import DeltaDebugging.Shell.Arithmetic
import DeltaDebugging.Shell.Pattern
import DeltaDebugging.Shell.Signal

/-!
# Expanding words

Parameters, command substitutions and arithmetic, with everything they may do to the
session. The commands of a substitution are run by whoever expands the word.
-/
namespace DeltaDebugging.Shell

/-!
## Expanded words

What a word expands to is a row of letters that remember how they came about: quoted ones
have no meaning of their own, and only those that an expansion brought in separate fields.
-/

inductive Letter where
  | char (c : Char) (quoted splits : Bool)
  /-- Quotes around nothing, which still make a field. -/
  | quotes
  /-- The border between two arguments; a strict one ends even an empty field. -/
  | gap (strict : Bool)
  deriving DecidableEq, Repr

namespace Letter

def ofText (s : String) (quoted splits : Bool) : List Letter :=
  s.toList.map fun c => char c quoted splits

def marked (ls : List Letter) : Marked :=
  ls.filterMap fun
    | char c quoted _ => some (c, quoted)
    | gap _ => some (' ', true)
    | quotes => none

def text (ls : List Letter) : String := String.ofList ((marked ls).map Prod.fst)

def isWhite (c : Char) : Bool := c == ' ' || c == '\t' || c == '\n'

/-- The fields of a word. `current` is the one begun, backwards; the flag holds after white
space that ended a field, when one more separator still belongs to it. -/
def fieldsFrom (separators : List Char) : (current : List Letter) → Bool →
    List Letter → List (List Letter)
  | current, _, [] => if current.isEmpty then [] else [current.reverse]
  | current, _, gap true :: ls => current.reverse :: fieldsFrom separators [] false ls
  | current, spaced, l :: ls =>
    let (separates, white) := match l with
      | char c _ true => (separators.contains c, separators.contains c && isWhite c)
      | gap _ => (true, true)
      | _ => (false, false)
    if !separates then fieldsFrom separators (l :: current) false ls
    else if spaced then fieldsFrom separators [] white ls
    else if current.isEmpty && white then fieldsFrom separators [] false ls
    else current.reverse :: fieldsFrom separators [] white ls

def fields (separators : String) (ls : List Letter) : List (List Letter) :=
  fieldsFrom separators.toList [] false ls

end Letter

/-- The names below some directories that the parts of a path pattern lead to. Each directory
is given as it is written, with its closing slash. -/
def pathsBelow (f : Files) : (directories : List String) → (parts : List Marked) → List String
  | found, [] => found
  | directories, part :: parts =>
    let last := parts.isEmpty
    let next := directories.flatMap fun directory =>
      if Glob.isPattern part then
        let glob := Glob.ofMarked part
        let all := f.list (if directory.isEmpty then "." else directory)
        let all := if part.head?.map Prod.fst = some '.' then "." :: ".." :: all else all
        let hits := all.filter fun name =>
          Glob.accepts glob name.toList &&
            (name.toList.head? ≠ some '.' || part.head?.map Prod.fst = some '.')
        hits.filterMap fun name =>
          if last then some (directory ++ name)
          else if f.isDirectory (directory ++ name) then some (directory ++ name ++ "/")
          else none
      else
        let name := String.ofList (part.map Prod.fst)
        let path := directory ++ name
        if last then (if path.isEmpty || f.present path then [path] else []) else [path ++ "/"]
    pathsBelow f next parts

def splitSlashes : Marked → List Marked
  | [] => [[]]
  | ('/', _) :: cs => [] :: splitSlashes cs
  | c :: cs => match splitSlashes cs with
    | part :: parts => (c :: part) :: parts
    | [] => [[c]]

/-- The paths that a field matches, in order, or the field itself if it is no pattern or
matches nothing. -/
def paths (f : Files) (field : Marked) : List String :=
  let own := String.ofList (field.map Prod.fst)
  if !Glob.isPattern field then [own] else
  match (pathsBelow f [""] (splitSlashes field)).mergeSort fun a b => decide (a ≤ b) with
  | [] => [own]
  | found => found

/-! ## Expansion -/

structure Place where
  /-- Its failure is a condition and so does not end a session that stops at failures. -/
  tested : Bool := false
  /-- The session ends with it. -/
  last : Bool := false
  deriving DecidableEq, Repr

structure Evaluator where
  /-- Runs a command and gives its status. -/
  run : Place → Command → Run Nat
  /-- Starts other programs. -/
  start : Runner
  /-- What a session does at its end. -/
  ending : Run Unit

structure Expanding where
  /-- Whether the word may give several fields. -/
  full : Bool := true
  quoted : Bool := false
  /-- Whether the word stands for a parameter that is missing: then its own text separates
  fields as well. -/
  inside : Bool := false
  /-- Whether a tilde counts after colons, too. -/
  assigns : Bool := false

namespace Run

def separators : Run String := do
  match (← session).named? "IFS" with
  | some ⟨some v, _, _⟩ => return v
  | _ => return " \t\n"

def optionLetters (s : Session) : String :=
  String.ofList ("ubaCEVvxsnmiIfe".toList.filter s.options.contains)

/-- The value of a parameter that is no row of arguments. -/
def parameter? (s : Session) (name : String) : Option String :=
  if name = "?" then some (toString s.status)
  else if name = "#" then some (toString s.arguments.length)
  else if name = "$" then some (toString s.process)
  else if name = "!" then s.background.map toString
  else if name = "-" then some (optionLetters s)
  else if name.toList.all Char.isDigit then
    match name.toNat? with
    | some 0 => some s.name
    | some n => s.arguments[n - 1]?
    | none => none
  else (s.bindings.lookup name).bind Variable.value

def burden (texts : List String) : Run Unit := do
  let s ← system
  let size := texts.foldl (fun n t => n + t.utf8ByteSize) 0
  let cost := texts.length - 1 + size / 10
  if s.patience < cost then throw .endless
  if 0 < cost then setSystem { s with patience := s.patience - cost }

/-- The letters of a parameter, unless it is not there. -/
def parameterLetters (e : Expanding) (name : String) : Run (Option (List Letter)) := do
  let s ← session
  let splits := e.full && !e.quoted
  if name = "@" || name = "*" then
    burden s.arguments
    if e.full && (name = "@" || !e.quoted) then
      let rows := s.arguments.map fun a =>
        if e.quoted then Letter.quotes :: Letter.ofText a true false else Letter.ofText a false splits
      return some ((rows.intersperse [.gap e.quoted]).flatten)
    else
      let between := match (← separators).toList with
        | c :: _ => [Letter.char c e.quoted false]
        | [] => []
      return some (((s.arguments.map fun a => Letter.ofText a e.quoted false).intersperse between).flatten)
  else match parameter? s name with
  | none => return none
  | some v =>
    burden [v]
    return some (Letter.ofText v e.quoted splits)

def home? (user : String) : Run (Option String) := do
  if user.isEmpty then value? "HOME"
  else return if user = "root" then some "/root" else none

/-- Text of a word with its tildes replaced: one at its start, and in assignments those after
colons. `ends` holds if nothing that is quoted or expanded follows. -/
def tildes (e : Expanding) (ends : Bool) : (steps : Nat) → (atStart : Bool) → List Char →
    Run (List Letter)
  | 0, _, _ => return []
  | steps + 1, atStart, cs => do
    let plain (c : Char) : Letter := .char c e.quoted (e.full && !e.quoted && e.inside)
    match cs with
    | [] => return []
    | '~' :: rest =>
      let stops (c : Char) : Bool := c == '/' || (e.assigns && c == ':')
      let user := rest.takeWhile fun c => !stops c
      let after := rest.drop user.length
      let found ← if atStart && (ends || !after.isEmpty) then home? (String.ofList user) else pure none
      match found with
      | some h => return Letter.ofText h true false ++ (← tildes e ends steps false after)
      | none => return plain '~' :: (← tildes e ends steps false rest)
    | c :: rest => return plain c :: (← tildes e ends steps (e.assigns && c == ':') rest)

def missing (name : String) (orEmpty : Bool) (text : Option String) : Run α := do
  match text with
  | some t => fail (name ++ ": " ++ t)
  | none => fail (name ++ ": parameter not set" ++ if orEmpty then " or null" else "")

def arithmetic (text : String) : Run Int := do
  let s ← session
  let b : Arithmetic.Bindings :=
    { values := s.bindings.filterMap fun e => e.2.value.map fun v => (e.1, v)
      readOnly := fun name => (s.named? name).any Variable.readonly }
  match Arithmetic.evaluate b text with
  | .error d => fail (d.message text)
  | .ok (n, assigned) =>
    assigned.reverse.forM fun a => assign a.1 (toString a.2)
    return n

/-- Runs some work in a process of its own: what it does to the session is forgotten. Gives
the fate. The text that it leaves for its end is run before it ends. -/
def apart (ending : Run Unit) (act : Run Nat) : Run Fate := do
  let s ← session
  modify fun m => { m with system := { m.system.burdened with processes := m.system.processes + 1 } }
  update fun s => { s with
    traps := s.traps.filter fun t => t.2.isEmpty && t.1 ≠ 0
    isCopy := true, jobs := [], loops := 0, skip := .none }
  let r ← attempt do
    let n ← act
    setStatus n
  let r ← match r with
    | .ok () => do attempt ending
    | .error .exit => do attempt ending
    | .error .mistake => do attempt ending
    | .error stop => pure (.error stop)
  let t ← session
  update fun _ => s
  noticeJobs
  match r with
  | .error (.killed n) => return .killed n
  | .error .endless => throw .endless
  | .error (.replaced fate) => return fate
  | _ => return .exited t.status

def captured (ending : Run Unit) (act : Run Nat) : Run (List Char × Fate) := do
  let before := (← session).descriptors
  let (s, reader, writer) := (← system).addPipe ""
  setSystem s
  update fun s => { s with descriptors := (1, writer) :: before.filter fun d => d.1 ≠ 1 }
  let fate ← apart ending act
  update fun s => { s with descriptors := before }
  match (← system).contents reader with
  | .ok (cs, false) => return (cs, fate)
  | .ok (_, true) => throw .endless
  | .error _ => return ([], fate)

def isOnlyArguments : List Part → Bool
  | [.parameter "@" .plain] => true
  | _ => false

mutual

def letters (ev : Evaluator) : (steps : Nat) → Expanding →
    (first : Bool) → Word → Run (List Letter)
  | 0, _, _, _ => throw .endless
  | _ + 1, _, _, [] => return []
  | steps + 1, e, first, p :: ps => do
    let front ← part ev steps e first ps.isEmpty p
    return front ++ (← letters ev steps e false ps)

/-- The letters of one part, the first of its word or not. -/
def part (ev : Evaluator) : (steps : Nat) → Expanding →
    (first last : Bool) → Part → Run (List Letter)
  | 0, _, _, _, _ => throw .endless
  | steps + 1, e, first, last, p => do
    let splits := e.full && !e.quoted
    match p with
    | .text s =>
      if e.quoted then return Letter.ofText s true false
      else tildes e last (s.length + 1) first s.toList
    | .quoted s => return .quotes :: Letter.ofText s true false
    | .double ps =>
      let inner ← letters ev steps { e with quoted := true } false ps
      return if isOnlyArguments ps && e.full then inner else .quotes :: inner
    | .output c =>
      let (cs, fate) ← captured ev.ending (ev.run {} c)
      update fun s => { s with substituted := fate.status }
      let kept := (cs.reverse.dropWhile (· == '\n')).reverse.filter (· != '\x00')
      return kept.map fun c => .char c e.quoted splits
    | .arithmetic ps =>
      let ls ← letters ev steps { e with quoted := true, full := false } false ps
      return Letter.ofText (toString (← arithmetic (Letter.text ls))) e.quoted splits
    | .parameter name op =>
      let value ← parameterLetters e name
      match op with
      | .malformed => fail "Bad substitution"
      | .plain => match value with
        | some ls => return ls
        | none => if ← option 'u' then missing name false none else return []
      | .length => match value with
        | some ls => return Letter.ofText (toString (Letter.text ls).length) e.quoted splits
        | none => if ← option 'u' then missing name false none else
          return Letter.ofText "0" e.quoted splits
      | .trim atEnd longest pattern => match value with
        | none => if ← option 'u' then missing name false none else return []
        | some ls =>
          let pattern ← letters ev steps { full := false } true pattern
          let glob := Glob.ofMarked (Letter.marked pattern)
          let cs := (Letter.text ls).toList
          let kept := if atEnd then Glob.trimEnd longest glob cs else Glob.trimStart longest glob cs
          return Letter.ofText (String.ofList kept) e.quoted splits
      | .fallback kind orEmpty w =>
        let there := match value with
          | none => false
          | some ls => !orEmpty || !(Letter.text ls).isEmpty
        match kind with
        | .instead =>
          if there then letters ev steps { e with inside := true } true w else return []
        | .default =>
          if there then return value.getD []
          else letters ev steps { e with inside := true } true w
        | .assign =>
          if there then return value.getD [] else
          let text := Letter.text (← letters ev steps { full := false, quoted := e.quoted } true w)
          if !isName name then fail (name ++ ": bad variable name") else
          assign name text
          return Letter.ofText text e.quoted splits
        | .complain =>
          if there then return value.getD [] else
          let text ← if w.isEmpty then pure none else do
            pure (some (Letter.text (← letters ev steps { full := false, quoted := e.quoted } true w)))
          missing name orEmpty text

end

end Run

namespace Evaluator

/-- How deep parts of words may be nested, and how many parts a word may have. -/
def maximalParts : Nat := 100000

def single (ev : Evaluator) (w : Word) (assigns : Bool := false) :
    Run (List Letter) :=
  Run.letters ev maximalParts { full := false, assigns } true w

def fields (ev : Evaluator) (w : Word) : Run (List String) := do
  let ls ← Run.letters ev maximalParts {} true w
  let fs := Letter.fields (← Run.separators) ls
  if ← Run.option 'f' then return fs.map Letter.text
  let files ← Run.files
  return fs.flatMap fun f => paths files (Letter.marked f)

end Evaluator

end DeltaDebugging.Shell
