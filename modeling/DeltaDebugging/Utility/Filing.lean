import DeltaDebugging.Utility.Paths

/-!
# Work on the tree of files

What the programs that change the tree share: looking at paths, asking before something is lost,
and finding out which sources go to which targets. What is about to be replaced can be kept under
another name: with a suffix, or with a number that is greater than those of all earlier backups.
-/
namespace DeltaDebugging.Utility

open Program Paths

namespace Filing

/-- What a path names, with or without following a link at its end. -/
def found (follow : Bool) (path : String) : Program (Except FileFault (Way × Nat × FileNode)) := do
  return (← files).locate follow path

def isDirectoryNode (node : FileNode) : Bool := node.kind = .directory

/-- Asks a question, which is answered by a line of the standard input. -/
def confirmed (question : String) : Program Bool := do
  tell ((← name) ++ ": " ++ question)
  match ← opening? 0, ← inputSoFar with
  | some o, .ok (cs, _) =>
    let line := cs.takeWhile (· ≠ '\n')
    let used := if line.length < cs.length then line.length + 1 else line.length
    setSystem ((← system).consume o used (cs.drop used))
    return match line with
      | 'y' :: _ => true
      | 'Y' :: _ => true
      | _ => false
  | _, _ => return false

def cutOff (f : Files) (w : Way) : Files :=
  { f with entries := f.entries.filter fun e => !w.isPrefixOf e.1 }.noteChange w

/-- The operands of a program that works from sources to a target. -/
structure Route where
  sources : List String
  target : String
  /-- The sources go into the target, a directory. -/
  into : Bool

def Route.of (r : Route) (source : String) : String :=
  if r.into then below r.target (base source) else r.target

/-- Finds out what the sources are and where they go. -/
def route (p : Parsed) : Program Route := do
  match p.operands with
  | [] => misuse "missing file operand" 1
  | operands =>
    if p.has "t" && p.has "T" then
      die "cannot combine --target-directory (-t) and --no-target-directory (-T)" 1
    let asDirectory (what path : String) : Program Unit := do
      match ← found true path with
      | .ok (_, _, node) => if !isDirectoryNode node then
          die (what ++ " " ++ Text.shellQuote path ++ ": " ++ FileFault.notDirectory.reason) 1
      | .error e => die (what ++ " " ++ Text.shellQuote path ++ ": " ++ e.reason) 1
    match p.value? "t" with
    | some target =>
      asDirectory "target directory" target
      return { sources := operands, target, into := true }
    | none =>
      let target := (operands.getLast?).getD ""
      match operands with
      | [source] => misuse ("missing destination file operand after " ++ Text.shellQuote source) 1
      | [source, _] =>
        if p.has "T" then return { sources := [source], target, into := false }
        return { sources := [source], target, into := (← files).isDirectory target }
      | _ :: _ :: extra :: _ =>
        if p.has "T" then misuse ("extra operand " ++ Text.shellQuote extra) 1
        asDirectory "target" target
        return { sources := operands.dropLast, target, into := true }
      | [] => return { sources := [], target, into := false }

def failed (text : String) (e : FileFault) : Program Unit := do
  complain (text ++ ": " ++ e.reason)
  raise 1

def refused (text : String) : Program Unit := do
  complain text
  raise 1

def maximalDepth : Nat := 200

/-- The beginnings of a path that end with one of its names, from the shortest on. -/
def beginnings (path : String) : List String :=
  let bare := Files.withoutSlashes path
  let parts := bare.splitOn "/"
  ((List.range parts.length).map fun k => String.intercalate "/" (parts.take (k + 1))).filter
    fun (s : String) => !s.isEmpty

end Filing

inductive Keeping where
  | nothing
  | simple
  /-- Numbered if there are numbered ones already. -/
  | existing
  | numbered
  deriving DecidableEq, Repr

structure Backup where
  keeping : Keeping := .nothing
  suffix : String := "~"
  deriving DecidableEq, Repr

namespace Backup

def choices : List String := ["b", "backup::", "S,suffix:"]

def keepings : List (List String × Keeping) :=
  [(["none", "off"], .nothing), (["simple", "never"], .simple), (["existing", "nil"], .existing),
    (["numbered", "t"], .numbered)]

def ofOptions (p : Parsed) : Program Backup := do
  let environment := (← invocation).environment
  let suffix := ((p.value? "S").or (environment.lookup "SIMPLE_BACKUP_SUFFIX")).getD ""
  let suffix := if suffix.isEmpty || suffix.toList.contains '/' then "~" else suffix
  if (p.last? ["b", "backup", "S"]).isNone then return { suffix }
  let told := ((p.values "backup").filter fun w => !w.isEmpty).getLast?
  let subject := if told.isSome then "backup type" else "$VERSION_CONTROL"
  match told.or (environment.lookup "VERSION_CONTROL") with
  | none => return { keeping := .existing, suffix }
  | some "" => return { keeping := .existing, suffix }
  | some word =>
    let k ← wordAmong subject word (keepings.map Prod.fst)
    return { keeping := ((keepings[k]?).map Prod.snd).getD .existing, suffix }

def isWanted (b : Backup) : Bool := decide (b.keeping ≠ .nothing)

def number? (name kept : String) : Option Nat :=
  let start := name ++ ".~"
  if !start.toList.isPrefixOf kept.toList then none else
  match (kept.toList.drop start.length).reverse with
  | '~' :: digits =>
    let digits := digits.reverse
    if digits.head? = some '0' then none else natural? (String.ofList digits)
  | _ => none

def nameFor (b : Backup) (f : Files) (place : Way) : String :=
  let name := place.getLastD ""
  let highest := ((f.children place.dropLast).filterMap (number? name)).foldl max 0
  match b.keeping with
  | .numbered => name ++ ".~" ++ toString (highest + 1) ++ "~"
  | .existing => if highest = 0 then name ++ b.suffix else name ++ ".~" ++ toString (highest + 1) ++ "~"
  | _ => name ++ b.suffix

/-- Gives what is at a place the name of its backup, and tells that name. -/
def setAside (b : Backup) (place : Way) : Program String := do
  let f ← files
  let name := b.nameFor f place
  setFiles (f.move place (place.dropLast ++ [name]))
  return name

def renamed (path name : String) : String :=
  let bare := (Files.withoutSlashes path).toList
  String.ofList (bare.reverse.dropWhile (· ≠ '/')).reverse ++ name

end Backup

end DeltaDebugging.Utility
