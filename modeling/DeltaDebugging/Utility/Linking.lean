import DeltaDebugging.Utility.Copying

/-!
# Linking files

A hard link is one more name of a file; a symbolic one is a file that holds a path.
-/
namespace DeltaDebugging.Utility

open Program Paths

namespace Filing

structure Linking where
  symbolic : Bool := false
  relative : Bool := false
  /-- The links that sources are get followed. -/
  follows : Bool := false
  force : Bool := false
  asks : Bool := false
  verbose : Bool := false
  backup : Backup := {}

/-- The path to a source as it is seen from the directory of a target. -/
def relativeSource (source target : String) : Program String := do
  let f ← files
  match resolve f .nothing (parent target), resolve f .nothing source with
  | .ok start, .ok goal => return relative start goal
  | _, _ => return source

/-- Makes a link to one source, and tells the place of a hard link. `made` are those so far. -/
def linkOne (l : Linking) (made : List Way) (source target : String) : Program (List Way) := do
  let dst := Text.shellQuote target
  -- a hard link is made to what is there
  let goal ← if l.symbolic then pure none else do
    match ← found l.follows source with
    | .error e =>
      failed ("failed to access " ++ Text.shellQuote source) e
      return made
    | .ok (_, n, node) =>
      if isDirectoryNode node then
        refused (Text.shellName source ++ ": hard link not allowed for directory")
        return made
      pure (some n)
  let written ← if l.relative then relativeSource source target else pure source
  let what := "failed to create " ++ (if l.symbolic then "symbolic" else "hard") ++ " link " ++ dst
  let refuse (e : FileFault) : Program Unit :=
    failed (what ++ (if l.symbolic then if written.isEmpty || e = .nameTooLong then " -> " ++ Text.shellQuote written else ""
      else if e = .present then "" else " => " ++ Text.shellQuote source)) e
  let clears := l.force || l.asks || l.backup.isWanted
  match ← placeOf target with
  | .error e =>
    if clears && e ≠ .notFound then failed ("failed to access " ++ dst) e else refuse e
    return made
  | .ok place =>
  if l.symbolic && written.isEmpty then
    refuse .notFound
    return made
  let slashed := target.toList.getLast? = some '/'
  let mut kept : Option String := none
  match ← found false target with
  | .error e =>
    if clears && e ≠ .notFound then
      failed ("failed to access " ++ dst) e
      return made
    if slashed || e ≠ .notFound then
      refuse e
      return made
  | .ok (_, old, node) =>
    if !clears then
      refuse .present
      return made
    if isDirectoryNode node then
      refused (Text.shellName target ++ ": cannot overwrite directory")
      return made
    if made.contains place then
      refused ("will not overwrite just-created " ++ dst ++ " with " ++ Text.shellQuote source)
      return made
    let number ← if l.symbolic then pure (((← found true source).toOption).map fun e => e.2.1) else pure goal
    if number = some old then
      let sameName ← samePlace source target
      if nameCount (← files) old = 1 || sameName then
        refused (Text.shellQuote written ++ " and " ++ dst ++ " are the same file")
        return made
    if l.asks then
      if !(← confirmed ("replace " ++ dst ++ "? ")) then return made
    if l.backup.isWanted then
      let name ← l.backup.setAside place
      kept := some (Backup.renamed target name)
    else setFiles ((← files).unlink place)
  match goal with
  | some n => setFiles ((← files).link place n)
  | none => setFiles ((← files).add place (.link written) 0o777).1
  if l.verbose then
    let before := match kept with
      | some name => Text.shellQuote name ++ " ~ "
      | none => ""
    putLine (before ++ dst ++ (if l.symbolic then " -> " else " => ") ++ Text.shellQuote written)
  return if l.symbolic then made else place :: made

end Filing

open Filing

def ln : Program Nat := do
  let p ← parsed
    { choices := ["d,F,directory", "f,force", "i,interactive", "L,logical", "n,no-dereference",
        "P,physical", "r,relative", "s,symbolic", "t,target-directory:", "T,no-target-directory",
        "v,verbose"] ++ Backup.choices }
  if p.operands.isEmpty then misuse "missing file operand" 1
  let symbolic := p.has "s"
  if p.has "r" && !symbolic then die "cannot do --relative without --symbolic" 1
  let l : Linking :=
    { symbolic, relative := p.has "r", follows := p.last? ["L", "P"] = some "L"
      force := p.last? ["f", "i"] = some "f", asks := p.last? ["f", "i"] = some "i", verbose := p.has "v" }
  let into (directory : String) (sources : List String) : Program Route := do
    return { sources, target := directory, into := true }
  let isDirectory (path : String) : Program (Except FileFault Unit) := do
    match ← found (!p.has "n") path with
    | .error e => return .error e
    | .ok (_, _, node) => return if isDirectoryNode node then .ok () else .error .notDirectory
  let r ← match p.operands, p.value? "t" with
    | sources, some directory =>
      if p.has "T" then die "cannot combine --target-directory and --no-target-directory" 1
      match ← isDirectory directory with
      | .ok () => into directory sources
      | .error e => die ("target " ++ Text.shellQuote directory ++ ": " ++ e.reason) 1
    | [source], none =>
      if p.has "T" then misuse ("missing destination file operand after " ++ Text.shellQuote source) 1
      into "." [source]
    | [source, target], none =>
      let isInto := !p.has "T" && (← isDirectory target) matches .ok ()
      pure { sources := [source], target, into := isInto }
    | operands, none =>
      if p.has "T" then misuse ("extra operand " ++ Text.shellQuote (operands.getD 2 "")) 1
      let directory := operands.getLastD ""
      match ← isDirectory directory with
      | .ok () => into directory operands.dropLast
      | .error e => die ("target " ++ Text.shellQuote directory ++ ": " ++ e.reason) 1
  let l := { l with backup := ← Backup.ofOptions p }
  let guarded := r.into && 1 < r.sources.length && l.force && !symbolic && l.backup.keeping ≠ .numbered
  let mut made : List Way := []
  for source in r.sources do
    let now ← linkOne l made source (r.of source)
    if guarded then made := now
  return 0

end DeltaDebugging.Utility
