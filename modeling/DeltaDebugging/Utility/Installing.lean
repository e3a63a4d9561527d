import DeltaDebugging.Utility.Copying
import DeltaDebugging.Utility.Owners

/-!
# Installing files

Files are copied to where they are to be used, with the mode and the owner they need there.
-/
namespace DeltaDebugging.Utility

open Program Paths

namespace Filing

/-- The mode of what is installed, if nothing else is said. -/
def installedMode : Nat := 0o755

structure Installing where
  copying : Copying
  mode : Nat := installedMode
  directoryMode : Nat := installedMode
  owner : Option (Nat × Nat) := none
  /-- A file that is there already as it should be is left alone. -/
  compares : Bool := false
  parents : Bool := false
  strips : Bool := false

/-- Makes a directory and those around it that are missing; whether it is there then. -/
def installDirectory (x : Installing) (path : String) : Program Bool := do
  let steps := beginnings path
  for (step, k) in steps.zipIdx 1 do
    let last := decide (k = steps.length)
    match ← found true step with
    | .ok (_, n, node) =>
      if !isDirectoryNode node then
        failed ("cannot create directory " ++ Text.literalQuote (if last then path else step))
          (if last then .present else .notDirectory)
        return false
      if last then setFiles ((← files).setProperties n fun d => { d with mode := x.directoryMode })
    | .error _ => match ← placeOf step with
      | .error e =>
        failed ("cannot create directory " ++ Text.literalQuote (if last then path else step)) e
        return false
      | .ok w =>
        if ((← files).find? w).isSome then
          failed ("cannot create directory " ++ Text.literalQuote step) .present
          return false
        setFiles ((← files).add w .directory (if last then x.directoryMode else installedMode)).1
        if x.copying.verbose then
          putLine ((← name) ++ ": creating directory " ++ Text.shellQuote step)
  return true

def isInstalled (x : Installing) (source target : String) : Program Bool := do
  match ← found false source, ← found false target with
  | .ok (_, _, ⟨.regular a, m, _⟩), .ok (_, n, ⟨.regular b, mode, _⟩) =>
    let owner := (← files).owner n
    return m < 0o1000 && mode = x.mode && a = b && x.owner.all fun o => decide (o = owner)
  | _, _ => return false

def installOne (x : Installing) (trail : Trail) (source target : String) : Program Trail := do
  if x.copying.keepsTimes then
    match ← found true source with
    | .error e =>
      failed ("cannot stat " ++ Text.shellQuote source) e
      return trail
    | .ok _ => pure ()
  if x.compares && x.mode < 0o1000 then
    if ← isInstalled x source target then return trail
  let trail ← copy x.copying maximalDepth [] source target { trail with source, target, begun := false }
  match x.owner, ← found true target with
  | some (user, group), .ok (_, n, _) => setFiles ((← files).setOwner n user group)
  | _, _ => pure ()
  if x.strips then
    refused "cannot run 'strip': No such file or directory"
    refused "strip process terminated abnormally"
  return trail

end Filing

open Filing Accounts

def install : Program Nat := do
  let p ← parsed
    { choices := ["c", "C,compare", "d,directory", "D", "g,group:", "m,mode:", "o,owner:", "p,preserve-timestamps",
        "s,strip", "strip-program:", "t,target-directory:", "T,no-target-directory", "v,verbose",
        "preserve-context", "Z", "context::"] ++ Backup.choices }
  let directories := p.has "d"
  if p.has "s" && directories then die "the strip option may not be used when installing a directory" 1
  if p.has "t" && directories then die "target directory not allowed when installing a directory" 1
  let backup ← Backup.ofOptions p
  match p.operands with
  | [] => misuse "missing file operand" 1
  | [source] =>
    if !directories && !p.has "t" then
      misuse ("missing destination file operand after " ++ Text.shellQuote source) 1
  | _ => pure ()
  let targetFault (path : String) : Program (Option FileFault) := do
    match ← found true path with
    | .error e => return some e
    | .ok (_, _, node) => return if isDirectoryNode node then none else some .notDirectory
  let mut r : Route := { sources := p.operands, target := "", into := false }
  if p.has "T" then
    if p.has "t" then die "cannot combine --target-directory (-t) and --no-target-directory (-T)" 1
    match p.operands with
    | _ :: _ :: extra :: _ => misuse ("extra operand " ++ Text.shellQuote extra) 1
    | _ => r := { sources := p.operands.dropLast, target := p.operands.getLastD "", into := false }
  else match p.value? "t" with
    | some directory =>
      r := { r with target := directory, into := true }
      match ← targetFault directory with
      | none => pure ()
      | some e => if !(p.has "D" && e = .notFound) then
          die ("failed to access " ++ Text.shellQuote directory ++ ": " ++ e.reason) 1
    | none =>
      if !directories then
        let target := p.operands.getLastD ""
        let fault ← targetFault target
        match fault with
        | none => r := { sources := p.operands.dropLast, target, into := true }
        | some e =>
          if 2 < p.operands.length then die ("target " ++ Text.shellQuote target ++ ": " ++ e.reason) 1
          r := { sources := p.operands.dropLast, target, into := false }
  let (mode, directoryMode) ← match p.value? "m" with
    | none => pure (installedMode, installedMode)
    | some text => match FileMode.read? text with
      | none => die ("invalid mode " ++ Text.literalQuote text) 1
      | some change => pure (change.apply 0 false 0, change.apply 0 true 0)
  if p.has "C" then
    if p.has "p" then misuse "options --compare (-C) and --preserve-timestamps are mutually exclusive" 1
    if p.has "s" then misuse "options --compare (-C) and --strip are mutually exclusive" 1
    if 0o1000 ≤ mode then
      complain "the --compare (-C) option is ignored when you specify a mode with non-permission bits"
  let f ← files
  let numbered (what : String) (accounts : List Account) (text : Option String) : Program (Option Nat) := do
    match text with
    | none => return none
    | some t => match number? accounts t with
      | some n => return some n
      | none => die ("invalid " ++ what ++ " " ++ Text.shellQuote t) 1
  let user ← numbered "user" (Accounts.users f) (p.value? "o")
  let group ← numbered "group" (Accounts.groups f) (p.value? "g")
  let copying : Copying :=
    { installs := true, removes := true, verbose := p.has "v", backup, mode := some mode, keepsTimes := p.has "p" }
  let x : Installing :=
    { copying, mode, directoryMode, compares := p.has "C", parents := p.has "D", strips := p.has "s"
      owner := if user.isNone && group.isNone then none else some (user.getD 0, group.getD 0) }
  if directories then
    for path in r.sources do
      if ← installDirectory x path then
        match x.owner, ← found true path with
        | some (user, group), .ok (_, n, _) => setFiles ((← files).setOwner n user group)
        | _, _ => pure ()
    return 0
  if x.parents then
    let around := if r.into then r.target else parent r.target
    let plain := { x with directoryMode := installedMode }
    if (← targetFault around).isSome then
      if !(← installDirectory plain around) then return 1
  let mut trail : Trail := { several := r.into && 1 < r.sources.length }
  for source in r.sources do trail ← installOne x trail source (r.of source)
  return 0

end DeltaDebugging.Utility
