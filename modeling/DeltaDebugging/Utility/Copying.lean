import DeltaDebugging.Utility.Filing

/-!
# Copying and moving files

A copy goes through what is below a directory, with or without following the links that it
meets. What is there already is written over, taken away, or kept as a backup; nothing is ever
copied over itself. A file is moved by giving it another name. What has the name so far is
replaced, if it is of the same kind and, for a directory, if there is nothing in it.
-/
namespace DeltaDebugging.Utility

open Program Paths

namespace Filing

/-- A file that was found: its place, its number and what it is. -/
abbrev Found := Way × Nat × FileNode

/-- When something that is there is replaced. -/
inductive Replacing where
  | always
  | asking
  | never
  deriving DecidableEq, Repr

inductive Following where
  | never
  /-- Those that are operands. -/
  | operands
  | always
  deriving DecidableEq, Repr

structure Copying where
  recursive : Bool := false
  following : Following := .always
  /-- Links are made in place of copies. -/
  hard : Bool := false
  symbolic : Bool := false
  verbose : Bool := false
  replacing : Replacing := .always
  /-- Only what is newer replaces something. -/
  newer : Bool := false
  backup : Backup := {}
  /-- What is there is taken away first, or only if it cannot be written to. -/
  removes : Bool := false
  force : Bool := false
  /-- Nothing is written into the copy. -/
  empty : Bool := false
  keepsTimes : Bool := false
  keepsOwner : Bool := false
  keepsLinks : Bool := false
  /-- The modes of sources are kept as they are, or not at all. -/
  keepsMode : Bool := false
  plainMode : Bool := false
  /-- The mode of every copy. -/
  mode : Option Nat := none
  /-- Whether this is the copying that an installation does. -/
  installs : Bool := false

/-- What copying so far has left behind. -/
structure Trail where
  /-- Whether there are several sources for one directory. -/
  several : Bool := false
  /-- The operand that is being copied, and where to. -/
  source : String := ""
  target : String := ""
  /-- Whether a directory was made for this operand. -/
  begun : Bool := false
  /-- Numbers of sources, and the paths of their copies. -/
  copied : List (Nat × String) := []
  /-- Operands that were copied, and the places that were filled for operands. -/
  read : List Way := []
  made : List Way := []

def announced (verbose : Bool) (source target : String) (backup : Option String := none) : Program Unit := do
  if verbose then putLine (Text.shellQuote source ++ " -> " ++ Text.shellQuote target ++
    match backup with
    | some name => " (backup: " ++ Text.shellQuote name ++ ")"
    | none => "")

def isLinkNode (node : FileNode) : Bool := node.kind matches .link _

/-- The place that a path names, whether something is there or not. -/
def placeOf (path : String) : Program (Except FileFault Way) := do
  return (← files).way false (Files.withoutSlashes path)

def samePlace (a b : String) : Program Bool := do
  match ← placeOf a, ← placeOf b with
  | .ok v, .ok w => return v = w
  | _, _ => return false

def nameCount (f : Files) (number : Nat) : Nat := f.entries.countP fun e => e.2 = number

inductive Meeting where
  | fine
  /-- There is nothing to do. -/
  | done
  | refused
  deriving DecidableEq, Repr

/-- Whether a target may be replaced by a source, which could be the same file. -/
def meeting (c : Copying) (moves : Bool) (source target : String) (src dst : Found) : Program Meeting := do
  let f ← files
  let same := decide (src.2.1 = dst.2.1)
  if same && c.hard then return .done
  let sameName ← samePlace source target
  let keeps := c.backup.isWanted
  let follows := decide (c.following ≠ .never)
  let linked (e : Found) : Bool := isLinkNode e.2.2
  if !follows && linked src && linked dst then
    if sameName then return .refused
    if keeps || !same then return .fine
    return if moves then .refused else .done
  if follows && !same then return .fine
  let ends : Option (Found × Found) :=
    if !follows then some (src, dst)
    else match f.locate false source, f.locate false target with
      | .ok a, .ok b => some (a, b)
      | _, _ => none
  match ends with
  | none => return .fine
  | some (s, d) =>
    let sameLink := decide (s.2.1 = d.2.1)
    if follows && linked s && linked d && c.removes then return .fine
    if keeps then
      if !sameLink then
        return if !moves && follows && linked s && !linked d then .refused else .fine
      return if sameName then .refused else .fine
    if moves || c.removes then
      if linked d then return .fine
      if sameLink && 1 < nameCount f d.2.1 && !sameName then return if moves then .refused else .fine
    if !linked s && !linked d then
      if !sameLink then return .fine
      if c.hard then return .done
    if moves && linked src && 1 < nameCount f d.2.1 then
      match f.way true source with
      | .ok w => return if some w = (f.way false target).toOption then .refused else .fine
      | .error _ => pure ()
    if c.symbolic && linked d then return .fine
    if !follows then
      match f.locate true source, f.locate true target with
      | .ok a, .ok b =>
        if a.2.1 ≠ b.2.1 then return .fine
        if c.hard then return if linked d then .fine else .done
      | _, _ => return .fine
    return .refused

/-- Whether a source stands where the backup of a target would be put. -/
def isBackupOf (b : Backup) (source target : String) (src : Found) : Program Bool := do
  if base source ≠ base target ++ b.suffix then return false
  match ← found true (Files.withoutSlashes target ++ b.suffix) with
  | .ok e => return e.2.1 = src.2.1
  | .error _ => return false

def finishCopy (c : Copying) (isNew : Bool) (number : Nat) (node : FileNode) (place : Way) : Program Unit := do
  let f ← files
  match f.find? place with
  | none => return
  | some n =>
    let plain ← masked (if isDirectoryNode node then 0o777 else 0o666)
    let (user, group) := f.owner number
    let f := if c.keepsOwner then f.setOwner n user group else f
    setFiles (f.setProperties n fun copy =>
      { copy with
        changed := if c.keepsTimes then node.changed else copy.changed
        mode := match c.mode with
          | some m => m
          | none => if isLinkNode copy then copy.mode else if c.keepsMode then node.mode
            else if c.plainMode && isNew then plain else copy.mode })

/-- Copies the content of a file; whether that could be done. -/
def copyContent (c : Copying) (source target : String) (node : FileNode) (isNew : Bool) : Program Bool := do
  let (src, dst) := (Text.shellQuote source, Text.shellQuote target)
  match ← openPath source .toRead with
  | .ok _ => pure ()
  | .error e =>
    failed ("cannot open " ++ src ++ " for reading") e
    return false
  let mode := (c.mode.getD node.mode) % 512
  let create : Program (Option FileFault) := do
    if target.toList.getLast? = some '/' then return some .notDirectory
    match ← openPath target { System.Access.toReplace with mode, truncates := !c.empty } with
    | .ok o => return ← setDown o
    | .error e => return some e
  if isNew then
    if ((← found false target).toOption).any fun e => isLinkNode e.2.2 then
      refused ("not writing through dangling symlink " ++ dst)
      return false
  let failure ← create
  match failure with
  | none => return true
  | some e =>
    if e = .noSpace then failed ("error writing " ++ dst) e
    else if !isNew && c.force then
      match ← placeOf target with
      | .error e => failed ("cannot remove " ++ dst) e
      | .ok w =>
        setFiles ((← files).unlink w)
        if c.verbose then putLine ("removed " ++ dst)
        match ← create with
        | none => return true
        | some e => failed ("cannot create regular file " ++ dst) e
    else failed ("cannot create regular file " ++ dst) e
    return false
where
  setDown (o : Nat) : Program (Option FileFault) := do
    if c.empty then return none
    match ← contentOf source with
    | .error e =>
      failed ("error reading " ++ Text.shellQuote source) e.fault
      return none
    | .ok content => match (← system).write o (String.ofList content) with
      | .ok s =>
        setSystem s
        return none
      | .error e => return some e

/-- Copies one source to one target. The numbers of the directories around the source are given. -/
def copy (c : Copying) : (depth : Nat) → (above : List Nat) → (source target : String) → Trail → Program Trail
  | 0, _, _, _, trail => return trail
  | depth + 1, above, source, target, trail => do
    let top := above.isEmpty
    let (src, dst) := (Text.shellQuote source, Text.shellQuote target)
    match ← found (c.following ≠ .never) source with
    | .error e =>
      failed ("cannot stat " ++ src) e
      return trail
    | .ok there =>
    let follows := c.following = .always || (c.following = .operands && top)
    let there ← if follows then pure there else do
      match ← found false source with
      | .ok e => pure e
      | .error _ => pure there
    let (way, number, node) := there
    let isDirectory := isDirectoryNode node
    if isDirectory && !c.recursive then
      refused ((if c.installs then "" else "-r not specified; ") ++ "omitting directory " ++ src)
      return trail
    if top && trail.several && !isDirectory && !c.backup.isWanted && trail.read.contains way then
      complain ("warning: source file " ++ src ++ " specified more than once")
      return trail
    let trail := if top then { trail with read := way :: trail.read } else trail
    let special := !(node.kind matches .regular _) && (c.recursive || isDirectory || isLinkNode node)
    let before ← found (!(special || c.symbolic || c.hard || c.backup.isWanted || c.removes)) target
    match before with
    | .error e =>
      if e ≠ .notFound && !(e = .manyLinks && c.force) then
        failed ("cannot stat " ++ dst) e
        return trail
    | .ok old =>
      if c.replacing ≠ .never then
        match ← meeting c false source target there old with
        | .refused =>
          refused (src ++ " and " ++ dst ++ " are the same file")
          return trail
        | .done => return trail
        | .fine => pure ()
      if c.newer && !isDirectory && node.changed ≤ old.2.2.changed then return trail
      if !isDirectory then
        if c.replacing = .never then return trail
        if c.replacing = .asking then
          if !(← confirmed ("overwrite " ++ dst ++ "? ")) then return trail
      if !isDirectoryNode old.2.2 then
        if isDirectory then
          refused ("cannot overwrite non-directory " ++ dst ++ " with directory " ++ src)
          return trail
        if top && trail.several && c.backup.keeping ≠ .numbered && trail.made.contains old.1 then
          refused ("will not overwrite just-created " ++ dst ++ " with " ++ src)
          return trail
      else if !isDirectory then
        refused ("cannot overwrite directory " ++ dst ++ " with non-directory")
        return trail
    let place ← match ← placeOf target with
      | .ok w => pure w
      | .error _ => pure []
    let mut old := before.toOption
    let mut kept : Option String := none
    let mut aside : Option Way := none
    match old with
    | none => pure ()
    | some o =>
      let isDot := base source = "." || base source = ".."
      if c.backup.isWanted && !isDot && !isDirectoryNode o.2.2 then
        let clash ← if c.backup.keeping = .numbered then pure false else isBackupOf c.backup source target there
        if clash then
          refused ("backing up " ++ dst ++ " might destroy source;  " ++ src ++ " not copied")
          return trail
        let name ← c.backup.setAside place
        kept := some (Backup.renamed target name)
        aside := some (place.dropLast ++ [name])
        old := none
      else if !isDirectoryNode o.2.2 && (c.removes || (!c.empty &&
          ((c.keepsLinks && 1 < nameCount (← files) o.2.1) ||
            (c.following = .never && !(node.kind matches .regular _))))) then
        setFiles ((← files).unlink place)
        old := none
        if c.verbose then putLine ("removed " ++ dst)
    if !isDirectory then announced c.verbose source target kept
    let giveUp (trail : Trail) : Program Trail := do
      match aside, kept with
      | some w, some name =>
        setFiles ((← files).move w place)
        if c.verbose then putLine (Text.shellQuote name ++ " -> " ++ dst ++ " (unbackup)")
      | _, _ => pure ()
      return trail
    -- a file that was copied already is linked to its copy
    let names := nameCount (← files) number
    let remembers := if isDirectory then c.recursive
      else c.keepsLinks && !c.hard && (1 < names || (follows && c.following ≠ .never))
    let earlier := if remembers then trail.copied.lookup number else none
    let trail := if remembers && earlier.isNone && (top || !isDirectory) then
        { trail with copied := (number, target) :: trail.copied } else trail
    match earlier with
    | some path =>
      if !isDirectory then
        match ← found false path with
        | .ok (_, n, _) =>
          setFiles (((← files).unlink place).link place n)
          if old.isSome && c.verbose then putLine ("removed " ++ dst)
        | .error e => failed ("cannot create hard link " ++ dst ++ " to " ++ Text.shellQuote path) e
        return trail
      if ← samePlace source path then
        refused ("cannot copy a directory, " ++ Text.shellQuote trail.source ++ ", into itself, " ++
          Text.shellQuote trail.target)
        return trail
      if ← samePlace target path then
        complain ("warning: source directory " ++ Text.shellQuote trail.source ++ " specified more than once")
        return trail
      if !follows then
        refused ("will not create hard link " ++ Text.shellQuote trail.target ++ " to directory " ++
          Text.shellQuote path)
        return trail
    | none => pure ()
    if isDirectory then
      if above.contains number then
        refused ("cannot copy cyclic symbolic link " ++ src)
        return trail
      let mut trail := trail
      let isNew := old.isNone
      if isNew then
        match (← files).way false (Files.withoutSlashes target) with
        | .error e =>
          failed ("cannot create directory " ++ dst) e
          return trail
        | .ok _ =>
          let (f, made) := (← files).add place .directory (← masked node.mode)
          setFiles f
          if !trail.begun then
            trail := { trail with begun := true, copied := (made, target) :: trail.copied }
          announced c.verbose source target
      for child in (← files).children way do
        trail ← copy c depth (number :: above) (below source child) (below target child) trail
      finishCopy c isNew number node place
      return trail
    let trail := if top && trail.several then { trail with made := place :: trail.made } else trail
    if c.symbolic then
      if !Files.isAbsolute source && place.dropLast ≠ (← files).directory then
        refused (Text.shellName target ++ ": can make relative symbolic links only in current directory")
        return ← giveUp trail
      let fault := if place.isEmpty then some FileFault.notFound
        else if old.isSome && !c.force then some .present else none
      match fault with
      | some e =>
        failed ("cannot create symbolic link " ++ dst ++ " to " ++ src) e
        giveUp trail
      | none =>
        setFiles (((← files).unlink place).add place (.link source) 0o777).1
        return trail
    else if c.hard then
      let fault := if place.isEmpty then some FileFault.notFound
        else if old.isSome && !(c.force || c.replacing = .asking) then some .present else none
      match fault with
      | some e =>
        failed ("cannot create hard link " ++ dst ++ " to " ++ src) e
        giveUp trail
      | none =>
        setFiles (((← files).unlink place).link place number)
        return trail
    else match node.kind with
      | .link route =>
        let fault := if place.isEmpty then some FileFault.notFound
          else if old.isSome && !c.force then some .present else none
        match fault with
        | some e =>
          failed ("cannot create symbolic link " ++ dst) e
          giveUp trail
        | none =>
          setFiles (((← files).unlink place).add place (.link route) 0o777).1
          finishCopy c true number node place
          return trail
      | kind =>
        if special then
          if place.isEmpty then
            failed ((if kind matches .fifo _ then "cannot create fifo " else "cannot create special file ") ++ dst)
              .notFound
            return ← giveUp trail
          let kind := if kind matches .fifo _ then FileKind.fifo "" else kind
          setFiles (((← files).unlink place).add place kind (← masked node.mode)).1
          finishCopy c true number node place
          return trail
        if ← copyContent c source target node old.isNone then
          match ← found true target with
          | .ok (w, _, copied) =>
            if copied.kind matches .regular _ then finishCopy c old.isNone number node w
          | .error _ => pure ()
          return trail
        giveUp trail

/-- Makes the directories around a target that are missing, each as the one of a source is. -/
def makeParents (c : Copying) (directory source : String) : Program Bool := do
  for step in (beginnings source).dropLast do
    let target := below directory (String.ofList (step.toList.dropWhile (· = '/')))
    match ← found true target with
    | .ok (_, _, node) =>
      if !isDirectoryNode node then
        refused (Text.shellQuote target ++ " exists but is not a directory")
        return false
    | .error _ => match ← found true step with
      | .error e =>
        failed ("failed to get attributes of " ++ Text.shellQuote step) e
        return false
      | .ok (_, source, model) => match ← placeOf target with
        | .error e =>
          failed ("cannot make directory " ++ Text.shellQuote target) e
          return false
        | .ok place =>
          setFiles ((← files).add place .directory (← masked model.mode)).1
          if c.verbose then putLine (step ++ " -> " ++ target)
          finishCopy c true source model place
  return true

def copyAll (c : Copying) (r : Route) (parents : Bool := false) : Program Unit := do
  let mut trail : Trail := { several := r.into && 1 < r.sources.length }
  for source in r.sources do
    let target := if parents then
        below r.target (String.ofList ((Files.withoutSlashes source).toList.dropWhile (· = '/')))
      else if r.into && base source = ".." then below r.target "."
      else r.of source
    let ready ← if parents then makeParents c r.target source else pure true
    if ready then
      trail ← copy c maximalDepth [] source target { trail with source, target, begun := false }

def replacing (p : Parsed) : Replacing := match p.last? ["f", "i", "n"] with
  | some "i" => .asking
  | some "n" => .never
  | _ => .always

/-- Checks that backups go together with what else was asked for. -/
def checkBackup (p : Parsed) : Program Unit := do
  if (p.last? ["b", "backup", "S"]).isSome && replacing p = .never then
    misuse "options --backup and --no-clobber are mutually exclusive" 1

/-- The sources without slashes at their ends, if that is asked for. -/
def stripped (p : Parsed) (r : Route) : Route :=
  if !p.has "strip-trailing-slashes" then r else
  { r with sources := r.sources.map fun s =>
      let bare := Files.withoutSlashes s
      if bare.isEmpty then s else bare }

def attributes : List String :=
  ["mode", "timestamps", "ownership", "links", "context", "xattr", "all"]

def keepAttributes (c : Copying) : List Given → Program Copying
  | [] => return c
  | o :: rest => do
    let listed (option : String) : Program (List String) :=
      (o.value.splitOn ",").mapM fun (w : String) => do
        let k ← wordChoice option w (attributes.map fun a => [a])
        return attributes.getD k ""
    let set (on : Bool) (c : Copying) (what : String) : Copying :=
      let every := decide (what = "all")
      { c with
        keepsMode := if every || what = "mode" then on else c.keepsMode
        plainMode := if every || what = "mode" then !on else c.plainMode
        keepsTimes := if every || what = "timestamps" then on else c.keepsTimes
        keepsOwner := if every || what = "ownership" then on else c.keepsOwner
        keepsLinks := if every || what = "links" then on else c.keepsLinks }
    let main := ["mode", "timestamps", "ownership"]
    match o.key with
    | "a" => keepAttributes (set true { c with recursive := true, following := .never } "all") rest
    | "d" => keepAttributes { c with keepsLinks := true, following := .never } rest
    | "p" => keepAttributes (main.foldl (set true) c) rest
    | "preserve" =>
      let words ← if o.value.isEmpty then pure main else listed "preserve"
      if words.contains "context" then
        die "cannot preserve security context without an SELinux-enabled kernel" 1
      keepAttributes (words.foldl (set true) c) rest
    | "no-preserve" =>
      let words ← listed "no-preserve"
      keepAttributes (words.foldl (set false) c) rest
    | "sparse" =>
      let _ ← wordChoice "sparse" o.value [["never"], ["auto"], ["always"]]
      keepAttributes c rest
    | "reflink" =>
      if !o.value.isEmpty then
        let _ ← wordChoice "reflink" o.value [["auto"], ["always"], ["never"]]
      keepAttributes c rest
    | _ => keepAttributes c rest

def moveOne (c : Copying) (several : Bool) (made : List Way) (source target : String) :
    Program (List Way) := do
  let (src, dst) := (Text.shellQuote source, Text.shellQuote target)
  let both := src ++ " to " ++ dst
  match ← found false source with
  | .error e =>
    failed ("cannot stat " ++ src) e
    return made
  | .ok there =>
  let (way, _, node) := there
  let isDirectory := isDirectoryNode node
  match ← placeOf target with
  | .error e =>
    if e = .notFound then failed ("cannot move " ++ both) e else failed ("cannot stat " ++ dst) e
    return made
  | .ok place =>
  let mut kept : Option String := none
  match ← found false target with
  | .error e =>
    if e ≠ .notFound then
      failed ("cannot stat " ++ dst) e
      return made
    if !isDirectory && target.toList.getLast? = some '/' then
      failed ("cannot move " ++ both) .notDirectory
      return made
  | .ok old =>
    let toDirectory := isDirectoryNode old.2.2
    if c.replacing ≠ .never then
      match ← meeting c true source target there old with
      | .refused =>
        refused (src ++ " and " ++ dst ++ " are the same file")
        return made
      | .done => return made
      | .fine => pure ()
    if c.newer && !isDirectory && node.changed ≤ old.2.2.changed then return made
    if c.replacing = .never then return made
    if c.replacing = .asking then
      if !(← confirmed ("overwrite " ++ dst ++ "? ")) then return made
    if !toDirectory then
      if isDirectory && !c.backup.isWanted then
        refused ("cannot overwrite non-directory " ++ dst ++ " with directory " ++ src)
        return made
      if several && c.backup.keeping ≠ .numbered && made.contains old.1 then
        refused ("will not overwrite just-created " ++ dst ++ " with " ++ src)
        return made
    else if !isDirectory && !c.backup.isWanted then
      refused ("cannot overwrite directory " ++ dst ++ " with non-directory")
      return made
    let isDot := base source = "." || base source = ".."
    if c.backup.isWanted && !isDot then
      let clash ← if c.backup.keeping = .numbered then pure false else isBackupOf c.backup source target there
      if clash then
        refused ("backing up " ++ dst ++ " might destroy source;  " ++ src ++ " not moved")
        return made
      if !way.isPrefixOf place || way = place then
        let name ← c.backup.setAside place
        kept := some (Backup.renamed target name)
    else if isDirectory && !way.isPrefixOf place && !((← files).children place).isEmpty then
      failed ("cannot move " ++ both) .notEmpty
      return made
  if isDirectory && way.isPrefixOf place then
    if base source = "." || base source = ".." then failed ("cannot move " ++ both) .busy
    else refused ("cannot move " ++ src ++ " to a subdirectory of itself, " ++ dst)
    return made
  setFiles ((← files).move way place)
  if c.verbose then
    put "renamed "
    announced true source target kept
  return place :: made

end Filing

open Filing

def cp : Program Nat := do
  let p ← parsed
    { choices := ["a,archive", "attributes-only", "copy-contents", "d", "f,force", "i,interactive", "H", "l,link",
        "L,dereference", "n,no-clobber", "P,no-dereference", "no-preserve:", "p", "parents,path", "preserve::",
        "r,R,recursive", "remove-destination", "s,symbolic-link", "strip-trailing-slashes",
        "t,target-directory:", "T,no-target-directory", "u,update", "v,verbose", "x,one-file-system",
        "sparse:", "reflink::", "Z", "context::"] ++ Backup.choices }
  let c ← keepAttributes {} p.options
  let recursive := c.recursive || p.has "r"
  let following : Following := match p.last? ["a", "d", "P", "H", "L"] with
    | some "L" => .always
    | some "H" => .operands
    | some _ => .never
    | none => if recursive && !p.has "l" then .never else .always
  let c := { c with
    recursive, following, hard := p.has "l", symbolic := p.has "s", verbose := p.has "v"
    replacing := replacing p, newer := p.has "u" && replacing p ≠ Replacing.never, force := p.has "f"
    removes := p.has "remove-destination" || (p.has "f" && (p.has "l" || p.has "s"))
    empty := p.has "attributes-only" }
  if c.hard && c.symbolic then misuse "cannot make both hard and symbolic links" 1
  checkBackup p
  let c := { c with backup := ← Backup.ofOptions p }
  let r := stripped p (← route p)
  let parents := p.has "parents"
  if parents && !r.into then misuse "with --parents, the destination must be a directory" 1
  match r.sources with
  | [source] =>
    if !r.into && c.force && c.backup.isWanted && source = r.target then
      match ← found true r.target with
      | .ok (w, _, ⟨.regular _, _, _⟩) =>
        let target := Backup.renamed r.target (c.backup.nameFor (← files) w)
        copyAll { c with backup := {} } { r with target }
        return 0
      | _ => pure ()
  | _ => pure ()
  copyAll c r parents
  return 0

def mv : Program Nat := do
  let p ← parsed
    { choices := ["f,force", "i,interactive", "n,no-clobber", "t,target-directory:",
        "T,no-target-directory", "u,update", "v,verbose", "strip-trailing-slashes", "Z,context"] ++
        Backup.choices }
  let r ← route p
  let r := stripped p r
  checkBackup p
  let c : Copying :=
    { following := .never, verbose := p.has "v", replacing := replacing p
      newer := p.has "u" && replacing p ≠ Replacing.never, backup := ← Backup.ofOptions p }
  let mut made : List Way := []
  for source in r.sources do
    made ← moveOne c (r.into && 1 < r.sources.length) made source (r.of source)
  return 0

end DeltaDebugging.Utility
