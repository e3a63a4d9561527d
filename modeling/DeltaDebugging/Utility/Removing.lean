import DeltaDebugging.Utility.Filing

/-!
# Removing files and directories
-/
namespace DeltaDebugging.Utility

open Program Paths

namespace Filing

structure Removing where
  recursive : Bool
  force : Bool
  asks : Bool
  emptyDirectories : Bool
  verbose : Bool

def kindName : FileKind → String
  | .regular content => if content.isEmpty then "regular empty file" else "regular file"
  | .directory => "directory"
  | .link _ => "symbolic link"
  | .device _ => "character special file"
  | _ => "regular file"

/-- Removes a place; whether nothing was kept. -/
def removeAt (r : Removing) : (depth : Nat) → (path : String) → Way → FileNode → Program Bool
  | 0, _, _, _ => return true
  | depth + 1, path, w, node => do
    let shown := Text.shellQuote path
    if isDirectoryNode node then
      let names := (← files).children w
      if !names.isEmpty then
        if !r.recursive then
          failed ("cannot remove " ++ shown) .notEmpty
          return false
        if r.asks then
          if !(← confirmed ("descend into directory " ++ shown ++ "? ")) then return false
      let mut all := true
      for name in names do
        match ((← files).at? (w ++ [name])) with
        | some child =>
          if !(← removeAt r depth (below path name) (w ++ [name]) child) then all := false
        | none => pure ()
      if !all then return false
      if r.asks then
        if !(← confirmed ("remove directory " ++ shown ++ "? ")) then return false
      setFiles (cutOff (← files) w)
      if r.verbose then putLine ("removed directory " ++ shown)
      return true
    else
      if r.asks then
        if !(← confirmed ("remove " ++ kindName node.kind ++ " " ++ shown ++ "? ")) then return false
      setFiles ((← files).unlink w)
      if r.verbose then putLine ("removed " ++ shown)
      return true

end Filing

open Filing

def rm : Program Nat := do
  let p ← parsed
    { choices := ["d,dir", "f,force", "i", "I", "interactive::", "r,R,recursive", "v,verbose",
        "one-file-system", "no-preserve-root", "preserve-root::"] }
  let force := p.last? ["f", "i", "I"] = some "f"
  if p.operands.isEmpty then
    if force then return 0
    misuse "missing operand" 1
  let r : Removing :=
    { recursive := p.has "r", force, asks := p.last? ["f", "i", "I"] = some "i"
      emptyDirectories := p.has "d", verbose := p.has "v" }
  if p.last? ["f", "i", "I"] = some "I" && (r.recursive || 3 < p.operands.length) then
    let n := p.operands.length
    let question := "remove " ++ toString n ++ (if n = 1 then " argument" else " arguments") ++
      (if r.recursive then " recursively? " else "? ")
    if !(← confirmed question) then return 0
  for path in p.operands do
    let shown := Text.shellQuote path
    let last := base path
    if r.recursive && (last = "." || last = "..") then
      refused ("refusing to remove '.' or '..' directory: skipping " ++ shown)
    else
      match ← found false path with
      | .error e =>
        if !(r.force && (e = .notFound || e = .notDirectory)) then failed ("cannot remove " ++ shown) e
      | .ok (w, _, node) =>
        if w.isEmpty && r.recursive && !p.has "no-preserve-root" then
          complain "it is dangerous to operate recursively on '/'"
          complain "use --no-preserve-root to override this failsafe"
          raise 1
        else if isDirectoryNode node && !(r.recursive || r.emptyDirectories) then
          failed ("cannot remove " ++ shown) .isDirectory
        else
          let _ ← removeAt r maximalDepth path w node
  return 0

def unlink : Program Nat := do
  let p ← parsed { choices := [] }
  match p.operands with
  | [] => misuse "missing operand" 1
  | [path] => match ← found false path with
    | .error e => die ("cannot unlink " ++ Text.shellQuote path ++ ": " ++ e.reason) 1
    | .ok (w, _, node) =>
      if isDirectoryNode node then
        die ("cannot unlink " ++ Text.shellQuote path ++ ": " ++ FileFault.isDirectory.reason) 1
      setFiles ((← files).unlink w)
      return 0
  | _ :: extra :: _ => misuse ("extra operand " ++ Text.literalQuote extra) 1

def rmdir : Program Nat := do
  let p ← parsed { choices := ["ignore-fail-on-non-empty", "p,parents", "v,verbose"] }
  if p.operands.isEmpty then misuse "missing operand" 1
  for path in p.operands do
    let steps := if p.has "p" then path :: ((beginnings path).dropLast).reverse else [path]
    let mut stopped := false
    for (step, k) in steps.zipIdx do
      if !stopped then
        let shown := Text.shellQuote step
        let f ← files
        if p.has "v" then putLine ((← name) ++ ": removing directory, " ++ shown)
        let fault : Option FileFault := match f.locate false step with
          | .error e => some e
          | .ok (w, _, node) =>
            if !isDirectoryNode node then some .notDirectory
            else if base step = "." then some .invalid
            else if !(f.children w).isEmpty then some .notEmpty else none
        match fault, f.locate false step with
        | some e, _ =>
          stopped := true
          if !(e = .notEmpty && p.has "ignore-fail-on-non-empty") then
            failed ("failed to remove " ++ (if k = 0 then "" else "directory ") ++ shown) e
        | none, .ok (w, _, _) => setFiles (cutOff f w)
        | none, .error _ => pure ()
  return 0

end DeltaDebugging.Utility
