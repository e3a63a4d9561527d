import DeltaDebugging.Utility.Accounts
import DeltaDebugging.Utility.Filing

/-!
# Changing the owners of files
-/
namespace DeltaDebugging.Utility

open Program Paths Filing Accounts

namespace Filing

structure Owning where
  owner : Owner
  /-- The owner that files have to have so far, if only such are to change. -/
  present : Owner := {}
  verbose : Bool := false
  changes : Bool := false
  quiet : Bool := false
  recursive : Bool := false
  /-- Links are followed, as operands or wherever they are met. -/
  follows : Bool := true
  operandsFollowed : Bool := true
  allFollowed : Bool := false
  /-- Whether only groups are spoken of. -/
  groups : Bool := false

def ownerWord (user group : Option String) : Option String :=
  match user, group with
  | some u, some g => some (u ++ ":" ++ g)
  | some u, none => some u
  | none, g => g

/-- What is said of a file whose owner is now as it was wanted. -/
def ownerLine (o : Owning) (f : Files) (path : String) (before : Nat × Nat) (changed : Bool) : String :=
  let shown := Text.shellQuote path
  let (user, group) := (o.owner.userName, o.owner.groupName)
  let now := (ownerWord user group).getD ""
  let old := (ownerWord (user.map fun _ => nameOf (users f) before.1)
    (group.map fun _ => nameOf (Accounts.groups f) before.2)).getD ""
  if changed then
    if user.isSome then "changed ownership of " ++ shown ++ " from " ++ old ++ " to " ++ now
    else if group.isSome then "changed group of " ++ shown ++ " from " ++ old ++ " to " ++ now
    else "no change to ownership of " ++ shown
  else if user.isSome then "ownership of " ++ shown ++ " retained as " ++ old
  else if group.isSome then "group of " ++ shown ++ " retained as " ++ old
  else "ownership of " ++ shown ++ " retained"

/-- Changes the owner of what a path names, and of all below it if that is wanted. -/
def own (o : Owning) : (depth : Nat) → (top : Bool) → String → Program Unit
  | 0, _, _ => return
  | depth + 1, top, path => do
    let shown := Text.shellQuote path
    let follow := if o.recursive then o.allFollowed || (top && o.operandsFollowed) else o.follows
    match ← found follow path with
    | .error e =>
      raise 1
      let dangling := ((← found false path).toOption).isSome
      if !o.quiet then
        complain ((if dangling && e = .notFound then "cannot dereference " else "cannot access ") ++ shown ++ ": " ++
          e.reason)
      if o.verbose then
        let goal := (ownerWord o.owner.userName o.owner.groupName).getD ""
        putLine (if o.owner.userName.isSome then "failed to change ownership of " ++ shown ++ " to " ++ goal
          else if o.owner.groupName.isSome then "failed to change group of " ++ shown ++ " to " ++ goal
          else "failed to change ownership of " ++ shown)
    | .ok (w, n, node) =>
      let f ← files
      let before := f.owner n
      let fits (wanted : Option Nat) (has : Nat) : Bool := wanted.all fun k => decide (k = has)
      if o.recursive && isDirectoryNode node then
        for child in f.children w do own o depth false (below path child)
      if fits o.present.user before.1 && fits o.present.group before.2 then
        let now := (o.owner.user.getD before.1, o.owner.group.getD before.2)
        setFiles ((← files).setOwner n now.1 now.2)
        let changed := decide (now ≠ before)
        if o.verbose || (o.changes && changed) then putLine (ownerLine o f path before changed)
      else if o.verbose then putLine (ownerLine o f path before false)

def owningChoices : List String :=
  ["c,changes", "dereference", "f,quiet,silent", "h,no-dereference", "no-preserve-root", "preserve-root",
    "reference:", "R,recursive", "v,verbose", "H", "L", "P"]

def ownAll (p : Parsed) (groups : Bool) (read : String → Program Owner) (present : Owner) : Program Nat := do
  let walk := (p.last? ["H", "L", "P"]).getD "P"
  let follow := p.last? ["dereference", "h"]
  if p.has "R" && walk = "P" && follow = some "dereference" then
    die "-R --dereference requires either -H or -L" 1
  if p.has "R" && walk ≠ "P" && follow = some "h" && walk = "L" then
    die "-R -h requires -P" 1
  let (owner, paths) ← match p.value? "reference", p.operands with
    | _, [] => misuse "missing operand" 1
    | some path, operands => match ← found true path with
      | .error e => die ("failed to get attributes of " ++ Text.shellQuote path ++ ": " ++ e.reason) 1
      | .ok (_, n, _) =>
        let f ← files
        let (user, group) := f.owner n
        let g := some (nameOf (Accounts.groups f) group)
        pure (if groups then { group := some group, groupName := g }
          else { user := some user, group := some group, userName := some (nameOf (users f) user), groupName := g },
          operands)
    | none, [text] => misuse ("missing operand after " ++ Text.literalQuote text) 1
    | none, text :: operands =>
      let owner ← read text
      pure (owner, operands)
  let o : Owning :=
    { owner, present, verbose := p.has "v", changes := p.has "c", quiet := p.has "f", recursive := p.has "R"
      follows := follow ≠ some "h", operandsFollowed := walk ≠ "P", allFollowed := walk = "L", groups }
  for path in paths do
    let root := (← found true path).toOption.any fun e => e.1.isEmpty
    if o.recursive && root && p.last? ["preserve-root", "no-preserve-root"] = some "preserve-root" then
      complain "it is dangerous to operate recursively on '/'"
      complain "use --no-preserve-root to override this failsafe"
      raise 1
    else own o maximalDepth true path
  return 0

def readOwner (text : String) : Program Owner := do
  match owner? (← files) text with
  | .error e => die (e ++ ": " ++ Text.literalQuote text) 1
  | .ok (o, dotted) =>
    if dotted then complain ("warning: '.' should be ':': " ++ Text.literalQuote text)
    return o

end Filing

open Filing

def chown : Program Nat := do
  let p ← parsed { choices := "from:" :: owningChoices }
  let present ← match p.value? "from" with
    | some text => readOwner text
    | none => pure {}
  let read (text : String) : Program Owner := do
    let o ← readOwner text
    return if o.userName.isNone && o.groupName.isSome then { o with userName := some "" } else o
  ownAll p false read present

def chgrp : Program Nat := do
  let p ← parsed { choices := owningChoices }
  let read (text : String) : Program Owner := do
    if text.isEmpty then return {}
    match number? (Accounts.groups (← files)) text with
    | some n => return { group := some n, groupName := some text }
    | none => die ("invalid group: " ++ Text.literalQuote text) 1
  ownAll p true read {}

end DeltaDebugging.Utility
