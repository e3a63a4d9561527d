import DeltaDebugging.Utility.Options

/-!
# Parts of paths

The last name of a path and what stands before it, as they are written, and the place that a
path leads to once all links are followed.
-/
namespace DeltaDebugging.Utility

open Program

namespace Paths

/-- The last name of a path: a slash if there are only slashes. -/
def base (path : String) : String :=
  let bare := Files.withoutSlashes path
  if bare.isEmpty && !path.isEmpty then "/" else ((bare.splitOn "/").getLast?).getD ""

/-- What stands before the last name. -/
def parent (path : String) : String :=
  let bare := (Files.withoutSlashes path).toList.reverse.dropWhile (· ≠ '/')
  let above := bare.dropWhile (· = '/')
  if !above.isEmpty then String.ofList above.reverse
  else if bare.isEmpty && path.toList.head? ≠ some '/' then "." else "/"

def below (directory name : String) : String :=
  if directory.toList.getLast? = some '/' then directory ++ name else directory ++ "/" ++ name

def render (w : Way) : String := "/" ++ String.intercalate "/" w

inductive Demand where
  | all
  | allButLast
  | nothing
  deriving DecidableEq, Repr

/-- The way to a path without any links in it. -/
def resolve (f : Files) (d : Demand) (path : String) : Except FileFault Way :=
  match d with
  | .all => (f.locate true path).map fun found => found.1
  | .allButLast => f.way true (if Files.withoutSlashes path = "" then path else Files.withoutSlashes path)
  | .nothing => match f.way true path with
    | .ok w => .ok w
    | .error _ =>
      let start := if Files.isAbsolute path then [] else f.directory
      .ok ((Files.names path).foldl (fun w name =>
        if name = "." then w else if name = ".." then w.dropLast else w ++ [name]) start)

end Paths

open Paths

def basename : Program Nat := do
  let p ← parsed { choices := ["a,multiple", "s,suffix:", "z,zero"], permutes := false }
  let ends := if p.has "z" then "\x00" else "\n"
  let several := p.has "a" || p.has "s"
  let without (suffix name : String) : String :=
    let cs := name.toList
    if !suffix.isEmpty && suffix.length < name.length && suffix.toList.isSuffixOf cs then
      String.ofList (cs.take (cs.length - suffix.length)) else name
  match several, p.operands with
  | _, [] => misuse "missing operand" 1
  | false, _ :: _ :: extra :: _ => misuse ("extra operand " ++ Text.literalQuote extra) 1
  | false, path :: rest =>
    put (without (rest.headD "") (base path) ++ ends)
    return 0
  | true, paths =>
    for path in paths do put (without ((p.value? "s").getD "") (base path) ++ ends)
    return 0

def dirname : Program Nat := do
  let p ← parsed { choices := ["z,zero"] }
  if p.operands.isEmpty then misuse "missing operand" 1
  for path in p.operands do put (parent path ++ if p.has "z" then "\x00" else "\n")
  return 0

def readlink : Program Nat := do
  let p ← parsed
    { choices := ["f,canonicalize", "e,canonicalize-existing", "m,canonicalize-missing",
        "n,no-newline", "q,quiet", "s,silent", "v,verbose", "z,zero"] }
  if p.operands.isEmpty then misuse "missing operand" 1
  let alone := p.operands.length = 1
  if p.has "n" && !alone then complain "ignoring --no-newline with multiple arguments"
  let demand : Option Demand := (p.last? ["f", "e", "m"]).map fun key =>
    if key = "e" then .all else if key = "f" then .allButLast else .nothing
  for path in p.operands do
    let f ← files
    let found : Except FileFault String := match demand with
      | some d => (resolve f d path).map render
      | none => match f.locate false path with
        | .error e => .error e
        | .ok (_, _, node) => match node.kind with
          | .link target => .ok target
          | .descriptor n => .ok ("pipe:[" ++ toString n ++ "]")
          | _ => .error .invalid
    match found with
    | .ok text => put (text ++ if p.has "n" && alone then "" else if p.has "z" then "\x00" else "\n")
    | .error e =>
      if p.has "v" then complain (Text.shellName path ++ ": " ++ e.reason)
      raise 1
  return 0

def relative (start goal : Way) : String :=
  let common := ((start.zip goal).takeWhile fun e => e.1 = e.2).length
  let steps := List.replicate (start.length - common) ".." ++ goal.drop common
  if steps.isEmpty then "." else String.intercalate "/" steps

def realpath : Program Nat := do
  let p ← parsed
    { choices := ["e,canonicalize-existing", "m,canonicalize-missing", "L,logical", "P,physical",
        "q,quiet", "relative-to:", "relative-base:", "s,strip,no-symlinks", "z,zero"] }
  if p.operands.isEmpty then misuse "missing operand" 1
  let demand : Demand := match p.last? ["e", "m"] with
    | some "e" => .all
    | some _ => .nothing
    | none => .allButLast
  let f ← files
  let start : Option Way := (p.value? "relative-to").bind fun path => (resolve f demand path).toOption
  for path in p.operands do
    match resolve f demand path with
    | .ok w => put ((match start with
        | some s => relative s w
        | none => render w) ++ if p.has "z" then "\x00" else "\n")
    | .error e =>
      if !p.has "q" then complain (Text.shellName path ++ ": " ++ e.reason)
      raise 1
  return 0

def pwd : Program Nat := do
  let p ← parsed { choices := ["L,logical", "P,physical"] }
  if !p.operands.isEmpty then complain "ignoring non-option arguments"
  let i ← invocation
  let files := (← system).files
  putLine (render (if p.has "L" then i.route files else i.directory))
  return 0

end DeltaDebugging.Utility
