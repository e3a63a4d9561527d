import DeltaDebugging.Text.Utf8
import DeltaDebugging.Utility.Filing

/-!
# Names that are valid everywhere

Tells which names of files are not valid on every system, or not valid here.
-/
namespace DeltaDebugging.Utility

open Program Paths Filing

namespace Portability

def leastName : Nat := 14

/-- The length of a path that is allowed on every system, with its end. -/
def leastPath : Nat := 256

def isPortable (c : Char) : Bool := c.isAlphanum || "/._-".toList.contains c

/-- The first character of a text that is not portable, with all bytes that belong to it. -/
def foreign? (path : String) : Option String :=
  match path.toList.dropWhile isPortable with
  | [] => none
  | c :: cs => match Octets.characters (c :: cs) with
    | d :: _ => some (String.ofList (Octets.ofCharacters [d]))
    | [] => some (String.singleton c)

def hasLeadingDash (path : String) : Bool :=
  (path.splitOn "/").any fun (w : String) => w.toList.head? = some '-'

/-- Complains of the first thing that is wrong with a path. -/
def check (basic extra : Bool) (path : String) : Program Unit := do
  let length := path.length
  let exceeded (limit length : Nat) (what : String) : Program Unit :=
    refused ("limit " ++ toString limit ++ " exceeded by length " ++ toString length ++ " of file name " ++ what)
  if extra && hasLeadingDash path then
    return ← refused ("leading '-' in a component of file name " ++ Text.shellQuote path)
  if (basic || extra) && path.isEmpty then return ← refused "empty file name"
  if basic then
    if let some c := foreign? path then
      return ← refused ("nonportable character " ++ Text.literalQuote c ++ " in file name " ++ Text.shellQuote path)
  let seen ← found false path
  match basic, seen with
  | false, .error e => if e ≠ .notFound || path.isEmpty then return ← failed (Text.shellName path) e
  | _, _ => pure ()
  if basic && leastPath ≤ length then
    return ← exceeded (leastPath - 1) length (Text.shellQuote path)
  let limit := if basic then leastName else Files.maximalName
  if basic || seen.toOption.isNone then
    if let some (w : String) := (path.splitOn "/").find? fun (w : String) => limit < w.length then
      exceeded limit w.length ("component " ++ Text.literalQuote w)

end Portability

def pathchk : Program Nat := do
  let p ← parsed { choices := ["p", "P", "portability"] }
  if p.operands.isEmpty then misuse "missing operand" 1
  let all := p.has "portability"
  for path in p.operands do Portability.check (all || p.has "p") (all || p.has "P") path
  return 0

def link : Program Nat := do
  let p ← parsed { choices := [] }
  match p.operands with
  | [] => misuse "missing operand" 1
  | [a] => misuse ("missing operand after " ++ Text.literalQuote a) 1
  | _ :: _ :: extra :: _ => misuse ("extra operand " ++ Text.literalQuote extra) 1
  | [source, target] =>
    let f ← files
    let what := "cannot create link " ++ Text.shellQuote target ++ " to " ++ Text.shellQuote source
    match f.locate false source, f.way false target with
    | .error e, _ => failed what e
    | _, .error e => failed what e
    | .ok (_, n, node), .ok w =>
      if (f.find? w).isSome then failed what .present
      else if isDirectoryNode node then failed what .notPermitted
      else setFiles (f.link w n)
    return 0

end DeltaDebugging.Utility
