import DeltaDebugging.Files.Mode
import DeltaDebugging.Utility.Filing
import DeltaDebugging.Utility.Lines

/-!
# Changing the modes of files
-/
namespace DeltaDebugging.Utility

open Program Paths Filing

def looksLikeMode (a : String) : Bool :=
  match a.toList with
  | '-' :: c :: _ => "rwxXstugo=+,0123456789".toList.contains c
  | _ => false

/-- The first mode among some arguments that looks like options, with two dashes before it. -/
def modeArguments : List String → List String
  | [] => []
  | "--" :: rest => "--" :: rest
  | a :: rest => if looksLikeMode a then "--" :: a :: rest else a :: modeArguments rest

namespace Filing

structure Remoding where
  change : FileMode.Change
  /-- Everything is told of, or only changes, or not even what fails. -/
  verbose : Bool := false
  changes : Bool := false
  quiet : Bool := false
  recursive : Bool := false
  /-- Whether a mode that the mask kept from being the one asked for is a mistake. -/
  strict : Bool := false

def modeWithLetters (mode : Nat) : String :=
  let s := FileMode.octal mode
  String.ofList (List.replicate (4 - s.length) '0') ++ s ++ " (" ++ FileMode.letters mode ++ ")"

/-- Changes the mode of what a path names, and of all below it if that is wanted. A link that is
met on the way is left alone. -/
def remode (r : Remoding) : (depth : Nat) → (top : Bool) → String → Program Unit
  | 0, _, _ => return
  | depth + 1, top, path => do
    let shown := Text.shellQuote path
    let isLink := match (← found false path).toOption with
      | some (_, _, ⟨.link _, _, _⟩) => true
      | _ => false
    if isLink && !top then
      if r.verbose then putLine ("neither symbolic link " ++ shown ++ " nor referent has been changed")
      return
    match ← found true path with
    | .error e =>
      raise 1
      if !r.quiet then
        if isLink then complain ("cannot operate on dangling symlink " ++ shown)
        else complain ("cannot access " ++ shown ++ ": " ++ e.reason)
      if r.verbose then putLine (shown ++ " could not be accessed")
    | .ok (w, n, node) =>
      let isDirectory := isDirectoryNode node
      let mode := r.change.apply (← invocation).mask isDirectory node.mode
      setFiles ((← files).setProperties n fun node => { node with mode })
      if mode ≠ node.mode && (r.verbose || r.changes) then
        putLine ("mode of " ++ shown ++ " changed from " ++ modeWithLetters node.mode ++ " to " ++
          modeWithLetters mode)
      else if r.verbose then putLine ("mode of " ++ shown ++ " retained as " ++ modeWithLetters mode)
      if r.strict then
        let wanted := r.change.apply 0 isDirectory node.mode
        if FileMode.without mode wanted ≠ 0 then
          complain (Text.shellName path ++ ": new permissions are " ++ FileMode.letters mode ++ ", not " ++
            FileMode.letters wanted)
          raise 1
      if r.recursive && isDirectory then
        for child in (← files).children w do remode r depth false (below path child)

end Filing

def chmod : Program Nat := do
  let given := (← arguments).takeWhile (· ≠ "--")
  withArguments modeArguments
  let p ← parsed
    { choices := ["c,changes", "f,quiet,silent", "v,verbose", "R,recursive", "reference:",
        "no-preserve-root", "preserve-root"] }
  let (change, paths) ← match p.value? "reference", p.operands with
    | some _, [] => misuse "missing operand" 1
    | some path, operands => match ← found true path with
      | .ok (_, _, node) => pure (FileMode.setting node.mode 5, operands)
      | .error e => die ("failed to get attributes of " ++ Text.shellQuote path ++ ": " ++ e.reason) 1
    | none, [] => misuse "missing operand" 1
    | none, text :: operands =>
      if operands.isEmpty then misuse ("missing operand after " ++ Text.literalQuote text) 1
      match FileMode.read? text with
      | some change => pure (change, operands)
      | none => misuse ("invalid mode: " ++ Text.literalQuote text) 1
  let r : Remoding :=
    { change, verbose := p.has "v", changes := p.has "c", quiet := p.has "f", recursive := p.has "R"
      strict := given.any looksLikeMode }
  for path in paths do remode r maximalDepth true path
  return 0

end DeltaDebugging.Utility
