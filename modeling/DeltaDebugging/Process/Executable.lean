import DeltaDebugging.Process.System

/-!
# Finding programs

A name with a slash in it is a path; any other is looked for in the directories of the
search path, in order.
-/
namespace DeltaDebugging

/-- The directories in which programs are looked for if nothing else is said. -/
def defaultSearchPath : String :=
  "/usr/local/sbin:/usr/local/bin:/usr/sbin:/usr/bin:/sbin:/bin"

/-- The program that the first line of a script names, with its argument. -/
def interpreter? (content : String) : Option (List String) :=
  match content.toList with
  | '#' :: '!' :: cs =>
    let blank (c : Char) : Bool := c = ' ' || c = '\t'
    let line := (cs.takeWhile (· ≠ '\n')).dropWhile blank
    let path := line.takeWhile fun c => !blank c
    let rest := (((line.drop path.length).dropWhile blank).reverse.dropWhile blank).reverse
    some (String.ofList path :: if rest.isEmpty then [] else [String.ofList rest])
  | _ => none

namespace Files

def maximalInterpreters : Nat := 5

/-- Whether a path can be run: it may be, and so may the program that is to read it. -/
def executable (f : Files) (path : String) : Except FileFault Unit :=
  go maximalInterpreters path
where
  go : (steps : Nat) → String → Except FileFault Unit
    | 0, _ => .error .manyLinks
    | steps + 1, path => do
      let (_, _, node) ← f.locate true path
      match node.kind with
      | .program _ => return
      | .regular content =>
        if node.mode / 64 % 2 = 0 && node.mode / 8 % 2 = 0 && node.mode % 2 = 0 then throw .denied
        match interpreter? content with
        | some (reader :: _) => if !reader.isEmpty then go steps reader
        | _ => return
      | _ => throw .denied

/-- Whether a file that can be run looks like a script from its first line. -/
def isReadable (f : Files) (path : String) : Bool :=
  match (f.look? path).map FileNode.kind with
  | some (.regular content) =>
    let line := (content.toList.take 127).takeWhile (· ≠ '\n')
    !line.any fun c => c.toNat < 9 || (14 ≤ c.toNat && c.toNat < 32 && c.toNat ≠ 27) || c.toNat = 127
  | _ => true

/-- The first path at which a program is found. A file that cannot be run is passed over, but
remembered if nothing better is found. -/
def search (f : Files) (name : String) (searchPath : String) : Except FileFault String :=
  let rec go (fault : FileFault) : List String → Except FileFault String
    | [] => .error fault
    | directory :: rest =>
      let path := if directory.isEmpty then name else directory ++ "/" ++ name
      match f.executable path with
      | .ok () => .ok path
      | .error .denied => go .denied rest
      | .error .nameTooLong => .error .nameTooLong
      | .error _ => go fault rest
  go .notFound (searchPath.splitOn ":")

def programPath (f : Files) (name : String) (searchPath : String) : Except FileFault String := do
  if name.isEmpty then throw .notFound
  else if name.toList.contains '/' then
    f.executable name
    return name
  else f.search name searchPath

end Files

/-- The directory of a program by the names that its environment gives it, if they lead there. -/
def Invocation.route (i : Invocation) (f : Files) : Way :=
  match i.environment.lookup "PWD" with
  | none => i.directory
  | some path =>
    let names := Files.names path
    if Files.isAbsolute path && !names.contains "." && !names.contains ".." &&
        (f.way true path).toOption = some i.directory then names
    else i.directory

def maximalArgument : Nat := 131071

end DeltaDebugging
