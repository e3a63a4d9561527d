import DeltaDebugging.Application

/-!
# The program

Reads the files that the arguments name, runs the application on them, and writes back
the files that changed.
-/
namespace DeltaDebugging

/-- What could be a path among the arguments, the value of an option included. -/
def mentionedPaths (arguments : List String) : List String :=
  arguments.flatMap fun a =>
    [a, String.ofList ((a.toList.dropWhile (· != '=')).drop 1), String.ofList (a.toList.drop 2)]

def readMentioned (files : Files) (paths : List String) : IO Files :=
  paths.foldlM (fun files (path : String) => do
    if path.isEmpty || files.present (Octets.ofText path) then return files
    try
      let bytes ← IO.FS.readBinFile path
      return files.install (Octets.ofText path) (Octets.ofBytes bytes.toList)
    catch _ => return files) files

def contents (files : Files) : List (Way × String) :=
  files.entries.filterMap fun e => match (files.node? e.2).map FileNode.kind with
    | some (.regular content) => some (e.1, content)
    | _ => none

def writeBack (old new : Files) : IO Unit := do
  let path (w : Way) : String := Octets.toText ("/" ++ String.intercalate "/" w)
  let before := contents old
  let after := contents new
  for (w, content) in after do
    if before.lookup w ≠ some content then
      IO.FS.writeBinFile (path w) ⟨(Octets.toBytes content).toArray⟩
  for (w, _) in before do
    if (after.lookup w).isNone then IO.FS.removeFile (path w)

end DeltaDebugging

open DeltaDebugging in
def main (arguments : List String) : IO UInt32 := do
  let here := Octets.ofText (← IO.currentDir).toString
  let temporary := (← IO.getEnv "TMPDIR").getD "/tmp"
  let directory := Files.names here
  let base := { Files.system.makeDirectories directory with directory }
  let known := base.makeDirectories (Files.names (Octets.ofText temporary))
  let files ← readMentioned known (mentionedPaths arguments)
  let c := Application.run arguments temporary files
  IO.print c.out
  IO.eprint c.err
  writeBack files c.files
  return UInt32.ofNat c.code
