import DeltaDebugging.Shell.Program
import DeltaDebugging.Utility.Accounts
import DeltaDebugging.Utility.Awk.Command
import DeltaDebugging.Utility.Batch
import DeltaDebugging.Utility.Blocks
import DeltaDebugging.Utility.Columns
import DeltaDebugging.Utility.Compare
import DeltaDebugging.Utility.Condition
import DeltaDebugging.Utility.Control
import DeltaDebugging.Utility.Dates
import DeltaDebugging.Utility.Digest
import DeltaDebugging.Utility.Dump
import DeltaDebugging.Utility.Encoding
import DeltaDebugging.Utility.Expr
import DeltaDebugging.Utility.Filling
import DeltaDebugging.Utility.Find
import DeltaDebugging.Utility.Grep
import DeltaDebugging.Utility.Installing
import DeltaDebugging.Utility.Linking
import DeltaDebugging.Utility.Listing
import DeltaDebugging.Utility.Making
import DeltaDebugging.Utility.Copying
import DeltaDebugging.Utility.Numbering
import DeltaDebugging.Utility.Pieces
import DeltaDebugging.Utility.Portability
import DeltaDebugging.Utility.Precedence
import DeltaDebugging.Utility.Removing
import DeltaDebugging.Utility.Reversing
import DeltaDebugging.Utility.Scaling
import DeltaDebugging.Utility.Sections
import DeltaDebugging.Utility.Sed.Run
import DeltaDebugging.Utility.Sequence
import DeltaDebugging.Utility.Shuffling
import DeltaDebugging.Utility.SortedLines
import DeltaDebugging.Utility.Starting
import DeltaDebugging.Utility.Sundry
import DeltaDebugging.Utility.Tabs
import DeltaDebugging.Utility.Translate

/-!
# Programs that are run from outside

The command of an oracle starts programs of the system: a shell, awk, sed, grep or other
utilities. What is modelled of shells, utilities, regular expressions, digests, times, files and
processes stands in for these programs, so that a run with such a command can be computed. Only
`Oracle.runOn` starts them. They are no part of the theory: no theorem reaches them, since
wherever a theorem speaks of an oracle, that may be any activity.

What a path names is run: a shell, a utility, or a script, whose first line may name the
program that is to read it. Run from outside, one program is started on a system, with nothing
to read, and its outputs are both read through pipes until nobody can write to them any more.
-/
namespace DeltaDebugging.Utility

/-! ## The utilities by name -/

def plain : List (String × Program Nat) :=
  [("[", condition true), ("arch", arch), ("b2sum", b2sum), ("base32", base32),
    ("base64", base64), ("basename", basename), ("basenc", basenc), ("cat", cat), ("chgrp", chgrp),
    ("chmod", chmod), ("chown", chown), ("cksum", cksum), ("cmp", cmp), ("comm", comm), ("cp", cp),
    ("csplit", csplit), ("cut", cut), ("date", date), ("dd", dd), ("diff", diff), ("dir", dir),
    ("dirname", dirname), ("echo", echo), ("egrep", grepAs (some "E")), ("expand", expand),
    ("expr", expr), ("factor", factor), ("false", return 1), ("fgrep", grepAs (some "F")),
    ("fmt", fmt), ("fold", fold), ("grep", grep), ("groups", groups), ("head", head),
    ("hostid", hostid), ("id", identity), ("install", install), ("join", join), ("link", link),
    ("ln", ln), ("logname", logname), ("ls", ls), ("md5sum", md5sum), ("mkdir", mkdir),
    ("mkfifo", mkfifo), ("mktemp", mktemp), ("mv", mv), ("nl", nl), ("nproc", nproc),
    ("numfmt", numfmt), ("od", od), ("paste", paste), ("pathchk", pathchk), ("printenv", printenv),
    ("printf", printf), ("pwd", pwd), ("readlink", readlink), ("realpath", realpath), ("rev", rev),
    ("rm", rm), ("rmdir", rmdir), ("seq", seq), ("sha1sum", sha1sum), ("sha224sum", sha224sum),
    ("sha256sum", sha256sum), ("sha384sum", sha384sum), ("sha512sum", sha512sum), ("shuf", shuf),
    ("sleep", sleep), ("sort", sort), ("split", split), ("stat", stat), ("sum", sum),
    ("sync", return 0), ("tac", tac), ("tail", tail), ("tee", tee), ("test", condition false),
    ("touch", touch), ("tr", tr), ("true", return 0), ("truncate", truncate), ("tsort", tsort),
    ("tty", tty), ("uname", uname), ("unexpand", unexpand), ("uniq", uniq), ("unlink", unlink),
    ("users", users), ("vdir", vdir), ("wc", wc), ("which", which), ("whoami", whoami),
    ("yes", yes)]

def starting : List (String × (Runner → Program Nat)) :=
  [("awk", awk), ("env", env), ("find", find), ("nice", nice), ("nohup", nohup), ("sed", sed),
    ("stdbuf", stdbuf), ("timeout", timeout), ("xargs", xargs)]

def find? (start : Runner) (name : String) : Option (Program Nat) :=
  match plain.lookup name with
  | some p => some p
  | none => (starting.lookup name).map fun p => p start

end DeltaDebugging.Utility

namespace DeltaDebugging

def shellNames : List String := ["sh", "dash", "bash"]

/-- Runs what an invocation names; programs start one another at most `depth` deep. -/
def launch : (depth : Nat) → Runner
  | 0, _, s => (.killed 9, s)
  | depth + 1, i, s =>
    let start := launch depth
    let s := s.burdened
    let files := { s.files with directory := i.directory }
    match (files.look? i.path).map FileNode.kind with
    | some (.program name) =>
      if shellNames.contains name then Shell.run start i s
      else match Utility.find? start name with
        | some p => Utility.Program.run p i s
        | none => (.exited 127, s)
    | some (.regular content) => match interpreter? content with
      | some (path :: more) =>
        if path.isEmpty then
          Shell.run start { i with path := "/bin/sh", name := "sh", arguments := i.path :: i.arguments } s
        else start { i with path, name := path, arguments := more ++ i.path :: i.arguments } s
      | _ => Shell.run start { i with path := "/bin/sh", name := "sh", arguments := i.path :: i.arguments } s
    | _ => (.exited 126, s)

def maximalStarts : Nat := 200

def Invocation.run : Runner := launch maximalStarts

def outerEnvironment : List (String × String) :=
  [("HOME", "/root"), ("LC_CTYPE", "C.UTF-8"), ("PATH", defaultSearchPath), ("TMPDIR", "/tmp")]

namespace System

/-- A system with some files, a deadline in milliseconds, and a bound on its commands. -/
def start (files : Files) (deadline patience : Nat) : System :=
  { files, deadline, patience
    watched := [0, 1]
    pipes := #[{}, {}]
    openings := #[{ target := .node ((files.find? ["dev", "null"]).getD 0) },
      { target := .pipe 0, reads := false }, { target := .pipe 1, reads := false }] }

def errors (s : System) : String := ((s.pipes[1]?).map Pipe.written).getD ""

def invoke (s : System) (program : String) (arguments : List String) :
    Except FileFault (Fate × System) := do
  let path ← s.files.programPath program defaultSearchPath
  if (program :: arguments).any fun a => maximalArgument < a.length then throw .tooLong
  match (s.files.look? path).map FileNode.kind with
  | some (.regular content) => if (interpreter? content).isNone then throw .badFormat
  | _ => pure ()
  return Invocation.run
    { path, name := program, arguments, environment := outerEnvironment
      descriptors := [(0, 0), (1, 1), (2, 2)], directory := s.files.directory } s

end System

end DeltaDebugging
