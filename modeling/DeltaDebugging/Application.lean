import DeltaDebugging.CommandLine
import DeltaDebugging.Data.Json
import DeltaDebugging.Oracle
import DeltaDebugging.Reduction

/-!
# The application

A whole run of the program as a function of its arguments and the files around it: its
exit code, what it prints, and the files it leaves. First whole blocks of the input are
deleted, then single lines of the blocks that survived.
-/
namespace DeltaDebugging

/-- What ends a run early: the message, and the causes below it, nearest first. -/
structure Trouble where
  message : String
  causes : List String := []
  deriving DecidableEq, Repr

namespace Trouble

/-- A cause behind its number, if there are several; further lines are indented alike. -/
def renderCause (number : Option Nat) (cause : String) : String :=
  let (first, more) := match number with
    | some n =>
      let digits := toString n
      (String.ofList (List.replicate (5 - digits.length) ' ') ++ digits ++ ": ", "       ")
    | none => ("    ", "    ")
  first ++ String.intercalate ("\n" ++ more) (cause.splitOn "\n") ++ "\n"

def render (t : Trouble) : String :=
  let causes := match t.causes with
    | [] => ""
    | [cause] => "\nCaused by:\n" ++ renderCause none cause
    | causes => "\nCaused by:\n" ++
        String.join (causes.zipIdx.map fun c => renderCause (some c.2) c.1)
  "Error: " ++ t.message ++ "\n" ++ causes

end Trouble

structure Completion where
  code : Nat := 0
  out : String := ""
  err : String := ""
  files : Files
  deriving DecidableEq, Repr

structure RunReport where
  input : String
  output : String
  algorithm : AlgorithmKind
  originalLines : Nat
  reduction : Reduction Surroundings

namespace RunReport

def toFields (r : RunReport) : List (String × Value) :=
  let (error, report) : Value × Value := match r.reduction.result with
    | .ok report => (.null, .table report.toFields)
    | .error e => (.string e.message, .null)
  [("input", .string r.input), ("output", .string r.output),
    ("algorithm", .string r.algorithm.name), ("original_lines", .nat r.originalLines),
    ("final_lines", .nat r.reduction.document.aliveLines), ("trials", .nat r.reduction.trials),
    ("complete", .bool r.reduction.result.toBool), ("error", error), ("report", report)]

def print (r : RunReport) : String := Json.pretty 0 (.table r.toFields)

end RunReport

namespace Application

def version : String := "0.1.0"

def help : String :=
  "Reduce a failing input while it keeps failing the same way\n\n" ++
    "Usage: shrink [OPTIONS] [-- <COMMAND>...]\n"

def settings (c : CommandLine) (files : Files) : Except Trouble Settings := do
  let base ← match c.config with
    | none => pure {}
    | some path =>
      let trouble (cause : String) : Trouble :=
        ⟨"Failed to load config from " ++ Text.quoted path, [cause]⟩
      match files.read (Octets.ofText path) with
      | .error e => throw (trouble e.message)
      | .ok bytes => match Text.decode (Octets.toBytes bytes) with
        | .error _ => throw (trouble "stream did not contain valid UTF-8")
        | .ok text => match Settings.parse? text with
          | some s => pure s
          | none => throw (trouble "malformed settings")
  let s := base.override c.overrides
  match s.validate fun path => files.isDirectory (Octets.ofText path) with
  | .ok () => return s
  | .error d => throw ⟨"Invalid configuration", [d.message]⟩

def load (path : String) (files : Files) : Except ReductionError Document :=
  match files.read (Octets.ofText path) with
  | .error e => .error (.cloningFailed (path ++ ": " ++ e.message))
  | .ok bytes => match Text.decode (Octets.toBytes bytes) with
    | .ok text => .ok (Document.parse text)
    | .error (index, malformed) =>
      .error (.analysisFailed (path ++ " is not valid UTF-8: " ++ malformed.message index))

def reduce (s : Settings) (oracle : Oracle) (d : Document) (files : Files) :
    Except Trouble (Reduction Surroundings) × Files :=
  let refused (cause : String) : Except Trouble (Reduction Surroundings) :=
    .error ⟨"The input does not reproduce a failure", [cause]⟩
  match Reduction.reduce s oracle.check Surroundings.cancelled d { files } with
  | (.done (.ok r), t) => (.ok r, t.files)
  | (.done (.error e), t) => (refused e.message, t.files)
  | (.panicked cause, t) => (refused cause, t.files)
  | (.interrupted, t) => (refused "interrupted", t.files)

/-- Why a run whose results are written still counts as failed, if it does. A cancelled one
does not. -/
def shortfall? : Except ReductionError Report → Option Trouble
  | .ok _ => none
  | .error e =>
    if e.isCancelled then none
    else some ⟨"Reduction stopped early", e.message :: e.cause?.toList⟩

def store (files : Files) (path what text : String) : Except Trouble Files :=
  match files.write (Octets.ofText path) (Octets.ofText text) with
  | .ok files => .ok files
  | .error e => .error ⟨"Failed to write " ++ what ++ Text.quoted path, [e.message]⟩

def perform (c : CommandLine) (temporary : String) (files : Files) :
    Except Trouble Unit × Files :=
  let prepared : Except Trouble (Settings × String × String × Document × Oracle) := do
    let s ← settings c files
    let some input := c.input | throw ⟨"--input is required", []⟩
    let some output := c.output | throw ⟨"--output is required", []⟩
    let d ← (load input files).mapError fun e => ⟨e.message, []⟩
    let name := (Files.name? input).getD "input"
    let oracle ← (Oracle.ofSettings s.oracle temporary name).mapError fun text => ⟨text, []⟩
    return (s, input, output, d, oracle)
  match prepared with
  | .error t => (.error t, files)
  | .ok (s, input, output, d, oracle) =>
    match reduce s oracle d files with
    | (.error t, files) => (.error t, files)
    | (.ok reduction, files) =>
      match store files output "" reduction.document.render with
      | .error t => (.error t, files)
      | .ok files =>
        let reported : Except Trouble Files := match c.report with
          | none => .ok files
          | some path => store files path "report to " (RunReport.print
              ⟨input, output, s.minimizer.algorithm, d.aliveLines, reduction⟩)
        match reported with
        | .error t => (.error t, files)
        | .ok files => match shortfall? reduction.result with
          | some t => (.error t, files)
          | none => (.ok (), files)

def run (arguments : List String) (temporary : String) (files : Files) : Completion :=
  match CommandLine.read arguments with
  | .error .help => { out := help, files }
  | .error .version => { out := "shrink " ++ version ++ "\n", files }
  | .error (.usage message) => { code := 2, err := "error: " ++ message ++ "\n", files }
  | .ok c =>
    if c.printConfig then { out := Settings.print {} ++ "\n", files } else
    let (result, files) := perform c temporary files
    let written (descriptor : Nat) : String := Octets.toText ((files.written.lookup descriptor).getD "")
    match result with
    | .ok () => { out := written 1, err := written 2, files }
    | .error t => { code := 1, out := written 1, err := written 2 ++ t.render, files }

end Application

end DeltaDebugging
