import DeltaDebugging.Utility.Awk.Run
import DeltaDebugging.Utility.Paths

/-!
# The pattern scanning utility

Its options set variables and tell where the program is; what follows the program are operands,
which the program sees as a table.
-/
namespace DeltaDebugging.Utility

namespace Awk

structure Wanted where
  assignments : List (String × String) := []
  separator : Option String := none
  files : List String := []
  /-- Options without a meaning. -/
  vacuous : List String := []
  rest : List String := []

inductive Refusal where
  | usage
  | version
  | complaint (text : String)

def choices : List String :=
  ["version", "compat", "dump", "help", "interactive", "exec", "posix", "random=", "sprintf=", "usage"]

def options : (steps : Nat) → Wanted → List String → Except Refusal Wanted
  | 0, w, rest => .ok { w with rest }
  | steps + 1, w, arguments => match arguments with
    | [] => .ok { w with rest := [] }
    | a :: rest => match a.toList with
      | ['-', '-'] => .ok { w with rest }
      | '-' :: '-' :: cs =>
        if cs = "version".toList then .error .version
        else if cs = "help".toList then .error .usage
        else .error (.complaint ("not an option: " ++ a))
      | '-' :: letter :: cs =>
        if !"FfvW".toList.contains letter then .error (.complaint ("not an option: " ++ a)) else
        let found : Option (String × List String) := match cs, rest with
          | [], v :: rest => some (v, rest)
          | [], [] => none
          | cs, rest => some (String.ofList cs, rest)
        match found with
        | none => .error (.complaint ("option -" ++ String.singleton letter ++ " lacks argument"))
        | some (v, rest) =>
          if letter = 'F' then options steps { w with separator := some v } rest
          else if letter = 'f' then options steps { w with files := w.files ++ [v] } rest
          else if letter = 'v' then match Run.assignment? v with
            | some e => options steps { w with assignments := w.assignments ++ [e] } rest
            | none => .error (.complaint ("improper assignment: -v " ++ v))
          else
            let word := String.ofList (v.toList.takeWhile (· ≠ '='))
            match choices.find? fun c => word.toList.isPrefixOf c.toList with
            | some "version" => .error .version
            | some "help" | some "usage" => .error .usage
            | some "exec" => match rest with
              | path :: rest => .ok { w with files := w.files ++ [path], rest }
              | [] => .error (.complaint "option -W lacks argument")
            | some _ => options steps w rest
            | none => options steps { w with vacuous := w.vacuous ++ [v] } rest
      | _ => .ok { w with rest := arguments }

def firstGlobals (count : Nat) : List (String × Value) :=
  [("NR", .number 0.0), ("NF", .number 0.0), ("FNR", .number 0.0), ("FS", .text " "), ("OFS", .text " "),
    ("ORS", .text "\n"), ("RS", .text "\n"), ("FILENAME", .text ""), ("CONVFMT", .text "%.6g"),
    ("OFMT", .text "%.6g"), ("SUBSEP", .text "\x1c"), ("RSTART", .number 0.0), ("RLENGTH", .number (-1.0)),
    ("ARGC", .number (Float.ofNat count))]

def firstTables (words : List String) (environment : List (String × String)) : Array Table :=
  #[words.zipIdx.foldl (fun t (w, i) => t.put ⟨toString i, some (Int.ofNat i)⟩ (.outside w)) {},
    environment.foldl (fun t (name, v) => t.put { text := name } (.outside v)) {}]

def sources (w : Wanted) : Run (List (Option String × String) × List String) := do
  match w.files, w.rest with
  | [], text :: rest => return ([(none, text)], rest)
  | [], [] => return ([], [])
  | files, rest =>
    let texts ← files.mapM fun path => do
      match ← Run.streamOf path with
      | .ok s => return (some path, String.ofList s.rest)
      | .error e => Run.die ("cannot open \"" ++ path ++ "\" (" ++ e.reason ++ ")")
    return (texts, rest)

def work (start : Runner) (w : Wanted) : Run Unit := do
  for (name, text) in w.assignments do Run.assignOutside name text
  match w.separator with
  | some text =>
    let text := Reader.unescape text
    match Matching.read text with
    | .error e => if 1 < text.length then
        Run.die ("line 0: regular expression compile failed (" ++ e.reason ++ ")\n" ++ text)
    | .ok _ => pure ()
    Run.setGlobal "FS" (.text text)
  | none => pure ()
  let (texts, operands) ← sources w
  if texts.isEmpty then return
  match Script.read (w.assignments.map Prod.fst) texts with
  | .error e => Run.die e
  | .ok s =>
    let name ← Run.lift Program.name
    let environment ← Run.lift (return (← Program.invocation).environment)
    modify fun m => { m with
      functions := s.functions
      tables := firstTables (name :: operands) environment
      tableNumbers := [("ARGV", 0), ("ENVIRON", 1)]
      globals := Run.assigned "ARGC" (.number (Float.ofNat (operands.length + 1))) m.globals }
    Run.script start s

end Awk

def awk (start : Runner) : Program Nat := do
  modify fun w => { w with invocation := { w.invocation with name := Paths.base w.invocation.name } }
  Program.whenUnwritten fun e => (["close failed on file \"/dev/stdout\" (" ++ e.reason ++ ")"], 2)
  let arguments ← Program.arguments
  let usage : Program Nat := do
    let _ ← Program.write 2 ("Usage: " ++ (← Program.name) ++ " [Options] [Program] [file ...]\n")
    return 0
  if arguments.isEmpty then usage else
  match Awk.options (arguments.length + 1) {} arguments with
  | .error .usage => usage
  | .error .version => return 0
  | .error (.complaint text) => Program.die text 2
  | .ok w =>
    for v in w.vacuous do
      let _ ← Program.write 2 ((← Program.name) ++ ": vacuous option: -W \"" ++ v ++ "\"\n")
    let whole : Awk.Run Unit := do
      try
        Awk.work start w
      catch _ => return
      Awk.Run.finishAll start
    let whole : Awk.Run Unit := do
      try whole
      catch _ => return
    let (_, m) ← (whole.run).run { globals := Awk.firstGlobals 1 }
    if (← Program.opening? 1).isNone then Program.giveUp .badDescriptor
    else return m.status

end DeltaDebugging.Utility
