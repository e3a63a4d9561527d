import DeltaDebugging.Number.Natural
import DeltaDebugging.Settings

/-!
# Command line

The arguments of the program: options with a value, flags, and after a double dash the
oracle's command. Arguments are read from left to right, and the first that settles the
matter, by being wrong or by asking for help or the version, wins.
-/
namespace DeltaDebugging

structure CommandLine where
  config : Option String := none
  input : Option String := none
  output : Option String := none
  report : Option String := none
  jsonLogs : Bool := false
  printConfig : Bool := false
  overrides : Settings.Overrides := {}
  deriving DecidableEq, Repr

namespace CommandLine

inductive Stop where
  | help
  | version
  | usage (message : String)
  deriving DecidableEq, Repr

inductive Setting where
  | config
  | input
  | output
  | report
  | algorithm
  | seed
  | maxLevels
  | timeoutSeconds
  | snapshot
  | logLevel
  deriving DecidableEq, Repr

inductive Flag where
  | noCache
  | jsonLogs
  | printConfig
  | help
  | version
  deriving DecidableEq, Repr

namespace Setting

def name : Setting → String
  | config => "config"
  | input => "input"
  | output => "output"
  | report => "report"
  | algorithm => "algorithm"
  | seed => "seed"
  | maxLevels => "max-levels"
  | timeoutSeconds => "timeout-secs"
  | snapshot => "snapshot"
  | logLevel => "log-level"

def all : List Setting :=
  [config, input, output, report, algorithm, seed, maxLevels, timeoutSeconds, snapshot, logLevel]

def ofName? (s : String) : Option Setting := all.find? fun setting => setting.name = s

def ofLetter? (c : Char) : Option Setting :=
  [('c', config), ('i', input), ('o', output), ('a', algorithm), ('l', logLevel)].lookup c

end Setting

namespace Flag

def name : Flag → String
  | noCache => "no-cache"
  | jsonLogs => "json-logs"
  | printConfig => "print-config"
  | help => "help"
  | version => "version"

def ofName? (s : String) : Option Flag :=
  [noCache, jsonLogs, printConfig, help, version].find? fun flag => flag.name = s

def ofLetter? (c : Char) : Option Flag := [('h', help), ('V', version)].lookup c

end Flag

def unexpected (argument : String) : Stop :=
  .usage ("unexpected argument '" ++ argument ++ "' found")

def repeated (name : String) : Stop :=
  .usage ("the argument '--" ++ name ++ "' cannot be used multiple times")

def missing (s : Setting) : Stop :=
  .usage ("a value is required for '--" ++ s.name ++ "' but none was supplied")

def invalid (s : Setting) (value : String) : Stop :=
  .usage ("invalid value '" ++ value ++ "' for '--" ++ s.name ++ "'")

/-- A decimal number of 64 bits, with or without a plus sign. -/
def word? (s : String) : Option Nat :=
  let digits := match s.toList with
    | '+' :: ds => ds
    | ds => ds
  let n := digits.foldl (fun n d => n * 10 + (d.toNat - '0'.toNat)) 0
  if digits.isEmpty || !digits.all Char.isDigit || Number.wordCount ≤ n then none else some n

/-- Stores a value read for a setting, unless the setting has one already. -/
def once {α : Type} (s : Setting) (old : Option α) (value : Except Stop α)
    (store : α → CommandLine) : Except Stop CommandLine :=
  if old.isSome then .error (repeated s.name) else value.map store

def path (s : Setting) (value : String) : Except Stop String :=
  if value.isEmpty then .error (missing s) else .ok value

def set (c : CommandLine) (s : Setting) (value : String) : Except Stop CommandLine :=
  let o := c.overrides
  let read {α : Type} (v : Option α) : Except Stop α := match v with
    | some a => .ok a
    | none => .error (invalid s value)
  match s with
  | .config => once s c.config (path s value) fun v => { c with config := v }
  | .input => once s c.input (path s value) fun v => { c with input := v }
  | .output => once s c.output (path s value) fun v => { c with output := v }
  | .report => once s c.report (path s value) fun v => { c with report := v }
  | .algorithm => once s o.algorithm (read (AlgorithmKind.parse value).toOption) fun v =>
    { c with overrides := { o with algorithm := v } }
  | .seed => once s o.seed (read ((word? value).map UInt64.ofNat)) fun v =>
    { c with overrides := { o with seed := v } }
  | .maxLevels => once s o.maxLevels (read (word? value)) fun v =>
    { c with overrides := { o with maxLevels := v } }
  | .timeoutSeconds => once s o.timeoutSeconds (read (word? value)) fun v =>
    { c with overrides := { o with timeoutSeconds := v } }
  | .snapshot => once s o.snapshot (read (SnapshotKind.ofName? value)) fun v =>
    { c with overrides := { o with snapshot := v } }
  | .logLevel => once s o.logLevel (.ok value) fun v =>
    { c with overrides := { o with logLevel := v } }

def raise (c : CommandLine) (f : Flag) : Except Stop CommandLine :=
  match f with
  | .help => .error .help
  | .version => .error .version
  | .noCache => if c.overrides.noCache then .error (repeated f.name) else
    .ok { c with overrides := { c.overrides with noCache := true } }
  | .jsonLogs => if c.jsonLogs then .error (repeated f.name) else .ok { c with jsonLogs := true }
  | .printConfig =>
    if c.printConfig then .error (repeated f.name) else .ok { c with printConfig := true }

def isValue (argument : String) : Bool :=
  argument = "-" || argument.toList.head? ≠ some '-'

inductive Token where
  | rest
  | flag (f : Flag)
  /-- A setting with the value that is part of the same argument, if one is. -/
  | setting (s : Setting) (value : Option String)
  | stray
  deriving DecidableEq, Repr

def Token.ofArgument (argument : String) : Token :=
  match argument.toList with
  | ['-', '-'] => .rest
  | '-' :: '-' :: cs =>
    let name := cs.takeWhile (· != '=')
    let value := match cs.drop name.length with
      | _ :: v => some (String.ofList v)
      | [] => none
    match Setting.ofName? (String.ofList name), Flag.ofName? (String.ofList name), value with
    | some s, _, value => .setting s value
    | none, some f, none => .flag f
    | none, _, _ => .stray
  | '-' :: c :: cs => match Setting.ofLetter? c, Flag.ofLetter? c with
    | some s, _ => .setting s (match cs with
      | [] => none
      | '=' :: v => some (String.ofList v)
      | v => some (String.ofList v))
    | none, some f => .flag f
    | none, none => .stray
  | _ => .stray

def readFrom (c : CommandLine) : List String → Except Stop CommandLine
  | [] => .ok c
  | argument :: arguments => match Token.ofArgument argument with
    | .rest => .ok { c with overrides := { c.overrides with command := arguments } }
    | .flag f => do (← c.raise f).readFrom arguments
    | .setting s (some value) => do (← c.set s value).readFrom arguments
    | .setting s none => match arguments with
      | [] => .error (missing s)
      | value :: arguments => do
        if isValue value then (← c.set s value).readFrom arguments else throw (missing s)
    | .stray => .error (unexpected argument)

def read (arguments : List String) : Except Stop CommandLine := readFrom {} arguments

end CommandLine

end DeltaDebugging
