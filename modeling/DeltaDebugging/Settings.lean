import DeltaDebugging.Algorithm.Kind
import DeltaDebugging.Data.Records
import DeltaDebugging.Text.Quoted
import DeltaDebugging.Toml.Document

/-!
# Settings

What a reduction run is told: which algorithm under which limits, the guards of the
hierarchical driver, the oracle's command, how trials are isolated, and logging. They
come from a file of five sections, every field of which has a default, and are then
overridden on the command line and checked.
-/
namespace DeltaDebugging

open Value

inductive SnapshotKind where
  | clone
  | checkpoint
  deriving DecidableEq, Repr

namespace SnapshotKind

def name : SnapshotKind → String
  | clone => "clone"
  | checkpoint => "checkpoint"

def ofName? (s : String) : Option SnapshotKind :=
  if s = "clone" then some clone else if s = "checkpoint" then some checkpoint else none

end SnapshotKind

structure MinimizerSettings where
  algorithm : AlgorithmKind := .ddmin
  seed : UInt64 := 0
  /-- Remember verdicts per retained list. -/
  cacheResults : Bool := true
  limits : Limits := {}
  deriving DecidableEq, Repr

structure OracleSettings where
  command : List String := []
  timeoutSeconds : Nat := 60
  /-- Where scratch files are written, if not in the system's place for them. -/
  scratchDirectory : Option String := none
  /-- Whether the first line of the error output must match too. -/
  compareMessage : Bool := true
  deriving DecidableEq, Repr

structure LoggingSettings where
  level : String := "info"
  format : String := "pretty"
  deriving DecidableEq, Repr

structure Settings where
  minimizer : MinimizerSettings := {}
  hierarchy : HierarchyLimits := {}
  oracle : OracleSettings := {}
  snapshot : SnapshotKind := .clone
  logging : LoggingSettings := {}
  deriving DecidableEq, Repr

namespace MinimizerSettings

/-- The limits are fields of the section itself, which must be given by name. -/
def ofValue : Value → Option MinimizerSettings
  | table fields => do
    let d : MinimizerSettings := {}
    return {
      algorithm := ← field fields "algorithm" d.algorithm (choice? AlgorithmKind.ofName?)
      seed := UInt64.ofNat (← field fields "seed" 0 word?)
      cacheResults := ← field fields "cache_results" d.cacheResults bool?
      limits := ← Limits.ofFields fields }
  | _ => none

def toFields (m : MinimizerSettings) : List (String × Value) :=
  [("algorithm", string m.algorithm.name), ("seed", nat m.seed.toNat),
    ("cache_results", bool m.cacheResults)] ++ m.limits.toFields

end MinimizerSettings

namespace OracleSettings

def ofValue (v : Value) : Option OracleSettings := do
  let d : OracleSettings := {}
  let fields ← v.openRecord? ["command", "timeout_secs", "scratch_dir", "compare_message"]
  return {
    command := ← field fields "command" d.command fun v =>
      v.list?.bind fun vs => vs.mapM string?
    timeoutSeconds := ← field fields "timeout_secs" d.timeoutSeconds word?
    scratchDirectory := ← field fields "scratch_dir" d.scratchDirectory fun v => v.string?.map some
    compareMessage := ← field fields "compare_message" d.compareMessage bool? }

def toFields (o : OracleSettings) : List (String × Value) :=
  [("command", list (o.command.map string)), ("timeout_secs", nat o.timeoutSeconds),
    ("scratch_dir", Value.ofOption o.scratchDirectory), ("compare_message", bool o.compareMessage)]

end OracleSettings

namespace LoggingSettings

def ofValue (v : Value) : Option LoggingSettings := do
  let d : LoggingSettings := {}
  let fields ← v.openRecord? ["level", "format"]
  return {
    level := ← field fields "level" d.level string?
    format := ← field fields "format" d.format string? }

def toFields (l : LoggingSettings) : List (String × Value) :=
  [("level", string l.level), ("format", string l.format)]

end LoggingSettings

namespace Settings

def ofValue (v : Value) : Option Settings := do
  let d : Settings := {}
  let fields ← v.openRecord? ["minimizer", "hierarchy", "oracle", "snapshot", "logging"]
  return {
    minimizer := ← field fields "minimizer" d.minimizer MinimizerSettings.ofValue
    hierarchy := ← field fields "hierarchy" d.hierarchy fun v =>
      (v.openRecord? HierarchyLimits.fieldNames).bind HierarchyLimits.ofFields
    oracle := ← field fields "oracle" d.oracle OracleSettings.ofValue
    snapshot := ← field fields "snapshot" d.snapshot fun v => do
      let fields ← v.openRecord? ["strategy"]
      field fields "strategy" d.snapshot (choice? SnapshotKind.ofName?)
    logging := ← field fields "logging" d.logging LoggingSettings.ofValue }

def parse? (text : String) : Option Settings := (Toml.parse text).bind ofValue

def toSections (s : Settings) : List (String × List (String × Value)) :=
  [("minimizer", s.minimizer.toFields), ("hierarchy", s.hierarchy.toFields),
    ("oracle", s.oracle.toFields), ("snapshot", [("strategy", string s.snapshot.name)]),
    ("logging", s.logging.toFields)]

def print (s : Settings) : String := Toml.print s.toSections

structure Overrides where
  algorithm : Option AlgorithmKind := none
  seed : Option UInt64 := none
  maxLevels : Option Nat := none
  timeoutSeconds : Option Nat := none
  snapshot : Option SnapshotKind := none
  noCache : Bool := false
  logLevel : Option String := none
  command : List String := []
  deriving DecidableEq, Repr

def override (s : Settings) (o : Overrides) : Settings :=
  { minimizer := { s.minimizer with
      algorithm := o.algorithm.getD s.minimizer.algorithm
      seed := o.seed.getD s.minimizer.seed
      cacheResults := s.minimizer.cacheResults && !o.noCache }
    hierarchy := { s.hierarchy with maxLevels := o.maxLevels.getD s.hierarchy.maxLevels }
    oracle := { s.oracle with
      command := if o.command.isEmpty then s.oracle.command else o.command
      timeoutSeconds := o.timeoutSeconds.getD s.oracle.timeoutSeconds }
    snapshot := o.snapshot.getD s.snapshot
    logging := { s.logging with level := o.logLevel.getD s.logging.level } }

inductive Defect where
  | logLevel (level : String)
  | logFormat (format : String)
  | noCommand
  | zeroTimeout
  | zeroLevels
  | zeroIterations
  | noScratchDirectory (path : String)
  deriving DecidableEq, Repr

def Defect.message : Defect → String
  | logLevel level => "Invalid log level: " ++ level
  | logFormat format => "Invalid log format: " ++ format
  | noCommand => "No oracle command given (pass it after \x60--\x60 or set oracle.command)"
  | zeroTimeout => "Oracle timeout must be at least one second"
  | zeroLevels => "hierarchy.max_levels must be positive"
  | zeroIterations => "minimizer.max_iterations must be positive"
  | noScratchDirectory path => "Scratch directory not found: " ++ Text.quoted path

def logLevels : List String := ["trace", "debug", "info", "warn", "error"]

def logFormats : List String := ["pretty", "json", "compact"]

/-- Checks the settings in a fixed order; `isDirectory` looks at the file system. -/
def validate (isDirectory : String → Bool) (s : Settings) : Except Defect Unit :=
  if !logLevels.contains (Text.lowercase s.logging.level) then
    .error (.logLevel s.logging.level)
  else if !logFormats.contains (Text.lowercase s.logging.format) then
    .error (.logFormat s.logging.format)
  else if s.oracle.command.isEmpty then .error .noCommand
  else if s.oracle.timeoutSeconds = 0 then .error .zeroTimeout
  else if s.hierarchy.maxLevels = 0 then .error .zeroLevels
  else if s.minimizer.limits.maxIterations = 0 then .error .zeroIterations
  else match s.oracle.scratchDirectory with
    | some path => if isDirectory path then .ok () else .error (.noScratchDirectory path)
    | none => .ok ()

end Settings

end DeltaDebugging
