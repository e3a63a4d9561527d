import DeltaDebugging.Data.Value
import DeltaDebugging.Algorithm.Probabilistic
import DeltaDebugging.Report

/-!
# Records as structured values

The stored form of limits, statistics and reports, field by field.
-/
namespace DeltaDebugging

open Value

namespace Limits

def fieldNames : List String :=
  ["max_iterations", "early_termination", "early_termination_threshold", "min_size"]

def ofFields (fields : List (String × Value)) : Option Limits := do
  let d : Limits := {}
  return {
    maxIterations := ← field fields "max_iterations" d.maxIterations word?
    earlyTermination := ← field fields "early_termination" d.earlyTermination bool?
    earlyTerminationThreshold :=
      ← field fields "early_termination_threshold" d.earlyTerminationThreshold word?
    minSize := ← field fields "min_size" d.minSize word? }

def ofValue (v : Value) : Option Limits := (v.record? fieldNames).bind ofFields

def toFields (l : Limits) : List (String × Value) :=
  [("max_iterations", nat l.maxIterations), ("early_termination", bool l.earlyTermination),
    ("early_termination_threshold", nat l.earlyTerminationThreshold), ("min_size", nat l.minSize)]

end Limits

namespace ProbabilisticLimits

def ofValue (v : Value) : Option ProbabilisticLimits := do
  let fields ← v.record? ["base", "seed"]
  return {
    base := ← field fields "base" {} Limits.ofValue
    seed := UInt64.ofNat (← field fields "seed" 0 word?) }

def toFields (l : ProbabilisticLimits) : List (String × Value) :=
  [("base", table l.base.toFields), ("seed", nat l.seed.toNat)]

end ProbabilisticLimits

namespace HierarchyLimits

def fieldNames : List String := ["max_levels", "detect_stalls"]

def ofFields (fields : List (String × Value)) : Option HierarchyLimits := do
  let d : HierarchyLimits := {}
  return {
    maxLevels := ← field fields "max_levels" d.maxLevels word?
    detectStalls := ← field fields "detect_stalls" d.detectStalls bool? }

def ofValue (v : Value) : Option HierarchyLimits := (v.record? fieldNames).bind ofFields

def toFields (l : HierarchyLimits) : List (String × Value) :=
  [("max_levels", nat l.maxLevels), ("detect_stalls", bool l.detectStalls)]

end HierarchyLimits

namespace Statistics

def toFields (s : Statistics) : List (String × Value) :=
  [("original_size", nat s.originalSize), ("minimized_size", nat s.minimizedSize),
    ("items_removed", nat s.itemsRemoved), ("checks_performed", nat s.checksPerformed),
    ("successful_removals", nat s.successfulRemovals), ("failed_removals", nat s.failedRemovals),
    ("unknown_results", nat s.unknownResults),
    ("granularity_increases", nat s.granularityIncreases),
    ("max_granularity", nat s.maxGranularity), ("early_terminated", bool s.earlyTerminated),
    ("termination_reason", Value.ofOption s.terminationReason)]

/-- Every counter must be there; only the reason may be absent, in a table, or null. -/
def ofValue (v : Value) : Option Statistics := do
  let names := (toFields {}).map Prod.fst
  let fields ← v.record? names
  if v.list?.any fun vs => vs.length < names.length then none
  let count (name : String) : Option Nat := (fields.lookup name).bind word?
  return {
    originalSize := ← count "original_size"
    minimizedSize := ← count "minimized_size"
    itemsRemoved := ← count "items_removed"
    checksPerformed := ← count "checks_performed"
    successfulRemovals := ← count "successful_removals"
    failedRemovals := ← count "failed_removals"
    unknownResults := ← count "unknown_results"
    granularityIncreases := ← count "granularity_increases"
    maxGranularity := ← count "max_granularity"
    earlyTerminated := ← (fields.lookup "early_terminated").bind bool?
    terminationReason := ← match fields.lookup "termination_reason" with
      | none | some null => some none
      | some v => v.string?.map some }

end Statistics

namespace Report

def levelFields (l : LevelReport) : List (String × Value) :=
  [("level", nat l.level), ("size", nat l.size), ("retained", nat l.retained),
    ("deleted", nat l.deleted), ("checks", nat l.checks)]

def toFields (r : Report) : List (String × Value) :=
  [("levels", list (r.levels.map fun l => table (levelFields l))),
    ("stats", table r.statistics.toFields)]

end Report

end DeltaDebugging
