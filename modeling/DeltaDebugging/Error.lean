/-!
# Errors

Causes for which a minimization stops, in three layers: an algorithm gives up, a
generator cannot build its first level, and a whole run fails for either reason
or for one of its own. Each layer has one function that words its causes.
-/
namespace DeltaDebugging

inductive AlgorithmError where
  | maxIterationsReached (limit : Nat)
  | invalidConfig (reason : String)
  | cancelled
  deriving DecidableEq, Repr

def AlgorithmError.message : AlgorithmError → String
  | maxIterationsReached limit =>
      "Maximum iterations (" ++ toString limit ++ ") reached without convergence"
  | invalidConfig reason => "Invalid configuration: " ++ reason
  | cancelled => "Minimization was cancelled"

inductive HierarchyError where
  | noItems
  | noSinks
  | generator (reason : String)
  deriving DecidableEq, Repr

def HierarchyError.message : HierarchyError → String
  | noItems => "No items found to build the first level"
  | noSinks => "Dependency graph has no sinks"
  | generator reason => "Hierarchy generator failed: " ++ reason

inductive ReductionError where
  | cloningFailed (reason : String)
  | hierarchyFailed (cause : HierarchyError)
  | propertyCheckerFailed (reason : String)
  | analysisFailed (reason : String)
  | minimizer (cause : AlgorithmError)
  | levelLimitExceeded (limit : Nat)
  | stalledHierarchy (level : Nat)
  deriving DecidableEq, Repr

namespace ReductionError

def message : ReductionError → String
  | cloningFailed reason => "Failed to clone the project: " ++ reason
  | hierarchyFailed cause => "Failed to build the hierarchy: " ++ cause.message
  | propertyCheckerFailed reason => "Property checker failed: " ++ reason
  | analysisFailed reason => "Analysis failed: " ++ reason
  | minimizer cause => "Minimizer failed: " ++ cause.message
  | levelLimitExceeded limit => "Hierarchy exceeded the limit of " ++ toString limit ++ " levels"
  | stalledHierarchy level =>
      "Hierarchy generator repeated level " ++ toString level ++ " without deleting anything"

def cause? : ReductionError → Option String
  | hierarchyFailed cause => some cause.message
  | minimizer cause => some cause.message
  | _ => none

def isCancelled : ReductionError → Bool
  | minimizer .cancelled => true
  | _ => false

/-- Stopped by one of the driver's own guards against endless hierarchies. -/
def isGuard : ReductionError → Bool
  | levelLimitExceeded _ => true
  | stalledHierarchy _ => true
  | _ => false

end ReductionError

end DeltaDebugging
