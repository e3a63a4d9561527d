import DeltaDebugging.Text.Lines
import DeltaDebugging.Data.Value

/-!
# Failure signatures

What identifies a failure of the oracle's command: its exit code, absent if it was
killed, and the first line of its error output that is not blank, trimmed.
-/
namespace DeltaDebugging

structure Failure where
  exitCode : Option Int
  message : String
  deriving DecidableEq, Repr

namespace Failure

def render (f : Failure) : String :=
  match f.exitCode with
  | some code => "exit " ++ toString code ++ ": " ++ f.message
  | none => "killed: " ++ f.message

def ofOutput (exitCode : Option Int) (errors : String) : Failure :=
  ⟨exitCode, (((Text.lines errors).map Text.trim).find? fun line => !line.isEmpty).getD ""⟩

/-- The same exit code, and the same message if messages count. -/
def same (compareMessage : Bool) (a b : Failure) : Bool :=
  decide (a.exitCode = b.exitCode) && (!compareMessage || decide (a.message = b.message))

def toFields (f : Failure) : List (String × Value) :=
  [("exit_code", (f.exitCode.map Value.int).getD .null), ("message", .string f.message)]

end Failure

end DeltaDebugging
