import Assembler.Text.Basic

/-!
# Failures

How a run that fails reports it, and the exit code that it ends with.
-/

namespace Assembler.CommandLine

/-- What a run fails with. -/
inductive Failure where
  | configuration (text : Text)
  | assembly (text : Text)
  | parameter (text : Text)
  /-- A file that does not exist or may not be used. -/
  | file (text : Text)
  | internal (text : Text)
  deriving DecidableEq, Repr

namespace Failure

/-- The exit code of a failure. -/
def exitCode : Failure → Nat
  | .assembly _ => 1
  | .configuration _ | .parameter _ | .file _ => 2
  | .internal _ => 3

/-- The message of a failure; `activity` names what failed. -/
def message (activity : String) : Failure → Text
  | .assembly text => if activity = "" then text else activity ++ " failed:\n" ++ text
  | .configuration text | .parameter text | .file text => "Error: " ++ text
  | .internal text => "Internal error: " ++ text

/-- What a verbose run adds to a message. -/
def trace (verbose : Bool) : Failure → String
  | .internal _ => if verbose then "NoneType: None\n" else ""
  | _ => ""

end Failure

end Assembler.CommandLine
