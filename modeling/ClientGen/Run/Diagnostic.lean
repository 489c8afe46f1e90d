/-!
# Diagnostics

Findings that do not stop a run: the phase that made them, a message and perhaps a place in the
document.
-/

namespace ClientGen

inductive Severity
  | warning
  | info
deriving DecidableEq, Repr

def Severity.name : Severity → String
  | .warning => "warning"
  | .info => "info"

structure Diagnostic where
  severity : Severity
  phase : String
  message : String
  location : Option String := none
deriving DecidableEq, Repr

namespace Diagnostic

def isWarning (d : Diagnostic) : Bool := d.severity == .warning

/-- The message, followed by the place if there is one. -/
def located (message : String) : Option String → String
  | some place => message ++ " (at " ++ place ++ ")"
  | none => message

def text (d : Diagnostic) : String :=
  located (d.severity.name ++ ": " ++ d.message) d.location

end Diagnostic

end ClientGen
