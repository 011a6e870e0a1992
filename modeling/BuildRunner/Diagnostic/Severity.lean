/-!
How grave a diagnostic is.
-/

namespace BuildRunner

/-- The gravity of a diagnostic, gravest first. -/
inductive Severity where
  | error
  | warning
  | note
  | help
  deriving DecidableEq, Repr, Inhabited

namespace Severity

/-- The severity of a level as the tool spells it; an unknown level is the lowest. -/
def ofLevel : String → Severity
  | "error" => error
  | "error: internal compiler error" => error
  | "warning" => warning
  | "note" => note
  | _ => help

/-- Whether a diagnostic only informs. -/
def isInformational : Severity → Bool
  | note => true
  | help => true
  | _ => false

/-- The name of a severity. -/
def label : Severity → String
  | error => "error"
  | warning => "warning"
  | note => "note"
  | help => "help"

end Severity

end BuildRunner
