import BuildRunner.Diagnostic.Published
import BuildRunner.Run.Core
import BuildRunner.Run.Planner
import BuildRunner.Text.Quoted

/-!
Short texts about the parts of a session, for inspection.
-/

namespace BuildRunner.Inspect

/-- A truth value. -/
def flag (b : Bool) : String := if b then "true" else "false"

/-- A record with some of its fields, and others left out. -/
def recordOpen (name : String) (fields : List (String × String)) : String :=
  name ++ " \x7b " ++ String.join (fields.map fun f => f.1 ++ ": " ++ f.2 ++ ", ") ++ ".. \x7d"

/-- A record with all its fields. -/
def record (name : String) (fields : List (String × String)) : String :=
  name ++ " \x7b " ++ ", ".intercalate (fields.map fun f => f.1 ++ ": " ++ f.2) ++ " \x7d"

/-- What is published. -/
def published (p : Published) : String :=
  recordOpen "DiagnosticPublisher"
    [("files", toString p.files.size), ("dedupe", flag p.dedupe)]

/-- A planner. -/
def planner (p : Planner) : String :=
  recordOpen "InvocationPlanner" [("executable", Text.quoted p.executable)]

/-- The switch for diagnostics. -/
def host (enabled : Bool) : String := recordOpen "Host" [("diagnostics_enabled", flag enabled)]

/-- The rules of the slot before the first run. -/
def freshCore (echoRendered : Bool) : String :=
  record "CoreOrchestrator" [("state", record "CoreState"
    [("slot", "Idle"), ("next_task", "1"),
      ("parser", record "DiagnosticParser" [("format", "None")]),
      ("echo_rendered", flag echoRendered)])]

/-- A session before the first run. -/
def freshSession (echoRendered dedupe : Bool) : String :=
  recordOpen "Orchestrator"
    [("core", freshCore echoRendered), ("publisher", published (.empty dedupe))]

end BuildRunner.Inspect
