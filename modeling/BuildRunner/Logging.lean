import BuildRunner.CommandLine
import BuildRunner.Text.Blank
import BuildRunner.Text.LowerCase

/-!
Levels of the log: their names, and which of the logged events are seen.
-/

namespace BuildRunner.LogLevel

/-- The name of a level in the log. -/
def name : LogLevel → String
  | error => "ERROR"
  | warn => "WARN"
  | info => "INFO"
  | debug => "DEBUG"
  | trace => "TRACE"

/-- How much a level lets through. -/
def rank : LogLevel → Nat
  | error => 1
  | warn => 2
  | info => 3
  | debug => 4
  | trace => 5

/-- The level that a text names; blank space around it and its case do not count. -/
def ofText? (s : String) : Option LogLevel :=
  match Text.lowerCase (Text.trim s) with
  | "error" => some error
  | "warn" => some warn
  | "warning" => some warn
  | "info" => some info
  | "debug" => some debug
  | "trace" => some trace
  | _ => none

/-- The level in force: the one asked for, else the one that the environment names, else `info`. -/
def inForce (asked : Option LogLevel) (environment : Option String) : LogLevel :=
  (asked.or (environment.bind ofText?)).getD info

/-- The names of the levels of the events that are seen, in alphabetical order. -/
def seen (limit : LogLevel) (events : List LogLevel) : List String :=
  ([debug, error, info, trace, warn].filter fun l => l.rank ≤ limit.rank && events.contains l).map
    name

end BuildRunner.LogLevel
