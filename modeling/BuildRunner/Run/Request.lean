import BuildRunner.Process.Event
import BuildRunner.Verb

/-!
What a run is asked to do, what it was made into, and how it ended.
-/

namespace BuildRunner

/-- A request to run a verb. A forced one takes the place of the run in progress. -/
structure Request where
  verb : Verb
  args : List String
  force : Bool
  deriving DecidableEq, Repr, Inhabited

/-- A request made into a command. -/
structure Invocation where
  verb : Verb
  command : Command
  structured : Bool
  deriving DecidableEq, Repr, Inhabited

/-- How a run ended. -/
inductive Outcome where
  /-- The process ran to its end. -/
  | completed (code : Int)
  /-- The run was stopped, or gave way to a forced one. -/
  | cancelled
  /-- The process could not be started. -/
  | startFailed (error : StartError)
  /-- The process ended without an exit code and without having been stopped. -/
  | abnormal
  deriving DecidableEq, Repr

namespace Outcome

/-- The outcome of a process that ended by itself. -/
def ofExit : Option Int → Outcome
  | some code => completed code
  | none => abnormal

/-- The exit code that stands for an outcome: of a run that was cancelled 130, of a tool that is
not there 127, of one that cannot be started 126. -/
def exitCode : Outcome → Int
  | completed code => code
  | cancelled => 130
  | startFailed (.notFound _) => 127
  | startFailed _ => 126
  | abnormal => 1

end Outcome

end BuildRunner
