import BuildRunner.Duration
import BuildRunner.Process.Command

/-!
Tasks, and what their processes report.
-/

namespace BuildRunner

/-- The number of a run; each run that is prepared gets the next one. -/
structure TaskId where
  number : Nat
  deriving DecidableEq, Repr, Inhabited

namespace TaskId

/-- The number of a run as it is shown. -/
def label (t : TaskId) : String := "#" ++ toString t.number

end TaskId

/-- The two streams that a process writes to. -/
inductive Stream where
  | stdout
  | stderr
  deriving DecidableEq, Repr, Inhabited

/-- What happened to a process. A process that could be started is reported as started, then its
lines, then its exit; a signal leaves no exit code. One that could not be started has failed. -/
inductive Happening where
  | started (pid : Option Nat)
  | line (stream : Stream) (text : String)
  | exited (code : Option Int)
  | failed (error : StartError)
  deriving DecidableEq, Repr

namespace Happening

/-- Whether nothing follows. -/
def isTerminal : Happening → Bool
  | exited _ => true
  | failed _ => true
  | _ => false

end Happening

/-- What happened to the process of a task, and when. -/
structure ProcessEvent where
  task : TaskId
  time : Instant
  what : Happening
  deriving DecidableEq, Repr

end BuildRunner
