import BuildRunner.Process.Event

/-!
The handles of running processes, one for each task. Starting a process discards the handles of
processes that are over; asking for the end of a task reaches its process at most once, and no
other one.
-/

namespace BuildRunner

/-- The handle of a started process. -/
structure Handle where
  task : TaskId
  /-- Whether the end of the process has been asked for. -/
  asked : Bool
  /-- Whether the end of the process has been reported. -/
  finished : Bool
  deriving DecidableEq, Repr, Inhabited

namespace Handle

/-- The handle of a process that was just started. -/
def fresh (task : TaskId) : Handle := ⟨task, false, false⟩

/-- The end of the process asked for, and whether that reached it. -/
def kill (h : Handle) : Handle × Bool := ({ h with asked := true }, !h.asked && !h.finished)

/-- The end of the process reported. -/
def finish (h : Handle) : Handle := { h with finished := true }

end Handle

/-- The handles of the tasks. -/
structure Backend where
  handles : List Handle
  deriving Repr, Inhabited

namespace Backend

/-- No process yet. -/
def empty : Backend := ⟨[]⟩

/-- The handle of a task. -/
def find? (b : Backend) (task : TaskId) : Option Handle := b.handles.find? (·.task = task)

/-- A process started for a task, or not, if it could not be. Handles of processes that are over
are discarded, and one that the task had before is replaced; the second value holds all those that
are let go. -/
def spawn (b : Backend) (task : TaskId) (isUp : Bool) : Backend × List Handle :=
  let ended := b.handles.filter (·.finished)
  let rest := b.handles.filter fun h => !h.finished
  if isUp then (⟨.fresh task :: rest.filter (·.task ≠ task)⟩, ended ++ rest.filter (·.task = task))
  else (⟨rest⟩, ended)

/-- The end of a task asked for, and whether that reached a process. -/
def kill (b : Backend) (task : TaskId) : Backend × Bool :=
  (⟨b.handles.map fun h => if h.task = task then h.kill.1 else h⟩,
    ((b.find? task).map (·.kill.2)).getD false)

/-- The end of a task reported. -/
def finish (b : Backend) (task : TaskId) : Backend :=
  ⟨b.handles.map fun h => if h.task = task then h.finish else h⟩

/-- How many processes have not been reported as ended. -/
def liveCount (b : Backend) : Nat := (b.handles.filter fun h => !h.finished).length

end Backend

end BuildRunner
