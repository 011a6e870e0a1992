import BuildRunner.Process.Backend
import BuildRunner.Process.Supervisor

/-!
Several processes under supervision, and the handles that are held on them. A process is told to end
through its handle, or because that is let go; the handle of a process that is over says so.
-/

namespace BuildRunner

/-- Told how the supervision of a task stands: its handle is marked when that is over. -/
def Backend.note (b : Backend) (task : TaskId) (v : Supervisor) : Backend :=
  if v.state = .finished then b.finish task else b

/-- The handles that are held, and all the processes that were started, the newest first. -/
structure Fleet where
  backend : Backend
  processes : List (TaskId × Supervisor)
  deriving Repr, Inhabited

namespace Fleet

/-- No process yet. -/
def empty : Fleet := ⟨.empty, []⟩

/-- What is done to processes, and what happens to them. -/
inductive Move where
  /-- A process started for a task: it is over at once when nobody listens to its reports. None, if
  it could not be started. -/
  | spawn (task : TaskId) (heard : Option Bool)
  /-- The end of a task asked for. -/
  | kill (task : TaskId)
  /-- Something happens around the process of a task that is no request to end it. -/
  | around (task : TaskId) (i : Supervisor.Input) (outside : i ≠ .kill)

/-- The supervision of the process of a task. -/
def process? (f : Fleet) (task : TaskId) : Option Supervisor := f.processes.lookup task

/-- Whether a task has a process that is not over. -/
def isLive (f : Fleet) (task : TaskId) : Bool :=
  (f.process? task).any fun v => v.state ≠ .finished

/-- The tasks that are told to end: somebody asked, or lets go of a handle through which nobody has
asked. -/
def told (f : Fleet) : Move → List TaskId
  | .spawn task heard =>
    ((f.backend.spawn task heard.isSome).2.filter fun h => !h.asked).map Handle.task
  | .kill task => if (f.backend.kill task).2 then [task] else []
  | .around .. => []

/-- The processes after one thing that happens to those of some tasks. -/
def fed (f : Fleet) (tasks : List TaskId) (i : Supervisor.Input) : List (TaskId × Supervisor) :=
  f.processes.map fun p => if p.1 ∈ tasks then (p.1, (p.2.step i).1) else p

/-- The processes and their handles after a move. -/
def step (f : Fleet) (m : Move) : Fleet :=
  let processes := f.fed (f.told m) .kill
  match m with
  | .spawn task none => ⟨(f.backend.spawn task false).1, processes⟩
  | .spawn task (some heard) =>
    let started := (Supervisor.start heard none).1
    ⟨(f.backend.spawn task true).1.note task started, (task, started) :: processes⟩
  | .kill task => ⟨(f.backend.kill task).1, processes⟩
  | .around task i _ =>
    let behind := (f.process? task).map fun v => (v.step i).1
    ⟨behind.elim f.backend (f.backend.note task), f.fed [task] i⟩

/-- What becomes of processes and handles by moves, one after the other. -/
def after (f : Fleet) (ms : List Move) : Fleet := ms.foldl step f

end Fleet

end BuildRunner
