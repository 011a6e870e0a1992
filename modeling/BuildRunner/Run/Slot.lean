import BuildRunner.Message.Reading
import BuildRunner.Run.Request

/-!
The place of the one run that may be in progress, and the commands by which its owner is told what
to do next.
-/

namespace BuildRunner

/-- The run in progress. -/
inductive Slot where
  /-- There is none. -/
  | idle
  /-- Its working directory and command are being found out. -/
  | preparing (task : TaskId) (request : Request)
  /-- Its process is being started. -/
  | spawning (task : TaskId) (invocation : Invocation)
  /-- Its process is running. -/
  | running (task : TaskId) (invocation : Invocation) (since : Instant)
  /-- Its process has been told to end; `next` takes its place once it has. -/
  | stopping (task : TaskId) (verb : Verb) (since : Option Instant) (next : Option Request)
  deriving DecidableEq, Repr

/-- The state of a run, seen from afar. -/
inductive Phase where
  | idle
  | starting
  | running
  | stopping
  deriving DecidableEq, Repr

namespace Slot

/-- The task whose process may report. -/
def liveTask : Slot → Option TaskId
  | idle => none
  | preparing _ _ => none
  | spawning task _ => some task
  | running task _ _ => some task
  | stopping task _ _ _ => some task

/-- The task that holds the slot. -/
def task? : Slot → Option TaskId
  | preparing task _ => some task
  | s => s.liveTask

/-- The state of the run, seen from afar. -/
def phase : Slot → Phase
  | idle => .idle
  | preparing _ _ => .starting
  | spawning _ _ => .starting
  | running _ _ _ => .running
  | stopping _ _ _ _ => .stopping

section Task

variable (task : TaskId) (request : Request) (invocation : Invocation) (verb : Verb)

@[simp] theorem liveTask_idle : idle.liveTask = none := rfl
@[simp] theorem liveTask_preparing : (preparing task request).liveTask = none := rfl
@[simp] theorem liveTask_spawning : (spawning task invocation).liveTask = some task := rfl
@[simp] theorem liveTask_running (since : Instant) :
    (running task invocation since).liveTask = some task := rfl
@[simp] theorem liveTask_stopping (since : Option Instant) (next : Option Request) :
    (stopping task verb since next).liveTask = some task := rfl

@[simp] theorem task?_idle : idle.task? = none := rfl
@[simp] theorem task?_preparing : (preparing task request).task? = some task := rfl
@[simp] theorem task?_spawning : (spawning task invocation).task? = some task := rfl
@[simp] theorem task?_running (since : Instant) :
    (running task invocation since).task? = some task := rfl
@[simp] theorem task?_stopping (since : Option Instant) (next : Option Request) :
    (stopping task verb since next).task? = some task := rfl

theorem task?_of_liveTask {slot : Slot} {task : TaskId} (h : slot.liveTask = some task) :
    slot.task? = some task := by
  cases slot with
  | idle => simp at h
  | preparing => simp at h
  | spawning => exact h
  | running => exact h
  | stopping => exact h

end Task

end Slot

/-- What the owner of the slot is to do. -/
inductive Action where
  /-- Find out the working directory and the command of a task. -/
  | prepare (task : TaskId) (request : Request)
  /-- Start the process of a task. -/
  | spawn (task : TaskId) (invocation : Invocation)
  /-- Tell the process of a task to end. -/
  | kill (task : TaskId)
  /-- Withdraw what is published. -/
  | clearDiagnostics
  /-- Publish a diagnostic, its paths resolved against a directory. -/
  | publish (diagnostic : Diagnostic) (base : Path)
  /-- Put out a line. -/
  | output (line : String)
  /-- Switch the sign that a run is in progress. -/
  | setBusy (busy : Bool)
  /-- Tell the user something. -/
  | showInfo (message : String)
  /-- Tell the user that something is wrong. -/
  | showError (message : String)
  /-- Make known that a run began. -/
  | announceStart (task : TaskId) (invocation : Invocation)
  /-- Make known that a run is over. -/
  | announceFinish (task : TaskId) (verb : Verb) (outcome : Outcome) (elapsed : Duration)
  /-- Make known that a request came to nothing. -/
  | announceRejected (reason : String)
  deriving Repr

/-- What the owner of the slot reports. -/
inductive Event where
  | runRequested (request : Request)
  | stopRequested
  | shutdownRequested
  | prepared (task : TaskId) (invocation : Invocation)
  | prepareFailed (task : TaskId) (reason : String)
  | process (event : ProcessEvent)
  deriving Repr

end BuildRunner
