import BuildRunner.Run.Slot
import BuildRunner.Text.Blank

/-!
The rules of the slot: one step takes an event to a new state and the actions that follow from it.
At most one process is alive at a time. A request that meets a run in progress is dropped, unless
it is forced: then the process is told to end, and the newest such request is prepared once it
has. Events of any task but the live one are discarded.
-/

namespace BuildRunner

/-- The slot, the number of the next task, the format of the current run's messages, and whether
their rendered text is put out. -/
structure Core where
  slot : Slot
  nextTask : TaskId
  format : Option Message.Format
  echoRendered : Bool
  deriving Repr

/-- What follows from an event. -/
structure Step where
  core : Core
  actions : List Action
  keepRunning : Bool

namespace Core

/-- No run yet. -/
def initial (echoRendered : Bool) : Core := ⟨.idle, ⟨1⟩, none, echoRendered⟩

/-- A step to a state, with the actions that follow. -/
def goOn (core : Core) (actions : List Action) : Step := ⟨core, actions, true⟩

/-- A step that changes nothing. -/
def ignore (core : Core) : Step := core.goOn []

/-- The slot taken by a new task that is being prepared. -/
def begin (core : Core) (request : Request) : Core × Action :=
  ({ core with
      slot := .preparing core.nextTask request
      nextTask := ⟨core.nextTask.number + 1⟩ },
   .prepare core.nextTask request)

/-- What follows when a run is over: the next request is prepared, if one waits. -/
def finish (core : Core) (actions : List Action) (next : Option Request) : Step :=
  let core := { core with slot := .idle }
  match next with
  | none => core.goOn actions
  | some request =>
    let (core, action) := core.begin request
    core.goOn (actions ++ [action])

/-- A request for a run. -/
def onRunRequested (core : Core) (request : Request) : Step :=
  match request.verb.fault? with
  | some e =>
    let reason := Failure.message (.verb e)
    core.goOn [.showError reason, .announceRejected reason]
  | none =>
    let superseded (task : TaskId) (verb : Verb) (since : Option Instant) : Core :=
      { core with slot := .stopping task verb since (some request) }
    match core.slot, request.force with
    | .idle, _ =>
      let (core, action) := core.begin request
      core.goOn [action]
    | _, false => core.ignore
    | .preparing _ _, true =>
      let (core, action) := core.begin request
      core.goOn [action]
    | .spawning task invocation, true =>
      (superseded task invocation.verb none).goOn [.kill task]
    | .running task invocation since, true =>
      (superseded task invocation.verb (some since)).goOn [.kill task]
    | .stopping task verb since _, true => (superseded task verb since).goOn []

/-- A request to stop. -/
def onStopRequested (core : Core) : Step :=
  match core.slot with
  | .idle => core.ignore
  | .preparing task request =>
    { core with slot := .idle }.goOn [.announceFinish task request.verb .cancelled .zero]
  | .spawning task invocation =>
    { core with slot := .stopping task invocation.verb none none }.goOn [.kill task]
  | .running task invocation since =>
    { core with slot := .stopping task invocation.verb (some since) none }.goOn [.kill task]
  | .stopping task verb since _ => { core with slot := .stopping task verb since none }.goOn []

/-- A request to shut down. -/
def onShutdownRequested (core : Core) : Step :=
  match core.slot with
  | .idle => ⟨core, [], false⟩
  | .preparing _ _ => ⟨core, [], false⟩
  | .spawning task _ => ⟨core, [.kill task], false⟩
  | .running task _ _ => ⟨core, [.kill task], false⟩
  | .stopping task verb since _ =>
    ⟨{ core with slot := .stopping task verb since none }, [], false⟩

/-- The command of a task is known. -/
def onPrepared (core : Core) (task : TaskId) (invocation : Invocation) : Step :=
  match core.slot with
  | .preparing current _ =>
    if current = task then
      { core with slot := .spawning task invocation }.goOn [.spawn task invocation]
    else core.ignore
  | _ => core.ignore

/-- The working directory of a task could not be found out. -/
def onPrepareFailed (core : Core) (task : TaskId) (reason : String) : Step :=
  match core.slot with
  | .preparing current _ =>
    if current = task then
      { core with slot := .idle }.goOn [.showError reason, .announceRejected reason]
    else core.ignore
  | _ => core.ignore

/-- The live process is up. -/
def onStarted (core : Core) (time : Instant) : Step :=
  match core.slot with
  | .spawning task invocation =>
    { core with slot := .running task invocation time, format := none }.goOn
      [.clearDiagnostics, .setBusy true, .announceStart task invocation]
  | .stopping task verb none next =>
    { core with slot := .stopping task verb (some time) next }.goOn []
  | _ => core.ignore

/-- Whether a line may hold a JSON object. -/
def looksLikeObject (text : String) : Bool :=
  (Text.trimStart text.toList).head? == some '{'

/-- The lines of a message's rendered text. -/
def renderedLines (rendered : String) : List String :=
  Text.lines (String.ofList (Text.trimEnd rendered.toList))

/-- What follows from a message: its rendered text, if that is to be put out, and its diagnostic. -/
def messageActions (echoRendered : Bool) (cwd : Path) (r : Message.Reading) : List Action :=
  let echo := if echoRendered then ((r.rendered.map renderedLines).getD []).map .output else []
  echo ++ r.diagnostic.toList.map (.publish · cwd)

/-- A line of the live process. -/
def onLine (core : Core) (stream : Stream) (text : String) : Step :=
  match core.slot with
  | .running _ invocation _ =>
    if stream = .stdout ∧ looksLikeObject text then
      let (reading, format) := Message.read core.format text
      let core := { core with format }
      if reading.isJson then
        core.goOn (messageActions core.echoRendered invocation.command.cwd reading)
      else core.goOn [.output text]
    else core.goOn [.output text]
  | _ => core.ignore

/-- The live process is gone. -/
def onExited (core : Core) (time : Instant) (code : Option Int) : Step :=
  match core.slot with
  | .spawning task invocation =>
    core.finish [.setBusy false, .announceFinish task invocation.verb (.ofExit code) .zero] none
  | .running task invocation since =>
    core.finish
      [.setBusy false, .announceFinish task invocation.verb (.ofExit code) (time.since since)] none
  | .stopping task verb since next =>
    let elapsed := (since.map time.since).getD .zero
    core.finish [.setBusy false, .announceFinish task verb .cancelled elapsed] next
  | _ => core.ignore

/-- What the user is told about a failed start. -/
def startFailureNotice (program : String) (error : StartError) : Action :=
  if error.isNotFound then .showInfo ("`" ++ program ++ "` is not installed or not on PATH")
  else .showError error.message

/-- The live process could not be started. -/
def onFailed (core : Core) (error : StartError) : Step :=
  match core.slot with
  | .spawning task invocation =>
    core.finish
      [startFailureNotice invocation.command.program error,
        .announceFinish task invocation.verb (.startFailed error) .zero] none
  | .stopping task verb _ next =>
    core.finish [.announceFinish task verb .cancelled .zero] next
  | _ => core.ignore

/-- Something happened to a process. -/
def onProcess (core : Core) (e : ProcessEvent) : Step :=
  if core.slot.liveTask = some e.task then
    match e.what with
    | .started _ => core.onStarted e.time
    | .line stream text => core.onLine stream text
    | .exited code => core.onExited e.time code
    | .failed error => core.onFailed error
  else core.ignore

/-- What follows from an event. -/
def step (core : Core) : Event → Step
  | .runRequested request => core.onRunRequested request
  | .stopRequested => core.onStopRequested
  | .shutdownRequested => core.onShutdownRequested
  | .prepared task invocation => core.onPrepared task invocation
  | .prepareFailed task reason => core.onPrepareFailed task reason
  | .process e => core.onProcess e

/-! ### What steps hold -/

@[simp] theorem goOn_core (core : Core) (actions : List Action) :
    (core.goOn actions).core = core := rfl

@[simp] theorem goOn_actions (core : Core) (actions : List Action) :
    (core.goOn actions).actions = actions := rfl

@[simp] theorem ignore_core (core : Core) : core.ignore.core = core := rfl

@[simp] theorem ignore_actions (core : Core) : core.ignore.actions = [] := rfl

theorem finish_core (core : Core) (actions : List Action) (next : Option Request) :
    (core.finish actions next).core = match next with
      | none => { core with slot := .idle }
      | some request => (core.begin request).1 := by
  cases next <;> rfl

theorem finish_actions (core : Core) (actions : List Action) (next : Option Request) :
    (core.finish actions next).actions =
      actions ++ (next.map (Action.prepare core.nextTask)).toList := by
  cases next <;> simp [finish, begin]

/-- A line changes nothing but the format of the messages. -/
theorem onLine_core (core : Core) (stream : Stream) (text : String) :
    ∃ format, (core.onLine stream text).core = { core with format } := by
  unfold onLine
  split
  · split
    · dsimp only
      split <;> exact ⟨_, rfl⟩
    · exact ⟨core.format, rfl⟩
  · exact ⟨core.format, rfl⟩

/-- A message is put out and published. -/
theorem mem_messageActions {echoRendered : Bool} {cwd : Path} {r : Message.Reading} {a : Action}
    (h : a ∈ messageActions echoRendered cwd r) :
    (∃ line, a = .output line) ∨ ∃ diagnostic base, a = .publish diagnostic base := by
  simp only [messageActions, List.mem_append, List.mem_map] at h
  rcases h with h | ⟨d, -, rfl⟩
  · split at h
    · obtain ⟨line, -, rfl⟩ := List.mem_map.1 h
      exact .inl ⟨line, rfl⟩
    · simp at h
  · exact .inr ⟨d, cwd, rfl⟩

/-- A line is put out and published. -/
theorem mem_onLine {core : Core} {stream : Stream} {text : String} {a : Action}
    (h : a ∈ (core.onLine stream text).actions) :
    (∃ line, a = .output line) ∨ ∃ diagnostic base, a = .publish diagnostic base := by
  have output {h : a ∈ [Action.output text]} : ∃ line, a = .output line :=
    ⟨text, List.mem_singleton.1 h⟩
  unfold onLine at h
  split at h
  · split at h
    · dsimp only at h
      split at h
      · exact mem_messageActions h
      · exact .inl (output (h := h))
    · exact .inl (output (h := h))
  · simp at h

/-- What the user is told about a failed start is news or an error. -/
theorem startFailureNotice_eq (program : String) (error : StartError) :
    ∃ message, startFailureNotice program error = .showInfo message ∨
      startFailureNotice program error = .showError message := by
  unfold startFailureNotice
  split
  · exact ⟨_, .inl rfl⟩
  · exact ⟨_, .inr rfl⟩

end Core

end BuildRunner
