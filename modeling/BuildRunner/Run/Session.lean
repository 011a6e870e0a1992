import BuildRunner.Diagnostic.Published
import BuildRunner.Run.Core
import BuildRunner.Run.Planner
import BuildRunner.Run.Summary

/-!
A session: the rules of the slot together with what is published, the planner, and the switch for
diagnostics. Handling an event turns the actions that follow from it into effects on the world
outside; a run to be prepared is handed back to the owner.
-/

namespace BuildRunner

/-- What subscribers are told. -/
inductive Notice where
  | started (task : TaskId) (verb : Verb) (commandLine : String)
  | finished (task : TaskId) (verb : Verb) (outcome : Outcome) (elapsed : Duration)
      (diagnostics : Snapshot)
  | rejected (reason : String)
  deriving DecidableEq, Repr

/-- What a session does to the world outside. -/
inductive Effect where
  | probe (command : Command)
  | spawn (task : TaskId) (command : Command)
  | kill (task : TaskId)
  | busy (on : Bool)
  | output (line : String)
  | info (message : String)
  | error (message : String)
  | display (update : Update)
  | notice (n : Notice)
  deriving Repr

/-- The state of a session. -/
structure Session where
  core : Core
  planner : Planner
  published : Published
  /-- Whether diagnostics are published. -/
  enabled : Bool

/-- A task whose run is to be prepared. -/
structure Preparation where
  task : TaskId
  request : Request
  deriving DecidableEq, Repr

/-- What comes of an event or an action. -/
structure Handled where
  session : Session
  effects : List Effect
  preparations : List Preparation

namespace Session

/-- A session for a configuration. -/
def new (c : Config) (enabled : Bool) : Session :=
  ⟨.initial c.echoRendered, .new c.executable c.args, .empty c.dedupe, enabled⟩

/-- The line put out when a run begins; `clock` is the time of day. -/
def banner (clock : String) (i : Invocation) : String :=
  "[" ++ clock ++ "] Running `" ++ i.command.line ++ "` in " ++ i.command.cwd.text

/-- One action carried out. -/
def perform (clock : String) (s : Session) : Action → Handled
  | .prepare task request => ⟨s, [], [⟨task, request⟩]⟩
  | .spawn task invocation => ⟨s, [.spawn task invocation.command], []⟩
  | .kill task => ⟨s, [.kill task], []⟩
  | .clearDiagnostics =>
    let (published, updates) := s.published.clear
    ⟨{ s with published }, updates.map .display, []⟩
  | .publish diagnostic base =>
    if s.enabled then
      let (published, update) := s.published.publish diagnostic base
      ⟨{ s with published }, update.toList.map .display, []⟩
    else ⟨s, [], []⟩
  | .output line => ⟨s, [.output line], []⟩
  | .setBusy on => ⟨s, [.busy on], []⟩
  | .showInfo message => ⟨s, [.info message], []⟩
  | .showError message => ⟨s, [.error message], []⟩
  | .announceStart task invocation =>
    ⟨s, [.output (banner clock invocation),
      .notice (.started task invocation.verb invocation.command.line)], []⟩
  | .announceFinish task verb outcome elapsed =>
    let counts := s.published.snapshot
    ⟨s, [.output (summaryLine verb outcome elapsed counts),
      .notice (.finished task verb outcome elapsed counts)], []⟩
  | .announceRejected reason => ⟨s, [.notice (.rejected reason)], []⟩

/-- Actions carried out one after the other. -/
def performAll (clock : String) (s : Session) (actions : List Action) : Handled :=
  actions.foldl (fun h action =>
    let h' := perform clock h.session action
    ⟨h'.session, h.effects ++ h'.effects, h.preparations ++ h'.preparations⟩) ⟨s, [], []⟩

/-- An event handled, and whether the session goes on. -/
def handle (clock : String) (s : Session) (e : Event) : Handled × Bool :=
  let step := s.core.step e
  (performAll clock { s with core := step.core } step.actions, step.keepRunning)

/-- A run prepared once its working directory is known: the session, the event that reports it, and
the probe that was run. -/
def prepare (s : Session) (supports : Command → Bool) (p : Preparation)
    (cwd : Except DirectoryError Path) : Session × Event × List Effect :=
  match cwd with
  | .error e => (s, .prepareFailed p.task (Failure.message (.directory e)), [])
  | .ok cwd =>
    let plan := s.planner.plan supports p.request cwd
    ({ s with planner := plan.planner }, .prepared p.task plan.invocation,
      plan.probe.toList.map .probe)

end Session

end BuildRunner
