import BuildRunner.Json.Printer
import BuildRunner.Proofs.Run.Balance

/-!
A core that is idle carries nothing over. Its rules treat all numbers of tasks alike (`step_shift`),
and they look at the format of the messages only while a task is running, which every task begins
without one (`Resembles.step`). So behind any run that leaves the slot idle a core does what a new
one does, with the numbers of its tasks shifted by those that were given out.
-/

namespace BuildRunner

/-! ### Tasks renumbered -/

/-- A task with its number shifted. -/
def TaskId.shift (n : Nat) (t : TaskId) : TaskId := ⟨t.number + n⟩

lemma TaskId.shift_injective (n : Nat) : Function.Injective (shift n) := by
  intro s t h
  have hnumber : s.number + n = t.number + n := congrArg TaskId.number h
  exact congrArg mk (Nat.add_right_cancel hnumber)

@[simp] lemma TaskId.shift_inj {n : Nat} {s t : TaskId} : s.shift n = t.shift n ↔ s = t :=
  (shift_injective n).eq_iff

/-- A slot with its task renumbered. -/
def Slot.shift (n : Nat) : Slot → Slot
  | idle => idle
  | preparing task request => preparing (task.shift n) request
  | spawning task invocation => spawning (task.shift n) invocation
  | running task invocation since => running (task.shift n) invocation since
  | stopping task verb since next => stopping (task.shift n) verb since next

/-- An action with its task renumbered. -/
def Action.shift (n : Nat) : Action → Action
  | prepare task request => prepare (task.shift n) request
  | spawn task invocation => spawn (task.shift n) invocation
  | kill task => kill (task.shift n)
  | announceStart task invocation => announceStart (task.shift n) invocation
  | announceFinish task verb outcome elapsed => announceFinish (task.shift n) verb outcome elapsed
  | a => a

/-- An event with its task renumbered. -/
def Event.shift (n : Nat) : Event → Event
  | prepared task invocation => prepared (task.shift n) invocation
  | prepareFailed task reason => prepareFailed (task.shift n) reason
  | process e => process { e with task := e.task.shift n }
  | e => e

/-- A core with its tasks renumbered. -/
def Core.shift (n : Nat) (core : Core) : Core :=
  { core with slot := core.slot.shift n, nextTask := core.nextTask.shift n }

/-- A step with its tasks renumbered. -/
def Step.shift (n : Nat) (s : Step) : Step :=
  { s with core := s.core.shift n, actions := s.actions.map (Action.shift n) }

lemma Slot.liveTask_shift (n : Nat) (slot : Slot) :
    (slot.shift n).liveTask = slot.liveTask.map (TaskId.shift n) := by
  cases slot <;> rfl

lemma Slot.phase_shift (n : Nat) (slot : Slot) : (slot.shift n).phase = slot.phase := by
  cases slot <;> rfl

namespace Core

/-! ### The rules treat all numbers alike -/

section Shift

variable (n : Nat) (core : Core)

@[simp] lemma goOn_shift (actions : List Action) :
    (core.goOn actions).shift n = (core.shift n).goOn (actions.map (Action.shift n)) := rfl

@[simp] lemma ignore_shift : core.ignore.shift n = (core.shift n).ignore := rfl

lemma finish_shift (actions : List Action) (next : Option Request) :
    (core.finish actions next).shift n =
      (core.shift n).finish (actions.map (Action.shift n)) next := by
  cases next with
  | none => rfl
  | some request =>
    simp [finish, begin, goOn, Step.shift, shift, Slot.shift, Action.shift, TaskId.shift,
      Nat.add_right_comm]

lemma onRunRequested_shift (request : Request) :
    (core.shift n).onRunRequested request = (core.onRunRequested request).shift n := by
  obtain ⟨slot, nextTask, format, echoRendered⟩ := core
  rcases hv : request.verb.fault? with _ | fault
  · rcases hf : request.force with _ | _ <;> cases slot <;>
      simp [onRunRequested, hv, hf, shift, Slot.shift, begin, Action.shift, TaskId.shift,
        Nat.add_right_comm]
  · simp [onRunRequested, hv, Action.shift]

lemma onStopRequested_shift :
    (core.shift n).onStopRequested = core.onStopRequested.shift n := by
  obtain ⟨slot, nextTask, format, echoRendered⟩ := core
  cases slot <;> rfl

lemma onShutdownRequested_shift :
    (core.shift n).onShutdownRequested = core.onShutdownRequested.shift n := by
  obtain ⟨slot, nextTask, format, echoRendered⟩ := core
  cases slot <;> rfl

lemma onPrepared_shift (task : TaskId) (invocation : Invocation) :
    (core.shift n).onPrepared (task.shift n) invocation =
      (core.onPrepared task invocation).shift n := by
  obtain ⟨slot, nextTask, format, echoRendered⟩ := core
  cases slot with
  | preparing current request =>
    by_cases h : current = task <;> simp [onPrepared, shift, Slot.shift, Action.shift, h]
  | _ => rfl

lemma onPrepareFailed_shift (task : TaskId) (reason : String) :
    (core.shift n).onPrepareFailed (task.shift n) reason =
      (core.onPrepareFailed task reason).shift n := by
  obtain ⟨slot, nextTask, format, echoRendered⟩ := core
  cases slot with
  | preparing current request =>
    by_cases h : current = task <;> simp [onPrepareFailed, shift, Slot.shift, Action.shift, h]
  | _ => rfl

lemma onStarted_shift (time : Instant) :
    (core.shift n).onStarted time = (core.onStarted time).shift n := by
  obtain ⟨slot, nextTask, format, echoRendered⟩ := core
  rcases slot with _ | _ | _ | _ | ⟨task, verb, _ | since, next⟩ <;> rfl

/-- What follows from a line says nothing of tasks. -/
lemma map_shift_onLine (stream : Stream) (text : String) :
    (core.onLine stream text).actions.map (Action.shift n) =
      (core.onLine stream text).actions := by
  refine (List.map_congr_left fun a ha => ?_).trans (List.map_id _)
  rcases mem_onLine ha with ⟨line, rfl⟩ | ⟨diagnostic, base, rfl⟩ <;> rfl

lemma onLine_shift (stream : Stream) (text : String) :
    (core.shift n).onLine stream text = (core.onLine stream text).shift n := by
  have hactions := map_shift_onLine n core stream text
  obtain ⟨slot, nextTask, format, echoRendered⟩ := core
  rw [Step.shift, hactions]
  cases slot with
  | running task invocation since =>
    change Core.onLine ⟨.running (task.shift n) invocation since, nextTask.shift n, format,
      echoRendered⟩ stream text = _
    simp only [onLine]
    by_cases hlooks : stream = .stdout ∧ looksLikeObject text
    · by_cases hjson : (Message.read format text).1.isJson = true
      · simp only [if_pos hlooks, if_pos hjson]
        rfl
      · simp only [if_pos hlooks, if_neg hjson]
        rfl
    · simp only [if_neg hlooks]
      rfl
  | _ => rfl

lemma onExited_shift (time : Instant) (code : Option Int) :
    (core.shift n).onExited time code = (core.onExited time code).shift n := by
  obtain ⟨slot, nextTask, format, echoRendered⟩ := core
  cases slot with
  | stopping =>
    simp only [onExited, finish_shift]
    rfl
  | _ => rfl

lemma startFailureNotice_shift (program : String) (error : StartError) :
    (startFailureNotice program error).shift n = startFailureNotice program error := by
  obtain ⟨message, h | h⟩ := startFailureNotice_eq program error <;> rw [h] <;> rfl

lemma onFailed_shift (error : StartError) :
    (core.shift n).onFailed error = (core.onFailed error).shift n := by
  obtain ⟨slot, nextTask, format, echoRendered⟩ := core
  cases slot with
  | stopping =>
    simp only [onFailed, finish_shift]
    rfl
  | spawning task invocation =>
    simp only [onFailed, finish_shift, List.map_cons, startFailureNotice_shift]
    rfl
  | _ => rfl

lemma onProcess_shift (e : ProcessEvent) :
    (core.shift n).onProcess { e with task := e.task.shift n } = (core.onProcess e).shift n := by
  obtain ⟨task, time, what⟩ := e
  have hlive : (core.shift n).slot.liveTask = some (task.shift n) ↔
      core.slot.liveTask = some task := by
    rw [show (core.shift n).slot = core.slot.shift n from rfl, Slot.liveTask_shift]
    exact (Option.map_injective (TaskId.shift_injective n)).eq_iff (b := some task)
  unfold onProcess
  by_cases h : core.slot.liveTask = some task
  · rw [if_pos h, if_pos (hlive.2 h)]
    cases what with
    | started pid => exact onStarted_shift n core time
    | line stream text => exact onLine_shift n core stream text
    | exited code => exact onExited_shift n core time code
    | failed error => exact onFailed_shift n core error
  · rw [if_neg h, if_neg (mt hlive.1 h)]
    rfl

/-- **The rules treat all numbers of tasks alike.** -/
theorem step_shift (e : Event) : (core.shift n).step (e.shift n) = (core.step e).shift n := by
  cases e with
  | runRequested request => exact onRunRequested_shift n core request
  | stopRequested => exact onStopRequested_shift n core
  | shutdownRequested => exact onShutdownRequested_shift n core
  | prepared task invocation => exact onPrepared_shift n core task invocation
  | prepareFailed task reason => exact onPrepareFailed_shift n core task reason
  | process e => exact onProcess_shift n core e

end Shift

/-! ### The format counts only while a task is running -/

/-- A core that differs from another one at most in the format, and not while a task is running. -/
structure Resembles (core core' : Core) : Prop where
  eq : core' = { core with format := core'.format }
  format : core.slot.phase = .running → core'.format = core.format

section Resembles

variable {core core' : Core}

@[simp] lemma resembles_mk {slot : Slot} {task : TaskId} {format format' : Option Message.Format}
    {echoRendered : Bool} :
    Resembles ⟨slot, task, format, echoRendered⟩ ⟨slot, task, format', echoRendered⟩ ↔
      (slot.phase = .running → format' = format) :=
  ⟨Resembles.format, fun h => ⟨rfl, h⟩⟩

/-- **A core that resembles another one does the same**, and goes on to resemble it. -/
theorem Resembles.step (h : core.Resembles core') (e : Event) :
    (core.step e).core.Resembles (core'.step e).core ∧
      (core'.step e).actions = (core.step e).actions ∧
      (core'.step e).keepRunning = (core.step e).keepRunning := by
  obtain ⟨slot, nextTask, format, echoRendered⟩ := core
  obtain ⟨heq, hformat⟩ := h
  generalize core'.format = format' at heq hformat
  subst heq
  by_cases hrunning : slot.phase = .running
  · rw [hformat hrunning]
    exact ⟨⟨rfl, fun _ => rfl⟩, rfl, rfl⟩
  -- Else the format is not looked at, and a task that comes up begins without one.
  cases e with
  | runRequested request =>
    rcases hv : request.verb.fault? with _ | fault
    · rcases hf : request.force with _ | _ <;> cases slot <;>
        simp_all [Core.step, onRunRequested, ignore, goOn, begin, Slot.phase]
    · simp_all [Core.step, onRunRequested, goOn]
  | stopRequested =>
    cases slot <;> simp_all [Core.step, onStopRequested, ignore, goOn, Slot.phase]
  | shutdownRequested =>
    cases slot <;> simp_all [Core.step, onShutdownRequested, Slot.phase]
  | prepared task invocation =>
    cases slot with
    | preparing current request =>
      by_cases hcurrent : current = task <;>
        simp [Core.step, onPrepared, hcurrent, ignore, goOn, Slot.phase]
    | _ => simp_all [Core.step, onPrepared, ignore, goOn, Slot.phase]
  | prepareFailed task reason =>
    cases slot with
    | preparing current request =>
      by_cases hcurrent : current = task <;>
        simp [Core.step, onPrepareFailed, hcurrent, ignore, goOn, Slot.phase]
    | _ => simp_all [Core.step, onPrepareFailed, ignore, goOn, Slot.phase]
  | process e =>
    obtain ⟨task, time, what⟩ := e
    by_cases hlive : slot.liveTask = some task
    · cases slot with
      | idle => cases hlive
      | preparing => cases hlive
      | running => exact absurd rfl hrunning
      | spawning =>
        cases what <;>
          simp [Core.step, onProcess, hlive, onStarted, onLine, onExited, onFailed, finish, goOn,
            ignore, Slot.phase]
      | stopping current verb since next =>
        cases what <;> cases since <;> cases next <;>
          simp [Core.step, onProcess, hlive, onStarted, onLine, onExited, onFailed, finish, begin,
            goOn, ignore, Slot.phase]
    · simp [Core.step, onProcess, hlive, ignore, goOn, hrunning]

end Resembles

/-! ### The main statement -/

/-- What is seen of a step from outside. -/
structure Observation where
  actions : List Action
  keepRunning : Bool
  phase : Phase
  liveTask : Option TaskId

/-- An observation with its tasks renumbered. -/
def Observation.shift (n : Nat) (o : Observation) : Observation :=
  { o with actions := o.actions.map (Action.shift n), liveTask := o.liveTask.map (TaskId.shift n) }

/-- What is seen of the steps of a core. -/
def observe (core : Core) : List Event → List Observation
  | [] => []
  | e :: es =>
    let s := core.step e
    ⟨s.actions, s.keepRunning, s.core.slot.phase, s.core.slot.liveTask⟩ :: observe s.core es

lemma observe_shift (n : Nat) (core : Core) (es : List Event) :
    (core.shift n).observe (es.map (Event.shift n)) =
      (core.observe es).map (Observation.shift n) := by
  induction es generalizing core with
  | nil => rfl
  | cons e es ih =>
    simp only [List.map_cons, observe, step_shift]
    rw [show ((core.step e).shift n).core = (core.step e).core.shift n from rfl, ih]
    congr 1
    simp only [Observation.shift, Step.shift, Core.shift, Slot.phase_shift, Slot.liveTask_shift]

lemma Resembles.observe_eq {core core' : Core} (h : core.Resembles core') (es : List Event) :
    core'.observe es = core.observe es := by
  induction es generalizing core core' with
  | nil => rfl
  | cons e es ih =>
    obtain ⟨hcore, hactions, hkeep⟩ := h.step e
    simp only [observe, ih hcore, hactions, hkeep]
    have hslot : (core'.step e).core.slot = (core.step e).core.slot := by rw [hcore.eq]
    rw [hslot]

/-- **A core that is idle carries nothing over**: it does what a new one does, with the numbers of
its tasks shifted by those that were given out. -/
theorem observe_of_idle (echoRendered : Bool) {es : List Event}
    (hidle : ((initial echoRendered).after es).slot = .idle) (later : List Event) :
    let n := (preparedTasks ((initial echoRendered).history es)).length
    ((initial echoRendered).after es).observe (later.map (Event.shift n)) =
      ((initial echoRendered).observe later).map (Observation.shift n) := by
  intro n
  set core := (initial echoRendered).after es
  have hnext : core.nextTask = (initial echoRendered).nextTask.shift n := by
    obtain ⟨m, hprepared, hnext⟩ := numbered_run (initial echoRendered) es
    have hn : n = m := by simp [n, hprepared]
    exact congrArg TaskId.mk (hn ▸ hnext)
  have hecho : core.echoRendered = echoRendered := echoRendered_after (initial echoRendered) es
  have hresembles : ((initial echoRendered).shift n).Resembles core := by
    refine ⟨?_, fun h => by cases h⟩
    obtain ⟨slot, nextTask, format, echo⟩ := core
    simp only at hidle hnext hecho
    rw [hidle, hnext, hecho]
    rfl
  rw [hresembles.observe_eq, observe_shift]

/-- The format that a run settles on outlives it, and yet nothing comes of it: a stop of the next
run and late news of the first one are met as if there had been none. -/
theorem observe_of_idle_format :
    let build : Invocation := ⟨.build, ⟨"cargo", ["build"], ⟨"/work"⟩⟩, true⟩
    let line := (Json.object [("reason", .string "build-finished")]).render
    let es : List Event := [.runRequested ⟨.build, [], false⟩, .prepared ⟨1⟩ build,
      .process ⟨⟨1⟩, ⟨0⟩, .started none⟩, .process ⟨⟨1⟩, ⟨0⟩, .line .stdout line⟩,
      .process ⟨⟨1⟩, ⟨0⟩, .exited (some 0)⟩]
    let later : List Event := [.runRequested ⟨.check, [], true⟩,
      .process ⟨⟨0⟩, ⟨9⟩, .exited none⟩, .stopRequested]
    let core := (initial true).after es
    core.slot = .idle ∧ core.format = some .envelope ∧
      core.observe (later.map (Event.shift 1)) =
        ((initial true).observe later).map (Observation.shift 1) := by
  intro build line es later core
  have hidle : core.slot = .idle := by decide +kernel
  have hone : (preparedTasks ((initial true).history es)).length = 1 := by decide +kernel
  have hobserve := observe_of_idle true hidle later
  rw [hone] at hobserve
  exact ⟨hidle, by decide +kernel, hobserve⟩

end Core

end BuildRunner
