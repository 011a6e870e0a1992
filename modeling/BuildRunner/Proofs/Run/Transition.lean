import BuildRunner.Proofs.Run.History
import Mathlib.Tactic.Common

/-!
What one step of the slot can do, said once: the events that a slot refuses, and one rule for every
way in which the others change it. Every step follows one of the rules (`transition_step`), and what
is proved about runs is proved rule by rule.
-/

namespace BuildRunner

/-! ### Slots and events -/

/-- The slot holds a task whose process has been asked for and not been told to end. -/
inductive Slot.Up : Slot → TaskId → Verb → Option Instant → Prop where
  | spawning (task : TaskId) (invocation : Invocation) :
    Up (.spawning task invocation) task invocation.verb none
  | running (task : TaskId) (invocation : Invocation) (since : Instant) :
    Up (.running task invocation since) task invocation.verb (some since)

lemma Slot.Up.liveTask_eq {slot : Slot} {task : TaskId} {verb : Verb} {since : Option Instant}
    (h : slot.Up task verb since) : slot.liveTask = some task := by
  cases h <;> rfl

lemma Slot.up_of_spawning {slot : Slot} {task : TaskId} {invocation : Invocation}
    (h : slot = .spawning task invocation) : slot.Up task invocation.verb none :=
  h ▸ .spawning task invocation

lemma Slot.up_of_running {slot : Slot} {task : TaskId} {invocation : Invocation} {since : Instant}
    (h : slot = .running task invocation since) : slot.Up task invocation.verb (some since) :=
  h ▸ .running task invocation since

/-- **The events that a slot refuses**: requests and stops out of place, reports on tasks that do
not hold the slot, and reports that come too early or too late. -/
inductive Slot.Refuses : Slot → Event → Prop where
  | busy {slot : Slot} {request : Request} (busy : slot ≠ .idle)
    (valid : request.verb.fault? = none) (unforced : request.force = false) :
    Refuses slot (.runRequested request)
  | nothingToStop : Refuses .idle .stopRequested
  | prepared {slot : Slot} {task : TaskId} (stale : ∀ request, slot ≠ .preparing task request)
    (invocation : Invocation) : Refuses slot (.prepared task invocation)
  | prepareFailed {slot : Slot} {task : TaskId}
    (stale : ∀ request, slot ≠ .preparing task request) (reason : String) :
    Refuses slot (.prepareFailed task reason)
  | foreign {slot : Slot} {e : ProcessEvent} (foreign : slot.liveTask ≠ some e.task) :
    Refuses slot (.process e)
  | startedAgain (task : TaskId) (invocation : Invocation) (since time : Instant)
    (pid : Option Nat) :
    Refuses (.running task invocation since) (.process ⟨task, time, .started pid⟩)
  | startedTwice (task : TaskId) (verb : Verb) (since : Instant) (next : Option Request)
    (time : Instant) (pid : Option Nat) :
    Refuses (.stopping task verb (some since) next) (.process ⟨task, time, .started pid⟩)
  | unheard {slot : Slot} (quiet : ∀ task invocation since, slot ≠ .running task invocation since)
    (task : TaskId) (time : Instant) (stream : Stream) (text : String) :
    Refuses slot (.process ⟨task, time, .line stream text⟩)
  | failedLate (task : TaskId) (invocation : Invocation) (since time : Instant)
    (error : StartError) :
    Refuses (.running task invocation since) (.process ⟨task, time, .failed error⟩)

namespace Core

/-- How long a process has been up at a time: no time if it never came up. -/
def elapsed (since : Option Instant) (time : Instant) : Duration :=
  (since.map time.since).getD .zero

/-! ### The rules -/

/-- **The rules of the slot**: what an event can lead to, one rule for each kind of change. -/
inductive Transition (core : Core) : Event → Step → Prop where
  | refused {e : Event} (h : core.slot.Refuses e) : Transition core e core.ignore
  | invalid {request : Request} {fault : VerbError} (h : request.verb.fault? = some fault) :
    Transition core (.runRequested request)
      (core.goOn [.showError (Failure.message (.verb fault)),
        .announceRejected (Failure.message (.verb fault))])
  | begun {request : Request} (valid : request.verb.fault? = none)
    (h : core.slot = .idle ∨ request.force = true ∧ ∃ task old, core.slot = .preparing task old) :
    Transition core (.runRequested request) ((core.begin request).1.goOn [(core.begin request).2])
  | overruled {request : Request} {task : TaskId} {verb : Verb} {since : Option Instant}
    (valid : request.verb.fault? = none) (force : request.force = true)
    (h : core.slot.Up task verb since) :
    Transition core (.runRequested request)
      ({ core with slot := .stopping task verb since (some request) }.goOn [.kill task])
  | replaced {request : Request} {task : TaskId} {verb : Verb} {since : Option Instant}
    {old : Option Request} (valid : request.verb.fault? = none) (force : request.force = true)
    (h : core.slot = .stopping task verb since old) :
    Transition core (.runRequested request)
      ({ core with slot := .stopping task verb since (some request) }.goOn [])
  | withdrawn {task : TaskId} {request : Request} (h : core.slot = .preparing task request) :
    Transition core .stopRequested
      ({ core with slot := .idle }.goOn [.announceFinish task request.verb .cancelled .zero])
  | stopped {task : TaskId} {verb : Verb} {since : Option Instant}
    (h : core.slot.Up task verb since) :
    Transition core .stopRequested
      ({ core with slot := .stopping task verb since none }.goOn [.kill task])
  | dropped {task : TaskId} {verb : Verb} {since : Option Instant} {next : Option Request}
    (h : core.slot = .stopping task verb since next) :
    Transition core .stopRequested ({ core with slot := .stopping task verb since none }.goOn [])
  | shut (h : core.slot.liveTask = none) : Transition core .shutdownRequested ⟨core, [], false⟩
  | shutUp {task : TaskId} {verb : Verb} {since : Option Instant}
    (h : core.slot.Up task verb since) :
    Transition core .shutdownRequested ⟨core, [.kill task], false⟩
  | shutStopping {task : TaskId} {verb : Verb} {since : Option Instant} {next : Option Request}
    (h : core.slot = .stopping task verb since next) :
    Transition core .shutdownRequested
      ⟨{ core with slot := .stopping task verb since none }, [], false⟩
  | spawned {task : TaskId} {request : Request} {invocation : Invocation}
    (h : core.slot = .preparing task request) :
    Transition core (.prepared task invocation)
      ({ core with slot := .spawning task invocation }.goOn [.spawn task invocation])
  | unprepared {task : TaskId} {request : Request} {reason : String}
    (h : core.slot = .preparing task request) :
    Transition core (.prepareFailed task reason)
      ({ core with slot := .idle }.goOn [.showError reason, .announceRejected reason])
  | started {task : TaskId} {invocation : Invocation} {time : Instant} {pid : Option Nat}
    (h : core.slot = .spawning task invocation) :
    Transition core (.process ⟨task, time, .started pid⟩)
      ({ core with slot := .running task invocation time, format := none }.goOn
        [.clearDiagnostics, .setBusy true, .announceStart task invocation])
  | startedLate {task : TaskId} {verb : Verb} {next : Option Request} {time : Instant}
    {pid : Option Nat} (h : core.slot = .stopping task verb none next) :
    Transition core (.process ⟨task, time, .started pid⟩)
      ({ core with slot := .stopping task verb (some time) next }.goOn [])
  | heard {task : TaskId} {invocation : Invocation} {since time : Instant} {stream : Stream}
    {text : String} (h : core.slot = .running task invocation since) :
    Transition core (.process ⟨task, time, .line stream text⟩) (core.onLine stream text)
  | exited {task : TaskId} {verb : Verb} {since : Option Instant} {time : Instant}
    {code : Option Int} (h : core.slot.Up task verb since) :
    Transition core (.process ⟨task, time, .exited code⟩)
      ({ core with slot := .idle }.goOn
        [.setBusy false, .announceFinish task verb (.ofExit code) (elapsed since time)])
  | failed {task : TaskId} {invocation : Invocation} {time : Instant} {error : StartError}
    (h : core.slot = .spawning task invocation) :
    Transition core (.process ⟨task, time, .failed error⟩)
      ({ core with slot := .idle }.goOn
        [startFailureNotice invocation.command.program error,
          .announceFinish task invocation.verb (.startFailed error) .zero])
  | exitedStopping {task : TaskId} {verb : Verb} {since : Option Instant} {next : Option Request}
    {time : Instant} {code : Option Int} (h : core.slot = .stopping task verb since next) :
    Transition core (.process ⟨task, time, .exited code⟩)
      (core.finish [.setBusy false, .announceFinish task verb .cancelled (elapsed since time)] next)
  | failedStopping {task : TaskId} {verb : Verb} {since : Option Instant} {next : Option Request}
    {time : Instant} {error : StartError} (h : core.slot = .stopping task verb since next) :
    Transition core (.process ⟨task, time, .failed error⟩)
      (core.finish [.announceFinish task verb .cancelled .zero] next)

/-! ### Every step follows a rule -/

lemma transition_onRunRequested (core : Core) (request : Request) :
    Transition core (.runRequested request) (core.onRunRequested request) := by
  rcases hv : request.verb.fault? with _ | fault
  · rcases hs : core.slot with _ | ⟨task, old⟩ | ⟨task, i⟩ | ⟨task, i, t⟩ | ⟨task, v, t, old⟩ <;>
      rcases hf : request.force with _ | _ <;>
      simp only [onRunRequested, hv, hs, hf]
    · exact .begun hv (.inl hs)
    · exact .begun hv (.inl hs)
    · exact .refused (.busy (by simp [hs]) hv hf)
    · exact .begun hv (.inr ⟨hf, task, old, hs⟩)
    · exact .refused (.busy (by simp [hs]) hv hf)
    · exact .overruled hv hf (Slot.up_of_spawning hs)
    · exact .refused (.busy (by simp [hs]) hv hf)
    · exact .overruled hv hf (Slot.up_of_running hs)
    · exact .refused (.busy (by simp [hs]) hv hf)
    · exact .replaced hv hf hs
  · simp only [onRunRequested, hv]
    exact .invalid hv

lemma transition_onStopRequested (core : Core) :
    Transition core .stopRequested core.onStopRequested := by
  rcases hs : core.slot with _ | ⟨task, old⟩ | ⟨task, i⟩ | ⟨task, i, t⟩ | ⟨task, v, t, old⟩ <;>
    simp only [onStopRequested, hs]
  · exact .refused (hs ▸ .nothingToStop)
  · exact .withdrawn hs
  · exact .stopped (Slot.up_of_spawning hs)
  · exact .stopped (Slot.up_of_running hs)
  · exact .dropped hs

lemma transition_onShutdownRequested (core : Core) :
    Transition core .shutdownRequested core.onShutdownRequested := by
  rcases hs : core.slot with _ | ⟨task, old⟩ | ⟨task, i⟩ | ⟨task, i, t⟩ | ⟨task, v, t, old⟩ <;>
    simp only [onShutdownRequested, hs]
  · exact .shut (by simp [hs, Slot.liveTask])
  · exact .shut (by simp [hs, Slot.liveTask])
  · exact .shutUp (Slot.up_of_spawning hs)
  · exact .shutUp (Slot.up_of_running hs)
  · exact .shutStopping hs

lemma transition_onPrepared (core : Core) (task : TaskId) (invocation : Invocation) :
    Transition core (.prepared task invocation) (core.onPrepared task invocation) := by
  unfold onPrepared
  split
  case h_1 current request hs =>
    split
    case isTrue h => exact .spawned (h ▸ hs)
    case isFalse h => exact .refused (.prepared (by simp [hs, h]) invocation)
  case h_2 hs => exact .refused (.prepared (fun request => hs task request) invocation)

lemma transition_onPrepareFailed (core : Core) (task : TaskId) (reason : String) :
    Transition core (.prepareFailed task reason) (core.onPrepareFailed task reason) := by
  unfold onPrepareFailed
  split
  case h_1 current request hs =>
    split
    case isTrue h => exact .unprepared (h ▸ hs)
    case isFalse h => exact .refused (.prepareFailed (by simp [hs, h]) reason)
  case h_2 hs => exact .refused (.prepareFailed (fun request => hs task request) reason)

section Process

variable (core : Core) (task : TaskId) (time : Instant)

lemma transition_onStarted (h : core.slot.liveTask = some task) (pid : Option Nat) :
    Transition core (.process ⟨task, time, .started pid⟩) (core.onStarted time) := by
  rcases hs : core.slot with _ | ⟨t, old⟩ | ⟨t, i⟩ | ⟨t, i, since⟩ | ⟨t, v, _ | since, next⟩ <;>
    simp only [hs, Slot.liveTask, Option.some.injEq, reduceCtorEq] at h <;>
    subst h <;> simp only [onStarted, hs]
  · exact .started hs
  · exact .refused (hs ▸ .startedAgain t i since time pid)
  · exact .startedLate hs
  · exact .refused (hs ▸ .startedTwice t v since next time pid)

lemma transition_onLine (h : core.slot.liveTask = some task) (stream : Stream) (text : String) :
    Transition core (.process ⟨task, time, .line stream text⟩) (core.onLine stream text) := by
  rcases hs : core.slot with _ | ⟨t, old⟩ | ⟨t, i⟩ | ⟨t, i, since⟩ | ⟨t, v, since, next⟩ <;>
    simp only [hs, Slot.liveTask, Option.some.injEq, reduceCtorEq] at h <;> subst h
  · simp only [onLine, hs]
    exact .refused (.unheard (by simp [hs]) t time stream text)
  · exact .heard hs
  · simp only [onLine, hs]
    exact .refused (.unheard (by simp [hs]) t time stream text)

lemma transition_onExited (h : core.slot.liveTask = some task) (code : Option Int) :
    Transition core (.process ⟨task, time, .exited code⟩) (core.onExited time code) := by
  rcases hs : core.slot with _ | ⟨t, old⟩ | ⟨t, i⟩ | ⟨t, i, since⟩ | ⟨t, v, since, next⟩ <;>
    simp only [hs, Slot.liveTask, Option.some.injEq, reduceCtorEq] at h <;>
    subst h <;> simp only [onExited, hs]
  · exact .exited (Slot.up_of_spawning hs)
  · exact .exited (Slot.up_of_running hs)
  · exact .exitedStopping hs

lemma transition_onFailed (h : core.slot.liveTask = some task) (error : StartError) :
    Transition core (.process ⟨task, time, .failed error⟩) (core.onFailed error) := by
  rcases hs : core.slot with _ | ⟨t, old⟩ | ⟨t, i⟩ | ⟨t, i, since⟩ | ⟨t, v, since, next⟩ <;>
    simp only [hs, Slot.liveTask, Option.some.injEq, reduceCtorEq] at h <;>
    subst h <;> simp only [onFailed, hs]
  · exact .failed hs
  · exact .refused (hs ▸ .failedLate t i since time error)
  · exact .failedStopping hs

end Process

lemma transition_onProcess (core : Core) (e : ProcessEvent) :
    Transition core (.process e) (core.onProcess e) := by
  obtain ⟨task, time, what⟩ := e
  unfold onProcess
  split
  case isTrue h =>
    rcases what with pid | ⟨stream, text⟩ | code | error
    · exact transition_onStarted core task time h pid
    · exact transition_onLine core task time h stream text
    · exact transition_onExited core task time h code
    · exact transition_onFailed core task time h error
  case isFalse h => exact .refused (.foreign h)

/-- **Every step follows one of the rules.** -/
theorem transition_step (core : Core) (e : Event) : Transition core e (core.step e) := by
  rcases e with request | _ | _ | ⟨task, invocation⟩ | ⟨task, reason⟩ | e
  · exact transition_onRunRequested core request
  · exact transition_onStopRequested core
  · exact transition_onShutdownRequested core
  · exact transition_onPrepared core task invocation
  · exact transition_onPrepareFailed core task reason
  · exact transition_onProcess core e

/-! ### What the rules say of processes and tasks -/

/-- What looks for neither output nor diagnostics finds nothing in what follows from a line. -/
lemma filterMap_onLine {α : Type} {f : Action → Option α} (output : ∀ line, f (.output line) = none)
    (publish : ∀ diagnostic base, f (.publish diagnostic base) = none) (core : Core)
    (stream : Stream) (text : String) : (core.onLine stream text).actions.filterMap f = [] := by
  rw [List.filterMap_eq_nil_iff]
  intro a ha
  rcases mem_onLine ha with ⟨line, rfl⟩ | ⟨diagnostic, base, rfl⟩
  · exact output line
  · exact publish diagnostic base

/-- What looks for no words to the user finds nothing in those about a failed start. -/
lemma apply_startFailureNotice {α : Type} {f : Action → Option α}
    (info : ∀ message, f (.showInfo message) = none)
    (error : ∀ message, f (.showError message) = none) (program : String) (e : StartError) :
    f (startFailureNotice program e) = none := by
  obtain ⟨message, h | h⟩ := startFailureNotice_eq program e
  · rw [h, info]
  · rw [h, error]

/-- A line does not end the run of the slot. -/
lemma keepRunning_onLine (core : Core) (stream : Stream) (text : String) :
    (core.onLine stream text).keepRunning = true := by
  unfold onLine
  split
  · split
    · dsimp only
      split <;> rfl
    · rfl
  · rfl

/-- Only a request to shut down says that the owner is not to go on. -/
theorem keepRunning_step (core : Core) (e : Event) :
    (core.step e).keepRunning = false ↔ e = .shutdownRequested := by
  have ht := transition_step core e
  generalize core.step e = s at ht ⊢
  cases ht
  case refused h =>
    generalize core.slot = slot at h
    cases h <;> simp [goOn, ignore]
  case heard stream text hs => simp [keepRunning_onLine]
  case exitedStopping next time code hs => cases next <;> simp [finish, goOn]
  case failedStopping next time error hs => cases next <;> simp [finish, goOn]
  all_goals simp [goOn]

/-- A process is asked for only when its command has become known. -/
theorem spawn_mem_step {core : Core} {e : Event} {task : TaskId} {invocation : Invocation}
    (h : .spawn task invocation ∈ (core.step e).actions) :
    e = .prepared task invocation ∧ (∃ request, core.slot = .preparing task request) ∧
      core.step e =
        { core with slot := .spawning task invocation }.goOn [.spawn task invocation] := by
  have ht := transition_step core e
  generalize core.step e = s at ht h
  cases ht
  case spawned t q i hs =>
    simp at h
    obtain ⟨rfl, rfl⟩ := h
    exact ⟨rfl, ⟨q, hs⟩, rfl⟩
  case heard hs =>
    rcases mem_onLine h with ⟨_, h⟩ | ⟨_, _, h⟩ <;> cases h
  case failed t i time error hs =>
    obtain ⟨m, hm | hm⟩ := startFailureNotice_eq i.command.program error <;> simp [hm] at h
  all_goals simp [finish_actions, begin] at h

/-- A task that is prepared gets the next number and takes the slot; its request has just been made,
or has waited for the task before it to be gone. -/
theorem prepare_mem_step {core : Core} {e : Event} {task : TaskId} {request : Request}
    (h : .prepare task request ∈ (core.step e).actions) :
    task = core.nextTask ∧ (core.step e).core = (core.begin request).1 ∧
      (core.step e).actions.getLast? = some (.prepare task request) ∧
      (e = .runRequested request ∧ core.slot.liveTask = none ∨
        ∃ old verb since, core.slot = .stopping old verb since (some request)) := by
  have ht := transition_step core e
  generalize core.step e = s at ht h
  cases ht
  case begun r valid hs =>
    simp [begin] at h
    obtain ⟨rfl, rfl⟩ := h
    refine ⟨rfl, rfl, rfl, .inl ⟨rfl, ?_⟩⟩
    rcases hs with hs | ⟨-, t, old, hs⟩ <;> simp [hs]
  case exitedStopping t v since next time code hs =>
    simp [finish_actions] at h
    obtain ⟨rfl, rfl⟩ := h
    exact ⟨rfl, rfl, by simp [finish_actions], .inr ⟨t, v, since, hs⟩⟩
  case failedStopping t v since next time error hs =>
    simp [finish_actions] at h
    obtain ⟨rfl, rfl⟩ := h
    exact ⟨rfl, rfl, by simp [finish_actions], .inr ⟨t, v, since, hs⟩⟩
  case heard hs =>
    rcases mem_onLine h with ⟨_, h⟩ | ⟨_, _, h⟩ <;> cases h
  case failed t i time error hs =>
    obtain ⟨m, hm | hm⟩ := startFailureNotice_eq i.command.program error <;> simp [hm] at h
  all_goals simp at h

/-- A step begins a task, or it gives no number away and leaves the slot to the task that holds it
or to none. -/
theorem begins_or_keeps (core : Core) (e : Event) :
    (∃ request, .prepare core.nextTask request ∈ (core.step e).actions) ∨
      (core.step e).core.nextTask = core.nextTask ∧
      (∀ task, (core.step e).core.slot.task? = some task → core.slot.task? = some task) ∧
      ∀ task request, (core.step e).core.slot = .preparing task request →
        core.slot = .preparing task request := by
  have ht := transition_step core e
  generalize core.step e = s at ht
  cases ht
  case begun r valid hs => exact .inl ⟨r, by simp [begin]⟩
  case exitedStopping t v since next time code hs =>
    rcases next with _ | r
    · exact .inr ⟨rfl, by simp [finish_core], by simp [finish_core]⟩
    · exact .inl ⟨r, by simp [finish_actions]⟩
  case failedStopping t v since next time error hs =>
    rcases next with _ | r
    · exact .inr ⟨rfl, by simp [finish_core], by simp [finish_core]⟩
    · exact .inl ⟨r, by simp [finish_actions]⟩
  case heard stream text hs =>
    obtain ⟨format, hf⟩ := onLine_core core stream text
    simp [hf]
  case overruled hs =>
    exact .inr ⟨rfl, by simpa using Slot.task?_of_liveTask hs.liveTask_eq, by simp⟩
  case stopped hs => exact .inr ⟨rfl, by simpa using Slot.task?_of_liveTask hs.liveTask_eq, by simp⟩
  all_goals simp_all

/-- A live task leaves the slot only with the last report of its own process. -/
theorem live_step {core : Core} {task : TaskId} (h : core.slot.liveTask = some task) (e : Event) :
    (core.step e).core.slot.liveTask = some task ∨
      ∃ time what, what.isTerminal = true ∧ e = .process ⟨task, time, what⟩ := by
  have ht := transition_step core e
  generalize core.step e = s at ht
  cases ht
  case begun hs =>
    rcases hs with hs | ⟨-, t, old, hs⟩ <;> simp [hs] at h
  case overruled hs => exact .inl (hs.liveTask_eq.symm.trans h)
  case stopped hs => exact .inl (hs.liveTask_eq.symm.trans h)
  case heard stream text hs =>
    obtain ⟨format, hf⟩ := onLine_core core stream text
    exact .inl (by simpa [hf] using h)
  case exited t v since time code hs =>
    obtain rfl : t = task := by simpa [hs.liveTask_eq] using h
    exact .inr ⟨time, .exited code, rfl, rfl⟩
  case failed t i time error hs =>
    obtain rfl : t = task := by simpa [hs] using h
    exact .inr ⟨time, .failed error, rfl, rfl⟩
  case exitedStopping t v since next time code hs =>
    obtain rfl : t = task := by simpa [hs] using h
    exact .inr ⟨time, .exited code, rfl, rfl⟩
  case failedStopping t v since next time error hs =>
    obtain rfl : t = task := by simpa [hs] using h
    exact .inr ⟨time, .failed error, rfl, rfl⟩
  all_goals simp_all

/-- A task becomes live when its process is asked for. -/
theorem live_of_step {core : Core} {e : Event} {task : TaskId}
    (h : (core.step e).core.slot.liveTask = some task) :
    core.slot.liveTask = some task ∨
      ∃ invocation, .spawn task invocation ∈ (core.step e).actions := by
  have ht := transition_step core e
  generalize core.step e = s at ht h ⊢
  cases ht
  case begun => simp [begin] at h
  case overruled hup => exact .inl (hup.liveTask_eq.trans h)
  case stopped hup => exact .inl (hup.liveTask_eq.trans h)
  case spawned t request invocation hs =>
    obtain rfl : t = task := by simpa using h
    exact .inr ⟨invocation, by simp⟩
  case heard stream text hs =>
    obtain ⟨format, hf⟩ := onLine_core core stream text
    exact .inl (by simpa [hf] using h)
  case exitedStopping next _ _ _ => rcases next with _ | r <;> simp [finish_core, begin] at h
  case failedStopping next _ _ _ => rcases next with _ | r <;> simp [finish_core, begin] at h
  all_goals simp_all

/-- A run is made known when its process is reported as up. -/
theorem announceStart_mem_step {core : Core} {e : Event} {task : TaskId} {invocation : Invocation}
    (h : .announceStart task invocation ∈ (core.step e).actions) :
    core.slot = .spawning task invocation ∧
      ∃ time pid, e = .process ⟨task, time, .started pid⟩ ∧
        core.step e = { core with slot := .running task invocation time, format := none }.goOn
          [.clearDiagnostics, .setBusy true, .announceStart task invocation] := by
  have ht := transition_step core e
  generalize core.step e = s at ht h
  cases ht
  case started t i time pid hs =>
    obtain ⟨rfl, rfl⟩ : task = t ∧ invocation = i := by simpa using h
    exact ⟨hs, time, pid, rfl, rfl⟩
  case heard => rcases mem_onLine h with ⟨_, h⟩ | ⟨_, _, h⟩ <;> cases h
  case failed t i time error hs =>
    obtain ⟨m, hm | hm⟩ := startFailureNotice_eq i.command.program error <;> simp [hm] at h
  all_goals simp [finish_actions, begin] at h

/-- Only a live task is killed. -/
theorem kill_mem_step {core : Core} {e : Event} {task : TaskId}
    (h : .kill task ∈ (core.step e).actions) : ∃ verb since, core.slot.Up task verb since := by
  have ht := transition_step core e
  generalize core.step e = s at ht h
  cases ht
  case overruled t verb since valid force hup =>
    obtain rfl : task = t := by simpa using h
    exact ⟨verb, since, hup⟩
  case stopped t verb since hup =>
    obtain rfl : task = t := by simpa using h
    exact ⟨verb, since, hup⟩
  case shutUp t verb since hup =>
    obtain rfl : task = t := by simpa using h
    exact ⟨verb, since, hup⟩
  case heard => rcases mem_onLine h with ⟨_, h⟩ | ⟨_, _, h⟩ <;> cases h
  case failed t i time error hs =>
    obtain ⟨m, hm | hm⟩ := startFailureNotice_eq i.command.program error <;> simp [hm] at h
  all_goals simp [finish_actions, begin] at h

/-- A request that waits has just been made, or has waited before. -/
theorem waiting_step {core : Core} {e : Event} {task : TaskId} {verb : Verb}
    {since : Option Instant} {request : Request}
    (h : (core.step e).core.slot = .stopping task verb since (some request)) :
    e = .runRequested request ∨
      ∃ since, core.slot = .stopping task verb since (some request) := by
  have ht := transition_step core e
  generalize core.step e = s at ht h
  cases ht
  case heard stream text hs =>
    obtain ⟨format, hf⟩ := onLine_core core stream text
    exact .inr ⟨since, by simpa [hf] using h⟩
  case exitedStopping next _ _ _ => rcases next with _ | r <;> simp [finish_core, begin] at h
  case failedStopping next _ _ _ => rcases next with _ | r <;> simp [finish_core, begin] at h
  all_goals simp_all [begin]

/-- No step changes whether rendered text is put out. -/
lemma echoRendered_step (core : Core) (e : Event) :
    (core.step e).core.echoRendered = core.echoRendered := by
  have ht := transition_step core e
  generalize core.step e = s at ht ⊢
  cases ht
  case heard stream text hs =>
    obtain ⟨format, hf⟩ := onLine_core core stream text
    rw [hf]
  case exitedStopping next _ _ _ => cases next <;> rfl
  case failedStopping next _ _ _ => cases next <;> rfl
  all_goals rfl

lemma echoRendered_after (core : Core) (es : List Event) :
    (core.after es).echoRendered = core.echoRendered := by
  induction es generalizing core with
  | nil => rfl
  | cons e es ih => rw [after_cons, ih, echoRendered_step]

end Core

end BuildRunner
