import BuildRunner.Proofs.Run.Announced

/-!
What a step does to a running task, and to what it has to show. While a task runs it meets its end,
or a line, or what leaves everything as it is; while none does, one begins to or nothing changes
that a run shows.
-/

namespace BuildRunner

/-- The slot holds a task whose process is running. -/
def Slot.Runs (slot : Slot) (task : TaskId) (invocation : Invocation) : Prop :=
  ∃ since, slot = .running task invocation since

lemma Slot.Runs.inj {slot : Slot} {task task' : TaskId} {invocation invocation' : Invocation}
    (h : slot.Runs task invocation) (h' : slot.Runs task' invocation') :
    task = task' ∧ invocation = invocation' := by
  obtain ⟨since, rfl⟩ := h
  obtain ⟨since', h'⟩ := h'
  obtain ⟨htask, hinvocation, -⟩ := Slot.running.inj h'
  exact ⟨htask, hinvocation⟩

namespace Core

variable {core : Core} {task : TaskId} {invocation : Invocation}

/-! ### What a line does -/

/-- **A line of a running task on its standard output** is read whatever it begins with: the test
of its first character only saves work. -/
theorem onLine_stdout {since : Instant} (h : core.slot = .running task invocation since)
    (text : String) :
    core.onLine .stdout text =
      let (reading, format) := Message.read core.format text
      { core with format }.goOn
        (if reading.isJson then messageActions core.echoRendered invocation.command.cwd reading
          else [.output text]) := by
  obtain ⟨slot, nextTask, format, echoRendered⟩ := core
  obtain rfl : slot = .running task invocation since := h
  by_cases hlooks : looksLikeObject text = true
  · simp only [onLine, hlooks, and_self, if_true]
    split <;> rfl
  · rw [Bool.not_eq_true] at hlooks
    simp [onLine, hlooks, Message.read_of_not_looksLikeObject hlooks, Message.Reading.plain]

lemma onLine_stderr {since : Instant} (h : core.slot = .running task invocation since)
    (text : String) : core.onLine .stderr text = core.goOn [.output text] := by
  simp [onLine, h]

lemma foldl_messageActions (echoRendered enabled : Bool) (cwd : Path) (r : Message.Reading)
    (p : Published) :
    (messageActions echoRendered cwd r).foldl (Action.applyTo enabled) p =
      p.publishAll cwd (if enabled then r.diagnostic else none).toList := by
  have hquiet (lines : List String) : ∀ a ∈ lines.map Action.output, a.isQuiet = true := by
    intro a ha
    obtain ⟨line, -, rfl⟩ := List.mem_map.1 ha
    rfl
  have hecho : (if echoRendered then ((r.rendered.map renderedLines).getD []).map .output
      else []).foldl (Action.applyTo enabled) p = p := by
    split
    · exact Session.foldl_applyTo_of_quiet (hquiet _) enabled p
    · rfl
  rw [messageActions, List.foldl_append, hecho]
  rcases r.diagnostic with _ | d <;> cases enabled <;> rfl

/-- What a line changes is the format, and what is published by the diagnostic that it holds. -/
lemma onLine_stdout_published (h : core.slot.Runs task invocation) (text : String) (enabled : Bool)
    (p : Published) :
    (core.onLine .stdout text).core = { core with format := (Message.read core.format text).2 } ∧
      (core.onLine .stdout text).actions.foldl (Action.applyTo enabled) p =
        p.publishAll invocation.command.cwd
          (if enabled then (Message.read core.format text).1.diagnostic else none).toList := by
  obtain ⟨since, h⟩ := h
  rw [onLine_stdout h]
  refine ⟨rfl, ?_⟩
  by_cases hjson : (Message.read core.format text).1.isJson = true
  · simp only [goOn_actions, hjson, if_true]
    exact foldl_messageActions _ _ _ _ _
  · rw [Bool.not_eq_true] at hjson
    simp [Message.read_of_not_isJson hjson, Message.Reading.plain, Action.applyTo]

lemma announced?_onLine (core : Core) (stream : Stream) (text : String) (since : List Moment) :
    (core.onLine stream text).announced? since = none := by
  rw [Step.announced?, List.findSome?_eq_none_iff]
  intro a ha
  rcases mem_onLine ha with ⟨line, rfl⟩ | ⟨d, base, rfl⟩ <;> rfl

/-! ### What a step does to a running task -/

lemma not_ends_of_refuses {slot : Slot} {e : Event} (h : slot.Refuses e) {task : TaskId}
    {invocation : Invocation} (hs : slot.Runs task invocation) :
    e.endsRunning task = false ∧ e.stdoutLine? task = none := by
  obtain ⟨since, rfl⟩ := hs
  cases h with
  | busy _ _ unforced => simp [Event.endsRunning, Event.stdoutLine?, unforced]
  | @foreign _ e hf =>
    obtain ⟨t, time, what⟩ := e
    have hne : t ≠ task := fun h => hf (by simp [h])
    cases what with
    | line stream text => cases stream <;> simp [Event.endsRunning, Event.stdoutLine?, hne]
    | _ => simp [Event.endsRunning, Event.stdoutLine?, hne]
  | unheard quiet => exact absurd rfl (quiet task invocation since)
  | _ => exact ⟨rfl, rfl⟩

lemma quiet_startFailureNotice (core : Core) (program : String) (error : StartError) {a : Action}
    (ha : a.isQuiet = true) : (core.goOn [startFailureNotice program error, a]).Quiet := by
  intro b hb
  rcases List.mem_pair.1 hb with rfl | rfl
  · obtain ⟨message, h | h⟩ := startFailureNotice_eq program error <;> rw [h] <;> rfl
  · exact ha

/-- **What a running task can meet**: its end, something that leaves it as it is, or a line on its
standard output. -/
theorem running_step (h : core.slot.Runs task invocation) (e : Event) :
    (e.endsRunning task = true ∧ (∀ t i, ¬ (core.step e).core.slot.Runs t i) ∧
      (core.step e).Quiet) ∨
    (e.endsRunning task = false ∧ e.stdoutLine? task = none ∧ (core.step e).core = core ∧
      (core.step e).Quiet) ∨
    ∃ time text, e = .process ⟨task, time, .line .stdout text⟩ ∧
      core.step e = core.onLine .stdout text := by
  obtain ⟨since, hs⟩ := h
  have ht := transition_step core e
  generalize core.step e = s at ht
  cases ht
  case refused href =>
    obtain ⟨hends, hline⟩ := not_ends_of_refuses href ⟨since, hs⟩
    exact .inr (.inl ⟨hends, hline, rfl, by simp [Step.Quiet]⟩)
  case invalid fault hv => simp [Event.endsRunning, Event.stdoutLine?, Step.Quiet, Action.isQuiet, hv]
  case overruled request t v since' valid force hup =>
    simp [Event.endsRunning, Step.Quiet, Action.isQuiet, Slot.Runs, valid, force]
  case stopped => simp [Event.endsRunning, Step.Quiet, Action.isQuiet, Slot.Runs]
  case shutUp => simp [Event.endsRunning, Event.stdoutLine?, Step.Quiet, Action.isQuiet]
  case exited t v since' time code hup =>
    obtain rfl : task = t := by simpa [hs] using hup.liveTask_eq
    simp [Event.endsRunning, Step.Quiet, Action.isQuiet, Slot.Runs]
  case heard t i since' time stream text hs' =>
    obtain rfl : task = t := by simpa [hs] using congrArg Slot.task? hs'
    cases stream with
    | stdout => exact .inr (.inr ⟨time, text, rfl, rfl⟩)
    | stderr =>
      rw [onLine_stderr hs]
      exact .inr (.inl ⟨rfl, rfl, rfl, by simp [Step.Quiet, Action.isQuiet]⟩)
  all_goals simp_all

/-- **What can happen while no task is running**: one begins to, or none does. -/
theorem idle_step (h : ∀ t i, ¬ core.slot.Runs t i) (e : Event) :
    (∃ task invocation time, core.slot = .spawning task invocation ∧
      core.step e = { core with slot := .running task invocation time, format := none }.goOn
        [.clearDiagnostics, .setBusy true, .announceStart task invocation]) ∨
    (∀ t i, ¬ (core.step e).core.slot.Runs t i) ∧ (core.step e).Quiet := by
  have ht := transition_step core e
  generalize core.step e = s at ht
  cases ht
  case started task invocation time pid hs => exact .inl ⟨task, invocation, time, hs, rfl⟩
  case exitedStopping next _ _ _ =>
    rcases next with _ | request <;>
      simp [Step.Quiet, Action.isQuiet, Slot.Runs, begin, finish_core, finish_actions]
  case failedStopping next _ _ _ =>
    rcases next with _ | request <;>
      simp [Step.Quiet, Action.isQuiet, Slot.Runs, begin, finish_core, finish_actions]
  case failed => exact .inr ⟨by simp [Slot.Runs], quiet_startFailureNotice _ _ _ rfl⟩
  all_goals simp_all [Step.Quiet, Action.isQuiet, Slot.Runs, begin]

end Core

end BuildRunner
