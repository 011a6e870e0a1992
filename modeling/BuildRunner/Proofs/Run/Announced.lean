import BuildRunner.Proofs.Diagnostic.PublishAll
import BuildRunner.Proofs.Message.Lines
import BuildRunner.Proofs.Run.Moments
import BuildRunner.Proofs.Run.Transition

/-!
The runs that are made known. Each comes with what the session meets from then on, and what it has
to show is told from that alone: the lines that its own process puts out until it ends or is told
to, but for a shutdown, read from the first one on by nobody else. A request to shut down has the
process killed and leaves its task running: a line of it that is fed behind the request still
counts.
-/

namespace BuildRunner

/-! ### Events of a running task -/

/-- Whether an event ends the time in which a running task is listened to: a forced request, a
stop, or the end of its process. A request to shut down does not, though the task is killed. -/
def Event.endsRunning (task : TaskId) : Event → Bool
  | .runRequested request => request.force && request.verb.fault?.isNone
  | .stopRequested => true
  | .process ⟨current, _, .exited _⟩ => current = task
  | _ => false

/-- The line that a task put out on its standard output, if that is what happened. -/
def Event.stdoutLine? (task : TaskId) : Event → Option String
  | .process ⟨current, _, .line .stdout text⟩ => if current = task then some text else none
  | _ => none

lemma Event.stdoutLine?_of_endsRunning {task : TaskId} {e : Event} (h : e.endsRunning task = true) :
    e.stdoutLine? task = none := by
  unfold endsRunning at h
  split at h
  · rfl
  · rfl
  · rfl
  · cases h

/-! ### Runs made known -/

/-- A run that was made known, and what the session has met since. -/
structure Announced where
  task : TaskId
  invocation : Invocation
  since : List Moment

namespace Announced

/-- The lines of the run on its standard output until it is over, each with the position of the
switch. -/
def heard (a : Announced) : List (String × Bool) :=
  (a.since.takeWhile fun m => !m.event.endsRunning a.task).filterMap fun m =>
    (m.event.stdoutLine? a.task).map (·, m.enabled)

/-- The format that the lines of the run settle on. -/
def format (a : Announced) : Option Message.Format :=
  (Message.readAll none (a.heard.map (·.1))).2

/-- What the run has to show: the diagnostics of the lines for which the switch was on. -/
def diagnostics (a : Announced) : List Diagnostic := Message.marked a.heard

/-- What is published when the diagnostics of the run are all there is. -/
def published (a : Announced) (dedupe : Bool) : Published :=
  (Published.empty dedupe).publishAll a.invocation.command.cwd a.diagnostics

/-- One more thing that is met. -/
def push (a : Announced) (m : Moment) : Announced := { a with since := a.since ++ [m] }

/-- The run is not listened to any more. -/
def Over (a : Announced) : Prop := ∃ m ∈ a.since, m.event.endsRunning a.task = true

section Push

variable {a : Announced} {m : Moment}

@[simp] lemma task_push : (a.push m).task = a.task := rfl
@[simp] lemma invocation_push : (a.push m).invocation = a.invocation := rfl

lemma over_push : (a.push m).Over ↔ a.Over ∨ m.event.endsRunning a.task = true := by
  simp [Over, push, or_and_right, exists_or]

/-- Behind its end nothing of a run is heard. -/
lemma heard_push_of_over (h : a.Over) : (a.push m).heard = a.heard := by
  obtain ⟨m', hm', hends⟩ := h
  have hlen : (a.since.takeWhile fun m => !m.event.endsRunning a.task).length ≠
      a.since.length := by
    intro hlen
    have hall := List.takeWhile_eq_self_iff.1 ((List.takeWhile_prefix _).eq_of_length hlen) m' hm'
    simp [hends] at hall
  simp only [heard, push, List.takeWhile_append, if_neg hlen]

/-- Up to its end the lines of a run are heard. -/
lemma heard_push (h : ¬ a.Over) :
    (a.push m).heard = a.heard ++ ((m.event.stdoutLine? a.task).map (·, m.enabled)).toList := by
  have hall : ∀ m ∈ a.since, (!m.event.endsRunning a.task) = true := by simpa [Over] using h
  unfold heard push
  rw [List.takeWhile_append_of_pos hall, List.filterMap_append, List.takeWhile_eq_self_iff.2 hall]
  congr 1
  by_cases hends : m.event.endsRunning a.task = true
  · rw [List.takeWhile_cons_of_neg (by simp [hends]), Event.stdoutLine?_of_endsRunning hends]
    rfl
  · rw [List.takeWhile_cons_of_pos (by simpa using hends), List.takeWhile_nil]
    rfl

/-- What is no line of a run is not heard. -/
lemma heard_push_of_none (h : m.event.stdoutLine? a.task = none) : (a.push m).heard = a.heard := by
  by_cases hover : a.Over
  · exact heard_push_of_over hover
  · rw [heard_push hover, h]
    simp

section Heard

variable (h : (a.push m).heard = a.heard)

include h in
lemma format_push_of_heard : (a.push m).format = a.format := by unfold format; rw [h]

include h in
lemma published_push_of_heard (dedupe : Bool) : (a.push m).published dedupe = a.published dedupe := by
  unfold published diagnostics
  rw [h, invocation_push]

end Heard

section Line

variable {line : String} (h : ¬ a.Over) (hline : m.event.stdoutLine? a.task = some line)

include h hline in
lemma format_push_of_line : (a.push m).format = (Message.read a.format line).2 := by
  unfold format
  rw [heard_push h, hline]
  simp [Message.readAll_concat]

include h hline in
lemma published_push_of_line (dedupe : Bool) :
    (a.push m).published dedupe =
      (a.published dedupe).publishAll a.invocation.command.cwd
        (if m.enabled then (Message.read a.format line).1.diagnostic else none).toList := by
  unfold published diagnostics
  rw [heard_push h, hline]
  simp [Message.marked_concat, Published.publishAll_append, format]

end Line

end Push

end Announced

/-! ### The runs made known so far -/

/-- The run that a step makes known, with what is met from then on. -/
def Step.announced? (s : Step) (since : List Moment) : Option Announced :=
  s.actions.findSome? fun
    | .announceStart task invocation => some ⟨task, invocation, since⟩
    | _ => none

lemma Step.map_push_announced? (s : Step) (since : List Moment) (m : Moment) :
    (s.announced? since).map (·.push m) = s.announced? (since ++ [m]) := by
  rw [announced?, List.map_findSome?]
  congr 1
  funext a
  cases a <;> rfl

lemma Step.Quiet.announced?_eq {s : Step} (h : s.Quiet) (since : List Moment) :
    s.announced? since = none := by
  rw [announced?, List.findSome?_eq_none_iff]
  intro a ha
  have hq := h a ha
  cases a <;> first | rfl | cases hq

namespace Core

/-- The runs that are made known in a list of moments, the first one first. -/
def announcements (core : Core) : List Moment → List Announced
  | [] => []
  | m :: ms =>
    let step := core.step m.event
    (step.announced? ms).toList ++ announcements step.core ms

/-- The run that is made known last in a list of moments. -/
def lastAnnounced? (core : Core) (ms : List Moment) : Option Announced :=
  (core.announcements ms).getLast?

lemma announcements_concat (core : Core) (ms : List Moment) (m : Moment) :
    core.announcements (ms ++ [m]) = (core.announcements ms).map (·.push m) ++
      (((core.after (ms.map (·.event))).step m.event).announced? []).toList := by
  induction ms generalizing core with
  | nil => simp [announcements]
  | cons m' ms ih =>
    simp only [List.cons_append, announcements, ih, List.map_append, List.map_cons, after_cons,
      List.append_assoc, ← Step.map_push_announced?]
    congr 1
    cases (core.step m'.event).announced? ms <;> rfl

lemma lastAnnounced?_concat (core : Core) (ms : List Moment) (m : Moment) :
    core.lastAnnounced? (ms ++ [m]) =
      (((core.after (ms.map (·.event))).step m.event).announced? []).or
        ((core.lastAnnounced? ms).map (·.push m)) := by
  rw [lastAnnounced?, announcements_concat, List.getLast?_append, List.getLast?_map]
  cases ((core.after (ms.map (·.event))).step m.event).announced? [] <;> rfl

end Core

end BuildRunner
