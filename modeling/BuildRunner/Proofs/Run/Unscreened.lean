import BuildRunner.Proofs.Run.Running
import BuildRunner.Proofs.Run.History

/-!
The test of the first character of a line. A core that reads every line of the standard output,
whatever it begins with, does at every step of every run what the core does that reads only the
lines which may hold an object: what fails the test spells no object (`onLine_eq_unscreened`), so
reading it would have put it out as it is and left the format alone.
-/

namespace BuildRunner

namespace Core

/-! ### A core that reads every line -/

/-- A line of the live process, read as a message whenever it came on the standard output. What
spells no object goes to the output as it is. -/
def onLineUnscreened (core : Core) (stream : Stream) (text : String) : Step :=
  match core.slot, stream with
  | .running _ invocation _, .stdout =>
    let (reading, format) := Message.read core.format text
    let core := { core with format }
    if reading.isJson then
      core.goOn (messageActions core.echoRendered invocation.command.cwd reading)
    else core.goOn [.output text]
  | .running _ _ _, .stderr => core.goOn [.output text]
  | _, _ => core.ignore

/-- What follows from an event when every line is read. -/
def stepUnscreened (core : Core) : Event → Step
  | .process ⟨task, _, .line stream text⟩ =>
    if core.slot.liveTask = some task then core.onLineUnscreened stream text else core.ignore
  | e => core.step e

/-- The core behind a list of events when every line is read. -/
def afterUnscreened (core : Core) (es : List Event) : Core :=
  es.foldl (fun core e => (core.stepUnscreened e).core) core

/-- The history of a list of events when every line is read. -/
def historyUnscreened (core : Core) : List Event → List Entry
  | [] => []
  | e :: es =>
    .fed e :: (core.stepUnscreened e).actions.map .did ++
      historyUnscreened (core.stepUnscreened e).core es

/-! ### What the test of the first character changes -/

/-- Nothing is missed by not reading a line that fails the test, in any state and on either
stream. -/
lemma onLineUnscreened_eq (core : Core) (stream : Stream) (text : String) :
    core.onLineUnscreened stream text = core.onLine stream text := by
  rcases hslot : core.slot with _ | _ | _ | ⟨task, invocation, since⟩ | _
  case running =>
    cases stream with
    | stderr =>
      rw [onLine_stderr hslot]
      simp [onLineUnscreened, hslot]
    | stdout =>
      rw [onLine_stdout hslot]
      simp only [onLineUnscreened, hslot]
      split <;> rfl
  all_goals simp [onLineUnscreened, onLine, hslot]

lemma stepUnscreened_eq (core : Core) (e : Event) : core.stepUnscreened e = core.step e := by
  unfold stepUnscreened
  split
  · rw [onLineUnscreened_eq]
    rfl
  · rfl

/-- **A core that reads every line has the same runs.** -/
theorem run_unscreened (core : Core) (es : List Event) :
    core.afterUnscreened es = core.after es ∧ core.historyUnscreened es = core.history es := by
  induction es generalizing core with
  | nil => exact ⟨rfl, rfl⟩
  | cons e es ih =>
    obtain ⟨hafter, hhistory⟩ := ih (core.step e).core
    rw [afterUnscreened, List.foldl_cons, stepUnscreened_eq, after_cons]
    refine ⟨hafter, ?_⟩
    rw [historyUnscreened, stepUnscreened_eq, hhistory]
    rfl

/-- **The test of the first character only saves work.** A line that fails it spells no object, and
reading it would tell just that and leave the format as it was; so a line of a running task on its
standard output leads to the same actions and the same core whether or not it is tested. -/
theorem onLine_eq_unscreened {core : Core} {task : TaskId} {invocation : Invocation}
    {since : Instant} (h : core.slot = .running task invocation since) (text : String) :
    core.onLine .stdout text = core.onLineUnscreened .stdout text ∧
      (looksLikeObject text = false →
        Message.object? text = none ∧ Message.read core.format text = (.plain, core.format) ∧
          core.onLineUnscreened .stdout text = core.goOn [.output text]) := by
  refine ⟨(onLineUnscreened_eq core .stdout text).symm, fun hlooks => ?_⟩
  have hread : Message.read core.format text = (.plain, core.format) :=
    Message.read_of_not_looksLikeObject hlooks
  refine ⟨?_, hread, ?_⟩
  · rw [← Option.not_isSome_iff_eq_none, ← Message.isJson_read core.format, hread]
    exact Bool.false_ne_true
  · rw [onLineUnscreened_eq]
    simp [onLine, h, hlooks]

/-- An array behind a no-break space is put out as it is, and no format is settled by it. -/
theorem onLine_eq_unscreened_array :
    let build : Invocation := ⟨.build, ⟨"cargo", ["build"], ⟨"/w"⟩⟩, true⟩
    let core : Core := ⟨.running ⟨1⟩ build ⟨0⟩, ⟨2⟩, none, true⟩
    let text := "\u00a0[\x7b\"reason\":1\x7d]"
    core.slot = .running ⟨1⟩ build ⟨0⟩ ∧ looksLikeObject text = false ∧
      core.onLine .stdout text = core.onLineUnscreened .stdout text ∧
      core.onLineUnscreened .stdout text = core.goOn [.output text] := by
  intro build core text
  have hslot : core.slot = .running ⟨1⟩ build ⟨0⟩ := rfl
  have hlooks : looksLikeObject text = false := by decide
  obtain ⟨hsame, htest⟩ := onLine_eq_unscreened hslot text
  exact ⟨hslot, hlooks, hsame, (htest hlooks).2.2⟩

end Core

end BuildRunner
