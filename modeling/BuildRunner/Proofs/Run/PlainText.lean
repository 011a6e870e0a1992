import BuildRunner.Json.Printer
import BuildRunner.Proofs.Run.Transcript

/-!
Plain text. The lines of a running task go to the output as they are, one for one and in order, but
for those of its standard output that spell JSON objects. Such a line is taken for a message of the
tool whether or not the tool was asked for messages.
-/

namespace BuildRunner

namespace Message

/-- A line that is no message: one of the standard error, or one that spells no object. -/
def isPlain : Stream × String → Bool
  | (.stderr, _) => true
  | (.stdout, text) => (object? text).isNone

variable {echoRendered : Bool} {format : Option Format} {ls : List (Stream × String)}

lemma spoken_of_isPlain {l : Stream × String} (h : isPlain l = true) :
    spoken echoRendered format l = [l.2] := by
  obtain ⟨_ | _, text⟩ := l
  · have hnone : object? text = none := by simpa [isPlain] using h
    simp [spoken, hnone]
  · rfl

/-- **Nothing that is plain is lost**: the plain lines stand in what is put out, in order. -/
theorem sublist_spokenAll :
    ((ls.filter isPlain).map (·.2)).Sublist (spokenAll echoRendered format ls) := by
  induction ls generalizing format with
  | nil => exact .slnil
  | cons l ls ih =>
    rw [List.filter_cons]
    split
    case isTrue hplain =>
      rw [spokenAll, spoken_of_isPlain hplain]
      exact ih.cons_cons l.2
    case isFalse => exact ih.trans (List.sublist_append_right _ _)

/-- Where all is plain, what is put out is what was read. -/
theorem spokenAll_of_isPlain (h : ∀ l ∈ ls, isPlain l = true) :
    spokenAll echoRendered format ls = ls.map (·.2) := by
  induction ls generalizing format with
  | nil => rfl
  | cons l ls ih =>
    rw [List.forall_mem_cons] at h
    rw [spokenAll, spoken_of_isPlain h.1, ih h.2, List.map_cons, List.singleton_append]

end Message

namespace Core

variable {core : Core} {task : TaskId} {i : Invocation} {since : Instant}

/-! ### One line -/

/-- A line that is no message goes to the output as it is, and changes nothing. -/
lemma onLine_of_isPlain (h : core.slot = .running task i since) {stream : Stream} {text : String}
    (hplain : Message.isPlain (stream, text) = true) :
    core.onLine stream text = core.goOn [.output text] := by
  cases stream with
  | stderr => exact onLine_stderr h text
  | stdout =>
    have hnone : Message.object? text = none := by simpa [Message.isPlain] using hplain
    rw [onLine_stdout h, Message.read_of_object?_eq_none hnone]
    rfl

/-- A line that spells an object is read as a message, whatever the verb of the task. -/
lemma onLine_of_object? (h : core.slot = .running task i since) {text : String}
    (hobject : (Message.object? text).isSome = true) :
    core.onLine .stdout text = { core with format := (Message.read core.format text).2 }.goOn
      (messageActions core.echoRendered i.command.cwd (Message.read core.format text).1) := by
  rw [onLine_stdout h]
  simp [Message.isJson_read, hobject]

/-- **What a line of a running task comes to**, whether or not the tool was asked for messages. It
goes to the output as it is, and nothing else follows, unless it came on the standard output and
spells an object. Then it is read in the format that the task's own earlier lines settled on: the
lines of the rendered text in it are put out, if they are to be, and the diagnostic in it is
published. -/
theorem line_of_running {echoRendered : Bool} {es : List Event} {task : TaskId} {i : Invocation}
    {since : Instant} (h : ((initial echoRendered).after es).slot = .running task i since)
    (time : Instant) (stream : Stream) (text : String) :
    let core := (initial echoRendered).after es
    let s := core.step (.process ⟨task, time, .line stream text⟩)
    s.core.slot = core.slot ∧
    (stream = .stderr ∨ Message.object? text = none → s.actions = [.output text] ∧ s.core = core) ∧
    ∀ v, stream = .stdout → Message.object? text = some v →
      let format := Message.formatBehindAll none ((initial echoRendered).heard task es)
      let reading := (Message.read format text).1
      s.actions =
        (if echoRendered then ((reading.rendered.map renderedLines).getD []).map .output else []) ++
          reading.diagnostic.toList.map (.publish · i.command.cwd) := by
  intro core s
  have hs : s = core.onLine stream text := by simp [s, core, step, onProcess, h, Slot.liveTask]
  refine ⟨?slot, ?plain, ?message⟩
  case slot =>
    obtain ⟨format, hcore⟩ := onLine_core core stream text
    rw [hs, hcore]
  case plain =>
    intro hor
    have hplain : Message.isPlain (stream, text) = true := by
      rcases hor with rfl | hnone
      · rfl
      · cases stream <;> simp [Message.isPlain, hnone]
    rw [hs, onLine_of_isPlain h hplain]
    exact ⟨rfl, rfl⟩
  case message =>
    rintro v rfl hobject
    obtain ⟨segments, last, hscripted⟩ := scripted_run echoRendered es
    have hformat := (hscripted.running ⟨since, h⟩).2
    have hecho : core.echoRendered = echoRendered := echoRendered_after (initial echoRendered) es
    rw [hs, onLine_of_object? h (by simp [hobject]), hecho, hformat]
    rfl

/-- A run of plain text puts out an array, which is no object. -/
theorem line_of_running_metadata :
    let metadata : Invocation := ⟨.custom "metadata", ⟨"cargo", ["metadata"], ⟨"/work"⟩⟩, false⟩
    let core := (initial true).after [.runRequested ⟨.custom "metadata", [], false⟩,
      .prepared ⟨1⟩ metadata, .process ⟨⟨1⟩, ⟨0⟩, .started none⟩]
    core.slot = .running ⟨1⟩ metadata ⟨0⟩ ∧
      (core.step (.process ⟨⟨1⟩, ⟨1⟩, .line .stdout "[]"⟩)).actions = [.output "[]"] := by
  intro metadata core
  have hslot : core.slot = .running ⟨1⟩ metadata ⟨0⟩ := rfl
  refine ⟨hslot, ?_⟩
  exact ((line_of_running hslot ⟨1⟩ .stdout "[]").2.1 (.inr (by decide +kernel))).1

/-- An object that says nothing of a build. -/
def packages : String := (Json.object [("packages", .array [])]).render

/-- An object with the fields of a diagnostic. -/
def complaint : String :=
  let span : Json := .object [("file_name", .string "a"), ("line_start", .natural 1)]
  (Json.object [("level", .string "error"), ("spans", .array [span])]).render

/-- An object in plain text is lost, and one with the fields of a diagnostic is published, although
the run was not asked for messages. -/
theorem object_in_plain_text :
    let metadata : Invocation := ⟨.custom "metadata", ⟨"cargo", ["metadata"], ⟨"/work"⟩⟩, false⟩
    let core := (initial true).after [.runRequested ⟨.custom "metadata", [], false⟩,
      .prepared ⟨1⟩ metadata, .process ⟨⟨1⟩, ⟨0⟩, .started none⟩]
    let answer (text : String) := (core.step (.process ⟨⟨1⟩, ⟨1⟩, .line .stdout text⟩)).actions
    core.slot = .running ⟨1⟩ metadata ⟨0⟩ ∧ answer packages = [] ∧
      ∃ d, answer complaint = [.publish d ⟨"/work"⟩] := by
  intro metadata core answer
  have hslot : core.slot = .running ⟨1⟩ metadata ⟨0⟩ := rfl
  have hanswer (text : String) (hobject : (Message.object? text).isSome = true) :
      answer text = messageActions true ⟨"/work"⟩ (Message.read none text).1 :=
    congrArg Step.actions (onLine_of_object? hslot hobject)
  have hrendered : (Message.read none complaint).1.rendered = none := by decide +kernel
  obtain ⟨d, hd⟩ : ∃ d, (Message.read none complaint).1.diagnostic = some d :=
    Option.isSome_iff_exists.1 (by decide +kernel)
  refine ⟨hslot, List.eq_nil_of_length_eq_zero (by decide +kernel), d, ?_⟩
  rw [hanswer complaint (by decide +kernel), messageActions, hrendered, hd]
  rfl

/-! ### A whole run -/

/-- **What a running task has put out so far**: its plain lines are all there, in order, and where it
said nothing else the output is what it said. -/
theorem output_of_running {echoRendered : Bool} {es : List Event} {task : TaskId} {i : Invocation}
    (h : ((initial echoRendered).after es).slot.Runs task i) :
    let lines := (initial echoRendered).heard task es
    ∃ earlier shown, transcript ((initial echoRendered).history es) =
        earlier ++ Segment.openMarks (some (task, shown)) ∧
      ((lines.filter Message.isPlain).map (·.2)).Sublist shown ∧
      ((∀ l ∈ lines, Message.isPlain l = true) → shown = lines.map (·.2)) := by
  intro lines
  obtain ⟨segments, last, hscripted⟩ := scripted_run echoRendered es
  obtain ⟨rfl, -⟩ := hscripted.running h
  exact ⟨_, _, hscripted.transcript_eq, Message.sublist_spokenAll, Message.spokenAll_of_isPlain⟩

end Core

end BuildRunner
