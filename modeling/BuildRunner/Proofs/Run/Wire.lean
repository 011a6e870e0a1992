import BuildRunner.Proofs.Message.Written
import BuildRunner.Proofs.Process.LineDecoder
import BuildRunner.Proofs.Run.Running

/-!
Messages on their way from the tool to the display. They are written as lines of JSON, sent as
UTF-8 in pieces of any size, cut into lines again and read by a core whose task has just begun to
run: what it publishes is what was written.
-/

namespace BuildRunner

open Message

/-- The diagnostic that an action publishes, and the directory that its paths start from. -/
def Action.published? : Action → Option (Diagnostic × Path)
  | .publish diagnostic base => some (diagnostic, base)
  | _ => none

namespace Core

/-- What follows from a message that was written: its text, if that is to be put out, and its
diagnostic. A message that does not fit is put out as it stands. -/
def writtenActions (echoRendered : Bool) (cwd : Path) (m : Written) : List Action :=
  if m.Fits then
    (if echoRendered then (renderedLines m.diagnostic.rendered).map .output else []) ++
      [.publish m.published cwd]
  else [.output m.line]

variable {core : Core} {task : TaskId} {invocation : Invocation}

/-- **What follows from the line of a message**, in a run all of whose lines are such messages. -/
theorem onLine_written (hruns : core.slot.Runs task invocation)
    (hformat : core.format = none ∨ core.format = some .envelope) (m : Written) :
    ∃ format, (format = none ∨ format = some .envelope) ∧
      core.onLine .stdout m.line =
        { core with format }.goOn
          (writtenActions core.echoRendered invocation.command.cwd m) := by
  obtain ⟨since, hslot⟩ := hruns
  rw [onLine_stdout hslot, m.read_line hformat]
  by_cases hfits : m.Fits
  · refine ⟨some .envelope, .inr rfl, ?_⟩
    simp only [if_pos hfits, writtenActions, messageActions, if_true, Option.map_some,
      Option.getD_some, Option.toList_some, List.map_cons, List.map_nil]
  · refine ⟨core.format, hformat, ?_⟩
    simp only [if_neg hfits, writtenActions]
    rfl

lemma eq_of_stdoutLine? {e : Event} {text : String} (h : e.stdoutLine? task = some text) :
    ∃ time, e = .process ⟨task, time, .line .stdout text⟩ := by
  unfold Event.stdoutLine? at h
  split at h
  · split at h
    · subst_vars
      exact ⟨_, by rw [Option.some.inj h]⟩
    · cases h
  · cases h

lemma step_line (hruns : core.slot.Runs task invocation) (time : Instant) (stream : Stream)
    (text : String) :
    core.step (.process ⟨task, time, .line stream text⟩) = core.onLine stream text := by
  obtain ⟨since, hslot⟩ := hruns
  simp [step, onProcess, hslot]

/-- **What follows from the lines of messages**, one after the other. -/
theorem actionsOf_history_written (hruns : core.slot.Runs task invocation)
    (hformat : core.format = none ∨ core.format = some .envelope) {messages : List Written}
    {es : List Event} (hes : es.map (·.stdoutLine? task) = messages.map (some ·.line)) :
    actionsOf (core.history es) =
      messages.flatMap (writtenActions core.echoRendered invocation.command.cwd) := by
  -- The first message that fits settles the format; until then none of them has one.
  induction messages generalizing core es with
  | nil =>
    rw [List.map_eq_nil_iff.1 hes]
    rfl
  | cons m messages ih =>
    obtain ⟨e, es, rfl, he, hrest⟩ := List.map_eq_cons_iff.1 hes
    obtain ⟨time, rfl⟩ := eq_of_stdoutLine? he
    obtain ⟨format, hnext, hstep⟩ := onLine_written hruns hformat m
    let next : Core := { core with format }
    have hnextRuns : next.slot.Runs task invocation := hruns
    rw [history, actionsOf_append, actionsOf_entries, step_line hruns, hstep, List.flatMap_cons]
    exact congrArg _ (ih hnextRuns hnext hrest)

/-- The core behind the start of a process whose task was waiting for it. -/
lemma step_started (hslot : core.slot = .spawning task invocation) (time : Instant)
    (pid : Option Nat) :
    (core.step (.process ⟨task, time, .started pid⟩)).core =
      { core with slot := .running task invocation time, format := none } := by
  simp [step, onProcess, onStarted, hslot]

section Written

variable {echoRendered : Bool} {cwd : Path} {messages : List Written}

lemma published_of_fits (h : ∀ m ∈ messages, m.Fits) :
    (messages.flatMap (writtenActions echoRendered cwd)).filterMap Action.published? =
      messages.map fun m => (m.published, cwd) := by
  have hquiet (lines : List String) :
      (lines.map Action.output).filterMap Action.published? = [] := by
    simp [Action.published?]
  induction messages with
  | nil => rfl
  | cons m messages ih =>
    rw [List.forall_mem_cons] at h
    rw [List.flatMap_cons, List.filterMap_append, ih h.2, writtenActions, if_pos h.1,
      List.filterMap_append]
    cases echoRendered <;> simp [hquiet, Action.published?]

lemma output_of_fits (h : ∀ m ∈ messages, m.Fits) {text : String}
    (htext : .output text ∈ messages.flatMap (writtenActions echoRendered cwd)) :
    echoRendered = true ∧ ∃ m ∈ messages, text ∈ renderedLines m.diagnostic.rendered := by
  obtain ⟨m, hm, htext⟩ := List.mem_flatMap.1 htext
  rw [writtenActions, if_pos (h m hm)] at htext
  cases echoRendered with
  | false => simp at htext
  | true => exact ⟨rfl, m, hm, by simpa using htext⟩

end Written

/-! ### The main statement -/

/-- **What is published is what was written.** The lines of messages are sent in pieces of any size
to a run that has just begun. Each message that fits leads to its diagnostic, in order and with the
directory of the run, and besides it at most to its text; one that does not fit is put out as it
stands. -/
theorem published_of_written {messages : List Written} {pieces : List (List UInt8)}
    {es : List Event} (time : Instant) (pid : Option Nat)
    (hslot : core.slot = .spawning task invocation)
    (hpieces : pieces.flatten = Text.Utf8.encode (messages.flatMap (·.chars ++ ['\n'])))
    (hes : es.map (·.stdoutLine? task) = (LineDecoder.empty.pushAll pieces).2.map some) :
    let running := (core.step (.process ⟨task, time, .started pid⟩)).core
    let actions := actionsOf (running.history es)
    actions = messages.flatMap (writtenActions core.echoRendered invocation.command.cwd) ∧
      ((∀ m ∈ messages, m.Fits) →
        actions.filterMap Action.published? =
          messages.map (fun m => (m.published, invocation.command.cwd)) ∧
        ∀ text, .output text ∈ actions →
          core.echoRendered = true ∧
            ∃ m ∈ messages, text ∈ renderedLines m.diagnostic.rendered) := by
  intro running actions
  have hlines : es.map (·.stdoutLine? task) = messages.map (some ·.line) := by
    have hclean : ∀ line ∈ messages.map Written.chars,
        '\n' ∉ line ∧ line.getLast? ≠ some '\r' := by
      intro line hline
      obtain ⟨m, -, rfl⟩ := List.mem_map.1 hline
      exact m.chars_clean
    rw [hes, LineDecoder.pushAll_encode hclean (by rw [hpieces, List.flatMap_map])]
    simp only [List.map_map]
    rfl
  have hrunning : running = { core with slot := .running task invocation time, format := none } :=
    step_started hslot time pid
  have hactions : actions =
      messages.flatMap (writtenActions core.echoRendered invocation.command.cwd) := by
    have hruns : running.slot.Runs task invocation := ⟨time, by rw [hrunning]⟩
    have hformat : running.format = none := by rw [hrunning]
    have hecho : running.echoRendered = core.echoRendered := by rw [hrunning]
    rw [← hecho]
    exact actionsOf_history_written hruns (.inl hformat) hlines
  refine ⟨hactions, fun hfits => ⟨?_, fun text htext => ?_⟩⟩
  · rw [hactions]
    exact published_of_fits hfits
  · rw [hactions] at htext
    exact output_of_fits hfits htext

/-- A message that is sent byte by byte, cut inside a character. -/
theorem published_of_written_bytewise :
    let span : SpanSpec := ⟨"src/lib.rs", 3, 5, 3, 9, true, none⟩
    let m : Written := ⟨.mk "warning" "na\u00efve" [span] (some "W1") [], span, rfl, by decide,
      by simp [DiagnosticSpec.InBounds, DiagnosticSpec.AllInBounds, SpanSpec.InBounds,
        Range.maxCoordinate, span]⟩
    let build : Invocation := ⟨.build, ⟨"cargo", ["build"], ⟨"/work"⟩⟩, true⟩
    let core : Core := ⟨.spawning ⟨1⟩ build, ⟨2⟩, none, true⟩
    let pieces := (Text.Utf8.encode (m.chars ++ ['\n'])).map ([·])
    let sent (line : String) : Event := .process ⟨⟨1⟩, ⟨5⟩, .line .stdout line⟩
    let es := (LineDecoder.empty.pushAll pieces).2.map sent
    actionsOf ((core.step (.process ⟨⟨1⟩, ⟨0⟩, .started none⟩)).core.history es) =
      [.output "warning: na\u00efve",
        .publish (.mk ⟨"src/lib.rs"⟩ ⟨⟨2, 4⟩, ⟨2, 8⟩⟩ .warning "na\u00efve" (some "W1") [])
          ⟨"/work"⟩] := by
  intro span m build core pieces sent es
  have hpieces : pieces.flatten = Text.Utf8.encode ([m].flatMap (·.chars ++ ['\n'])) := by
    rw [List.flatMap_singleton]
    exact (List.flatMap_def ..).symm.trans (List.flatMap_singleton' _)
  have hes : es.map (·.stdoutLine? ⟨1⟩) = (LineDecoder.empty.pushAll pieces).2.map some := by
    rw [List.map_map]
    exact List.map_congr_left fun line _ => by simp [sent, Event.stdoutLine?]
  have hfits : m.Fits := by decide
  have hslot : core.slot = .spawning ⟨1⟩ build := rfl
  have hactions : writtenActions core.echoRendered build.command.cwd m =
      [.output "warning: na\u00efve",
        .publish (.mk ⟨"src/lib.rs"⟩ ⟨⟨2, 4⟩, ⟨2, 8⟩⟩ .warning "na\u00efve" (some "W1") [])
          ⟨"/work"⟩] := by
    have htext : renderedLines m.diagnostic.rendered = ["warning: na\u00efve"] := by decide
    have hpublished : m.published =
        .mk ⟨"src/lib.rs"⟩ ⟨⟨2, 4⟩, ⟨2, 8⟩⟩ .warning "na\u00efve" (some "W1") [] := rfl
    rw [writtenActions, if_pos hfits, htext, hpublished]
    rfl
  rw [(published_of_written ⟨0⟩ none hslot hpieces hes).1, List.flatMap_singleton, hactions]

/-- A diagnostic with others below it, so many levels deep. -/
def nested : Nat → DiagnosticSpec
  | 0 => .mk "note" "in" [] none []
  | n + 1 => .mk "note" "in" [] none [nested n]

lemma inBounds_nested (n : Nat) : (nested n).InBounds := by
  induction n with
  | zero => exact ⟨by simp, trivial⟩
  | succ n ih => exact ⟨by simp, ih, trivial⟩

lemma depth_nested (n : Nat) : (nested n).toJson.depth = 2 * n + 2 := by
  induction n with
  | zero => rfl
  | succ n ih =>
    simp [nested, DiagnosticSpec.toJson, DiagnosticSpec.toJsons, DiagnosticSpec.codeJson,
      Json.depth, Json.itemsDepth, Json.membersDepth, ih]
    omega

/-- A child below a child is lost, a child that says nothing is too, and so is a message with
children too far below one another. -/
theorem children_lost :
    let span : SpanSpec := ⟨"a.rs", 1, 1, 1, 2, true, none⟩
    let child : DiagnosticSpec := .mk "note" "here" [] none [.mk "help" "try this" [] none []]
    let shallow : DiagnosticSpec := .mk "error" "boom" [span] none [child, .mk "note" "" [] none []]
    let deep : DiagnosticSpec := .mk "error" "boom" [span] none [nested 62]
    let build : Invocation := ⟨.build, ⟨"cargo", ["build"], ⟨"/work"⟩⟩, true⟩
    let core : Core := ⟨.running ⟨1⟩ build ⟨0⟩, ⟨2⟩, none, false⟩
    let sent (d : DiagnosticSpec) : Event :=
      .process ⟨⟨1⟩, ⟨5⟩, .line .stdout (compilerMessage d).render⟩
    let place : Range := ⟨⟨0, 0⟩, ⟨0, 1⟩⟩
    (core.step (sent shallow)).actions =
        [.publish (.mk ⟨"a.rs"⟩ place .error "boom" none
          [.mk ⟨"a.rs"⟩ place .note "here" none []]) ⟨"/work"⟩] ∧
      (core.step (sent deep)).actions = [.output (compilerMessage deep).render] := by
  intro span child shallow deep build core sent place
  have hspan : span.InBounds := by simp [SpanSpec.InBounds, Range.maxCoordinate, span]
  have hspans : ∀ s ∈ [span], s.InBounds := by simpa using hspan
  let m : Written := ⟨shallow, span, rfl, by decide, hspans,
    ⟨by simp, ⟨by simp, trivial⟩, trivial⟩, ⟨by simp, trivial⟩, trivial⟩
  let n : Written := ⟨deep, span, rfl, by decide, hspans, inBounds_nested 62, trivial⟩
  have hm : m.Fits := show (compilerMessage shallow).depth ≤ Json.maxDepth by decide
  have hn : ¬ n.Fits := by
    have hdepth := depth_nested 62
    show ¬ (compilerMessage deep).depth ≤ Json.maxDepth
    simp [compilerMessage, deep, DiagnosticSpec.toJson, DiagnosticSpec.toJsons, Json.depth,
      Json.itemsDepth, Json.membersDepth, Json.maxDepth, hdepth]
  have hruns : core.slot.Runs ⟨1⟩ build := ⟨⟨0⟩, rfl⟩
  obtain ⟨_, -, hshallow⟩ := onLine_written hruns (.inl rfl) m
  obtain ⟨_, -, hdeep⟩ := onLine_written hruns (.inl rfl) n
  have hpublished : m.published =
      .mk ⟨"a.rs"⟩ place .error "boom" none [.mk ⟨"a.rs"⟩ place .note "here" none []] := rfl
  refine ⟨?_, ?_⟩
  · rw [step_line hruns]
    refine (congrArg Step.actions hshallow).trans ?_
    rw [goOn_actions, writtenActions, if_pos hm, hpublished]
    rfl
  · rw [step_line hruns]
    refine (congrArg Step.actions hdeep).trans ?_
    rw [goOn_actions, writtenActions, if_neg hn]
    rfl

end Core

end BuildRunner
