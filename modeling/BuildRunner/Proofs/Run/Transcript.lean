import BuildRunner.Proofs.Run.Killed
import BuildRunner.Proofs.Run.Running

/-!
What is written to the output. The transcript of a run is made of segments, one behind the other:
a task is made known, then come its lines, then its end; or a task that is never made known ends
(`transcript_eq_segments`). The lines of a segment are those that its task put out while it was
running, each as it stands or as the rendered text of the message that it spells.
-/

namespace BuildRunner

/-! ### Marks and segments -/

/-- What is written to the output: that a task began, a line, or that a task is over. -/
inductive Mark where
  | opened (task : TaskId)
  | line (text : String)
  | closed (task : TaskId)
  deriving DecidableEq

/-- What an action writes. -/
def Action.mark? : Action → Option Mark
  | .announceStart task _ => some (.opened task)
  | .output text => some (.line text)
  | .announceFinish task _ _ _ => some (.closed task)
  | _ => none

/-- A stretch of the output that belongs to one task. -/
inductive Segment where
  /-- The task began, put out lines, and is over. -/
  | run (task : TaskId) (lines : List String)
  /-- The task is over and never began. -/
  | lone (task : TaskId)

namespace Segment

/-- What is written of a task that began and is not over. -/
def openMarks : Option (TaskId × List String) → List Mark
  | none => []
  | some (task, lines) => .opened task :: lines.map .line

/-- What is written of a segment. -/
def marks : Segment → List Mark
  | run task lines => openMarks (some (task, lines)) ++ [.closed task]
  | lone task => [.closed task]

/-- The task of a segment. -/
def task : Segment → TaskId
  | run task _ => task
  | lone task => task

lemma closed_mem_marks (s : Segment) : .closed s.task ∈ s.marks := by
  cases s <;> simp [marks, task]

lemma opened_mem_marks {s : Segment} {task : TaskId} (h : .opened task ∈ s.marks) :
    s.task = task := by
  cases s with
  | run t lines =>
    have : task = t := by simpa [marks, openMarks] using h
    exact this.symm
  | lone t => simp [marks] at h

end Segment

/-! ### Lines -/

/-- The line of a task that a slot listens to: one that the task puts out while it is running. -/
def Slot.heard? (slot : Slot) (task : TaskId) (e : Event) : Option (Stream × String) :=
  match slot, e with
  | .running holder _ _, .process ⟨current, _, .line stream text⟩ =>
    if holder = task ∧ current = task then some (stream, text) else none
  | _, _ => none

/-- The task of a slot whose process has come up or been told to end. -/
def Slot.shown? : Slot → Option TaskId
  | .running task _ _ => some task
  | .stopping task _ _ _ => some task
  | _ => none

namespace Slot

variable {slot : Slot} {task : TaskId} {e : Event}

lemma heard?_eq_some {l : Stream × String} (h : slot.heard? task e = some l) :
    (∃ invocation, slot.Runs task invocation) ∧
      ∃ time, e = .process ⟨task, time, .line l.1 l.2⟩ := by
  unfold heard? at h
  split at h
  case h_1 holder invocation since current time stream text =>
    split at h
    case isTrue hboth =>
      obtain ⟨rfl, rfl⟩ := hboth
      obtain rfl := Option.some.inj h
      exact ⟨⟨invocation, since, rfl⟩, time, rfl⟩
    case isFalse => cases h
  case h_2 => cases h

lemma heard?_of_not_runs (h : ∀ t i, ¬ slot.Runs t i) : slot.heard? task e = none := by
  by_contra hne
  obtain ⟨l, hl⟩ := Option.ne_none_iff_exists'.1 hne
  obtain ⟨⟨invocation, hruns⟩, -⟩ := heard?_eq_some hl
  exact h task invocation hruns

lemma heard?_of_not_line (h : ∀ t time stream text, e ≠ .process ⟨t, time, .line stream text⟩) :
    slot.heard? task e = none := by
  by_contra hne
  obtain ⟨l, hl⟩ := Option.ne_none_iff_exists'.1 hne
  obtain ⟨-, time, he⟩ := heard?_eq_some hl
  exact h task time l.1 l.2 he

lemma heard?_of_refuses (href : slot.Refuses e) : slot.heard? task e = none := by
  by_contra hne
  obtain ⟨l, hl⟩ := Option.ne_none_iff_exists'.1 hne
  obtain ⟨⟨invocation, since, rfl⟩, time, rfl⟩ := heard?_eq_some hl
  cases href with
  | foreign hf => exact hf rfl
  | unheard quiet => exact quiet _ _ _ rfl

lemma Up.shown?_eq {verb : Verb} {since : Option Instant} (h : slot.Up task verb since)
    {t : TaskId} (ht : slot.shown? = some t) : t = task := by
  cases h with
  | spawning => cases ht
  | running => exact (Option.some.inj ht).symm

end Slot

namespace Message

/-- **What a line comes to in the output**, read in a format: a line of the standard output that
spells an object comes to the lines of the rendered text that it holds, if they are to be put out,
and any other line stands as it is. -/
def spoken (echoRendered : Bool) (format : Option Format) : Stream × String → List String
  | (.stderr, text) => [text]
  | (.stdout, text) =>
    if (object? text).isSome then
      if echoRendered then ((read format text).1.rendered.map Core.renderedLines).getD [] else []
    else [text]

/-- The format settled on behind a line. -/
def formatBehind (format : Option Format) : Stream × String → Option Format
  | (.stderr, _) => format
  | (.stdout, text) => (read format text).2

/-- What lines come to that are read one after the other. -/
def spokenAll (echoRendered : Bool) (format : Option Format) :
    List (Stream × String) → List String
  | [] => []
  | l :: ls => spoken echoRendered format l ++ spokenAll echoRendered (formatBehind format l) ls

/-- The format settled on behind lines. -/
def formatBehindAll (format : Option Format) (ls : List (Stream × String)) : Option Format :=
  ls.foldl formatBehind format

lemma spokenAll_concat (echoRendered : Bool) (format : Option Format)
    (ls : List (Stream × String)) (l : Stream × String) :
    spokenAll echoRendered format (ls ++ [l]) = spokenAll echoRendered format ls ++
      spoken echoRendered (formatBehindAll format ls) l := by
  induction ls generalizing format with
  | nil => simp [spokenAll, formatBehindAll]
  | cons l' ls ih => simp [spokenAll, formatBehindAll, ih]

end Message

namespace Core

/-- The lines that a task puts out while it is running, in order. -/
def heard (core : Core) (task : TaskId) : List Event → List (Stream × String)
  | [] => []
  | e :: es => (core.slot.heard? task e).toList ++ heard (core.step e).core task es

lemma heard_concat (core : Core) (task : TaskId) (es : List Event) (e : Event) :
    core.heard task (es ++ [e]) =
      core.heard task es ++ ((core.after es).slot.heard? task e).toList := by
  induction es generalizing core with
  | nil => simp [heard]
  | cons e' es ih => simp [heard, ih, after_cons]

/-- **The transcript of a history**: what is written to the output, in order. -/
def transcript (h : List Entry) : List Mark := (actionsOf h).filterMap Action.mark?

section View

variable {h h' : List Entry} {task : TaskId}

@[simp] lemma transcript_nil : transcript [] = [] := rfl

@[simp] lemma transcript_append (h h' : List Entry) :
    transcript (h ++ h') = transcript h ++ transcript h' := by
  simp [transcript]

lemma transcript_entries (core : Core) (e : Event) :
    transcript (core.entries e) = (core.step e).actions.filterMap Action.mark? := by
  simp [transcript]

lemma opened_mem_transcript :
    .opened task ∈ transcript h ↔ ∃ invocation, .did (.announceStart task invocation) ∈ h := by
  refine ⟨fun hm => ?_, ?_⟩
  · obtain ⟨a, ha, hmark⟩ := List.mem_filterMap.1 hm
    cases a <;> simp [Action.mark?] at hmark
    exact ⟨_, mem_actionsOf.1 (hmark ▸ ha)⟩
  · rintro ⟨invocation, ha⟩
    exact List.mem_filterMap.2 ⟨_, mem_actionsOf.2 ha, rfl⟩

lemma closed_mem_transcript : .closed task ∈ transcript h ↔ task ∈ finishedTasks h := by
  simp only [transcript, finishedTasks, List.mem_filterMap]
  refine exists_congr fun a => and_congr_right fun _ => ?_
  cases a <;> simp [Action.mark?, Action.finished?]

end View

/-! ### What a step writes -/

/-- **What a step writes**: that a task began, the lines that a line comes to, that a task is over,
or nothing. -/
inductive Writes (core : Core) (e : Event) : List Mark → Core → Prop where
  | opened {task : TaskId} {invocation : Invocation} {core' : Core}
    (before : core.slot = .spawning task invocation) (behind : core'.slot.Runs task invocation)
    (format : core'.format = none) : Writes core e [.opened task] core'
  | said {task : TaskId} {invocation : Invocation} {l : Stream × String}
    (runs : core.slot.Runs task invocation) (heard : core.slot.heard? task e = some l) :
    Writes core e ((Message.spoken core.echoRendered core.format l).map .line)
      { core with format := Message.formatBehind core.format l }
  | closed {task : TaskId} {core' : Core} (held : core.slot.task? = some task)
    (unheard : ∀ t, core.slot.heard? t e = none) (free : core'.slot.shown? = none) :
    Writes core e [.closed task] core'
  | kept {core' : Core} (unheard : ∀ t, core.slot.heard? t e = none)
    (shown : ∀ {t}, core.slot.shown? = some t → core'.slot.shown? = some t)
    (runs : ∀ {t i}, core'.slot.Runs t i → core.slot.Runs t i ∧ core'.format = core.format) :
    Writes core e [] core'

lemma mark?_startFailureNotice (program : String) (error : StartError) :
    (startFailureNotice program error).mark? = none :=
  apply_startFailureNotice (fun _ => rfl) (fun _ => rfl) program error

lemma filterMap_mark?_output (lines : List String) :
    (lines.map Action.output).filterMap Action.mark? = lines.map .line := by
  induction lines with
  | nil => rfl
  | cons line lines ih => simp [Action.mark?, ih]

lemma filterMap_mark?_messageActions (echoRendered : Bool) (cwd : Path) (r : Message.Reading) :
    (messageActions echoRendered cwd r).filterMap Action.mark? =
      (if echoRendered then (r.rendered.map renderedLines).getD [] else []).map .line := by
  have hpublish : (r.diagnostic.toList.map (Action.publish · cwd)).filterMap Action.mark? = [] := by
    cases r.diagnostic <;> rfl
  rw [messageActions, List.filterMap_append, hpublish, List.append_nil]
  cases echoRendered
  · rfl
  · exact filterMap_mark?_output _

/-- A line of a running task is written as what it comes to. -/
lemma writes_onLine {core : Core} {task : TaskId} {invocation : Invocation} {since time : Instant}
    (h : core.slot = .running task invocation since) (stream : Stream) (text : String) :
    Writes core (.process ⟨task, time, .line stream text⟩)
      ((core.onLine stream text).actions.filterMap Action.mark?)
      (core.onLine stream text).core := by
  have hsaid : Writes core (.process ⟨task, time, .line stream text⟩) _ _ :=
    .said (l := (stream, text)) ⟨since, h⟩ (by simp [h, Slot.heard?])
  cases stream with
  | stderr =>
    simpa [onLine_stderr h, Action.mark?, Message.spoken, Message.formatBehind] using hsaid
  | stdout =>
    rw [onLine_stdout h]
    convert hsaid using 1
    · simp only [goOn_actions, Message.spoken, Message.isJson_read]
      split
      · exact filterMap_mark?_messageActions _ _ _
      · rfl
    · rfl

/-- Every step writes in one of these ways. -/
theorem writes_step (core : Core) (e : Event) :
    Writes core e (transcript (core.entries e)) (core.step e).core := by
  rw [transcript_entries]
  have ht := transition_step core e
  generalize core.step e = s at ht ⊢
  cases ht
  case refused href =>
    exact .kept (fun _ => Slot.heard?_of_refuses href) id fun hruns => ⟨hruns, rfl⟩
  case started time pid hs => exact .opened hs ⟨time, rfl⟩ rfl
  case heard stream text hs => exact writes_onLine hs stream text
  case withdrawn hs =>
    exact .closed (by simp [hs]) (fun _ => Slot.heard?_of_not_line (by simp)) rfl
  case exited hup =>
    exact .closed (Slot.task?_of_liveTask hup.liveTask_eq)
      (fun _ => Slot.heard?_of_not_line (by simp)) rfl
  case failed hs =>
    rw [goOn_actions, List.filterMap_cons_none (mark?_startFailureNotice _ _)]
    exact .closed (by simp [hs]) (fun _ => Slot.heard?_of_not_line (by simp)) rfl
  case exitedStopping next _ _ hs =>
    cases next <;>
      exact .closed (by simp [hs]) (fun _ => Slot.heard?_of_not_line (by simp)) rfl
  case failedStopping next _ _ hs =>
    cases next <;>
      exact .closed (by simp [hs]) (fun _ => Slot.heard?_of_not_line (by simp)) rfl
  case overruled hup =>
    refine .kept (fun _ => Slot.heard?_of_not_line (by simp)) (fun ht => ?_) (by simp [Slot.Runs])
    rw [hup.shown?_eq ht]
    rfl
  case stopped hup =>
    refine .kept (fun _ => Slot.heard?_of_not_line (by simp)) (fun ht => ?_) (by simp [Slot.Runs])
    rw [hup.shown?_eq ht]
    rfl
  case begun hs =>
    refine .kept (fun _ => Slot.heard?_of_not_line (by simp)) (fun ht => ?_)
      (by simp [Slot.Runs, begin])
    rcases hs with hs | ⟨-, t, old, hs⟩ <;> simp [hs, Slot.shown?] at ht
  all_goals
    refine .kept (fun _ => Slot.heard?_of_not_line (by simp)) ?_ ?_ <;>
      simp_all [Slot.Runs, Slot.shown?]

/-! ### What a run writes -/

/-- What the lines of a task come to that it puts out while it is running, read by a reader of their
own. -/
def said (echoRendered : Bool) (task : TaskId) (es : List Event) : List String :=
  Message.spokenAll echoRendered none ((initial echoRendered).heard task es)

/-- **What is known behind a run** of its transcript: the segments that are complete, and the one
that is open. -/
structure Scripted (echoRendered : Bool) (es : List Event) (segments : List Segment)
    (last : Option (TaskId × List String)) : Prop where
  /-- The transcript is made of the segments. -/
  transcript_eq : transcript ((initial echoRendered).history es) =
    segments.flatMap Segment.marks ++ Segment.openMarks last
  /-- A segment holds what its task said. -/
  run : ∀ {task lines}, .run task lines ∈ segments → lines = said echoRendered task es
  /-- A task that is over without having begun never begins. -/
  lone : ∀ {task}, .lone task ∈ segments →
    .opened task ∉ transcript ((initial echoRendered).history es)
  /-- The open segment holds what its task said, and its task holds the slot. -/
  opened : ∀ {task lines}, last = some (task, lines) → lines = said echoRendered task es ∧
    ((initial echoRendered).after es).slot.shown? = some task
  /-- The segment of a running task is open, and its lines are read in the format settled on. -/
  running : ∀ {task invocation}, ((initial echoRendered).after es).slot.Runs task invocation →
    last = some (task, said echoRendered task es) ∧ ((initial echoRendered).after es).format =
      Message.formatBehindAll none ((initial echoRendered).heard task es)
  /-- A task that has not begun has not been heard. -/
  unheard : ∀ {task}, .opened task ∉ transcript ((initial echoRendered).history es) →
    (initial echoRendered).heard task es = []

namespace Scripted

variable {echoRendered : Bool} {es : List Event} {segments : List Segment}
  {last : Option (TaskId × List String)} {e : Event}

/-! ### A task that is over does not hold the slot -/

lemma not_held_of_closed {task : TaskId}
    (h : .closed task ∈ transcript ((initial echoRendered).history es)) :
    ((initial echoRendered).after es).slot.task? ≠ some task := by
  intro hheld
  have hfinished := mem_finishedTasks.1 (closed_mem_transcript.1 h)
  cases fate_unique hfinished (holding_mem_fates.2 hheld)

lemma closed_of_mem (h : Scripted echoRendered es segments last) {s : Segment}
    (hs : s ∈ segments) : .closed s.task ∈ transcript ((initial echoRendered).history es) := by
  rw [h.transcript_eq]
  exact List.mem_append_left _ (List.mem_flatMap.2 ⟨s, hs, s.closed_mem_marks⟩)

/-- A task that began and holds the slot is the one of the open segment. -/
lemma last_of_opened (h : Scripted echoRendered es segments last) {task : TaskId}
    (hopened : .opened task ∈ transcript ((initial echoRendered).history es))
    (hheld : ((initial echoRendered).after es).slot.task? = some task) :
    ∃ lines, last = some (task, lines) := by
  rw [h.transcript_eq, List.mem_append] at hopened
  rcases hopened with hmem | hmem
  · obtain ⟨s, hs, hmark⟩ := List.mem_flatMap.1 hmem
    obtain rfl := Segment.opened_mem_marks hmark
    exact absurd hheld (not_held_of_closed (h.closed_of_mem hs))
  · rcases last with _ | ⟨t, lines⟩
    · cases hmem
    · obtain rfl : task = t := by simpa [Segment.openMarks] using hmem
      exact ⟨lines, rfl⟩

/-! ### The invariant -/

lemma nil (echoRendered : Bool) : Scripted echoRendered [] [] none where
  transcript_eq := rfl
  run h := by cases h
  lone h := by cases h
  opened h := by cases h
  running := by
    rintro task invocation ⟨since, h⟩
    cases h
  unheard _ := rfl

lemma heard_concat_of_unheard {task : TaskId}
    (h : ((initial echoRendered).after es).slot.heard? task e = none) :
    (initial echoRendered).heard task (es ++ [e]) = (initial echoRendered).heard task es := by
  rw [heard_concat, h]
  exact List.append_nil _

lemma said_concat_of_unheard {task : TaskId}
    (h : ((initial echoRendered).after es).slot.heard? task e = none) :
    said echoRendered task (es ++ [e]) = said echoRendered task es := by
  rw [said, heard_concat_of_unheard h]
  rfl

section Step

variable {core' : Core} (h : Scripted echoRendered es segments last)
  (hcore : (((initial echoRendered).after es).step e).core = core')

include h hcore

/-- A task begins, and its segment is opened. -/
lemma step_opened {task : TaskId} {invocation : Invocation}
    (hmarks : transcript (((initial echoRendered).after es).entries e) = [.opened task])
    (before : ((initial echoRendered).after es).slot = .spawning task invocation)
    (behind : core'.slot.Runs task invocation) (format : core'.format = none) :
    Scripted echoRendered (es ++ [e]) segments (some (task, [])) := by
  have hunheard : ∀ t, ((initial echoRendered).after es).slot.heard? t e = none :=
    fun t => Slot.heard?_of_not_runs (by simp [Slot.Runs, before])
  have hheld : ((initial echoRendered).after es).slot.task? = some task := by simp [before]
  obtain rfl : last = none := by
    rcases last with _ | ⟨t, lines⟩
    · rfl
    · simpa [before, Slot.shown?] using (h.opened rfl).2
  have hnew : .opened task ∉ transcript ((initial echoRendered).history es) := by
    intro hopened
    obtain ⟨lines, hlast⟩ := h.last_of_opened hopened hheld
    cases hlast
  have hsaid : said echoRendered task (es ++ [e]) = [] := by
    rw [said_concat_of_unheard (hunheard task), said, h.unheard hnew]
    rfl
  obtain ⟨since, hslot⟩ := behind
  refine ⟨?_, ?_, ?_, ?_, ?_, ?_⟩
  · rw [history_concat, transcript_append, hmarks, h.transcript_eq]
    simp [Segment.openMarks]
  · intro t lines hs
    rw [said_concat_of_unheard (hunheard t)]
    exact h.run hs
  · intro t hs
    rw [history_concat, transcript_append, hmarks, List.mem_append, not_or, List.mem_singleton]
    refine ⟨h.lone hs, ?_⟩
    rintro ⟨⟩
    exact not_held_of_closed (h.closed_of_mem hs) hheld
  · rintro t lines ⟨⟩
    rw [hsaid, after_concat, hcore, hslot]
    exact ⟨rfl, rfl⟩
  · rintro t i hruns
    rw [after_concat, hcore] at hruns ⊢
    obtain ⟨rfl, -⟩ := hruns.inj ⟨since, hslot⟩
    rw [hsaid, format, heard_concat_of_unheard (hunheard t), h.unheard hnew]
    exact ⟨rfl, rfl⟩
  · intro t ht
    rw [history_concat, transcript_append, List.mem_append, not_or] at ht
    rw [heard_concat_of_unheard (hunheard t)]
    exact h.unheard ht.1

/-- A running task puts out a line, and the open segment grows by what the line comes to. -/
lemma step_said {task : TaskId} {invocation : Invocation} {l : Stream × String}
    (hmarks : transcript (((initial echoRendered).after es).entries e) =
      (Message.spoken ((initial echoRendered).after es).echoRendered
        ((initial echoRendered).after es).format l).map .line)
    (runs : ((initial echoRendered).after es).slot.Runs task invocation)
    (heard : ((initial echoRendered).after es).slot.heard? task e = some l)
    (hcore' : core' = { (initial echoRendered).after es with
      format := Message.formatBehind ((initial echoRendered).after es).format l }) :
    Scripted echoRendered (es ++ [e]) segments
      (some (task, said echoRendered task (es ++ [e]))) := by
  obtain ⟨rfl, hformat⟩ := h.running runs
  have hecho : ((initial echoRendered).after es).echoRendered = echoRendered :=
    echoRendered_after (initial echoRendered) es
  have hheld : ((initial echoRendered).after es).slot.task? = some task := by
    obtain ⟨since, hslot⟩ := runs
    simp [hslot]
  have hother : ∀ {t}, t ≠ task → ((initial echoRendered).after es).slot.heard? t e = none := by
    intro t hne
    by_contra hsome
    obtain ⟨l', hl'⟩ := Option.ne_none_iff_exists'.1 hsome
    obtain ⟨⟨i, hruns⟩, -⟩ := Slot.heard?_eq_some hl'
    exact hne (hruns.inj runs).1
  have hheard : (initial echoRendered).heard task (es ++ [e]) =
      (initial echoRendered).heard task es ++ [l] := by
    rw [heard_concat, heard]
    rfl
  have hsaid : said echoRendered task (es ++ [e]) = said echoRendered task es ++
      Message.spoken echoRendered ((initial echoRendered).after es).format l := by
    rw [said, hheard, Message.spokenAll_concat, ← hformat]
    rfl
  have hnone : ∀ t, .opened t ∉ transcript (((initial echoRendered).after es).entries e) := by
    simp [hmarks]
  have hslot' : core'.slot = ((initial echoRendered).after es).slot := by rw [hcore']
  refine ⟨?_, ?_, ?_, ?_, ?_, ?_⟩
  · rw [history_concat, transcript_append, hmarks, h.transcript_eq, hsaid, hecho]
    simp [Segment.openMarks]
  · intro t lines hs
    have hne : t ≠ task := by
      rintro rfl
      exact not_held_of_closed (h.closed_of_mem hs) hheld
    rw [said_concat_of_unheard (hother hne)]
    exact h.run hs
  · intro t hs
    rw [history_concat, transcript_append, List.mem_append, not_or]
    exact ⟨h.lone hs, hnone t⟩
  · rintro t lines ⟨⟩
    rw [after_concat, hcore, hslot']
    exact ⟨rfl, (h.opened rfl).2⟩
  · intro t i hruns
    rw [after_concat, hcore] at hruns ⊢
    rw [hslot'] at hruns
    obtain ⟨rfl, -⟩ := hruns.inj runs
    refine ⟨rfl, ?_⟩
    rw [hcore', hheard, Message.formatBehindAll, List.foldl_append, hformat]
    rfl
  · intro t ht
    rw [history_concat, transcript_append, List.mem_append, not_or] at ht
    have hne : t ≠ task := by
      rintro rfl
      exact ht.1 (by simp [h.transcript_eq, Segment.openMarks])
    rw [heard_concat_of_unheard (hother hne)]
    exact h.unheard ht.1

/-- A task is over, and its segment is closed, or stands alone. -/
lemma step_closed {task : TaskId}
    (hmarks : transcript (((initial echoRendered).after es).entries e) = [.closed task])
    (held : ((initial echoRendered).after es).slot.task? = some task)
    (unheard : ∀ t, ((initial echoRendered).after es).slot.heard? t e = none)
    (free : core'.slot.shown? = none) :
    ∃ s, Scripted echoRendered (es ++ [e]) (segments ++ [s]) none := by
  have hopened : ∀ {t}, .opened t ∈ transcript ((initial echoRendered).history (es ++ [e])) ↔
      .opened t ∈ transcript ((initial echoRendered).history es) := by
    simp [history_concat, hmarks]
  have hruns : ∀ {t i}, ¬ ((initial echoRendered).after (es ++ [e])).slot.Runs t i := by
    rintro t i ⟨since, hslot⟩
    rw [after_concat, hcore] at hslot
    simp [hslot, Slot.shown?] at free
  have hold : ∀ {t lines}, .run t lines ∈ segments → lines = said echoRendered t (es ++ [e]) := by
    intro t lines hs
    rw [said_concat_of_unheard (unheard t)]
    exact h.run hs
  have hunheard : ∀ {t}, .opened t ∉ transcript ((initial echoRendered).history (es ++ [e])) →
      (initial echoRendered).heard t (es ++ [e]) = [] := by
    intro t ht
    rw [heard_concat_of_unheard (unheard t)]
    exact h.unheard (mt hopened.2 ht)
  rcases hlast : last with _ | ⟨t, lines⟩
  · -- the task has not begun
    refine ⟨.lone task, ?_, ?_, ?_, by simp, fun hr => absurd hr hruns, hunheard⟩
    · rw [history_concat, transcript_append, hmarks, h.transcript_eq, hlast]
      simp [Segment.openMarks, Segment.marks]
    · intro t lines hs
      exact hold (by simpa using hs)
    · intro t hs
      rw [hopened]
      rcases List.mem_append.1 hs with hs | hs
      · exact h.lone hs
      · obtain rfl : t = task := by simpa using hs
        intro hmem
        obtain ⟨lines, hsome⟩ := h.last_of_opened hmem held
        simp [hlast] at hsome
  · -- the task of the open segment is the one that is over
    obtain ⟨hlines, hshown⟩ := h.opened hlast
    obtain rfl : t = task := by
      generalize ((initial echoRendered).after es).slot = slot at hshown held
      cases slot <;> simp_all [Slot.shown?]
    refine ⟨.run t lines, ?_, ?_, ?_, by simp, fun hr => absurd hr hruns, hunheard⟩
    · rw [history_concat, transcript_append, hmarks, h.transcript_eq, hlast]
      simp [Segment.openMarks, Segment.marks]
    · intro t' lines' hs
      rcases List.mem_append.1 hs with hs | hs
      · exact hold hs
      · obtain ⟨rfl, rfl⟩ : t' = t ∧ lines' = lines := by simpa using hs
        rw [said_concat_of_unheard (unheard t')]
        exact hlines
    · intro t' hs
      rw [hopened]
      exact h.lone (by simpa using hs)

/-- Nothing is written, and the segments are as they were. -/
lemma step_kept (hmarks : transcript (((initial echoRendered).after es).entries e) = [])
    (unheard : ∀ t, ((initial echoRendered).after es).slot.heard? t e = none)
    (shown : ∀ {t}, ((initial echoRendered).after es).slot.shown? = some t →
      core'.slot.shown? = some t)
    (runs : ∀ {t i}, core'.slot.Runs t i → ((initial echoRendered).after es).slot.Runs t i ∧
      core'.format = ((initial echoRendered).after es).format) :
    Scripted echoRendered (es ++ [e]) segments last := by
  have hsame : transcript ((initial echoRendered).history (es ++ [e])) =
      transcript ((initial echoRendered).history es) := by
    simp [history_concat, hmarks]
  refine ⟨?_, ?_, ?_, ?_, ?_, ?_⟩
  · rw [hsame]
    exact h.transcript_eq
  · intro t lines hs
    rw [said_concat_of_unheard (unheard t)]
    exact h.run hs
  · intro t hs
    rw [hsame]
    exact h.lone hs
  · intro t lines hlast
    rw [said_concat_of_unheard (unheard t), after_concat, hcore]
    exact ⟨(h.opened hlast).1, shown (h.opened hlast).2⟩
  · intro t i hruns
    rw [after_concat, hcore] at hruns ⊢
    obtain ⟨hruns, hformat⟩ := runs hruns
    rw [said_concat_of_unheard (unheard t), heard_concat_of_unheard (unheard t), hformat]
    exact h.running hruns
  · intro t ht
    rw [hsame] at ht
    rw [heard_concat_of_unheard (unheard t)]
    exact h.unheard ht

end Step

theorem step (h : Scripted echoRendered es segments last) (e : Event) :
    ∃ segments last, Scripted echoRendered (es ++ [e]) segments last := by
  have hwrites := writes_step ((initial echoRendered).after es) e
  generalize hmarks : transcript (((initial echoRendered).after es).entries e) = ms,
    hcore : (((initial echoRendered).after es).step e).core = core' at hwrites
  cases hwrites
  case opened before behind format => exact ⟨_, _, h.step_opened hcore hmarks before behind format⟩
  case said runs heard => exact ⟨_, _, h.step_said hcore hmarks runs heard rfl⟩
  case closed held unheard free =>
    obtain ⟨s, hs⟩ := h.step_closed hcore hmarks held unheard free
    exact ⟨_, _, hs⟩
  case kept unheard shown runs => exact ⟨_, _, h.step_kept hcore hmarks unheard shown runs⟩

end Scripted

theorem scripted_run (echoRendered : Bool) (es : List Event) :
    ∃ segments last, Scripted echoRendered es segments last := by
  induction es using List.reverseRecOn with
  | nil => exact ⟨_, _, .nil echoRendered⟩
  | append_singleton es e ih =>
    obtain ⟨segments, last, h⟩ := ih
    exact h.step e

/-! ### What is heard of a task that was killed -/

/-- A task has had its time: it does not hold the slot, or holds it only until its process ends. -/
structure Spent (core : Core) (task : TaskId) : Prop where
  given : task.number < core.nextTask.number
  stopping : core.slot.task? = some task → core.slot.IsStopping

section Spent

variable {core : Core} {task : TaskId} {e : Event}

lemma Spent.not_runs (h : core.Spent task) (invocation : Invocation) :
    ¬ core.slot.Runs task invocation := by
  rintro ⟨since, hslot⟩
  have hstopping := h.stopping (by simp [hslot])
  simp [hslot, Slot.IsStopping] at hstopping

lemma nextTask_begin_ne (core : Core) (request : Request) :
    (core.begin request).1.nextTask ≠ core.nextTask := by
  intro h
  have := congrArg TaskId.number h
  simp [begin] at this

/-- **A task that has had its time does not come back.** -/
theorem Spent.step (h : core.Spent task) (e : Event) : (core.step e).core.Spent task := by
  refine ⟨Nat.lt_of_lt_of_le h.given (nextTask_le_step core e), fun hheld => ?_⟩
  rcases begins_or_keeps core e with ⟨request, hp⟩ | ⟨hnext, hkeeps, -⟩
  · -- the step begins another task
    obtain rfl : core.nextTask = task := by
      simpa [(prepare_mem_step hp).2.1, begin] using hheld
    exact absurd h.given (Nat.lt_irrefl _)
  · have hstopping := h.stopping (hkeeps task hheld)
    have ht := transition_step core e
    generalize core.step e = s at ht hheld hnext ⊢
    cases ht
    case begun => exact absurd hnext (nextTask_begin_ne core _)
    case exitedStopping next _ _ _ =>
      rcases next with _ | request
      · simp [finish_core] at hheld
      · exact absurd hnext (nextTask_begin_ne core request)
    case failedStopping next _ _ _ =>
      rcases next with _ | request
      · simp [finish_core] at hheld
      · exact absurd hnext (nextTask_begin_ne core request)
    case heard hs => simp [hs, Slot.IsStopping] at hstopping
    all_goals simp_all [Slot.IsStopping]

lemma Spent.after (h : core.Spent task) (es : List Event) : (core.after es).Spent task := by
  induction es using List.reverseRecOn with
  | nil => exact h
  | append_singleton es e ih =>
    rw [after_concat]
    exact ih.step e

/-- A task that is killed, but for a shutdown, has had its time. -/
lemma spent_of_kill {echoRendered : Bool} {es : List Event} (he : e ≠ .shutdownRequested)
    (hk : .kill task ∈ (((initial echoRendered).after es).step e).actions) :
    (((initial echoRendered).after es).step e).core.Spent task := by
  obtain ⟨verb, since, hup⟩ := kill_mem_step hk
  have hheld := Slot.task?_of_liveTask hup.liveTask_eq
  refine ⟨?_, fun hheld' => ?_⟩
  · have := (tallied_run echoRendered es).holder hheld
    have := nextTask_le_step ((initial echoRendered).after es) e
    omega
  · rcases live_step hup.liveTask_eq e with hlive | ⟨time, what, -, rfl⟩
    · exact (isStopping_step he hup.liveTask_eq hlive).2 (.inr hk)
    · exact absurd rfl (ne_process_of_kill hk _)

/-- Only a line of a running task is put out. -/
lemma output_mem_step {text : String} (h : .output text ∈ (core.step e).actions) :
    ∃ task invocation time stream line, core.slot.Runs task invocation ∧
      e = .process ⟨task, time, .line stream line⟩ := by
  have ht := transition_step core e
  generalize core.step e = s at ht h
  cases ht
  case heard task invocation since time stream line hs =>
    exact ⟨task, invocation, time, stream, line, ⟨since, hs⟩, rfl⟩
  case failed t i time error hs =>
    obtain ⟨m, hm | hm⟩ := startFailureNotice_eq i.command.program error <;> simp [hm] at h
  all_goals simp [finish_actions, begin] at h

end Spent

/-! ### The main statement -/

/-- **The output is made of segments**, one behind the other and at most the last one open: each is
that of a task that began, with what its lines come to that it put out while it was running, or it
is the end of a task that never begins. A line is put out only of a task that is running and was
not killed before, but for a shutdown. -/
theorem transcript_eq_segments (echoRendered : Bool) (es : List Event) :
    let core := initial echoRendered
    let h := core.history es
    (∃ (segments : List Segment) (last : Option (TaskId × List String)),
      transcript h = segments.flatMap Segment.marks ++ Segment.openMarks last ∧
      (∀ task lines, .run task lines ∈ segments ∨ last = some (task, lines) →
        lines = Message.spokenAll echoRendered none (core.heard task es)) ∧
      ∀ task, .lone task ∈ segments → ∀ invocation, .did (.announceStart task invocation) ∉ h) ∧
    ∀ before e later text, es = before ++ e :: later →
      .output text ∈ ((core.after before).step e).actions →
        ∃ task invocation time stream line, (core.after before).slot.Runs task invocation ∧
          e = .process ⟨task, time, .line stream line⟩ ∧
          ∀ earlier e' between, before = earlier ++ e' :: between → e' ≠ .shutdownRequested →
            .kill task ∉ ((core.after earlier).step e').actions := by
  intro core h
  obtain ⟨segments, last, hscripted⟩ := scripted_run echoRendered es
  refine ⟨⟨segments, last, hscripted.transcript_eq, ?_, ?_⟩, ?_⟩
  · rintro task lines (hs | hlast)
    · exact hscripted.run hs
    · exact (hscripted.opened hlast).1
  · intro task hs invocation hstart
    exact hscripted.lone hs (opened_mem_transcript.2 ⟨invocation, hstart⟩)
  · intro before e later text _ htext
    obtain ⟨task, invocation, time, stream, line, hruns, he⟩ := output_mem_step htext
    refine ⟨task, invocation, time, stream, line, hruns, he, ?_⟩
    rintro earlier e' between rfl he' hk
    have hspent := (spent_of_kill he' hk).after between
    refine hspent.not_runs invocation ?_
    simpa [after] using hruns

/-- Behind a request to shut down the task it kills is still running, and a line of it that the core
is told of is put out. -/
theorem output_behind_shutdown :
    let build : Invocation := ⟨.build, ⟨"cargo", ["build"], ⟨"/work"⟩⟩, true⟩
    let es : List Event := [.runRequested ⟨.build, [], false⟩, .prepared ⟨1⟩ build,
      .process ⟨⟨1⟩, ⟨0⟩, .started none⟩, .shutdownRequested]
    .did (.kill ⟨1⟩) ∈ (initial true).history es ∧
      .output "late" ∈ (((initial true).after es).step
        (.process ⟨⟨1⟩, ⟨1⟩, .line .stderr "late"⟩)).actions := by
  intro build es
  have hkill : .did (.kill ⟨1⟩) ∈ (initial true).history
      (es.dropLast ++ .shutdownRequested :: []) :=
    did_mem_history.2 ⟨_, _, _, rfl, List.mem_singleton.2 rfl⟩
  exact ⟨hkill, List.mem_singleton.2 rfl⟩

end Core

end BuildRunner
