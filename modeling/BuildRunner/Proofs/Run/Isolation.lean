import BuildRunner.Proofs.Run.Running

/-!
What a session shows belongs to one run. Whatever it has met, what is published is what the
diagnostics of the run made known last come to by themselves (`published_run`): no line of another
run counts, nor any line behind the end of this one or behind a kill of it, but for a shutdown, nor
a format that another run settled on. Behind the kill of a shutdown the run is still the running
one, and a line of it that is fed then counts.
-/

namespace BuildRunner

/-- What is published when a run is the last one made known: nothing if there is none. -/
def Announced.publishedLast (dedupe : Bool) : Option Announced → Published
  | none => .empty dedupe
  | some a => a.published dedupe

/-- **What is known behind a list of moments** of the run made known last: it is all that is
published, and a task that is running is its task and has read its lines. -/
structure Isolated (dedupe : Bool) (last : Option Announced) (s : Session) : Prop where
  /-- What is published is what the run has to show. -/
  published : s.published = Announced.publishedLast dedupe last
  /-- A running task is the one of the run, and reads in the format of its lines. -/
  running : ∀ {task invocation}, s.core.slot.Runs task invocation →
    ∃ a, last = some a ∧ a.task = task ∧ a.invocation = invocation ∧ ¬ a.Over ∧
      s.core.format = a.format
  /-- When no task is running, the run is over. -/
  ended : (∀ task invocation, ¬ s.core.slot.Runs task invocation) → ∀ {a}, last = some a → a.Over

namespace Isolated

/-! ### The invariant -/

lemma new (c : Config) (enabled : Bool) : Isolated c.dedupe none (Session.new c enabled) where
  published := rfl
  running h := by
    obtain ⟨since, h⟩ := h
    cases h
  ended _ _ h := by cases h

/-- The run made known last behind a step. -/
def next (last : Option Announced) (s : Session) (m : Moment) : Option Announced :=
  ((s.core.step m.event).announced? []).or (last.map (·.push m))

section Step

variable {dedupe : Bool} {last : Option Announced} {s : Session} {m : Moment}

lemma dedupe_eq (h : Isolated dedupe last s) : s.published.dedupe = dedupe := by
  rw [h.published]
  rcases last with _ | a
  · rfl
  · exact Published.dedupe_publishAll _ _ _

lemma next_of_none (hn : (s.core.step m.event).announced? [] = none) :
    next last s m = last.map (·.push m) := by
  rw [next, hn]
  rfl

/-- A step that says nothing new of the run made known last changes nothing that it shows. -/
lemma published_of_quiet (h : Isolated dedupe last s) (hq : (s.core.step m.event).Quiet)
    (hheard : ∀ a, last = some a → (a.push m).heard = a.heard) :
    (s.meet m).session.published = Announced.publishedLast dedupe (next last s m) := by
  rw [next_of_none (hq.announced?_eq []), Session.session_meet]
  dsimp only
  rw [Session.foldl_applyTo_of_quiet hq, h.published]
  rcases last with _ | a
  · rfl
  · exact (Announced.published_push_of_heard (hheard a rfl) dedupe).symm

/-- When no task is running behind a quiet step, the run is over by then. -/
lemma rests (h : Isolated dedupe last s) (hq : (s.core.step m.event).Quiet)
    (hnot : ∀ t i, ¬ (s.core.step m.event).core.slot.Runs t i)
    (hheard : ∀ a, last = some a → (a.push m).heard = a.heard)
    (hover : ∀ a, last = some a → (a.push m).Over) :
    Isolated dedupe (next last s m) (s.meet m).session := by
  refine ⟨h.published_of_quiet hq hheard, ?_, ?_⟩
  · intro t i ht
    rw [Session.core_meet] at ht
    exact absurd ht (hnot t i)
  · intro _ b hb
    rw [next_of_none (hq.announced?_eq [])] at hb
    obtain ⟨a, ha, rfl⟩ := Option.map_eq_some_iff.1 hb
    exact hover a ha

/-- A run that a step does not end goes on. -/
lemma goesOn {a : Announced} (hruns : s.core.slot.Runs a.task a.invocation) (hover : ¬ a.Over)
    (hends : m.event.endsRunning a.task = false)
    (hnone : (s.core.step m.event).announced? [] = none)
    (hslot : (s.core.step m.event).core.slot = s.core.slot)
    (hformat : (s.core.step m.event).core.format = (a.push m).format)
    (hpublished : (s.meet m).session.published = (a.push m).published dedupe) :
    Isolated dedupe (next (some a) s m) (s.meet m).session := by
  rw [next_of_none hnone]
  refine ⟨hpublished, ?_, ?_⟩
  · intro t i ht
    rw [Session.core_meet, hslot] at ht
    obtain ⟨rfl, rfl⟩ := ht.inj hruns
    refine ⟨a.push m, rfl, rfl, rfl, ?_, ?_⟩
    · simp [Announced.over_push, hover, hends]
    · rw [Session.core_meet, hformat]
  · intro hidle
    rw [Session.core_meet, hslot] at hidle
    exact absurd hruns (hidle a.task a.invocation)

/-- **While a task runs**, only its own lines change what is shown. -/
theorem step_running (h : Isolated dedupe last s) {task : TaskId} {invocation : Invocation}
    (hruns : s.core.slot.Runs task invocation) (m : Moment) :
    Isolated dedupe (next last s m) (s.meet m).session := by
  obtain ⟨a, rfl, rfl, rfl, hover, hformat⟩ := h.running hruns
  rcases Core.running_step hruns m.event with ⟨hends, hnot, hq⟩ | ⟨hends, hline, hcore, hq⟩ |
    ⟨time, text, he, hstep⟩
  · -- the run ends here
    refine h.rests hq hnot ?_ ?_
    · intro b hb
      obtain rfl := Option.some.inj hb
      exact Announced.heard_push_of_none (Event.stdoutLine?_of_endsRunning hends)
    · intro b hb
      obtain rfl := Option.some.inj hb
      exact Announced.over_push.2 (.inr hends)
  · -- nothing happens to it
    have hheard := Announced.heard_push_of_none hline
    refine goesOn hruns hover hends (hq.announced?_eq []) (by rw [hcore]) ?_ ?_
    · rw [hcore, hformat, Announced.format_push_of_heard hheard]
    · have hpublished := h.published_of_quiet hq fun b hb => Option.some.inj hb ▸ hheard
      rw [next_of_none (hq.announced?_eq [])] at hpublished
      exact hpublished
  · -- it puts out a line
    have hends : m.event.endsRunning a.task = false := by rw [he]; rfl
    have hline : m.event.stdoutLine? a.task = some text := by rw [he]; exact if_pos rfl
    obtain ⟨hcore, hpublish⟩ := Core.onLine_stdout_published hruns text m.enabled s.published
    refine goesOn hruns hover hends ?_ (by rw [hstep, hcore]) ?_ ?_
    · rw [hstep, Core.announced?_onLine]
    · rw [hstep, hcore, Announced.format_push_of_line hover hline, ← hformat]
    · rw [Session.session_meet, hstep, Announced.published_push_of_line hover hline, ← hformat]
      dsimp only
      rw [hpublish, h.published]
      rfl

/-- **While none runs**, one begins with nothing to show, or nothing changes. -/
theorem step_idle (h : Isolated dedupe last s) (hidle : ∀ t i, ¬ s.core.slot.Runs t i)
    (m : Moment) : Isolated dedupe (next last s m) (s.meet m).session := by
  rcases Core.idle_step hidle m.event with ⟨task, invocation, time, hs, hstep⟩ | ⟨hnot, hq⟩
  · -- a task begins to run
    have hnext : next last s m = some ⟨task, invocation, []⟩ := by
      rw [next, hstep]
      rfl
    rw [hnext, Session.session_meet, hstep]
    refine ⟨?_, ?_, ?_⟩
    · show s.published.clear.1 = Published.empty dedupe
      rw [← h.dedupe_eq]
      rfl
    · rintro t i ⟨since, ht⟩
      obtain ⟨rfl, rfl, -⟩ := Slot.running.inj ht
      exact ⟨_, rfl, rfl, rfl, by simp [Announced.Over], rfl⟩
    · intro hnot
      exact absurd ⟨time, rfl⟩ (hnot task invocation)
  · -- still none runs
    refine h.rests hq hnot (fun a ha => Announced.heard_push_of_over (h.ended hidle ha)) ?_
    intro a ha
    exact Announced.over_push.2 (.inl (h.ended hidle ha))

theorem step (h : Isolated dedupe last s) (m : Moment) :
    Isolated dedupe (next last s m) (s.meet m).session := by
  by_cases hruns : ∃ task invocation, s.core.slot.Runs task invocation
  · obtain ⟨task, invocation, hruns⟩ := hruns
    exact h.step_running hruns m
  · exact h.step_idle (by simpa using hruns) m

end Step

end Isolated

/-! ### The main statement -/

section Run

variable (c : Config) (enabled : Bool) (ms : List Moment)

theorem isolated_run :
    Isolated c.dedupe ((Core.initial c.echoRendered).lastAnnounced? ms)
      ((Session.new c enabled).run ms) := by
  induction ms using List.reverseRecOn with
  | nil => exact Isolated.new c enabled
  | append_singleton ms m ih =>
    have hcore : ((Session.new c enabled).run ms).core =
        (Core.initial c.echoRendered).after (ms.map (·.event)) := Session.core_run _ ms
    rw [Session.run_concat, Core.lastAnnounced?_concat, ← hcore]
    exact ih.step m

/-- The run made known last is listened to as long as its task is running, as it still is behind a
request to shut down. -/
theorem runs_iff_not_over {a : Announced}
    (h : (Core.initial c.echoRendered).lastAnnounced? ms = some a) :
    ((Session.new c enabled).run ms).core.slot.Runs a.task a.invocation ↔ ¬ a.Over := by
  have hi := isolated_run c enabled ms
  rw [h] at hi
  refine ⟨fun hruns => ?_, fun hover => ?_⟩
  · obtain ⟨b, hb, -, -, hover, -⟩ := hi.running hruns
    exact Option.some.inj hb ▸ hover
  · by_contra hruns
    refine hover (hi.ended (fun t i ht => ?_) rfl)
    obtain ⟨b, hb, rfl, rfl, -⟩ := hi.running ht
    obtain rfl := Option.some.inj hb
    exact hruns ht

end Run

/-- **What is published belongs to the run made known last.** Whatever a session has met, in
whatever order, and however the switch for diagnostics was set, what is published is what the lines
of that run come to that its task put out while it was running, when they are read by a reader of
their own, and nothing before the first run is made known. -/
theorem published_run (c : Config) (enabled : Bool) (ms : List Moment) :
    ((Session.new c enabled).run ms).published =
      match (Core.initial c.echoRendered).lastAnnounced? ms with
      | none => .empty c.dedupe
      | some a => (Published.empty c.dedupe).publishAll a.invocation.command.cwd a.diagnostics := by
  rw [(isolated_run c enabled ms).published]
  rcases (Core.initial c.echoRendered).lastAnnounced? ms with _ | a <;> rfl

end BuildRunner
