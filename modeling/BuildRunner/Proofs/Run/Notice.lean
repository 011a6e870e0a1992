import BuildRunner.Json.Printer
import BuildRunner.Proofs.Run.Isolation
import BuildRunner.Proofs.Run.SingleFlight

/-!
The counts in the notice of a run that is over. They are taken from what is published when the run
ends, and only a run that was made known has cleared that. So they are the run's own if it was made
known, and else those of the run made known last.
-/

namespace BuildRunner

/-! ### Runs are made known in order -/

/-- The task that holds the slot and whose process is not up. -/
def Slot.early? : Slot → Option TaskId
  | .preparing task _ => some task
  | .spawning task _ => some task
  | _ => none

namespace Core

section Step

variable {core : Core} {e : Event} {task : TaskId}

/-- A task whose process is not up has just been begun, or it was not up before. -/
lemma early_step (h : (core.step e).core.slot.early? = some task) :
    task = core.nextTask ∨ core.slot.early? = some task := by
  have ht := transition_step core e
  generalize core.step e = s at ht h
  cases ht
  case heard stream text hs =>
    obtain ⟨format, hf⟩ := onLine_core core stream text
    exact .inr (by simpa [hf] using h)
  case exitedStopping next _ _ _ =>
    rcases next with _ | r <;> simp_all [finish_core, begin, Slot.early?]
  case failedStopping next _ _ _ =>
    rcases next with _ | r <;> simp_all [finish_core, begin, Slot.early?]
  all_goals simp_all [begin, Slot.early?]

/-- A run is made known when its process comes up. -/
lemma announced?_step {since : List Moment} {a : Announced}
    (h : (core.step e).announced? since = some a) :
    core.slot = .spawning a.task a.invocation ∧
      (core.step e).core.slot.Runs a.task a.invocation := by
  by_cases hruns : ∃ t i, core.slot.Runs t i
  · obtain ⟨t, i, hruns⟩ := hruns
    rcases running_step hruns e with ⟨-, -, hq⟩ | ⟨-, -, -, hq⟩ | ⟨time, text, -, hstep⟩
    · rw [hq.announced?_eq] at h
      cases h
    · rw [hq.announced?_eq] at h
      cases h
    · rw [hstep, announced?_onLine] at h
      cases h
  · rcases idle_step (by simpa using hruns) e with ⟨t, i, time, hs, hstep⟩ | ⟨-, hq⟩
    · rw [hstep] at h ⊢
      cases h
      exact ⟨hs, time, rfl⟩
    · rw [hq.announced?_eq] at h
      cases h

/-- Only the task that holds the slot is over, and what follows from that publishes nothing. -/
lemma announceFinish_mem_step {verb : Verb} {outcome : Outcome} {elapsed : Duration}
    (h : .announceFinish task verb outcome elapsed ∈ (core.step e).actions) :
    core.slot.task? = some task ∧ (core.step e).Quiet := by
  have ht := transition_step core e
  generalize core.step e = s at ht h
  cases ht
  case withdrawn t r hs =>
    obtain ⟨rfl, -⟩ : task = t ∧ _ := by simpa using h
    exact ⟨by simp [hs], by simp [Step.Quiet, Action.isQuiet]⟩
  case exited t v since time code hup =>
    obtain ⟨rfl, -⟩ : task = t ∧ _ := by simpa using h
    exact ⟨Slot.task?_of_liveTask hup.liveTask_eq, by simp [Step.Quiet, Action.isQuiet]⟩
  case failed t i time error hs =>
    rcases List.mem_pair.1 h with h | h
    · obtain ⟨m, hm | hm⟩ := startFailureNotice_eq i.command.program error <;> simp [hm] at h
    · obtain ⟨rfl, -⟩ := Action.announceFinish.inj h
      exact ⟨by simp [hs], quiet_startFailureNotice _ _ _ rfl⟩
  case exitedStopping t v since next time code hs =>
    obtain ⟨rfl, -⟩ : task = t ∧ _ := by simpa [finish_actions] using h
    exact ⟨by simp [hs], by cases next <;> simp [Step.Quiet, Action.isQuiet, finish_actions]⟩
  case failedStopping t v since next time error hs =>
    obtain ⟨rfl, -⟩ : task = t ∧ _ := by simpa [finish_actions] using h
    exact ⟨by simp [hs], by cases next <;> simp [Step.Quiet, Action.isQuiet, finish_actions]⟩
  case heard => rcases mem_onLine h with ⟨_, h⟩ | ⟨_, _, h⟩ <;> cases h
  all_goals simp [begin] at h

end Step

/-- **What is known of the order** in which runs are made known: that of their numbers, all of
them given out, and that of a task whose process is not up not among them. -/
structure InOrder (core : Core) (announced : List Announced) : Prop where
  ascending : announced.Pairwise fun a b => a.task.number < b.task.number
  lt : ∀ a ∈ announced, a.task.number < core.nextTask.number
  early : ∀ {task}, core.slot.early? = some task → ∀ a ∈ announced, a.task ≠ task

lemma InOrder.step {announced : List Announced} {core : Core} (h : core.InOrder announced)
    (holder : ∀ {task}, core.slot.task? = some task → task.number + 1 = core.nextTask.number)
    (m : Moment) :
    (core.step m.event).core.InOrder
      (announced.map (·.push m) ++ ((core.step m.event).announced? []).toList) := by
  have hnext := nextTask_le_step core m.event
  have hlt : ∀ a ∈ announced, a.task.number < (core.step m.event).core.nextTask.number :=
    fun a ha => Nat.lt_of_lt_of_le (h.lt a ha) hnext
  rcases hnew : (core.step m.event).announced? [] with _ | new
  · refine ⟨?_, ?_, ?_⟩
    · simpa [List.pairwise_map] using h.ascending
    · simpa using hlt
    · intro task htask a ha
      obtain ⟨b, hb, rfl⟩ : ∃ b ∈ announced, b.push m = a := by simpa using ha
      rcases early_step htask with rfl | hearly
      · intro heq
        have hb := h.lt b hb
        rw [← heq, Announced.task_push] at hb
        exact absurd hb (Nat.lt_irrefl _)
      · exact h.early hearly b hb
  · obtain ⟨hs, since, hruns⟩ := announced?_step hnew
    have hnumber : new.task.number + 1 = core.nextTask.number := holder (by simp [hs])
    have hbelow : ∀ a ∈ announced, a.task.number < new.task.number := by
      intro a ha
      have hne : a.task.number ≠ new.task.number := fun heq =>
        h.early (by simp [hs, Slot.early?]) a ha (congrArg TaskId.mk heq)
      have := h.lt a ha
      omega
    refine ⟨?_, ?_, ?_⟩
    · rw [List.pairwise_append]
      refine ⟨by simpa [List.pairwise_map] using h.ascending, by simp, ?_⟩
      simpa using hbelow
    · intro a ha
      rcases List.mem_append.1 ha with ha | ha
      · obtain ⟨b, hb, rfl⟩ := List.mem_map.1 ha
        exact hlt b hb
      · obtain rfl : a = new := by simpa using ha
        omega
    · intro t ht
      rw [hruns] at ht
      cases ht

theorem inOrder_run (echoRendered : Bool) (ms : List Moment) :
    ((initial echoRendered).after (ms.map (·.event))).InOrder
      ((initial echoRendered).announcements ms) := by
  induction ms using List.reverseRecOn with
  | nil => exact ⟨List.Pairwise.nil, by simp [announcements], by simp [announcements]⟩
  | append_singleton ms m ih =>
    rw [announcements_concat, List.map_append, List.map_singleton, after_concat]
    exact ih.step (tallied_run echoRendered (ms.map (·.event))).holder m

end Core

/-! ### The counts of a run -/

namespace Announced

/-- The counts of what a task has to show, when these runs were made known: zero if it is not among
them. -/
def countsOf (dedupe : Bool) (announced : List Announced) (task : TaskId) : Snapshot :=
  match announced.find? (·.task = task) with
  | none => .zero
  | some a => (a.published dedupe).snapshot

lemma countsOf_of_forall_ne {announced : List Announced} {task : TaskId}
    (h : ∀ a ∈ announced, a.task ≠ task) (dedupe : Bool) :
    countsOf dedupe announced task = .zero := by
  have hnone : announced.find? (·.task = task) = none := by
    simpa [List.find?_eq_none] using h
  rw [countsOf, hnone]

/-- The task that has the number given out last is that of the run made known last, if it was made
known at all. -/
lemma countsOf_of_mem {announced : List Announced} {core : Core} (h : core.InOrder announced)
    {a : Announced} (ha : a ∈ announced) (hlast : a.task.number + 1 = core.nextTask.number)
    (dedupe : Bool) :
    countsOf dedupe announced a.task = (publishedLast dedupe announced.getLast?).snapshot := by
  obtain ⟨before, b, rfl⟩ : ∃ before b, announced = before ++ [b] := by
    rcases List.eq_nil_or_concat announced with rfl | ⟨before, b, hb⟩
    · cases ha
    · exact ⟨before, b, by rw [hb, List.concat_eq_append]⟩
  have hbelow : ∀ c ∈ before, c.task.number < b.task.number := by
    intro c hc
    exact (List.pairwise_append.1 h.ascending).2.2 c hc b (List.mem_singleton_self b)
  rcases List.mem_append.1 ha with ha | ha
  · have := hbelow a ha
    have := h.lt b (by simp)
    omega
  · obtain rfl := List.mem_singleton.1 ha
    have hnone : before.find? (·.task = a.task) = none := by
      simp only [List.find?_eq_none, decide_eq_true_eq]
      intro c hc heq
      have := hbelow c hc
      rw [heq] at this
      omega
    simp [countsOf, List.find?_append, hnone, publishedLast]

lemma snapshot_publishedLast_eq_zero {dedupe : Bool} {last : Option Announced} :
    (publishedLast dedupe last).snapshot = .zero ↔ ∀ a, last = some a → a.diagnostics = [] := by
  rcases last with _ | a
  · simp [publishedLast, Published.snapshot_empty]
  · simp [publishedLast, published, Published.snapshot_publishAll_eq_zero]

end Announced

/-! ### The notice of a run that is over -/

section Finished

variable {task : TaskId} {verb : Verb} {outcome : Outcome} {elapsed : Duration} {counts : Snapshot}

lemma Session.finished_mem_perform {clock : String} {s : Session} {a : Action}
    (h : .notice (.finished task verb outcome elapsed counts) ∈ (perform clock s a).effects) :
    a = .announceFinish task verb outcome elapsed ∧ counts = s.published.snapshot := by
  cases a with
  | announceFinish t v o el =>
    simp [perform] at h
    obtain ⟨rfl, rfl, rfl, rfl, rfl⟩ := h
    exact ⟨rfl, rfl⟩
  | publish d base =>
    simp only [perform] at h
    split at h <;> simp at h
  | _ => simp [perform] at h

/-- **A notice that a run is over** is that of the task that holds the slot. Its counts are those of
what is published, and the line that sums up the run has the same. -/
theorem Session.finished_mem_meet {s : Session} {m : Moment}
    (h : .finished task verb outcome elapsed counts ∈ (s.meet m).notices) :
    s.core.slot.task? = some task ∧ counts = s.published.snapshot ∧
      .output (summaryLine verb outcome elapsed counts) ∈ (s.meet m).effects := by
  rw [Handled.mem_notices] at h
  obtain ⟨a, ha, s', h'⟩ := exists_perform_of_mem_effects _ _ h
  obtain ⟨rfl, -⟩ := finished_mem_perform h'
  obtain ⟨htask, hq⟩ := Core.announceFinish_mem_step ha
  obtain ⟨b, -, h⟩ := (mem_effects_of_quiet hq).1 h
  obtain ⟨-, rfl⟩ := finished_mem_perform h
  refine ⟨htask, rfl, (mem_effects_of_quiet hq).2 ⟨_, ha, ?_⟩⟩
  exact List.mem_cons_self

/-- **The counts of a run that is over** are those of the run made known last. They are the run's
own exactly when it was made known, or when there is nothing to count. -/
theorem finished_counts (c : Config) (enabled : Bool) (ms : List Moment) (m : Moment)
    (h : .finished task verb outcome elapsed counts ∈
      (((Session.new c enabled).run ms).meet m).notices) :
    let announced := (Core.initial c.echoRendered).announcements ms
    .output (summaryLine verb outcome elapsed counts) ∈
        (((Session.new c enabled).run ms).meet m).effects ∧
      counts = (Announced.publishedLast c.dedupe announced.getLast?).snapshot ∧
      (counts = Announced.countsOf c.dedupe announced task ↔
        (∃ a ∈ announced, a.task = task) ∨ ∀ a, announced.getLast? = some a → a.diagnostics = []) := by
  intro announced
  obtain ⟨htask, hcounts, hsummary⟩ := Session.finished_mem_meet h
  have hcore : ((Session.new c enabled).run ms).core =
      (Core.initial c.echoRendered).after (ms.map (·.event)) := Session.core_run _ ms
  rw [hcore] at htask
  rw [(isolated_run c enabled ms).published] at hcounts
  refine ⟨hsummary, hcounts, ?_⟩
  by_cases hmem : ∃ a ∈ announced, a.task = task
  · obtain ⟨a, ha, rfl⟩ := hmem
    have hlast := (Core.tallied_run c.echoRendered (ms.map (·.event))).holder htask
    have horder := Core.inOrder_run c.echoRendered ms
    rw [Announced.countsOf_of_mem horder ha hlast]
    exact iff_of_true hcounts (.inl ⟨a, ha, rfl⟩)
  · have hne : ∀ a ∈ announced, a.task ≠ task := by simpa using hmem
    rw [Announced.countsOf_of_forall_ne hne, hcounts, or_iff_right hmem]
    exact Announced.snapshot_publishedLast_eq_zero

end Finished

/-! ### Counts that are left over -/

namespace Moment

/-- A build that shows an error and ends, and another one that is to be started. -/
def twoBuilds : List Moment :=
  let build : Invocation := ⟨.build, ⟨"cargo", ["build"], ⟨"/work"⟩⟩, true⟩
  let span : Json := .object [("file_name", .string "a"), ("line_start", .natural 1)]
  let error : Json := .object [("level", .string "error"), ("spans", .array [span])]
  [.runRequested ⟨.build, [], false⟩, .prepared ⟨1⟩ build, .process ⟨⟨1⟩, ⟨0⟩, .started none⟩,
    .process ⟨⟨1⟩, ⟨0⟩, .line .stdout error.render⟩, .process ⟨⟨1⟩, ⟨0⟩, .exited (some 1)⟩,
    .runRequested ⟨.build, [], false⟩, .prepared ⟨2⟩ build].map (⟨"12:00:00", true, ·⟩)

/-- The tool of the second build is not found. -/
def toolGone : Moment := ⟨"12:00:00", true, .process ⟨⟨2⟩, ⟨0⟩, .failed (.notFound "cargo")⟩⟩

end Moment

/-- The counts of the first build are its own. -/
theorem finished_counts_firstBuild :
    ⟨1, 1, 0, 0⟩ =
      Announced.countsOf false ((Core.initial true).announcements (Moment.twoBuilds.take 4)) ⟨1⟩ := by
  have h : .finished ⟨1⟩ .build (.completed 1) .zero ⟨1, 1, 0, 0⟩ ∈
      (((Session.new {} true).run (Moment.twoBuilds.take 4)).meet
        ⟨"12:00:00", true, .process ⟨⟨1⟩, ⟨0⟩, .exited (some 1)⟩⟩).notices := by decide +kernel
  exact (finished_counts {} true _ _ h).2.2.2 (.inl (by decide +kernel))

/-- The counts of a run are not always its own: the second build never came up, and is said to have
the error of the first one. -/
theorem finished_counts_leftOver :
    ¬ ∀ (c : Config) (enabled : Bool) (ms : List Moment) (m : Moment) (task : TaskId) (verb : Verb)
      (outcome : Outcome) (elapsed : Duration) (counts : Snapshot),
      .finished task verb outcome elapsed counts ∈
          (((Session.new c enabled).run ms).meet m).notices →
        counts = Announced.countsOf c.dedupe
          ((Core.initial c.echoRendered).announcements ms) task := by
  intro h
  have hnotice : .finished ⟨2⟩ .build (.startFailed (.notFound "cargo")) .zero ⟨1, 1, 0, 0⟩ ∈
      (((Session.new {} true).run Moment.twoBuilds).meet Moment.toolGone).notices := by
    decide +kernel
  have hcounts := h _ _ _ _ _ _ _ _ _ hnotice
  exact absurd hcounts (by decide +kernel)

end BuildRunner
