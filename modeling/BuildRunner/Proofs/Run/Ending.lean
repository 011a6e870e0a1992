import BuildRunner.Proofs.Run.Fate
import Mathlib.Data.List.TakeWhile

/-!
How a task ends. The slot remembers of a run only whether its process has been told to end and
since when it has been up, and both say what the history says (`Recorded`): that the task was
killed, and when it was first reported as up. So the outcome and the time that a finished task is
given are told from the history alone.
-/

namespace BuildRunner

namespace Slot

/-- The process has been told to end. -/
def IsStopping : Slot → Prop
  | stopping _ _ _ _ => True
  | _ => False

/-- Since when the process has been up. -/
def since? : Slot → Option Instant
  | running _ _ since => some since
  | stopping _ _ since _ => since
  | _ => none

lemma Up.not_isStopping {slot : Slot} {task : TaskId} {verb : Verb} {since : Option Instant}
    (h : slot.Up task verb since) : ¬ slot.IsStopping := by
  cases h <;> exact not_false

lemma Up.since?_eq {slot : Slot} {task : TaskId} {verb : Verb} {since : Option Instant}
    (h : slot.Up task verb since) : slot.since? = since := by
  cases h <;> rfl

end Slot

/-- The time at which a task is reported as up, if that is what happened. -/
def Event.upAt? (task : TaskId) : Event → Option Instant
  | .process ⟨current, time, .started _⟩ => if current = task then some time else none
  | _ => none

namespace Core

/-- The time at which an entry reports a task as up, if it does. -/
def Entry.upAt? (task : TaskId) : Entry → Option Instant
  | .fed e => e.upAt? task
  | .did _ => none

/-- Whether an entry asks for the process of a task. -/
def Entry.asksFor (task : TaskId) : Entry → Bool
  | .did (.spawn current _) => current = task
  | _ => false

/-- **When a task was first reported as up** after its process had been asked for. -/
def upSince? (task : TaskId) (h : List Entry) : Option Instant :=
  (h.dropWhile fun x => !x.asksFor task).findSome? (·.upAt? task)

/-! ### Reports in a history -/

section Reports

variable {task : TaskId} {h : List Entry}

lemma asksFor_eq_true {x : Entry} : x.asksFor task = true ↔ ∃ i, x = .did (.spawn task i) := by
  refine ⟨fun hx => ?_, ?_⟩
  · unfold Entry.asksFor at hx
    split at hx
    · obtain rfl := of_decide_eq_true hx
      exact ⟨_, rfl⟩
    · cases hx
  · rintro ⟨i, rfl⟩
    exact decide_eq_true rfl

lemma findSome?_upAt?_entries (core : Core) (e : Event) :
    (core.entries e).findSome? (·.upAt? task) = e.upAt? task := by
  have hdid : ((core.step e).actions.map Entry.did).findSome? (·.upAt? task) = none := by
    simp [List.findSome?_eq_none_iff, Entry.upAt?]
  rw [entries, List.findSome?_cons, hdid]
  simp only [Entry.upAt?]
  cases e.upAt? task <;> rfl

/-- Of a process that was asked for, the first report counts. -/
lemma upSince?_append_entries {invocation : Invocation} (hs : .did (.spawn task invocation) ∈ h)
    (core : Core) (e : Event) :
    upSince? task (h ++ core.entries e) = (upSince? task h).or (e.upAt? task) := by
  have hne : (h.dropWhile fun x => !x.asksFor task).isEmpty = false := by
    rw [List.isEmpty_eq_false_iff, Ne, List.dropWhile_eq_nil_iff]
    intro hall
    have := hall _ hs
    simp [asksFor_eq_true.2 ⟨invocation, rfl⟩] at this
  rw [upSince?, List.dropWhile_append, hne, if_neg Bool.false_ne_true, List.findSome?_append,
    findSome?_upAt?_entries]
  rfl

/-- A process that has just been asked for has not been reported as up. -/
lemma upSince?_of_spawned (hs : ∀ invocation, .did (.spawn task invocation) ∉ h)
    (invocation : Invocation) (e : Event) :
    upSince? task (h ++ [.fed e, .did (.spawn task invocation)]) = none := by
  have hall : ∀ x ∈ h ++ [.fed e], (!x.asksFor task) = true := by
    intro x hx
    rw [Bool.not_eq_true', ← Bool.not_eq_true, asksFor_eq_true]
    rintro ⟨i, rfl⟩
    rcases List.mem_append.1 hx with hx | hx
    · exact hs i hx
    · simp at hx
  have happend : h ++ [.fed e, .did (.spawn task invocation)] =
      (h ++ [.fed e]) ++ [.did (.spawn task invocation)] := by simp
  rw [upSince?, happend, List.dropWhile_append_of_pos hall]
  simp [Entry.asksFor, Entry.upAt?]

end Reports

/-! ### What the slot remembers -/

section Step

variable {core : Core} {e : Event} {task : TaskId}

/-- A report that a live task is up is refused only if it was reported as up before. -/
lemma or_upAt?_of_refuses {slot : Slot} (href : slot.Refuses e)
    (hlive : slot.liveTask = some task) : slot.since?.or (e.upAt? task) = slot.since? := by
  cases href with
  | @foreign _ r foreign =>
    obtain ⟨current, time, what⟩ := r
    have hne : current ≠ task := by
      rintro rfl
      exact foreign hlive
    cases what <;> simp [Event.upAt?, hne]
  | _ => simp [Event.upAt?, Slot.since?]

/-- **The slot remembers the first report** that the live task is up. -/
theorem since?_step (hlive : core.slot.liveTask = some task)
    (hlive' : (core.step e).core.slot.liveTask = some task) :
    (core.step e).core.slot.since? = core.slot.since?.or (e.upAt? task) := by
  have ht := transition_step core e
  generalize core.step e = s at ht hlive' ⊢
  cases ht
  case refused h => exact (or_upAt?_of_refuses h hlive).symm
  case overruled hup =>
    rw [hup.since?_eq]
    simp [Slot.since?, Event.upAt?]
  case stopped hup =>
    rw [hup.since?_eq]
    simp [Slot.since?, Event.upAt?]
  case heard stream text hs =>
    obtain ⟨format, hf⟩ := onLine_core core stream text
    simp [hf, Event.upAt?]
  case exited hup => simp at hlive'
  case exitedStopping next _ _ _ => rcases next with _ | r <;> simp [finish_core, begin] at hlive'
  case failedStopping next _ _ _ => rcases next with _ | r <;> simp [finish_core, begin] at hlive'
  all_goals simp_all [Slot.since?, Event.upAt?, begin]

/-- **The slot remembers that the live task was killed**, unless it was killed by a shutdown. -/
theorem isStopping_step (he : e ≠ .shutdownRequested) (hlive : core.slot.liveTask = some task)
    (hlive' : (core.step e).core.slot.liveTask = some task) :
    (core.step e).core.slot.IsStopping ↔
      core.slot.IsStopping ∨ .kill task ∈ (core.step e).actions := by
  have ht := transition_step core e
  generalize core.step e = s at ht hlive' ⊢
  cases ht
  case refused => simp
  case overruled hup =>
    obtain rfl := Option.some.inj (hup.liveTask_eq.symm.trans hlive)
    simp [Slot.IsStopping]
  case stopped hup =>
    obtain rfl := Option.some.inj (hup.liveTask_eq.symm.trans hlive)
    simp [Slot.IsStopping]
  case heard stream text hs =>
    obtain ⟨format, hf⟩ := onLine_core core stream text
    have hkill : .kill task ∉ (core.onLine stream text).actions := by
      intro hk
      rcases mem_onLine hk with ⟨_, hk⟩ | ⟨_, _, hk⟩ <;> cases hk
    simp [hf, hkill]
  case exited hup => simp at hlive'
  case exitedStopping next _ _ _ => rcases next with _ | r <;> simp [finish_core, begin] at hlive'
  case failedStopping next _ _ _ => rcases next with _ | r <;> simp [finish_core, begin] at hlive'
  all_goals simp_all [Slot.IsStopping, begin]

/-- **How a task is finished**: it is stopped while it is being prepared, or its process has exited
or failed; then it counts as cancelled if it was being stopped. -/
theorem finish_mem_step {verb : Verb} {outcome : Outcome} {elapsed : Duration}
    (h : .announceFinish task verb outcome elapsed ∈ (core.step e).actions) :
    (e = .stopRequested ∧ (∃ request, core.slot = .preparing task request) ∧
      outcome = .cancelled ∧ elapsed = .zero) ∨
    core.slot.liveTask = some task ∧
      ((∃ time code, e = .process ⟨task, time, .exited code⟩ ∧
        elapsed = Core.elapsed core.slot.since? time ∧
        (core.slot.IsStopping ∧ outcome = .cancelled ∨
          ¬ core.slot.IsStopping ∧ outcome = .ofExit code)) ∨
      ∃ time error, e = .process ⟨task, time, .failed error⟩ ∧ elapsed = .zero ∧
        (core.slot.IsStopping ∧ outcome = .cancelled ∨
          ¬ core.slot.IsStopping ∧ outcome = .startFailed error)) := by
  have ht := transition_step core e
  generalize core.step e = s at ht h
  cases ht
  case withdrawn t request hs =>
    obtain ⟨rfl, -, rfl, rfl⟩ : task = t ∧ _ := by simpa using h
    exact .inl ⟨rfl, ⟨request, hs⟩, rfl, rfl⟩
  case exited t v since time code hup =>
    obtain ⟨rfl, -, rfl, rfl⟩ : task = t ∧ _ := by simpa using h
    exact .inr ⟨hup.liveTask_eq,
      .inl ⟨time, code, rfl, by rw [hup.since?_eq], .inr ⟨hup.not_isStopping, rfl⟩⟩⟩
  case failed t i time error hs =>
    rcases List.mem_pair.1 h with h | h
    · obtain ⟨m, hm | hm⟩ := startFailureNotice_eq i.command.program error <;> simp [hm] at h
    · obtain ⟨rfl, -, rfl, rfl⟩ := Action.announceFinish.inj h
      exact .inr ⟨by simp [hs],
        .inr ⟨time, error, rfl, rfl, .inr ⟨by simp [hs, Slot.IsStopping], rfl⟩⟩⟩
  case exitedStopping t v since next time code hs =>
    obtain ⟨rfl, -, rfl, rfl⟩ : task = t ∧ _ := by simpa [finish_actions] using h
    exact .inr ⟨by simp [hs],
      .inl ⟨time, code, rfl, by simp [hs, Slot.since?], .inl ⟨by simp [hs, Slot.IsStopping], rfl⟩⟩⟩
  case failedStopping t v since next time error hs =>
    obtain ⟨rfl, -, rfl, rfl⟩ : task = t ∧ _ := by simpa [finish_actions] using h
    exact .inr ⟨by simp [hs],
      .inr ⟨time, error, rfl, rfl, .inl ⟨by simp [hs, Slot.IsStopping], rfl⟩⟩⟩
  case heard => rcases mem_onLine h with ⟨_, h⟩ | ⟨_, _, h⟩ <;> cases h
  all_goals simp [begin] at h

end Step

/-! ### The history says the same -/

/-- **What the slot remembers of its live task** is what the history says. -/
structure Recorded (h : List Entry) (core : Core) : Prop where
  since : ∀ {task}, core.slot.liveTask = some task → upSince? task h = core.slot.since?
  killed : ∀ {task}, core.slot.liveTask = some task →
    (.did (.kill task) ∈ h ↔ core.slot.IsStopping)

section Run

variable {echoRendered : Bool} {es : List Event}

lemma not_killed_of_unspawned {task : TaskId}
    (h : ∀ i, .did (.spawn task i) ∉ (initial echoRendered).history es) :
    .did (.kill task) ∉ (initial echoRendered).history es := by
  intro hk
  obtain ⟨invocation, hs⟩ := spawned_of_killed hk
  exact h invocation hs

/-- **The slot remembers when the live task was first reported as up.** -/
theorem since?_run {task : TaskId} (hlive : ((initial echoRendered).after es).slot.liveTask = some task) :
    upSince? task ((initial echoRendered).history es) =
      ((initial echoRendered).after es).slot.since? := by
  induction es using List.reverseRecOn with
  | nil => simp [initial] at hlive
  | append_singleton es e ih =>
    rw [after_concat] at hlive ⊢
    rw [history_concat]
    -- A live task was live before, or its process has just been asked for.
    rcases live_of_step hlive with hlive₀ | ⟨invocation, hs⟩
    · obtain ⟨invocation, hs⟩ := spawned_of_live hlive₀
      rw [upSince?_append_entries hs, ih hlive₀, since?_step hlive₀ hlive]
    · obtain ⟨rfl, ⟨request, hslot⟩, hstep⟩ := spawn_mem_step hs
      have hunspawned := (tallied_run echoRendered es).unspawned hslot
      rw [entries, hstep, goOn_actions]
      exact upSince?_of_spawned hunspawned invocation _

theorem recorded_run (hes : .shutdownRequested ∉ es) :
    Recorded ((initial echoRendered).history es) ((initial echoRendered).after es) := by
  refine ⟨since?_run, fun {task} hlive => ?_⟩
  induction es using List.reverseRecOn with
  | nil => simp [initial] at hlive
  | append_singleton es e ih =>
    obtain ⟨hes, he⟩ : .shutdownRequested ∉ es ∧ e ≠ .shutdownRequested := by
      simpa [eq_comm] using hes
    rw [after_concat] at hlive ⊢
    rw [history_concat, List.mem_append, did_mem_entries]
    rcases live_of_step hlive with hlive₀ | ⟨invocation, hs⟩
    · rw [ih hes hlive₀, isStopping_step he hlive₀ hlive]
    · obtain ⟨rfl, ⟨request, hslot⟩, hstep⟩ := spawn_mem_step hs
      have hunspawned := (tallied_run echoRendered es).unspawned hslot
      have hkilled := not_killed_of_unspawned hunspawned
      simp [hstep, hkilled, Slot.IsStopping]

/-! ### The main statement -/

/-- **How a task ended is told from its history.** -/
theorem outcome_of_history (hes : .shutdownRequested ∉ es) {e : Event} {task : TaskId} {verb : Verb}
    {outcome : Outcome} {elapsed : Duration}
    (hfinish : .announceFinish task verb outcome elapsed ∈
      (((initial echoRendered).after es).step e).actions) :
    let h := (initial echoRendered).history es
    let killed := .did (.kill task) ∈ h
    let withdrawn := e = .stopRequested ∧
      ∃ request, ((initial echoRendered).after es).slot = .preparing task request
    (outcome = .cancelled ↔ killed ∨ withdrawn) ∧
      (¬ (killed ∨ withdrawn) →
        (∀ code, outcome = .completed code ↔
          ∃ time, e = .process ⟨task, time, .exited (some code)⟩) ∧
        (outcome = .abnormal ↔ ∃ time, e = .process ⟨task, time, .exited none⟩) ∧
        ∀ error, outcome = .startFailed error ↔
          ∃ time, e = .process ⟨task, time, .failed error⟩) ∧
      ((∃ time code, e = .process ⟨task, time, .exited code⟩ ∧
          elapsed = Core.elapsed (upSince? task h) time) ∨
        (withdrawn ∨ ∃ time error, e = .process ⟨task, time, .failed error⟩) ∧
          elapsed = .zero) := by
  intro h killed withdrawn
  have hrecorded : Recorded h ((initial echoRendered).after es) := recorded_run hes
  rcases finish_mem_step hfinish with ⟨rfl, hslot, rfl, rfl⟩ | ⟨hlive, hend⟩
  · have hw : withdrawn := ⟨rfl, hslot⟩
    exact ⟨by simp [hw], fun hn => absurd (.inr hw) hn, .inr ⟨.inl hw, rfl⟩⟩
  · have hkilled : killed ↔ ((initial echoRendered).after es).slot.IsStopping :=
      hrecorded.killed hlive
    have hnot : ¬ withdrawn := by
      rintro ⟨-, request, hslot⟩
      simp [hslot] at hlive
    rw [or_iff_left hnot, hrecorded.since hlive, hkilled]
    rcases hend with ⟨time, code, rfl, rfl, hend⟩ | ⟨time, error, rfl, rfl, hend⟩
    · refine ⟨?_, ?_, .inl ⟨time, code, rfl, rfl⟩⟩
      · rcases hend with ⟨hstopping, rfl⟩ | ⟨hstopping, rfl⟩
        · exact iff_of_true rfl hstopping
        · exact iff_of_false (by cases code <;> simp [Outcome.ofExit]) hstopping
      · intro hns
        obtain ⟨-, rfl⟩ := hend.resolve_left fun hend => hns hend.1
        cases code <;> simp [Outcome.ofExit]
    · refine ⟨?_, ?_, .inr ⟨.inr ⟨time, error, rfl⟩, rfl⟩⟩
      · rcases hend with ⟨hstopping, rfl⟩ | ⟨hstopping, rfl⟩
        · exact iff_of_true rfl hstopping
        · exact iff_of_false (by simp) hstopping
      · intro hns
        obtain ⟨-, rfl⟩ := hend.resolve_left fun hend => hns hend.1
        simp

end Run

/-- A task that is killed before it comes up, and reported as up twice since, is cancelled, and was
up since the first report. -/
theorem outcome_of_history_lateStart :
    let build : Invocation := ⟨.build, ⟨"cargo", ["build"], ⟨"/work"⟩⟩, true⟩
    let es : List Event := [.runRequested ⟨.build, [], false⟩, .prepared ⟨1⟩ build,
      .runRequested ⟨.test, [], true⟩, .process ⟨⟨1⟩, ⟨5⟩, .started none⟩, .stopRequested,
      .process ⟨⟨1⟩, ⟨7⟩, .started none⟩]
    let h := (initial true).history es
    .shutdownRequested ∉ es ∧
      .announceFinish ⟨1⟩ .build .cancelled ⟨4⟩ ∈
        (((initial true).after es).step (.process ⟨⟨1⟩, ⟨9⟩, .exited (some 0)⟩)).actions ∧
      .did (.kill ⟨1⟩) ∈ h ∧ upSince? ⟨1⟩ h = some ⟨5⟩ := by
  intro build es h
  have hes : .shutdownRequested ∉ es := by simp [es]
  have hfinish : .announceFinish ⟨1⟩ .build .cancelled ⟨4⟩ ∈
      (((initial true).after es).step (.process ⟨⟨1⟩, ⟨9⟩, .exited (some 0)⟩)).actions :=
    .tail _ (.head _)
  have hcancelled := (outcome_of_history hes hfinish).1.1 rfl
  exact ⟨hes, hfinish, hcancelled.resolve_right (fun hw => nomatch hw.1), rfl⟩

end Core

end BuildRunner
