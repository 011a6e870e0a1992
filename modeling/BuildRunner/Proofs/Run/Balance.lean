import BuildRunner.Proofs.Run.History
import BuildRunner.Proofs.Run.Transition

/-!
What the slot takes in and lets go. A task takes the slot when it is prepared, and an event takes it
out again (`departure?`): the task is finished, or its preparation fails, or a forced request takes
its place before anything was started. Each step balances, and so does a run (`balance_run`): the
tasks prepared are, in order, those that have left the slot and the one that holds it.
-/

namespace BuildRunner

/-- What becomes of a task that was prepared. -/
inductive Fate where
  /-- Its end was made known. -/
  | finished
  /-- Its working directory could not be found out. -/
  | rejected
  /-- A forced request took its place while it was being prepared. -/
  | superseded
  /-- It holds the slot. -/
  | holding
  deriving DecidableEq

/-- The task that an action prepares. -/
def Action.prepared? : Action → Option TaskId
  | .prepare task _ => some task
  | _ => none

/-- The task whose end an action makes known. -/
def Action.finished? : Action → Option TaskId
  | .announceFinish task _ _ _ => some task
  | _ => none

/-- **The task that an event takes out of the slot**, and how it leaves. -/
def Slot.departure? : Slot → Event → Option (TaskId × Fate)
  | .preparing task _, .stopRequested => some (task, .finished)
  | .preparing task _, .runRequested request =>
    if request.force && request.verb.fault?.isNone then some (task, .superseded) else none
  | .preparing task _, .prepareFailed current _ =>
    if current = task then some (task, .rejected) else none
  | .spawning task _, .process e =>
    if e.task = task && e.what.isTerminal then some (task, .finished) else none
  | .running task _ _, .process ⟨current, _, .exited _⟩ =>
    if current = task then some (task, .finished) else none
  | .stopping task _ _ _, .process e =>
    if e.task = task && e.what.isTerminal then some (task, .finished) else none
  | _, _ => none

namespace Core

/-- The tasks prepared in a history, in order. -/
def preparedTasks (h : List Entry) : List TaskId := (actionsOf h).filterMap Action.prepared?

/-- The tasks whose end is made known in a history, in order. -/
def finishedTasks (h : List Entry) : List TaskId := (actionsOf h).filterMap Action.finished?

/-- The tasks that leave the slot over a list of events, in order. -/
def departures (core : Core) : List Event → List (TaskId × Fate)
  | [] => []
  | e :: es => (core.slot.departure? e).toList ++ departures (core.step e).core es

/-- What becomes of the tasks prepared over a list of events, in order. -/
def fates (core : Core) (es : List Event) : List (TaskId × Fate) :=
  core.departures es ++ (core.after es).slot.task?.toList.map (·, .holding)

/-- The tasks with a fate. -/
def withFate (fate : Fate) (l : List (TaskId × Fate)) : List TaskId :=
  (l.filter (·.2 = fate)).map Prod.fst

/-! ### Views of a history -/

section View

variable (h h' : List Entry) (core : Core) (e : Event)

@[simp] lemma preparedTasks_nil : preparedTasks [] = [] := rfl

@[simp] lemma preparedTasks_append :
    preparedTasks (h ++ h') = preparedTasks h ++ preparedTasks h' := by
  simp [preparedTasks]

lemma preparedTasks_entries :
    preparedTasks (core.entries e) = (core.step e).actions.filterMap Action.prepared? := by
  simp [preparedTasks]

@[simp] lemma finishedTasks_nil : finishedTasks [] = [] := rfl

@[simp] lemma finishedTasks_append :
    finishedTasks (h ++ h') = finishedTasks h ++ finishedTasks h' := by
  simp [finishedTasks]

lemma finishedTasks_entries :
    finishedTasks (core.entries e) = (core.step e).actions.filterMap Action.finished? := by
  simp [finishedTasks]

@[simp] lemma withFate_nil (fate : Fate) : withFate fate [] = [] := rfl

@[simp] lemma withFate_singleton (fate : Fate) (d : TaskId × Fate) :
    withFate fate [d] = if d.2 = fate then [d.1] else [] := by
  by_cases h : d.2 = fate <;> simp [withFate, h]

@[simp] lemma withFate_append (fate : Fate) (l l' : List (TaskId × Fate)) :
    withFate fate (l ++ l') = withFate fate l ++ withFate fate l' := by
  simp [withFate]

lemma mem_withFate {fate : Fate} {l : List (TaskId × Fate)} {task : TaskId} :
    task ∈ withFate fate l ↔ (task, fate) ∈ l := by
  simp [withFate]

end View

/-! ### Which events take a task out of the slot -/

section Departure

variable {slot : Slot} {e : Event} {task : TaskId}

lemma departure?_of_refuses (h : slot.Refuses e) : slot.departure? e = none := by
  cases h with
  | busy busy valid unforced => cases slot <;> simp [Slot.departure?, unforced]
  | prepareFailed stale reason =>
    cases slot with
    | preparing current request =>
      have hne : ∀ {task}, (∀ r, Slot.preparing current request ≠ .preparing task r) →
          task ≠ current := by
        rintro _ hstale rfl
        exact hstale request rfl
      simp [Slot.departure?, hne stale]
    | _ => rfl
  | @foreign _ e foreign =>
    obtain ⟨task, time, what⟩ := e
    cases slot with
    | idle => rfl
    | preparing => rfl
    | running current =>
      have hne : task ≠ current := fun h => foreign (by simp [h])
      cases what <;> simp [Slot.departure?, hne]
    | _ current =>
      have hne : task ≠ current := fun h => foreign (by simp [h])
      simp [Slot.departure?, hne]
  | prepared => cases slot <;> rfl
  | unheard quiet => cases slot <;> simp [Slot.departure?, Happening.isTerminal]
  | _ => simp [Slot.departure?, Happening.isTerminal]

lemma departure?_of_fault {request : Request} {fault : VerbError}
    (h : request.verb.fault? = some fault) : slot.departure? (.runRequested request) = none := by
  cases slot <;> simp [Slot.departure?, h]

/-- Only a report takes a live task out of the slot. -/
lemma departure?_of_live (h : slot.liveTask = some task) (he : ∀ report, e ≠ .process report) :
    slot.departure? e = none := by
  cases slot with
  | idle => cases h
  | preparing => cases h
  | _ => cases e <;> first | rfl | exact absurd rfl (he _)

lemma departure?_of_not_terminal {report : ProcessEvent} (h : report.what.isTerminal = false) :
    slot.departure? (.process report) = none := by
  obtain ⟨current, time, what⟩ := report
  cases what with
  | exited => cases h
  | failed => cases h
  | _ => cases slot <;> simp [Slot.departure?, Happening.isTerminal]

lemma departure?_exited (h : slot.liveTask = some task) (time : Instant) (code : Option Int) :
    slot.departure? (.process ⟨task, time, .exited code⟩) = some (task, .finished) := by
  cases slot with
  | idle => cases h
  | preparing => cases h
  | _ =>
    obtain rfl := Option.some.inj h
    simp [Slot.departure?, Happening.isTerminal]

end Departure

/-! ### What a step takes in and lets go -/

section Step

lemma prepared?_startFailureNotice (program : String) (error : StartError) :
    (startFailureNotice program error).prepared? = none :=
  apply_startFailureNotice (fun _ => rfl) (fun _ => rfl) program error

lemma finished?_startFailureNotice (program : String) (error : StartError) :
    (startFailureNotice program error).finished? = none :=
  apply_startFailureNotice (fun _ => rfl) (fun _ => rfl) program error

/-- **Each step balances**: the task that held the slot and the one that a step prepares are the one
that leaves the slot and the one that holds it now, and the end that it makes known is that of the
one that leaves. -/
theorem balance_step (core : Core) (e : Event) :
    core.slot.task?.toList ++ preparedTasks (core.entries e) =
        (core.slot.departure? e).toList.map Prod.fst ++ (core.step e).core.slot.task?.toList ∧
      finishedTasks (core.entries e) = withFate .finished (core.slot.departure? e).toList := by
  rw [preparedTasks_entries, finishedTasks_entries]
  have ht := transition_step core e
  generalize core.step e = s at ht ⊢
  cases ht
  case refused h => simp [departure?_of_refuses h]
  case invalid fault hv => simp [departure?_of_fault hv, Action.prepared?, Action.finished?]
  case begun valid hs =>
    rcases hs with hs | ⟨force, task, old, hs⟩
    · simp [hs, begin, Slot.departure?, Action.prepared?, Action.finished?]
    · simp [hs, begin, Slot.departure?, Action.prepared?, Action.finished?, force, valid]
  case overruled valid force hup =>
    rw [departure?_of_live hup.liveTask_eq (by simp), Slot.task?_of_liveTask hup.liveTask_eq]
    simp [Action.prepared?, Action.finished?]
  case stopped hup =>
    rw [departure?_of_live hup.liveTask_eq (by simp), Slot.task?_of_liveTask hup.liveTask_eq]
    simp [Action.prepared?, Action.finished?]
  case shut => cases core.slot <;> simp [Slot.departure?]
  case shutUp hup =>
    rw [departure?_of_live hup.liveTask_eq (by simp)]
    simp [Action.prepared?, Action.finished?]
  case started hs =>
    rw [departure?_of_not_terminal rfl, hs]
    simp [Action.prepared?, Action.finished?]
  case startedLate hs =>
    rw [departure?_of_not_terminal rfl, hs]
    simp
  case heard stream text hs =>
    obtain ⟨format, hf⟩ := onLine_core core stream text
    rw [departure?_of_not_terminal rfl, hf,
      filterMap_onLine (fun _ => rfl) (fun _ _ => rfl),
      filterMap_onLine (fun _ => rfl) (fun _ _ => rfl)]
    simp
  case exited hup =>
    rw [departure?_exited hup.liveTask_eq, Slot.task?_of_liveTask hup.liveTask_eq]
    simp [List.filterMap_cons, Action.prepared?, Action.finished?]
  case failed task i time error hs =>
    have hd : core.slot.departure? (.process ⟨task, time, .failed error⟩) =
        some (task, .finished) := by simp [hs, Slot.departure?, Happening.isTerminal]
    rw [hd, hs, goOn_actions, List.filterMap_cons_none (prepared?_startFailureNotice _ error),
      List.filterMap_cons_none (finished?_startFailureNotice _ error)]
    simp [Action.prepared?, Action.finished?]
  case exitedStopping next time code hs =>
    rw [departure?_exited (congrArg Slot.liveTask hs)]
    cases next <;>
      simp [hs, finish_actions, finish_core, begin, List.filterMap_cons, Action.prepared?,
        Action.finished?]
  case failedStopping next time error hs =>
    cases next <;>
      simp [hs, finish_actions, finish_core, begin, Slot.departure?, Happening.isTerminal,
        List.filterMap_cons, Action.prepared?, Action.finished?]
  all_goals simp_all [Slot.departure?, Action.prepared?, Action.finished?]

/-- A step gives a number to the task that it prepares, if there is one. -/
lemma numbered_step (core : Core) (e : Event) :
    ∃ n, preparedTasks (core.entries e) = (List.range' core.nextTask.number n).map TaskId.mk ∧
      (core.step e).core.nextTask.number = core.nextTask.number + n := by
  rw [preparedTasks_entries]
  have ht := transition_step core e
  generalize core.step e = s at ht ⊢
  cases ht
  case begun => exact ⟨1, rfl, rfl⟩
  case heard stream text hs =>
    obtain ⟨format, hf⟩ := onLine_core core stream text
    exact ⟨0, filterMap_onLine (fun _ => rfl) (fun _ _ => rfl) core stream text, by rw [hf]; rfl⟩
  case failed task i time error hs =>
    refine ⟨0, ?_, rfl⟩
    rw [goOn_actions, List.filterMap_cons_none (prepared?_startFailureNotice _ error)]
    rfl
  case exitedStopping next time code hs =>
    rcases next with _ | request
    · exact ⟨0, rfl, rfl⟩
    · exact ⟨1, rfl, rfl⟩
  case failedStopping next time error hs =>
    rcases next with _ | request
    · exact ⟨0, rfl, rfl⟩
    · exact ⟨1, rfl, rfl⟩
  all_goals exact ⟨0, rfl, rfl⟩

end Step

/-! ### What a run takes in and lets go -/

section Run

variable (core : Core) (es : List Event)

/-- **A run balances**, as its steps do. -/
theorem balance_run :
    core.slot.task?.toList ++ preparedTasks (core.history es) =
        (core.departures es).map Prod.fst ++ (core.after es).slot.task?.toList ∧
      finishedTasks (core.history es) = withFate .finished (core.departures es) := by
  induction es generalizing core with
  | nil => simp [departures]
  | cons e es ih =>
    obtain ⟨hstep, hfinished⟩ := balance_step core e
    obtain ⟨hrun, hfinished'⟩ := ih (core.step e).core
    refine ⟨?_, ?_⟩
    · calc core.slot.task?.toList ++ preparedTasks (core.history (e :: es))
          = core.slot.task?.toList ++ preparedTasks (core.entries e) ++
              preparedTasks ((core.step e).core.history es) := by simp [history]
        _ = (core.slot.departure? e).toList.map Prod.fst ++
              ((core.step e).core.slot.task?.toList ++
                preparedTasks ((core.step e).core.history es)) := by
            rw [hstep, List.append_assoc]
        _ = (core.departures (e :: es)).map Prod.fst ++
              (core.after (e :: es)).slot.task?.toList := by
            rw [hrun, departures, after_cons, List.map_append, List.append_assoc]
    · rw [history, finishedTasks_append, hfinished, hfinished', departures, withFate_append]

/-- The tasks prepared in a run have ascending numbers. -/
theorem numbered_run :
    ∃ n, preparedTasks (core.history es) = (List.range' core.nextTask.number n).map TaskId.mk ∧
      (core.after es).nextTask.number = core.nextTask.number + n := by
  induction es generalizing core with
  | nil => exact ⟨0, rfl, rfl⟩
  | cons e es ih =>
    obtain ⟨m, hm, hnext⟩ := numbered_step core e
    obtain ⟨n, hn, hlast⟩ := ih (core.step e).core
    refine ⟨m + n, ?_, ?_⟩
    · rw [history, preparedTasks_append, hm, hn, hnext, ← List.map_append, List.range'_append_1]
    · rw [after_cons, hlast, hnext, Nat.add_assoc]

end Run

/-! ### Where a task left the slot -/

section Place

variable {core : Core} {es : List Event} {d : TaskId × Fate}

lemma departures_append (core : Core) (es es' : List Event) :
    core.departures (es ++ es') = core.departures es ++ (core.after es).departures es' := by
  induction es generalizing core with
  | nil => rfl
  | cons e es ih => simp [departures, ih, after_cons]

lemma mem_departures_of_departure? {before : List Event} {e : Event}
    (h : (core.after before).slot.departure? e = some d) (later : List Event) :
    d ∈ core.departures (before ++ e :: later) := by
  simp [departures_append, departures, h]

/-- A task that left the slot did so at some event. -/
lemma mem_departures : d ∈ core.departures es ↔
    ∃ before e later, es = before ++ e :: later ∧
      (core.after before).slot.departure? e = some d := by
  refine ⟨fun h => ?_, ?_⟩
  · induction es generalizing core with
    | nil => cases h
    | cons e es ih =>
      rcases List.mem_append.1 h with h | h
      · exact ⟨[], e, es, rfl, Option.mem_toList.1 h⟩
      · obtain ⟨before, e', later, rfl, hd⟩ := ih h
        exact ⟨e :: before, e', later, rfl, hd⟩
  · rintro ⟨before, e, later, rfl, hd⟩
    exact mem_departures_of_departure? hd later

end Place

lemma departure?_eq_rejected {slot : Slot} {e : Event} {task : TaskId} :
    slot.departure? e = some (task, .rejected) ↔
      ∃ reason request, e = .prepareFailed task reason ∧ slot = .preparing task request := by
  refine ⟨fun h => ?_, ?_⟩
  · unfold Slot.departure? at h
    split at h <;> simp_all
  · rintro ⟨reason, request, rfl, rfl⟩
    simp [Slot.departure?]

lemma departure?_eq_superseded {slot : Slot} {e : Event} {task : TaskId} :
    slot.departure? e = some (task, .superseded) ↔
      ∃ request old, e = .runRequested request ∧ request.force = true ∧
        request.verb.fault? = none ∧ slot = .preparing task old := by
  refine ⟨fun h => ?_, ?_⟩
  · unfold Slot.departure? at h
    split at h <;> simp_all
  · rintro ⟨request, old, rfl, force, valid, rfl⟩
    simp [Slot.departure?, force, valid]

lemma departure?_ne_holding {slot : Slot} {e : Event} {task : TaskId} :
    slot.departure? e ≠ some (task, .holding) := by
  intro h
  unfold Slot.departure? at h
  split at h <;> simp_all

end Core

end BuildRunner
