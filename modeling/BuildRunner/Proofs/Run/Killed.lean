import BuildRunner.Proofs.Run.Closing
import BuildRunner.Proofs.Run.Ending

/-!
Processes are neither left behind nor killed without need. A process reports that it came up, then
its lines, then its exit, or nothing but that it could not be started (`ReportsInOrder`); so the
task that is live is the only one whose end is still to be reported (`not_endReported_of_live`). A
kill goes to the live task and to none twice, and behind a request to shut down the live task was
killed.
-/

namespace BuildRunner

/-! ### What a process may report -/

namespace Happening

/-- Lines, and then no more than an exit. -/
def isTrail : List Happening → Bool
  | [] => true
  | .line _ _ :: hs => isTrail hs
  | .exited _ :: hs => hs.isEmpty
  | _ => false

/-- **What a process may have reported so far**: that it came up, if anything first and once, then
lines, then its exit; or that it could not be started, and nothing else. -/
def inOrder : List Happening → Bool
  | .started _ :: hs => isTrail hs
  | .failed _ :: hs => hs.isEmpty
  | hs => isTrail hs

lemma isTrail_of_append {hs hs' : List Happening} (h : isTrail (hs ++ hs') = true) :
    isTrail hs = true := by
  induction hs with
  | nil => rfl
  | cons x hs ih =>
    cases x with
    | line => exact ih h
    | exited =>
      simp only [List.cons_append, isTrail, List.isEmpty_iff, List.append_eq_nil_iff] at h
      simp [isTrail, h.1]
    | _ => exact h

lemma inOrder_of_append {hs hs' : List Happening} (h : inOrder (hs ++ hs') = true) :
    inOrder hs = true := by
  rcases hs with _ | ⟨x, hs⟩
  · rfl
  · cases x with
    | failed =>
      simp only [List.cons_append, inOrder, List.isEmpty_iff, List.append_eq_nil_iff] at h
      simp [inOrder, h.1]
    | _ => exact isTrail_of_append h

lemma not_isTrail_of_failed {hs : List Happening} {error : StartError} (h : .failed error ∈ hs) :
    isTrail hs = false := by
  induction hs with
  | nil => cases h
  | cons x hs ih =>
    cases x with
    | line => exact ih (by simpa using h)
    | exited =>
      have : .failed error ∈ hs := by simpa using h
      simpa [isTrail] using List.ne_nil_of_mem this
    | _ => rfl

/-- A process that came up does not fail to start. -/
lemma not_inOrder {hs hs' : List Happening} {pid : Option Nat} {error : StartError}
    (h : .started pid ∈ hs) : inOrder (hs ++ .failed error :: hs') = false := by
  rcases hs with _ | ⟨x, hs⟩
  · cases h
  · have hfailed : .failed error ∈ hs ++ .failed error :: hs' := by simp
    have htrail : isTrail (hs ++ .failed error :: hs') = false := not_isTrail_of_failed hfailed
    cases x with
    | failed => simp [inOrder]
    | exited => simp [inOrder, isTrail]
    | _ => exact htrail

end Happening

/-- The task that an action kills. -/
def Action.killed? : Action → Option TaskId
  | .kill task => some task
  | _ => none

namespace Core

/-- What an entry reports of the process of a task, if it does. -/
def Entry.report? (task : TaskId) : Entry → Option Happening
  | .fed (.process ⟨current, _, what⟩) => if current = task then some what else none
  | _ => none

/-- What is reported of the process of a task, in order. -/
def reportsOf (task : TaskId) (h : List Entry) : List Happening := h.filterMap (·.report? task)

/-- **The processes that are asked for in a history report in order**, from then on. -/
def ReportsInOrder : List Entry → Prop
  | [] => True
  | .did (.spawn task _) :: h => Happening.inOrder (reportsOf task h) = true ∧ ReportsInOrder h
  | _ :: h => ReportsInOrder h

/-- The tasks that are killed in a history, in order. -/
def killedTasks (h : List Entry) : List TaskId := (actionsOf h).filterMap Action.killed?

/-! ### Views of a history -/

section View

variable {h h' : List Entry} {task : TaskId}

@[simp] lemma killedTasks_append (h h' : List Entry) :
    killedTasks (h ++ h') = killedTasks h ++ killedTasks h' := by
  simp [killedTasks]

lemma mem_killedTasks : task ∈ killedTasks h ↔ .did (.kill task) ∈ h := by
  refine ⟨fun hk => ?_, fun hk => List.mem_filterMap.2 ⟨_, mem_actionsOf.2 hk, rfl⟩⟩
  obtain ⟨a, ha, hkilled⟩ := List.mem_filterMap.1 hk
  cases a <;> cases hkilled
  exact mem_actionsOf.1 ha

lemma reportsOf_append (task : TaskId) (h h' : List Entry) :
    reportsOf task (h ++ h') = reportsOf task h ++ reportsOf task h' :=
  List.filterMap_append

lemma mem_reportsOf {what : Happening} :
    what ∈ reportsOf task h ↔ ∃ time, .fed (.process ⟨task, time, what⟩) ∈ h := by
  refine ⟨fun hm => ?_, fun ⟨time, hm⟩ => List.mem_filterMap.2 ⟨_, hm, by simp [Entry.report?]⟩⟩
  obtain ⟨x, hx, hreport⟩ := List.mem_filterMap.1 hm
  unfold Entry.report? at hreport
  split at hreport
  case h_1 current time what' =>
    split at hreport
    case isTrue hcurrent =>
      obtain rfl := Option.some.inj hreport
      exact ⟨time, hcurrent ▸ hx⟩
    case isFalse => cases hreport
  case h_2 => cases hreport

/-- What is reported first of what follows an event is what the event reports. -/
lemma reportsOf_history_cons (core : Core) (task : TaskId) (time : Instant) (what : Happening)
    (es : List Event) : ∃ whats,
      reportsOf task (core.history (.process ⟨task, time, what⟩ :: es)) = what :: whats := by
  have hreport : Entry.report? task (.fed (.process ⟨task, time, what⟩)) = some what := by
    simp [Entry.report?]
  exact ⟨_, List.filterMap_cons_some hreport⟩

lemma ReportsInOrder.of_append (hr : ReportsInOrder (h ++ h')) : ReportsInOrder h := by
  induction h with
  | nil => trivial
  | cons x h ih =>
    rcases x with e | a
    · exact ih hr
    · cases a with
      | spawn task i =>
        have horder : Happening.inOrder (reportsOf task h ++ reportsOf task h') = true := by
          rw [← reportsOf_append]
          exact hr.1
        exact ⟨Happening.inOrder_of_append horder, ih hr.2⟩
      | _ => exact ih hr

/-- What a process that was asked for reports from then on is in order. -/
lemma ReportsInOrder.inOrder {invocation : Invocation} {m : List Entry}
    (hr : ReportsInOrder (h ++ .did (.spawn task invocation) :: m)) :
    Happening.inOrder (reportsOf task m) = true := by
  induction h with
  | nil => exact hr.1
  | cons x h ih =>
    rcases x with e | a
    · exact ih hr
    · cases a with
      | spawn => exact ih hr.2
      | _ => exact ih hr

/-- An event stands behind the history of the events before. -/
lemma history_eq_append_fed {core : Core} {es : List Event} {l l' : List Entry} {e : Event}
    (h : core.history es = l ++ .fed e :: l') :
    ∃ before later, es = before ++ e :: later ∧ l = core.history before := by
  induction es generalizing core l with
  | nil => simp at h
  | cons e' es ih =>
    rcases append_eq_append_cons h with ⟨m, hm, -⟩ | ⟨m, rfl, hm⟩
    · rcases List.cons_eq_append_iff.1 hm with ⟨rfl, h⟩ | ⟨l₀, rfl, hl₀⟩
      · obtain rfl := Entry.fed.inj (List.cons.inj h).1
        exact ⟨[], es, rfl, rfl⟩
      · have hfed : .fed e ∈ ((core.step e').actions.map Entry.did) := by simp [hl₀]
        simp at hfed
    · obtain ⟨before, later, rfl, rfl⟩ := ih hm
      exact ⟨e' :: before, later, rfl, rfl⟩

/-- A task that was reported as up was so after its process had been asked for. -/
lemma started_of_upSince? {since : Instant} (hs : upSince? task h = some since) :
    ∃ l invocation m pid, h = l ++ .did (.spawn task invocation) :: m ∧
      .started pid ∈ reportsOf task m := by
  obtain ⟨x, hx, hup⟩ := List.exists_of_findSome?_eq_some hs
  have hcut := List.takeWhile_append_dropWhile (p := fun x => !Entry.asksFor task x) (l := h)
  rcases hdrop : h.dropWhile (fun x => !Entry.asksFor task x) with _ | ⟨y, m⟩
  · simp [hdrop] at hx
  · have hy : Entry.asksFor task y = true := by
      have := List.head?_dropWhile_not (fun x => !Entry.asksFor task x) h
      simpa [hdrop] using this
    obtain ⟨invocation, rfl⟩ := asksFor_eq_true.1 hy
    rw [hdrop] at hx hcut
    obtain ⟨time, pid, rfl⟩ : ∃ time pid, x = .fed (.process ⟨task, time, .started pid⟩) := by
      unfold Entry.upAt? Event.upAt? at hup
      split at hup
      · split at hup
        · split at hup
          case isTrue hcurrent => exact ⟨_, _, by rw [← hcurrent]⟩
          case isFalse => cases hup
        · cases hup
      · cases hup
    refine ⟨_, invocation, m, pid, hcut.symm, mem_reportsOf.2 ⟨time, ?_⟩⟩
    simpa using hx

end View

/-! ### What a step does -/

section Step

variable {core : Core} {e : Event} {task : TaskId}

lemma killed?_startFailureNotice (program : String) (error : StartError) :
    (startFailureNotice program error).killed? = none :=
  apply_startFailureNotice (fun _ => rfl) (fun _ => rfl) program error

/-- **A step kills a task that is up, or none**, and not for what a process reports. -/
theorem killed_step (core : Core) (e : Event) :
    killedTasks (core.entries e) = [] ∨
      ∃ task verb since, core.slot.Up task verb since ∧ killedTasks (core.entries e) = [task] ∧
        ∀ report, e ≠ .process report := by
  rw [killedTasks, actionsOf_entries]
  have ht := transition_step core e
  generalize core.step e = s at ht ⊢
  cases ht
  case overruled task verb since _ _ hup => exact .inr ⟨task, verb, since, hup, rfl, nofun⟩
  case stopped task verb since hup => exact .inr ⟨task, verb, since, hup, rfl, nofun⟩
  case shutUp task verb since hup => exact .inr ⟨task, verb, since, hup, rfl, nofun⟩
  case heard stream text hs =>
    exact .inl (filterMap_onLine (fun _ => rfl) (fun _ _ => rfl) core stream text)
  case failed hs =>
    rw [goOn_actions, List.filterMap_cons_none (killed?_startFailureNotice _ _)]
    exact .inl rfl
  case exitedStopping next _ _ hs => cases next <;> exact .inl rfl
  case failedStopping next _ _ hs => cases next <;> exact .inl rfl
  all_goals exact .inl rfl

lemma ne_process_of_kill (h : .kill task ∈ (core.step e).actions) (report : ProcessEvent) :
    e ≠ .process report := by
  rcases killed_step core e with hk | ⟨_, _, _, -, -, hno⟩
  · have hkilled : task ∈ killedTasks (core.entries e) := mem_killedTasks.2 (did_mem_entries.2 h)
    simp [hk] at hkilled
  · exact hno report

/-- A request to shut down leads to nothing but kills. -/
lemma kill_of_mem_shutdown {a : Action} (h : a ∈ (core.step .shutdownRequested).actions) :
    ∃ task, a = .kill task := by
  have ht := transition_step core .shutdownRequested
  generalize core.step .shutdownRequested = s at ht h
  cases ht
  case refused => simp at h
  case shut => cases h
  case shutUp task _ _ _ => exact ⟨task, List.mem_singleton.1 h⟩
  case shutStopping => cases h

/-- **A request to shut down leaves the live task where it is**, and kills it unless it is being
stopped. -/
lemma live_shutdown (core : Core) :
    (core.step .shutdownRequested).core.slot.liveTask = core.slot.liveTask ∧
      ∀ task, core.slot.liveTask = some task →
        core.slot.IsStopping ∨ .kill task ∈ (core.step .shutdownRequested).actions := by
  have ht := transition_step core .shutdownRequested
  generalize core.step .shutdownRequested = s at ht ⊢
  cases ht
  case refused href =>
    generalize core.slot = slot at href
    cases href
  case shut hnone => simp [hnone]
  case shutUp task _ _ hup => simp [hup.liveTask_eq]
  case shutStopping hs => simp [hs, Slot.IsStopping]

/-- A task that stays live behind its last report was running, and is reported not to have started
at all. -/
lemma failed_of_live {time : Instant} {what : Happening} (hw : what.isTerminal = true)
    (h : core.slot.liveTask = some task)
    (h' : (core.step (.process ⟨task, time, what⟩)).core.slot.liveTask = some task) :
    (∃ invocation since, core.slot = .running task invocation since) ∧
      ∃ error, what = .failed error := by
  have ht := transition_step core (.process ⟨task, time, what⟩)
  generalize core.step (.process ⟨task, time, what⟩) = s at ht h'
  rcases what with pid | ⟨stream, text⟩ | code | error
  · cases hw
  · cases hw
  · cases ht
    case refused href =>
      generalize core.slot = slot at h href
      cases href
      case foreign hf => exact absurd h hf
    case exited => cases h'
    case exitedStopping next _ => rcases next with _ | r <;> simp [finish_core, begin] at h'
  · cases ht
    case refused href =>
      generalize core.slot = slot at h href ⊢
      cases href
      case foreign hf => exact absurd h hf
      case failedLate invocation since => exact ⟨⟨invocation, since, rfl⟩, error, rfl⟩
    case failed => cases h'
    case failedStopping next _ => rcases next with _ | r <;> simp [finish_core, begin] at h'

end Step

/-! ### The live task -/

section Run

variable {echoRendered : Bool} {es : List Event} {task : TaskId}

/-- A task that was started and is live has been live ever since. -/
lemma live_of_live_later {before later : List Event} {invocation : Invocation}
    (hs : .did (.spawn task invocation) ∈ (initial echoRendered).history before)
    (hlive : ((initial echoRendered).after (before ++ later)).slot.liveTask = some task) :
    ((initial echoRendered).after before).slot.liveTask = some task := by
  by_contra hnot
  have hfate := (finished_iff_not_live hs).2 hnot
  have hdeparted := mem_departures_of_mem_fates hfate (by simp)
  have hlater : (task, .finished) ∈ (initial echoRendered).fates (before ++ later) := by
    rw [fates, departures_append]
    exact List.mem_append_left _ (List.mem_append_left _ hdeparted)
  exact (finished_iff_not_live (mem_history_append hs later)).1 hlater hlive

/-- **The end of the live task is still to be reported**, unless a process reports out of order. -/
theorem not_endReported_of_live {l m : List Entry} {invocation : Invocation}
    (hes : .shutdownRequested ∉ es) (hr : ReportsInOrder ((initial echoRendered).history es))
    (h : (initial echoRendered).history es = l ++ .did (.spawn task invocation) :: m)
    (hlive : ((initial echoRendered).after es).slot.liveTask = some task) :
    ¬ EndReported task m := by
  rintro ⟨time, what, hw, hm⟩
  obtain ⟨m₁, m₂, rfl⟩ := List.mem_iff_append.1 hm
  obtain ⟨before, later, rfl, hbefore⟩ :=
    history_eq_append_fed (l := l ++ .did (.spawn task invocation) :: m₁) (by simpa using h)
  have hs : .did (.spawn task invocation) ∈ (initial echoRendered).history before := by
    simp [← hbefore]
  -- The report leaves the task live, so it was running, and had come up.
  have hnow := live_of_live_later hs hlive
  have hnext : ((initial echoRendered).after
      (before ++ [.process ⟨task, time, what⟩])).slot.liveTask = some task := by
    have hlater : ((initial echoRendered).after
        (before ++ [.process ⟨task, time, what⟩] ++ later)).slot.liveTask = some task := by
      simpa using hlive
    exact live_of_live_later (mem_history_append hs _) hlater
  rw [after_concat] at hnext
  obtain ⟨⟨i, since, hslot⟩, error, rfl⟩ := failed_of_live hw hnow hnext
  have hrecorded : upSince? task ((initial echoRendered).history before) = some since := by
    have hbefore : .shutdownRequested ∉ before := fun hmem => hes (List.mem_append_left _ hmem)
    rw [(recorded_run hbefore).since hnow, hslot]
    rfl
  obtain ⟨l', j, m', pid, hl', hstarted⟩ := started_of_upSince? hrecorded
  rw [history_append, hl', List.append_assoc, List.cons_append] at hr
  obtain ⟨whats, hwhats⟩ := reportsOf_history_cons ((initial echoRendered).after before) task time
    (.failed error) later
  have horder := hr.inOrder
  rw [reportsOf_append, hwhats, Happening.not_inOrder hstarted] at horder
  cases horder

/-! ### Kills -/

/-- A live task was killed if it is being stopped, and only then. -/
lemma killed_iff_isStopping (hes : .shutdownRequested ∉ es)
    (hlive : ((initial echoRendered).after es).slot.liveTask = some task) :
    task ∈ killedTasks ((initial echoRendered).history es) ↔
      ((initial echoRendered).after es).slot.IsStopping := by
  rw [mem_killedTasks]
  exact (recorded_run hes).killed hlive

/-- **No task is killed twice**, up to a request to shut down and by the request itself. -/
theorem nodup_killedTasks (hes : .shutdownRequested ∉ es) (e : Event) :
    (killedTasks ((initial echoRendered).history (es ++ [e]))).Nodup := by
  induction es using List.reverseRecOn generalizing e with
  | nil =>
    rcases killed_step (initial echoRendered) e with hk | ⟨task, _, _, -, hk, -⟩ <;>
      simp [history, hk]
  | append_singleton es e' ih =>
    have hbefore := ih (fun hmem => hes (List.mem_append_left _ hmem)) e'
    rw [history_concat, killedTasks_append]
    rcases killed_step ((initial echoRendered).after (es ++ [e'])) e with
      hk | ⟨task, verb, since, hup, hk, -⟩
    · simpa [hk] using hbefore
    · rw [hk, List.nodup_append]
      refine ⟨hbefore, List.nodup_singleton task, ?_⟩
      rintro t ht _ hmem rfl
      obtain rfl := List.mem_singleton.1 hmem
      exact hup.not_isStopping ((killed_iff_isStopping hes hup.liveTask_eq).1 ht)

/-- **A task is killed only while its process is there**: it was asked for, and its end has not been
reported since. -/
theorem spawned_of_kill {l m : List Entry} {e : Event} (hes : .shutdownRequested ∉ es)
    (hr : ReportsInOrder ((initial echoRendered).history (es ++ [e])))
    (h : (initial echoRendered).history (es ++ [e]) = l ++ .did (.kill task) :: m) :
    ∃ k invocation k', l = k ++ .did (.spawn task invocation) :: k' ∧ ¬ EndReported task k' := by
  obtain ⟨before, e', later, as, as', hsplit, has, rfl⟩ := history_eq_append_did h
  obtain ⟨hbefore, hrbefore⟩ : .shutdownRequested ∉ before ∧
      ReportsInOrder ((initial echoRendered).history before) := by
    rw [hsplit, history_append] at hr
    refine ⟨fun hmem => hes ?_, hr.of_append⟩
    rcases List.eq_nil_or_concat later with rfl | ⟨later, e'', rfl⟩
    · rw [(List.append_inj' hsplit rfl).1]
      exact hmem
    · have hsplit' : es ++ [e] = (before ++ e' :: later) ++ [e''] := by simpa using hsplit
      rw [(List.append_inj' hsplit' rfl).1]
      exact List.mem_append_left _ hmem
  -- Only a task that is up is killed, and not for what a process reports.
  have hk : .kill task ∈ (((initial echoRendered).after before).step e').actions := by simp [has]
  obtain ⟨verb, since, hup⟩ := kill_mem_step hk
  obtain ⟨invocation, hs⟩ := spawned_of_live hup.liveTask_eq
  obtain ⟨k, k', hk'⟩ := List.mem_iff_append.1 hs
  refine ⟨k, invocation, k' ++ .fed e' :: as.map .did, by simp [hk'], ?_⟩
  rintro ⟨time, what, hw, hmem⟩
  rcases List.mem_append.1 hmem with hmem | hmem
  · exact not_endReported_of_live hbefore hrbefore hk' hup.liveTask_eq ⟨time, what, hw, hmem⟩
  · have he' : e' = .process ⟨task, time, what⟩ := by simpa [eq_comm] using hmem
    exact ne_process_of_kill hk _ he'

/-! ### The main statement -/

/-- **No process is left behind and none is killed without need**, when processes report in order
and a request to shut down is the last event. No task is killed twice. A task is killed only when
its process was asked for and has not reported its end. In the end every process that was asked for
has reported its end or was killed, and the live task is the one whose end is still to be reported,
if there is one. The request to shut down leads to nothing but a kill. -/
theorem no_orphan_no_stray_kill (hes : .shutdownRequested ∉ es)
    (hr : ReportsInOrder ((initial echoRendered).history (es ++ [.shutdownRequested]))) :
    let core := (initial echoRendered).after (es ++ [.shutdownRequested])
    let h := (initial echoRendered).history (es ++ [.shutdownRequested])
    (killedTasks h).Nodup ∧
      (∀ l task m, h = l ++ .did (.kill task) :: m →
        ∃ k invocation k', l = k ++ .did (.spawn task invocation) :: k' ∧ ¬ EndReported task k') ∧
      (∀ l task invocation m, h = l ++ .did (.spawn task invocation) :: m →
        (EndReported task m ∨ .did (.kill task) ∈ h) ∧
        (¬ EndReported task m ↔ core.slot.liveTask = some task)) ∧
      ∀ a ∈ (((initial echoRendered).after es).step .shutdownRequested).actions,
        ∃ task, a = .kill task := by
  intro core h
  obtain ⟨hlive, hkill⟩ := live_shutdown ((initial echoRendered).after es)
  rw [← after_concat] at hlive
  refine ⟨nodup_killedTasks hes _, fun l task m hl => spawned_of_kill hes hr hl, ?_,
    fun a ha => kill_of_mem_shutdown ha⟩
  intro l task invocation m hl
  have hended := (tallied_run echoRendered (es ++ [.shutdownRequested])).ended hl
  have hopen : core.slot.liveTask = some task → ¬ EndReported task m := by
    intro hcore
    have hl' := hl
    rw [show h = _ from history_concat _ es _] at hl'
    -- The process was asked for before the request to shut down.
    rcases append_eq_append_cons hl' with ⟨m', hm', rfl⟩ | ⟨m', -, hm'⟩
    · rintro ⟨time, what, hw, hmem⟩
      rcases List.mem_append.1 hmem with hmem | hmem
      · have hr' : ReportsInOrder ((initial echoRendered).history es) := by
          rw [history_concat] at hr
          exact hr.of_append
        exact not_endReported_of_live hes hr' hm' (hlive ▸ hcore) ⟨time, what, hw, hmem⟩
      · simp at hmem
    · have hs : .did (.spawn task invocation) ∈
          ((initial echoRendered).after es).entries .shutdownRequested := by simp [hm']
      obtain ⟨_, ht⟩ := kill_of_mem_shutdown (did_mem_entries.1 hs)
      cases ht
  refine ⟨?_, fun hopen' => hended.resolve_right hopen', hopen⟩
  rcases hended with hcore | hended
  · right
    rw [show h = _ from history_concat _ es _, List.mem_append, did_mem_entries]
    rcases hkill task (hlive ▸ hcore) with hstopping | hk
    · exact .inl (mem_killedTasks.1 ((killed_iff_isStopping hes (hlive ▸ hcore)).2 hstopping))
    · exact .inr hk
  · exact .inl hended

end Run

/-- One task gives way to a forced one and exits; the next is up when the shutdown comes. Each is
killed once, and the second is left to be waited for. -/
theorem no_orphan_no_stray_kill_restart :
    let build : Invocation := ⟨.build, ⟨"cargo", ["build"], ⟨"/work"⟩⟩, true⟩
    let es : List Event := [.runRequested ⟨.build, [], false⟩, .prepared ⟨1⟩ build,
      .process ⟨⟨1⟩, ⟨0⟩, .started none⟩, .runRequested ⟨.build, [], true⟩,
      .process ⟨⟨1⟩, ⟨1⟩, .line .stdout "late"⟩, .process ⟨⟨1⟩, ⟨2⟩, .exited none⟩,
      .prepared ⟨2⟩ build, .process ⟨⟨2⟩, ⟨3⟩, .started none⟩]
    let h := (initial true).history (es ++ [.shutdownRequested])
    .shutdownRequested ∉ es ∧ ReportsInOrder h ∧ (killedTasks h).Nodup ∧
      killedTasks h = [⟨1⟩, ⟨2⟩] ∧
      ((initial true).after (es ++ [.shutdownRequested])).slot.liveTask = some ⟨2⟩ := by
  intro build es h
  have hes : .shutdownRequested ∉ es := by simp [es]
  have hr : ReportsInOrder h := ⟨rfl, rfl, trivial⟩
  exact ⟨hes, hr, (no_orphan_no_stray_kill hes hr).1, rfl, rfl⟩

end Core

end BuildRunner
