import BuildRunner.Proofs.Run.Transcript

/-!
The sign that a run is in progress. It is on while a run that was made known is not over
(`busy_iff_in_progress`). Whenever a process exits it is switched off, and so it is, too, when the
process was killed before it came up and was never made known. But for such tasks (`CutShort`) it is
switched on and off in turn, and off only where it was on (`alternates_iff`).
-/

namespace BuildRunner

namespace Happening

/-- **What a process that reports in full may have reported so far**: nothing, or that it came up
and then lines and its exit, or that it could not be started and nothing else. -/
def inFull : List Happening → Bool
  | [] => true
  | .started _ :: hs => isTrail hs
  | .failed _ :: hs => hs.isEmpty
  | _ => false

lemma inFull_of_append {hs hs' : List Happening} (h : inFull (hs ++ hs') = true) :
    inFull hs = true := by
  rcases hs with _ | ⟨x, hs⟩
  · rfl
  · cases x with
    | started => exact isTrail_of_append h
    | failed =>
      simp only [List.cons_append, inFull, List.isEmpty_iff, List.append_eq_nil_iff] at h
      simp [inFull, h.1]
    | _ => cases h

lemma inOrder_of_inFull {hs : List Happening} (h : inFull hs = true) : inOrder hs = true := by
  rcases hs with _ | ⟨x, hs⟩
  · rfl
  · cases x with
    | started => exact h
    | failed => exact h
    | _ => cases h

/-- A process exits only when it has come up. -/
lemma started_of_inFull {hs hs' : List Happening} {code : Option Int}
    (h : inFull (hs ++ .exited code :: hs') = true) : ∃ pid, .started pid ∈ hs := by
  rcases hs with _ | ⟨x, hs⟩
  · cases h
  · cases x with
    | started pid => exact ⟨pid, List.mem_cons_self⟩
    | failed => simp [inFull] at h
    | _ => cases h

lemma not_isTrail_of_terminal {hs hs' : List Happening} {what what' : Happening}
    (hw : what.isTerminal = true) (h : what ∈ hs) : isTrail (hs ++ what' :: hs') = false := by
  induction hs with
  | nil => cases h
  | cons x hs ih =>
    cases x with
    | line =>
      rcases List.mem_cons.1 h with rfl | h
      · cases hw
      · exact ih h
    | exited => simp [isTrail]
    | _ => rfl

/-- Behind its last report a process reports nothing. -/
lemma not_inFull_of_terminal {hs hs' : List Happening} {what what' : Happening}
    (hw : what.isTerminal = true) (h : what ∈ hs) : inFull (hs ++ what' :: hs') = false := by
  rcases hs with _ | ⟨x, hs⟩
  · cases h
  · cases x with
    | started =>
      rcases List.mem_cons.1 h with rfl | h
      · cases hw
      · exact not_isTrail_of_terminal hw h
    | failed => simp [inFull]
    | _ => rfl

end Happening

namespace Core

/-- The task whose process an entry asks for, if it does. -/
def Entry.asked? : Entry → Option TaskId
  | .did (.spawn task _) => some task
  | _ => none

/-- What the sign that a run is in progress is switched to, in order. -/
def switches (h : List Entry) : List Bool := (signs h).filterMap Sign.busy?

/-- Whether the sign that a run is in progress is on. It is off at first. -/
def isBusy (h : List Entry) : Bool := (Sign.lastBusy? (signs h)).getD false

/-- **The processes that are asked for report in full** from then on. -/
def ReportsInFull (h : List Entry) : Prop :=
  ∀ l task invocation m, h = l ++ .did (.spawn task invocation) :: m →
    Happening.inFull (reportsOf task m) = true

/-- **A task is cut short**: it is killed before it is reported as up, and exits all the same. -/
def CutShort (task : TaskId) (h : List Entry) : Prop :=
  ∃ l m time code, h = l ++ .did (.kill task) :: m ∧ upSince? task l = none ∧
    .fed (.process ⟨task, time, .exited code⟩) ∈ m

/-! ### Views of a history -/

section View

variable {h h' : List Entry} {task : TaskId}

lemma Entry.asked?_eq_some {x : Entry} :
    x.asked? = some task ↔ ∃ invocation, x = .did (.spawn task invocation) := by
  constructor
  · intro hx
    unfold asked? at hx
    split at hx
    · obtain rfl := Option.some.inj hx
      exact ⟨_, rfl⟩
    · cases hx
  · rintro ⟨invocation, rfl⟩
    rfl

lemma isBusy_eq_true : isBusy h = true ↔ Sign.lastBusy? (signs h) = some true := by
  unfold isBusy
  rcases Sign.lastBusy? (signs h) with _ | _ | _ <;> simp

lemma switches_append (h h' : List Entry) : switches (h ++ h') = switches h ++ switches h' := by
  simp [switches]

/-- What the sign shows is what it was switched to last. -/
lemma getLast?_switches (h : List Entry) : (false :: switches h).getLast? = some (isBusy h) := by
  rw [List.getLast?_cons]
  rfl

lemma mem_finishedTasks_iff :
    task ∈ finishedTasks h ↔
      ∃ verb outcome elapsed, .did (.announceFinish task verb outcome elapsed) ∈ h := by
  constructor
  · intro hf
    obtain ⟨a, ha, hfinished⟩ := List.mem_filterMap.1 hf
    cases a with
    | announceFinish t verb outcome elapsed =>
      obtain rfl := Option.some.inj hfinished
      exact ⟨verb, outcome, elapsed, mem_actionsOf.1 ha⟩
    | _ => cases hfinished
  · rintro ⟨verb, outcome, elapsed, ha⟩
    exact List.mem_filterMap.2 ⟨_, mem_actionsOf.2 ha, rfl⟩

/-- What was reported as up stays reported. -/
lemma upSince?_of_append (hup : upSince? task (h ++ h') = none) : upSince? task h = none := by
  unfold upSince? at hup ⊢
  rw [List.dropWhile_append] at hup
  split at hup
  case isTrue hempty => simp [List.isEmpty_iff.1 hempty]
  case isFalse =>
    rw [List.findSome?_append, Option.or_eq_none_iff] at hup
    exact hup.1

/-- A task that is reported as up after its process was asked for counts as up. -/
lemma upSince?_ne_none {invocation : Invocation} {m : List Entry} {time : Instant}
    {pid : Option Nat} (hs : .fed (.process ⟨task, time, .started pid⟩) ∈ m) :
    upSince? task (h ++ .did (.spawn task invocation) :: m) ≠ none := by
  intro hup
  have hasks : (!Entry.asksFor task (.did (.spawn task invocation))) = false := by
    simp [asksFor_eq_true.2 ⟨invocation, rfl⟩]
  have hmem : .fed (.process ⟨task, time, .started pid⟩) ∈
      (h ++ .did (.spawn task invocation) :: m).dropWhile fun x => !Entry.asksFor task x := by
    rw [List.dropWhile_append]
    split
    · rw [List.dropWhile_cons_of_neg (by simp [hasks])]
      exact List.mem_cons_of_mem _ hs
    · exact List.mem_append_right _ (List.mem_cons_of_mem _ hs)
  have hnone := List.findSome?_eq_none_iff.1 hup _ hmem
  simp [Entry.upAt?, Event.upAt?] at hnone

lemma CutShort.append (hcut : CutShort task h) (h' : List Entry) : CutShort task (h ++ h') := by
  obtain ⟨l, m, time, code, rfl, hup, hexited⟩ := hcut
  exact ⟨l, m ++ h', time, code, by simp, hup, List.mem_append_left _ hexited⟩

lemma reportsInFull_nil : ReportsInFull [] := by
  intro l task invocation m h
  simp at h

lemma reportsInFull_cons {x : Entry} :
    ReportsInFull (x :: h) ↔
      (∀ task ∈ x.asked?, Happening.inFull (reportsOf task h) = true) ∧ ReportsInFull h := by
  constructor
  · intro hr
    refine ⟨?_, fun l task invocation m hl => hr (x :: l) task invocation m (by simp [hl])⟩
    intro task hx
    obtain ⟨invocation, rfl⟩ := Entry.asked?_eq_some.1 hx
    exact hr [] task invocation h rfl
  · rintro ⟨hx, hr⟩ l task invocation m hl
    rcases List.cons_eq_append_iff.1 hl with ⟨-, hm⟩ | ⟨l, -, hl⟩
    · obtain ⟨rfl, rfl⟩ := List.cons.inj hm
      exact hx task rfl
    · exact hr l task invocation m hl

instance decidableReportsInFull : (h : List Entry) → Decidable (ReportsInFull h)
  | [] => .isTrue reportsInFull_nil
  | _ :: h =>
    have := decidableReportsInFull h
    decidable_of_iff' _ reportsInFull_cons

lemma ReportsInFull.of_append (hr : ReportsInFull (h ++ h')) : ReportsInFull h := by
  rintro l task invocation m rfl
  have hfull := hr l task invocation (m ++ h') (by simp)
  rw [reportsOf_append] at hfull
  exact Happening.inFull_of_append hfull

end View

/-! ### Which tasks are made known -/

section Step

variable {core : Core} {e : Event} {task : TaskId} {invocation : Invocation}

/-- A process is running when it has just been made known, or it was before. -/
lemma running_of_step {since : Instant}
    (h : (core.step e).core.slot = .running task invocation since) :
    .announceStart task invocation ∈ (core.step e).actions ∨
      core.slot = .running task invocation since := by
  have ht := transition_step core e
  generalize core.step e = s at ht h ⊢
  cases ht
  case started t i time pid hs =>
    obtain ⟨rfl, rfl, -⟩ := Slot.running.inj h
    exact .inl (by simp)
  case heard stream text hs =>
    obtain ⟨format, hf⟩ := onLine_core core stream text
    exact .inr (by simpa [hf] using h)
  case exitedStopping next _ _ _ => rcases next with _ | r <;> simp [finish_core, begin] at h
  case failedStopping next _ _ _ => rcases next with _ | r <;> simp [finish_core, begin] at h
  all_goals simp_all [begin]

end Step

section Run

variable {echoRendered : Bool} {es : List Event} {task : TaskId} {invocation : Invocation}

/-- A running task was shown to begin. -/
lemma began_of_running {since : Instant}
    (h : ((initial echoRendered).after es).slot = .running task invocation since) :
    .began task ∈ signs ((initial echoRendered).history es) := by
  induction es using List.reverseRecOn with
  | nil => cases h
  | append_singleton es e ih =>
    rw [after_concat] at h
    rw [history_concat, signs_append, List.mem_append]
    rcases running_of_step h with ha | hslot
    · exact .inr (began_mem_signs.2 ⟨invocation, did_mem_entries.2 ha⟩)
    · exact .inl (ih hslot)

/-- A run that is shown to begin is reported as up. -/
lemma upSince?_of_began (h : .began task ∈ signs ((initial echoRendered).history es)) :
    upSince? task ((initial echoRendered).history es) ≠ none := by
  obtain ⟨before, time, pid, later, rfl, hlive⟩ := exists_of_began h
  obtain ⟨invocation, hs⟩ := spawned_of_live hlive
  obtain ⟨k, k', hk⟩ := List.mem_iff_append.1 hs
  have hfed : .fed (.process ⟨task, time, .started pid⟩) ∈
      ((initial echoRendered).after before).history (.process ⟨task, time, .started pid⟩ :: later) :=
    List.mem_cons_self
  rw [history_append, hk, List.append_assoc, List.cons_append]
  exact upSince?_ne_none (List.mem_append_right _ hfed)

lemma not_began_of_spawning
    (h : ((initial echoRendered).after es).slot = .spawning task invocation) :
    .began task ∉ signs ((initial echoRendered).history es) := by
  intro hbegan
  have hlive : ((initial echoRendered).after es).slot.liveTask = some task := by simp [h]
  refine upSince?_of_began hbegan ?_
  rw [since?_run hlive, h]
  rfl

lemma upAt?_of_kill {core : Core} {e : Event} (h : .kill task ∈ (core.step e).actions) :
    e.upAt? task = none := by
  cases e with
  | process report => exact absurd rfl (ne_process_of_kill h report)
  | _ => rfl

/-- **A run that is killed was shown to begin if it had come up by then**, and only then. -/
theorem began_iff_of_killed {l m : List Entry} (hes : .shutdownRequested ∉ es)
    (h : (initial echoRendered).history es = l ++ .did (.kill task) :: m) :
    .began task ∈ signs ((initial echoRendered).history es) ↔ upSince? task l ≠ none := by
  obtain ⟨before, e, later, as, as', rfl, has, rfl⟩ := history_eq_append_did h
  have he : e ≠ .shutdownRequested := by
    rintro rfl
    simp at hes
  have hk : .kill task ∈ (((initial echoRendered).after before).step e).actions := by simp [has]
  constructor
  · intro hbegan hup
    rw [history_append, history, signs_append, signs_append, List.mem_append,
      List.mem_append] at hbegan
    rcases hbegan with hbegan | hbegan | hbegan
    · -- before the kill it would have come up
      exact upSince?_of_began hbegan (upSince?_of_append hup)
    · -- the step that kills it does not make it known
      obtain ⟨i, ha⟩ := began_mem_signs.1 hbegan
      obtain ⟨-, time, pid, -, hstep⟩ := announceStart_mem_step (did_mem_entries.1 ha)
      simp [hstep] at hk
    · -- and behind it the task does not come back
      obtain ⟨i, ha⟩ := began_mem_signs.1 hbegan
      obtain ⟨between, e', _, -, ha⟩ := did_mem_history.1 ha
      obtain ⟨hslot, -⟩ := announceStart_mem_step ha
      have hspent := (spent_of_kill he hk).after between
      have hstopping := hspent.stopping (by simp [hslot])
      simp [hslot, Slot.IsStopping] at hstopping
  · intro hup
    obtain ⟨verb, since, hslot⟩ := kill_mem_step hk
    generalize hcore : ((initial echoRendered).after before).slot = slot at hslot
    cases hslot with
    | spawning invocation =>
      -- it has not come up before the request that kills it, and not with it
      have hlive : ((initial echoRendered).after before).slot.liveTask = some task := by simp [hcore]
      obtain ⟨i, hs⟩ := spawned_of_live hlive
      have hnone : upSince? task ((initial echoRendered).history before ++
          ((initial echoRendered).after before).entries e) = none := by
        rw [upSince?_append_entries hs, since?_run hlive, upAt?_of_kill hk, hcore]
        rfl
      rw [entries, has, List.map_append, ← List.cons_append, ← List.append_assoc] at hnone
      exact absurd (upSince?_of_append hnone) hup
    | running invocation since =>
      rw [history_append, signs_append]
      exact List.mem_append_left _ (began_of_running hcore)

/-! ### What a process that reports in full reports of the live task -/

/-- What a process has reported when it reports again. -/
lemma ReportsInFull.inFull {before later : List Event} {time : Instant} {what : Happening}
    {k k' : List Entry}
    (hr : ReportsInFull
      ((initial echoRendered).history (before ++ .process ⟨task, time, what⟩ :: later)))
    (hk : (initial echoRendered).history before = k ++ .did (.spawn task invocation) :: k') :
    ∃ whats, Happening.inFull (reportsOf task k' ++ what :: whats) = true := by
  obtain ⟨whats, hwhats⟩ := reportsOf_history_cons ((initial echoRendered).after before) task time
    what later
  refine ⟨whats, ?_⟩
  rw [← hwhats, ← reportsOf_append]
  exact hr k task invocation _ (by rw [history_append, hk, List.append_assoc, List.cons_append])

/-- A live task that exits has come up. -/
lemma upSince?_of_exited {before later : List Event} {time : Instant} {code : Option Int}
    (hr : ReportsInFull
      ((initial echoRendered).history (before ++ .process ⟨task, time, .exited code⟩ :: later)))
    (hlive : ((initial echoRendered).after before).slot.liveTask = some task) :
    upSince? task ((initial echoRendered).history before) ≠ none := by
  obtain ⟨invocation, hs⟩ := spawned_of_live hlive
  obtain ⟨k, k', hk⟩ := List.mem_iff_append.1 hs
  obtain ⟨whats, hfull⟩ := hr.inFull hk
  obtain ⟨pid, hstarted⟩ := Happening.started_of_inFull hfull
  obtain ⟨time', hfed⟩ := mem_reportsOf.1 hstarted
  rw [hk]
  exact upSince?_ne_none hfed

/-- A run that is shown to begin is not reported to have failed. -/
lemma not_began_of_failed {before later : List Event} {time : Instant} {error : StartError}
    (hr : ReportsInFull
      ((initial echoRendered).history (before ++ .process ⟨task, time, .failed error⟩ :: later))) :
    .began task ∉ signs ((initial echoRendered).history before) := by
  intro hbegan
  obtain ⟨since, hsince⟩ := Option.ne_none_iff_exists'.1 (upSince?_of_began hbegan)
  obtain ⟨k, invocation, k', pid, hk, hstarted⟩ := started_of_upSince? hsince
  obtain ⟨whats, hfull⟩ := hr.inFull hk
  have horder := Happening.inOrder_of_inFull hfull
  rw [Happening.not_inOrder hstarted] at horder
  cases horder

/-- **The sign that a run is in progress** is on while the live task is one that was shown to begin,
if the processes report in full. -/
lemma isBusy_iff_live (hr : ReportsInFull ((initial echoRendered).history es)) :
    isBusy ((initial echoRendered).history es) = true ↔
      ∃ task, ((initial echoRendered).after es).slot.liveTask = some task ∧
        .began task ∈ signs ((initial echoRendered).history es) := by
  rw [isBusy_eq_true]
  refine busy_iff_live fun before task time error later hes _ => ?_
  rw [hes] at hr
  exact not_began_of_failed hr

/-- The exit of a task that is cut short is that of the live task. -/
lemma live_of_cutShort (hr : ReportsInFull ((initial echoRendered).history es))
    (hcut : CutShort task ((initial echoRendered).history es)) :
    ∃ before time code later, es = before ++ .process ⟨task, time, .exited code⟩ :: later ∧
      ((initial echoRendered).after before).slot.liveTask = some task := by
  obtain ⟨l, m, time, code, hl, -, hexited⟩ := hcut
  obtain ⟨m₁, m₂, rfl⟩ := List.mem_iff_append.1 hexited
  obtain ⟨before, later, rfl, hbefore⟩ :=
    history_eq_append_fed (l := l ++ .did (.kill task) :: m₁) (by simpa using hl)
  refine ⟨before, time, code, later, rfl, ?_⟩
  have hkill : .did (.kill task) ∈ (initial echoRendered).history before := by simp [← hbefore]
  obtain ⟨invocation, hs⟩ := spawned_of_killed hkill
  obtain ⟨k, k', hk⟩ := List.mem_iff_append.1 hs
  rcases (tallied_run echoRendered before).ended hk with hlive | ⟨time', what, hw, hfed⟩
  · exact hlive
  · -- its end would have been reported before
    obtain ⟨whats, hfull⟩ := hr.inFull hk
    rw [Happening.not_inFull_of_terminal hw (mem_reportsOf.2 ⟨time', hfed⟩)] at hfull
    cases hfull

/-- **A live task that exits was shown to begin**, unless it is cut short. -/
theorem began_iff_not_cutShort {before later : List Event} {time : Instant} {code : Option Int}
    (hes : .shutdownRequested ∉ es) (hr : ReportsInFull ((initial echoRendered).history es))
    (hsplit : es = before ++ .process ⟨task, time, .exited code⟩ :: later)
    (hlive : ((initial echoRendered).after before).slot.liveTask = some task) :
    .began task ∈ signs ((initial echoRendered).history before) ↔
      ¬ CutShort task ((initial echoRendered).history es) := by
  have hbegan : .began task ∈ signs ((initial echoRendered).history before) →
      .began task ∈ signs ((initial echoRendered).history es) := by
    rw [hsplit, history_append, signs_append]
    exact List.mem_append_left _
  constructor
  · rintro h ⟨l, m, _, _, hl, hup, -⟩
    exact (began_iff_of_killed hes hl).1 (hbegan h) hup
  · intro hcut
    by_contra hnot
    subst hsplit
    have hbefore : .shutdownRequested ∉ before := fun h => hes (List.mem_append_left _ h)
    have hsince : ((initial echoRendered).after before).slot.since? ≠ none := by
      rw [← since?_run hlive]
      exact upSince?_of_exited hr hlive
    -- It has come up and was not shown to begin, so it is being stopped, and was killed before.
    have hstopping : ((initial echoRendered).after before).slot.IsStopping := by
      rcases hslot : ((initial echoRendered).after before).slot with _ | _ | _ | ⟨t, i, since⟩ | _ <;>
        rw [hslot] at hlive hsince
      · cases hlive
      · cases hlive
      · exact absurd rfl hsince
      · obtain rfl := Option.some.inj hlive
        exact absurd (began_of_running hslot) hnot
      · trivial
    obtain ⟨l, m, hl⟩ := List.mem_iff_append.1 (((recorded_run hbefore).killed hlive).2 hstopping)
    have hup : upSince? task l = none := by
      by_contra hup
      exact hnot ((began_iff_of_killed hbefore hl).2 hup)
    refine hcut ⟨l, m ++ ((initial echoRendered).after before).history
      (.process ⟨task, time, .exited code⟩ :: later), time, code, ?_, hup, ?_⟩
    · rw [history_append, hl, List.append_assoc, List.cons_append]
    · exact List.mem_append_right _ List.mem_cons_self

/-! ### Where the sign is switched -/

/-- What is shown stands behind what was shown before its step. -/
lemma signs_eq_append {core : Core} {l l' : List Sign} {s : Sign}
    (h : signs (core.history es) = l ++ s :: l') :
    ∃ before e later as as', es = before ++ e :: later ∧
      signs ((core.after before).entries e) = as ++ s :: as' ∧
      l = signs (core.history before) ++ as ∧
      l' = as' ++ signs (((core.after before).step e).core.history later) := by
  induction es generalizing core l with
  | nil => simp at h
  | cons e es ih =>
    rw [history, signs_append] at h
    rcases append_eq_append_cons h with ⟨m, hm, rfl⟩ | ⟨m, rfl, hm⟩
    · exact ⟨[], e, es, l, m, rfl, hm, rfl, rfl⟩
    · obtain ⟨before, e', later, as, as', rfl, has, rfl, rfl⟩ := ih hm
      exact ⟨e :: before, e', later, as, as', rfl, has, by simp [history], rfl⟩

/-- **A step switches the sign on** when it shows that a run began, and off when it shows that one
is over. -/
lemma Shows.of_busy {core core' : Core} {e : Event} {as as' : List Sign} {on : Bool}
    (h : Shows core e (as ++ .busy on :: as') core') :
    as = [] ∧ ((on = true ∧ ∃ task, as' = [.began task]) ∨
      on = false ∧ ∃ task time code, as' = [.over task] ∧
        e = .process ⟨task, time, .exited code⟩ ∧ core.slot.liveTask = some task) := by
  generalize hshown : as ++ .busy on :: as' = shown at h
  cases h with
  | @began task =>
    rcases as with _ | ⟨_, _ | ⟨_, as⟩⟩ <;> simp at hshown
    obtain ⟨rfl, rfl⟩ := hshown
    exact ⟨rfl, .inl ⟨rfl, task, rfl⟩⟩
  | @ended task time code _ live =>
    rcases as with _ | ⟨_, _ | ⟨_, as⟩⟩ <;> simp at hshown
    obtain ⟨rfl, rfl⟩ := hshown
    exact ⟨rfl, .inr ⟨rfl, task, time, code, rfl, rfl, live⟩⟩
  | spawned => simp at hshown
  | failed => rcases as with _ | ⟨_, _ | ⟨_, as⟩⟩ <;> simp at hshown
  | kept quiet =>
    obtain ⟨task, hover⟩ := quiet (.busy on) (by simp [← hshown])
    cases hover

/-- A step that shows that a run began has switched the sign on before. -/
lemma Shows.of_began {core core' : Core} {e : Event} {as as' : List Sign}
    (h : Shows core e (as ++ .began task :: as') core') : as = [.busy true] := by
  generalize hshown : as ++ .began task :: as' = shown at h
  cases h with
  | began => rcases as with _ | ⟨_, _ | ⟨_, as⟩⟩ <;> simp_all
  | ended => rcases as with _ | ⟨_, _ | ⟨_, as⟩⟩ <;> simp at hshown
  | spawned => simp at hshown
  | failed => rcases as with _ | ⟨_, _ | ⟨_, as⟩⟩ <;> simp at hshown
  | kept quiet =>
    obtain ⟨_, hover⟩ := quiet (.began task) (by simp [← hshown])
    cases hover

lemma began_mem_signs_iff_infix :
    .began task ∈ signs ((initial echoRendered).history es) ↔
      [.busy true, .began task] <:+: signs ((initial echoRendered).history es) := by
  constructor
  · intro hbegan
    obtain ⟨l, l', hl⟩ := List.mem_iff_append.1 hbegan
    obtain ⟨before, e, later, as, as', rfl, has, rfl, rfl⟩ := signs_eq_append hl
    have hshows := shows_step ((initial echoRendered).after before) e
    rw [has] at hshows
    obtain rfl := hshows.of_began
    rw [hl, List.append_assoc]
    exact List.infix_append' _ [Sign.busy true, Sign.began task] _
  · rintro ⟨l, l', hl⟩
    rw [← hl]
    simp

/-- The sign is switched in turn when it was switched in turn so far, and then away from what it
showed. -/
lemma isChain_switches_append_iff {h h' : List Entry} :
    (false :: switches (h ++ h')).IsChain (· ≠ ·) ↔
      (false :: switches h).IsChain (· ≠ ·) ∧ (isBusy h :: switches h').IsChain (· ≠ ·) := by
  rw [switches_append, ← List.cons_append, List.isChain_append, getLast?_switches,
    List.isChain_cons (x := isBusy h)]
  constructor
  · rintro ⟨hsofar, hnext, hlast⟩
    exact ⟨hsofar, hlast _ rfl, hnext⟩
  · rintro ⟨hsofar, hlast, hnext⟩
    refine ⟨hsofar, hnext, ?_⟩
    rintro _ ⟨⟩
    exact hlast

/-- When the live task exits, the sign is switched off. -/
lemma signs_of_exited {core : Core} {time : Instant} {code : Option Int}
    (hlive : core.slot.liveTask = some task) :
    signs (core.entries (.process ⟨task, time, .exited code⟩)) = [.busy false, .over task] := by
  rw [signs_entries]
  have ht := transition_step core (.process ⟨task, time, .exited code⟩)
  generalize core.step (.process ⟨task, time, .exited code⟩) = s at ht ⊢
  cases ht
  case refused href =>
    generalize core.slot = slot at hlive href
    cases href
    case foreign hf => exact absurd hlive hf
  case exited => rfl
  case exitedStopping next _ => cases next <;> rfl

/-- The sign is switched in turn as long as no task is cut short. -/
lemma isChain_switches_of_not_cutShort (hes : .shutdownRequested ∉ es)
    (hr : ReportsInFull ((initial echoRendered).history es))
    (hcut : ∀ task, ¬ CutShort task ((initial echoRendered).history es)) :
    (false :: switches ((initial echoRendered).history es)).IsChain (· ≠ ·) := by
  induction es using List.reverseRecOn with
  | nil => exact .singleton false
  | append_singleton es e ih =>
    have hbefore : .shutdownRequested ∉ es := fun h => hes (List.mem_append_left _ h)
    have hfull : ReportsInFull ((initial echoRendered).history es) := by
      rw [history_concat] at hr
      exact hr.of_append
    have hsofar := ih hbefore hfull fun task h => hcut task (by
      rw [history_concat]
      exact h.append _)
    have hbusy := isBusy_iff_live hfull
    rw [history_concat, isChain_switches_append_iff]
    refine ⟨hsofar, ?_⟩
    have hshows := shows_step ((initial echoRendered).after es) e
    unfold switches
    generalize signs (((initial echoRendered).after es).entries e) = shown,
      (((initial echoRendered).after es).step e).core = core' at hshows
    cases hshows
    case began task invocation time pid slot live =>
      -- the task that came up was not shown to begin before
      have hoff : isBusy ((initial echoRendered).history es) ≠ true := by
        rw [Ne, hbusy]
        rintro ⟨t, ht, hbegan⟩
        obtain rfl : task = t := by simpa [slot] using ht
        exact not_began_of_spawning slot hbegan
      exact .cons_cons hoff (.singleton true)
    case ended task time code live live' =>
      -- the task that exits was shown to begin
      have hbegan := (began_iff_not_cutShort hes hr rfl live).2 (hcut task)
      have hon := hbusy.2 ⟨task, live, hbegan⟩
      exact .cons_cons (by simp [hon]) (.singleton false)
    case spawned => exact .singleton _
    case failed => exact .singleton _
    case kept quiet live =>
      rw [Sign.filterMap_busy?_of_over quiet]
      exact .singleton _

/-- Where a task is cut short, the sign is switched off that was off. -/
lemma not_isChain_switches_of_cutShort (hes : .shutdownRequested ∉ es)
    (hr : ReportsInFull ((initial echoRendered).history es))
    (hcut : CutShort task ((initial echoRendered).history es)) :
    ¬ (false :: switches ((initial echoRendered).history es)).IsChain (· ≠ ·) := by
  obtain ⟨before, time, code, later, hsplit, hlive⟩ := live_of_cutShort hr hcut
  have hbegan := (began_iff_not_cutShort hes hr hsplit hlive).not.2 (not_not_intro hcut)
  rw [hsplit, history_append] at hr ⊢
  have hoff : isBusy ((initial echoRendered).history before) ≠ true := by
    rw [Ne, isBusy_iff_live hr.of_append]
    rintro ⟨t, ht, h⟩
    obtain rfl := Option.some.inj (hlive.symm.trans ht)
    exact hbegan h
  have hshown : switches (((initial echoRendered).after before).entries
      (.process ⟨task, time, .exited code⟩)) = [false] := by
    rw [switches, signs_of_exited hlive]
    rfl
  rw [isChain_switches_append_iff, history, switches_append, hshown]
  rintro ⟨-, hchain⟩
  exact hchain.rel (by simpa using hoff)

/-! ### The main statements -/

/-- **The sign that a run is in progress is on while a run that was made known is not over**, and off
while there is none, unless a task is reported to have failed after it came up. -/
theorem busy_iff_in_progress (echoRendered : Bool) {es : List Event} (hes : ¬ FailsLate es) :
    let h := (initial echoRendered).history es
    isBusy h = true ↔ ∃ task, (∃ invocation, .did (.announceStart task invocation) ∈ h) ∧
      ∀ verb outcome elapsed, .did (.announceFinish task verb outcome elapsed) ∉ h := by
  intro h
  have hopen : ∀ {task}, .began task ∈ signs h →
      (((initial echoRendered).after es).slot.liveTask = some task ↔
        ∀ verb outcome elapsed, .did (.announceFinish task verb outcome elapsed) ∉ h) := by
    intro task hbegan
    obtain ⟨invocation, hs⟩ := spawned_of_began hbegan
    have hfinished := (mem_finishedTasks.trans (finished_iff_not_live hs)).symm
    rw [← not_iff_not, ← Ne.eq_def, hfinished, mem_finishedTasks_iff]
    push Not
    rfl
  rw [isBusy_eq_true, busy_run echoRendered es hes]
  constructor
  · rintro ⟨task, hlive, hbegan⟩
    exact ⟨task, began_mem_signs.1 hbegan, (hopen hbegan).1 hlive⟩
  · rintro ⟨task, hstart, hfinish⟩
    have hbegan := began_mem_signs.2 hstart
    exact ⟨task, (hopen hbegan).2 hfinish, hbegan⟩

/-- A running task that is told to give way to another is still in progress. -/
theorem busy_iff_in_progress_overruled :
    let build : Invocation := ⟨.build, ⟨"cargo", ["build"], ⟨"/work"⟩⟩, true⟩
    let es : List Event := [.runRequested ⟨.build, [], false⟩, .prepared ⟨1⟩ build,
      .process ⟨⟨1⟩, ⟨0⟩, .started none⟩, .runRequested ⟨.test, [], true⟩]
    let h := (initial true).history es
    ¬ FailsLate es ∧ isBusy h = true ∧
      ∃ task, (∃ invocation, .did (.announceStart task invocation) ∈ h) ∧
        ∀ verb outcome elapsed, .did (.announceFinish task verb outcome elapsed) ∉ h := by
  intro build es h
  have hes : ¬ FailsLate es := by
    rintro ⟨before, mid, later, task, time, pid, time', error, hsplit⟩
    have hfailed : .process ⟨task, time', .failed error⟩ ∈ es := by rw [hsplit]; simp
    simp [es] at hfailed
  have hon : isBusy h = true := rfl
  exact ⟨hes, hon, (busy_iff_in_progress true hes).1 hon⟩

/-- **The sign that a run is in progress is switched on and off in turn**, if the processes report in
full, exactly when no task is cut short: killed before it is reported as up, so that it is never
made known, and reported to exit all the same. The sign is switched on for a run that begins and off
for one that is over, and where it is switched off it was switched on for the same run, unless the
task was cut short. -/
theorem alternates_iff {es : List Event} (hes : .shutdownRequested ∉ es)
    (hr : ReportsInFull ((initial echoRendered).history es)) :
    let h := (initial echoRendered).history es
    ((false :: switches h).IsChain (· ≠ ·) ↔ ∀ task, ¬ CutShort task h) ∧
      (∀ l l', signs h = l ++ .busy true :: l' → ∃ task l'', l' = .began task :: l'') ∧
      ∀ l l', signs h = l ++ .busy false :: l' → ∃ task l'', l' = .over task :: l'' ∧
        ([.busy true, .began task] <:+: l ↔ ¬ CutShort task h) := by
  intro h
  refine ⟨?_, ?_, ?_⟩
  · constructor
    · intro hchain task hcut
      exact not_isChain_switches_of_cutShort hes hr hcut hchain
    · exact isChain_switches_of_not_cutShort hes hr
  · intro l l' hl
    obtain ⟨before, e, later, as, as', -, has, -, rfl⟩ := signs_eq_append hl
    have hshows := shows_step ((initial echoRendered).after before) e
    rw [has] at hshows
    obtain ⟨-, ⟨-, task, rfl⟩ | ⟨hon, -⟩⟩ := hshows.of_busy
    · exact ⟨task, _, rfl⟩
    · cases hon
  · intro l l' hl
    obtain ⟨before, e, later, as, as', hsplit, has, rfl, rfl⟩ := signs_eq_append hl
    have hshows := shows_step ((initial echoRendered).after before) e
    rw [has] at hshows
    obtain ⟨rfl, ⟨hon, -⟩ | ⟨-, task, time, code, rfl, rfl, hlive⟩⟩ := hshows.of_busy
    · cases hon
    · refine ⟨task, _, rfl, ?_⟩
      rw [List.append_nil, ← began_mem_signs_iff_infix]
      exact began_iff_not_cutShort hes hr hsplit hlive

/-- A running task gives way to another, which cannot be started: none is cut short. -/
theorem alternates_iff_overruled :
    let build : Invocation := ⟨.build, ⟨"cargo", ["build"], ⟨"/work"⟩⟩, true⟩
    let es : List Event := [.runRequested ⟨.build, [], false⟩, .prepared ⟨1⟩ build,
      .process ⟨⟨1⟩, ⟨0⟩, .started none⟩, .runRequested ⟨.build, [], true⟩,
      .process ⟨⟨1⟩, ⟨1⟩, .exited none⟩, .prepared ⟨2⟩ build,
      .process ⟨⟨2⟩, ⟨2⟩, .failed (.notFound "cargo")⟩]
    let h := (initial true).history es
    .shutdownRequested ∉ es ∧ ReportsInFull h ∧ switches h = [true, false] ∧
      ∀ task, ¬ CutShort task h := by
  intro build es h
  have hes : .shutdownRequested ∉ es := by simp [es]
  have hr : ReportsInFull h := by decide
  have hswitches : switches h = [true, false] := rfl
  have hchain : (false :: switches h).IsChain (· ≠ ·) := by
    rw [hswitches]
    decide
  exact ⟨hes, hr, hswitches, (alternates_iff hes hr).1.1 hchain⟩

/-- A task that is stopped before it comes up, and exits once it has, is never made known, and all
the same the sign is switched off for it. -/
theorem not_alternates_stopped :
    ¬ ∀ (echoRendered : Bool) (es : List Event), .shutdownRequested ∉ es →
      ReportsInFull ((initial echoRendered).history es) →
        (false :: switches ((initial echoRendered).history es)).IsChain (· ≠ ·) := by
  intro hall
  let build : Invocation := ⟨.build, ⟨"cargo", ["build"], ⟨"/work"⟩⟩, true⟩
  let es : List Event := [.runRequested ⟨.build, [], false⟩, .prepared ⟨1⟩ build, .stopRequested,
    .process ⟨⟨1⟩, ⟨0⟩, .started none⟩, .process ⟨⟨1⟩, ⟨1⟩, .exited none⟩]
  have hes : .shutdownRequested ∉ es := by simp [es]
  have hr : ReportsInFull ((initial true).history es) := by decide
  have hswitches : switches ((initial true).history es) = [false] := rfl
  have hchain := hall true es hes hr
  rw [hswitches] at hchain
  exact hchain.rel rfl

end Run

end Core

end BuildRunner
