import BuildRunner.Proofs.Run.Fate

/-!
What the world outside is shown of runs: that one began, that one is over, and the sign that one is
in progress. Behind the showing that a run began stands one that it is over, unless its task is
still live (`over_of_began`), and the sign is on while the live task is one that was shown to begin
(`busy_run`).
-/

namespace BuildRunner

/-- What is shown of runs. -/
inductive Sign where
  | began (task : TaskId)
  | over (task : TaskId)
  | busy (on : Bool)
  deriving DecidableEq

/-- What an action shows. -/
def Action.sign? : Action → Option Sign
  | .announceStart task _ => some (.began task)
  | .announceFinish task _ _ _ => some (.over task)
  | .setBusy on => some (.busy on)
  | _ => none

namespace Sign

/-- What the sign that a run is in progress is switched to. -/
def busy? : Sign → Option Bool
  | .busy on => some on
  | _ => none

/-- The last position of the sign that a run is in progress. -/
def lastBusy? (signs : List Sign) : Option Bool := (signs.filterMap busy?).getLast?

lemma lastBusy?_append (l l' : List Sign) :
    lastBusy? (l ++ l') = (lastBusy? l').or (lastBusy? l) := by
  simp [lastBusy?, List.getLast?_append]

lemma filterMap_busy?_of_over {l : List Sign} (h : ∀ s ∈ l, ∃ task, s = .over task) :
    l.filterMap busy? = [] := by
  rw [List.filterMap_eq_nil_iff]
  intro s hs
  obtain ⟨task, rfl⟩ := h s hs
  rfl

lemma lastBusy?_of_over {l : List Sign} (h : ∀ s ∈ l, ∃ task, s = .over task) :
    lastBusy? l = none := by
  simp [lastBusy?, filterMap_busy?_of_over h]

end Sign

/-- A task is reported to have failed to start after it was reported as up. -/
def FailsLate (es : List Event) : Prop :=
  ∃ before mid later task time pid time' error,
    es = before ++ .process ⟨task, time, .started pid⟩ :: mid ++
      .process ⟨task, time', .failed error⟩ :: later

lemma FailsLate.append {es : List Event} (h : FailsLate es) (es' : List Event) :
    FailsLate (es ++ es') := by
  obtain ⟨before, mid, later, task, time, pid, time', error, rfl⟩ := h
  exact ⟨before, mid, later ++ es', task, time, pid, time', error, by simp⟩

namespace Core

/-- What a history shows of runs, in order. -/
def signs (h : List Entry) : List Sign := (actionsOf h).filterMap Action.sign?

/-! ### Views of a history -/

/-- A place in what is picked from a list is one in the list. -/
lemma filterMap_eq_append_cons {α β : Type} {f : α → Option β} {xs : List α} {l l' : List β} {y : β}
    (h : xs.filterMap f = l ++ y :: l') :
    ∃ k x k', xs = k ++ x :: k' ∧ k.filterMap f = l ∧ f x = some y ∧ k'.filterMap f = l' := by
  obtain ⟨k, m, rfl, rfl, hm⟩ := List.filterMap_eq_append_iff.1 h
  obtain ⟨k', x, m, rfl, hnone, hx, rfl⟩ := List.filterMap_eq_cons_iff.1 hm
  refine ⟨k ++ k', x, m, by simp, ?_, hx, rfl⟩
  rw [List.filterMap_append, List.filterMap_eq_nil_iff.2 hnone, List.append_nil]

section View

variable {h h' : List Entry} {task : TaskId}

@[simp] lemma signs_nil : signs [] = [] := rfl

@[simp] lemma signs_append (h h' : List Entry) : signs (h ++ h') = signs h ++ signs h' := by
  simp [signs]

lemma signs_entries (core : Core) (e : Event) :
    signs (core.entries e) = (core.step e).actions.filterMap Action.sign? := by
  simp [signs]

lemma sign?_eq_began {a : Action} :
    a.sign? = some (.began task) ↔ ∃ invocation, a = .announceStart task invocation := by
  cases a <;> simp [Action.sign?]

lemma began_mem_signs :
    .began task ∈ signs h ↔ ∃ invocation, .did (.announceStart task invocation) ∈ h := by
  refine ⟨fun hs => ?_, ?_⟩
  · obtain ⟨a, ha, hsign⟩ := List.mem_filterMap.1 hs
    obtain ⟨invocation, rfl⟩ := sign?_eq_began.1 hsign
    exact ⟨invocation, mem_actionsOf.1 ha⟩
  · rintro ⟨invocation, ha⟩
    exact List.mem_filterMap.2 ⟨_, mem_actionsOf.2 ha, rfl⟩

/-- The tasks shown to be over are those whose end is made known. -/
lemma count_over (h : List Entry) (task : TaskId) :
    (signs h).count (.over task) = (finishedTasks h).count task := by
  unfold signs finishedTasks
  induction actionsOf h with
  | nil => rfl
  | cons a as ih => cases a <;> simp [List.filterMap_cons, List.count_cons, Action.sign?,
      Action.finished?, ih]

/-- A showing that a run began is that of an action. -/
lemma signs_eq_append_began {l l' : List Sign} (hs : signs h = l ++ .began task :: l') :
    ∃ k k' invocation, h = k ++ .did (.announceStart task invocation) :: k' ∧
      signs k = l ∧ signs k' = l' := by
  obtain ⟨as, a, as', has, rfl, ha, rfl⟩ := filterMap_eq_append_cons hs
  obtain ⟨invocation, rfl⟩ := sign?_eq_began.1 ha
  obtain ⟨k, x, k', rfl, rfl, hx, rfl⟩ := filterMap_eq_append_cons has
  cases x with
  | fed e => cases hx
  | did b =>
    obtain rfl := Option.some.inj hx
    exact ⟨k, k', invocation, rfl, rfl, rfl⟩

end View

section Run

variable {echoRendered : Bool} {es : List Event} {task : TaskId}

/-! ### What comes before a run is shown to begin -/

/-- A run that is shown to begin is that of a live task, reported as up. -/
lemma exists_of_began (h : .began task ∈ signs ((initial echoRendered).history es)) :
    ∃ before time pid later, es = before ++ .process ⟨task, time, .started pid⟩ :: later ∧
      ((initial echoRendered).after before).slot.liveTask = some task := by
  obtain ⟨invocation, ha⟩ := began_mem_signs.1 h
  obtain ⟨before, e, later, rfl, hstep⟩ := did_mem_history.1 ha
  obtain ⟨hslot, time, pid, rfl, -⟩ := announceStart_mem_step hstep
  exact ⟨before, time, pid, later, rfl, by simp [hslot]⟩

lemma spawned_of_began (h : .began task ∈ signs ((initial echoRendered).history es)) :
    ∃ invocation, .did (.spawn task invocation) ∈ (initial echoRendered).history es := by
  obtain ⟨before, time, pid, later, rfl, hlive⟩ := exists_of_began h
  obtain ⟨invocation, hs⟩ := spawned_of_live hlive
  exact ⟨invocation, mem_history_append hs _⟩

/-! ### What comes behind it -/

lemma not_departed_of_spawned {invocation : Invocation} {fate : Fate}
    (hs : .did (.spawn task invocation) ∈ (initial echoRendered).history es)
    (hfate : fate = .rejected ∨ fate = .superseded) :
    (task, fate) ∉ (initial echoRendered).fates es := by
  intro h
  have hne : fate ≠ .holding := by rcases hfate with rfl | rfl <;> simp
  obtain ⟨before, e, later, rfl, hd⟩ := mem_departures.1 (mem_departures_of_mem_fates h hne)
  obtain ⟨request, hslot⟩ :
      ∃ request, ((initial echoRendered).after before).slot = .preparing task request := by
    rcases hfate with rfl | rfl
    · obtain ⟨reason, request, -, hslot⟩ := departure?_eq_rejected.1 hd
      exact ⟨request, hslot⟩
    · obtain ⟨request, old, -, -, -, hslot⟩ := departure?_eq_superseded.1 hd
      exact ⟨old, hslot⟩
  exact not_spawned_of_departure hslot hd later invocation hs

/-- A task that was started has a fate. -/
lemma exists_fate_of_spawned {invocation : Invocation}
    (hs : .did (.spawn task invocation) ∈ (initial echoRendered).history es) :
    ∃ fate, (task, fate) ∈ (initial echoRendered).fates es := by
  obtain ⟨before, e, later, rfl, hstep⟩ := did_mem_history.1 hs
  obtain ⟨rfl, ⟨request, hslot⟩, -⟩ := spawn_mem_step hstep
  have hholding : (task, .holding) ∈ (initial echoRendered).fates before :=
    holding_mem_fates.2 (by simp [hslot])
  have hprepared : task ∈ preparedTasks ((initial echoRendered).history before) := by
    rw [preparedTasks_eq]
    exact List.mem_map_of_mem hholding
  have hprepared : task ∈ preparedTasks ((initial echoRendered).history
      (before ++ .prepared task invocation :: later)) := by
    rw [history_append, preparedTasks_append]
    exact List.mem_append_left _ hprepared
  rw [preparedTasks_eq] at hprepared
  obtain ⟨⟨_, fate⟩, hmem, rfl⟩ := List.mem_map.1 hprepared
  exact ⟨fate, hmem⟩

/-- **A task that was started is finished, or it is live.** -/
theorem finished_iff_not_live {invocation : Invocation}
    (hs : .did (.spawn task invocation) ∈ (initial echoRendered).history es) :
    (task, .finished) ∈ (initial echoRendered).fates es ↔
      ((initial echoRendered).after es).slot.liveTask ≠ some task := by
  refine ⟨fun hfinished hlive => ?_, fun hlive => ?_⟩
  · have hholding := holding_mem_fates.2 (Slot.task?_of_liveTask hlive)
    cases fate_unique hfinished hholding
  · obtain ⟨fate, hmem⟩ := exists_fate_of_spawned hs
    cases fate with
    | finished => exact hmem
    | rejected => exact absurd hmem (not_departed_of_spawned hs (.inl rfl))
    | superseded => exact absurd hmem (not_departed_of_spawned hs (.inr rfl))
    | holding =>
      have hholder := holding_mem_fates.1 hmem
      rcases hslot : ((initial echoRendered).after es).slot with _ | ⟨t, request⟩ | _ | _ | _ <;>
        rw [hslot] at hlive hholder
      · cases hholder
      · obtain rfl : t = task := by simpa using hholder
        exact absurd hs ((tallied_run echoRendered es).unspawned hslot invocation)
      all_goals exact absurd hholder hlive

/-- A task that is shown to begin has not been finished by then. -/
lemma not_finished_of_announced {l l' : List Entry} {invocation : Invocation}
    (h : (initial echoRendered).history es = l ++ .did (.announceStart task invocation) :: l') :
    task ∉ finishedTasks l := by
  obtain ⟨before, e, later, as, as', rfl, has, rfl⟩ := history_eq_append_did h
  have hmem : .announceStart task invocation ∈
      (((initial echoRendered).after before).step e).actions := by simp [has]
  obtain ⟨hslot, time, pid, rfl, hstep⟩ := announceStart_mem_step hmem
  rw [finishedTasks_append, List.mem_append]
  rintro (hf | hf)
  · -- before the step the task holds the slot
    have hholding : (task, .holding) ∈ (initial echoRendered).fates before :=
      holding_mem_fates.2 (by simp [hslot])
    cases fate_unique (mem_finishedTasks.1 hf) hholding
  · -- and the step itself finishes nothing
    obtain ⟨a, ha, hfa⟩ := List.mem_filterMap.1 hf
    have ha : .did a ∈ Entry.fed (.process ⟨task, time, .started pid⟩) :: as.map .did :=
      mem_actionsOf.1 ha
    have ha : a ∈ (((initial echoRendered).after before).step
        (.process ⟨task, time, .started pid⟩)).actions := by
      rw [has]
      exact List.mem_append_left _ (by simpa using ha)
    rw [hstep] at ha
    simp only [goOn_actions, List.mem_cons, List.not_mem_nil, or_false] at ha
    rcases ha with rfl | rfl | rfl <;> cases hfa

/-- **A run that is shown to begin is shown to be over once**, unless its task is live, and never
before. -/
theorem over_of_began {l l' : List Sign}
    (h : signs ((initial echoRendered).history es) = l ++ .began task :: l') :
    .over task ∉ l ∧ l'.count (.over task) =
      if ((initial echoRendered).after es).slot.liveTask = some task then 0 else 1 := by
  have hbegan : .began task ∈ signs ((initial echoRendered).history es) := by rw [h]; simp
  obtain ⟨i, hs⟩ := spawned_of_began hbegan
  obtain ⟨k, k', invocation, hk, rfl, rfl⟩ := signs_eq_append_began h
  have hbefore := not_finished_of_announced hk
  have hcount : (finishedTasks ((initial echoRendered).history es)).count task =
      (finishedTasks k').count task := by
    rw [hk, finishedTasks_append, List.count_append, List.count_eq_zero.2 hbefore, Nat.zero_add]
    rfl
  rw [← List.count_eq_zero, count_over, count_over, ← hcount]
  refine ⟨List.count_eq_zero.2 hbefore, ?_⟩
  split
  case isTrue hlive =>
    rw [List.count_eq_zero, mem_finishedTasks, finished_iff_not_live hs]
    exact not_not_intro hlive
  case isFalse hlive =>
    exact List.count_eq_one_of_mem nodup_finishedTasks
      (mem_finishedTasks.2 ((finished_iff_not_live hs).2 hlive))

end Run

/-! ### The sign that a run is in progress -/

/-- **What a step shows of runs**, and what it makes of the live task. -/
inductive Shows (core : Core) : Event → List Sign → Core → Prop where
  | began {task : TaskId} {invocation : Invocation} {time : Instant} {pid : Option Nat}
    {core' : Core} (slot : core.slot = .spawning task invocation)
    (live : core'.slot.liveTask = some task) :
    Shows core (.process ⟨task, time, .started pid⟩) [.busy true, .began task] core'
  | ended {task : TaskId} {time : Instant} {code : Option Int} {core' : Core}
    (live : core.slot.liveTask = some task) (live' : core'.slot.liveTask = none) :
    Shows core (.process ⟨task, time, .exited code⟩) [.busy false, .over task] core'
  | spawned {e : Event} {task : TaskId} {request : Request} {core' : Core}
    (slot : core.slot = .preparing task request) (live : core'.slot.liveTask = some task) :
    Shows core e [] core'
  | failed {task : TaskId} {time : Instant} {error : StartError} {core' : Core}
    (live : core.slot.liveTask = some task) (live' : core'.slot.liveTask = none) :
    Shows core (.process ⟨task, time, .failed error⟩) [.over task] core'
  | kept {e : Event} {signs : List Sign} {core' : Core}
    (quiet : ∀ s ∈ signs, ∃ task, s = .over task)
    (live : core'.slot.liveTask = core.slot.liveTask) : Shows core e signs core'

lemma sign?_startFailureNotice (program : String) (error : StartError) :
    (startFailureNotice program error).sign? = none :=
  apply_startFailureNotice (fun _ => rfl) (fun _ => rfl) program error

/-- Every step shows runs in one of these ways. -/
theorem shows_step (core : Core) (e : Event) :
    Shows core e (signs (core.entries e)) (core.step e).core := by
  rw [signs_entries]
  have ht := transition_step core e
  generalize core.step e = s at ht ⊢
  cases ht
  case begun r valid hs =>
    refine .kept (by simp [Action.sign?, begin]) ?_
    rcases hs with hs | ⟨-, t, old, hs⟩ <;> simp [hs, begin]
  case overruled hup => exact .kept (by simp [Action.sign?]) hup.liveTask_eq.symm
  case stopped hup => exact .kept (by simp [Action.sign?]) hup.liveTask_eq.symm
  case spawned t r i hs => exact .spawned hs rfl
  case started t i time pid hs => exact .began hs rfl
  case heard stream text hs =>
    obtain ⟨format, hf⟩ := onLine_core core stream text
    rw [hf, filterMap_onLine (fun _ => rfl) (fun _ _ => rfl)]
    exact .kept (by simp) rfl
  case exited hup => exact .ended hup.liveTask_eq rfl
  case failed t i time error hs =>
    rw [goOn_actions, List.filterMap_cons_none (sign?_startFailureNotice _ error)]
    exact .failed (by simp [hs]) rfl
  case exitedStopping next time code hs => cases next <;> exact .ended (by simp [hs]) rfl
  case failedStopping next time error hs => cases next <;> exact .failed (by simp [hs]) rfl
  all_goals exact .kept (by simp [Action.sign?]) (by simp_all)

/-- **The sign that a run is in progress** is on while the live task is one that was shown to begin,
unless such a task is reported to have failed. -/
theorem busy_iff_live {echoRendered : Bool} {es : List Event}
    (h : ∀ before task time error later, es = before ++ .process ⟨task, time, .failed error⟩ :: later →
      ((initial echoRendered).after before).slot.liveTask = some task →
        .began task ∉ signs ((initial echoRendered).history before)) :
    Sign.lastBusy? (signs ((initial echoRendered).history es)) = some true ↔
      ∃ task, ((initial echoRendered).after es).slot.liveTask = some task ∧
        .began task ∈ signs ((initial echoRendered).history es) := by
  induction es using List.reverseRecOn with
  | nil => simp [initial, Sign.lastBusy?]
  | append_singleton es e ih =>
    have ih := ih fun before task time error later hes =>
      h before task time error (later ++ [e]) (by simp [hes])
    rw [history_concat, after_concat, signs_append, Sign.lastBusy?_append]
    have hshows := shows_step ((initial echoRendered).after es) e
    generalize hsigns : signs (((initial echoRendered).after es).entries e) = shown,
      (((initial echoRendered).after es).step e).core = core' at hshows ⊢
    cases hshows
    case began live => exact iff_of_true rfl ⟨_, live, by simp⟩
    case ended live' =>
      refine iff_of_false (fun hon => ?_) (by simp [live'])
      cases hon
    case spawned task request slot live =>
      -- the task that becomes live has not been started before
      refine iff_of_false (fun hon => ?_) ?_
      · obtain ⟨t, ht, -⟩ := ih.1 hon
        simp [slot] at ht
      · rintro ⟨t, ht, hbegan⟩
        obtain rfl : task = t := Option.some.inj (live.symm.trans ht)
        obtain ⟨i, hs⟩ := spawned_of_began (by simpa using hbegan)
        exact (tallied_run echoRendered es).unspawned slot i hs
    case failed task time error live live' =>
      -- the one that fails has not been up
      refine iff_of_false (fun hon => ?_) (by simp [live'])
      obtain ⟨t, ht, hbegan⟩ := ih.1 hon
      obtain rfl : task = t := Option.some.inj (live.symm.trans ht)
      exact h es task time error [] rfl live hbegan
    case kept quiet live =>
      have hnot : ∀ task, .began task ∉ shown := by
        intro task hmem
        obtain ⟨_, hover⟩ := quiet _ hmem
        cases hover
      rw [Sign.lastBusy?_of_over quiet, Option.none_or, ih, live]
      simp [hnot]

/-- **The sign that a run is in progress** is on while the live task is one that was shown to begin,
unless a task is reported to have failed after it came up. -/
theorem busy_run (echoRendered : Bool) (es : List Event) (h : ¬ FailsLate es) :
    Sign.lastBusy? (signs ((initial echoRendered).history es)) = some true ↔
      ∃ task, ((initial echoRendered).after es).slot.liveTask = some task ∧
        .began task ∈ signs ((initial echoRendered).history es) := by
  refine busy_iff_live fun before task time error later hes _ hbegan => ?_
  obtain ⟨before, time', pid, mid, rfl, -⟩ := exists_of_began hbegan
  exact h ⟨before, mid, later, task, time', pid, time, error, by simp [hes]⟩

end Core

end BuildRunner
