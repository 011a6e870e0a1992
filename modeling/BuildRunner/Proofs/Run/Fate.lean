import BuildRunner.Proofs.Run.Balance
import BuildRunner.Proofs.Run.SingleFlight
import Mathlib.Data.List.Nodup
import Mathlib.Data.Set.Card

/-!
The fate of a task. Numbers are given out in ascending order, so no task takes the slot twice, and
what has left it was finished, rejected or superseded once and for all. A task that leaves while it
is being prepared is never started.
-/

namespace BuildRunner.Core

/-! ### Runs from the start -/

section Start

variable (echoRendered : Bool) (es : List Event)

/-- **The tasks prepared in a run are those with a fate**, in the same order. -/
theorem preparedTasks_eq :
    preparedTasks ((initial echoRendered).history es) =
      ((initial echoRendered).fates es).map Prod.fst := by
  have hbalance := (balance_run (initial echoRendered) es).1
  have hidle : (initial echoRendered).slot.task? = none := rfl
  rw [hidle, Option.toList_none, List.nil_append] at hbalance
  rw [hbalance, fates, List.map_append]
  congr 1
  cases ((initial echoRendered).after es).slot.task? <;> rfl

/-- The numbers of the tasks prepared in a run are those from one on. -/
theorem preparedTasks_numbers :
    preparedTasks ((initial echoRendered).history es) =
      (List.range' 1 (preparedTasks ((initial echoRendered).history es)).length).map TaskId.mk := by
  obtain ⟨n, hn, -⟩ := numbered_run (initial echoRendered) es
  have hone : (initial echoRendered).nextTask.number = 1 := rfl
  rw [hone] at hn
  have hlength : (preparedTasks ((initial echoRendered).history es)).length = n := by simp [hn]
  rw [hlength]
  exact hn

lemma nodup_fates : (((initial echoRendered).fates es).map Prod.fst).Nodup := by
  rw [← preparedTasks_eq, preparedTasks_numbers]
  refine List.Nodup.map ?_ List.nodup_range'
  intro m n h
  exact congrArg TaskId.number h

variable {echoRendered es}

/-- A task has one fate. -/
lemma fate_unique {task : TaskId} {fate fate' : Fate}
    (h : (task, fate) ∈ (initial echoRendered).fates es)
    (h' : (task, fate') ∈ (initial echoRendered).fates es) : fate = fate' :=
  congrArg Prod.snd (List.inj_on_of_nodup_map (nodup_fates echoRendered es) h h' rfl)

lemma mem_fates_of_mem_departures {core : Core} {d : TaskId × Fate}
    (h : d ∈ core.departures es) : d ∈ core.fates es :=
  List.mem_append_left _ h

lemma holding_mem_fates {core : Core} {task : TaskId} :
    (task, .holding) ∈ core.fates es ↔ (core.after es).slot.task? = some task := by
  have hdeparted : (task, .holding) ∉ core.departures es := by
    intro h
    obtain ⟨before, e, later, -, hd⟩ := mem_departures.1 h
    exact departure?_ne_holding hd
  simp [fates, hdeparted]

/-- The fates but the last are those of the tasks that left the slot. -/
lemma mem_departures_of_mem_fates {core : Core} {task : TaskId} {fate : Fate}
    (h : (task, fate) ∈ core.fates es) (hne : fate ≠ .holding) :
    (task, fate) ∈ core.departures es := by
  rcases List.mem_append.1 h with h | h
  · exact h
  · obtain ⟨_, -, heq⟩ := List.mem_map.1 h
    exact absurd (congrArg Prod.snd heq).symm hne

lemma mem_finishedTasks {core : Core} {task : TaskId} :
    task ∈ finishedTasks (core.history es) ↔ (task, .finished) ∈ core.fates es := by
  rw [(balance_run core es).2, mem_withFate]
  exact ⟨mem_fates_of_mem_departures, fun h => mem_departures_of_mem_fates h (by simp)⟩

lemma nodup_withFate (fate : Fate) :
    (withFate fate ((initial echoRendered).departures es)).Nodup := by
  have h := nodup_fates echoRendered es
  rw [fates, List.map_append] at h
  exact (List.filter_sublist.map Prod.fst).nodup (List.Nodup.of_append_left h)

lemma nodup_finishedTasks : (finishedTasks ((initial echoRendered).history es)).Nodup := by
  rw [(balance_run _ es).2]
  exact nodup_withFate .finished

/-! ### Processes of a task -/

/-- A task that left the slot while it was being prepared is never started. -/
theorem not_spawned_of_departure {before : List Event} {e : Event} {task : TaskId}
    {request : Request} {fate : Fate}
    (hslot : ((initial echoRendered).after before).slot = .preparing task request)
    (hd : ((initial echoRendered).after before).slot.departure? e = some (task, fate))
    (later : List Event) (invocation : Invocation) :
    .did (.spawn task invocation) ∉ (initial echoRendered).history (before ++ e :: later) := by
  intro hs
  obtain ⟨before', e', later', hes, hstep⟩ := did_mem_history.1 hs
  obtain ⟨rfl, ⟨request', hslot'⟩, -⟩ := spawn_mem_step hstep
  -- The process would be asked for before the task leaves the slot, then or later.
  rcases append_eq_append_cons hes with ⟨m, rfl, -⟩ | ⟨_ | ⟨e', m⟩, rfl, hm⟩
  · have hspawned : .did (.spawn task invocation) ∈
        (initial echoRendered).history (before' ++ .prepared task invocation :: m) :=
      did_mem_history.2 ⟨before', _, m, rfl, hstep⟩
    exact (tallied_run echoRendered _).unspawned hslot invocation hspawned
  · obtain ⟨rfl, -⟩ := List.cons.inj hm
    simp [hslot, Slot.departure?] at hd
  · obtain ⟨rfl, -⟩ := List.cons.inj hm
    have hfate := mem_fates_of_mem_departures (mem_departures_of_departure? hd m)
    have hholding : (task, .holding) ∈ (initial echoRendered).fates (before ++ e :: m) :=
      holding_mem_fates.2 (by simp [hslot'])
    rw [fate_unique hfate hholding] at hd
    exact departure?_ne_holding hd

/-- A live task was started. -/
theorem spawned_of_live {task : TaskId}
    (h : ((initial echoRendered).after es).slot.liveTask = some task) :
    ∃ invocation, .did (.spawn task invocation) ∈ (initial echoRendered).history es := by
  induction es using List.reverseRecOn with
  | nil => simp [initial] at h
  | append_singleton es e ih =>
    rw [after_concat] at h
    rw [history_concat]
    rcases live_of_step h with h | ⟨invocation, hs⟩
    · obtain ⟨invocation, hs⟩ := ih h
      exact ⟨invocation, List.mem_append_left _ hs⟩
    · exact ⟨invocation, List.mem_append_right _ (did_mem_entries.2 hs)⟩

/-- Only a task that was started is killed. -/
theorem spawned_of_killed {task : TaskId}
    (h : .did (.kill task) ∈ (initial echoRendered).history es) :
    ∃ invocation, .did (.spawn task invocation) ∈ (initial echoRendered).history es := by
  obtain ⟨before, e, later, rfl, hk⟩ := did_mem_history.1 h
  obtain ⟨verb, since, hup⟩ := kill_mem_step hk
  obtain ⟨invocation, hs⟩ := spawned_of_live hup.liveTask_eq
  exact ⟨invocation, mem_history_append hs _⟩

end Start

/-! ### The main statement -/

/-- **What it means for a task to have a fate**, told from the events and the actions of a run
alone. -/
def HasFate (core : Core) (es : List Event) (task : TaskId) : Fate → Prop
  | .finished => (finishedTasks (core.history es)).count task = 1
  | .rejected =>
    (∃ before reason later request, es = before ++ .prepareFailed task reason :: later ∧
      (core.after before).slot = .preparing task request ∧
      ((core.after before).step (.prepareFailed task reason)).actions =
        [.showError reason, .announceRejected reason]) ∧
    task ∉ finishedTasks (core.history es)
  | .superseded =>
    (∃ before request later old, es = before ++ .runRequested request :: later ∧
      request.force = true ∧ request.verb.fault? = none ∧
      (core.after before).slot = .preparing task old) ∧
    (∀ invocation, .did (.spawn task invocation) ∉ core.history es) ∧
    .did (.kill task) ∉ core.history es ∧ task ∉ finishedTasks (core.history es)
  | .holding => (core.after es).slot.task? = some task

section Start

variable {echoRendered : Bool} {es : List Event} {task : TaskId}

lemma hasFate_of_mem_fates {fate : Fate} (h : (task, fate) ∈ (initial echoRendered).fates es) :
    (initial echoRendered).HasFate es task fate := by
  have hunfinished : fate ≠ .finished → task ∉ finishedTasks ((initial echoRendered).history es) :=
    fun hne hf => hne (fate_unique h (mem_finishedTasks.1 hf))
  cases fate with
  | finished => exact List.count_eq_one_of_mem nodup_finishedTasks (mem_finishedTasks.2 h)
  | rejected =>
    obtain ⟨before, e, later, rfl, hd⟩ :=
      mem_departures.1 (mem_departures_of_mem_fates h (by simp))
    obtain ⟨reason, request, rfl, hslot⟩ := departure?_eq_rejected.1 hd
    refine ⟨⟨before, reason, later, request, rfl, hslot, ?_⟩, hunfinished (by simp)⟩
    simp [step, onPrepareFailed, hslot]
  | superseded =>
    obtain ⟨before, e, later, rfl, hd⟩ :=
      mem_departures.1 (mem_departures_of_mem_fates h (by simp))
    obtain ⟨request, old, rfl, force, valid, hslot⟩ := departure?_eq_superseded.1 hd
    have hunspawned := not_spawned_of_departure hslot hd later
    refine ⟨⟨before, request, later, old, rfl, force, valid, hslot⟩, hunspawned, fun hk => ?_,
      hunfinished (by simp)⟩
    obtain ⟨invocation, hs⟩ := spawned_of_killed hk
    exact hunspawned invocation hs
  | holding => exact holding_mem_fates.1 h

lemma mem_fates_of_hasFate {fate : Fate} (h : (initial echoRendered).HasFate es task fate) :
    (task, fate) ∈ (initial echoRendered).fates es := by
  cases fate with
  | finished => exact mem_finishedTasks.1 (List.count_pos_iff.1 (by rw [h]; exact Nat.one_pos))
  | rejected =>
    obtain ⟨⟨before, reason, later, request, rfl, hslot, -⟩, -⟩ := h
    have hd := departure?_eq_rejected.2 ⟨reason, request, rfl, hslot⟩
    exact mem_fates_of_mem_departures (mem_departures_of_departure? hd later)
  | superseded =>
    obtain ⟨⟨before, request, later, old, rfl, force, valid, hslot⟩, -⟩ := h
    have hd := departure?_eq_superseded.2 ⟨request, old, rfl, force, valid, hslot⟩
    exact mem_fates_of_mem_departures (mem_departures_of_departure? hd later)
  | holding => exact holding_mem_fates.2 h

/-- A fate is what it is said to mean. -/
theorem hasFate_iff_mem_fates {fate : Fate} :
    (initial echoRendered).HasFate es task fate ↔ (task, fate) ∈ (initial echoRendered).fates es :=
  ⟨mem_fates_of_hasFate, hasFate_of_mem_fates⟩

/-- The tasks with a fate are counted by those that left the slot with it. -/
lemma ncard_hasFate {fate : Fate} (hne : fate ≠ .holding) :
    {task | (initial echoRendered).HasFate es task fate}.ncard =
      (withFate fate ((initial echoRendered).departures es)).length := by
  have hset : {task | (initial echoRendered).HasFate es task fate} =
      ↑(withFate fate ((initial echoRendered).departures es)).toFinset := by
    ext task
    rw [Set.mem_ofPred_eq, hasFate_iff_mem_fates, Finset.mem_coe, List.mem_toFinset, mem_withFate]
    exact ⟨fun h => mem_departures_of_mem_fates h hne, mem_fates_of_mem_departures⟩
  rw [hset, Set.ncard_coe_finset, List.toFinset_card_of_nodup (nodup_withFate fate)]

end Start

lemma length_eq_of_no_holding {l : List (TaskId × Fate)} (h : ∀ d ∈ l, d.2 ≠ .holding) :
    l.length = (withFate .finished l).length + (withFate .rejected l).length +
      (withFate .superseded l).length := by
  induction l with
  | nil => rfl
  | cons d l ih =>
    have hl := ih fun d hd => h d (List.mem_cons_of_mem _ hd)
    have hcons : ∀ fate, (withFate fate (d :: l)).length =
        (if d.2 = fate then 1 else 0) + (withFate fate l).length := by
      intro fate
      rw [← List.singleton_append, withFate_append, List.length_append, withFate_singleton]
      split <;> rfl
    have hd := h d List.mem_cons_self
    rw [List.length_cons, hl, hcons, hcons, hcons]
    obtain ⟨task, fate⟩ := d
    cases fate with
    | holding => exact absurd rfl hd
    | _ => simp; omega

lemma length_holder (slot : Slot) : slot.task?.toList.length = if slot = .idle then 0 else 1 := by
  cases slot <;> simp

/-- **Each task has one fate**, and numbers are given out from one on. So the tasks prepared are as
many as those finished, rejected and superseded together, and the one that holds the slot; and none
is finished twice. -/
theorem existsUnique_fate (echoRendered : Bool) (es : List Event) :
    let core := initial echoRendered
    let prepared := preparedTasks (core.history es)
    let finished := finishedTasks (core.history es)
    prepared = (List.range' 1 prepared.length).map TaskId.mk ∧
      (∀ task ∈ prepared, ∃! fate, core.HasFate es task fate) ∧
      prepared.length = finished.length + {task | core.HasFate es task .rejected}.ncard +
        {task | core.HasFate es task .superseded}.ncard +
        (if (core.after es).slot = .idle then 0 else 1) ∧
      finished.Nodup := by
  intro core prepared finished
  refine ⟨preparedTasks_numbers echoRendered es, fun task htask => ?_, ?_, nodup_finishedTasks⟩
  · rw [show prepared = _ from preparedTasks_eq echoRendered es] at htask
    obtain ⟨⟨task, fate⟩, hmem, rfl⟩ := List.mem_map.1 htask
    exact ⟨fate, hasFate_iff_mem_fates.2 hmem,
      fun fate' h' => fate_unique (hasFate_iff_mem_fates.1 h') hmem⟩
  · have hholding : ∀ d ∈ core.departures es, d.2 ≠ .holding := by
      rintro ⟨task, fate⟩ hd rfl
      obtain ⟨before, e, later, -, hd⟩ := mem_departures.1 hd
      exact departure?_ne_holding hd
    have hfinished : finished = withFate .finished (core.departures es) := (balance_run core es).2
    calc prepared.length
        = (core.departures es).length + (core.after es).slot.task?.toList.length := by
          rw [show prepared = _ from preparedTasks_eq echoRendered es, List.length_map, fates,
            List.length_append, List.length_map]
      _ = _ := by
          rw [length_eq_of_no_holding hholding, length_holder, hfinished, ncard_hasFate (by simp),
            ncard_hasFate (by simp)]

/-- All four fates occur: one task is stopped, the directory of the next one is gone, and a forced
request takes the place of the third. -/
theorem existsUnique_fate_each :
    let es : List Event := [.runRequested ⟨.build, [], false⟩, .stopRequested,
      .runRequested ⟨.check, [], false⟩, .prepareFailed ⟨2⟩ "gone",
      .runRequested ⟨.test, [], false⟩, .runRequested ⟨.doc, [], true⟩]
    let core := initial true
    core.HasFate es ⟨1⟩ .finished ∧ core.HasFate es ⟨2⟩ .rejected ∧
      core.HasFate es ⟨3⟩ .superseded ∧ core.HasFate es ⟨4⟩ .holding ∧
      ∀ task ∈ [(⟨1⟩ : TaskId), ⟨2⟩, ⟨3⟩, ⟨4⟩], ∃! fate, core.HasFate es task fate := by
  intro es core
  have hfates : core.fates es =
      [(⟨1⟩, .finished), (⟨2⟩, .rejected), (⟨3⟩, .superseded), (⟨4⟩, .holding)] := rfl
  refine ⟨hasFate_iff_mem_fates.2 ?_, hasFate_iff_mem_fates.2 ?_, hasFate_iff_mem_fates.2 ?_,
    hasFate_iff_mem_fates.2 ?_, (existsUnique_fate true es).2.1⟩
  all_goals rw [hfates]; simp

end BuildRunner.Core
