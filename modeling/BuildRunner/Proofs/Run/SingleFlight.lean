import BuildRunner.Proofs.Run.History
import BuildRunner.Proofs.Run.Transition

/-!
Single flight: there is never more than one process. The invariant of a run (`Tallied`) says of every
process that was asked for that it is the live one or that its end has been reported since; the
slot has room for a new one only when nothing is live. Numbers are given out in ascending order, so
no task is started twice.
-/

namespace BuildRunner.Core

/-- The last report of the process of a task is among the events. -/
def EndReported (task : TaskId) (h : List Entry) : Prop :=
  ∃ time what, what.isTerminal = true ∧ .fed (.process ⟨task, time, what⟩) ∈ h

/-- A task was prepared, and none has been since. -/
def LastPrepared (task : TaskId) (h : List Entry) : Prop :=
  ∃ l request m, h = l ++ .did (.prepare task request) :: m ∧
    ∀ other request, .did (.prepare other request) ∉ m

/-- **What is known behind a run** of the tasks that were prepared and started in it. -/
structure Tallied (h : List Entry) (core : Core) : Prop where
  /-- The task that holds the slot has the number given out last. -/
  holder : ∀ {task}, core.slot.task? = some task → task.number + 1 = core.nextTask.number
  /-- The task that holds the slot was prepared last. -/
  last : ∀ {task}, core.slot.task? = some task → LastPrepared task h
  /-- Only numbers that were given out are started. -/
  spawned_lt : ∀ {task invocation}, .did (.spawn task invocation) ∈ h →
    task.number < core.nextTask.number
  /-- A task that is being prepared was not started. -/
  unspawned : ∀ {task request}, core.slot = .preparing task request →
    ∀ invocation, .did (.spawn task invocation) ∉ h
  /-- A task that was started is live, or its end has been reported since. -/
  ended : ∀ {l task invocation l'}, h = l ++ .did (.spawn task invocation) :: l' →
    core.slot.liveTask = some task ∨ EndReported task l'

lemma LastPrepared.append {task : TaskId} {h h' : List Entry} (ht : LastPrepared task h)
    (hh' : ∀ other request, .did (.prepare other request) ∉ h') : LastPrepared task (h ++ h') := by
  obtain ⟨l, request, m, rfl, hm⟩ := ht
  refine ⟨l, request, m ++ h', by simp, fun other r hr => ?_⟩
  rcases List.mem_append.1 hr with hr | hr
  · exact hm other r hr
  · exact hh' other r hr

lemma EndReported.append {task : TaskId} {h : List Entry} (ht : EndReported task h)
    (h' : List Entry) : EndReported task (h ++ h') := by
  obtain ⟨time, what, hw, hmem⟩ := ht
  exact ⟨time, what, hw, List.mem_append_left _ hmem⟩

/-! ### The invariant -/

lemma tallied_initial (echoRendered : Bool) : Tallied [] (initial echoRendered) where
  holder h := by simp [initial] at h
  last h := by simp [initial] at h
  spawned_lt h := by simp at h
  unspawned h := by simp [initial] at h
  ended h := by simp at h

section Step

variable {h : List Entry} {core : Core} {e : Event}

lemma nextTask_le_step (core : Core) (e : Event) :
    core.nextTask.number ≤ (core.step e).core.nextTask.number := by
  rcases begins_or_keeps core e with ⟨request, hp⟩ | ⟨hnext, -, -⟩
  · simp [(prepare_mem_step hp).2.1, begin]
  · exact Nat.le_of_eq (congrArg TaskId.number hnext.symm)

lemma lastPrepared_of_mem {task : TaskId} {request : Request}
    (hp : .prepare task request ∈ (core.step e).actions) :
    LastPrepared task (h ++ core.entries e) := by
  obtain ⟨-, -, hlast, -⟩ := prepare_mem_step hp
  obtain ⟨as, has⟩ := List.getLast?_eq_some_iff.1 hlast
  exact ⟨h ++ .fed e :: as.map .did, request, [], by simp [entries, has], by simp⟩

lemma Tallied.spawned_lt_step (ht : Tallied h core) {task : TaskId} {invocation : Invocation}
    (hs : .did (.spawn task invocation) ∈ h ++ core.entries e) :
    task.number < (core.step e).core.nextTask.number := by
  refine Nat.lt_of_lt_of_le ?_ (nextTask_le_step core e)
  rcases List.mem_append.1 hs with hs | hs
  · exact ht.spawned_lt hs
  · obtain ⟨-, ⟨request, hslot⟩, -⟩ := spawn_mem_step (did_mem_entries.1 hs)
    have : task.number + 1 = core.nextTask.number := ht.holder (by simp [hslot])
    omega

lemma Tallied.ended_step (ht : Tallied h core) {l l' : List Entry} {task : TaskId}
    {invocation : Invocation}
    (hl : h ++ core.entries e = l ++ .did (.spawn task invocation) :: l') :
    (core.step e).core.slot.liveTask = some task ∨ EndReported task l' := by
  rcases append_eq_append_cons hl with ⟨m, hm, rfl⟩ | ⟨m, -, hm⟩
  · rcases ht.ended hm with hlive | hr
    · rcases live_step hlive e with hlive' | ⟨time, what, hw, rfl⟩
      · exact .inl hlive'
      · exact .inr ⟨time, what, hw, by simp⟩
    · exact .inr (hr.append _)
  · have hs : .did (.spawn task invocation) ∈ core.entries e := by simp [hm]
    obtain ⟨-, -, hstep⟩ := spawn_mem_step (did_mem_entries.1 hs)
    exact .inl (by simp [hstep])

/-- **A step keeps the tally**: a task that it begins is new, and else the slot goes on with its
task or is free. -/
theorem Tallied.step (ht : Tallied h core) (e : Event) :
    Tallied (h ++ core.entries e) (core.step e).core := by
  rcases begins_or_keeps core e with ⟨request, hp⟩ | ⟨hnext, htask, hprep⟩
  · obtain ⟨-, hcore, -, -⟩ := prepare_mem_step hp
    refine ⟨?_, ?_, ht.spawned_lt_step, ?_, ht.ended_step⟩
    · intro task hh
      simp only [hcore, begin, Slot.task?_preparing, Option.some.injEq] at hh ⊢
      rw [← hh]
    · intro task hh
      simp only [hcore, begin, Slot.task?_preparing, Option.some.injEq] at hh
      exact hh ▸ lastPrepared_of_mem hp
    · intro task r hslot invocation hs
      simp only [hcore, begin, Slot.preparing.injEq] at hslot
      rcases List.mem_append.1 hs with hs | hs
      · have := ht.spawned_lt hs
        rw [← hslot.1] at this
        omega
      · obtain ⟨-, -, hstep⟩ := spawn_mem_step (did_mem_entries.1 hs)
        simp [hstep] at hp
  · have hnone : ∀ other request, .did (.prepare other request) ∉ core.entries e := by
      intro other r hp
      obtain ⟨-, hcore, -, -⟩ := prepare_mem_step (did_mem_entries.1 hp)
      have := congrArg TaskId.number (hcore ▸ hnext)
      simp [begin] at this
    refine ⟨?_, ?_, ht.spawned_lt_step, ?_, ht.ended_step⟩
    · intro task hh
      rw [hnext]
      exact ht.holder (htask task hh)
    · intro task hh
      exact (ht.last (htask task hh)).append hnone
    · intro task r hslot invocation hs
      rcases List.mem_append.1 hs with hs | hs
      · exact ht.unspawned (hprep task r hslot) invocation hs
      · obtain ⟨-, -, hstep⟩ := spawn_mem_step (did_mem_entries.1 hs)
        simp [hstep] at hslot

theorem tallied_run (echoRendered : Bool) (es : List Event) :
    Tallied ((initial echoRendered).history es) ((initial echoRendered).after es) :=
  run_induction (tallied_initial echoRendered) (fun _ _ e ht => ht.step e) es

end Step

/-! ### The main statement -/

lemma history_eq_append_spawn {core : Core} {es : List Event} {l l' : List Entry} {task : TaskId}
    {invocation : Invocation} (h : core.history es = l ++ .did (.spawn task invocation) :: l') :
    ∃ before later request, es = before ++ .prepared task invocation :: later ∧
      (core.after before).slot = .preparing task request ∧
      l = core.history before ++ [.fed (.prepared task invocation)] := by
  obtain ⟨before, e, later, as, as', rfl, has, rfl⟩ := history_eq_append_did h
  have hs : .spawn task invocation ∈ ((core.after before).step e).actions := by simp [has]
  obtain ⟨rfl, ⟨request, hslot⟩, hstep⟩ := spawn_mem_step hs
  rw [hstep, goOn_actions] at has
  rcases as with _ | ⟨a, as⟩
  · exact ⟨before, later, request, rfl, hslot, rfl⟩
  · simp at has

/-- **Single flight.** Of two processes that are asked for, the end of the first one is reported
before the second one is asked for, and they belong to different tasks. A process is asked for only
when the command of its task has become known, with that command, and when its task was prepared
and has the number given out last. -/
theorem single_flight (echoRendered : Bool) (es : List Event) :
    (∀ l m n a i b j,
      (initial echoRendered).history es =
          l ++ .did (.spawn a i) :: m ++ .did (.spawn b j) :: n →
        a ≠ b ∧ EndReported a m) ∧
    ∀ l m a i, (initial echoRendered).history es = l ++ .did (.spawn a i) :: m →
      LastPrepared a l ∧
      ∃ before later, es = before ++ .prepared a i :: later ∧
        l = (initial echoRendered).history before ++ [.fed (.prepared a i)] ∧
        ((initial echoRendered).after before).nextTask.number = a.number + 1 := by
  refine ⟨fun l m n a i b j h => ?_, fun l m a i h => ?_⟩
  · obtain ⟨before, later, request, rfl, hslot, hl⟩ := history_eq_append_spawn h
    have ht := tallied_run echoRendered before
    obtain ⟨m, rfl, hm⟩ : ∃ m', m = m' ++ [.fed (.prepared b j)] ∧
        (initial echoRendered).history before = l ++ .did (.spawn a i) :: m' := by
      rcases append_eq_append_cons hl.symm with ⟨m', h', rfl⟩ | ⟨m', -, h'⟩
      · exact ⟨m', rfl, h'⟩
      · simp [List.cons_eq_append_iff] at h'
    refine ⟨?_, ?_⟩
    · rintro rfl
      exact ht.unspawned hslot i (by simp [hm])
    · rcases ht.ended hm with hlive | hr
      · simp [hslot] at hlive
      · exact hr.append _
  · obtain ⟨before, later, request, rfl, hslot, rfl⟩ := history_eq_append_spawn h
    have ht := tallied_run echoRendered before
    have hholder : ((initial echoRendered).after before).slot.task? = some a := by simp [hslot]
    exact ⟨(ht.last hholder).append (by simp), before, later, rfl, rfl, (ht.holder hholder).symm⟩

/-- A forced request makes two processes one after the other, with the end of the first between. -/
theorem single_flight_restart :
    let build : Invocation := ⟨.build, ⟨"cargo", ["build"], ⟨"/work"⟩⟩, true⟩
    let es : List Event := [.runRequested ⟨.build, [], false⟩, .prepared ⟨1⟩ build,
      .runRequested ⟨.build, [], true⟩, .process ⟨⟨1⟩, ⟨0⟩, .exited none⟩, .prepared ⟨2⟩ build]
    ∃ l m, (initial true).history es =
        l ++ .did (.spawn ⟨1⟩ build) :: m ++ [.did (.spawn ⟨2⟩ build)] ∧ EndReported ⟨1⟩ m := by
  intro build es
  let l : List Entry := [.fed (.runRequested ⟨.build, [], false⟩),
    .did (.prepare ⟨1⟩ ⟨.build, [], false⟩), .fed (.prepared ⟨1⟩ build)]
  let m : List Entry := [.fed (.runRequested ⟨.build, [], true⟩), .did (.kill ⟨1⟩),
    .fed (.process ⟨⟨1⟩, ⟨0⟩, .exited none⟩), .did (.setBusy false),
    .did (.announceFinish ⟨1⟩ .build .cancelled .zero), .did (.prepare ⟨2⟩ ⟨.build, [], true⟩),
    .fed (.prepared ⟨2⟩ build)]
  have hes : (initial true).history es =
      l ++ .did (.spawn ⟨1⟩ build) :: m ++ [.did (.spawn ⟨2⟩ build)] := rfl
  exact ⟨l, m, hes, ((single_flight true es).1 l m [] ⟨1⟩ build ⟨2⟩ build hes).2⟩

end BuildRunner.Core
