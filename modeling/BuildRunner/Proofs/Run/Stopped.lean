import BuildRunner.Proofs.Run.Balance

/-!
A stop is final. Behind a stop the slot is free, or it waits for the end of a process with no
request behind it (`Slot.Subsides`), and only a new request gets it out of that. Until one is made
nothing is prepared, started, killed, put out or published any more, and the task that held the
slot is the only one that can still be finished.
-/

namespace BuildRunner

/-- Whether an event asks for a run that can be made. -/
def Event.asksForRun : Event → Bool
  | .runRequested request => request.verb.fault?.isNone
  | _ => false

/-- Whether an action gets a run going, stops one, or shows something of it. -/
def Action.advances : Action → Bool
  | .prepare _ _ => true
  | .spawn _ _ => true
  | .kill _ => true
  | .clearDiagnostics => true
  | .publish _ _ => true
  | .output _ => true
  | .setBusy busy => busy
  | .announceStart _ _ => true
  | _ => false

/-- An action advances no run, and finishes none but as cancelled. -/
def Action.Settles : Action → Prop
  | .announceFinish _ _ outcome _ => outcome = .cancelled
  | a => a.advances = false

lemma Action.Settles.not_advances {a : Action} (h : a.Settles) : a.advances = false := by
  cases a <;> first | rfl | exact h

/-- The slot is free, or it waits for a process to end and for nothing else. -/
def Slot.Subsides : Slot → Prop
  | .idle => True
  | .stopping _ _ _ next => next = none
  | _ => False

lemma Slot.Up.not_subsides {slot : Slot} {task : TaskId} {verb : Verb} {since : Option Instant}
    (h : slot.Up task verb since) : ¬ slot.Subsides := by
  cases h <;> exact not_false

namespace Core

section Step

variable {core : Core} {e : Event}

/-! ### What a step does -/

/-- **Behind a stop** the slot subsides, and a task is finished by it only as cancelled. -/
theorem stop_step (core : Core) :
    (core.step .stopRequested).core.slot.Subsides ∧
      (∀ task request, .prepare task request ∉ (core.step .stopRequested).actions) ∧
      ∀ {task verb outcome elapsed},
        .announceFinish task verb outcome elapsed ∈ (core.step .stopRequested).actions →
          outcome = .cancelled := by
  have ht := transition_step core .stopRequested
  generalize core.step .stopRequested = s at ht ⊢
  cases ht
  case refused h =>
    generalize hs : core.slot = slot at h
    cases h
    simp [hs, Slot.Subsides]
  case withdrawn =>
    refine ⟨trivial, by simp, fun hf => ?_⟩
    obtain ⟨-, -, rfl, -⟩ := Action.announceFinish.inj (List.mem_singleton.1 hf)
    rfl
  case stopped => simp [Slot.Subsides]
  case dropped => simp [Slot.Subsides]

/-- **A slot that subsides goes on to** unless a run is asked for, and nothing advances. -/
theorem subsides_step (h : core.slot.Subsides) (he : e.asksForRun = false) :
    (core.step e).core.slot.Subsides ∧ ∀ a ∈ (core.step e).actions, a.Settles := by
  have ht := transition_step core e
  generalize core.step e = s at ht ⊢
  cases ht
  case refused => simpa using h
  case invalid => simpa [Action.Settles, Action.advances] using h
  case begun valid _ => simp [Event.asksForRun, valid] at he
  case overruled valid _ _ => simp [Event.asksForRun, valid] at he
  case replaced valid _ _ => simp [Event.asksForRun, valid] at he
  case stopped hup => exact absurd h hup.not_subsides
  case shutUp hup => exact absurd h hup.not_subsides
  case exited hup => exact absurd h hup.not_subsides
  case shut => simpa using h
  case exitedStopping next _ _ hs =>
    obtain rfl : next = none := by simpa [hs, Slot.Subsides] using h
    simp [finish_core, finish_actions, Slot.Subsides, Action.Settles, Action.advances]
  case failedStopping next _ _ hs =>
    obtain rfl : next = none := by simpa [hs, Slot.Subsides] using h
    simp [finish_core, finish_actions, Slot.Subsides, Action.Settles, Action.advances]
  all_goals simp_all [Slot.Subsides]

end Step

/-! ### What a run does -/

/-- In a slot that subsides nothing advances as long as no run is asked for. -/
lemma settles_of_subsides {core : Core} {es : List Event} (h : core.slot.Subsides)
    (hes : ∀ e ∈ es, e.asksForRun = false) {a : Action} (ha : .did a ∈ core.history es) :
    a.Settles := by
  induction es generalizing core with
  | nil => simp at ha
  | cons e es ih =>
    obtain ⟨hslot, hsettles⟩ := subsides_step h (hes e List.mem_cons_self)
    rcases List.mem_append.1 ha with ha | ha
    · exact hsettles a (did_mem_entries.1 ha)
    · exact ih hslot (fun e he => hes e (List.mem_cons_of_mem _ he)) ha

lemma preparedTasks_eq_nil {h : List Entry}
    (hn : ∀ task request, .did (.prepare task request) ∉ h) : preparedTasks h = [] := by
  rw [preparedTasks, List.filterMap_eq_nil_iff]
  intro a ha
  cases a with
  | prepare task request => exact absurd (mem_actionsOf.1 ha) (hn task request)
  | _ => rfl

/-- **Where no task is prepared, none but the one that holds the slot is finished**, and it is so
once. -/
lemma finishedTasks_of_nonePrepared {core : Core} {es : List Event}
    (hn : preparedTasks (core.history es) = []) :
    (finishedTasks (core.history es)).Sublist core.slot.task?.toList := by
  obtain ⟨hbalance, hfinished⟩ := balance_run core es
  rw [hn, List.append_nil] at hbalance
  rw [hfinished, hbalance]
  exact (List.filter_sublist.map Prod.fst).trans (List.sublist_append_left _ _)

/-! ### The main statement -/

/-- **A stop is final.** Behind it, and as long as no run is asked for that can be made, nothing is
prepared, started, killed, withdrawn, published or put out, busy is not switched on, and no run is
made known. From the stop on no task is finished but the one that held the slot, once and as
cancelled. -/
theorem stop_is_final (core : Core) {es : List Event} (hes : ∀ e ∈ es, e.asksForRun = false) :
    (∀ a, .did a ∈ (core.step .stopRequested).core.history es → a.advances = false) ∧
      (finishedTasks (core.history (.stopRequested :: es))).Sublist core.slot.task?.toList ∧
      ∀ task verb outcome elapsed,
        .did (.announceFinish task verb outcome elapsed) ∈ core.history (.stopRequested :: es) →
          outcome = .cancelled := by
  obtain ⟨hslot, hprepare, hcancelled⟩ := stop_step core
  have hsettles : ∀ a, .did a ∈ (core.step .stopRequested).core.history es → a.Settles :=
    fun a ha => settles_of_subsides hslot hes ha
  have hn : preparedTasks (core.history (.stopRequested :: es)) = [] := by
    refine preparedTasks_eq_nil fun task request hp => ?_
    rcases List.mem_append.1 hp with hp | hp
    · exact hprepare task request (did_mem_entries.1 hp)
    · cases (hsettles _ hp).not_advances
  refine ⟨fun a ha => (hsettles a ha).not_advances, finishedTasks_of_nonePrepared hn, ?_⟩
  intro task verb outcome elapsed hf
  rcases List.mem_append.1 hf with hf | hf
  · exact hcancelled (did_mem_entries.1 hf)
  · exact hsettles _ hf

/-- The forced request that waits is dropped by the stop: the process comes up late, a command that
was found out for nobody arrives, and the end of the process is the end of it all. -/
theorem stop_is_final_waiting :
    let core : Core := ⟨.stopping ⟨1⟩ .build none (some ⟨.check, [], true⟩), ⟨2⟩, none, true⟩
    let late : Invocation := ⟨.check, ⟨"cargo", ["check"], ⟨"/work"⟩⟩, true⟩
    let es : List Event := [.process ⟨⟨1⟩, ⟨5⟩, .started none⟩, .prepared ⟨2⟩ late,
      .runRequested ⟨.custom "", [], true⟩, .process ⟨⟨1⟩, ⟨7⟩, .line .stdout "late"⟩,
      .stopRequested, .process ⟨⟨1⟩, ⟨9⟩, .exited none⟩, .shutdownRequested]
    (∀ e ∈ es, e.asksForRun = false) ∧
      (∀ a, .did a ∈ (core.step .stopRequested).core.history es → a.advances = false) ∧
      finishedTasks (core.history (.stopRequested :: es)) = [⟨1⟩] := by
  intro core late es
  have hes : ∀ e ∈ es, e.asksForRun = false := by
    simp [es, Event.asksForRun, Verb.fault?, Text.isBlankText]
  exact ⟨hes, (stop_is_final core hes).1, rfl⟩

end Core

end BuildRunner
