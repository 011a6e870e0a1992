import BuildRunner.Proofs.Run.History
import BuildRunner.Proofs.Run.Transition

/-!
Forced requests: the newest one wins. A forced request that meets a process waits for its end
(`Awaits`), and nothing but another forced request, a stop or a shutdown takes its place. So the
next task that is prepared is its task, and until then no process is asked for.
-/

namespace BuildRunner

/-- Whether an event takes the place of a request that waits, or withdraws it. -/
def Event.overrules : Event → Bool
  | .runRequested request => request.force && request.verb.fault?.isNone
  | .stopRequested => true
  | .shutdownRequested => true
  | _ => false

namespace Core

/-- A request waits for a process to end. -/
def Awaits (core : Core) (request : Request) : Prop :=
  ∃ task verb since, core.slot = .stopping task verb since (some request)

/-- No task is prepared. -/
def NonePrepared (h : List Entry) : Prop := ∀ task request, .did (.prepare task request) ∉ h

lemma NonePrepared.of_append {l l' : List Entry} (h : NonePrepared (l ++ l')) :
    NonePrepared l ∧ NonePrepared l' :=
  ⟨fun t r hm => h t r (List.mem_append_left _ hm), fun t r hm => h t r (List.mem_append_right _ hm)⟩

/-! ### A request that waits -/

lemma unforced_of_refuses {slot : Slot} {request : Request}
    (h : slot.Refuses (.runRequested request)) : request.force = false := by
  cases h with
  | busy _ _ unforced => exact unforced

section Step

variable {core : Core} {request : Request}

variable (core) in
/-- **A forced request is prepared at once, or it waits.** -/
theorem request_step (force : request.force = true) (valid : request.verb.fault? = none) :
    (core.step (.runRequested request)).actions = [.prepare core.nextTask request] ∨
      (core.step (.runRequested request)).core.Awaits request ∧
      NonePrepared (core.entries (.runRequested request)) := by
  simp only [NonePrepared, did_mem_entries]
  have ht := transition_step core (.runRequested request)
  generalize core.step (.runRequested request) = s at ht
  cases ht
  case refused h => exact absurd (unforced_of_refuses h) (by simp [force])
  case invalid h => simp [valid] at h
  case begun => exact .inl rfl
  case overruled task verb since _ _ _ => exact .inr ⟨⟨task, verb, since, rfl⟩, by simp⟩
  case replaced task verb since _ _ _ _ => exact .inr ⟨⟨task, verb, since, rfl⟩, by simp⟩

/-- **A request that waits goes on waiting until it is prepared.** -/
theorem Awaits.step (h : core.Awaits request) {e : Event} (he : e.overrules = false)
    (hn : NonePrepared (core.entries e)) : (core.step e).core.Awaits request := by
  simp only [NonePrepared, did_mem_entries] at hn
  obtain ⟨task, verb, since, hslot⟩ := h
  have ht := transition_step core e
  generalize core.step e = s at ht hn
  cases ht
  case refused => exact ⟨task, verb, since, hslot⟩
  case invalid => exact ⟨task, verb, since, hslot⟩
  case overruled valid force _ => simp [Event.overrules, valid, force] at he
  case replaced valid force _ => simp [Event.overrules, valid, force] at he
  case startedLate t v next time pid hs =>
    obtain ⟨-, -, -, rfl⟩ := Slot.stopping.inj (hslot.symm.trans hs)
    exact ⟨t, v, some time, rfl⟩
  case exited hs => rw [hslot] at hs; cases hs
  case exitedStopping t v since next time code hs =>
    obtain ⟨-, -, -, rfl⟩ := Slot.stopping.inj (hslot.symm.trans hs)
    exact absurd (by simp [finish_actions]) (hn core.nextTask request)
  case failedStopping t v since next time error hs =>
    obtain ⟨-, -, -, rfl⟩ := Slot.stopping.inj (hslot.symm.trans hs)
    exact absurd (by simp [finish_actions]) (hn core.nextTask request)
  all_goals simp_all [Event.overrules]

end Step

lemma awaits_after {core : Core} {request : Request} (h : core.Awaits request) {es : List Event}
    (hes : ∀ e ∈ es, e.overrules = false) (hn : NonePrepared (core.history es)) :
    (core.after es).Awaits request := by
  induction es generalizing core with
  | nil => exact h
  | cons e es ih =>
    obtain ⟨hne, hnes⟩ := hn.of_append
    exact ih (h.step (hes e (by simp)) hne) (fun e' he' => hes e' (by simp [he'])) hnes

/-- A request that waits behind a run has waited from the start or was made in it. -/
lemma waiting_after {core : Core} {request : Request} {es : List Event}
    (h : (core.after es).Awaits request) : core.Awaits request ∨ .runRequested request ∈ es := by
  induction es using List.reverseRecOn with
  | nil => exact .inl h
  | append_singleton es e ih =>
    obtain ⟨task, verb, since, hslot⟩ := h
    rw [after_concat] at hslot
    rcases waiting_step hslot with rfl | ⟨since, hslot⟩
    · exact .inr (by simp)
    · rcases ih ⟨task, verb, since, hslot⟩ with hw | hmem
      · exact .inl hw
      · exact .inr (List.mem_append_left _ hmem)

/-! ### Behind a forced request -/

section Newest

variable {core : Core} {request : Request} {es : List Event}
  (force : request.force = true) (valid : request.verb.fault? = none)

include force valid in
/-- Behind a forced request no other one waits. -/
lemma eq_of_awaits_step {other : Request}
    (h : (core.step (.runRequested request)).core.Awaits other) : other = request := by
  obtain ⟨task, verb, since, hslot⟩ := h
  rcases request_step core force valid with hp | ⟨⟨t, v, s, hslot'⟩, -⟩
  · have hmem : .prepare core.nextTask request ∈ (core.step (.runRequested request)).actions := by
      simp [hp]
    simp [(prepare_mem_step hmem).2.1, begin] at hslot
  · obtain ⟨-, -, -, h⟩ := Slot.stopping.inj (hslot.symm.trans hslot')
    exact Option.some.inj h

include force valid in
/-- What a forced request lets be prepared at once is that request. -/
lemma eq_of_prepare_mem_step {task : TaskId} {other : Request}
    (h : .prepare task other ∈ (core.step (.runRequested request)).actions) : other = request := by
  rcases request_step core force valid with hr | ⟨-, hn⟩
  · simp only [hr, List.mem_singleton, Action.prepare.injEq] at h
    exact h.2
  · exact absurd (did_mem_entries.2 h) (hn task other)

include force valid in
/-- **Whatever is prepared behind a forced request** is that request or a later one. -/
lemma eq_or_mem_of_prepared {task : TaskId} {other : Request}
    (h : .did (.prepare task other) ∈ core.history (.runRequested request :: es)) :
    other = request ∨ .runRequested other ∈ es := by
  obtain ⟨l, l', hl⟩ := List.mem_iff_append.1 h
  obtain ⟨before, e, later, as, as', hes, has, rfl⟩ := history_eq_append_did hl
  have hp : .prepare task other ∈ ((core.after before).step e).actions := by simp [has]
  rcases List.cons_eq_append_iff.1 hes with ⟨rfl, hes⟩ | ⟨before', rfl, rfl⟩
  · obtain ⟨rfl, rfl⟩ := List.cons.inj hes
    exact .inl (eq_of_prepare_mem_step force valid hp)
  · obtain ⟨-, -, -, ⟨rfl, -⟩ | hw⟩ := prepare_mem_step hp
    · exact .inr (by simp)
    · rw [after_cons] at hw
      rcases waiting_after hw with hw | hmem
      · exact .inl (eq_of_awaits_step force valid hw)
      · exact .inr (List.mem_append_left _ hmem)

variable (hes : ∀ e ∈ es, e.overrules = false)

include force valid hes in
/-- From a forced request on, and as long as no task has been prepared, the request waits. -/
lemma awaits_of_nonePrepared (hn : NonePrepared (core.history (.runRequested request :: es))) :
    (core.after (.runRequested request :: es)).Awaits request := by
  obtain ⟨hnr, hnes⟩ := hn.of_append
  rcases request_step core force valid with hp | ⟨hw, -⟩
  · exact absurd (by simp [hp]) (hnr core.nextTask request)
  · exact awaits_after hw hes hnes

end Newest

/-! ### The main statement -/

/-- **The newest forced request wins.** From a forced request on, and unless another one, a stop or
a shutdown follows, the first task that is prepared is that of the request, no process is asked for
until then, and no request from before is ever prepared. -/
theorem newest_forced_request_wins {core : Core} {request : Request} {es : List Event}
    (force : request.force = true) (valid : request.verb.fault? = none)
    (hes : ∀ e ∈ es, e.overrules = false) :
    (∀ l task other l', core.history (.runRequested request :: es) =
        l ++ .did (.prepare task other) :: l' → NonePrepared l → other = request) ∧
    (∀ l l', core.history (.runRequested request :: es) = l ++ l' → NonePrepared l →
      ∀ task invocation, .did (.spawn task invocation) ∉ l) ∧
    ∀ task other, .did (.prepare task other) ∈ core.history (.runRequested request :: es) →
      other = request ∨ .runRequested other ∈ es := by
  refine ⟨fun l task other l' h hn => ?_, fun l l' h hn task invocation hs => ?_,
    fun task other => eq_or_mem_of_prepared force valid⟩
  · obtain ⟨before, e, later, as, as', hb, has, rfl⟩ := history_eq_append_did h
    have hp : .prepare task other ∈ ((core.after before).step e).actions := by simp [has]
    rcases List.cons_eq_append_iff.1 hb with ⟨rfl, hb⟩ | ⟨before, rfl, rfl⟩
    · obtain ⟨rfl, rfl⟩ := List.cons.inj hb
      exact eq_of_prepare_mem_step force valid hp
    · obtain ⟨t, v, s, hslot⟩ := awaits_of_nonePrepared force valid
        (fun e he => hes e (List.mem_append_left _ he)) hn.of_append.1
      obtain ⟨-, -, -, ⟨-, hlive⟩ | ⟨t', v', s', hslot'⟩⟩ := prepare_mem_step hp
      · simp [hslot] at hlive
      · obtain ⟨-, -, -, h⟩ := Slot.stopping.inj (hslot'.symm.trans hslot)
        exact Option.some.inj h
  · obtain ⟨l₁, l₂, rfl⟩ := List.mem_iff_append.1 hs
    rw [List.append_assoc, List.cons_append] at h
    obtain ⟨before, e, later, as, as', hb, has, rfl⟩ := history_eq_append_did h
    have hs : .spawn task invocation ∈ ((core.after before).step e).actions := by simp [has]
    obtain ⟨rfl, ⟨old, hslot⟩, -⟩ := spawn_mem_step hs
    rcases List.cons_eq_append_iff.1 hb with ⟨rfl, hb⟩ | ⟨before, rfl, rfl⟩
    · cases (List.cons.inj hb).1
    · obtain ⟨t, v, s, hslot'⟩ := awaits_of_nonePrepared force valid
        (fun e he => hes e (List.mem_append_left _ he)) hn.of_append.1.of_append.1
      cases hslot.symm.trans hslot'

/-- A request that waits already gives way to a newer one, which is prepared once the process is
gone. -/
theorem newest_forced_request_wins_stopping :
    let core : Core := ⟨.stopping ⟨1⟩ .build none (some ⟨.check, [], true⟩), ⟨2⟩, none, true⟩
    let request : Request := ⟨.test, ["-q"], true⟩
    let es : List Event := [.runRequested ⟨.doc, [], false⟩, .prepareFailed ⟨2⟩ "late",
      .process ⟨⟨1⟩, ⟨5⟩, .started none⟩, .process ⟨⟨1⟩, ⟨9⟩, .exited none⟩]
    (∀ e ∈ es, e.overrules = false) ∧
      (∃ l, core.history (.runRequested request :: es) =
        l ++ .did (.prepare ⟨2⟩ request) :: [] ∧ ∀ task i, .did (.spawn task i) ∉ l) ∧
      .did (.prepare ⟨2⟩ ⟨.check, [], true⟩) ∉ core.history (.runRequested request :: es) := by
  intro core request es
  have hes : ∀ e ∈ es, e.overrules = false := by simp [es, Event.overrules]
  have hwins := @newest_forced_request_wins core request es rfl rfl hes
  refine ⟨hes, ⟨(.runRequested request :: es).map .fed ++ [.did (.setBusy false),
    .did (.announceFinish ⟨1⟩ .build .cancelled (elapsed (some ⟨5⟩) ⟨9⟩))], rfl, ?_⟩, fun h => ?_⟩
  · exact hwins.2.1 _ _ rfl (by simp [NonePrepared])
  · simpa [request, es] using hwins.2.2 _ _ h

end Core

end BuildRunner
