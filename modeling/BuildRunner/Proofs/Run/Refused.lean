import BuildRunner.Proofs.Run.Ending

/-!
Events that come out of place: requests for a run while there is one, stops while there is none,
and reports that are stale, come too often or come too late. The core is left as it was, and nothing
follows from them but the answer to a request for a verb that is none (`refused_unchanged`). So a
run goes on in the same way when such events are struck out.
-/

namespace BuildRunner

/-- What is wrong with the verb that an event asks for, if it does and there is something. -/
def Event.fault? : Event → Option VerbError
  | .runRequested request => request.verb.fault?
  | _ => none

namespace Core

/-- **The events that come out of place**, told from the slot and the history behind it. -/
inductive OutOfPlace (h : List Entry) (slot : Slot) : Event → Prop where
  | busy {request : Request} (busy : slot ≠ .idle) (valid : request.verb.fault? = none)
    (unforced : request.force = false) : OutOfPlace h slot (.runRequested request)
  | nothingToStop (idle : slot = .idle) : OutOfPlace h slot .stopRequested
  | prepared {task : TaskId} (stale : ∀ request, slot ≠ .preparing task request)
    (invocation : Invocation) : OutOfPlace h slot (.prepared task invocation)
  | prepareFailed {task : TaskId} (stale : ∀ request, slot ≠ .preparing task request)
    (reason : String) : OutOfPlace h slot (.prepareFailed task reason)
  | foreign {e : ProcessEvent} (foreign : slot.liveTask ≠ some e.task) :
    OutOfPlace h slot (.process e)
  | startedTwice {task : TaskId} (live : slot.liveTask = some task) (up : upSince? task h ≠ none)
    (time : Instant) (pid : Option Nat) : OutOfPlace h slot (.process ⟨task, time, .started pid⟩)
  | unheard {task : TaskId} (live : slot.liveTask = some task)
    (quiet : ∀ invocation since, slot ≠ .running task invocation since) (time : Instant)
    (stream : Stream) (text : String) : OutOfPlace h slot (.process ⟨task, time, .line stream text⟩)
  | failedLate {task : TaskId} {invocation : Invocation} {since : Instant}
    (running : slot = .running task invocation since) (time : Instant) (error : StartError) :
    OutOfPlace h slot (.process ⟨task, time, .failed error⟩)

/-- **The events that are refused**: those out of place, and requests for a verb that is none. -/
def Refused (h : List Entry) (slot : Slot) (e : Event) : Prop :=
  OutOfPlace h slot e ∨ e.fault? ≠ none

/-! ### Events, some of them struck out -/

/-- The events of a list in which some are struck out, and those too. -/
def written (marked : List (Event × Bool)) : List Event := marked.map Prod.fst

/-- The events of a list in which some are struck out, but for those. -/
def kept (marked : List (Event × Bool)) : List Event :=
  (marked.filter fun x => !x.2).map Prod.fst

section Marked

variable (marked : List (Event × Bool)) (e : Event)

@[simp] lemma written_concat (struck : Bool) :
    written (marked ++ [(e, struck)]) = written marked ++ [e] := by
  simp [written]

@[simp] lemma kept_concat_struck : kept (marked ++ [(e, true)]) = kept marked := by
  simp [kept]

@[simp] lemma kept_concat : kept (marked ++ [(e, false)]) = kept marked ++ [e] := by
  simp [kept]

end Marked

/-! ### What a slot refuses -/

/-- **What a slot refuses changes nothing**, and nothing follows from it. -/
theorem step_of_refuses {core : Core} {e : Event} (h : core.slot.Refuses e) :
    core.step e = core.ignore := by
  generalize hs : core.slot = slot at h
  cases h with
  | busy busy valid unforced =>
    cases slot with
    | idle => exact absurd rfl busy
    | _ => simp only [step, onRunRequested, valid, hs, unforced]
  | nothingToStop => simp only [step, onStopRequested, hs]
  | @prepared _ task stale =>
    cases slot with
    | preparing current request =>
      have hne : current ≠ task := by
        rintro rfl
        exact stale request rfl
      simp only [step, onPrepared, hs, if_neg hne]
    | _ => simp only [step, onPrepared, hs]
  | @prepareFailed _ task stale =>
    cases slot with
    | preparing current request =>
      have hne : current ≠ task := by
        rintro rfl
        exact stale request rfl
      simp only [step, onPrepareFailed, hs, if_neg hne]
    | _ => simp only [step, onPrepareFailed, hs]
  | foreign foreign => rw [step, onProcess, if_neg (by rwa [hs])]
  | startedAgain => simp [step, onProcess, onStarted, hs]
  | startedTwice => simp [step, onProcess, onStarted, hs]
  | unheard quiet task time stream text =>
    rw [step, onProcess]
    cases slot with
    | running t i since => exact absurd rfl (quiet t i since)
    | _ =>
      simp only [onLine, hs]
      split <;> rfl
  | failedLate => simp [step, onProcess, onFailed, hs]

/-- A request for a verb that is none is answered with what is wrong, and changes nothing. -/
theorem step_of_fault {core : Core} {e : Event} {fault : VerbError} (h : e.fault? = some fault) :
    core.step e = core.goOn [.showError (Failure.message (.verb fault)),
      .announceRejected (Failure.message (.verb fault))] := by
  cases e with
  | runRequested request =>
    have hfault : request.verb.fault? = some fault := h
    simp only [step, onRunRequested, hfault]
  | _ => cases h

section Run

variable {echoRendered : Bool} {es : List Event} {e : Event}

/-- **An event comes out of place where the slot refuses it.** -/
theorem outOfPlace_iff :
    OutOfPlace ((initial echoRendered).history es) ((initial echoRendered).after es).slot e ↔
      ((initial echoRendered).after es).slot.Refuses e := by
  constructor
  · intro h
    cases h with
    | busy busy valid unforced => exact .busy busy valid unforced
    | nothingToStop idle =>
      rw [idle]
      exact .nothingToStop
    | prepared stale invocation => exact .prepared stale invocation
    | prepareFailed stale reason => exact .prepareFailed stale reason
    | foreign foreign => exact .foreign foreign
    | startedTwice live up time pid =>
      -- the slot remembers that it has come up
      rw [since?_run live] at up
      generalize ((initial echoRendered).after es).slot = slot at live up
      cases slot with
      | idle => cases live
      | preparing => cases live
      | spawning => exact absurd rfl up
      | running t i since =>
        obtain rfl := Option.some.inj live
        exact .startedAgain t i since time pid
      | stopping t verb since next =>
        obtain rfl := Option.some.inj live
        obtain ⟨since, rfl⟩ := Option.ne_none_iff_exists'.1 up
        exact .startedTwice t verb since next time pid
    | @unheard task live quiet time stream text =>
      refine .unheard (fun t invocation since hslot => ?_) task time stream text
      rw [hslot] at live
      obtain rfl := Option.some.inj live
      exact quiet invocation since hslot
    | failedLate running time error =>
      rw [running]
      exact .failedLate _ _ _ time error
  · intro h
    have hsince : ∀ task, ((initial echoRendered).after es).slot.liveTask = some task →
        upSince? task ((initial echoRendered).history es) =
          ((initial echoRendered).after es).slot.since? := fun _ => since?_run
    generalize ((initial echoRendered).after es).slot = slot at h hsince ⊢
    cases h with
    | busy busy valid unforced => exact .busy busy valid unforced
    | nothingToStop => exact .nothingToStop rfl
    | prepared stale invocation => exact .prepared stale invocation
    | prepareFailed stale reason => exact .prepareFailed stale reason
    | foreign foreign => exact .foreign foreign
    | startedAgain task invocation since time pid =>
      exact .startedTwice rfl (by simp [hsince task rfl, Slot.since?]) time pid
    | startedTwice task verb since next time pid =>
      exact .startedTwice rfl (by simp [hsince task rfl, Slot.since?]) time pid
    | unheard quiet task time stream text =>
      by_cases live : slot.liveTask = some task
      · exact .unheard live (quiet task) time stream text
      · exact .foreign live
    | failedLate task invocation since time error => exact .failedLate rfl time error

/-- **A refused event leaves the core as it was.** -/
theorem step_core_of_refused
    (h : Refused ((initial echoRendered).history es) ((initial echoRendered).after es).slot e) :
    (((initial echoRendered).after es).step e).core = (initial echoRendered).after es := by
  rcases h with h | h
  · rw [step_of_refuses (outOfPlace_iff.1 h), ignore_core]
  · obtain ⟨fault, hfault⟩ := Option.ne_none_iff_exists'.1 h
    rw [step_of_fault hfault, goOn_core]

/-- **A run goes on in the same way** when refused events are struck out of it. -/
theorem after_kept {marked : List (Event × Bool)}
    (h : ∀ before e later, marked = before ++ (e, true) :: later →
      Refused ((initial echoRendered).history (written before))
        ((initial echoRendered).after (written before)).slot e) :
    (initial echoRendered).after (kept marked) = (initial echoRendered).after (written marked) := by
  induction marked using List.reverseRecOn with
  | nil => rfl
  | append_singleton marked x ih =>
    have ih := ih fun before e later hsplit => h before e (later ++ [x]) (by simp [hsplit])
    obtain ⟨e, _ | _⟩ := x
    · rw [kept_concat, written_concat, after_concat, after_concat, ih]
    · rw [kept_concat_struck, written_concat, after_concat, ih,
        step_core_of_refused (h marked e [] rfl)]

/-! ### The main statement -/

/-- **What is refused leaves no trace.** From an event out of place nothing follows, and the core is
as it was; so it is behind a request for a verb that is none, and there follow the words to the user
and the notice of rejection, with the same reason. When such events are struck out of a run, the
steps of the others stay as they are, and so does the core in the end. -/
theorem refused_unchanged (echoRendered : Bool) :
    (∀ es e,
      OutOfPlace ((initial echoRendered).history es) ((initial echoRendered).after es).slot e →
        ((initial echoRendered).after es).step e = ⟨(initial echoRendered).after es, [], true⟩) ∧
    (∀ es e fault, e.fault? = some fault →
      let reason := Failure.message (.verb fault)
      ((initial echoRendered).after es).step e =
        ⟨(initial echoRendered).after es, [.showError reason, .announceRejected reason], true⟩) ∧
    ∀ marked : List (Event × Bool),
      (∀ before e later, marked = before ++ (e, true) :: later →
        Refused ((initial echoRendered).history (written before))
          ((initial echoRendered).after (written before)).slot e) →
      (initial echoRendered).after (kept marked) = (initial echoRendered).after (written marked) ∧
      ∀ before e later, marked = before ++ (e, false) :: later →
        ((initial echoRendered).after (kept before)).step e =
          ((initial echoRendered).after (written before)).step e := by
  refine ⟨?_, ?_, ?_⟩
  · intro es e h
    exact step_of_refuses (outOfPlace_iff.1 h)
  · intro es e fault h
    exact step_of_fault h
  · intro marked h
    refine ⟨after_kept h, fun before e later hsplit => ?_⟩
    have hbefore : (initial echoRendered).after (kept before) =
        (initial echoRendered).after (written before) :=
      after_kept fun earlier e' between hearlier =>
        h earlier e' (between ++ (e, false) :: later) (by simp [hsplit, hearlier])
    rw [hbefore]

end Run

/-- The second report that a running task is up can be struck out. -/
theorem refused_unchanged_startedTwice :
    let build : Invocation := ⟨.build, ⟨"cargo", ["build"], ⟨"/work"⟩⟩, true⟩
    let marked : List (Event × Bool) := [(.runRequested ⟨.build, [], false⟩, false),
      (.prepared ⟨1⟩ build, false), (.process ⟨⟨1⟩, ⟨0⟩, .started none⟩, false),
      (.process ⟨⟨1⟩, ⟨1⟩, .started (some 7)⟩, true),
      (.process ⟨⟨1⟩, ⟨2⟩, .exited (some 0)⟩, false)]
    (∀ before e later, marked = before ++ (e, true) :: later →
      Refused ((initial true).history (written before))
        ((initial true).after (written before)).slot e) ∧
      (initial true).after (kept marked) = (initial true).after (written marked) := by
  intro build marked
  have hrefused : ∀ before e later, marked = before ++ (e, true) :: later →
      Refused ((initial true).history (written before))
        ((initial true).after (written before)).slot e := by
    intro before e later hsplit
    rcases before with _ | ⟨_, _ | ⟨_, _ | ⟨_, _ | ⟨_, _ | ⟨_, before⟩⟩⟩⟩⟩ <;>
      simp [marked] at hsplit
    obtain ⟨rfl, rfl, rfl, rfl, -⟩ := hsplit
    exact .inl (.startedTwice rfl (by decide) ⟨1⟩ (some 7))
  exact ⟨hrefused, ((refused_unchanged true).2.2 marked hrefused).1⟩

end Core

end BuildRunner
