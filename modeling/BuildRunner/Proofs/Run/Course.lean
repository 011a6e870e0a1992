import BuildRunner.Proofs.Run.Closing
import BuildRunner.Proofs.Run.Moments
import BuildRunner.Run.Rehearsal

/-!
The course of a loop. Requests, reports and prepared runs reach it in any order, and its turns come
at any time. Its core goes through the steps of the events that it takes, the last of which is the
first shutdown, and what it shows of runs is what those steps show (`sound_moves`). So a loop that
is over has shown the end of every run that it showed to begin but that of the live one, whose last
report it waits for and throws away (`over_of_ended`).
-/

namespace BuildRunner

/-! ### What a session shows -/

/-- What an effect shows of runs. -/
def Effect.sign? : Effect → Option Sign
  | .notice (.started task _ _) => some (.began task)
  | .notice (.finished task _ _ _ _) => some (.over task)
  | .busy on => some (.busy on)
  | _ => none

namespace Session

section Signs

variable (clock : String) (s : Session)

lemma signs_display (updates : List Update) :
    (updates.map Effect.display).filterMap Effect.sign? = [] := by
  simp [List.filterMap_map, Function.comp_def, Effect.sign?]

lemma signs_perform (a : Action) :
    (perform clock s a).effects.filterMap Effect.sign? = a.sign?.toList := by
  cases a with
  | clearDiagnostics => exact signs_display _
  | publish d base =>
    simp only [perform]
    split
    · exact signs_display _
    · rfl
  | _ => rfl

/-- **What comes of actions shows what the actions show.** -/
theorem signs_performAll (as : List Action) :
    (performAll clock s as).effects.filterMap Effect.sign? = as.filterMap Action.sign? := by
  induction as generalizing s with
  | nil => rfl
  | cons a as ih =>
    rw [performAll_cons, Handled.append, List.filterMap_append, signs_perform, ih,
      ← List.singleton_append, List.filterMap_append]
    cases h : a.sign? <;> simp [h]

lemma signs_prepare (supports : Command → Bool) (p : Preparation)
    (cwd : Except DirectoryError Path) :
    (s.prepare supports p cwd).2.2.filterMap Effect.sign? = [] := by
  cases cwd with
  | error e => rfl
  | ok cwd =>
    simp [prepare, List.filterMap_map, Function.comp_def, Effect.sign?]

lemma core_prepare (supports : Command → Bool) (p : Preparation)
    (cwd : Except DirectoryError Path) : (s.prepare supports p cwd).1.core = s.core := by
  cases cwd <;> rfl

end Signs

end Session

/-! ### The moves of a loop -/

/-- What can happen to a loop. -/
inductive Move where
  /-- It does the next thing. -/
  | turn
  /-- A run is prepared, the one at a place among those that wait for it. -/
  | prepare (place : Nat)
  /-- A request is made. -/
  | submit (e : Event)
  /-- A process reports. -/
  | report (e : ProcessEvent)
  /-- The last of those who can make requests is gone. -/
  | abandon
  /-- Diagnostics are switched on or off. -/
  | enable (on : Bool)
  /-- Time passes. -/
  | wait (ms : Nat)

namespace Rehearsal

/-- The loop takes no more events. -/
def closed (r : Rehearsal) : Bool := r.ended || r.closing.isSome

/-- The event that the next turn takes, if it takes one. -/
def taken? (r : Rehearsal) : Option Event :=
  if r.closed then none
  else match r.requests with
    | e :: _ => some e
    | [] =>
      if r.abandoned then some .shutdownRequested
      else match r.prepared with
        | e :: _ => some e
        | [] => r.reports.head?.map .process

/-- The loop behind a move, and what it did. -/
def move (r : Rehearsal) : Move → Rehearsal × List Effect
  | .turn => r.turn.getD (r, [])
  | .prepare place =>
    match r.preparations[place]? with
    | none => (r, [])
    | some p => r.prepare p (r.preparations.eraseIdx place)
  | .submit e => ((r.submit e).toOption.getD r, [])
  | .report e => (r.report e, [])
  | .abandon => ({ r with abandoned := true }, [])
  | .enable on => ({ r with session := { r.session with enabled := on } }, [])
  | .wait ms => (r.advance ms, [])

/-- The event that a move makes the loop take. -/
def event? (r : Rehearsal) : Move → Option Event
  | .turn => r.taken?
  | _ => none

end Rehearsal

/-- A loop with all that it did and all the events that it took. -/
structure Course where
  rehearsal : Rehearsal
  effects : List Effect
  events : List Event

namespace Course

/-- The course before the first move. -/
def start (c : Config) (enabled : Bool) (script : Script) : Course :=
  ⟨.new (.new c enabled) script, [], []⟩

/-- The course behind a move. -/
def move (course : Course) (m : Move) : Course :=
  let (r, effects) := course.rehearsal.move m
  ⟨r, course.effects ++ effects, course.events ++ (course.rehearsal.event? m).toList⟩

/-- The course behind a list of moves. -/
def moves (course : Course) (ms : List Move) : Course := ms.foldl move course

/-- What was shown of runs, in order. -/
def signs (course : Course) : List Sign := course.effects.filterMap Effect.sign?

/-- The task whose process may report. -/
def liveTask (course : Course) : Option TaskId := course.rehearsal.session.core.slot.liveTask

end Course

/-! ### What a move does -/

namespace Rehearsal

/-- **The loop took an event**: its core made the step, it showed of runs what the step shows, and
it is closed when the session does not go on. -/
structure Takes (r : Rehearsal) (e : Event) (o : Rehearsal × List Effect) : Prop where
  opened : r.closed = false
  core : o.1.session.core = (r.session.core.step e).core
  signs : o.2.filterMap Effect.sign? = (r.session.core.step e).actions.filterMap Action.sign?
  closed : o.1.closed = !(r.session.core.step e).keepRunning

/-- **The loop took no event**: it showed nothing of runs, and is closed when it was. -/
structure Passes (r : Rehearsal) (o : Rehearsal × List Effect) : Prop where
  core : o.1.session.core = r.session.core
  signs : o.2.filterMap Effect.sign? = []
  closed : o.1.closed = r.closed

section Move

variable (r : Rehearsal)

lemma closed_eq_false : r.closed = false ↔ r.ended = false ∧ r.closing = none := by
  simp [closed]

/-- The script answers to an effect with reports alone. -/
lemma react_eq (effect : Effect) :
    (r.react effect).session = r.session ∧ (r.react effect).closing = r.closing ∧
      (r.react effect).ended = r.ended := by
  cases effect with
  | kill task =>
    simp only [react]
    split <;> exact ⟨rfl, rfl, rfl⟩
  | _ => exact ⟨rfl, rfl, rfl⟩

lemma foldl_react_eq (effects : List Effect) :
    (effects.foldl react r).session = r.session ∧ (effects.foldl react r).closing = r.closing ∧
      (effects.foldl react r).ended = r.ended := by
  induction effects generalizing r with
  | nil => exact ⟨rfl, rfl, rfl⟩
  | cons effect effects ih =>
    obtain ⟨hsession, hclosing, hended⟩ := ih (r.react effect)
    obtain ⟨hsession', hclosing', hended'⟩ := r.react_eq effect
    exact ⟨hsession.trans hsession', hclosing.trans hclosing', hended.trans hended'⟩

/-- An event is handled with a step of the core, whatever else is left to take. -/
lemma takes_handle (r' : Rehearsal) (hsession : r'.session = r.session) (h : r.closed = false)
    (h' : r'.closed = false) (e : Event) : r.Takes e (r'.handle e) := by
  obtain ⟨hended, hclosing⟩ := r'.closed_eq_false.1 h'
  suffices ht : r'.Takes e (r'.handle e) by
    obtain ⟨-, hcore, hsigns, hclosed⟩ := ht
    rw [hsession] at hcore hsigns hclosed
    exact ⟨h, hcore, hsigns, hclosed⟩
  refine ⟨h', ?_, Session.signs_performAll _ _ _, ?_⟩
  · have hcore : (r'.session.handle timeOfDay e).1.session.core =
        (r'.session.core.step e).core := by
      simp [Session.handle, Session.session_performAll]
    rw [← hcore]
    simp only [handle]
    split
    · rw [(foldl_react_eq _ _).1]
    · split <;> exact congrArg Session.core (foldl_react_eq _ _).1
  · -- a session that does not go on ends the loop, or has it wait for the live task
    rcases hgo : (r'.session.core.step e).keepRunning with _ | _
    · simp only [handle, Session.handle, hgo]
      split
      case isTrue h => cases h
      case isFalse => split <;> simp [closed]
    · simp only [handle, Session.handle, hgo, if_true]
      refine (closed_eq_false _).2 ⟨?_, ?_⟩
      · exact (foldl_react_eq _ _).2.2.trans hended
      · exact (foldl_react_eq _ _).2.1.trans hclosing

lemma passes_prepare (p : Preparation) (rest : List Preparation) : r.Passes (r.prepare p rest) :=
  ⟨Session.core_prepare _ _ _ _, Session.signs_prepare _ _ _ _, rfl⟩

lemma passes_idle : r.Passes (r.idle.getD (r, [])) := by
  unfold idle
  split
  · exact ⟨rfl, rfl, rfl⟩
  · exact r.passes_prepare _ _

/-- A turn takes the event that is next, or passes when there is none. -/
lemma turn_cases :
    (∃ e, r.taken? = some e ∧ r.Takes e (r.turn.getD (r, []))) ∨
      r.taken? = none ∧ r.Passes (r.turn.getD (r, [])) := by
  have hopen : ¬ r.ended = true → r.closing = none → r.closed = false :=
    fun hended hclosing => r.closed_eq_false.2 ⟨by simpa using hended, hclosing⟩
  -- the cases of a turn: over, closing with or without a report, and one for each queue
  fun_cases turn r
  case case1 hended => exact .inr ⟨by simp [taken?, closed, hended], r.passes_idle⟩
  case case2 hended task deadline hclosing hr =>
    exact .inr ⟨by simp [taken?, closed, hclosing], r.passes_idle⟩
  case case3 hended task deadline hclosing e rest hr isLast =>
    exact .inr ⟨by simp [taken?, closed, hclosing], rfl, rfl, by simp [closed, hclosing]⟩
  case case4 hended hclosing e rest hq =>
    have h := hopen hended hclosing
    exact .inl ⟨e, by simp [taken?, h, hq], r.takes_handle { r with requests := rest } rfl h h e⟩
  case case5 hended hclosing hq ha =>
    have h := hopen hended hclosing
    exact .inl ⟨.shutdownRequested, by simp [taken?, h, hq, ha], r.takes_handle r rfl h h _⟩
  case case6 hended hclosing hq ha e rest hp =>
    have h := hopen hended hclosing
    exact .inl ⟨e, by simp [taken?, h, hq, ha, hp],
      r.takes_handle { r with prepared := rest } rfl h h e⟩
  case case7 hended hclosing hq ha hp e rest hr =>
    have h := hopen hended hclosing
    exact .inl ⟨.process e, by simp [taken?, h, hq, ha, hp, hr],
      r.takes_handle { r with reports := rest } rfl h h _⟩
  case case8 hended hclosing hq ha hp hr =>
    have h := hopen hended hclosing
    exact .inr ⟨by simp [taken?, h, hq, ha, hp, hr], r.passes_idle⟩

/-- **A move takes an event or passes.** -/
theorem move_cases (m : Move) :
    (∃ e, r.event? m = some e ∧ r.Takes e (r.move m)) ∨
      r.event? m = none ∧ r.Passes (r.move m) := by
  cases m with
  | turn => exact r.turn_cases
  | prepare place =>
    refine .inr ⟨rfl, ?_⟩
    simp only [move]
    split
    · exact ⟨rfl, rfl, rfl⟩
    · exact r.passes_prepare _ _
  | submit e =>
    refine .inr ⟨rfl, ?_⟩
    simp only [move, submit]
    split <;> exact ⟨rfl, rfl, rfl⟩
  | report e =>
    refine .inr ⟨rfl, ?_⟩
    simp only [move, report]
    split <;> exact ⟨rfl, rfl, rfl⟩
  | abandon => exact .inr ⟨rfl, rfl, rfl, rfl⟩
  | enable on => exact .inr ⟨rfl, rfl, rfl, rfl⟩
  | wait ms =>
    refine .inr ⟨rfl, ?_, rfl, ?_⟩
    · simp only [move, advance]
      split <;> rfl
    · simp only [move, advance]
      split
      case h_1 hclosing => simp [closed, hclosing]
      case h_2 hclosing => simp [closed]

end Move

end Rehearsal

/-! ### The course of a loop -/

namespace Course

/-- **What is known of a course**: the core went through the steps of the events taken, and showed
what they show; the loop is closed when the last of them, and no other, is a shutdown. -/
structure Sound (echoRendered : Bool) (course : Course) : Prop where
  core : course.rehearsal.session.core = (Core.initial echoRendered).after course.events
  signs : course.signs = Core.signs ((Core.initial echoRendered).history course.events)
  opened : course.rehearsal.closed = false → .shutdownRequested ∉ course.events
  closed : course.rehearsal.closed = true →
    ∃ before, course.events = before ++ [.shutdownRequested] ∧ .shutdownRequested ∉ before

lemma Sound.move {echoRendered : Bool} {course : Course} (h : course.Sound echoRendered)
    (m : Move) : (course.move m).Sound echoRendered := by
  rcases course.rehearsal.move_cases m with ⟨e, he, ht⟩ | ⟨he, hp⟩
  · have hevents : (course.move m).events = course.events ++ [e] := by simp [Course.move, he]
    have hnot := h.opened ht.opened
    have hgo := Core.keepRunning_step course.rehearsal.session.core e
    refine ⟨?_, ?_, fun hopen => ?_, fun hclosed => ?_⟩
    · rw [hevents, Core.after_concat, ← h.core]
      exact ht.core
    · rw [hevents, Core.history_concat, Core.signs_append, ← h.signs, ← h.core,
        Core.signs_entries, ← ht.signs]
      exact List.filterMap_append
    · have hne : e ≠ .shutdownRequested := by
        intro he
        have hopen := ht.closed.symm.trans hopen
        rw [hgo.2 he] at hopen
        cases hopen
      simp [hevents, hnot, hne.symm]
    · have he : e = .shutdownRequested := by
        have hclosed := ht.closed.symm.trans hclosed
        simpa [hgo] using hclosed
      exact ⟨course.events, he ▸ hevents, hnot⟩
  · have hevents : (course.move m).events = course.events := by simp [Course.move, he]
    refine ⟨?_, ?_, fun hopen => ?_, fun hclosed => ?_⟩
    · rw [hevents, ← h.core]
      exact hp.core
    · have hsigns : (course.move m).signs = course.signs ++ [] := by
        rw [← hp.signs]
        exact List.filterMap_append
      rw [hevents, hsigns, List.append_nil, h.signs]
    · rw [hevents]
      exact h.opened (hp.closed.symm.trans hopen)
    · rw [hevents]
      exact h.closed (hp.closed.symm.trans hclosed)

/-- **What is known of a course holds after all moves.** -/
theorem sound_moves (c : Config) (enabled : Bool) (script : Script) (ms : List Move) :
    ((start c enabled script).moves ms).Sound c.echoRendered := by
  induction ms using List.reverseRecOn with
  | nil => exact ⟨rfl, rfl, fun _ => by simp [start, moves], fun h => by cases h⟩
  | append_singleton ms m ih =>
    rw [moves, List.foldl_concat]
    exact ih.move m

/-- **What a loop that is over has shown.** It took one shutdown, as its last event. Every run that
was shown to begin was shown to be over once, and only behind that, unless its task was still live
when the loop closed: the end of that one is not shown. And the sign that a run is in progress was
left on just when there is such a run, as long as no task failed to start after it was up. -/
theorem over_of_ended (c : Config) (enabled : Bool) (script : Script) (ms : List Move)
    (h : ((start c enabled script).moves ms).rehearsal.ended = true) :
    let course := (start c enabled script).moves ms
    (∃ before, course.events = before ++ [.shutdownRequested] ∧ .shutdownRequested ∉ before) ∧
      (∀ l task l', course.signs = l ++ .began task :: l' →
        .over task ∉ l ∧ l'.count (.over task) = if course.liveTask = some task then 0 else 1) ∧
      (¬ FailsLate course.events →
        (Sign.lastBusy? course.signs = some true ↔
          ∃ task, course.liveTask = some task ∧ .began task ∈ course.signs)) := by
  intro course
  obtain ⟨hcore, hsigns, -, hclosed⟩ := sound_moves c enabled script ms
  have hlive : course.liveTask =
      ((Core.initial c.echoRendered).after course.events).slot.liveTask :=
    congrArg (fun core => core.slot.liveTask) hcore
  refine ⟨hclosed (by simp [Rehearsal.closed, h]), fun l task l' hl => ?_, fun hlate => ?_⟩
  · rw [hlive]
    exact Core.over_of_began (hsigns.symm.trans hl)
  · rw [hlive, show course.signs = _ from hsigns]
    exact Core.busy_run c.echoRendered course.events hlate

end Course

/-! ### A run cut short -/

namespace Move

/-- A build that comes up. -/
def build : List Move :=
  [.submit (.runRequested ⟨.build, [], false⟩), .turn, .turn, .turn,
    .report ⟨⟨1⟩, ⟨0⟩, .started (some 7)⟩, .turn]

/-- The build ends. -/
def exit : List Move := [.report ⟨⟨1⟩, ⟨0⟩, .exited (some 0)⟩, .turn]

/-- A shutdown, and a turn in which the loop waits for what is live. -/
def shutdown : List Move := [.submit .shutdownRequested, .turn, .turn]

end Move

/-- Whether a process is reported not to have started. -/
def Event.isFailed : Event → Bool
  | .process ⟨_, _, .failed _⟩ => true
  | _ => false

/-- A process that is told to end does so at once. -/
def Script.obedient : Script := ⟨[.ok ⟨"/work"⟩], fun _ => true, [], true⟩

namespace Course

/-- A build that ends before the shutdown is shown to be over, and the sign is off. -/
theorem over_of_ended_exit :
    let course := (start {} true .obedient).moves (Move.build ++ Move.exit ++ Move.shutdown)
    (∃ l l', course.signs = l ++ .began ⟨1⟩ :: l' ∧ l'.count (.over ⟨1⟩) = 1) ∧
      Sign.lastBusy? course.signs ≠ some true := by
  intro course
  have hended : course.rehearsal.ended = true := by decide +kernel
  have hlive : course.liveTask = none := by decide +kernel
  have hsigns : course.signs = [.busy true] ++ .began ⟨1⟩ :: [.busy false, .over ⟨1⟩] := by
    decide +kernel
  have hfails : ¬ FailsLate course.events := by
    rintro ⟨before, mid, later, task, time, pid, time', error, hes⟩
    have hall : course.events.all (!·.isFailed) = true := by decide +kernel
    have hmem : .process ⟨task, time', .failed error⟩ ∈ course.events := by simp [hes]
    have hnot := List.all_eq_true.1 hall _ hmem
    simp [Event.isFailed] at hnot
  obtain ⟨-, hover, hbusy⟩ := over_of_ended {} true .obedient _ hended
  refine ⟨⟨_, _, hsigns, ?_⟩, ?_⟩
  · have hcount := (hover _ _ _ hsigns).2
    rwa [if_neg (by rw [hlive]; simp)] at hcount
  · rw [Ne, hbusy hfails, hlive]
    simp

/-- Not every run that is shown to begin is shown to be over: the process of the build ends as soon
as the shutdown tells it to, its exit ends the loop, and nobody is told. -/
theorem over_of_ended_cutShort :
    ¬ ∀ (c : Config) (enabled : Bool) (script : Script) (ms : List Move),
      let course := (start c enabled script).moves ms
      script.exitsOnKill = true → course.rehearsal.clock ≤ Rehearsal.shutdownGrace →
        course.rehearsal.ended = true →
          (∀ l task l', course.signs = l ++ .began task :: l' → l'.count (.over task) = 1) ∧
            Sign.lastBusy? course.signs ≠ some true := by
  intro h
  have hclock : ((start {} true .obedient).moves
      (Move.build ++ Move.shutdown)).rehearsal.clock ≤ Rehearsal.shutdownGrace := by
    decide +kernel
  have hended : ((start {} true .obedient).moves
      (Move.build ++ Move.shutdown)).rehearsal.ended = true := by
    decide +kernel
  have hsigns : ((start {} true .obedient).moves (Move.build ++ Move.shutdown)).signs =
      [.busy true] ++ .began ⟨1⟩ :: [] := by
    decide +kernel
  have hover := (h _ _ _ _ rfl hclock hended).1 _ _ _ hsigns
  cases hover

end Course

end BuildRunner
