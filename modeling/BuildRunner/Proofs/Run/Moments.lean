import BuildRunner.Proofs.Run.History
import BuildRunner.Run.Session

/-!
Runs of a session. At every moment it meets an event, with the switch for diagnostics in some
position; its core goes through the steps of the events, and what is published changes by the
actions that follow from them.
-/

namespace BuildRunner

/-- What a session meets: an event, the time of day, and the position of the switch for diagnostics
then. -/
structure Moment where
  clock : String
  enabled : Bool
  event : Event

/-- What an action does to what is published; `enabled` is the position of the switch. -/
def Action.applyTo (enabled : Bool) (p : Published) : Action → Published
  | .clearDiagnostics => p.clear.1
  | .publish diagnostic base => if enabled then (p.publish diagnostic base).1 else p
  | _ => p

/-- Whether an action neither changes what is published nor makes known that a run began. -/
def Action.isQuiet : Action → Bool
  | .clearDiagnostics => false
  | .publish _ _ => false
  | .announceStart _ _ => false
  | _ => true

/-- Nothing that follows from a step changes what is published or makes known that a run began. -/
def Step.Quiet (s : Step) : Prop := ∀ a ∈ s.actions, a.isQuiet = true

/-- What comes of one thing and then of another. -/
def Handled.append (h h' : Handled) : Handled :=
  ⟨h'.session, h.effects ++ h'.effects, h.preparations ++ h'.preparations⟩

lemma Handled.append_assoc (h h' h'' : Handled) :
    (h.append h').append h'' = h.append (h'.append h'') := by
  simp [append]

/-- What subscribers are told. -/
def Handled.notices (h : Handled) : List Notice :=
  h.effects.filterMap fun
    | .notice n => some n
    | _ => none

lemma Handled.mem_notices {h : Handled} {n : Notice} : n ∈ h.notices ↔ .notice n ∈ h.effects := by
  rw [notices, List.mem_filterMap]
  refine ⟨fun ⟨e, he, hn⟩ => ?_, fun hn => ⟨_, hn, rfl⟩⟩
  cases e <;> simp at hn
  exact hn ▸ he

namespace Session

/-- What comes of a moment. -/
def meet (s : Session) (m : Moment) : Handled :=
  (handle m.clock { s with enabled := m.enabled } m.event).1

/-- The session behind a list of moments. -/
def run (s : Session) (ms : List Moment) : Session := ms.foldl (fun s m => (s.meet m).session) s

/-! ### Actions carried out -/

section Perform

variable (clock : String) (s : Session)

@[simp] lemma performAll_nil : performAll clock s [] = ⟨s, [], []⟩ := rfl

lemma foldl_perform (h : Handled) (as : List Action) :
    as.foldl (fun h a => h.append (perform clock h.session a)) h =
      h.append (performAll clock h.session as) := by
  induction as generalizing h with
  | nil => simp [Handled.append]
  | cons a as ih =>
    have ha : performAll clock h.session (a :: as) =
        (perform clock h.session a).append
          (performAll clock (perform clock h.session a).session as) :=
      ih (perform clock h.session a)
    rw [List.foldl_cons, ih, ha, Handled.append_assoc]
    rfl

/-- Actions are carried out in order. -/
lemma performAll_cons (a : Action) (as : List Action) :
    performAll clock s (a :: as) =
      (perform clock s a).append (performAll clock (perform clock s a).session as) :=
  foldl_perform clock (perform clock s a) as

lemma session_perform (a : Action) :
    (perform clock s a).session = { s with published := a.applyTo s.enabled s.published } := by
  cases a with
  | publish d b =>
    simp only [perform, Action.applyTo]
    split <;> rfl
  | _ => rfl

/-- **Carrying out actions changes nothing of a session but what is published.** -/
theorem session_performAll (as : List Action) :
    (performAll clock s as).session =
      { s with published := as.foldl (Action.applyTo s.enabled) s.published } := by
  induction as generalizing s with
  | nil => rfl
  | cons a as ih => simp [performAll_cons, Handled.append, ih, session_perform]

/-- What comes of actions comes of one of them. -/
lemma exists_perform_of_mem_effects {as : List Action} {e : Effect}
    (h : e ∈ (performAll clock s as).effects) : ∃ a ∈ as, ∃ s, e ∈ (perform clock s a).effects := by
  induction as generalizing s with
  | nil => simp at h
  | cons a as ih =>
    rw [performAll_cons] at h
    rcases List.mem_append.1 h with h | h
    · exact ⟨a, List.mem_cons_self, s, h⟩
    · obtain ⟨b, hb, s', h⟩ := ih _ h
      exact ⟨b, List.mem_cons_of_mem _ hb, s', h⟩

end Perform

/-! ### Moments -/

section Meet

variable (s : Session) (m : Moment)

/-- A session goes through the steps of its core. -/
lemma session_meet :
    (s.meet m).session =
      { s with
        core := (s.core.step m.event).core
        enabled := m.enabled
        published :=
          (s.core.step m.event).actions.foldl (Action.applyTo m.enabled) s.published } :=
  session_performAll m.clock _ _

@[simp] lemma core_meet : (s.meet m).session.core = (s.core.step m.event).core := by
  rw [session_meet]

lemma run_concat (ms : List Moment) : s.run (ms ++ [m]) = ((s.run ms).meet m).session := by
  simp [run]

lemma core_run (ms : List Moment) : (s.run ms).core = s.core.after (ms.map (·.event)) := by
  induction ms using List.reverseRecOn with
  | nil => rfl
  | append_singleton ms m ih => simp [run_concat, Core.after_concat, ih]

end Meet

/-! ### Quiet actions -/

section Quiet

variable {clock : String} {s : Session} {as : List Action} (h : ∀ a ∈ as, a.isQuiet = true)

include h in
lemma foldl_applyTo_of_quiet (enabled : Bool) (p : Published) :
    as.foldl (Action.applyTo enabled) p = p := by
  induction as with
  | nil => rfl
  | cons a as ih =>
    have ha : a.applyTo enabled p = p := by
      cases a with
      | clearDiagnostics => simpa [Action.isQuiet] using h .clearDiagnostics
      | publish d b => simpa [Action.isQuiet] using h (.publish d b)
      | _ => rfl
    rw [List.foldl_cons, ha]
    exact ih fun a ha => h a (List.mem_cons_of_mem _ ha)

include h in
/-- What comes of quiet actions comes of one of them alone. -/
lemma mem_effects_of_quiet {e : Effect} :
    e ∈ (performAll clock s as).effects ↔ ∃ a ∈ as, e ∈ (perform clock s a).effects := by
  induction as with
  | nil => simp
  | cons a as ih =>
    have hsingle : ∀ b ∈ [a], b.isQuiet = true := by simp [h a]
    have ha : (perform clock s a).session = s := by
      rw [session_perform]
      congr
      exact foldl_applyTo_of_quiet hsingle s.enabled s.published
    simp [performAll_cons, Handled.append, ha,
      ih fun a ha => h a (List.mem_cons_of_mem _ ha)]

end Quiet

end Session

end BuildRunner
