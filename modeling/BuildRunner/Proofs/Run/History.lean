import BuildRunner.Run.Core
import Mathlib.Data.List.Induction

/-!
Runs of the core. What a run leaves behind is its history: the events that were fed to the core, each
followed by the actions that it led to.
-/

namespace BuildRunner

namespace Core

/-- An entry of a history: an event that was fed to the core, or an action that followed from it. -/
inductive Entry where
  | fed (e : Event)
  | did (a : Action)

/-- The entries of one step. -/
def entries (core : Core) (e : Event) : List Entry :=
  .fed e :: (core.step e).actions.map .did

/-- The core behind a list of events. -/
def after (core : Core) (es : List Event) : Core := es.foldl (fun core e => (core.step e).core) core

/-- The history of a list of events. -/
def history (core : Core) : List Event → List Entry
  | [] => []
  | e :: es => core.entries e ++ history (core.step e).core es

/-! ### Runs grow at their end -/

@[simp] lemma after_nil (core : Core) : core.after [] = core := rfl

lemma after_cons (core : Core) (e : Event) (es : List Event) :
    core.after (e :: es) = (core.step e).core.after es := rfl

lemma after_concat (core : Core) (es : List Event) (e : Event) :
    core.after (es ++ [e]) = ((core.after es).step e).core := by
  simp [after]

@[simp] lemma history_nil (core : Core) : core.history [] = [] := rfl

lemma history_append (core : Core) (es es' : List Event) :
    core.history (es ++ es') = core.history es ++ (core.after es).history es' := by
  induction es generalizing core with
  | nil => rfl
  | cons e es ih => simp [history, ih, after_cons]

lemma mem_history_append {core : Core} {es : List Event} {entry : Entry}
    (h : entry ∈ core.history es) (es' : List Event) : entry ∈ core.history (es ++ es') := by
  rw [history_append]
  exact List.mem_append_left _ h

lemma history_concat (core : Core) (es : List Event) (e : Event) :
    core.history (es ++ [e]) = core.history es ++ (core.after es).entries e := by
  simp [history_append, history]

@[simp] lemma did_mem_entries {core : Core} {e : Event} {a : Action} :
    .did a ∈ core.entries e ↔ a ∈ (core.step e).actions := by
  simp [entries]

@[simp] lemma fed_mem_entries {core : Core} {e e' : Event} :
    .fed e' ∈ core.entries e ↔ e' = e := by
  simp [entries]

/-! ### The actions of a history -/

/-- The action of an entry, if it is one. -/
def Entry.action? : Entry → Option Action
  | .fed _ => none
  | .did a => some a

/-- The actions of a history, in order. -/
def actionsOf (h : List Entry) : List Action := h.filterMap Entry.action?

@[simp] lemma actionsOf_nil : actionsOf [] = [] := rfl

@[simp] lemma actionsOf_append (h h' : List Entry) :
    actionsOf (h ++ h') = actionsOf h ++ actionsOf h' :=
  List.filterMap_append

@[simp] lemma actionsOf_entries (core : Core) (e : Event) :
    actionsOf (core.entries e) = (core.step e).actions := by
  rw [actionsOf, entries, List.filterMap_cons_none rfl, List.filterMap_map]
  exact List.filterMap_some

lemma mem_actionsOf {h : List Entry} {a : Action} : a ∈ actionsOf h ↔ .did a ∈ h := by
  rw [actionsOf, List.mem_filterMap]
  refine ⟨fun ⟨x, hx, hxa⟩ => ?_, fun ha => ⟨.did a, ha, rfl⟩⟩
  cases x with
  | fed e => cases hxa
  | did b =>
    obtain rfl := Option.some.inj hxa
    exact hx

/-! ### Induction over a run -/

/-- **Induction over a run**: what holds before the first event, and what each step keeps, holds of
the history and the core behind every list of events. -/
theorem run_induction {P : List Entry → Core → Prop} {core : Core} (start : P [] core)
    (step : ∀ h c e, P h c → P (h ++ c.entries e) (c.step e).core) (es : List Event) :
    P (core.history es) (core.after es) := by
  induction es using List.reverseRecOn with
  | nil => exact start
  | append_singleton es e ih =>
    rw [history_concat, after_concat]
    exact step _ _ e ih

/-! ### Where an action stands -/

/-- A place in a list that is put together from two is a place in one of them. -/
lemma append_eq_append_cons {α : Type} {xs ys l l' : List α} {x : α}
    (h : xs ++ ys = l ++ x :: l') :
    (∃ m, xs = l ++ x :: m ∧ l' = m ++ ys) ∨ ∃ m, l = xs ++ m ∧ ys = m ++ x :: l' := by
  rcases List.append_eq_append_iff.1 h with ⟨m, hl, hys⟩ | ⟨m, hxs, hl'⟩
  · exact .inr ⟨m, hl, hys⟩
  · rcases m with _ | ⟨y, m⟩
    · exact .inr ⟨[], by simpa using hxs.symm, by simpa using hl'.symm⟩
    · obtain ⟨rfl, rfl⟩ := List.cons.inj hl'
      exact .inl ⟨m, hxs, rfl⟩

/-- **An action stands behind the event that it follows from**, and the history before that is the
one of the events before. -/
theorem history_eq_append_did {core : Core} {es : List Event} {l l' : List Entry} {a : Action}
    (h : core.history es = l ++ .did a :: l') :
    ∃ before e later as as', es = before ++ e :: later ∧
      ((core.after before).step e).actions = as ++ a :: as' ∧
      l = core.history before ++ .fed e :: as.map .did := by
  induction es generalizing core l with
  | nil => simp at h
  | cons e es ih =>
    rcases append_eq_append_cons h with ⟨m, hm, -⟩ | ⟨m, rfl, hm⟩
    · rcases List.cons_eq_append_iff.1 hm with ⟨-, h⟩ | ⟨l₀, rfl, hl₀⟩
      · cases h
      · obtain ⟨as, as', has, rfl, has'⟩ := List.map_eq_append_iff.1 hl₀
        obtain ⟨b, bs, rfl, hb, -⟩ := List.map_eq_cons_iff.1 has'
        obtain rfl := Entry.did.inj hb
        exact ⟨[], e, es, as, bs, rfl, has, rfl⟩
    · obtain ⟨before, e', later, as, as', rfl, has, rfl⟩ := ih hm
      exact ⟨e :: before, e', later, as, as', rfl, has, by simp [history]⟩

/-- The actions of a history are those of its steps. -/
lemma did_mem_history {core : Core} {es : List Event} {a : Action} :
    .did a ∈ core.history es ↔ ∃ before e later, es = before ++ e :: later ∧
      a ∈ ((core.after before).step e).actions := by
  refine ⟨fun h => ?_, ?_⟩
  · obtain ⟨l, l', hl⟩ := List.mem_iff_append.1 h
    obtain ⟨before, e, later, as, as', rfl, has, -⟩ := history_eq_append_did hl
    exact ⟨before, e, later, rfl, by simp [has]⟩
  · rintro ⟨before, e, later, rfl, ha⟩
    rw [history_append]
    exact List.mem_append_right _ (List.mem_append_left _ (did_mem_entries.2 ha))

end Core

end BuildRunner
