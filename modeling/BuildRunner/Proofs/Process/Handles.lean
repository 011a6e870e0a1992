import BuildRunner.Process.Fleet
import BuildRunner.Proofs.Process.Supervision
import Mathlib.Data.List.Nodup

/-!
Handles that are held on processes. What is known of them (`Fleet.Held`) is kept by every move: on a
process that is not over just one handle is held, through which it is told to end once; and the
handles that are let go are those of processes that are over.
-/

namespace BuildRunner

namespace Supervisor

variable {v : Supervisor}

/-- What is over stays over. -/
lemma finished_step (h : v.state = .finished) (i : Input) : (v.step i).1.state = .finished := by
  simpa [run] using (run_finished h [i]).1

/-- Only a process that is watched can be told to end. -/
lemma step_kill_of_ne_watching (h : v.state ≠ .watching) : (v.step .kill).1 = v := by
  unfold step
  split <;> simp_all

lemma ne_watching_step (h : v.state ≠ .watching) (i : Input) : (v.step i).1.state ≠ .watching := by
  obtain ⟨ends, -, hturns⟩ := turns_step v i
  cases hturns with
  | stays hsame => exact hsame ▸ h
  | told _ _ hbehind => simp [hbehind]
  | drains _ _ hbehind => simp [hbehind]
  | reaped _ _ hbehind => simp [hbehind]
  | drained _ hbehind => simp [hbehind]

lemma ne_watching_step_kill (v : Supervisor) : (v.step .kill).1.state ≠ .watching := by
  by_cases h : v.state = .watching
  · simp [step, h]
  · rwa [step_kill_of_ne_watching h]

lemma finished_step_kill : (v.step .kill).1.state = .finished ↔ v.state = .finished := by
  by_cases h : v.state = .watching
  · simp [step, h]
  · rw [step_kill_of_ne_watching h]

end Supervisor

/-! ### Handles -/

namespace Backend

variable {b : Backend} {task : TaskId} {isUp : Bool} {h : Handle} {v : Supervisor}

/-- The tasks whose handles are held. -/
def tasks (b : Backend) : List TaskId := b.handles.map (·.task)

lemma mem_tasks : task ∈ b.tasks ↔ ∃ h ∈ b.handles, h.task = task := List.mem_map

lemma mem_spawn : h ∈ (b.spawn task isUp).1.handles ↔
    isUp = true ∧ h = .fresh task ∨
      h ∈ b.handles ∧ (isUp = true → h.task ≠ task) ∧ h.finished = false := by
  cases isUp <;> simp [spawn]

/-- The handles that are let go when a process is started. -/
lemma mem_letGo : h ∈ (b.spawn task isUp).2 ↔
    h ∈ b.handles ∧ (h.finished = true ∨ isUp = true ∧ h.task = task) := by
  cases isUp <;> cases hfinished : h.finished <;> simp [spawn, hfinished]

lemma mem_kill : h ∈ (b.kill task).1.handles ↔
    ∃ k ∈ b.handles, h = { k with asked := k.asked || k.task = task } := by
  simp only [kill, Handle.kill, List.mem_map, eq_comm (b := h)]
  refine exists_congr fun k => and_congr_right fun _ => ?_
  by_cases hk : k.task = task <;> simp [hk]

lemma mem_note : h ∈ (b.note task v).handles ↔
    ∃ k ∈ b.handles, h =
      { k with finished := k.finished || (k.task = task && v.state = .finished) } := by
  unfold note
  split
  case isTrue hv =>
    simp only [finish, Handle.finish, List.mem_map, eq_comm (b := h)]
    refine exists_congr fun k => and_congr_right fun _ => ?_
    by_cases hk : k.task = task <;> simp [hk, hv]
  case isFalse hv => simp [hv]

/-- The handles after a process was started whose supervision may be over at once. -/
lemma mem_note_spawn : h ∈ ((b.spawn task true).1.note task v).handles ↔
    h = { Handle.fresh task with finished := v.state = .finished } ∨
      h ∈ b.handles ∧ h.task ≠ task ∧ h.finished = false := by
  rw [mem_note]
  constructor
  · rintro ⟨k, hk, rfl⟩
    obtain ⟨-, rfl⟩ | ⟨hmem, hne, hfinished⟩ := mem_spawn.1 hk
    · exact .inl (by simp [Handle.fresh])
    · exact .inr (by simpa [hne rfl] using ⟨hmem, hfinished⟩)
  · rintro (rfl | ⟨hmem, hne, hfinished⟩)
    · exact ⟨_, mem_spawn.2 (.inl ⟨rfl, rfl⟩), by simp [Handle.fresh]⟩
    · exact ⟨h, mem_spawn.2 (.inr ⟨hmem, fun _ => hne, hfinished⟩), by simp [hne]⟩

lemma nodup_spawn (hnodup : b.tasks.Nodup) : (b.spawn task isUp).1.tasks.Nodup := by
  have hrest : ((b.handles.filter fun h => !h.finished).map (·.task)).Nodup :=
    hnodup.sublist (List.filter_sublist.map _)
  cases isUp with
  | false => exact hrest
  | true =>
    refine List.nodup_cons.2 ⟨fun hmem => ?_, hrest.sublist (List.filter_sublist.map _)⟩
    obtain ⟨h, hh, htask⟩ := List.mem_map.1 hmem
    exact of_decide_eq_true (List.mem_filter.1 hh).2 htask

lemma tasks_map {change : Handle → Handle} (h : ∀ k, (change k).task = k.task) :
    Backend.tasks ⟨b.handles.map change⟩ = b.tasks := by
  rw [tasks, List.map_map]
  exact List.map_congr_left fun k _ => h k

lemma tasks_kill : (b.kill task).1.tasks = b.tasks := by
  refine tasks_map fun k => ?_
  split <;> rfl

lemma tasks_note : (b.note task v).tasks = b.tasks := by
  unfold note
  split
  case isTrue =>
    refine tasks_map fun k => ?_
    split <;> rfl
  case isFalse => rfl

lemma find?_eq_some_iff (hnodup : b.tasks.Nodup) :
    b.find? task = some h ↔ h ∈ b.handles ∧ h.task = task := by
  constructor
  · intro hfind
    exact ⟨List.mem_of_find?_eq_some hfind, by simpa using List.find?_some hfind⟩
  · rintro ⟨hmem, rfl⟩
    rcases hfind : b.find? h.task with _ | k
    · exact absurd (decide_eq_true rfl) (List.find?_eq_none.1 hfind h hmem)
    · have htask : k.task = h.task := by simpa using List.find?_some hfind
      rw [List.inj_on_of_nodup_map hnodup (List.mem_of_find?_eq_some hfind) hmem htask]

/-- A request gets through when a handle is held, nobody has asked through it, and it does not know
of the end of its process. -/
lemma reached_kill (hnodup : b.tasks.Nodup) : (b.kill task).2 = true ↔
    ∃ h ∈ b.handles, h.task = task ∧ h.asked = false ∧ h.finished = false := by
  have hreached : (b.kill task).2 = true ↔ ∃ h, b.find? task = some h ∧ h.kill.2 = true := by
    simp only [kill]
    cases b.find? task <;> simp
  rw [hreached]
  refine exists_congr fun h => ?_
  rw [find?_eq_some_iff hnodup, and_assoc]
  simp [Handle.kill]

end Backend

/-! ### Processes -/

namespace Fleet

variable {f : Fleet} {task other : TaskId} {v : Supervisor} {i : Supervisor.Input}

lemma isLive_iff : f.isLive task = true ↔ ∃ v, f.process? task = some v ∧ v.state ≠ .finished := by
  simp [isLive, Option.any_eq_true]

lemma isLive_iff_of_process? (h : f.process? task = some v) :
    f.isLive task = true ↔ v.state ≠ .finished := by
  simp [isLive, h]

lemma lookup_fed (tasks : List TaskId) : (f.fed tasks i).lookup task =
    if task ∈ tasks then (f.process? task).map fun v => (v.step i).1 else f.process? task := by
  unfold fed process?
  induction f.processes with
  | nil => simp
  | cons p ps ih =>
    obtain ⟨t, v⟩ := p
    by_cases ht : task = t
    · subst ht
      by_cases hmem : task ∈ tasks <;> simp [hmem]
    · have hne : (task == t) = false := by simpa using ht
      by_cases hmem : t ∈ tasks <;> simp [hmem, hne, ih, List.lookup_cons]

lemma process?_around {outside : i ≠ .kill} :
    (f.step (.around task i outside)).process? other =
      if task = other then (f.process? other).map fun v => (v.step i).1 else f.process? other := by
  show (f.fed [task] i).lookup other = _
  rw [lookup_fed]
  simp only [List.mem_singleton, eq_comm]

section Moved

variable {g : Fleet} (h : g.process? other =
  if task = other then (f.process? other).map fun v => (v.step i).1 else f.process? other)

include h

lemma exists_process?_of_moved (hv : g.process? other = some v) :
    ∃ w, f.process? other = some w := by
  rw [h] at hv
  split at hv
  case isTrue =>
    obtain ⟨w, hw, -⟩ := Option.map_eq_some_iff.1 hv
    exact ⟨w, hw⟩
  case isFalse => exact ⟨v, hv⟩

/-- A process that is not over was not over before. -/
lemma isLive_of_moved (hlive : g.isLive other = true) : f.isLive other = true := by
  obtain ⟨v, hv, hstate⟩ := isLive_iff.1 hlive
  rw [h] at hv
  split at hv
  case isTrue =>
    obtain ⟨w, hw, rfl⟩ := Option.map_eq_some_iff.1 hv
    exact isLive_iff.2 ⟨w, hw, fun hover => hstate (Supervisor.finished_step hover i)⟩
  case isFalse => exact isLive_iff.2 ⟨v, hv, hstate⟩

end Moved

namespace Move

/-- The task that is started by a move, or is to be. -/
def spawned? : Move → Option TaskId
  | .spawn task _ => some task
  | _ => none

/-- The task whose process is started by a move. -/
def started? : Move → Option TaskId
  | .spawn task (some _) => some task
  | _ => none

/-- What a move is for the process of a task. -/
def input? (task : TaskId) : Move → Option Supervisor.Input
  | .kill t => if t = task then some .kill else none
  | .around t i _ => if t = task then some i else none
  | .spawn .. => none

end Move

/-- The tasks whose processes are not over when a move tells them to end. -/
def received (f : Fleet) (m : Move) : List TaskId := (f.told m).filter f.isLive

/-- The task whose request to end gets through, as its answer says. -/
def answered (f : Fleet) : Move → List TaskId
  | .kill task => if (f.backend.kill task).2 then [task] else []
  | _ => []

lemma mem_answered {t : TaskId} :
    t ∈ f.answered (.kill task) ↔ (f.backend.kill task).2 = true ∧ t = task := by
  rw [answered]
  split <;> simp_all

/-- **What is known of processes and handles** when some tasks have received a request to end and
some were started. -/
structure Held (requests started : List TaskId) (f : Fleet) : Prop where
  /-- No more than one handle is held on a process. -/
  nodup : f.backend.tasks.Nodup
  /-- A handle knows when its process is over; once somebody has asked through it the process is not
  just watched. -/
  process : ∀ h ∈ f.backend.handles, ∃ v, f.process? h.task = some v ∧
    (h.finished = true ↔ v.state = .finished) ∧ (h.asked = true → v.state ≠ .watching)
  /-- As long as a process is not over, a handle is held on it. -/
  handle : ∀ {task}, f.isLive task = true → task ∈ f.backend.tasks
  asked : ∀ h ∈ f.backend.handles, h.finished = false → (h.asked = true ↔ h.task ∈ requests)
  known : ∀ {task v}, f.process? task = some v → task ∈ started
  requested : ∀ task ∈ requests, task ∈ started
  once : requests.Nodup

namespace Held

variable {requests started : List TaskId} {m : Move} {heard : Option Bool}

lemma empty : Held [] [] empty where
  nodup := List.nodup_nil
  process h hh := by cases hh
  handle h := by cases h
  asked h hh := by cases hh
  known h := by cases h
  requested _ h := by cases h
  once := List.nodup_nil

lemma process?_of_notMem (h : Held requests started f) (hfresh : task ∉ started) :
    f.process? task = none := by
  rcases hv : f.process? task with _ | v
  · rfl
  · exact absurd (h.known hv) hfresh

lemma isLive_iff_finished (h : Held requests started f) {k : Handle} (hk : k ∈ f.backend.handles) :
    f.isLive k.task = true ↔ k.finished = false := by
  obtain ⟨v, hv, hfinished, -⟩ := h.process k hk
  rw [isLive_iff_of_process? hv, ← Bool.not_eq_true, hfinished]

/-- **A request gets through to a process that is not over**, unless it has received one. -/
lemma reached_iff (h : Held requests started f) : (f.backend.kill task).2 = true ↔
    f.isLive task = true ∧ task ∉ requests := by
  rw [Backend.reached_kill h.nodup]
  constructor
  · rintro ⟨k, hk, rfl, hasked, hfinished⟩
    refine ⟨(h.isLive_iff_finished hk).2 hfinished, fun hmem => ?_⟩
    have := (h.asked k hk hfinished).2 hmem
    simp [hasked] at this
  · rintro ⟨hlive, hmem⟩
    obtain ⟨k, hk, rfl⟩ := Backend.mem_tasks.1 (h.handle hlive)
    have hfinished := (h.isLive_iff_finished hk).1 hlive
    refine ⟨k, hk, rfl, ?_, hfinished⟩
    rwa [← Bool.not_eq_true, h.asked k hk hfinished]

/-- The handles that are let go when a process is started for another task are those of processes
that are over. -/
lemma told_spawn (h : Held requests started f) (hfresh : task ∉ started) :
    ∀ t ∈ f.told (.spawn task heard), ∃ v, f.process? t = some v ∧ v.state = .finished := by
  intro t ht
  simp only [told, List.mem_map, List.mem_filter, Backend.mem_letGo] at ht
  obtain ⟨k, ⟨⟨hk, hor⟩, -⟩, rfl⟩ := ht
  obtain ⟨v, hv, hfinished, -⟩ := h.process k hk
  rcases hor with hover | ⟨-, rfl⟩
  · exact ⟨v, hv, hfinished.1 hover⟩
  · exact absurd (h.known hv) hfresh

lemma received_spawn (h : Held requests started f) (hfresh : task ∉ started) :
    f.received (.spawn task heard) = [] := by
  refine List.filter_eq_nil_iff.2 fun t ht hlive => ?_
  obtain ⟨v, hv, hover⟩ := h.told_spawn hfresh t ht
  exact (isLive_iff_of_process? hv).1 hlive hover

lemma received_kill (h : Held requests started f) :
    f.received (.kill task) = f.answered (.kill task) := by
  simp only [received, told, answered]
  split
  case isTrue hreached => simp [(h.reached_iff.1 hreached).1]
  case isFalse => rfl

/-- To start a process is nothing to any other one. -/
lemma process?_spawn (h : Held requests started f) (hfresh : task ∉ started) :
    (f.step (.spawn task heard)).process? other =
      if task = other then heard.map fun b => (Supervisor.start b none).1 else f.process? other := by
  have hfed : (f.fed (f.told (.spawn task heard)) .kill).lookup other = f.process? other := by
    rw [lookup_fed]
    split
    case isTrue hmem =>
      obtain ⟨v, hv, hover⟩ := h.told_spawn hfresh other hmem
      rw [hv, Option.map_some, Supervisor.step_kill_of_ne_watching (by simp [hover])]
    case isFalse => rfl
  cases heard with
  | none =>
    refine hfed.trans ?_
    split
    case isTrue heq => rw [← heq, h.process?_of_notMem hfresh, Option.map_none]
    case isFalse => rfl
  | some b =>
    show ((task, _) :: f.fed _ .kill).lookup other = _
    rw [List.lookup_cons, hfed]
    by_cases heq : task = other
    · subst heq
      simp
    · rw [if_neg heq, beq_false_of_ne (Ne.symm heq)]

/-- A process that a request does not get through to is not just watched. -/
lemma ne_watching_of_not_reached (h : Held requests started f) (hv : f.process? task = some v)
    (hreached : (f.backend.kill task).2 ≠ true) : v.state ≠ .watching := by
  by_cases hover : v.state = .finished
  · simp [hover]
  · have hlive : f.isLive task = true := (isLive_iff_of_process? hv).2 hover
    obtain ⟨k, hk, rfl⟩ := Backend.mem_tasks.1 (h.handle hlive)
    obtain ⟨w, hw, -, hasked⟩ := h.process k hk
    obtain rfl := Option.some.inj (hv.symm.trans hw)
    have hmem : k.task ∈ requests := by
      by_contra hmem
      exact hreached (h.reached_iff.2 ⟨hlive, hmem⟩)
    exact hasked ((h.asked k hk ((h.isLive_iff_finished hk).1 hlive)).2 hmem)

/-- To ask for the end of a process is nothing to any other one. -/
lemma process?_kill (h : Held requests started f) :
    (f.step (.kill task)).process? other =
      if task = other then (f.process? other).map fun v => (v.step .kill).1 else f.process? other := by
  show (f.fed (f.told (.kill task)) .kill).lookup other = _
  rw [lookup_fed, told]
  by_cases hreached : (f.backend.kill task).2 = true
  · simp only [hreached, if_true, List.mem_singleton, eq_comm]
  · -- It was asked for before, or too late: to ask again would change nothing.
    rw [if_neg hreached, if_neg List.not_mem_nil]
    split
    case isTrue heq =>
      subst heq
      rcases hv : f.process? task with _ | v
      · rfl
      · rw [Option.map_some,
          Supervisor.step_kill_of_ne_watching (h.ne_watching_of_not_reached hv hreached)]
    case isFalse => rfl

/-! ### What one move keeps -/

lemma congr {g : Fleet} (h : Held requests started f) (hbackend : g.backend = f.backend)
    (hprocess : ∀ t, g.process? t = f.process? t) : Held requests started g where
  nodup := hbackend ▸ h.nodup
  process := by simpa only [hbackend, hprocess] using h.process
  handle {task} hlive := by
    rw [hbackend]
    refine h.handle ?_
    rwa [isLive, hprocess] at hlive
  asked := hbackend ▸ h.asked
  known {task v} hv := h.known (hprocess task ▸ hv)
  requested := h.requested
  once := h.once

lemma step_spawn_failed (h : Held requests started f) (hfresh : task ∉ started) :
    Held requests started (f.step (.spawn task none)) := by
  have hsame (t : TaskId) : (f.step (.spawn task none)).process? t = f.process? t := by
    rw [h.process?_spawn hfresh]
    split
    case isTrue heq => rw [← heq, h.process?_of_notMem hfresh, Option.map_none]
    case isFalse => rfl
  have hmem {k : Handle} : k ∈ (f.step (.spawn task none)).backend.handles ↔
      k ∈ f.backend.handles ∧ k.finished = false := by
    show k ∈ (f.backend.spawn task false).1.handles ↔ _
    simp [Backend.mem_spawn]
  constructor
  case nodup => exact Backend.nodup_spawn h.nodup
  case process =>
    intro k hk
    rw [hsame]
    exact h.process k (hmem.1 hk).1
  case handle =>
    intro t hlive
    have hlive : f.isLive t = true := by rwa [isLive, hsame] at hlive
    obtain ⟨k, hk, rfl⟩ := Backend.mem_tasks.1 (h.handle hlive)
    exact Backend.mem_tasks.2 ⟨k, hmem.2 ⟨hk, (h.isLive_iff_finished hk).1 hlive⟩, rfl⟩
  case asked => exact fun k hk => h.asked k (hmem.1 hk).1
  case known =>
    intro t v hv
    exact h.known (hsame t ▸ hv)
  case requested => exact h.requested
  case once => exact h.once

lemma step_spawn {b : Bool} (h : Held requests started f) (hfresh : task ∉ started) :
    Held requests (started ++ [task]) (f.step (.spawn task (some b))) := by
  have hprocess (t : TaskId) : (f.step (.spawn task (some b))).process? t = _ :=
    h.process?_spawn hfresh
  have hmem {k : Handle} : k ∈ (f.step (.spawn task (some b))).backend.handles ↔ _ :=
    Backend.mem_note_spawn
  constructor
  case nodup =>
    show (Backend.note _ _ _).tasks.Nodup
    rw [Backend.tasks_note]
    exact Backend.nodup_spawn h.nodup
  case process =>
    intro k hk
    rw [hprocess]
    obtain rfl | ⟨hk, hne, -⟩ := hmem.1 hk
    · exact ⟨_, if_pos rfl, by simp, by simp [Handle.fresh]⟩
    · rw [if_neg hne.symm]
      exact h.process k hk
  case handle =>
    intro t hlive
    refine Backend.mem_tasks.2 ?_
    by_cases ht : task = t
    · exact ⟨_, hmem.2 (.inl rfl), ht⟩
    · have hlive : f.isLive t = true := by rwa [isLive, hprocess, if_neg ht] at hlive
      obtain ⟨k, hk, rfl⟩ := Backend.mem_tasks.1 (h.handle hlive)
      exact ⟨k, hmem.2 (.inr ⟨hk, Ne.symm ht, (h.isLive_iff_finished hk).1 hlive⟩), rfl⟩
  case asked =>
    intro k hk hfinished
    obtain rfl | ⟨hk, -⟩ := hmem.1 hk
    · have hnot : task ∉ requests := fun hreq => hfresh (h.requested task hreq)
      simp [Handle.fresh, hnot]
    · exact h.asked k hk hfinished
  case known =>
    intro t v hv
    rw [hprocess] at hv
    split at hv
    case isTrue heq => simp [heq]
    case isFalse => exact List.mem_append_left _ (h.known hv)
  case requested => exact fun t ht => List.mem_append_left _ (h.requested t ht)
  case once => exact h.once

lemma step_kill (h : Held requests started f) :
    Held (requests ++ f.answered (.kill task)) started (f.step (.kill task)) := by
  have hprocess (t : TaskId) : (f.step (.kill task)).process? t = _ := h.process?_kill
  have hmem {k : Handle} : k ∈ (f.step (.kill task)).backend.handles ↔ _ := Backend.mem_kill
  constructor
  case nodup =>
    show (f.backend.kill task).1.tasks.Nodup
    rw [Backend.tasks_kill]
    exact h.nodup
  case process =>
    intro k hk
    obtain ⟨k, hold, rfl⟩ := hmem.1 hk
    obtain ⟨v, hv, hfinished, hasked⟩ := h.process k hold
    rw [hprocess]
    by_cases htask : task = k.task
    · refine ⟨(v.step .kill).1, by simp [htask, hv], ?_, fun _ => v.ne_watching_step_kill⟩
      rw [hfinished, Supervisor.finished_step_kill]
    · exact ⟨v, by simp [htask, hv], hfinished, by simpa [Ne.symm htask] using hasked⟩
  case handle =>
    intro t hlive
    show t ∈ (f.backend.kill task).1.tasks
    rw [Backend.tasks_kill]
    exact h.handle (isLive_of_moved (hprocess t) hlive)
  case asked =>
    intro k hk hfinished
    obtain ⟨k, hold, rfl⟩ := hmem.1 hk
    simp only [Bool.or_eq_true, h.asked k hold hfinished, decide_eq_true_eq, List.mem_append,
      mem_answered]
    -- The handle is that of a live process: unless that had a request, this one gets through.
    refine or_congr_right' fun hnot => ⟨fun htask => ⟨?_, htask⟩, And.right⟩
    exact h.reached_iff.2 ⟨htask ▸ (h.isLive_iff_finished hold).2 hfinished, htask ▸ hnot⟩
  case known =>
    intro t v hv
    obtain ⟨w, hw⟩ := exists_process?_of_moved (hprocess t) hv
    exact h.known hw
  case requested =>
    intro t ht
    obtain ht | ht := List.mem_append.1 ht
    · exact h.requested t ht
    · obtain ⟨hreached, rfl⟩ := mem_answered.1 ht
      obtain ⟨v, hv, -⟩ := isLive_iff.1 (h.reached_iff.1 hreached).1
      exact h.known hv
  case once =>
    have hanswered : (f.answered (.kill task)).Nodup := by
      rw [answered]
      split <;> simp
    refine h.once.append hanswered fun t ht hanswer => ?_
    obtain ⟨hreached, rfl⟩ := mem_answered.1 hanswer
    exact (h.reached_iff.1 hreached).2 ht

lemma step_around {outside : i ≠ .kill} (h : Held requests started f) :
    Held requests started (f.step (.around task i outside)) := by
  have hprocess (t : TaskId) : (f.step (.around task i outside)).process? t = _ := process?_around
  rcases hv : f.process? task with _ | v
  · refine h.congr (by simp [step, hv]) fun t => ?_
    rw [hprocess]
    split
    case isTrue heq => rw [← heq, hv, Option.map_none]
    case isFalse => rfl
  have hbackend : (f.step (.around task i outside)).backend = f.backend.note task (v.step i).1 := by
    simp [step, hv]
  have hmem {k : Handle} : k ∈ (f.backend.note task (v.step i).1).handles ↔ _ := Backend.mem_note
  constructor
  case nodup =>
    rw [hbackend, Backend.tasks_note]
    exact h.nodup
  case process =>
    intro k hk
    obtain ⟨k, hold, rfl⟩ := hmem.1 (hbackend ▸ hk)
    obtain ⟨w, hw, hfinished, hasked⟩ := h.process k hold
    rw [hprocess]
    by_cases htask : task = k.task
    · obtain rfl := Option.some.inj (hv.symm.trans (htask ▸ hw))
      refine ⟨(v.step i).1, by simp [htask, hw], ?_, fun hk => ?_⟩
      · simp only [htask, decide_true, Bool.true_and, Bool.or_eq_true, hfinished, decide_eq_true_eq]
        exact or_iff_right_of_imp fun hover => Supervisor.finished_step hover i
      · exact Supervisor.ne_watching_step (hasked hk) i
    · exact ⟨w, by simp [htask, hw], by simpa [Ne.symm htask] using hfinished, hasked⟩
  case handle =>
    intro t hlive
    rw [hbackend, Backend.tasks_note]
    exact h.handle (isLive_of_moved (hprocess t) hlive)
  case asked =>
    intro k hk hfinished
    obtain ⟨k, hold, rfl⟩ := hmem.1 (hbackend ▸ hk)
    exact h.asked k hold (Bool.or_eq_false_iff.1 hfinished).1
  case known =>
    intro t w hw
    obtain ⟨u, hu⟩ := exists_process?_of_moved (hprocess t) hw
    exact h.known hu
  case requested => exact h.requested
  case once => exact h.once

lemma received_eq (h : Held requests started f) (hfresh : ∀ t, m.spawned? = some t → t ∉ started) :
    f.received m = f.answered m := by
  cases m with
  | spawn t heard => exact h.received_spawn (hfresh t rfl)
  | kill t => exact h.received_kill
  | around t i outside => rfl

/-- What a move makes of a process that was started before it. -/
lemma process?_step (h : Held requests started f)
    (hfresh : ∀ t, m.spawned? = some t → t ∉ started) (hv : f.process? task = some v) :
    (f.step m).process? task = some (v.run (m.input? task).toList).1 := by
  cases m with
  | spawn t heard =>
    have hne : t ≠ task := fun heq => hfresh t rfl (heq ▸ h.known hv)
    rw [h.process?_spawn (hfresh t rfl), if_neg hne, hv]
    rfl
  | kill t =>
    rw [h.process?_kill, Move.input?, hv]
    split <;> rfl
  | around t i outside =>
    rw [process?_around, Move.input?, hv]
    split <;> rfl

/-- **What one move keeps**, when no process is started for a task that had one. -/
theorem step (h : Held requests started f) (hfresh : ∀ t, m.spawned? = some t → t ∉ started) :
    Held (requests ++ f.received m) (started ++ m.started?.toList) (f.step m) := by
  rw [h.received_eq hfresh]
  cases m with
  | spawn t heard =>
    cases heard with
    | none => simpa [answered, Move.started?] using h.step_spawn_failed (hfresh t rfl)
    | some b => simpa [answered, Move.started?] using h.step_spawn (hfresh t rfl)
  | kill t => simpa [Move.started?] using h.step_kill
  | around t i outside => simpa [answered, Move.started?] using h.step_around

/-- As many handles are unfinished as processes are not over. -/
theorem liveCount_eq (h : Held requests started f) (hstarted : started.Nodup) :
    f.backend.liveCount = (started.filter f.isLive).length := by
  have hnodup : ((f.backend.handles.filter fun k => !k.finished).map (·.task)).Nodup :=
    h.nodup.sublist (List.filter_sublist.map _)
  have hperm : ((f.backend.handles.filter fun k => !k.finished).map (·.task)).Perm
      (started.filter f.isLive) := by
    refine (List.perm_ext_iff_of_nodup hnodup (hstarted.filter _)).2 fun t => ?_
    simp only [List.mem_map, List.mem_filter, Bool.not_eq_true']
    constructor
    · rintro ⟨k, ⟨hk, hfinished⟩, rfl⟩
      obtain ⟨v, hv, -⟩ := h.process k hk
      exact ⟨h.known hv, (h.isLive_iff_finished hk).2 hfinished⟩
    · rintro ⟨-, hlive⟩
      obtain ⟨k, hk, rfl⟩ := Backend.mem_tasks.1 (h.handle hlive)
      exact ⟨k, ⟨hk, (h.isLive_iff_finished hk).1 hlive⟩, rfl⟩
  rw [Backend.liveCount, ← hperm.length_eq, List.length_map]

end Held

end Fleet

end BuildRunner
