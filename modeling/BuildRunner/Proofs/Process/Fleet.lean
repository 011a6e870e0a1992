import BuildRunner.Proofs.Process.Handles

/-!
Processes do not disturb one another. Whatever is started, told to end and comes to its end around
it, a process is told to end by its own task only, and once at most, and does what it would do by
itself; and of as many processes as are not over the handles say so.
-/

namespace BuildRunner

namespace Fleet

variable {task : TaskId}

/-! ### Runs -/

section Run

variable {ms : List Move}

lemma filterMap_concat {α β : Type*} (g : α → Option β) (as : List α) (a : α) :
    (as ++ [a]).filterMap g = as.filterMap g ++ (g a).toList := by
  rw [List.filterMap_append]
  cases hg : g a <;> simp [hg]

/-- What is read off the moves one after the other. -/
def gathered (read : Fleet → Move → List TaskId) : Fleet → List Move → List TaskId
  | _, [] => []
  | f, m :: ms => read f m ++ gathered read (f.step m) ms

/-- The tasks that have received a request to end, each as often as it has. -/
def requests (ms : List Move) : List TaskId := gathered received empty ms

/-- The tasks whose requests to end got through, as the answers say. -/
def answers (ms : List Move) : List TaskId := gathered answered empty ms

lemma after_concat (f : Fleet) (ms : List Move) (m : Move) :
    f.after (ms ++ [m]) = (f.after ms).step m := by
  rw [after, List.foldl_append]
  rfl

lemma gathered_append (read : Fleet → Move → List TaskId) (f : Fleet) (ms ns : List Move) :
    gathered read f (ms ++ ns) = gathered read f ms ++ gathered read (f.after ms) ns := by
  induction ms generalizing f with
  | nil => rfl
  | cons m ms ih =>
    rw [List.cons_append, gathered, gathered, ih, List.append_assoc]
    rfl

lemma gathered_concat (read : Fleet → Move → List TaskId) (f : Fleet) (ms : List Move) (m : Move) :
    gathered read f (ms ++ [m]) = gathered read f ms ++ read (f.after ms) m := by
  rw [gathered_append, gathered, gathered, List.append_nil]

/-- The tasks that are started are among those that were to be. -/
lemma started_sublist (ms : List Move) :
    (ms.filterMap Move.started?).Sublist (ms.filterMap Move.spawned?) := by
  induction ms with
  | nil => exact .slnil
  | cons m ms ih =>
    cases m with
    | spawn t heard =>
      cases heard with
      | none => exact ih.cons t
      | some b => exact ih.cons_cons t
    | kill t => exact ih
    | around t i outside => exact ih

/-- A task that is to be started once has not been started before. -/
lemma fresh_of_nodup {before behind : List Move} {m : Move}
    (h : ((before ++ m :: behind).filterMap Move.spawned?).Nodup) :
    ∀ t, m.spawned? = some t → t ∉ before.filterMap Move.started? := by
  intro t hm hmem
  have hbehind : t ∈ (m :: behind).filterMap Move.spawned? :=
    List.mem_filterMap.2 ⟨m, List.mem_cons_self, hm⟩
  rw [List.filterMap_append] at h
  exact (List.nodup_append.1 h).2.2 t ((started_sublist before).subset hmem) t hbehind rfl

lemma nodup_before {before behind : List Move}
    (h : ((before ++ behind).filterMap Move.spawned?).Nodup) :
    (before.filterMap Move.spawned?).Nodup := by
  rw [List.filterMap_append] at h
  exact h.of_append_left

/-- **What is known after any moves** that start no task twice. -/
theorem held_after (h : (ms.filterMap Move.spawned?).Nodup) :
    Held (requests ms) (ms.filterMap Move.started?) (empty.after ms) := by
  induction ms using List.reverseRecOn with
  | nil => exact .empty
  | append_singleton ms m ih =>
    rw [requests, gathered_concat, after_concat, filterMap_concat]
    exact (ih (nodup_before h)).step (fresh_of_nodup h)

lemma mem_gathered {read : Fleet → Move → List TaskId} {f : Fleet} {ms : List Move} {t : TaskId} :
    t ∈ gathered read f ms ↔ ∃ before m behind, ms = before ++ m :: behind ∧
      t ∈ read (f.after before) m := by
  induction ms generalizing f with
  | nil => simp [gathered]
  | cons n ms ih =>
    rw [gathered, List.mem_append, ih]
    constructor
    · rintro (hmem | ⟨before, m, behind, rfl, hmem⟩)
      · exact ⟨[], n, ms, rfl, hmem⟩
      · exact ⟨n :: before, m, behind, rfl, hmem⟩
    · rintro ⟨_ | ⟨k, before⟩, m, behind, heq, hmem⟩
      · obtain ⟨rfl, rfl⟩ := List.cons.inj heq
        exact .inl hmem
      · obtain ⟨rfl, rfl⟩ := List.cons.inj heq
        exact .inr ⟨before, m, behind, rfl, hmem⟩

/-- What is received is what the answers say. -/
lemma requests_eq_answers (h : (ms.filterMap Move.spawned?).Nodup) : requests ms = answers ms := by
  induction ms using List.reverseRecOn with
  | nil => rfl
  | append_singleton ms m ih =>
    have hheld := held_after (nodup_before h)
    rw [requests, answers, gathered_concat, gathered_concat, hheld.received_eq (fresh_of_nodup h)]
    congr 1
    exact ih (nodup_before h)

/-- **A request is received when it is made of a process that is not over**, and not otherwise. -/
lemma mem_requests (h : (ms.filterMap Move.spawned?).Nodup) : task ∈ requests ms ↔
    ∃ before behind, ms = before ++ .kill task :: behind ∧
      (empty.after before).isLive task = true := by
  constructor
  · intro hmem
    rw [requests_eq_answers h] at hmem
    obtain ⟨before, m, behind, rfl, hanswered⟩ := mem_gathered.1 hmem
    cases m with
    | kill t =>
      obtain ⟨hreached, rfl⟩ := mem_answered.1 hanswered
      exact ⟨before, behind, rfl, ((held_after (nodup_before h)).reached_iff.1 hreached).1⟩
    | _ => cases hanswered
  · rintro ⟨before, behind, rfl, hlive⟩
    have hheld := held_after (nodup_before h)
    rw [requests, gathered_append, gathered, ← requests]
    by_cases hmem : task ∈ requests before
    · exact List.mem_append_left _ hmem
    · refine List.mem_append_right _ (List.mem_append_left _ ?_)
      rw [hheld.received_kill]
      exact mem_answered.2 ⟨hheld.reached_iff.2 ⟨hlive, hmem⟩, rfl⟩

/-- Behind its start a process does what it would do by itself. -/
lemma process?_after {before behind : List Move} {b : Bool}
    (h : ((before ++ .spawn task (some b) :: behind).filterMap Move.spawned?).Nodup) :
    (empty.after (before ++ .spawn task (some b) :: behind)).process? task =
      some ((Supervisor.start b none).1.run (behind.filterMap (Move.input? task))).1 := by
  induction behind using List.reverseRecOn with
  | nil =>
    have hheld := held_after (nodup_before h)
    rw [after_concat, hheld.process?_spawn (fresh_of_nodup h task rfl), if_pos rfl]
    rfl
  | append_singleton behind m ih =>
    rw [← List.cons_append, ← List.append_assoc] at h ⊢
    have hheld := held_after (nodup_before h)
    rw [after_concat, hheld.process?_step (fresh_of_nodup h) (ih (nodup_before h)),
      filterMap_concat, Supervisor.run_append]

end Run

/-! ### The main statement -/

/-- **Processes are told to end by their own tasks only**, whatever is started, asked for and
happens, as long as no task is started twice. A process that is not over receives a request to end
when its own task is asked for, which no start of another one is and no handle that is let go; it
receives one at most, the first that is made while it is not over, and that is the one whose answer
says so. Behind its start it does what it would do by itself. As many handles are unfinished as
processes were started and are not over. -/
theorem kills_isolated {ms : List Move} (h : (ms.filterMap Move.spawned?).Nodup) :
    (∀ before m behind, ms = before ++ m :: behind →
      ∀ task ∈ (empty.after before).received m, m = .kill task) ∧
    (requests ms).Nodup ∧ answers ms = requests ms ∧
    (∀ task, task ∈ requests ms ↔ ∃ before behind, ms = before ++ .kill task :: behind ∧
      (empty.after before).isLive task = true) ∧
    (∀ before task heard behind, ms = before ++ .spawn task (some heard) :: behind →
      (empty.after ms).process? task =
        some ((Supervisor.start heard none).1.run (behind.filterMap (Move.input? task))).1) ∧
    (empty.after ms).backend.liveCount =
      ((ms.filterMap Move.started?).filter (empty.after ms).isLive).length := by
  refine ⟨?_, (held_after h).once, (requests_eq_answers h).symm, fun _ => mem_requests h, ?_,
    (held_after h).liveCount_eq (h.sublist (started_sublist ms))⟩
  · rintro before m behind rfl task hreceived
    rw [(held_after (nodup_before h)).received_eq (fresh_of_nodup h)] at hreceived
    cases m with
    | kill t => rw [(mem_answered.1 hreceived).2]
    | _ => cases hreceived
  · rintro before task heard behind rfl
    exact process?_after h

/-- Of three processes one is told to end, twice, one comes to its end before it is told, and one goes
on. Between them there is a task whose process cannot be started, and is told to end all the same. -/
theorem kills_isolated_interleaved :
    let told : TaskId := ⟨1⟩
    let gone : TaskId := ⟨2⟩
    let absent : TaskId := ⟨3⟩
    let last : TaskId := ⟨4⟩
    let ms : List Move := [.spawn told (some true), .kill gone, .spawn gone (some true),
      .kill told, .around gone (.closed .stdout) nofun, .kill told, .around told (.ended none) nofun,
      .spawn absent none, .around gone (.closed .stderr) nofun, .kill absent,
      .around gone (.ended (some 0)) nofun, .kill gone, .spawn last (some true)]
    (ms.filterMap Move.spawned?).Nodup ∧ requests ms = [told] ∧ answers ms = [told] ∧
      (empty.after ms).isLive last = true ∧ (empty.after ms).backend.liveCount = 1 := by
  intro told gone absent last ms
  have hnodup : (ms.filterMap Move.spawned?).Nodup := by decide
  have hrequests : requests ms = [told] := by decide
  have hlive : (empty.after ms).isLive last = true := by decide
  obtain ⟨-, -, hanswers, -, -, hcount⟩ := kills_isolated hnodup
  exact ⟨hnodup, hrequests, hanswers.trans hrequests, hlive, hcount.trans (by decide)⟩

end Fleet

end BuildRunner
