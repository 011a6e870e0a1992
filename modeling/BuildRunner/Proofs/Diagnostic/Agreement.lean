import BuildRunner.Diagnostic.Display
import BuildRunner.Proofs.Diagnostic.PublishAll
import BuildRunner.Proofs.Path.Table

/-!
What is published, and a display that every update goes to. Both hold the same: for each file the
diagnostics that came since the last time everything was withdrawn, in the order of their arrival,
and for no file nothing. The counts are those of all of them.
-/

namespace BuildRunner

/-- Each diagnostic has one gravity. -/
lemma countP_severity (ds : List Diagnostic) :
    ds.countP (·.severity = .error) + ds.countP (·.severity = .warning) +
      ds.countP (·.severity.isInformational) = ds.length := by
  induction ds with
  | nil => rfl
  | cons d ds ih =>
    rw [List.length_cons, ← ih]
    cases hd : d.severity <;> simp [hd, Severity.isInformational] <;> omega

/-! ### What is published and what is shown -/

/-- What is published, and a display that every update goes to. -/
structure Mirrored where
  published : Published
  shown : Shown

namespace Mirrored

/-- What can be done to it. -/
inductive Operation where
  /-- A diagnostic is published, its paths resolved against a directory. -/
  | publish (d : Diagnostic) (base : Path)
  /-- Everything is withdrawn. -/
  | clear

/-- Nothing published and nothing shown. -/
def new : Mirrored := ⟨.empty false, .empty⟩

/-- One thing done to what is published, with its updates gone to the display. -/
def step (m : Mirrored) : Operation → Mirrored
  | .publish d base =>
    let (published, update) := m.published.publish d base
    ⟨published, update.toList.foldl Shown.set m.shown⟩
  | .clear =>
    let (published, updates) := m.published.clear
    ⟨published, updates.foldl Shown.set m.shown⟩

/-- Things done one after the other. -/
def run (m : Mirrored) (ops : List Operation) : Mirrored := ops.foldl step m

/-- The diagnostics behind one more thing that is done, in the order of their arrival. -/
def Operation.arrivals (ds : List Diagnostic) : Operation → List Diagnostic
  | .publish d base => ds ++ [d.resolve base]
  | .clear => []

/-- The diagnostics that came since everything was withdrawn for the last time. -/
def sinceClear (ops : List Operation) : List Diagnostic := ops.foldl Operation.arrivals []

/-- **What is published is what is shown**, and it is what has come. -/
structure Agrees (m : Mirrored) (ds : List Diagnostic) : Prop where
  dedupe : m.published.dedupe = false
  shown : m.shown.files = m.published.files
  sorted : m.published.files.Sorted
  filed : ∀ file, m.published.forFile file = ds.filter (·.path.same file)
  nonempty : ∀ e ∈ m.published.files.entries, e.2 ≠ []
  all : m.published.files.values.flatten.Perm ds

lemma agrees_new : Agrees new [] where
  dedupe := rfl
  shown := rfl
  sorted := Path.Table.sorted_empty
  filed _ := rfl
  nonempty := by simp [new, Published.empty, Path.Table.empty]
  all := .nil

/-- A display that is told to show nothing for some files keeps what it shows for the others. -/
lemma foldl_set_withdrawn (paths : List Path) (files : Path.Table (List Diagnostic)) :
    (paths.map (Update.mk · [])).foldl Shown.set ⟨files⟩ =
      ⟨⟨files.entries.filter fun e => !paths.any e.1.same⟩⟩ := by
  induction paths generalizing files with
  | nil => simp
  | cons p paths ih =>
    have herase : Shown.set ⟨files⟩ ⟨p, []⟩ = ⟨files.erase p⟩ := rfl
    rw [List.map_cons, List.foldl_cons, herase, ih, Path.Table.erase, List.filter_filter]
    simp [Bool.and_comm]

lemma total_eq_length (s : Shown) : s.total = s.files.values.flatten.length := by
  have hfoldl (values : List (List Diagnostic)) (n : Nat) :
      values.foldl (fun n ds => n + ds.length) n = n + values.flatten.length := by
    induction values generalizing n with
    | nil => rfl
    | cons ds values ih => rw [List.foldl_cons, ih, List.flatten_cons, List.length_append, Nat.add_assoc]
  exact (hfoldl _ 0).trans (Nat.zero_add _)

namespace Agrees

variable {m : Mirrored} {ds : List Diagnostic}

/-- A diagnostic goes to the end of what is published and of what is shown for its file. -/
lemma step_publish (h : Agrees m ds) (d : Diagnostic) (base : Path) :
    let file := (d.resolve base).path
    let files := m.published.files.insert file (m.published.forFile file ++ [d.resolve base])
    m.step (.publish d base) = ⟨⟨false, files⟩, ⟨files⟩⟩ := by
  obtain ⟨⟨dedupe, files⟩, shown⟩ := m
  obtain rfl : dedupe = false := h.dedupe
  obtain rfl : shown = ⟨files⟩ := congrArg Shown.mk h.shown
  simp [step, Published.publish, Shown.set]

/-- Nothing is left of what was published and shown. -/
lemma step_clear (h : Agrees m ds) : m.step .clear = new := by
  obtain ⟨⟨dedupe, files⟩, shown⟩ := m
  obtain rfl : dedupe = false := h.dedupe
  obtain rfl : shown = ⟨files⟩ := congrArg Shown.mk h.shown
  have hnone : (files.entries.filter fun e => !files.paths.any e.1.same) = [] := by
    rw [List.filter_eq_nil_iff]
    intro e he
    have hmem : e.1 ∈ files.paths := List.mem_map_of_mem he
    simpa using ⟨e.1, hmem, Path.same_self e.1⟩
  simp only [step, Published.clear, foldl_set_withdrawn, hnone]
  rfl

/-- One diagnostic more. -/
theorem publish (h : Agrees m ds) (d : Diagnostic) (base : Path) :
    Agrees (m.step (.publish d base)) (ds ++ [d.resolve base]) := by
  rw [h.step_publish]
  set e := d.resolve base
  set files := m.published.files
  exact {
    dedupe := rfl
    shown := rfl
    sorted := Path.Table.sorted_insert h.sorted _ _
    filed := by
      intro file
      rw [List.filter_append, Published.forFile, Path.Table.get?_insert]
      by_cases hsame : e.path.same file = true
      · have hfile (d : Diagnostic) : d.path.same e.path = d.path.same file :=
          Path.same_congr hsame d.path
        simp [hsame, h.filed, hfile]
      · have hold := h.filed file
        rw [Published.forFile] at hold
        simp [hsame, hold, files]
    nonempty := by
      intro entry hentry
      rcases Path.Table.of_mem_insertInto hentry with hold | ⟨-, hvalue⟩
      · exact h.nonempty entry hold
      · simp [hvalue]
    all := by
      set old := m.published.forFile e.path
      set others := (files.erase e.path).values.flatten
      have hbefore : files.values.flatten.Perm (old ++ others) := by
        have hperm := (Path.Table.values_perm h.sorted e.path).flatten
        rw [List.flatten_append] at hperm
        cases hget : files.get? e.path <;> simpa [old, Published.forFile, files, hget] using hperm
      have hbehind : (files.insert e.path (old ++ [e])).values.flatten.Perm ((old ++ [e]) ++ others) :=
        (Path.Table.values_insert_perm h.sorted e.path _).flatten
      calc (files.insert e.path (old ++ [e])).values.flatten
        _ |>.Perm ((old ++ [e]) ++ others) := hbehind
        _ |>.Perm (e :: (old ++ others)) := by
          rw [List.append_assoc]
          exact List.perm_middle
        _ |>.Perm (e :: ds) := (hbefore.symm.trans h.all).cons e
        _ |>.Perm (ds ++ [e]) := (List.perm_append_singleton e ds).symm }

/-- One thing more that is done. -/
theorem step (h : Agrees m ds) (op : Operation) : Agrees (m.step op) (op.arrivals ds) := by
  cases op with
  | publish d base => exact h.publish d base
  | clear =>
    rw [h.step_clear]
    exact agrees_new

lemma get_eq (h : Agrees m ds) (file : Path) : m.shown.get file = m.published.forFile file := by
  rw [Shown.get, h.shown, Published.forFile]

/-- As many diagnostics are shown as have come. -/
lemma total_eq (h : Agrees m ds) : m.shown.total = ds.length := by
  rw [total_eq_length, h.shown, h.all.length_eq]

end Agrees

/-- What is published agrees with what is shown after all that is done. -/
theorem agrees_run (ops : List Operation) : Agrees (new.run ops) (sinceClear ops) := by
  induction ops using List.reverseRecOn with
  | nil => exact agrees_new
  | append_singleton ops op ih =>
    rw [run, sinceClear, List.foldl_concat, List.foldl_concat]
    exact ih.step op

/-- **What is published, what is shown and what is counted agree.** Whatever is published and
withdrawn, for each file that is published and shown which has come for it since everything was
withdrawn for the last time, in the order of its arrival; the files of both are the same, in
ascending order, and none is without a diagnostic; and the counts are those of the files that are
shown and of the diagnostics that have come, of each gravity. -/
theorem published_eq_shown (ops : List Operation) :
    let m := new.run ops
    let ds := sinceClear ops
    let counts := m.published.snapshot
    (∀ file, m.published.forFile file = ds.filter (·.path.same file) ∧
      m.shown.get file = m.published.forFile file) ∧
    m.shown.paths = m.published.files.paths ∧
    m.shown.paths.Pairwise (fun p q => p.order q = .lt) ∧
    (∀ e ∈ m.published.files.entries, e.2 ≠ []) ∧ (∀ e ∈ m.shown.files.entries, e.2 ≠ []) ∧
    counts.files = m.shown.paths.length ∧
    counts.errors = ds.countP (·.severity = .error) ∧
    counts.warnings = ds.countP (·.severity = .warning) ∧
    counts.informational = ds.countP (·.severity.isInformational) ∧
    counts.errors + counts.warnings + counts.informational = m.shown.total ∧
    m.shown.total = ds.length := by
  intro m ds counts
  have h : Agrees m ds := agrees_run ops
  have hcounts : counts = _ := Published.snapshot_of_perm h.all
  refine ⟨fun file => ⟨h.filed file, h.get_eq file⟩, ?paths, ?ascending, h.nonempty, ?shown, ?files, ?_,
    ?_, ?_, ?sum, h.total_eq⟩
  case paths => rw [Shown.paths, h.shown]
  case ascending =>
    rw [Shown.paths, h.shown]
    exact List.pairwise_map.2 h.sorted
  case shown =>
    rw [h.shown]
    exact h.nonempty
  case files =>
    rw [hcounts, Shown.paths, h.shown, Path.Table.paths, List.length_map]
    rfl
  case sum => rw [hcounts, h.total_eq, countP_severity]
  all_goals rw [hcounts]

end Mirrored

end BuildRunner
