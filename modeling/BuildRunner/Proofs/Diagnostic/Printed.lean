import BuildRunner.Proofs.Diagnostic.Updates

/-!
What a console prints. It is told the whole sequence of a file with each update, and counts what it
has printed of it; so each diagnostic that is taken up is printed once, when it comes, and what is
withdrawn prints nothing (`printed_eq_taken`).
-/

namespace BuildRunner

open Mirrored (Operation)

namespace Console

/-! ### One update -/

/-- How many diagnostics of a file have been printed. -/
def count (c : Console) (file : Path) : Nat := (c.printed.get? file).getD 0

/-- The index in an update of the first diagnostic that is to be printed. -/
def start (c : Console) (u : Update) : Nat :=
  if u.diagnostics.length < c.count u.path then 0 else c.count u.path

section Update

variable (c : Console) (u : Update)

lemma lines_set : (c.set u).2 = (u.diagnostics.drop (c.start u)).flatMap linesOf := rfl

lemma count_set (file : Path) :
    (c.set u).1.count file = if u.path.same file then u.diagnostics.length else c.count file := by
  have hget : (c.set u).1.printed.get? file =
      if u.path.same file then some u.diagnostics.length else c.printed.get? file :=
    Path.Table.get?_insert ..
  rw [count, hget]
  split <;> rfl

end Update

/-! ### Many updates -/

/-- The console behind updates that come one after the other, and the lines that it prints. -/
def setAll (c : Console) : List Update → Console × List String
  | [] => (c, [])
  | u :: us =>
    let (c, lines) := c.set u
    let (c, rest) := setAll c us
    (c, lines ++ rest)

/-- The updates, each with the index in it of the first diagnostic that is to be printed. -/
def starts (c : Console) : List Update → List (Nat × Update)
  | [] => []
  | u :: us => (c.start u, u) :: starts (c.set u).1 us

section Updates

variable (c : Console) (us us' : List Update)

lemma setAll_append : c.setAll (us ++ us') =
    (((c.setAll us).1.setAll us').1, (c.setAll us).2 ++ ((c.setAll us).1.setAll us').2) := by
  induction us generalizing c with
  | nil => rfl
  | cons u us ih => simp [setAll, ih]

lemma starts_append : c.starts (us ++ us') = c.starts us ++ (c.setAll us).1.starts us' := by
  induction us generalizing c with
  | nil => rfl
  | cons u us ih => simp [setAll, starts, ih]

end Updates

/-- A start lies within its update, and before the last diagnostic of it at the farthest. -/
def InBounds (s : Nat × Update) : Prop :=
  s.1 ≤ s.2.diagnostics.length ∧ s.2.diagnostics.length ≤ s.1 + 1

/-- Files that are withdrawn print nothing, and nothing is counted of them any more. -/
lemma setAll_withdrawn (c : Console) (paths : List Path) :
    (c.setAll (paths.map (Update.mk · []))).2 = [] ∧
      (∀ file, (c.setAll (paths.map (Update.mk · []))).1.count file =
        if paths.any (·.same file) then 0 else c.count file) ∧
      ∀ s ∈ c.starts (paths.map (Update.mk · [])), InBounds s := by
  induction paths generalizing c with
  | nil => simp [setAll, starts]
  | cons path paths ih =>
    obtain ⟨hlines, hcount, hstarts⟩ := ih (c.set ⟨path, []⟩).1
    refine ⟨?_, fun file => ?_, ?_⟩
    · simp [setAll, hlines, lines_set]
    · simp only [List.map_cons, setAll, hcount, count_set, List.any_cons]
      by_cases hsame : path.same file = true <;> simp [hsame]
    · rw [List.map_cons, starts, List.forall_mem_cons]
      refine ⟨?_, hstarts⟩
      simp [InBounds, start]

/-! ### A console that is told of what is published -/

/-- **What has been printed is counted**: of each file as many diagnostics as are published. -/
def Counts (c : Console) (p : Published) : Prop := ∀ file, c.count file = (p.forFile file).length

section Counts

variable {c : Console} {p : Published}

/-- The sequence of a file with one diagnostic more prints that one. -/
lemma Counts.add (h : Counts c p) (d : Diagnostic) :
    let update : Update := ⟨d.path, p.forFile d.path ++ [d]⟩
    c.start update = (p.forFile d.path).length ∧ (c.set update).2 = linesOf d ∧
      Counts (c.set update).1 (p.add d) := by
  intro update
  -- All of the file but the new one has been printed.
  have hcount : c.count update.path = (p.forFile d.path).length := h d.path
  have hstart : c.start update = (p.forFile d.path).length := by
    rw [start, hcount, if_neg (by simp [update])]
  refine ⟨hstart, ?_, fun file => ?_⟩
  · rw [lines_set, hstart, List.drop_left, List.flatMap_singleton]
  · rw [count_set, Published.forFile_add]
    split
    · rfl
    · exact h file

lemma Counts.clear (h : Counts c p) : Counts (c.setAll p.clear.2).1 p.clear.1 := by
  intro file
  have hnothing : p.clear.1.forFile file = [] := rfl
  rw [hnothing]
  refine ((setAll_withdrawn c p.files.paths).2.1 file).trans ?_
  split
  case isTrue => rfl
  case isFalse hnone =>
    -- A file that was not withdrawn had nothing published, so nothing was counted of it.
    have hget : p.files.get? file = none := by
      rw [Path.Table.get?_eq_none_iff]
      simpa using hnone
    rw [h file, Published.forFile, hget]
    rfl

/-- **An operation prints what it takes up**, and the counts stay right. -/
theorem Counts.perform (h : Counts c p) (op : Operation) :
    Counts (c.setAll (p.perform op).2).1 (p.perform op).1 ∧
      (c.setAll (p.perform op).2).2 = (p.taken op).flatMap linesOf ∧
      ∀ s ∈ c.starts (p.perform op).2, InBounds s := by
  cases op with
  | publish d base =>
    by_cases hdrops : p.Drops (d.resolve base)
    · obtain ⟨hperform, htaken⟩ := Published.perform_of_dropped hdrops
      rw [hperform, htaken]
      exact ⟨h, rfl, by simp [starts]⟩
    · obtain ⟨hperform, htaken⟩ := Published.perform_of_taken hdrops
      obtain ⟨hstart, hlines, hcounts⟩ := h.add (d.resolve base)
      rw [hperform, htaken]
      refine ⟨hcounts, ?_, ?_⟩
      · simp [setAll, hlines]
      · simp [starts, InBounds, hstart]
  | clear =>
    obtain ⟨hlines, -, hstarts⟩ := setAll_withdrawn c p.files.paths
    exact ⟨h.clear, hlines, hstarts⟩

theorem counts_updates (dedupe : Bool) (ops : List Operation) :
    let p := Published.empty dedupe
    Counts (empty.setAll (p.updates ops)).1 (p.after ops) ∧
      (empty.setAll (p.updates ops)).2 = (p.allTaken ops).flatMap linesOf ∧
      ∀ s ∈ empty.starts (p.updates ops), InBounds s := by
  intro p
  induction ops using List.reverseRecOn with
  | nil => exact ⟨fun _ => rfl, rfl, by simp [Published.updates, starts]⟩
  | append_singleton ops op ih =>
    obtain ⟨hcounts, hlines, hstarts⟩ := ih
    obtain ⟨hcounts', hlines', hstarts'⟩ := hcounts.perform op
    rw [Published.updates_concat, Published.after_concat, Published.allTaken_concat, setAll_append,
      starts_append]
    refine ⟨hcounts', ?_, ?_⟩
    · rw [hlines, hlines', List.flatMap_append]
    · rw [List.forall_mem_append]
      exact ⟨hstarts, hstarts'⟩

end Counts

/-- **Each diagnostic that is taken up is printed once**, when it comes. Whatever is published and
withdrawn, with duplicates dropped or not, a console that is told of all of it prints of each
diagnostic that was taken up its own line and behind two spaces that of each child, in the order in
which they came, and nothing else. One more diagnostic prints its own lines if it is taken up and
nothing if it is dropped, and withdrawing everything prints nothing. What is printed of an update
never starts beyond its end, and is at most its last diagnostic. -/
theorem printed_eq_taken (dedupe : Bool) (ops : List Operation) :
    let p := Published.empty dedupe
    let printed := empty.setAll (p.updates ops)
    printed.2 = ((p.allTaken ops).flatMap fun d =>
        d.line :: d.children.map fun child => "  " ++ child.line) ∧
      (∀ d base, (printed.1.setAll ((p.after ops).publish d base).2.toList).2 =
        if ((p.after ops).publish d base).2.isSome then
          (d.resolve base).line :: (d.resolve base).children.map fun child => "  " ++ child.line
        else []) ∧
      (printed.1.setAll (p.after ops).clear.2).2 = [] ∧
      ∀ s ∈ empty.starts (p.updates ops),
        s.1 ≤ s.2.diagnostics.length ∧ s.2.diagnostics.length ≤ s.1 + 1 := by
  intro p printed
  obtain ⟨hcounts, hlines, hstarts⟩ := counts_updates dedupe ops
  refine ⟨hlines, fun d base => ?_, (hcounts.perform .clear).2.1, hstarts⟩
  refine (hcounts.perform (.publish d base)).2.1.trans ?_
  rw [Published.taken]
  split
  · simp [linesOf]
  · simp

end Console

end BuildRunner
