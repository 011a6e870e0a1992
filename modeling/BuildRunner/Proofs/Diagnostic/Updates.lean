import BuildRunner.Proofs.Diagnostic.Agreement

/-!
What is published behind a list of operations, the updates that tell a display of it, one after the
other, and the diagnostics that were taken up. A diagnostic is dropped exactly when duplicates are
and one that looks like it is there for its file (`publish_of_dropped`, `publish_of_taken`).
-/

namespace BuildRunner

open Mirrored (Operation)

namespace Published

/-! ### One operation -/

/-- A diagnostic would be dropped: duplicates are, and one that looks like it is there. -/
def Drops (p : Published) (d : Diagnostic) : Prop :=
  p.dedupe = true ∧ ∃ e ∈ p.forFile d.path, e.sameReport d = true

/-- What is published with one diagnostic more for its file. -/
def add (p : Published) (d : Diagnostic) : Published :=
  { p with files := p.files.insert d.path (p.forFile d.path ++ [d]) }

/-- What is published behind an operation, and the updates of it. -/
def perform (p : Published) : Operation → Published × List Update
  | .publish d base =>
    let (p, update) := p.publish d base
    (p, update.toList)
  | .clear => p.clear

/-- The diagnostics that an operation takes up. -/
def taken (p : Published) : Operation → List Diagnostic
  | .publish d base => if (p.publish d base).2.isSome then [d.resolve base] else []
  | .clear => []

section Operation

variable {p : Published} {d : Diagnostic} {base : Path}

lemma drops_iff_any :
    p.Drops d ↔ (p.dedupe && (p.forFile d.path).any (·.sameReport d)) = true := by
  simp [Drops]

/-- **A diagnostic that is dropped** changes nothing, and no display is told. -/
lemma publish_of_dropped (h : p.Drops (d.resolve base)) : p.publish d base = (p, none) := by
  rw [drops_iff_any] at h
  simp only [publish, h, if_true]

/-- **A diagnostic that is taken up** goes to the end of its file, and a display is told what is
there now. -/
lemma publish_of_taken (h : ¬ p.Drops (d.resolve base)) :
    p.publish d base = (p.add (d.resolve base),
      some ⟨(d.resolve base).path, p.forFile (d.resolve base).path ++ [d.resolve base]⟩) := by
  rw [drops_iff_any, Bool.not_eq_true] at h
  simp only [publish, h, Bool.false_eq_true, if_false]
  rfl

lemma perform_of_dropped (h : p.Drops (d.resolve base)) :
    p.perform (.publish d base) = (p, []) ∧ p.taken (.publish d base) = [] := by
  simp [perform, taken, publish_of_dropped h]

lemma perform_of_taken (h : ¬ p.Drops (d.resolve base)) :
    p.perform (.publish d base) = (p.add (d.resolve base),
        [⟨(d.resolve base).path, p.forFile (d.resolve base).path ++ [d.resolve base]⟩]) ∧
      p.taken (.publish d base) = [d.resolve base] := by
  simp [perform, taken, publish_of_taken h]

lemma not_drops_of_keeps_all (h : p.dedupe = false) (d : Diagnostic) : ¬ p.Drops d := by
  simp [Drops, h]

lemma forFile_add (p : Published) (d : Diagnostic) (file : Path) :
    (p.add d).forFile file =
      if d.path.same file then p.forFile d.path ++ [d] else p.forFile file := by
  rw [forFile, add, Path.Table.get?_insert]
  split <;> rfl

end Operation

/-! ### Many operations -/

/-- What is published behind a list of operations. -/
def after (p : Published) (ops : List Operation) : Published :=
  ops.foldl (fun p op => (p.perform op).1) p

/-- The updates of a list of operations, in order. -/
def updates (p : Published) : List Operation → List Update
  | [] => []
  | op :: ops => (p.perform op).2 ++ updates (p.perform op).1 ops

/-- The diagnostics that a list of operations takes up, in order. -/
def allTaken (p : Published) : List Operation → List Diagnostic
  | [] => []
  | op :: ops => p.taken op ++ allTaken (p.perform op).1 ops

section Operations

variable (p : Published) (ops : List Operation) (op : Operation)

lemma after_append (later : List Operation) :
    p.after (ops ++ later) = (p.after ops).after later := by
  simp [after]

lemma after_concat : p.after (ops ++ [op]) = ((p.after ops).perform op).1 := by
  simp [after]

lemma updates_concat : p.updates (ops ++ [op]) = p.updates ops ++ ((p.after ops).perform op).2 := by
  induction ops generalizing p with
  | nil => simp [updates, after]
  | cons op' ops ih =>
    rw [List.cons_append, updates, updates, ih, List.append_assoc]
    rfl

lemma allTaken_concat : p.allTaken (ops ++ [op]) = p.allTaken ops ++ (p.after ops).taken op := by
  induction ops generalizing p with
  | nil => simp [allTaken, after]
  | cons op' ops ih =>
    rw [List.cons_append, allTaken, allTaken, ih, List.append_assoc]
    rfl

end Operations

/-- Where no duplicates are dropped, what is published for a file is what came for it since
everything was withdrawn for the last time. -/
lemma forFile_after (ops : List Operation) (file : Path) :
    ((empty false).after ops).forFile file =
      (Mirrored.sinceClear ops).filter (·.path.same file) := by
  -- A display beside it makes no difference to what is published.
  have hmirrored : (Mirrored.new.run ops).published = (empty false).after ops := by
    induction ops using List.reverseRecOn with
    | nil => rfl
    | append_singleton ops op ih =>
      rw [Mirrored.run, List.foldl_concat, after_concat, ← ih]
      cases op <;> rfl
  rw [← hmirrored]
  exact (Mirrored.agrees_run ops).filed file

end Published

end BuildRunner
