import BuildRunner.Diagnostic.Published
import Mathlib.Data.List.Induction

/-!
Diagnostics published one after the other. Publishing never leaves nothing published: a diagnostic
is dropped only when one that looks like it is there. So the counts are zero only when nothing was
published.
-/

namespace BuildRunner

/-! ### Counts -/

namespace Snapshot

/-- **Counting many diagnostics** adds up how many there are of each gravity. -/
lemma foldl_count (s : Snapshot) (ds : List Diagnostic) :
    ds.foldl (fun s d => s.count d.severity) s =
      ⟨s.files, s.errors + ds.countP (·.severity = .error),
        s.warnings + ds.countP (·.severity = .warning),
        s.informational + ds.countP (·.severity.isInformational)⟩ := by
  induction ds generalizing s with
  | nil => rfl
  | cons d ds ih =>
    rw [List.foldl_cons, ih]
    cases hd : d.severity <;>
      simp [count, hd, Severity.isInformational, Nat.add_assoc, Nat.add_comm 1]

end Snapshot

namespace Published

/-- **The counts** are those of the values, in any order. -/
lemma snapshot_of_perm {p : Published} {ds : List Diagnostic} (h : p.files.values.flatten.Perm ds) :
    p.snapshot = ⟨p.files.size, ds.countP (·.severity = .error), ds.countP (·.severity = .warning),
      ds.countP (·.severity.isInformational)⟩ := by
  simp [snapshot, Snapshot.foldl_count, Snapshot.zero, h.countP_eq]

lemma files_snapshot (p : Published) : p.snapshot.files = p.files.size :=
  congrArg Snapshot.files (snapshot_of_perm (.refl _))

lemma snapshot_empty (dedupe : Bool) : (empty dedupe).snapshot = .zero := rfl

/-! ### One diagnostic -/

lemma insertInto_ne_nil {α : Type} (path : Path) (v : α) (entries : List (Path × α)) :
    Path.Table.insertInto path v entries ≠ [] := by
  rcases entries with _ | ⟨⟨q, w⟩, rest⟩
  · simp [Path.Table.insertInto]
  · unfold Path.Table.insertInto
    split <;> simp

lemma size_publish_ne_zero (p : Published) (d : Diagnostic) (base : Path) :
    (p.publish d base).1.files.size ≠ 0 := by
  intro h
  rw [Path.Table.size, List.length_eq_zero_iff] at h
  simp only [publish] at h
  split at h
  case isTrue hdup =>
    have hnone : p.files.entries = [] := h
    simp [forFile, Path.Table.get?, hnone] at hdup
  case isFalse => exact insertInto_ne_nil _ _ _ h

@[simp] lemma dedupe_publish (p : Published) (d : Diagnostic) (base : Path) :
    (p.publish d base).1.dedupe = p.dedupe := by
  unfold publish
  dsimp only
  split <;> rfl

/-! ### Many diagnostics -/

/-- What is published behind a list of diagnostics, their paths resolved against a directory. -/
def publishAll (p : Published) (base : Path) (ds : List Diagnostic) : Published :=
  ds.foldl (fun p d => (p.publish d base).1) p

@[simp] lemma publishAll_nil (p : Published) (base : Path) : p.publishAll base [] = p := rfl

lemma publishAll_append (p : Published) (base : Path) (ds ds' : List Diagnostic) :
    p.publishAll base (ds ++ ds') = (p.publishAll base ds).publishAll base ds' := by
  simp [publishAll]

lemma publishAll_concat (p : Published) (base : Path) (ds : List Diagnostic) (d : Diagnostic) :
    p.publishAll base (ds ++ [d]) = ((p.publishAll base ds).publish d base).1 := by
  simp [publishAll]

@[simp] lemma dedupe_publishAll (p : Published) (base : Path) (ds : List Diagnostic) :
    (p.publishAll base ds).dedupe = p.dedupe := by
  induction ds using List.reverseRecOn with
  | nil => rfl
  | append_singleton ds d ih => rw [publishAll_concat, dedupe_publish, ih]

/-- **Only where nothing was published the counts are zero.** -/
theorem snapshot_publishAll_eq_zero {dedupe : Bool} {base : Path} {ds : List Diagnostic} :
    ((empty dedupe).publishAll base ds).snapshot = .zero ↔ ds = [] := by
  refine ⟨fun h => ?_, fun h => h ▸ snapshot_empty dedupe⟩
  rcases List.eq_nil_or_concat ds with rfl | ⟨ds, d, rfl⟩
  · rfl
  · have hfiles := congrArg Snapshot.files h
    rw [List.concat_eq_append, publishAll_concat, files_snapshot] at hfiles
    exact absurd hfiles (size_publish_ne_zero _ d base)

end Published

end BuildRunner
