import BuildRunner.Proofs.Diagnostic.Updates

/-!
Duplicates dropped. Of the diagnostics of a file that tell the same, only the first one stays: what
is published for each file is what would be if none were dropped, less those that tell what one
before them told already (`firstReports_published`). No file is missing for it, and of a diagnostic
that is dropped no display is told.
-/

namespace BuildRunner

open Mirrored (Operation)

namespace Diagnostic

/-! ### Diagnostics that tell the same -/

/-- Two diagnostics tell the same: they are as grave, and say the same of the same place. Their
codes and children do not count. -/
def TellsSame (d e : Diagnostic) : Prop :=
  d.range = e.range ∧ d.severity = e.severity ∧ d.message = e.message

instance (d e : Diagnostic) : Decidable (d.TellsSame e) :=
  inferInstanceAs (Decidable (_ ∧ _))

lemma sameReport_iff {d e : Diagnostic} : d.sameReport e = true ↔ d.TellsSame e := by
  simp [sameReport, TellsSame, and_assoc]

lemma TellsSame.trans {d e f : Diagnostic} (h : d.TellsSame e) (h' : e.TellsSame f) :
    d.TellsSame f :=
  ⟨h.1.trans h'.1, h.2.1.trans h'.2.1, h.2.2.trans h'.2.2⟩

/-! ### The first of each report -/

/-- The diagnostics of a list that tell what none before them tells, `earlier` ones included. -/
def newReports (earlier : List Diagnostic) : List Diagnostic → List Diagnostic
  | [] => []
  | d :: ds =>
    if ∃ e ∈ earlier, e.TellsSame d then newReports (earlier ++ [d]) ds
    else d :: newReports (earlier ++ [d]) ds

/-- The first diagnostic of each report in a list. -/
def firstReports (ds : List Diagnostic) : List Diagnostic := newReports [] ds

lemma newReports_concat (earlier ds : List Diagnostic) (d : Diagnostic) :
    newReports earlier (ds ++ [d]) = newReports earlier ds ++
      if ∃ e ∈ earlier ++ ds, e.TellsSame d then [] else [d] := by
  induction ds generalizing earlier with
  | nil => simp [newReports]
  | cons d' ds ih =>
    have hearlier : earlier ++ [d'] ++ ds = earlier ++ d' :: ds := by simp
    simp only [List.cons_append, newReports, ih, hearlier]
    split <;> rfl

/-- **A diagnostic at the end** is one of the first reports unless one before it tells the same. -/
lemma firstReports_concat (ds : List Diagnostic) (d : Diagnostic) :
    firstReports (ds ++ [d]) =
      firstReports ds ++ if ∃ e ∈ ds, e.TellsSame d then [] else [d] :=
  newReports_concat [] ds d

section FirstReports

variable {ds : List Diagnostic} {d : Diagnostic}

lemma firstReports_concat_of_told (h : ∃ e ∈ ds, e.TellsSame d) :
    firstReports (ds ++ [d]) = firstReports ds := by
  rw [firstReports_concat, if_pos h, List.append_nil]

lemma firstReports_concat_of_new (h : ¬ ∃ e ∈ ds, e.TellsSame d) :
    firstReports (ds ++ [d]) = firstReports ds ++ [d] := by
  rw [firstReports_concat, if_neg h]

lemma firstReports_sublist (ds : List Diagnostic) : (firstReports ds).Sublist ds := by
  induction ds using List.reverseRecOn with
  | nil => exact .slnil
  | append_singleton ds d ih =>
    rw [firstReports_concat]
    refine ih.append ?_
    split
    · exact List.nil_sublist _
    · exact .refl _

/-- What a list tells its first reports tell already. -/
lemma exists_firstReports_iff :
    (∃ e ∈ firstReports ds, e.TellsSame d) ↔ ∃ e ∈ ds, e.TellsSame d := by
  refine ⟨fun ⟨e, he, hsame⟩ => ⟨e, (firstReports_sublist ds).subset he, hsame⟩, ?_⟩
  induction ds using List.reverseRecOn with
  | nil => simp
  | append_singleton ds f ih =>
    rintro ⟨e, he, hsame⟩
    by_cases htold : ∃ e ∈ ds, e.TellsSame f
    · -- The last one did not stay, but one before it tells the same.
      rw [firstReports_concat_of_told htold]
      obtain ⟨g, hg, hgf⟩ := htold
      rcases List.mem_append.1 he with he | he
      · exact ih ⟨e, he, hsame⟩
      · obtain rfl := List.mem_singleton.1 he
        exact ih ⟨g, hg, hgf.trans hsame⟩
    · rw [firstReports_concat_of_new htold]
      rcases List.mem_append.1 he with he | he
      · obtain ⟨g, hg, hgd⟩ := ih ⟨e, he, hsame⟩
        exact ⟨g, List.mem_append_left _ hg, hgd⟩
      · exact ⟨e, List.mem_append_right _ he, hsame⟩

lemma pairwise_firstReports (ds : List Diagnostic) :
    (firstReports ds).Pairwise fun d e => ¬ d.TellsSame e := by
  induction ds using List.reverseRecOn with
  | nil => exact .nil
  | append_singleton ds d ih =>
    by_cases htold : ∃ e ∈ ds, e.TellsSame d
    · rwa [firstReports_concat_of_told htold]
    · rw [firstReports_concat_of_new htold]
      refine List.pairwise_append.2 ⟨ih, List.pairwise_singleton _ _, fun e he d' hd' hsame => ?_⟩
      obtain rfl := List.mem_singleton.1 hd'
      exact htold ⟨e, (firstReports_sublist ds).subset he, hsame⟩

end FirstReports

end Diagnostic

namespace Published

open Diagnostic (firstReports)

/-! ### What is published with and without duplicates -/

/-- **What is published without duplicates is the first reports** of what is published with them,
file by file and in the same order of files. -/
structure Thins (all once : Published) : Prop where
  keeps : all.dedupe = false
  drops : once.dedupe = true
  sorted : all.files.Sorted
  files : once.files = all.files.mapValues firstReports

namespace Thins

variable {all once : Published}

lemma forFile_eq (h : Thins all once) (file : Path) :
    once.forFile file = firstReports (all.forFile file) := by
  rw [forFile, h.files, Path.Table.get?_mapValues, forFile]
  cases all.files.get? file <;> rfl

/-- A diagnostic is dropped exactly when the file has one already that tells the same, whether or
not that one stayed. -/
lemma drops_iff (h : Thins all once) (d : Diagnostic) :
    once.Drops d ↔ ∃ e ∈ all.forFile d.path, e.TellsSame d := by
  simp only [Drops, h.drops, true_and, h.forFile_eq, Diagnostic.sameReport_iff]
  exact Diagnostic.exists_firstReports_iff

/-- A diagnostic that is dropped leaves the first reports as they are. -/
lemma add_of_drops (h : Thins all once) {d : Diagnostic} (hdrops : once.Drops d) :
    Thins (all.add d) once := by
  have htold := (h.drops_iff d).1 hdrops
  refine ⟨h.keeps, h.drops, Path.Table.sorted_insert h.sorted _ _, ?_⟩
  -- The file has something already, so its first reports can be filed once more.
  have hget : (all.files.mapValues firstReports).get? d.path =
      some (firstReports (all.forFile d.path)) := by
    rw [Path.Table.get?_mapValues, forFile]
    rcases hnone : all.files.get? d.path with _ | ds
    · simp [forFile, hnone] at htold
    · rfl
  calc once.files
    _ = all.files.mapValues firstReports := h.files
    _ = (all.files.mapValues firstReports).insert d.path (firstReports (all.forFile d.path)) :=
      (Path.Table.insert_of_get? (Path.Table.sorted_mapValues _ h.sorted) hget).symm
    _ = (all.files.mapValues firstReports).insert d.path
        (firstReports (all.forFile d.path ++ [d])) := by
      rw [Diagnostic.firstReports_concat_of_told htold]
    _ = (all.add d).files.mapValues firstReports := Path.Table.insert_mapValues ..

lemma add_of_not_drops (h : Thins all once) {d : Diagnostic} (hdrops : ¬ once.Drops d) :
    Thins (all.add d) (once.add d) := by
  have hnew := mt (h.drops_iff d).2 hdrops
  refine ⟨h.keeps, h.drops, Path.Table.sorted_insert h.sorted _ _, ?_⟩
  calc (once.add d).files
    _ = once.files.insert d.path (once.forFile d.path ++ [d]) := rfl
    _ = (all.files.mapValues firstReports).insert d.path
        (firstReports (all.forFile d.path ++ [d])) := by
      rw [h.forFile_eq, h.files, Diagnostic.firstReports_concat_of_new hnew]
    _ = (all.add d).files.mapValues firstReports := Path.Table.insert_mapValues ..

theorem perform (h : Thins all once) (op : Operation) :
    Thins (all.perform op).1 (once.perform op).1 := by
  cases op with
  | publish d base =>
    have hkeeps := not_drops_of_keeps_all h.keeps (d.resolve base)
    rw [(perform_of_taken hkeeps).1]
    by_cases hdrops : once.Drops (d.resolve base)
    · rw [(perform_of_dropped hdrops).1]
      exact h.add_of_drops hdrops
    · rw [(perform_of_taken hdrops).1]
      exact h.add_of_not_drops hdrops
  | clear => exact ⟨h.keeps, h.drops, Path.Table.sorted_empty, rfl⟩

end Thins

theorem thins_after (ops : List Operation) :
    Thins ((empty false).after ops) ((empty true).after ops) := by
  induction ops using List.reverseRecOn with
  | nil => exact ⟨rfl, rfl, Path.Table.sorted_empty, rfl⟩
  | append_singleton ops op ih =>
    rw [after_concat, after_concat]
    exact ih.perform op

/-- **Of each report only the first one stays.** Whatever is published and withdrawn, let `all` be
what is published with duplicates and `once` what is without them. Both have the same files. For
each of them `all` has what came since everything was withdrawn for the last time, and `once` has of
it each diagnostic that tells what none before it told, so no two that tell the same. The next
diagnostic is always taken up by `all`; it is dropped from `once` exactly when `all` has one of its
file that tells the same. Then nothing changes and no display is told, else one is told what the
file has with the new one. -/
theorem firstReports_published (ops : List Operation) :
    let all := (empty false).after ops
    let once := (empty true).after ops
    once.files.paths = all.files.paths ∧
    (∀ file, all.forFile file = (Mirrored.sinceClear ops).filter (·.path.same file) ∧
      once.forFile file = firstReports (all.forFile file) ∧
      (once.forFile file).Pairwise fun d e => ¬ d.TellsSame e) ∧
    ∀ d base, let next := d.resolve base
      all.publish d base =
        (all.add next, some ⟨next.path, all.forFile next.path ++ [next]⟩) ∧
      once.publish d base =
        if ∃ e ∈ all.forFile next.path, e.TellsSame next then (once, none)
        else (once.add next, some ⟨next.path, once.forFile next.path ++ [next]⟩) := by
  intro all once
  have h : Thins all once := thins_after ops
  refine ⟨?paths, fun file => ⟨forFile_after ops file, h.forFile_eq file, ?distinct⟩,
    fun d base => ⟨?all, ?once⟩⟩
  case paths => rw [h.files, Path.Table.paths_mapValues]
  case distinct =>
    rw [h.forFile_eq]
    exact Diagnostic.pairwise_firstReports _
  case all => exact publish_of_taken (not_drops_of_keeps_all h.keeps _)
  case once =>
    split
    case isTrue htold => exact publish_of_dropped ((h.drops_iff _).2 htold)
    case isFalse hnew => exact publish_of_taken (mt (h.drops_iff _).1 hnew)

end Published

end BuildRunner
