import BuildRunner.Proofs.Diagnostic.FirstReports
import BuildRunner.Proofs.Path.Resolved

/-!
Files by their resolved paths. Resolving a diagnostic moves it and all below it to resolved paths
and changes nothing else (`at?_resolve`). What is published is filed under resolved paths, each of
which has one spelling, so all names of a file share one entry (`resolved_canonical`).
-/

namespace BuildRunner

open Mirrored (Operation)

/-! ### What stands below a diagnostic -/

namespace Diagnostic

/-- The diagnostic at an address: which child is taken on each level. -/
def at? (d : Diagnostic) : List Nat → Option Diagnostic
  | [] => some d
  | i :: address => d.children[i]?.bind fun child => child.at? address

/-- **A diagnostic moved to its resolved path**: all else is as it was, and it has as many
children. -/
structure Moved (base : Path) (d e : Diagnostic) : Prop where
  path : e.path = base.resolve d.path
  range : e.range = d.range
  severity : e.severity = d.severity
  message : e.message = d.message
  code : e.code = d.code
  children : e.children.length = d.children.length

lemma resolveAll_eq_map (base : Path) (ds : List Diagnostic) :
    resolveAll base ds = ds.map (resolve base) := by
  induction ds with
  | nil => rfl
  | cons d ds ih => rw [resolveAll, ih, List.map_cons]

lemma children_resolve (base : Path) (d : Diagnostic) :
    (d.resolve base).children = d.children.map (resolve base) := by
  cases d
  rw [resolve, children, resolveAll_eq_map, children]

lemma path_resolve (base : Path) (d : Diagnostic) :
    (d.resolve base).path = base.resolve d.path := by
  cases d
  rfl

lemma moved_resolve (base : Path) (d : Diagnostic) : Moved base d (d.resolve base) where
  path := path_resolve base d
  range := by cases d; rfl
  severity := by cases d; rfl
  message := by cases d; rfl
  code := by cases d; rfl
  children := by rw [children_resolve, List.length_map]

/-- What stands at an address is resolved where it stands. -/
theorem at?_resolve (base : Path) (d : Diagnostic) (address : List Nat) :
    (d.resolve base).at? address = (d.at? address).map (resolve base) := by
  induction address generalizing d with
  | nil => rfl
  | cons i address ih =>
    rw [at?, at?, children_resolve, List.getElem?_map]
    cases d.children[i]? with
    | none => rfl
    | some child => exact ih child

end Diagnostic

/-! ### One entry for each file -/

namespace Published

/-- **Everything is filed under its one spelling**: the entries ascend, and each path is spelled
from its components. -/
structure Filed (p : Published) : Prop where
  sorted : p.files.Sorted
  spelled : ∀ path ∈ p.files.paths, Path.ofComponents path.components = path

variable {p : Published} {base file : Path} {d d' : Diagnostic}

lemma filed_empty (dedupe : Bool) : (empty dedupe).Filed where
  sorted := Path.Table.sorted_empty
  spelled _ h := by cases h

theorem Filed.perform (h : p.Filed) (op : Operation) : (p.perform op).1.Filed := by
  cases op with
  | publish d base =>
    by_cases hdrops : p.Drops (d.resolve base)
    · rwa [(perform_of_dropped hdrops).1]
    · rw [(perform_of_taken hdrops).1]
      refine ⟨Path.Table.sorted_insert h.sorted _ _, fun path hpath => ?_⟩
      rcases Path.Table.mem_paths_insert hpath with rfl | hpath
      · rw [Diagnostic.path_resolve, Path.ofComponents_resolve]
      · exact h.spelled path hpath
  | clear => exact filed_empty p.dedupe

theorem filed_after (dedupe : Bool) (ops : List Operation) : ((empty dedupe).after ops).Filed := by
  induction ops using List.reverseRecOn with
  | nil => exact filed_empty dedupe
  | append_singleton ops op ih =>
    rw [after_concat]
    exact ih.perform op

/-- A file with an entry. -/
def Has (p : Published) (file : Path) : Prop := (p.files.get? file).isSome = true

/-- The entry of a file stands under its resolved path. -/
lemma Filed.mem_paths (h : p.Filed) {name : Path} (hhas : p.Has (base.resolve name)) :
    base.resolve name ∈ p.files.paths := by
  have hsome : ¬ p.files.get? (base.resolve name) = none := Option.isSome_iff_ne_none.1 hhas
  rw [Path.Table.get?_eq_none_iff] at hsome
  push Not at hsome
  obtain ⟨path, hpath, hsame⟩ := hsome
  have hsame : path.components = (base.resolve name).components := by
    simpa [Path.same_iff] using hsame
  rw [← Path.ofComponents_resolve, ← hsame, h.spelled path hpath]
  exact hpath

lemma has_of_drops (h : p.Drops d) : p.Has d.path := by
  obtain ⟨-, e, he, -⟩ := h
  rw [forFile] at he
  cases hget : p.files.get? d.path with
  | none => simp [hget] at he
  | some ds => simp [Has, hget]

/-- Behind its publication a diagnostic's file has an entry. -/
lemma has_publish (p : Published) (d : Diagnostic) (base : Path) :
    (p.perform (.publish d base)).1.Has (base.resolve d.path) := by
  rw [← Diagnostic.path_resolve]
  by_cases hdrops : p.Drops (d.resolve base)
  · rw [(perform_of_dropped hdrops).1]
    exact has_of_drops hdrops
  · rw [(perform_of_taken hdrops).1]
    simp [Has, add, Path.Table.get?_insert, Path.same_self]

/-- Unless everything is withdrawn, a file with an entry keeps it. -/
lemma Has.perform (h : p.Has file) {op : Operation} (hop : op ≠ .clear) :
    (p.perform op).1.Has file := by
  cases op with
  | publish d base =>
    by_cases hdrops : p.Drops (d.resolve base)
    · rwa [(perform_of_dropped hdrops).1]
    · rw [(perform_of_taken hdrops).1, Has, add, Path.Table.get?_insert]
      split
      · rfl
      · exact h
  | clear => exact absurd rfl hop

lemma Has.after (h : p.Has file) {ops : List Operation} (hops : .clear ∉ ops) :
    (p.after ops).Has file := by
  induction ops using List.reverseRecOn with
  | nil => exact h
  | append_singleton ops op ih =>
    rw [List.mem_append, not_or] at hops
    rw [after_concat]
    exact (ih hops.1).perform fun heq => hops.2 (by simp [heq])

/-- **A diagnostic of a file with an entry makes no other entry.** -/
lemma Filed.paths_publish (h : p.Filed) (hhas : p.Has (base.resolve d.path)) :
    (p.perform (.publish d base)).1.files.paths = p.files.paths := by
  by_cases hdrops : p.Drops (d.resolve base)
  · rw [(perform_of_dropped hdrops).1]
  · obtain ⟨ds, hds⟩ := Option.isSome_iff_exists.1 hhas
    rw [← Diagnostic.path_resolve] at hds
    rw [(perform_of_taken hdrops).1]
    exact Path.Table.paths_insert_of_get? h.sorted hds

/-- What is taken up of a diagnostic goes to the end of its file. -/
lemma forFile_publish (p : Published) (d : Diagnostic) (base : Path) :
    (p.perform (.publish d base)).1.forFile (base.resolve d.path) =
      p.forFile (base.resolve d.path) ++ p.taken (.publish d base) := by
  rw [← Diagnostic.path_resolve]
  by_cases hdrops : p.Drops (d.resolve base)
  · rw [(perform_of_dropped hdrops).1, (perform_of_dropped hdrops).2, List.append_nil]
  · rw [(perform_of_taken hdrops).1, (perform_of_taken hdrops).2, forFile_add,
      if_pos (Path.same_self _)]

end Published

/-! ### The main statement -/

/-- **Names of a file are resolved to one path, and published under it.** Against a directory that
starts at the root, every path is resolved to one that starts there, with the components of the path
itself or behind those of the directory, without any `.`; it is left as it is when it is resolved
again, and a resolved path that is the same is the same text. In a diagnostic the paths of all that
stands below it are resolved, too, and nothing else is changed. Let a diagnostic be published and
not be withdrawn. Then there is one entry for its file, whatever name the file is given, and
publishing another diagnostic under another name of it makes no other entry: unless it is dropped as
a duplicate, it goes to the end of that one. -/
theorem resolved_canonical (base : Path) (habsolute : base.isAbsolute = true) :
    (∀ p : Path, (base.resolve p).isAbsolute = true ∧
      (base.resolve p).components =
        (if p.isAbsolute then p.components else base.components ++ p.components).filter
          (· ≠ .here) ∧
      (∀ dir : Path, dir.resolve (base.resolve p) = base.resolve p) ∧
      ∀ dir q : Path, (base.resolve p).same (dir.resolve q) = true →
        (base.resolve p).text = (dir.resolve q).text) ∧
    (∀ (d : Diagnostic) (address : List Nat),
      Option.Rel (Diagnostic.Moved base) (d.at? address) ((d.resolve base).at? address)) ∧
    ∀ d d' : Diagnostic, d.path.SpellSame d'.path →
      ∀ (dedupe : Bool) (earlier later : List Operation), .clear ∉ later →
        let p := (Published.empty dedupe).after (earlier ++ .publish d base :: later)
        base.resolve d'.path = base.resolve d.path ∧
        p.files.paths.filter (·.same (base.resolve d'.path)) = [base.resolve d.path] ∧
        (p.perform (.publish d' base)).1.files.paths = p.files.paths ∧
        (p.perform (.publish d' base)).1.forFile (base.resolve d.path) =
          p.forFile (base.resolve d.path) ++ p.taken (.publish d' base) := by
  refine ⟨fun p => ⟨Path.isAbsolute_resolve habsolute p, Path.components_resolve habsolute p,
    Path.resolve_resolve habsolute p, fun dir q hsame => ?_⟩, fun d address => ?_,
    fun d d' hnames dedupe earlier later hlater => ?_⟩
  · rw [Path.eq_of_same_resolve hsame]
  · rw [Diagnostic.at?_resolve]
    cases d.at? address with
    | none => exact .none
    | some e => exact .some (Diagnostic.moved_resolve base e)
  · intro p
    have hfile : base.resolve d'.path = base.resolve d.path := (hnames.resolve_eq base).symm
    have hfiled : p.Filed := Published.filed_after dedupe _
    have hhas : p.Has (base.resolve d.path) := by
      have hp : p = (((Published.empty dedupe).after earlier).perform (.publish d base)).1.after
          later := by
        rw [← Published.after_concat, ← Published.after_append, List.append_assoc]
        rfl
      rw [hp]
      exact (Published.has_publish _ d base).after hlater
    refine ⟨hfile, ?_, hfiled.paths_publish (hfile ▸ hhas), ?_⟩
    · rw [hfile]
      exact Path.Table.filter_same_paths hfiled.sorted (hfiled.mem_paths hhas)
    · rw [← hfile]
      exact Published.forFile_publish p d' base

/-- A file named plainly and with slashes and a `.` too many, and a note that leads out of the
directory. -/
theorem resolved_canonical_spellings :
    let base : Path := ⟨"/w/"⟩
    let note : Diagnostic := .mk ⟨"../a//b/."⟩ ⟨⟨2, 0⟩, ⟨2, 0⟩⟩ .note "here" none []
    let plain : Diagnostic := .mk ⟨"src/lib.rs"⟩ ⟨⟨0, 0⟩, ⟨0, 1⟩⟩ .error "no" none [note]
    let odd : Diagnostic := .mk ⟨"./src//lib.rs"⟩ ⟨⟨1, 0⟩, ⟨1, 1⟩⟩ .warning "odd" none []
    let p := (Published.empty true).after ([.clear] ++ .publish plain base :: [])
    base.isAbsolute = true ∧ plain.path.SpellSame odd.path ∧
    base.resolve plain.path = ⟨"/w/src/lib.rs"⟩ ∧
    (base.resolve note.path).components = [.root, .name "w", .up, .name "a", .name "b"] ∧
    (Path.mk "c").resolve (base.resolve plain.path) = base.resolve plain.path ∧
    Option.Rel (Diagnostic.Moved base) (plain.at? [0]) ((plain.resolve base).at? [0]) ∧
    (p.perform (.publish odd base)).1.files.paths = p.files.paths := by
  intro base note plain odd p
  have habsolute : base.isAbsolute = true := by decide
  have hslash : Path.Respells ⟨"src/lib.rs"⟩ ⟨"src//lib.rs"⟩ := by
    simpa using Path.Respells.slash "src" "lib.rs"
  have hdot : Path.Respells ⟨"src//lib.rs"⟩ ⟨"./src//lib.rs"⟩ := by
    simpa using Path.Respells.dotBefore (show (Path.mk "src//lib.rs").isAbsolute = false by decide)
  have hnames : plain.path.SpellSame odd.path :=
    (Relation.EqvGen.rel _ _ hslash).trans _ _ _ (.rel _ _ hdot)
  have hplain : base.resolve plain.path = ⟨"/w/src/lib.rs"⟩ := by
    show (Path.mk "/w/").resolve ⟨"src/lib.rs"⟩ = ⟨"/w/src/lib.rs"⟩
    decide +kernel
  have hnote : (base.resolve note.path).components =
      [.root, .name "w", .up, .name "a", .name "b"] := by
    show ((Path.mk "/w/").resolve ⟨"../a//b/."⟩).components = _
    decide +kernel
  obtain ⟨hresolve, hmoved, hentry⟩ := resolved_canonical base habsolute
  obtain ⟨-, -, hpaths, -⟩ := hentry plain odd hnames true [.clear] [] (by simp)
  clear_value base plain odd
  exact ⟨habsolute, hnames, hplain, hnote, (hresolve plain.path).2.2.1 ⟨"c"⟩, hmoved plain [0],
    hpaths⟩

end BuildRunner
