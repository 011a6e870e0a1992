import BuildRunner.Path
import BuildRunner.Proofs.Text.Split
import Mathlib.Logic.Relation
import Mathlib.Tactic.Common

/-!
Paths resolved against a directory. A path is told by whether it starts at the root and by its
steps, which are its components but for the root and every `.`; other spellings of the same file
have the same ones (`Respelled.steps_eq`). A resolved path is spelled from them, so it is read back
as they are (`components_resolve`) and has no spelling but its own (`eq_ofComponents_resolve`).
-/

namespace BuildRunner

/-! ### Steps -/

/-- **A step of a path**: `..` or a name, each read back from its text. The root and `.` are none. -/
def Component.IsStep (c : Component) : Prop :=
  '/' ∉ c.text.toList ∧ Path.componentOf? c.text.toList = some c

namespace Component

variable {c : Component} {piece : List Char}

lemma isStep_of_componentOf? (hslash : '/' ∉ piece) (h : Path.componentOf? piece = some c) :
    c.IsStep := by
  suffices htext : c.text.toList = piece from ⟨htext ▸ hslash, htext ▸ h⟩
  unfold Path.componentOf? at h
  split at h
  · cases h
  · split at h
    case isTrue hup => rw [← Option.some.inj h, hup]; rfl
    case isFalse => rw [← Option.some.inj h]; exact String.toList_ofList

lemma IsStep.text_ne_nil (h : c.IsStep) : c.text.toList ≠ [] := by
  intro hnil
  have hread := h.2
  rw [hnil] at hread
  cases hread

lemma IsStep.text_ne_dot (h : c.IsStep) : c.text.toList ≠ ['.'] := by
  intro hdot
  have hread := h.2
  rw [hdot] at hread
  cases hread

lemma IsStep.ne_here (h : c.IsStep) : c ≠ .here := by
  rintro rfl
  exact h.text_ne_dot rfl

lemma IsStep.ne_root (h : c.IsStep) : c ≠ .root := by
  rintro rfl
  exact h.1 (by decide)

end Component

namespace Path

variable {p q base : Path} {cs : List Component}

/-- The components of a path but for the root and every `.`. -/
def steps (p : Path) : List Component := p.pieces.filterMap componentOf?

/-- The root, for a path that starts there. -/
def rootIf (absolute : Bool) : List Component := if absolute then [.root] else []

lemma isStep_of_mem_steps {c : Component} (h : c ∈ p.steps) : c.IsStep := by
  obtain ⟨piece, hpiece, hc⟩ := List.mem_filterMap.1 h
  refine Component.isStep_of_componentOf? (fun hslash => ?_) hc
  have := Text.forall_mem_splitAt _ piece hpiece '/' hslash
  simp at this

/-- Without every `.` the root and the steps are left. -/
lemma filter_components (p : Path) :
    p.components.filter (· ≠ .here) = rootIf p.isAbsolute ++ p.steps := by
  have hsteps : p.steps.filter (· ≠ .here) = p.steps := by
    refine List.filter_eq_self.2 fun c hc => ?_
    simpa using (isStep_of_mem_steps hc).ne_here
  have hcomponents : p.components =
      (if p.isAbsolute then [.root] else if p.pieces.head? = some ['.'] then [.here] else []) ++
        p.steps := rfl
  rw [hcomponents, List.filter_append, hsteps, rootIf]
  split
  · rfl
  · split <;> rfl

/-! ### Spelled and read back -/

/-- The text of a spelled path: slashes between the texts of its steps. -/
lemma toList_spell (absolute : Bool) (h : ∀ c ∈ cs, c.IsStep) :
    (spell (rootIf absolute ++ cs)).toList =
      (if absolute then ['/'] else []) ++ ['/'].intercalate (cs.map (·.text.toList)) := by
  have hslash : "/".toList = ['/'] := rfl
  cases absolute with
  | true =>
    show ("/" ++ "/".intercalate (cs.map Component.text)).toList = _
    rw [String.toList_append, String.toList_intercalate, List.map_map, hslash]
    rfl
  | false =>
    have hspell : spell cs = "/".intercalate (cs.map Component.text) := by
      rcases cs with _ | ⟨c, cs⟩
      · rfl
      · have hc := (h c List.mem_cons_self).ne_root
        cases c <;> first | rfl | exact absurd rfl hc
    show (spell cs).toList = _
    rw [hspell, String.toList_intercalate, List.map_map, hslash]
    rfl

/-- The texts of steps between slashes are cut where they were joined. -/
lemma splitAt_steps (h : ∀ c ∈ cs, c.IsStep) :
    Text.splitAt '/' (['/'].intercalate (cs.map (·.text.toList))) =
      if cs = [] then [[]] else cs.map (·.text.toList) := by
  split
  case isTrue hnil => rw [hnil]; rfl
  case isFalse hne =>
    refine Text.splitAt_intercalate (fun piece hpiece => ?_) (by simpa using hne)
    obtain ⟨c, hc, rfl⟩ := List.mem_map.1 hpiece
    exact (h c hc).1

lemma filterMap_componentOf? (h : ∀ c ∈ cs, c.IsStep) :
    (cs.map (·.text.toList)).filterMap componentOf? = cs := by
  rw [List.filterMap_map]
  calc cs.filterMap (componentOf? ∘ (·.text.toList))
    _ = cs.filterMap some := List.filterMap_congr fun c hc => (h c hc).2
    _ = cs := List.filterMap_some

/-- **What is spelled is read back**: whether a path starts at the root, and its steps. -/
theorem reads_ofComponents (absolute : Bool) (h : ∀ c ∈ cs, c.IsStep) :
    (ofComponents (rootIf absolute ++ cs)).isAbsolute = absolute ∧
      (ofComponents (rootIf absolute ++ cs)).components = rootIf absolute ++ cs := by
  set r := ofComponents (rootIf absolute ++ cs)
  have htext : r.text.toList =
      (if absolute then ['/'] else []) ++ ['/'].intercalate (cs.map (·.text.toList)) :=
    toList_spell absolute h
  have hcut := splitAt_steps h
  cases absolute with
  | true =>
    have habsolute : r.isAbsolute = true := by rw [isAbsolute, htext]; rfl
    have hpieces : r.pieces = [] :: if cs = [] then [[]] else cs.map (·.text.toList) := by
      rw [pieces, htext, ← hcut]
      exact Text.splitAt_cons_sep rfl _
    have hsteps : r.pieces.filterMap componentOf? = cs := by
      rw [hpieces]
      split
      case isTrue hnil => rw [hnil]; rfl
      case isFalse => exact filterMap_componentOf? h
    refine ⟨habsolute, ?_⟩
    rw [components, habsolute, hsteps]
    rfl
  | false =>
    rcases cs with _ | ⟨c, cs⟩
    · exact ⟨rfl, rfl⟩
    · have hc : c.IsStep := h c List.mem_cons_self
      have hpieces : r.pieces = (c :: cs).map (·.text.toList) := by
        rw [pieces, htext]
        exact hcut
      -- The text starts with that of the first step, which is neither empty nor a slash.
      have habsolute : r.isAbsolute = false := by
        obtain ⟨x, xs, hx⟩ := List.exists_cons_of_ne_nil hc.text_ne_nil
        have hslash : x ≠ '/' := fun heq => hc.1 (by rw [hx, heq]; exact List.mem_cons_self)
        have hhead : r.text.toList.head? = some x := by
          rw [htext, List.map_cons, hx]
          cases cs <;> simp [List.intercalate_cons_cons]
        rw [isAbsolute, hhead]
        simpa using hslash
      refine ⟨habsolute, ?_⟩
      rw [components, habsolute, hpieces, filterMap_componentOf? h]
      simp [hc.text_ne_dot, rootIf]

/-! ### Joined and resolved -/

lemma isAbsolute_append {s : String} (hs : s ≠ "") (t : String) :
    (Path.mk (s ++ t)).isAbsolute = (Path.mk s).isAbsolute := by
  have hs : s.toList ≠ [] := by simpa using hs
  rw [isAbsolute, isAbsolute, String.toList_append, List.head?_append_of_ne_nil _ hs]

lemma isAbsolute_join (base p : Path) :
    (base.join p).isAbsolute = (p.isAbsolute || base.isAbsolute) := by
  unfold join
  split
  case isTrue h => rw [h, Bool.true_or]
  case isFalse h =>
    rw [Bool.not_eq_true] at h
    by_cases hempty : base.text = ""
    · rw [if_pos (.inl hempty), hempty, String.empty_append, h]
      obtain ⟨text⟩ := base
      obtain rfl : text = "" := hempty
      rfl
    · rw [h, Bool.false_or]
      split
      · exact isAbsolute_append hempty _
      · rw [String.append_assoc]
        exact isAbsolute_append hempty _

/-- The steps of a path cut at a slash are those in front of it and those behind it. -/
lemma steps_append_slash (s t : String) :
    (Path.mk (s ++ "/" ++ t)).steps = (Path.mk s).steps ++ (Path.mk t).steps := by
  have htext : (s ++ "/" ++ t).toList = s.toList ++ '/' :: t.toList := by simp
  rw [steps, pieces, htext, Text.splitAt_append_sep, List.filterMap_append]
  rfl

lemma steps_join (base p : Path) :
    (base.join p).steps = if p.isAbsolute then p.steps else base.steps ++ p.steps := by
  unfold join
  split
  case isTrue => rfl
  case isFalse =>
    split
    case isTrue h =>
      rcases h with hempty | hslash
      · obtain ⟨text⟩ := base
        obtain rfl : text = "" := hempty
        rw [String.empty_append]
        rfl
      · -- The slash that the base ends with is the one between the two.
        obtain ⟨front, hfront⟩ := List.getLast?_eq_some_iff.1 hslash
        have hbase : base.text = String.ofList front ++ "/" ++ "" := by
          rw [← String.toList_inj, hfront]
          simp
        have hsteps : base.steps = (Path.mk (String.ofList front)).steps := by
          obtain ⟨text⟩ := base
          rw [show text = _ from hbase, steps_append_slash]
          exact List.append_nil _
        rw [hsteps, ← steps_append_slash, hbase, String.append_empty]
    case isFalse => exact steps_append_slash base.text p.text

lemma resolve_eq (base p : Path) :
    base.resolve p = ofComponents (rootIf (base.join p).isAbsolute ++ (base.join p).steps) := by
  rw [resolve, filter_components]

/-- **What a resolved path is read back as**: the root, if the path or the directory starts there,
and the steps of the path, those of the directory in front of them if it does not. -/
theorem reads_resolve (base p : Path) :
    (base.resolve p).isAbsolute = (p.isAbsolute || base.isAbsolute) ∧
      (base.resolve p).components = rootIf (p.isAbsolute || base.isAbsolute) ++
        if p.isAbsolute then p.steps else base.steps ++ p.steps := by
  rw [resolve_eq, ← isAbsolute_join, ← steps_join]
  exact reads_ofComponents _ fun c hc => isStep_of_mem_steps hc

/-- A resolved path is spelled from its components. -/
lemma ofComponents_resolve (base p : Path) :
    ofComponents (base.resolve p).components = base.resolve p := by
  rw [(reads_resolve base p).2, ← isAbsolute_join, ← steps_join, ← resolve_eq]

/-- **Resolved paths that are the same are spelled the same.** -/
theorem eq_of_same_resolve {dir : Path} (h : (base.resolve p).same (dir.resolve q) = true) :
    base.resolve p = dir.resolve q := by
  rw [← ofComponents_resolve base p, ← ofComponents_resolve dir q, eq_of_beq h]

section Absolute

variable (habsolute : base.isAbsolute = true)

include habsolute

lemma isAbsolute_resolve (p : Path) : (base.resolve p).isAbsolute = true := by
  rw [(reads_resolve base p).1, habsolute, Bool.or_true]

/-- The components of a path resolved against a directory that starts at the root. -/
theorem components_resolve (p : Path) :
    (base.resolve p).components =
      (if p.isAbsolute then p.components else base.components ++ p.components).filter
        (· ≠ .here) := by
  have hroot : rootIf true = [.root] := rfl
  rw [(reads_resolve base p).2, habsolute, Bool.or_true]
  split
  case isTrue hp => rw [filter_components, hp]
  case isFalse hp =>
    rw [Bool.not_eq_true] at hp
    rw [List.filter_append, filter_components, filter_components, habsolute, hp,
      List.append_assoc]
    rfl

/-- **A resolved path is left as it is**, whatever it is resolved against. -/
theorem resolve_resolve (p dir : Path) : dir.resolve (base.resolve p) = base.resolve p := by
  have hjoin : dir.join (base.resolve p) = base.resolve p :=
    if_pos (isAbsolute_resolve habsolute p)
  have hnone : (base.resolve p).components.filter (· ≠ .here) = (base.resolve p).components := by
    rw [components_resolve habsolute, List.filter_filter]
    simp
  rw [resolve, hjoin, hnone, ofComponents_resolve]

end Absolute

/-! ### Other spellings -/

/-- **Another spelling of a path**: one slash more, at the end or beside another one, or a `.` more,
between slashes or in front of a relative path. -/
inductive Respells : Path → Path → Prop
  | slash (s t : String) : Respells ⟨s ++ "/" ++ t⟩ ⟨s ++ "//" ++ t⟩
  | slashBehind {s : String} (h : s ≠ "") : Respells ⟨s⟩ ⟨s ++ "/"⟩
  | dot (s t : String) : Respells ⟨s ++ "/" ++ t⟩ ⟨s ++ "/./" ++ t⟩
  | dotBefore {t : String} (h : (Path.mk t).isAbsolute = false) : Respells ⟨t⟩ ⟨"./" ++ t⟩

/-- Two paths are spellings of each other, by any number of changes back and forth. -/
def SpellSame : Path → Path → Prop := Relation.EqvGen Respells

/-- Other spellings of a path start at the root where it does, and have its steps. -/
lemma Respells.reads (h : Respells p q) : p.isAbsolute = q.isAbsolute ∧ p.steps = q.steps := by
  have hslash (s : String) : s ++ "/" ≠ "" := by simp
  have hempty : (Path.mk "").steps = [] := rfl
  have hdot : (Path.mk ".").steps = [] := rfl
  cases h with
  | slash s t =>
    have htext : s ++ "//" ++ t = s ++ "/" ++ ("" ++ "/" ++ t) := by
      rw [← String.toList_inj]
      simp
    rw [htext]
    constructor
    · exact (isAbsolute_append (hslash s) t).trans (isAbsolute_append (hslash s) _).symm
    · simp only [steps_append_slash, hempty, List.nil_append]
  | @slashBehind s h =>
    have htext : s ++ "/" = s ++ "/" ++ "" := by simp
    refine ⟨(isAbsolute_append h "/").symm, ?_⟩
    rw [htext, steps_append_slash, hempty, List.append_nil]
  | dot s t =>
    have htext : s ++ "/./" ++ t = s ++ "/" ++ ("." ++ "/" ++ t) := by
      rw [← String.toList_inj]
      simp
    rw [htext]
    constructor
    · exact (isAbsolute_append (hslash s) t).trans (isAbsolute_append (hslash s) _).symm
    · simp only [steps_append_slash, hdot, List.nil_append]
  | @dotBefore t h =>
    have htext : "./" ++ t = "." ++ "/" ++ t := rfl
    refine ⟨?_, ?_⟩
    · rw [h, isAbsolute_append (by decide)]
      rfl
    · rw [htext, steps_append_slash, hdot, List.nil_append]

/-- **Spellings of one path are resolved to one.** -/
theorem SpellSame.resolve_eq (h : SpellSame p q) (base : Path) :
    base.resolve p = base.resolve q := by
  have hreads : p.isAbsolute = q.isAbsolute ∧ p.steps = q.steps := by
    induction h with
    | rel _ _ h => exact h.reads
    | refl => exact ⟨rfl, rfl⟩
    | symm _ _ _ ih => exact ⟨ih.1.symm, ih.2.symm⟩
    | trans _ _ _ _ _ ih ih' => exact ⟨ih.1.trans ih'.1, ih.2.trans ih'.2⟩
  rw [Path.resolve_eq, Path.resolve_eq, isAbsolute_join, isAbsolute_join, steps_join, steps_join,
    hreads.1, hreads.2]

end Path

end BuildRunner
