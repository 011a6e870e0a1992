import BuildRunner.Proofs.Message.Lines
import BuildRunner.Proofs.Message.Told

/-!
What is read of any line can be relied on (`wellFormed_read`): a diagnostic comes only with a
message and a message only with an object, every place has a range that does not end before it
starts and a name that can be one of a file, and no note has notes of its own.
-/

namespace BuildRunner

/-! ### Ranges -/

/-- A range does not end before it starts; the line decides, then the column. -/
def Range.Ordered (r : Range) : Prop :=
  r.start.line < r.stop.line ∨ r.start.line = r.stop.line ∧ r.start.column ≤ r.stop.column

lemma Range.ordered_ofTool (lineStart columnStart lineEnd columnEnd : Nat) :
    (ofTool lineStart columnStart lineEnd columnEnd).Ordered := by
  simp only [ofTool]
  split
  case isTrue => exact .inr ⟨rfl, Nat.le_refl _⟩
  case isFalse h =>
    have h : ¬ (lineEnd - 1 < lineStart - 1 ∨
        lineEnd - 1 = lineStart - 1 ∧ columnEnd - 1 < columnStart - 1) := by
      simpa [Position.before] using h
    simp only [Ordered]
    omega

namespace Message

/-! ### Places and notes -/

/-- What stands on the right has something on the left that it belongs to. -/
lemma exists_of_forall₂ {α β : Type} {R : α → β → Prop} {xs : List α} {ys : List β} {y : β}
    (h : List.Forall₂ R xs ys) (hy : y ∈ ys) : ∃ x, R x y := by
  induction h with
  | nil => cases hy
  | @cons x _ _ _ hR _ ih =>
    rcases List.mem_cons.1 hy with rfl | hy
    · exact ⟨x, hR⟩
    · exact ih hy

/-- A place that an editor can go to. -/
def Place.Sound (place : Place) : Prop := RealFile place.file ∧ place.range.Ordered

/-- A diagnostic at a place that an editor can go to. -/
def Placed (d : Diagnostic) : Prop := RealFile d.path.text ∧ d.range.Ordered

section Sound

variable {v main w : Json} {others : List Json} {place : Place} {d note : Diagnostic}

lemma ordered_of_ofJson? (h : Place.ofJson? v = some place) : place.range.Ordered := by
  simp only [Place.ofJson?, Option.bind_eq_bind, Option.pure_def, Option.bind_eq_some_iff] at h
  obtain ⟨file, -, line, -, h⟩ := h
  rw [← Option.some.inj h]
  exact Range.ordered_ofTool ..

/-- What a span resolves to is a place in a file, however far outwards it is. -/
lemma Resolves.sound (h : Resolves v place) : place.Sound := by
  induction h with
  | own read inFile => exact ⟨inFile, ordered_of_ofJson? read⟩
  | outwards _ _ _ _ ih => exact ih

lemma LiesAt.placed (h : LiesAt d place) (hplace : place.Sound) : Placed d := by
  obtain ⟨hpath, hrange⟩ := h
  rw [Placed, hpath, hrange]
  exact hplace

lemma SpanNote.placed (h : SpanNote v w note) : Placed note := by
  obtain ⟨place, hplace, hlies⟩ := h.lies
  exact hlies.placed hplace.sound

lemma ChildNote.placed (h : ChildNote place w note) (hplace : place.Sound) : Placed note := by
  rcases h.told with ⟨-, hlies, -⟩ | ⟨_, _, _, -, ⟨own, hown, hlies⟩ | ⟨-, hlies⟩, -⟩
  · exact hlies.placed hplace
  · exact hlies.placed hown.sound
  · exact hlies.placed hplace

/-- **What a message tells lies in files**, and its notes have none of their own. -/
lemma Tells.placed (h : Tells v main others place d) (hplace : place.Sound) :
    Placed d ∧ ∀ note ∈ d.children, Placed note ∧ note.children = [] := by
  refine ⟨h.lies.placed hplace, fun note hnote => ?_⟩
  obtain ⟨notes, remarks, hchildren, hnotes, hremarks⟩ := h.children
  rw [hchildren, List.mem_append] at hnote
  rcases hnote with hnote | hnote
  · obtain ⟨w, hw⟩ := exists_of_forall₂ hnotes hnote
    exact ⟨hw.placed, hw.children⟩
  · obtain ⟨w, hw⟩ := exists_of_forall₂ hremarks hnote
    exact ⟨hw.placed hplace, hw.children⟩

end Sound

/-! ### Lines -/

/-- **What can be relied on of a reading**, whatever the line was. -/
structure Reading.WellFormed (r : Reading) : Prop where
  single : r.diagnostic.toList.length ≤ 1
  told : r.diagnostic.isSome ∨ r.rendered.isSome → r.isDiagnostic = true
  json : r.isDiagnostic = true → r.isJson = true
  placed : ∀ d ∈ r.diagnostic, Placed d ∧ ∀ note ∈ d.children, Placed note ∧ note.children = []

lemma wellFormed_plain : Reading.plain.WellFormed := by
  constructor <;> simp [Reading.plain]

lemma wellFormed_skipped : Reading.skipped.WellFormed := by
  constructor <;> simp [Reading.skipped]

lemma wellFormed_readObject (format : Format) (v : Json) : (readObject format v).WellFormed := by
  unfold readObject
  split
  case h_1 => exact wellFormed_skipped
  case h_2 body _ =>
    refine ⟨?_, fun _ => rfl, fun _ => rfl, fun d hd => ?_⟩
    · cases diagnosticOf body <;> simp
    · obtain ⟨_, _, _, place, -, hplace, htells⟩ := tells_of_diagnosticOf hd
      exact htells.placed hplace.sound

/-- **What is read of any line is well formed**, whatever format is settled on. It is that of an
object exactly when the line spells one; of any other line nothing is read, and the format stays. -/
theorem wellFormed_read (format : Option Format) (line : String) :
    (read format line).1.WellFormed ∧
      ((read format line).1.isJson = true ↔ ∃ v, object? line = some v) ∧
      (object? line = none → read format line = (.plain, format)) := by
  refine ⟨?_, by rw [isJson_read, Option.isSome_iff_exists], read_of_object?_eq_none⟩
  rcases hobject : object? line with _ | v
  · rw [read_of_object?_eq_none hobject]
    exact wellFormed_plain
  · simp only [read, hobject]
    rcases format.or (Format.detect? v) with _ | settled
    · exact wellFormed_skipped
    · exact wellFormed_readObject settled v

/-- An array with an object in it is no message, whatever format is settled on. -/
theorem wellFormed_read_array :
    object? "[{}]" = none ∧ read (some .bare) "[{}]" = (.plain, some .bare) :=
  have hobject : object? "[{}]" = none := rfl
  ⟨hobject, (wellFormed_read (some .bare) "[{}]").2.2 hobject⟩

end Message

end BuildRunner
