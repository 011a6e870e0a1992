import BuildRunner.Proofs.Message.Told
import BuildRunner.Proofs.Message.Written
import Mathlib.Data.Prod.Lex

/-!
The coordinates of what a message tells. The tool counts them from one, a diagnostic from zero, and
the line about it from one again. Whatever natural numbers a span spells, the line shows them, but
for a zero, which shows as one, and for what does not fit into 32 bits, which shows as the largest
coordinate; and the count from zero to one never overflows (`counted_of_read`).
-/

namespace BuildRunner

/-! ### Positions and ranges -/

/-- A position as a pair: the line decides, then the column. -/
def Position.key (p : Position) : ℕ ×ₗ ℕ := toLex (p.line, p.column)

lemma Position.before_iff {p q : Position} : p.before q = true ↔ p.key < q.key := by
  simp [before, key, Prod.Lex.toLex_lt_toLex]

namespace Range

/-- No coordinate of a range exceeds the largest one. -/
def Fits (r : Range) : Prop :=
  (r.start.line ≤ maxCoordinate ∧ r.start.column ≤ maxCoordinate) ∧
    r.stop.line ≤ maxCoordinate ∧ r.stop.column ≤ maxCoordinate

section OfTool

variable (lineStart columnStart lineEnd columnEnd : Nat)

lemma start_ofTool : (ofTool lineStart columnStart lineEnd columnEnd).start =
    ⟨lineStart - 1, columnStart - 1⟩ := by
  simp only [ofTool]
  split <;> rfl

/-- **The end of a range** is where the tool says, or its start if that comes later. -/
lemma key_stop_ofTool : (ofTool lineStart columnStart lineEnd columnEnd).stop.key =
    max (ofTool lineStart columnStart lineEnd columnEnd).start.key
      (toLex (lineEnd - 1, columnEnd - 1)) := by
  rw [start_ofTool]
  simp only [ofTool]
  split
  case isTrue hbefore => exact (max_eq_left (Position.before_iff.1 hbefore).le).symm
  case isFalse hbefore =>
    exact (max_eq_right (not_lt.1 (mt Position.before_iff.2 hbefore))).symm

end OfTool

lemma fits_ofTool {lineStart columnStart lineEnd columnEnd : Nat}
    (hlineStart : lineStart ≤ maxCoordinate) (hcolumnStart : columnStart ≤ maxCoordinate)
    (hlineEnd : lineEnd ≤ maxCoordinate) (hcolumnEnd : columnEnd ≤ maxCoordinate) :
    (ofTool lineStart columnStart lineEnd columnEnd).Fits := by
  simp only [Fits, ofTool]
  split <;> dsimp only <;> omega

end Range

namespace Diagnostic

/-- The line about a diagnostic as if it lay at a line and a column. -/
def lineAt (d : Diagnostic) (line column : Nat) : String :=
  d.path.text ++ ":" ++ toString line ++ ":" ++ toString column ++ ": " ++ d.severity.label ++
    (match d.code with | some c => "[" ++ c ++ "]" | none => "") ++ ": " ++
    Text.firstLine d.message

/-- One more than a coordinate, unless it is the largest one: then the sum overflows. -/
def oneMore? (n : Nat) : Option Nat := if n < Range.maxCoordinate then some (n + 1) else none

/-- The line about a diagnostic, as far as no sum in it overflows. -/
def lineInWords? (d : Diagnostic) : Option String := do
  let line ← oneMore? d.range.start.line
  let column ← oneMore? d.range.start.column
  return d.lineAt line column

lemma line_eq (d : Diagnostic) :
    d.line = d.lineAt (d.range.start.line + 1) (d.range.start.column + 1) := rfl

/-- The checked line is the line where both coordinates are below the largest one, and nowhere
else is there one. -/
lemma lineInWords?_eq (d : Diagnostic) :
    d.lineInWords? =
      if d.range.start.line < Range.maxCoordinate ∧ d.range.start.column < Range.maxCoordinate then
        some d.line
      else none := by
  by_cases hline : d.range.start.line < Range.maxCoordinate
  · by_cases hcolumn : d.range.start.column < Range.maxCoordinate
    · simp [lineInWords?, oneMore?, hline, hcolumn, line_eq]
    · simp [lineInWords?, oneMore?, hline, hcolumn]
  · -- The first sum overflows already, and the second one is not looked at.
    simp [lineInWords?, oneMore?, hline]

end Diagnostic

namespace Message

/-! ### What a span spells -/

/-- Coordinates as the tool writes them, counted from one. -/
structure Coordinates where
  line : Nat
  column : Nat
  lineEnd : Nat
  columnEnd : Nat

/-- **The coordinates that a span spells.** A column that is missing, or is no natural number, is
the first one; an end that is missing is where the span starts. -/
structure Spells (w : Json) (c : Coordinates) : Prop where
  line : w.getNatural? "line_start" = some c.line
  column : c.column = (w.getNatural? "column_start").getD 1
  lineEnd : c.lineEnd = (w.getNatural? "line_end").getD c.line
  columnEnd : c.columnEnd = (w.getNatural? "column_end").getD c.column

/-- **The span that a span lands on**: itself when it lies in a file, else the one that the span it
was expanded at lands on. -/
inductive LandsOn : Json → Json → Prop where
  | own {w : Json} (readable : Readable w) (inFile : RealFile (textOf w "file_name")) : LandsOn w w
  | outwards {w outer span : Json} (readable : Readable w)
    (elsewhere : ¬ RealFile (textOf w "file_name")) (expanded : expansion? w = some outer)
    (further : LandsOn outer span) : LandsOn w span

/-- The largest coordinate stands for all that are larger. -/
def clamp (n : Nat) : Nat := min n Range.maxCoordinate

section Spans

variable {w span : Json} {place : Place} {c : Coordinates}

lemma readable_of_ofJson? (h : Place.ofJson? w = some place) :
    Readable w ∧ place.file = textOf w "file_name" := by
  refine ⟨isSome_ofJson?_place.1 (by rw [h]; rfl), ?_⟩
  simp only [Place.ofJson?, Option.bind_eq_bind, Option.pure_def, Option.bind_eq_some_iff] at h
  obtain ⟨file, hfile, line, -, h⟩ := h
  rw [← Option.some.inj h, textOf, hfile]
  rfl

/-- What a span resolves to is the place that the span names on which it lands. -/
lemma Resolves.lands (h : Resolves w place) :
    ∃ span, LandsOn w span ∧ Place.ofJson? span = some place := by
  induction h with
  | @own v place read inFile =>
    obtain ⟨hreadable, hfile⟩ := readable_of_ofJson? read
    exact ⟨v, .own hreadable (hfile ▸ inFile), read⟩
  | outwards read elsewhere expanded _ ih =>
    obtain ⟨hreadable, hfile⟩ := readable_of_ofJson? read
    obtain ⟨span, hlands, hplace⟩ := ih
    exact ⟨span, .outwards hreadable (hfile ▸ elsewhere) expanded hlands, hplace⟩

lemma getD_coordinate? (w : Json) (name : String) (n : Nat) :
    (coordinate? w name).getD (clamp n) = clamp ((w.getNatural? name).getD n) := Option.getD_map ..

/-- **A place has the coordinates that its span spells**, as far as they fit. -/
lemma exists_spells (h : Place.ofJson? span = some place) :
    ∃ c, Spells span c ∧ place.range =
      .ofTool (clamp c.line) (clamp c.column) (clamp c.lineEnd) (clamp c.columnEnd) := by
  simp only [Place.ofJson?, Option.bind_eq_bind, Option.pure_def, Option.bind_eq_some_iff] at h
  obtain ⟨file, -, _, hclamped, h⟩ := h
  obtain ⟨line, hline, rfl⟩ := Option.map_eq_some_iff.1 hclamped
  -- A value that stands in for a missing one fits already, so it may be clamped with the others.
  let column := (span.getNatural? "column_start").getD 1
  have hcolumn : (coordinate? span "column_start").getD 1 = clamp column :=
    getD_coordinate? span "column_start" 1
  have hlineEnd := getD_coordinate? span "line_end" line
  have hcolumnEnd := getD_coordinate? span "column_end" column
  refine ⟨⟨line, column, (span.getNatural? "line_end").getD line,
    (span.getNatural? "column_end").getD column⟩, ⟨hline, rfl, rfl, rfl⟩, ?_⟩
  rw [← Option.some.inj h, hcolumn, ← hlineEnd, ← hcolumnEnd]
  rfl

end Spans

/-! ### What is shown -/

/-- **A diagnostic shows coordinates.** It holds them counted from zero, a zero as it is, and its
end not before its start; the line about it has the first two of them, a zero as one, and no sum in
it overflows. What is too large counts as the largest coordinate. -/
structure Coordinates.ShownBy (c : Coordinates) (d : Diagnostic) : Prop where
  fits : d.range.Fits
  start : d.range.start = ⟨clamp c.line - 1, clamp c.column - 1⟩
  stop : d.range.stop.key =
    max d.range.start.key (toLex (clamp c.lineEnd - 1, clamp c.columnEnd - 1))
  line : d.line = d.lineAt (max 1 (clamp c.line)) (max 1 (clamp c.column))
  inWords : d.lineInWords? = some d.line

/-- **A diagnostic lies where a span does**: it shows what the span spells on which that lands. -/
def CountedBy (d : Diagnostic) (w : Json) : Prop :=
  ∃ span c, LandsOn w span ∧ Spells span c ∧ c.ShownBy d

/-- **The span of a child of its own**: its main one, when that lies in a file. -/
def OwnSpan (w own : Json) : Prop := ∃ before behind, MainSpan w before own behind ∧ InFile own

/-- The note of a child lies where a span of its own does; without one it has the range of its
parent `d`, so it shows what the span of that spells. -/
def ChildCountedBy (main : Json) (d : Diagnostic) (w : Json) (note : Diagnostic) : Prop :=
  (∃ own, OwnSpan w own ∧ CountedBy note own) ∨
    (¬ ∃ own, OwnSpan w own) ∧ note.range = d.range ∧ CountedBy note main

/-- **A message and its notes are counted by their spans.** -/
structure Counted (v main : Json) (others : List Json) (d : Diagnostic) : Prop where
  lies : CountedBy d main
  children : ∃ notes remarks, d.children = notes ++ remarks ∧
    List.Forall₂ (fun w note => CountedBy note w) (others.filter InFile) notes ∧
    List.Forall₂ (ChildCountedBy main d) ((itemsOf v "children").filter Speaks) remarks

section Shown

variable {v w main : Json} {before behind others : List Json} {place : Place}
  {d note : Diagnostic} {c : Coordinates}

lemma clamp_sub_one_add_one (n : Nat) :
    clamp n - 1 < Range.maxCoordinate ∧ clamp n - 1 + 1 = max 1 (clamp n) := by
  have hmax : 1 ≤ Range.maxCoordinate := by decide
  have hclamp : clamp n ≤ Range.maxCoordinate := min_le_right ..
  constructor
  · -- Zero stays zero, and anything else comes below the largest coordinate.
    omega
  · omega

lemma shownBy_of_range (h : d.range =
    .ofTool (clamp c.line) (clamp c.column) (clamp c.lineEnd) (clamp c.columnEnd)) :
    c.ShownBy d := by
  obtain ⟨hline, hlineShown⟩ := clamp_sub_one_add_one c.line
  obtain ⟨hcolumn, hcolumnShown⟩ := clamp_sub_one_add_one c.column
  have hstart : d.range.start = ⟨clamp c.line - 1, clamp c.column - 1⟩ := by
    rw [h, Range.start_ofTool]
  have htext : d.line = d.lineAt (max 1 (clamp c.line)) (max 1 (clamp c.column)) := by
    rw [d.line_eq, hstart, hlineShown, hcolumnShown]
  refine ⟨?fits, hstart, ?stop, htext, ?inWords⟩
  case fits =>
    rw [h]
    exact Range.fits_ofTool (min_le_right ..) (min_le_right ..) (min_le_right ..) (min_le_right ..)
  case stop => rw [h, Range.key_stop_ofTool]
  case inWords =>
    rw [Diagnostic.lineInWords?_eq, hstart]
    exact if_pos ⟨hline, hcolumn⟩

lemma LiesAt.countedBy (h : LiesAt d place) (hplace : Resolves w place) : CountedBy d w := by
  obtain ⟨span, hlands, hread⟩ := hplace.lands
  obtain ⟨c, hspells, hrange⟩ := exists_spells hread
  exact ⟨span, c, hlands, hspells, shownBy_of_range (h.2.trans hrange)⟩

/-- Whether the main span of a message lies in a file is settled by the message. -/
lemma MainSpan.inFile_iff {before' behind' : List Json} {main' : Json}
    (h : MainSpan w before main behind) (h' : MainSpan w before' main' behind') :
    InFile main ↔ InFile main' := by
  obtain ⟨index, s, hindex, hs, hread, -⟩ := h.index
  obtain ⟨index', s', hindex', hs', hread', -⟩ := h'.index
  obtain rfl := Option.some.inj (hindex.symm.trans hindex')
  obtain rfl := Option.some.inj (hs.symm.trans hs')
  rw [Message.inFile_iff, Message.inFile_iff, hread, hread']

lemma ChildNote.counted (h : ChildNote place w note) (hd : LiesAt d place)
    (hplace : Resolves main place) : ChildCountedBy main d w note := by
  have hparent (hlies : LiesAt note place) : note.range = d.range ∧ CountedBy note main :=
    ⟨hlies.2.trans hd.2.symm, hlies.countedBy hplace⟩
  rcases h.told with ⟨hnil, hlies, -⟩ | ⟨before, own, behind, hown, hlies, -⟩
  · -- No span of it can be read.
    refine .inr ⟨?_, hparent hlies⟩
    rintro ⟨own, before, behind, hown, -⟩
    have hspans := hown.spans
    rw [hnil] at hspans
    simp at hspans
  · rcases hlies with ⟨place', hplace', hlies⟩ | ⟨hfile, hlies⟩
    · exact .inl ⟨own, ⟨before, behind, hown, place', hplace'⟩, hlies.countedBy hplace'⟩
    · -- Its main span lies in no file, and it has no other main span.
      refine .inr ⟨?_, hparent hlies⟩
      rintro ⟨own', before', behind', hown', hfile'⟩
      exact hfile ((hown.inFile_iff hown').2 hfile')

lemma Tells.counted (h : Tells v main others place d) (hplace : Resolves main place) :
    Counted v main others d := by
  obtain ⟨notes, remarks, hchildren, hnotes, hremarks⟩ := h.children
  refine ⟨h.lies.countedBy hplace, notes, remarks, hchildren, ?_, ?_⟩
  · refine hnotes.imp fun w note hnote => ?_
    obtain ⟨place', hplace', hlies⟩ := hnote.lies
    exact hlies.countedBy hplace'
  · exact hremarks.imp fun w note hnote => hnote.counted h.lies hplace

end Shown

/-! ### Lines -/

/-- A diagnostic of a line is that of the object which the line spells, or of the message in it. -/
lemma exists_body_of_read {format : Option Format} {line : String} {d : Diagnostic}
    (h : (read format line).1.diagnostic = some d) :
    ∃ v body, object? line = some v ∧ (body = v ∨ v.get? "message" = some body) ∧
      diagnosticOf body = some d := by
  rcases hobject : object? line with _ | v
  · simp [read_of_object?_eq_none hobject, Reading.plain] at h
  · simp only [read, hobject] at h
    split at h
    · cases h
    · rename_i settled _
      rw [readObject] at h
      rcases hbody : settled.body? v with _ | body
      · simp [hbody, Reading.skipped] at h
      · simp only [hbody] at h
        refine ⟨v, body, rfl, ?_, h⟩
        cases settled with
        | envelope =>
          simp only [Format.body?] at hbody
          split at hbody
          · exact .inr (Option.filter_eq_some_iff.1 hbody).1
          · cases hbody
        | bare =>
          simp only [Format.body?] at hbody
          split at hbody
          · exact .inl (Option.some.inj hbody).symm
          · cases hbody

/-- **Coordinates come out as they went in.** Whatever format is settled on and whatever a line is,
the diagnostic that it holds shows the coordinates which the span spells that the main span of the
message lands on, and each of its notes those of its own span: what fits into 32 bits as it is, a
zero as one, what is larger as the largest coordinate, and no sum overflows. A child without a span
of its own in a file shows the coordinates of its parent. -/
theorem counted_of_read {format : Option Format} {line : String} {d : Diagnostic}
    (h : (read format line).1.diagnostic = some d) :
    ∃ v body before main behind, object? line = some v ∧
      (body = v ∨ v.get? "message" = some body) ∧ MainSpan body before main behind ∧
      Counted body main (before ++ behind) d := by
  obtain ⟨v, body, hobject, hbody, hd⟩ := exists_body_of_read h
  obtain ⟨before, main, behind, place, hmain, hplace, htells⟩ := tells_of_diagnosticOf hd
  exact ⟨v, body, before, main, behind, hobject, hbody, hmain, htells.counted hplace⟩

/-- A diagnostic in a macro lies where that was expanded: at line zero, which shows as one, and at a
column of 64 bits, which shows as the largest one of 32. -/
theorem counted_of_read_macro :
    let outer : Json := .object [("file_name", .string "a"), ("line_start", .natural 0),
      ("column_start", .natural 18446744073709551615)]
    let span : Json := .object [("file_name", .string "<m>"), ("line_start", .natural 7),
      ("expansion", .object [("span", outer)])]
    let v : Json := .object [("level", .string "error"), ("spans", .array [span])]
    let start : Position := ⟨0, 4294967294⟩
    let d : Diagnostic := .mk ⟨"a"⟩ ⟨start, start⟩ .error "" none []
    (read none v.render).1.diagnostic = some d ∧ d.line = d.lineAt 1 4294967295 ∧
      ∃ v' body before main behind, object? v.render = some v' ∧
        (body = v' ∨ v'.get? "message" = some body) ∧ MainSpan body before main behind ∧
        Counted body main (before ++ behind) d := by
  intro outer span v start d
  have hmain : MainSpan v [] span [] := by
    refine ⟨rfl, .inr ⟨rfl, ?_⟩⟩
    simp [Primary, span, Json.get?, Json.object?, Json.lookup]
  have hresolves : Resolves span ⟨"a", start, start⟩ := by
    have hmacro : Place.ofJson? span = some ⟨"<m>", ⟨6, 0⟩, ⟨6, 0⟩⟩ := rfl
    have hexpanded : expansion? span = some outer := rfl
    have hfile : RealFile "a" := isRealFile_iff.1 (by decide)
    exact .outwards hmacro (fun h => h.2 "m" rfl) hexpanded (.own rfl hfile)
  have hd : diagnosticOf v = some d := diagnosticOf_of_mainSpan hmain hresolves
  have hwritable : v.Writable := by
    simp [v, span, outer, Json.Writable, Json.MembersWritable, Json.AllWritable]
  have hobject : object? v.render = some v := object?_render hwritable
  have hread : (read none v.render).1.diagnostic = some d := by
    rw [read, hobject]
    exact hd
  exact ⟨hread, rfl, counted_of_read hread⟩

end Message

end BuildRunner
