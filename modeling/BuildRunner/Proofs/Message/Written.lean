import BuildRunner.Message.Builder
import BuildRunner.Proofs.Json.RoundTrip
import BuildRunner.Proofs.Message.Lines
import Mathlib.Data.List.InsertIdx

/-!
What is read of a message that was written. Of a diagnostic the reader keeps the place of its main
span and makes notes of the others that lie in files; of its children it keeps those that say
something, and nothing of what stands below them.
-/

namespace BuildRunner.Message

/-! ### What a message says -/

namespace SpanSpec

variable (s : SpanSpec)

/-- The place of a span. -/
def place : Place := ⟨s.file, .ofTool s.lineStart s.columnStart s.lineEnd s.columnEnd⟩

/-- The place of a span that lies in a file. -/
def place? : Option Place := if isRealFile s.file then some s.place else none

/-- The label of a span, if it says something. -/
def label? : Option String := s.label.filter (· ≠ "")

/-- The coordinates of a span fit. -/
def InBounds : Prop :=
  s.lineStart ≤ Range.maxCoordinate ∧ s.columnStart ≤ Range.maxCoordinate ∧
    s.lineEnd ≤ Range.maxCoordinate ∧ s.columnEnd ≤ Range.maxCoordinate

/-- The note that a span gives rise to beside the main one. -/
def note? (severity : Severity) (message : String) : Option Diagnostic :=
  s.place?.map fun p =>
    .mk ⟨p.file⟩ p.range (if s.isPrimary then severity else .note) (s.label?.getD message) none []

end SpanSpec

namespace DiagnosticSpec

/-- The spans. -/
def spans : DiagnosticSpec → List SpanSpec
  | mk _ _ spans _ _ => spans

/-- The text that a diagnostic is rendered as. -/
def rendered : DiagnosticSpec → String
  | mk level message _ _ _ => level ++ ": " ++ message ++ "\n"

/-- The span that a diagnostic is about: the first primary one, else the first. -/
def mainOf (spans : List SpanSpec) : Option SpanSpec := (spans.find? (·.isPrimary)).or spans.head?

/-- The other spans. -/
def othersOf (spans : List SpanSpec) : List SpanSpec :=
  if spans.any (·.isPrimary) then spans.eraseP (·.isPrimary) else spans.tail

/-- The note that a child gives rise to below a place: none if it says nothing. Without a place of
its own it points at that one. -/
def note? (parent : Place) : DiagnosticSpec → Option Diagnostic
  | mk level message spans code _ =>
    if message = "" then none
    else
      let place := ((mainOf spans).bind SpanSpec.place?).getD parent
      some (.mk ⟨place.file⟩ place.range (.ofLevel level) message code [])

/-- The message with the label of the main span behind it, unless that says the same. -/
def textOf (message : String) (main : SpanSpec) : String :=
  match main.label? with
  | some label => if label = message then message else message ++ "\n" ++ label
  | none => message

/-- The diagnostic that is read: it lies at its main span, with notes of the other spans and of the
children. -/
def diagnosticAt (main : SpanSpec) : DiagnosticSpec → Diagnostic
  | mk level message spans code children =>
    .mk ⟨main.file⟩ main.place.range (.ofLevel level) (textOf message main) code
      ((othersOf spans).filterMap (·.note? (.ofLevel level) message) ++
        children.filterMap (note? main.place))

mutual

/-- The coordinates of all spans fit. -/
def InBounds : DiagnosticSpec → Prop
  | mk _ _ spans _ children => (∀ s ∈ spans, s.InBounds) ∧ AllInBounds children

/-- The coordinates of all spans of several diagnostics fit. -/
def AllInBounds : List DiagnosticSpec → Prop
  | [] => True
  | d :: ds => InBounds d ∧ AllInBounds ds

end

end DiagnosticSpec

/-! ### Spans -/

section Spans

variable {s : SpanSpec}

/-- What is read of a span. -/
def SpanSpec.read (s : SpanSpec) : Span := ⟨s.place, [], s.isPrimary, s.label?, none⟩

lemma coordinate?_eq {v : Json} {name : String} {n : Nat} (h : v.getNatural? name = some n)
    (hn : n ≤ Range.maxCoordinate) : coordinate? v name = some n := by
  rw [coordinate?, h, Option.map_some, Nat.min_eq_left hn]

lemma SpanSpec.getString?_label (s : SpanSpec) : s.toJson.getString? "label" = s.label := by
  obtain ⟨_, _, _, _, _, _, label⟩ := s
  cases label <;> rfl

/-- **A span is read back.** -/
theorem SpanSpec.ofJson?_toJson (h : s.InBounds) : Span.ofJson? s.toJson = some s.read := by
  obtain ⟨hline, hcolumn, hlineEnd, hcolumnEnd⟩ := h
  have hplace : Place.ofJson? s.toJson = some s.place := by
    have hfile : s.toJson.getString? "file_name" = some s.file := rfl
    have hline := coordinate?_eq (show s.toJson.getNatural? "line_start" = _ from rfl) hline
    have hcolumn := coordinate?_eq (show s.toJson.getNatural? "column_start" = _ from rfl) hcolumn
    have hlineEnd := coordinate?_eq (show s.toJson.getNatural? "line_end" = _ from rfl) hlineEnd
    have hcolumnEnd :=
      coordinate?_eq (show s.toJson.getNatural? "column_end" = _ from rfl) hcolumnEnd
    simp only [Place.ofJson?, hfile, hline, hcolumn, hlineEnd, hcolumnEnd]
    rfl
  have hchain : chain s.toJson = [s.place] := by
    rw [chain, hplace]
    rfl
  rw [Span.ofJson?, hchain]
  simp only [SpanSpec.getString?_label]
  rfl

/-- The first element with a property, else the first one, and all but that. -/
lemma getElem?_findIdx? {α : Type} (p : α → Bool) (l : List α) :
    l[(l.findIdx? p).getD 0]? = (l.find? p).or l.head? ∧
      l.eraseIdx ((l.findIdx? p).getD 0) = if l.any p then l.eraseP p else l.tail := by
  rcases hi : l.findIdx? p with _ | i
  · have hnone := List.findIdx?_eq_none_iff.1 hi
    have hfind : l.find? p = none := List.find?_eq_none.2 fun x hx => by simp [hnone x hx]
    have hany : l.any p = false := by simpa using hnone
    cases l <;> simp [hfind, hany]
  · obtain ⟨hlt, hp, hbefore⟩ := List.findIdx?_eq_some_iff_getElem.1 hi
    have hfind : l.find? p = some l[i] :=
      List.find?_eq_some_iff_getElem.2 ⟨hp, i, hlt, rfl, fun j hj => by simp [hbefore j hj]⟩
    have hany : l.any p = true := List.any_eq_true.2 ⟨l[i], List.getElem_mem hlt, hp⟩
    simp [hfind, hany, hlt, List.eraseP_eq_eraseIdx, hi]

/-- The span that a message is about, and the others. -/
lemma primaryIndex?_map_read {spans : List SpanSpec} {main : SpanSpec}
    (h : DiagnosticSpec.mainOf spans = some main) :
    ∃ index, primaryIndex? (spans.map SpanSpec.read) = some index ∧
      (spans.map SpanSpec.read)[index]? = some main.read ∧
      (spans.map SpanSpec.read).eraseIdx index =
        (DiagnosticSpec.othersOf spans).map SpanSpec.read := by
  have hne : spans ≠ [] := by
    rintro rfl
    cases h
  have hindex : (spans.map SpanSpec.read).findIdx? (·.isPrimary) =
      spans.findIdx? (·.isPrimary) := by
    rw [List.findIdx?_map]
    rfl
  obtain ⟨hget, herase⟩ := getElem?_findIdx? (·.isPrimary) spans
  refine ⟨(spans.findIdx? (·.isPrimary)).getD 0, ?_, ?_, ?_⟩
  · rw [primaryIndex?, hindex, if_neg (by simpa using hne)]
  · rw [List.getElem?_map, hget]
    exact congrArg (Option.map SpanSpec.read) h
  · rw [List.eraseIdx_map, herase]
    rfl

lemma primaryIndex?_eq_none {spans : List SpanSpec} (h : DiagnosticSpec.mainOf spans = none) :
    primaryIndex? (spans.map SpanSpec.read) = none := by
  cases spans with
  | nil => rfl
  | cons s spans => simp [DiagnosticSpec.mainOf] at h

lemma SpanSpec.resolve?_read (s : SpanSpec) : s.read.resolve? = s.place? := by
  cases h : isRealFile s.file <;> simp [Span.resolve?, read, place, place?, h]

lemma SpanSpec.noteOfSpan_read (severity : Severity) (message : String) (s : SpanSpec) :
    noteOfSpan severity message s.read = s.note? severity message := by
  rw [noteOfSpan, resolve?_read]
  rfl

lemma SpanSpec.writable_toJson (h : s.InBounds) : s.toJson.Writable := by
  obtain ⟨hline, hcolumn, hlineEnd, hcolumnEnd⟩ := h
  have hlabel : (ofText? s.label).Writable := by cases s.label <;> trivial
  have hmax : Range.maxCoordinate < 2 ^ 64 := by decide
  simp only [toJson, Json.Writable, Json.MembersWritable, hlabel, true_and, and_true]
  omega

end Spans

/-! ### Diagnostics -/

namespace DiagnosticSpec

variable {d : DiagnosticSpec} {level message : String} {spans : List SpanSpec}
  {code : Option String} {children : List DiagnosticSpec}

lemma toJsons_eq_map (ds : List DiagnosticSpec) : toJsons ds = ds.map toJson := by
  induction ds with
  | nil => rfl
  | cons d ds ih => rw [toJsons, ih, List.map_cons]

lemma allInBounds_iff {ds : List DiagnosticSpec} : AllInBounds ds ↔ ∀ d ∈ ds, d.InBounds := by
  induction ds with
  | nil => simp [AllInBounds]
  | cons d ds ih => rw [AllInBounds, ih, List.forall_mem_cons]

lemma codeOf_toJson : codeOf (mk level message spans code children).toJson = code := by
  cases code <;> rfl

lemma severityOf_toJson :
    severityOf (mk level message spans code children).toJson = .ofLevel level := rfl

lemma getString?_rendered (d : DiagnosticSpec) :
    d.toJson.getString? "rendered" = some d.rendered := by
  obtain ⟨level, message, spans, code, children⟩ := d
  rfl

lemma spansOf_toJson (h : ∀ s ∈ spans, s.InBounds) :
    spansOf (mk level message spans code children).toJson = spans.map SpanSpec.read := by
  have hspans : spansOf (mk level message spans code children).toJson =
      (spans.map SpanSpec.toJson).filterMap Span.ofJson? := rfl
  rw [hspans, List.filterMap_map, ← List.filterMap_eq_map']
  exact List.filterMap_congr fun s hs => SpanSpec.ofJson?_toJson (h s hs)

/-- **The note of a child is read back.** -/
theorem noteOfChild_toJson (h : d.InBounds) (parent : Place) :
    noteOfChild parent d.toJson = d.note? parent := by
  obtain ⟨level, message, spans, code, children⟩ := d
  have htext : ((mk level message spans code children).toJson.getString? "message").getD "" =
      message := rfl
  simp only [noteOfChild, htext, note?, spansOf_toJson h.1, severityOf_toJson, codeOf_toJson]
  rcases hmain : mainOf spans with _ | main
  · rw [primaryIndex?_eq_none hmain]
    rfl
  · obtain ⟨index, hindex, hget, -⟩ := primaryIndex?_map_read hmain
    rw [hindex, Option.bind_some, hget, Option.bind_some, Option.bind_some,
      SpanSpec.resolve?_read]
    rfl

lemma filterMap_noteOfSpan (severity : Severity) :
    (spans.map SpanSpec.read).filterMap (noteOfSpan severity message) =
      spans.filterMap (·.note? severity message) := by
  rw [List.filterMap_map]
  exact List.filterMap_congr fun s _ => SpanSpec.noteOfSpan_read severity message s

lemma filterMap_noteOfChild (h : AllInBounds children) (parent : Place) :
    ((toJsons children).filter (·.object?.isSome)).filterMap (noteOfChild parent) =
      children.filterMap (note? parent) := by
  have hobject : (children.map toJson).filter (·.object?.isSome) = children.map toJson := by
    refine List.filter_eq_self.2 fun v hv => ?_
    obtain ⟨⟨_, _, _, _, _⟩, -, rfl⟩ := List.mem_map.1 hv
    rfl
  rw [toJsons_eq_map, hobject, List.filterMap_map]
  exact List.filterMap_congr fun child hc =>
    noteOfChild_toJson (allInBounds_iff.1 h child hc) parent

/-- **A diagnostic is read back.** -/
theorem diagnosticOf_toJson {main : SpanSpec} (h : d.InBounds) (hmain : mainOf d.spans = some main)
    (hfile : isRealFile main.file = true) : diagnosticOf d.toJson = some (d.diagnosticAt main) := by
  obtain ⟨level, message, spans, code, children⟩ := d
  have hmain : mainOf spans = some main := hmain
  obtain ⟨index, hindex, hget, hothers⟩ := primaryIndex?_map_read hmain
  have hplace : main.read.resolve? = some main.place := by
    rw [SpanSpec.resolve?_read, SpanSpec.place?, if_pos hfile]
  have htext : ((mk level message spans code children).toJson.getString? "message").getD "" =
      message := rfl
  have hitems : (((mk level message spans code children).toJson.get? "children").bind
      Json.array?).getD [] = toJsons children := rfl
  simp only [diagnosticOf, spansOf_toJson h.1, Option.bind_eq_bind, hindex, hget, hplace,
    Option.bind_some, hothers, htext, hitems, filterMap_noteOfSpan, filterMap_noteOfChild h.2,
    severityOf_toJson, codeOf_toJson]
  rfl

mutual

/-- A diagnostic whose coordinates fit is printed as it is. -/
theorem writable_toJson : ∀ d : DiagnosticSpec, d.InBounds → d.toJson.Writable
  | mk level message spans code children, h => by
    have hspans : Json.AllWritable (spans.map SpanSpec.toJson) := by
      refine Json.allWritable_iff.2 fun v hv => ?_
      obtain ⟨s, hs, rfl⟩ := List.mem_map.1 hv
      exact SpanSpec.writable_toJson (h.1 s hs)
    have hcode : (codeJson code).Writable := by
      cases code <;> simp [codeJson, Json.Writable, Json.MembersWritable]
    have hchildren := allWritable_toJsons children h.2
    simp [toJson, Json.Writable, Json.MembersWritable, hspans, hcode, hchildren]

/-- Diagnostics whose coordinates fit are printed as they are. -/
theorem allWritable_toJsons : ∀ ds : List DiagnosticSpec, AllInBounds ds →
    Json.AllWritable (toJsons ds)
  | [], _ => trivial
  | d :: ds, h => ⟨writable_toJson d h.1, allWritable_toJsons ds h.2⟩

end

end DiagnosticSpec

/-! ### Objects that were written -/

lemma trimChars_braces (cs : List Char) :
    Text.trimChars ('{' :: cs ++ ['}']) = '{' :: cs ++ ['}'] := by
  have hopen : Text.isBlank '{' = false := by decide
  have hclose : Text.isBlank '}' = false := by decide
  simp [Text.trimChars, Text.trimStart, Text.trimEnd, hopen, hclose]

/-- **An object that was written is read back**, unless more arrays and objects stand inside one
another than the reader opens at once. -/
theorem object?_render {members : List (String × Json)} (h : (Json.object members).Writable) :
    object? (Json.object members).render =
      if (Json.object members).depth ≤ Json.maxDepth then some (.object members) else none := by
  have hchars : (Json.object members).render.toList = (Json.object members).chars :=
    String.toList_ofList
  have htrim : Text.trimChars (Json.object members).chars = (Json.object members).chars := by
    rw [Json.chars]
    exact trimChars_braces _
  rw [object?, hchars, htrim, Json.parse?_chars h]
  split <;> rfl

/-! ### Messages -/

lemma writable_compilerMessage {d : DiagnosticSpec} (h : d.InBounds) :
    (compilerMessage d).Writable := by
  have hd := d.writable_toJson h
  simp [compilerMessage, packageId, Json.Writable, Json.MembersWritable, Json.AllWritable, hd]

lemma body?_compilerMessage (d : DiagnosticSpec) :
    Format.envelope.body? (compilerMessage d) = some d.toJson := by
  obtain ⟨level, message, spans, code, children⟩ := d
  rfl

/-- A message about a place in a file, with coordinates that fit. -/
structure Written where
  diagnostic : DiagnosticSpec
  main : SpanSpec
  main_eq : DiagnosticSpec.mainOf diagnostic.spans = some main
  inFile : isRealFile main.file = true
  inBounds : diagnostic.InBounds

namespace Written

variable (m : Written)

/-- The message as a value. -/
def json : Json := compilerMessage m.diagnostic

/-- The characters of the line of a message. -/
def chars : List Char := m.json.chars

/-- The line of a message. -/
def line : String := m.json.render

/-- The message opens no more arrays and objects inside one another than the reader does. -/
def Fits : Prop := m.json.depth ≤ Json.maxDepth

instance : Decidable m.Fits := inferInstanceAs (Decidable (_ ≤ _))

/-- The diagnostic that is read. -/
def published : Diagnostic := m.diagnostic.diagnosticAt m.main

lemma chars_eq : ∃ cs, m.chars = '{' :: cs ++ ['}'] :=
  ⟨_, by rw [chars, json, compilerMessage, Json.chars]⟩

/-- **The object of a message is read back** if it fits. -/
theorem object?_line : object? m.line = if m.Fits then some m.json else none :=
  object?_render (writable_compilerMessage m.inBounds)

/-- **What is read of a message**: its diagnostic and its text, or that it is no message. -/
theorem read_line {format : Option Format} (h : format = none ∨ format = some .envelope) :
    read format m.line =
      if m.Fits then (⟨true, true, some m.published, some m.diagnostic.rendered⟩, some .envelope)
      else (.plain, format) := by
  by_cases hfits : m.Fits
  · have hformat : format.or (Format.detect? m.json) = some .envelope := by
      rcases h with rfl | rfl <;> rfl
    have hread : readObject .envelope m.json =
        ⟨true, true, some m.published, some m.diagnostic.rendered⟩ := by
      simp only [readObject, json, body?_compilerMessage, DiagnosticSpec.getString?_rendered,
        DiagnosticSpec.diagnosticOf_toJson m.inBounds m.main_eq m.inFile]
      rfl
    simp only [read, object?_line, if_pos hfits, hformat, hread]
  · simp only [read, object?_line, if_neg hfits]

/-- The line of a message is one line, and no carriage return stands at its end. -/
lemma chars_clean : '\n' ∉ m.chars ∧ m.chars.getLast? ≠ some '\r' := by
  refine ⟨fun h => ?_, ?_⟩
  · have hge := Json.chars_ge m.json '\n' h
    revert hge
    decide
  · obtain ⟨cs, hcs⟩ := m.chars_eq
    rw [hcs, List.getLast?_concat]
    decide

end Written

end BuildRunner.Message
