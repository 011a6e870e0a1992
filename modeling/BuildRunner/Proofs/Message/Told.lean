import BuildRunner.Message.Reading
import Mathlib.Data.List.Forall2
import Mathlib.Tactic.Common

/-!
What a message tells, said of the value that it is (`Tells`): it lies at its main span, and its
children are a note for each other span that lies in a file and a note for each of its own children
that says something, in this order. The diagnostic of a message is the one it tells, and there is
none exactly when it has no main span or that lies in no file (`diagnosticOf_tells`).
-/

namespace BuildRunner

/-- The path of a diagnostic, its range and so on are all there is to it. -/
lemma Diagnostic.eq_mk_iff {d : Diagnostic} {path : Path} {range : Range} {severity : Severity}
    {message : String} {code : Option String} {children : List Diagnostic} :
    d = .mk path range severity message code children ↔
      d.path = path ∧ d.range = range ∧ d.severity = severity ∧ d.message = message ∧
        d.code = code ∧ d.children = children := by
  cases d
  simp [Diagnostic.path, Diagnostic.range, Diagnostic.severity, Diagnostic.message,
    Diagnostic.code, Diagnostic.children]

namespace Message

/-! ### Lists -/

section Lists

variable {α β : Type}

/-- **The foremost element** of a list with a property, and what stands before and behind it: the
first element that has the property, or just the first one when none has it. -/
def Foremost (P : α → Prop) (before : List α) (x : α) (behind : List α) : Prop :=
  (P x ∧ ∀ y ∈ before, ¬ P y) ∨ before = [] ∧ ∀ y ∈ x :: behind, ¬ P y

lemma exists_foremost (P : α → Prop) {l : List α} (h : l ≠ []) :
    ∃ before x behind, l = before ++ x :: behind ∧ Foremost P before x behind := by
  classical
  rcases hfind : l.find? (P ·) with _ | x
  · obtain ⟨x, behind, rfl⟩ := List.exists_cons_of_ne_nil h
    exact ⟨[], x, behind, rfl, .inr ⟨rfl, by simpa using hfind⟩⟩
  · obtain ⟨hx, before, behind, rfl, hbefore⟩ := List.find?_eq_some_iff_append.1 hfind
    exact ⟨before, x, behind, rfl, .inl ⟨by simpa using hx, by simpa using hbefore⟩⟩

/-- The values of a partial function, one for each element at which it is defined. -/
lemma forall₂_filter_iff {P : α → Prop} [DecidablePred P] {R : α → β → Prop} {g : α → Option β}
    (hdefined : ∀ x, P x ↔ (g x).isSome) (hvalue : ∀ x, P x → ∀ y, R x y ↔ g x = some y)
    {l : List α} {ys : List β} : List.Forall₂ R (l.filter P) ys ↔ l.filterMap g = ys := by
  induction l generalizing ys with
  | nil => simp [eq_comm]
  | cons x l ih =>
    by_cases hx : P x
    · obtain ⟨y, hy⟩ := Option.isSome_iff_exists.1 ((hdefined x).1 hx)
      rw [List.filter_cons_of_pos (by simpa using hx), List.filterMap_cons_some hy,
        List.forall₂_cons_left_iff]
      constructor
      · rintro ⟨y', ys, hR, htail, rfl⟩
        rw [(hvalue x hx y').1 hR, Option.some.injEq] at hy
        rw [hy, ih.1 htail]
      · rintro rfl
        exact ⟨y, _, (hvalue x hx y).2 hy, ih.2 rfl, rfl⟩
    · have hnone : g x = none := by simpa using (hdefined x).not.1 hx
      rw [List.filter_cons_of_neg (by simpa using hx), List.filterMap_cons_none hnone, ih]

end Lists

/-! ### Places -/

/-- **A name of a file**: not empty, and not one in angle brackets. -/
def RealFile (name : String) : Prop := name ≠ "" ∧ ∀ inner : String, name ≠ "<" ++ inner ++ ">"

lemma isRealFile_iff {name : String} : isRealFile name = true ↔ RealFile name := by
  have hform : (∃ inner : String, name = "<" ++ inner ++ ">") ↔
      name.toList.head? = some '<' ∧ name.toList.getLast? = some '>' := by
    constructor
    · rintro ⟨inner, rfl⟩
      have htext : ("<" ++ inner ++ ">").toList = '<' :: inner.toList ++ ['>'] := by
        simp [String.toList_append]
      rw [htext, List.getLast?_concat]
      exact ⟨rfl, rfl⟩
    · rintro ⟨hhead, hlast⟩
      obtain ⟨cs, hcs⟩ := List.head?_eq_some_iff.1 hhead
      rcases List.eq_nil_or_concat' cs with rfl | ⟨inner, c, rfl⟩
      · -- One character does not open and close.
        rw [hcs] at hlast
        exact absurd hlast (by decide)
      · obtain rfl : c = '>' := by
          rw [hcs, ← List.cons_append, List.getLast?_concat] at hlast
          exact Option.some.inj hlast
        refine ⟨String.ofList inner, String.toList_inj.1 ?_⟩
        rw [hcs]
        simp [String.toList_append]
  rw [isRealFile, RealFile, ← not_exists, hform]
  simp [imp_iff_not_or]

/-- **The place that a span resolves to**: its own when that is in a file, else that of the span it
was expanded at, and so on outwards as long as spans can be read. -/
inductive Resolves : Json → Place → Prop where
  | own {v : Json} {place : Place} (read : Place.ofJson? v = some place)
    (inFile : RealFile place.file) : Resolves v place
  | outwards {v w : Json} {inner place : Place} (read : Place.ofJson? v = some inner)
    (elsewhere : ¬ RealFile inner.file) (expanded : expansion? v = some w)
    (outer : Resolves w place) : Resolves v place

section Places

variable {v : Json} {place : Place}

lemma chain_of_none (h : Place.ofJson? v = none) : chain v = [] := by
  rw [chain, h]

lemma chain_of_some (h : Place.ofJson? v = some place) :
    chain v = place :: ((expansion? v).map chain).getD [] := by
  rw [chain, h]
  dsimp only
  split <;> simp [*]

lemma resolves_iff : Resolves v place ↔ (chain v).find? (isRealFile ·.file) = some place := by
  constructor
  · intro h
    induction h with
    | own read inFile => simp [chain_of_some read, isRealFile_iff.2 inFile]
    | outwards read elsewhere expanded _ ih =>
      have hfile := mt isRealFile_iff.1 elsewhere
      simpa [chain_of_some read, hfile, expanded] using ih
  · intro h
    induction v using chain.induct with
    | case1 v hread => simp [chain_of_none hread] at h
    | case2 v inner hread hexpansion =>
      rw [chain_of_some hread, hexpansion] at h
      obtain ⟨hfile, rfl⟩ : isRealFile inner.file = true ∧ inner = place := by simpa using h
      exact .own hread (isRealFile_iff.1 hfile)
    | case3 v inner hread w hexpansion ih =>
      rw [chain_of_some hread, hexpansion] at h
      by_cases hfile : isRealFile inner.file = true
      · obtain rfl : inner = place := by simpa [hfile] using h
        exact .own hread (isRealFile_iff.1 hfile)
      · have houter : (chain w).find? (isRealFile ·.file) = some place := by
          simpa [hfile] using h
        exact .outwards hread (mt isRealFile_iff.2 hfile) hexpansion (ih houter)

end Places

/-! ### What a message and its spans are made of -/

/-- The text of a member, empty when there is none. -/
def textOf (v : Json) (name : String) : String := (v.getString? name).getD ""

/-- The items of a member, none when it is no array. -/
def itemsOf (v : Json) (name : String) : List Json := ((v.get? name).bind Json.array?).getD []

/-- A span can be read when it names a file and a first line. -/
def Readable (w : Json) : Prop :=
  (w.getString? "file_name").isSome ∧ (w.getNatural? "line_start").isSome

instance : DecidablePred Readable := fun _ => inferInstanceAs (Decidable (_ ∧ _))

/-- The spans of a message that can be read. -/
def readableSpans (v : Json) : List Json := (itemsOf v "spans").filter Readable

/-- A span that is marked as primary. -/
def Primary (w : Json) : Prop := w.get? "is_primary" = some (.bool true)

/-- A span that lies in a file. -/
def InFile (w : Json) : Prop := ∃ place, Resolves w place

instance : DecidablePred InFile := fun w =>
  decidable_of_iff ((chain w).find? (isRealFile ·.file)).isSome <| by
    simp only [InFile, resolves_iff, Option.isSome_iff_exists]

/-- **The main span** of a message, and those before and behind it: the first primary one, else the
first one, of those that can be read. -/
structure MainSpan (v : Json) (before : List Json) (main : Json) (behind : List Json) : Prop where
  spans : readableSpans v = before ++ main :: behind
  foremost : Foremost Primary before main behind

/-- A child that says something. -/
def Speaks (w : Json) : Prop := w.object?.isSome ∧ textOf w "message" ≠ ""

instance : DecidablePred Speaks := fun _ => inferInstanceAs (Decidable (_ ∧ _))

/-! ### What a message tells -/

/-- A diagnostic lies at a place. -/
def LiesAt (d : Diagnostic) (place : Place) : Prop := d.path = ⟨place.file⟩ ∧ d.range = place.range

/-- What a message says with its main span: the label of that is part of it when it says something
else. -/
def labelled (v main : Json) : String :=
  if textOf main "label" = "" ∨ textOf main "label" = textOf v "message" then textOf v "message"
  else textOf v "message" ++ "\n" ++ textOf main "label"

/-- What a child says with its main span: the replacement that this suggests is part of it. -/
def suggested (w main : Json) : String :=
  if textOf main "suggested_replacement" = "" then textOf w "message"
  else textOf w "message" ++ ": `" ++ textOf main "suggested_replacement" ++ "`"

/-- **The note that a span tells** beside the main one: it lies where the span does, says what the
label of the span says, else what the message says, and is as grave as the message when the span is
primary too. -/
structure SpanNote (v w : Json) (note : Diagnostic) : Prop where
  lies : ∃ place, Resolves w place ∧ LiesAt note place
  primary : Primary w → note.severity = .ofLevel (textOf v "level")
  secondary : ¬ Primary w → note.severity = .note
  message : note.message = if textOf w "label" = "" then textOf v "message" else textOf w "label"
  code : note.code = none
  children : note.children = []

/-- **The note that a child tells** of a message at a place: it lies at its own main span if that is
in a file, else at that place. -/
structure ChildNote (parent : Place) (w : Json) (note : Diagnostic) : Prop where
  severity : note.severity = .ofLevel (textOf w "level")
  code : note.code = codeOf w
  children : note.children = []
  told : readableSpans w = [] ∧ LiesAt note parent ∧ note.message = textOf w "message" ∨
    ∃ before main behind, MainSpan w before main behind ∧
      ((∃ place, Resolves main place ∧ LiesAt note place) ∨ ¬ InFile main ∧ LiesAt note parent) ∧
      note.message = suggested w main

/-- **What a message tells**, with its main span at a place and others beside it. -/
structure Tells (v main : Json) (others : List Json) (place : Place) (d : Diagnostic) : Prop where
  lies : LiesAt d place
  severity : d.severity = .ofLevel (textOf v "level")
  message : d.message = labelled v main
  code : d.code = codeOf v
  children : ∃ notes remarks, d.children = notes ++ remarks ∧
    List.Forall₂ (SpanNote v) (others.filter InFile) notes ∧
    List.Forall₂ (ChildNote place) ((itemsOf v "children").filter Speaks) remarks

/-! ### Spans as they are read -/

section Spans

variable {v w : Json} {s : Span}

lemma isSome_ofJson?_place : (Place.ofJson? w).isSome ↔ Readable w := by
  unfold Place.ofJson? coordinate? Readable
  cases w.getString? "file_name" <;> cases w.getNatural? "line_start" <;> simp

lemma isSome_ofJson? : (Span.ofJson? w).isSome ↔ Readable w := by
  rw [← isSome_ofJson?_place, Span.ofJson?]
  rcases hplace : Place.ofJson? w with _ | place
  · simp [chain_of_none hplace]
  · simp [chain_of_some hplace]

/-- **A span resolves to the place that is found for it.** -/
lemma resolve?_ofJson? {place : Place} :
    (Span.ofJson? w).bind Span.resolve? = some place ↔ Resolves w place := by
  rw [resolves_iff, Span.ofJson?]
  rcases chain w with _ | ⟨inner, outer⟩ <;> rfl

lemma inFile_iff : InFile w ↔ ((Span.ofJson? w).bind Span.resolve?).isSome := by
  simp only [InFile, ← resolve?_ofJson?, Option.isSome_iff_exists]

lemma nonEmpty?_eq (text : Option String) :
    nonEmpty? text = if text.getD "" = "" then none else some (text.getD "") := by
  rcases text with _ | text
  · rfl
  · by_cases h : text = "" <;> simp [nonEmpty?, Option.filter, h]

/-- **What is read of a span.** -/
lemma of_ofJson? (h : Span.ofJson? w = some s) :
    (s.isPrimary = true ↔ Primary w) ∧
      s.label = (if textOf w "label" = "" then none else some (textOf w "label")) ∧
      nonEmpty? s.replacement =
        if textOf w "suggested_replacement" = "" then none
        else some (textOf w "suggested_replacement") := by
  unfold Span.ofJson? at h
  split at h
  · cases h
  · rw [← Option.some.inj h]
    refine ⟨?_, nonEmpty?_eq _, nonEmpty?_eq _⟩
    rcases hprimary : w.get? "is_primary" with _ | b
    · simp [Primary, hprimary]
    · cases b <;> simp [Primary, hprimary, Json.bool?]

lemma spansOf_eq (v : Json) : spansOf v = (readableSpans v).filterMap Span.ofJson? := by
  rw [readableSpans, List.filterMap_filter, spansOf, itemsOf]
  refine List.filterMap_congr fun w _ => ?_
  by_cases h : Readable w
  · simp [h]
  · have hnone : Span.ofJson? w = none := by simpa using isSome_ofJson?.not.2 h
    simp [h, hnone]

lemma readable_of_mem (h : w ∈ readableSpans v) : Readable w := by
  simpa using (List.mem_filter.1 h).2

end Spans

/-! ### The main span as it is read -/

section Main

variable {v main : Json} {before behind : List Json}

lemma exists_mainSpan (h : readableSpans v ≠ []) :
    ∃ before main behind, MainSpan v before main behind := by
  obtain ⟨before, main, behind, hspans, hforemost⟩ := exists_foremost Primary h
  exact ⟨before, main, behind, hspans, hforemost⟩

lemma findIdx?_of_foremost {α : Type} {p : α → Bool} {before behind : List α} {x : α}
    (h : Foremost (p · = true) before x behind) :
    ((before ++ x :: behind).findIdx? p).getD 0 = before.length := by
  rcases h with ⟨hx, hbefore⟩ | ⟨rfl, hall⟩
  · have hnone : before.findIdx? p = none :=
      List.findIdx?_eq_none_iff.2 fun y hy => by simpa using hbefore y hy
    simp [List.findIdx?_append, hnone, List.findIdx?_cons, hx]
  · have hnone : (x :: behind).findIdx? p = none :=
      List.findIdx?_eq_none_iff.2 fun y hy => by simpa using hall y hy
    rw [List.nil_append, hnone]
    rfl

/-- **The main span is the one that is found**, and what is left without it are the others. -/
lemma MainSpan.index (h : MainSpan v before main behind) :
    ∃ index s, primaryIndex? (spansOf v) = some index ∧ (spansOf v)[index]? = some s ∧
      Span.ofJson? main = some s ∧
      (spansOf v).eraseIdx index = (before ++ behind).filterMap Span.ofJson? := by
  have hread : Readable main := readable_of_mem (v := v) (by simp [h.spans])
  obtain ⟨s, hs⟩ := Option.isSome_iff_exists.1 (isSome_ofJson?.2 hread)
  have hspans : spansOf v =
      before.filterMap Span.ofJson? ++ s :: behind.filterMap Span.ofJson? := by
    rw [spansOf_eq, h.spans, List.filterMap_append, List.filterMap_cons_some hs]
  -- What is read of a span is marked as primary exactly when the span is.
  have hprimary : ∀ spans : List Json, (∀ w ∈ spans, ¬ Primary w) →
      ∀ s ∈ spans.filterMap Span.ofJson?, ¬ s.isPrimary = true := by
    intro spans hnone s hs
    obtain ⟨w, hw, hread⟩ := List.mem_filterMap.1 hs
    rw [(of_ofJson? hread).1]
    exact hnone w hw
  have hforemost : Foremost (·.isPrimary = true) (before.filterMap Span.ofJson?) s
      (behind.filterMap Span.ofJson?) := by
    rcases h.foremost with ⟨hmain, hbefore⟩ | ⟨rfl, hall⟩
    · exact .inl ⟨(of_ofJson? hs).1.2 hmain, hprimary before hbefore⟩
    · have hall := hprimary (main :: behind) hall
      rw [List.filterMap_cons_some hs] at hall
      exact .inr ⟨rfl, hall⟩
  refine ⟨(before.filterMap Span.ofJson?).length, s, ?_, ?_, hs, ?_⟩
  · rw [primaryIndex?, hspans, findIdx?_of_foremost hforemost, if_neg (by simp)]
  · rw [hspans, List.getElem?_append_right (Nat.le_refl _), Nat.sub_self]
    rfl
  · rw [hspans, List.eraseIdx_append_of_length_le (Nat.le_refl _), Nat.sub_self,
      List.filterMap_append]
    rfl

lemma primaryIndex?_of_nil (h : readableSpans v = []) : primaryIndex? (spansOf v) = none := by
  rw [spansOf_eq, h]
  rfl

end Main

/-! ### Notes as they are made -/

section Notes

variable {v w main : Json} {before behind : List Json} {s : Span} {parent : Place}
  {note : Diagnostic}

/-- The note that is made of a span of a message. -/
def spanNote? (v w : Json) : Option Diagnostic :=
  (Span.ofJson? w).bind (noteOfSpan (severityOf v) (textOf v "message"))

/-- The note that is made of a child of a message at a place. -/
def childNote? (parent : Place) (w : Json) : Option Diagnostic :=
  if w.object?.isSome then noteOfChild parent w else none

/-- The note of a span is the one that it tells. -/
lemma spanNote_iff : SpanNote v w note ↔ spanNote? v w = some note := by
  rw [spanNote?]
  rcases hread : Span.ofJson? w with _ | s
  · refine iff_of_false (fun h => ?_) (by simp)
    obtain ⟨place, hplace, -⟩ := h.lies
    simp [← resolve?_ofJson?, hread] at hplace
  · obtain ⟨hprimary, hlabel, -⟩ := of_ofJson? hread
    have hplace : ∀ place, s.resolve? = some place ↔ Resolves w place := fun place => by
      rw [← resolve?_ofJson?, hread, Option.bind_some]
    have hsays : s.label.getD (textOf v "message") =
        if textOf w "label" = "" then textOf v "message" else textOf w "label" := by
      rw [hlabel]
      split <;> rfl
    rw [Option.bind_some, noteOfSpan, Option.map_eq_some_iff]
    constructor
    · rintro ⟨⟨place, hresolves, hpath, hrange⟩, hyes, hno, hmessage, hcode, hchildren⟩
      refine ⟨place, (hplace place).2 hresolves, (Diagnostic.eq_mk_iff.2 ⟨hpath, hrange, ?_,
        hmessage.trans hsays.symm, hcode, hchildren⟩).symm⟩
      split
      case isTrue h => exact hyes (hprimary.1 h)
      case isFalse h => exact hno (mt hprimary.2 h)
    · rintro ⟨place, hresolves, hnote⟩
      obtain ⟨hpath, hrange, hseverity, hmessage, hcode, hchildren⟩ :=
        Diagnostic.eq_mk_iff.1 hnote.symm
      refine ⟨⟨place, (hplace place).1 hresolves, hpath, hrange⟩, fun h => ?_, fun h => ?_,
        hmessage.trans hsays, hcode, hchildren⟩
      · rw [hseverity, if_pos (hprimary.2 h)]
        rfl
      · rw [hseverity, if_neg (mt hprimary.1 h)]

/-- A span gives rise to a note exactly when it lies in a file. -/
lemma inFile_iff_note (v w : Json) : InFile w ↔ (spanNote? v w).isSome := by
  rw [inFile_iff, spanNote?]
  cases Span.ofJson? w <;> simp [noteOfSpan]

/-- A child gives rise to a note exactly when it says something. -/
lemma speaks_iff_note (parent : Place) (w : Json) : Speaks w ↔ (childNote? parent w).isSome := by
  rw [childNote?]
  by_cases hobject : w.object?.isSome
  · by_cases htext : textOf w "message" = ""
    · have hnone : noteOfChild parent w = none := by
        rw [noteOfChild]
        exact if_pos htext
      simp [Speaks, htext, hnone]
    · have hsome : (noteOfChild parent w).isSome := by
        rw [noteOfChild]
        simp only [show (w.getString? "message").getD "" ≠ "" from htext, if_false]
        rfl
      simp [Speaks, htext, hobject, hsome]
  · simp [Speaks, hobject]

/-- The note of a child without a span that can be read. -/
lemma noteOfChild_of_nil (htext : textOf w "message" ≠ "") (h : readableSpans w = []) :
    noteOfChild parent w = some (.mk ⟨parent.file⟩ parent.range (severityOf w)
      (textOf w "message") (codeOf w) []) := by
  have htext : (w.getString? "message").getD "" ≠ "" := htext
  simp only [noteOfChild, primaryIndex?_of_nil h, htext, if_false]
  rfl

/-- The note of a child with a main span. -/
lemma noteOfChild_of_mainSpan (htext : textOf w "message" ≠ "")
    (h : MainSpan w before main behind) (hread : Span.ofJson? main = some s) :
    noteOfChild parent w = some (.mk ⟨(s.resolve?.getD parent).file⟩ (s.resolve?.getD parent).range
      (severityOf w) (suggested w main) (codeOf w) []) := by
  have htext : (w.getString? "message").getD "" ≠ "" := htext
  obtain ⟨index, s', hindex, hs', hread', -⟩ := h.index
  obtain rfl := Option.some.inj (hread.symm.trans hread')
  obtain ⟨-, -, hreplacement⟩ := of_ofJson? hread
  simp only [noteOfChild, hindex, hs', htext, if_false, Option.bind_some, hreplacement, suggested]
  by_cases hnone : textOf main "suggested_replacement" = ""
  · simp only [hnone, if_true]
    rfl
  · simp only [hnone, if_false]
    rfl

/-- The note of a child that says something is the one that it tells. -/
lemma childNote_iff (hspeaks : Speaks w) :
    ChildNote parent w note ↔ childNote? parent w = some note := by
  obtain ⟨hobject, htext⟩ := hspeaks
  rw [childNote?, if_pos hobject]
  constructor
  · rintro ⟨hseverity, hcode, hchildren, htold⟩
    rcases htold with ⟨hnil, ⟨hpath, hrange⟩, hmessage⟩ |
      ⟨before, main, behind, hmain, hlies, hmessage⟩
    · rw [noteOfChild_of_nil htext hnil, Option.some.injEq, eq_comm]
      exact Diagnostic.eq_mk_iff.2 ⟨hpath, hrange, hseverity, hmessage, hcode, hchildren⟩
    · obtain ⟨-, s, -, -, hread, -⟩ := hmain.index
      obtain ⟨hpath, hrange⟩ : LiesAt note (s.resolve?.getD parent) := by
        rcases hlies with ⟨place, hresolves, hlies⟩ | ⟨hnone, hlies⟩
        · rw [← resolve?_ofJson?, hread, Option.bind_some] at hresolves
          rwa [hresolves]
        · rw [inFile_iff, hread, Option.bind_some, Option.not_isSome_iff_eq_none] at hnone
          rwa [hnone]
      rw [noteOfChild_of_mainSpan htext hmain hread, Option.some.injEq, eq_comm]
      exact Diagnostic.eq_mk_iff.2 ⟨hpath, hrange, hseverity, hmessage, hcode, hchildren⟩
  · intro h
    by_cases hnil : readableSpans w = []
    · rw [noteOfChild_of_nil htext hnil, Option.some.injEq, eq_comm] at h
      obtain ⟨hpath, hrange, hseverity, hmessage, hcode, hchildren⟩ := Diagnostic.eq_mk_iff.1 h
      exact ⟨hseverity, hcode, hchildren, .inl ⟨hnil, ⟨hpath, hrange⟩, hmessage⟩⟩
    · obtain ⟨before, main, behind, hmain⟩ := exists_mainSpan hnil
      obtain ⟨-, s, -, -, hread, -⟩ := hmain.index
      rw [noteOfChild_of_mainSpan htext hmain hread, Option.some.injEq, eq_comm] at h
      obtain ⟨hpath, hrange, hseverity, hmessage, hcode, hchildren⟩ := Diagnostic.eq_mk_iff.1 h
      refine ⟨hseverity, hcode, hchildren, .inr ⟨before, main, behind, hmain, ?_, hmessage⟩⟩
      rcases hplace : s.resolve? with _ | place
      · rw [hplace] at hpath hrange
        exact .inr ⟨by simp [inFile_iff, hread, hplace], hpath, hrange⟩
      · rw [hplace] at hpath hrange
        exact .inl ⟨place, resolve?_ofJson?.1 (by simp [hread, hplace]), hpath, hrange⟩

end Notes

/-! ### The diagnostic of a message -/

section Told

variable {v main : Json} {before behind : List Json} {place : Place} {d : Diagnostic}

lemma diagnosticOf_of_nil (h : readableSpans v = []) : diagnosticOf v = none := by
  simp [diagnosticOf, primaryIndex?_of_nil h]

/-- The diagnostic of a message with a main span in a file. -/
lemma diagnosticOf_of_mainSpan (h : MainSpan v before main behind) (hplace : Resolves main place) :
    diagnosticOf v = some (.mk ⟨place.file⟩ place.range (severityOf v)
      (labelled v main) (codeOf v)
      ((before ++ behind).filterMap (spanNote? v) ++
        (itemsOf v "children").filterMap (childNote? place))) := by
  obtain ⟨index, s, hindex, hs, hread, hothers⟩ := h.index
  rw [← resolve?_ofJson?, hread, Option.bind_some] at hplace
  obtain ⟨-, hlabel, -⟩ := of_ofJson? hread
  have hfull : fullMessage (textOf v "message") s = labelled v main := by
    rw [fullMessage, hlabel, labelled]
    by_cases hnone : textOf main "label" = "" <;> simp [hnone]
  have hnotes : (before ++ behind).filterMap (spanNote? v) =
      ((spansOf v).eraseIdx index).filterMap (noteOfSpan (severityOf v) (textOf v "message")) := by
    rw [hothers, List.filterMap_filterMap]
    rfl
  have hremarks : (itemsOf v "children").filterMap (childNote? place) =
      ((itemsOf v "children").filter (·.object?.isSome)).filterMap (noteOfChild place) := by
    rw [List.filterMap_filter]
    rfl
  rw [← hfull, hnotes, hremarks]
  simp only [diagnosticOf, hindex, hs, hplace, Option.bind_eq_bind, Option.bind_some]
  rfl

/-- **A main span in a file gives rise to the diagnostic that the message tells.** -/
lemma diagnosticOf_eq_some_iff (h : MainSpan v before main behind) (hplace : Resolves main place) :
    diagnosticOf v = some d ↔ Tells v main (before ++ behind) place d := by
  have hnotes : ∀ notes, List.Forall₂ (SpanNote v) ((before ++ behind).filter InFile) notes ↔
      (before ++ behind).filterMap (spanNote? v) = notes :=
    fun notes => forall₂_filter_iff (inFile_iff_note v) fun _ _ _ => spanNote_iff
  have hremarks : ∀ remarks,
      List.Forall₂ (ChildNote place) ((itemsOf v "children").filter Speaks) remarks ↔
      (itemsOf v "children").filterMap (childNote? place) = remarks :=
    fun remarks => forall₂_filter_iff (speaks_iff_note place) fun _ h _ => childNote_iff h
  rw [diagnosticOf_of_mainSpan h hplace, Option.some.injEq, eq_comm, Diagnostic.eq_mk_iff]
  constructor
  · rintro ⟨hpath, hrange, hseverity, hmessage, hcode, hchildren⟩
    exact ⟨⟨hpath, hrange⟩, hseverity, hmessage, hcode,
      _, _, hchildren, (hnotes _).2 rfl, (hremarks _).2 rfl⟩
  · rintro ⟨⟨hpath, hrange⟩, hseverity, hmessage, hcode, notes, remarks, hchildren, hn, hr⟩
    rw [(hnotes notes).1 hn, (hremarks remarks).1 hr]
    exact ⟨hpath, hrange, hseverity, hmessage, hcode, hchildren⟩

/-- A main span in no file gives rise to none. -/
lemma diagnosticOf_of_not_inFile (h : MainSpan v before main behind) (hfile : ¬ InFile main) :
    diagnosticOf v = none := by
  obtain ⟨index, s, hindex, hs, hread, -⟩ := h.index
  rw [inFile_iff, hread, Option.bind_some, Option.not_isSome_iff_eq_none] at hfile
  simp [diagnosticOf, hindex, hs, hfile]

/-- The diagnostic of a message is told by it. -/
lemma tells_of_diagnosticOf (h : diagnosticOf v = some d) :
    ∃ before main behind place, MainSpan v before main behind ∧ Resolves main place ∧
      Tells v main (before ++ behind) place d := by
  have hspans : readableSpans v ≠ [] := fun hnil => by simp [diagnosticOf_of_nil hnil] at h
  obtain ⟨before, main, behind, hmain⟩ := exists_mainSpan hspans
  by_cases hfile : InFile main
  · obtain ⟨place, hplace⟩ := hfile
    exact ⟨before, main, behind, place, hmain, hplace,
      (diagnosticOf_eq_some_iff hmain hplace).1 h⟩
  · simp [diagnosticOf_of_not_inFile hmain hfile] at h

end Told

/-- **No place and no note of a message is lost, doubled or moved.** There is no diagnostic exactly
when there is no span that can be read or the main one lies in no file; else it is the one that the
message tells, and nothing else is. -/
theorem diagnosticOf_tells (v : Json) :
    (diagnosticOf v = none ↔ readableSpans v = [] ∨
      ∃ before main behind, MainSpan v before main behind ∧ ¬ InFile main) ∧
    ∀ d, diagnosticOf v = some d ↔ ∃ before main behind place,
      MainSpan v before main behind ∧ Resolves main place ∧
        Tells v main (before ++ behind) place d := by
  refine ⟨⟨fun h => ?_, ?_⟩, fun d => ⟨tells_of_diagnosticOf, ?_⟩⟩
  · by_cases hspans : readableSpans v = []
    · exact .inl hspans
    · obtain ⟨before, main, behind, hmain⟩ := exists_mainSpan hspans
      refine .inr ⟨before, main, behind, hmain, fun hfile => ?_⟩
      obtain ⟨place, hplace⟩ := hfile
      rw [diagnosticOf_of_mainSpan hmain hplace] at h
      cases h
  · rintro (hspans | ⟨before, main, behind, hmain, hfile⟩)
    · exact diagnosticOf_of_nil hspans
    · exact diagnosticOf_of_not_inFile hmain hfile
  · rintro ⟨before, main, behind, place, hmain, hplace, htells⟩
    exact (diagnosticOf_eq_some_iff hmain hplace).2 htells

end Message

end BuildRunner
