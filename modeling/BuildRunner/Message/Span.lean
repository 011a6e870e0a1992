import BuildRunner.Diagnostic.Range
import BuildRunner.Json.Value

/-!
Spans of the tool's messages: stretches of source text, each with the place that a macro was
expanded at when it came out of one. A span is read leniently; it needs no more than a file name
and a first line.
-/

namespace BuildRunner.Message

/-- A stretch of source text as a message names it. -/
structure Place where
  file : String
  range : Range
  deriving DecidableEq, Repr, Inhabited

/-- A span of a message. The places that it was expanded at follow its own, innermost first. -/
structure Span where
  place : Place
  expandedAt : List Place
  isPrimary : Bool
  label : Option String
  replacement : Option String
  deriving DecidableEq, Repr, Inhabited

/-- A coordinate of a span, at most the largest one. -/
def coordinate? (v : Json) (name : String) : Option Nat :=
  (v.getNatural? name).map (min · Range.maxCoordinate)

/-- The place a span names. Missing columns are the first one and missing ends are the starts. -/
def Place.ofJson? (v : Json) : Option Place := do
  let file ← v.getString? "file_name"
  let line ← coordinate? v "line_start"
  let lineEnd := (coordinate? v "line_end").getD line
  let column := (coordinate? v "column_start").getD 1
  let columnEnd := (coordinate? v "column_end").getD column
  return ⟨file, .ofTool line column lineEnd columnEnd⟩

/-- The span that a macro was expanded at. -/
def expansion? (v : Json) : Option Json := (v.get? "expansion").bind (·.get? "span")

theorem sizeOf_expansion? {v w : Json} (h : expansion? v = some w) : sizeOf w < sizeOf v := by
  simp only [expansion?, Option.bind_eq_some_iff] at h
  obtain ⟨u, hu, hw⟩ := h
  exact Nat.lt_trans (Json.sizeOf_get? hw) (Json.sizeOf_get? hu)

/-- The place of a span and those it was expanded at, up to the first that cannot be read. -/
def chain (v : Json) : List Place :=
  match Place.ofJson? v with
  | none => []
  | some place =>
    match _h : expansion? v with
    | none => [place]
    | some w => place :: chain w
termination_by sizeOf v
decreasing_by exact sizeOf_expansion? _h

/-- A text that is not empty. -/
def nonEmpty? (s : Option String) : Option String := s.filter (· ≠ "")

/-- The span that a value holds. -/
def Span.ofJson? (v : Json) : Option Span :=
  match chain v with
  | [] => none
  | place :: expandedAt =>
    some {
      place, expandedAt
      isPrimary := ((v.get? "is_primary").bind Json.bool?).getD false
      label := nonEmpty? (v.getString? "label")
      replacement := v.getString? "suggested_replacement" }

/-- Whether a file name is that of a file, and not empty or of a place inside the tool. -/
def isRealFile (name : String) : Bool :=
  name ≠ "" && !(name.toList.head? == some '<' && name.toList.getLast? == some '>')

/-- The first place, from the span outwards, that lies in a file. -/
def Span.resolve? (s : Span) : Option Place :=
  (s.place :: s.expandedAt).find? fun p => isRealFile p.file

/-- The spans of a message that can be read. -/
def spansOf (v : Json) : List Span :=
  (((v.get? "spans").bind Json.array?).getD []).filterMap Span.ofJson?

/-- The index of the span a message is about: the first primary one, else the first. -/
def primaryIndex? (spans : List Span) : Option Nat :=
  if spans.isEmpty then none else some ((spans.findIdx? (·.isPrimary)).getD 0)

end BuildRunner.Message
