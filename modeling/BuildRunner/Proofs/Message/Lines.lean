import BuildRunner.Run.Core
import Mathlib.Data.List.DropRight

/-!
Lines read as messages. A line that spells a JSON object begins with a brace, up to blank space, so
reading a line that fails this test changes nothing (`read_of_not_looksLikeObject`). Many lines are
read one after the other, each with the format settled on by those before it.
-/

namespace BuildRunner

/-! ### Values that are objects -/

namespace Json

/-- A number is not an object. -/
lemma object?_of_readUnsigned {negative : Bool} {cs rest : List Char} {v : Json}
    (h : readUnsigned negative cs = some (v, rest)) : v.object? = none := by
  simp only [readUnsigned, Option.bind_eq_bind, Option.pure_def] at h
  split at h
  · simp at h
  · simp at h
  · simp only [Option.bind_eq_some_iff] at h
    obtain ⟨f, -, p, -, h⟩ := h
    split at h
    · cases negative <;> simp at h <;> simp [← h.1, object?]
    · split at h
      · simp at h
      · simp at h
        simp [← h.1, object?]

/-- **A value that is an object begins with a brace.** -/
theorem skipSpace_of_readValue {fuel depth : Nat} {cs rest : List Char} {v : Json}
    (h : readValue fuel depth cs = some (v, rest)) (hv : v.object?.isSome) :
    ∃ rest, skipSpace cs = '{' :: rest := by
  rcases fuel with _ | fuel
  · simp [readValue] at h
  · by_contra hcs
    suffices v.object? = none by simp [this] at hv
    unfold readValue at h
    split at h
    case h_5 => exact object?_of_readUnsigned h
    case h_7 rest hcs' => exact absurd ⟨rest, hcs'⟩ hcs
    case h_8 => exact object?_of_readUnsigned h
    case h_4 =>
      obtain ⟨⟨s, rest'⟩, -, hs⟩ := Option.map_eq_some_iff.1 h
      simp [← (Prod.mk.inj hs).1, object?]
    case h_6 =>
      split at h
      · simp at h
      · simp only [Option.some.injEq, Prod.mk.injEq] at h
        simp [← h.1, object?]
      · obtain ⟨⟨items, rest'⟩, -, hs⟩ := Option.map_eq_some_iff.1 h
        simp [← (Prod.mk.inj hs).1, object?]
    all_goals
      simp only [Option.some.injEq, Prod.mk.injEq] at h
      simp [← h.1, object?]

end Json

/-! ### Blank space -/

namespace Text

lemma isBlank_of_isSpace {c : Char} (h : Json.isSpace c = true) : isBlank c = true := by
  simp only [Json.isSpace, Bool.or_eq_true, decide_eq_true_eq] at h
  rcases h with ((rfl | rfl) | rfl) | rfl <;> decide

/-- A text without the blank space at its ends begins where its first part does. -/
lemma trimChars_prefix (cs : List Char) : trimChars cs <+: trimStart cs :=
  List.rdropWhile_prefix isBlank (trimStart cs)

/-- A text without the blank space at its ends does not begin with blank space. -/
lemma head?_of_skipSpace_trimChars {cs rest : List Char} {c : Char}
    (h : Json.skipSpace (trimChars cs) = c :: rest) : (trimStart cs).head? = some c := by
  obtain ⟨t, ht⟩ := trimChars_prefix cs
  rcases htrim : trimChars cs with _ | ⟨d, ds⟩
  · simp [htrim, Json.skipSpace] at h
  · have hstart : trimStart cs = d :: (ds ++ t) := by rw [← ht, htrim, List.cons_append]
    have hd : isBlank d = false := by
      have := List.head?_dropWhile_not isBlank cs
      rw [show cs.dropWhile isBlank = d :: (ds ++ t) from hstart] at this
      simpa using this
    have hspace : ¬ Json.isSpace d = true := fun hs => by simp [isBlank_of_isSpace hs] at hd
    rw [htrim, Json.skipSpace, List.dropWhile_cons_of_neg hspace] at h
    rw [hstart, (List.cons.inj h).1, List.head?_cons]

end Text

/-! ### Lines that are no message -/

namespace Message

/-- A line that spells an object begins with a brace. -/
lemma looksLikeObject_of_object? {line : String} {v : Json} (h : object? line = some v) :
    Core.looksLikeObject line = true := by
  obtain ⟨hparse, hv⟩ := Option.filter_eq_some_iff.1 h
  simp only [Json.parse?, Option.bind_eq_bind, Option.bind_eq_some_iff] at hparse
  obtain ⟨⟨w, rest⟩, hread, hw⟩ := hparse
  obtain rfl : w = v := by
    split at hw
    · exact Option.some.inj hw
    · cases hw
  obtain ⟨rest, hbrace⟩ := Json.skipSpace_of_readValue hread hv
  simp [Core.looksLikeObject, Text.head?_of_skipSpace_trimChars hbrace]

section Read

variable {format : Option Format} {line : String}

lemma read_of_object?_eq_none (h : object? line = none) : read format line = (.plain, format) := by
  simp [read, h]

/-- **A line that does not begin with a brace is no message**, and leaves the format as it was. -/
theorem read_of_not_looksLikeObject (h : Core.looksLikeObject line = false) :
    read format line = (.plain, format) := by
  rcases hv : object? line with _ | v
  · exact read_of_object?_eq_none hv
  · simp [looksLikeObject_of_object? hv] at h

/-- Whether a line spells an object is told with what it holds. -/
lemma isJson_read (format : Option Format) (line : String) :
    (read format line).1.isJson = (object? line).isSome := by
  rcases hv : object? line with _ | v
  · simp [read_of_object?_eq_none hv, Reading.plain]
  · simp only [read, hv]
    split
    · rfl
    · unfold readObject
      split <;> rfl

/-- A line that is no object is no message. -/
theorem read_of_not_isJson (h : (read format line).1.isJson = false) :
    read format line = (.plain, format) := by
  rcases hv : object? line with _ | v
  · exact read_of_object?_eq_none hv
  · simp only [read, hv] at h
    split at h
    · cases h
    · unfold readObject at h
      split at h <;> cases h

end Read

/-! ### Many lines -/

/-- What lines hold that are read one after the other, and the format settled on behind them. -/
def readAll (format : Option Format) : List String → List Reading × Option Format
  | [] => ([], format)
  | line :: lines =>
    let (reading, format) := read format line
    let (readings, format) := readAll format lines
    (reading :: readings, format)

lemma readAll_concat (format : Option Format) (lines : List String) (line : String) :
    readAll format (lines ++ [line]) =
      ((readAll format lines).1 ++ [(read (readAll format lines).2 line).1],
        (read (readAll format lines).2 line).2) := by
  induction lines generalizing format with
  | nil => rfl
  | cons l lines ih => simp [readAll, ih]

lemma length_readAll (format : Option Format) (lines : List String) :
    (readAll format lines).1.length = lines.length := by
  induction lines generalizing format with
  | nil => rfl
  | cons l lines ih => simp [readAll, ih]

/-- The diagnostics of lines that are read one after the other, of those lines that are marked. -/
def marked (lines : List (String × Bool)) : List Diagnostic :=
  ((readAll none (lines.map (·.1))).1.zip (lines.map (·.2))).filterMap fun (reading, mark) =>
    if mark then reading.diagnostic else none

lemma marked_concat (lines : List (String × Bool)) (line : String) (mark : Bool) :
    marked (lines ++ [(line, mark)]) = marked lines ++
      (if mark then (read (readAll none (lines.map (·.1))).2 line).1.diagnostic
        else none).toList := by
  have hlen : (readAll none (lines.map (·.1))).1.length = (lines.map (·.2)).length := by
    simp [length_readAll]
  simp only [marked, List.map_append, List.map_cons, List.map_nil, readAll_concat,
    List.zip_append hlen, List.filterMap_append]
  congr 1

end Message

end BuildRunner
