import BuildRunner.Proofs.Process.Pieces

/-!
The lines of bytes, told from their text as a whole: it makes no difference whether the bytes are
read as a text which is then cut into lines, or cut into lines which are then read
(`lines_of_text`). A newline or a carriage return is never part of a broken piece, so that there are as
many replaced characters in a line either way.
-/

namespace BuildRunner

namespace LineDecoder

open Text

/-! ### One line -/

section Line

variable {bytes : List UInt8}

lemma eq_nil_of_decodeLossy (h : Utf8.decodeLossy bytes = []) : bytes = [] :=
  (Utf8.reads_iff.2 h).eq_nil

/-- Where there is no newline, none is read. -/
lemma newline_notMem_decodeLossy (h : newline ∉ bytes) : '\n' ∉ Utf8.decodeLossy bytes := by
  intro hmem
  obtain ⟨cs, cs', htext⟩ := List.append_of_mem hmem
  obtain ⟨xs, ys, rfl, -, -⟩ := (Utf8.reads_append_cons_iff (by decide)).1 (Utf8.reads_iff.2 htext)
  exact h (List.mem_append_right xs List.mem_cons_self)

/-- The carriage return at the end is dropped before the bytes are read or afterwards. -/
lemma decodeLossy_dropLastIf (bytes : List UInt8) :
    Utf8.decodeLossy (dropLastIf carriageReturn bytes) =
      dropLastIf '\r' (Utf8.decodeLossy bytes) := by
  by_cases hlast : bytes.getLast? = some carriageReturn
  · obtain ⟨body, rfl⟩ := List.getLast?_eq_some_iff.1 hlast
    have hread : Utf8.Reads (body ++ [carriageReturn]) (Utf8.decodeLossy body ++ ['\r']) :=
      (Utf8.reads_append_cons_iff (by decide)).2 ⟨body, [], rfl, Utf8.reads_iff.2 rfl, .nil⟩
    rw [Utf8.reads_iff.1 hread]
    simp [dropLastIf]
  · have htext : (Utf8.decodeLossy bytes).getLast? ≠ some '\r' := by
      intro h
      obtain ⟨cs, htext⟩ := List.getLast?_eq_some_iff.1 h
      obtain ⟨xs, ys, rfl, -, hys⟩ :=
        (Utf8.reads_append_cons_iff (by decide)).1 (Utf8.reads_iff.2 htext)
      rw [hys.eq_nil] at hlast
      exact hlast (List.getLast?_concat ..)
    rw [dropLastIf, dropLastIf, if_neg (by simpa using hlast), if_neg (by simpa using htext)]

end Line

/-! ### Many lines -/

/-- **The lines of a text** that is there as a whole: its pieces between the newlines, each without
the one carriage return at its end. Of nothing behind the last newline there is no line; of a lone
carriage return there is one, without text. -/
def linesOfText (text : List Char) : List (List Char) :=
  let pieces := text.splitOn '\n'
  (if pieces.getLast? = some [] then pieces.dropLast else pieces).map (dropLastIf '\r')

/-- Bytes with newlines between them are read with newlines between what is read. -/
lemma decodeLossy_intercalate (pieces : List (List UInt8)) :
    Utf8.decodeLossy ([newline].intercalate pieces) =
      ['\n'].intercalate (pieces.map Utf8.decodeLossy) := by
  induction pieces with
  | nil => rfl
  | cons piece pieces ih =>
    rcases pieces with _ | ⟨next, pieces⟩
    · simp
    · rw [List.intercalate_cons_cons, List.map_cons, List.map_cons, List.intercalate_cons_cons,
        ← List.map_cons, ← ih, List.append_assoc, List.append_assoc, ← Utf8.reads_iff]
      exact (Utf8.reads_append_cons_iff (by decide)).2
        ⟨piece, _, rfl, Utf8.reads_iff.2 rfl, Utf8.reads_iff.2 rfl⟩

/-- **What is read of the bytes is split where the bytes are.** -/
theorem splitOn_decodeLossy (bytes : List UInt8) :
    (Utf8.decodeLossy bytes).splitOn '\n' = (bytes.splitOn newline).map Utf8.decodeLossy := by
  have hclean : ∀ cs ∈ (bytes.splitOn newline).map Utf8.decodeLossy, '\n' ∉ cs := by
    intro cs hcs
    obtain ⟨piece, hpiece, rfl⟩ := List.mem_map.1 hcs
    refine newline_notMem_decodeLossy fun hmem => ?_
    rw [← splitAt_eq_splitOn] at hpiece
    simpa using forall_mem_splitAt bytes piece hpiece newline hmem
  have hne : (bytes.splitOn newline).map Utf8.decodeLossy ≠ [] := by
    simp [List.splitOn_ne_nil]
  calc (Utf8.decodeLossy bytes).splitOn '\n'
      = (Utf8.decodeLossy ([newline].intercalate (bytes.splitOn newline))).splitOn '\n' := by
        rw [List.intercalate_splitOn]
    _ = (['\n'].intercalate ((bytes.splitOn newline).map Utf8.decodeLossy)).splitOn '\n' := by
        rw [decodeLossy_intercalate]
    _ = (bytes.splitOn newline).map Utf8.decodeLossy := List.splitOn_intercalate '\n' hclean hne

/-- The last piece is what stands behind the last newline. -/
lemma segments_append_tail (bytes : List UInt8) :
    bytes.splitOn newline = segments bytes ++ [tail bytes] := by
  have hne := splitAt_ne_nil newline bytes
  rw [segments, tail, ← getLastD_splitAt, ← splitAt_eq_splitOn, List.getLastD_eq_getLast?,
    List.getLast?_eq_some_getLast hne, Option.getD_some, List.dropLast_append_getLast hne]

/-- The lines of the bytes are those of what is read of them. -/
lemma map_lineOf_lineBytes (bytes : List UInt8) :
    (lineBytes bytes).map lineOf = (linesOfText (Utf8.decodeLossy bytes)).map String.ofList := by
  have hline : lineOf = String.ofList ∘ dropLastIf '\r' ∘ Utf8.decodeLossy :=
    funext fun piece => congrArg String.ofList (decodeLossy_dropLastIf piece)
  have htail : Utf8.decodeLossy (tail bytes) = [] ↔ tail bytes = [] := by
    refine ⟨eq_nil_of_decodeLossy, fun h => ?_⟩
    rw [h]
    rfl
  simp only [linesOfText, splitOn_decodeLossy, segments_append_tail, List.map_append,
    List.map_cons, List.map_nil, List.getLast?_concat, List.dropLast_concat, Option.some.injEq,
    htail, lineBytes, hline]
  split <;> simp

/-! ### The main statement -/

/-- **Cutting into lines and reading commute.** In whatever pieces the bytes come, the lines that are
put out for them are those of their text as a whole, which is the one text that they are read as;
bytes that spell a text are read as that text, with nothing replaced. -/
theorem lines_of_text (pieces : List (List UInt8)) :
    let bytes := pieces.flatten
    let (d, lines) := empty.pushAll pieces
    ∃ text, (∀ cs, Utf8.Reads bytes cs ↔ cs = text) ∧
      lines ++ d.finish.2.toList = (linesOfText text).map String.ofList ∧
      ∀ cs, Utf8.encode cs = bytes → cs = text := by
  intro bytes
  have hall : empty.pushAll pieces = (⟨tail bytes⟩, (segments bytes).map lineOf) := by
    rw [pushAll_eq noNewline_empty, ← ofBytes_eq]
    rfl
  have hlines : (segments bytes).map lineOf ++ (LineDecoder.mk (tail bytes)).finish.2.toList =
      (lineBytes bytes).map lineOf := by
    rw [finish, lineBytes, List.map_append]
    by_cases h : tail bytes = [] <;> simp [h]
  simp only [hall, hlines]
  refine ⟨Utf8.decodeLossy bytes, fun cs => ?_, map_lineOf_lineBytes bytes, fun cs hcs => ?_⟩
  · rw [Utf8.reads_iff, eq_comm]
  · rw [← hcs, Utf8.decodeLossy_encode]

/-- A character that comes in two pieces is read back, and of a carriage return that nothing follows
there is a line. -/
theorem lines_of_text_cut :
    Utf8.encode ['é', '\r', '\n', '\r'] = [[0xC3], [0xA9, 0x0D], [0x0A, 0x0D]].flatten ∧
      let (d, lines) := empty.pushAll [[0xC3], [0xA9, 0x0D], [0x0A, 0x0D]]
      lines ++ d.finish.2.toList = ["é", ""] := by
  have hbytes : Utf8.encode ['é', '\r', '\n', '\r'] =
      [[0xC3], [0xA9, 0x0D], [0x0A, 0x0D]].flatten := by decide
  obtain ⟨text, -, hlines, htext⟩ := lines_of_text [[0xC3], [0xA9, 0x0D], [0x0A, 0x0D]]
  refine ⟨hbytes, hlines.trans ?_⟩
  rw [← htext _ hbytes]
  decide

/-- A character that breaks off before the end of its line is one replaced character, and the line
ends where it would have ended. -/
example :
    (empty.pushAll [[0x61, 0xF0, 0x9F], [0x98, 0x0D, 0x0A], [0xE2, 0x82]]).2 =
      [String.ofList ['a', Utf8.replacement]] := by
  decide

end LineDecoder

end BuildRunner
