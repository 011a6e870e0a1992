import BuildRunner.Process.LineDecoder
import BuildRunner.Proofs.Text.Split
import BuildRunner.Proofs.Text.Utf8

/-!
Bytes that come in pieces. Where the pieces are cut does not matter: what is at hand behind them,
and the lines that they completed, are those of all the bytes at once.
-/

namespace BuildRunner

namespace LineDecoder

open Text

/-! ### Pieces of any size -/

/-- Several pieces pushed one after the other, and the lines that they complete. -/
def pushAll (d : LineDecoder) : List (List UInt8) → LineDecoder × List String
  | [] => (d, [])
  | piece :: pieces =>
    let (d, lines) := d.push piece
    let (d, later) := d.pushAll pieces
    (d, lines ++ later)

/-- The state behind bytes that are cut at their newlines, and the lines that they complete. -/
def ofBytes (bytes : List UInt8) : LineDecoder × List String :=
  (⟨(splitAt newline bytes).getLastD []⟩, (splitAt newline bytes).dropLast.map lineOf)

/-- What is at hand holds no newline. -/
def NoNewline (d : LineDecoder) : Prop := ∀ b ∈ d.pending, (b == newline) = false

lemma noNewline_empty : empty.NoNewline := by simp [NoNewline, empty]

lemma noNewline_ofBytes (bytes : List UInt8) : (ofBytes bytes).1.NoNewline :=
  forall_mem_getLastD_splitAt bytes

/-- What is at hand counts as the beginning of the piece. -/
lemma push_eq {d : LineDecoder} (h : d.NoNewline) (piece : List UInt8) :
    d.push piece = ofBytes (d.pending ++ piece) := by
  obtain ⟨first, pieces, hpiece⟩ := splitAt_eq_cons newline piece
  rw [push, ofBytes, splitAt_append_of_forall h hpiece, hpiece]

/-- The bytes behind a cut are cut in front of what is at hand there. -/
lemma ofBytes_append (xs ys : List UInt8) :
    ofBytes (xs ++ ys) =
      let (d, lines) := ofBytes xs
      let (d, later) := ofBytes (d.pending ++ ys)
      (d, lines ++ later) := by
  obtain ⟨first, pieces, h⟩ := splitAt_eq_cons newline ((splitAt newline xs).getLastD [] ++ ys)
  simp only [ofBytes, splitAt_append xs ys, h]
  rw [List.dropLast_append_of_ne_nil (by simp), List.map_append, List.getLastD_eq_getLast?,
    List.getLast?_append_of_ne_nil _ (by simp), ← List.getLastD_eq_getLast?]

/-- **Where the pieces are cut does not matter.** -/
theorem pushAll_eq {d : LineDecoder} (h : d.NoNewline) (pieces : List (List UInt8)) :
    d.pushAll pieces = ofBytes (d.pending ++ pieces.flatten) := by
  induction pieces generalizing d with
  | nil =>
    rw [List.flatten_nil, List.append_nil, ofBytes, splitAt_of_forall h]
    rfl
  | cons piece pieces ih =>
    simp only [pushAll, push_eq h, ih (noNewline_ofBytes _)]
    rw [List.flatten_cons, ← List.append_assoc, ofBytes_append (d.pending ++ piece)]

/-! ### Lines with newlines behind them -/

/-- Lines, each with a newline behind it. -/
def terminated (lines : List (List UInt8)) : List UInt8 := lines.flatMap (· ++ [newline])

/-- Lines that have newlines behind them are completed, and nothing is left over. -/
theorem ofBytes_terminated {lines : List (List UInt8)}
    (h : ∀ line ∈ lines, ∀ b ∈ line, (b == newline) = false) :
    ofBytes (terminated lines) = (empty, lines.map lineOf) := by
  have hcut : splitAt newline (terminated lines) = lines ++ [[]] := by
    induction lines with
    | nil => rfl
    | cons line lines ih =>
      rw [List.forall_mem_cons] at h
      have hrest : splitAt newline (newline :: terminated lines) = [] :: (lines ++ [[]]) := by
        rw [splitAt_cons_sep (by decide), ih h.2]
      have hline := splitAt_append_of_forall h.1 hrest
      simpa [terminated] using hline
  rw [ofBytes, hcut]
  simp [empty]

/-! ### Lines of text -/

lemma forall_mem_encode {line : List Char} (h : '\n' ∉ line) :
    ∀ b ∈ Utf8.encode line, (b == newline) = false := by
  intro b hb
  by_contra hnewline
  rw [Bool.not_eq_false, beq_iff_eq] at hnewline
  subst hnewline
  obtain ⟨c, hc, heq⟩ := Utf8.mem_of_mem_encode hb (by decide)
  rw [show c = '\n' from Char.toNat_inj.1 heq] at hc
  exact h hc

/-- A line of text is read back unless a carriage return stands at its end. -/
lemma lineOf_encode {line : List Char} (h : line.getLast? ≠ some '\r') :
    lineOf (Utf8.encode line) = String.ofList line := by
  have hlast : (Utf8.encode line).getLast? ≠ some carriageReturn := by
    intro hlast
    rcases List.eq_nil_or_concat' line with rfl | ⟨front, c, rfl⟩
    · cases hlast
    · have hc : c ≠ '\r' := by simpa using h
      have hne : Utf8.encode [c] ≠ [] := by simp [Utf8.encode, String.utf8EncodeChar_ne_nil]
      rw [Utf8.encode_append, List.getLast?_append_of_ne_nil _ hne] at hlast
      obtain ⟨d, hd, heq⟩ := Utf8.mem_of_mem_encode (List.mem_of_getLast? hlast) (by decide)
      rw [List.mem_singleton.1 hd] at heq
      exact hc (Char.toNat_inj.1 heq)
  rw [lineOf, dropLastIf, if_neg (by simpa using hlast), Utf8.decodeLossy_encode]

/-- **Lines of text are read back**, wherever their bytes are cut. -/
theorem pushAll_encode {lines : List (List Char)} {pieces : List (List UInt8)}
    (hlines : ∀ line ∈ lines, '\n' ∉ line ∧ line.getLast? ≠ some '\r')
    (hpieces : pieces.flatten = Utf8.encode (lines.flatMap (· ++ ['\n']))) :
    empty.pushAll pieces = (empty, lines.map String.ofList) := by
  have hbytes : Utf8.encode (lines.flatMap (· ++ ['\n'])) =
      terminated (lines.map Utf8.encode) := by
    rw [terminated, List.flatMap_map, Utf8.encode, List.flatMap_assoc]
    exact List.flatMap_congr fun line _ => Utf8.encode_append line ['\n']
  have hclean : ∀ line ∈ lines.map Utf8.encode, ∀ b ∈ line, (b == newline) = false := by
    rintro _ hline
    obtain ⟨line, hmem, rfl⟩ := List.mem_map.1 hline
    exact forall_mem_encode (hlines line hmem).1
  rw [pushAll_eq noNewline_empty, hpieces, hbytes]
  refine (ofBytes_terminated hclean).trans (congrArg (empty, ·) ?_)
  rw [List.map_map]
  exact List.map_congr_left fun line hline => lineOf_encode (hlines line hline).2

end LineDecoder

end BuildRunner
