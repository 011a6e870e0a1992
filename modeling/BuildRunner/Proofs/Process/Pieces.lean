import BuildRunner.Proofs.Process.LineDecoder
import BuildRunner.Proofs.Text.Lossy
import Mathlib.Data.List.Forall2

/-!
The lines of bytes, told from the bytes alone: they are split at every newline, each segment that a
newline ends is a line, and so is what stands behind the last newline, unless that is nothing
(`lineBytes`). In whatever pieces the bytes come, the decoder puts out these lines, each with the
piece that completes it (`lines_of_pieces`).
-/

namespace BuildRunner

namespace LineDecoder

open Text

/-! ### Lines, told from all the bytes -/

/-- The segments of some bytes that a newline ends. -/
def segments (bytes : List UInt8) : List (List UInt8) := (bytes.splitOn newline).dropLast

/-- The bytes since the last newline. -/
def tail (bytes : List UInt8) : List UInt8 := bytes.rtakeWhile fun b => !(b == newline)

/-- The bytes of each line. -/
def lineBytes (bytes : List UInt8) : List (List UInt8) :=
  segments bytes ++ if tail bytes = [] then [] else [tail bytes]

/-- **The text of the bytes of a line**: one carriage return at their end does not belong to it, and
broken UTF-8 is replaced. -/
def Spells (bytes : List UInt8) (line : String) : Prop :=
  ∃ body cs, (bytes = body ++ [carriageReturn] ∨ bytes = body ∧ ¬ [carriageReturn] <:+ bytes) ∧
    Utf8.Reads body cs ∧ line = String.ofList cs

/-- **The bytes of a line have one text**, and it is the one that the decoder gives them. -/
theorem spells_iff {bytes : List UInt8} {line : String} : Spells bytes line ↔ line = lineOf bytes := by
  constructor
  · rintro ⟨body, cs, hbody, hreads, rfl⟩
    have hdrop : dropLastIf carriageReturn bytes = body := by
      rcases hbody with rfl | ⟨rfl, hlast⟩
      · simp [dropLastIf]
      · refine if_neg fun h => hlast ?_
        exact ⟨bytes.dropLast, List.dropLast_append_getLast? carriageReturn (by simpa using h)⟩
    rw [lineOf, hdrop, Utf8.reads_iff.1 hreads]
  · rintro rfl
    refine ⟨dropLastIf carriageReturn bytes, _, ?_, Utf8.reads_iff.2 rfl, rfl⟩
    unfold dropLastIf
    split
    case isTrue h =>
      exact .inl (List.dropLast_append_getLast? carriageReturn (by simpa using h)).symm
    case isFalse h =>
      refine .inr ⟨rfl, ?_⟩
      rintro ⟨front, rfl⟩
      simp at h

lemma forall₂_spells (pieces : List (List UInt8)) :
    List.Forall₂ Spells pieces (pieces.map lineOf) := by
  rw [List.forall₂_map_right_iff, List.forall₂_same]
  exact fun bytes _ => spells_iff.2 rfl

/-! ### The state behind all the bytes -/

section State

variable (bytes : List UInt8)

lemma ofBytes_eq : ofBytes bytes = (⟨tail bytes⟩, (segments bytes).map lineOf) := by
  rw [ofBytes, getLastD_splitAt, splitAt_eq_splitOn]
  rfl

/-- A piece completes the segments that there are with it and were not there before. -/
lemma segments_append (piece : List UInt8) :
    segments (bytes ++ piece) = segments bytes ++ segments (tail bytes ++ piece) := by
  simp only [segments, tail, ← splitAt_eq_splitOn, ← getLastD_splitAt]
  rw [splitAt_append, List.dropLast_append_of_ne_nil (splitAt_ne_nil _ _)]

/-- What stands behind the last newline of the bytes stands there in what follows it. -/
lemma tail_append (piece : List UInt8) : tail (bytes ++ piece) = tail (tail bytes ++ piece) := by
  simp only [tail, ← getLastD_splitAt]
  rw [splitAt_append]
  simp only [List.getLastD_eq_getLast?, List.getLast?_append_of_ne_nil _ (splitAt_ne_nil _ _)]

end State

/-! ### The main statement -/

/-- **In whatever pieces the bytes come**, the lines are those of all the bytes: the ones that are
put out with the pieces, and the one that is flushed in the end, if there is one; behind that the
decoder is as new. Behind each piece there is something at hand exactly when there are bytes since
the last newline, and the lines that are put out with it are those of the segments that it
completes. -/
theorem lines_of_pieces (pieces : List (List UInt8)) :
    let bytes := pieces.flatten
    let (d, lines) := empty.pushAll pieces
    List.Forall₂ Spells (lineBytes bytes) (lines ++ d.finish.2.toList) ∧ d.finish.1 = empty ∧
      ∀ piece,
        ((d.push piece).1.hasPending = true ↔ tail (bytes ++ piece) ≠ []) ∧
        ∃ completed, segments (bytes ++ piece) = segments bytes ++ completed ∧
          List.Forall₂ Spells completed (d.push piece).2 := by
  intro bytes
  have hall : empty.pushAll pieces = (⟨tail bytes⟩, (segments bytes).map lineOf) := by
    rw [pushAll_eq noNewline_empty, ← ofBytes_eq]
    rfl
  have hclean : NoNewline ⟨tail bytes⟩ := by
    have h := noNewline_ofBytes bytes
    rwa [ofBytes_eq] at h
  simp only [hall]
  refine ⟨?_, rfl, fun piece => ?_⟩
  · have hfinish : (LineDecoder.mk (tail bytes)).finish.2.toList =
        (if tail bytes = [] then [] else [tail bytes]).map lineOf := by
      rw [finish]
      by_cases h : tail bytes = [] <;> simp [h]
    rw [hfinish, ← List.map_append]
    exact forall₂_spells (lineBytes bytes)
  · have hpush : (LineDecoder.mk (tail bytes)).push piece =
        (⟨tail (tail bytes ++ piece)⟩, (segments (tail bytes ++ piece)).map lineOf) := by
      rw [push_eq hclean, ofBytes_eq]
    rw [hpush, tail_append bytes]
    refine ⟨?_, _, segments_append bytes piece, forall₂_spells _⟩
    simp [hasPending]

/-- A carriage return that nothing follows is a line without text. -/
example : (empty.push [carriageReturn]).1.finish.2 = some "" := rfl

end LineDecoder

end BuildRunner
