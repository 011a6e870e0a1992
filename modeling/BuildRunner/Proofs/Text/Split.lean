import BuildRunner.Text.Split
import Mathlib.Data.List.DropRight

/-!
Lists cut at a separator. The pieces hold no separator, cutting goes on behind a cut where it left
off (`splitAt_append`), and it undoes the joining of pieces (`splitAt_intercalate`).
-/

namespace BuildRunner.Text

variable {α : Type} [BEq α] {sep : α}

lemma splitAt_ne_nil (sep : α) (xs : List α) : splitAt sep xs ≠ [] := by
  rcases xs with _ | ⟨x, xs⟩
  · simp [splitAt]
  · rw [splitAt]
    split
    · simp
    · split <;> simp

lemma splitAt_eq_cons (sep : α) (xs : List α) :
    ∃ piece pieces, splitAt sep xs = piece :: pieces :=
  List.exists_cons_of_ne_nil (splitAt_ne_nil sep xs)

lemma splitAt_cons_sep {x : α} (h : (x == sep) = true) (xs : List α) :
    splitAt sep (x :: xs) = [] :: splitAt sep xs := by
  rw [splitAt, if_pos h]

lemma splitAt_cons {x : α} (h : (x == sep) = false) {xs piece : List α} {pieces : List (List α)}
    (hxs : splitAt sep xs = piece :: pieces) :
    splitAt sep (x :: xs) = (x :: piece) :: pieces := by
  rw [splitAt, if_neg (by simp [h]), hxs]

/-- **Cutting goes on where it left off**: the last piece of the front is cut again in front of what
comes behind. -/
theorem splitAt_append (xs ys : List α) :
    splitAt sep (xs ++ ys) =
      (splitAt sep xs).dropLast ++ splitAt sep ((splitAt sep xs).getLastD [] ++ ys) := by
  induction xs with
  | nil => rfl
  | cons x xs ih =>
    obtain ⟨piece, pieces, hxs⟩ := splitAt_eq_cons sep xs
    rw [hxs] at ih
    cases hx : x == sep with
    | true =>
      rw [List.cons_append, splitAt_cons_sep hx, splitAt_cons_sep hx, ih, hxs]
      rfl
    | false =>
      -- The first piece grows by `x`; without a separator in `xs` it is also the piece cut again.
      rw [List.cons_append, splitAt_cons hx hxs]
      rcases pieces with _ | ⟨next, pieces⟩
      · obtain ⟨piece', pieces', hys⟩ := splitAt_eq_cons sep (piece ++ ys)
        have ih : splitAt sep (xs ++ ys) = piece' :: pieces' := ih.trans hys
        rw [splitAt_cons hx ih]
        exact (splitAt_cons hx hys).symm
      · exact splitAt_cons hx ih

/-- What holds no separator belongs to the first piece of what comes behind. -/
lemma splitAt_append_of_forall {xs ys piece : List α} {pieces : List (List α)}
    (h : ∀ x ∈ xs, (x == sep) = false) (hys : splitAt sep ys = piece :: pieces) :
    splitAt sep (xs ++ ys) = (xs ++ piece) :: pieces := by
  induction xs with
  | nil => exact hys
  | cons x xs ih =>
    rw [List.forall_mem_cons] at h
    exact splitAt_cons h.1 (ih h.2)

/-- A list without the separator is one piece. -/
lemma splitAt_of_forall {xs : List α} (h : ∀ x ∈ xs, (x == sep) = false) :
    splitAt sep xs = [xs] := by
  have hcut := splitAt_append_of_forall h (show splitAt sep [] = [[]] from rfl)
  rwa [List.append_nil] at hcut

/-- No piece holds the separator. -/
lemma forall_mem_splitAt (xs : List α) :
    ∀ piece ∈ splitAt sep xs, ∀ x ∈ piece, (x == sep) = false := by
  induction xs with
  | nil => simp [splitAt]
  | cons x xs ih =>
    obtain ⟨first, pieces, hxs⟩ := splitAt_eq_cons sep xs
    rw [hxs, List.forall_mem_cons] at ih
    cases hx : x == sep with
    | true =>
      rw [splitAt_cons_sep hx, hxs, List.forall_mem_cons, List.forall_mem_cons]
      exact ⟨by simp, ih⟩
    | false =>
      rw [splitAt_cons hx hxs, List.forall_mem_cons, List.forall_mem_cons]
      exact ⟨⟨hx, ih.1⟩, ih.2⟩

/-- What stands behind the last separator holds none. -/
lemma forall_mem_getLastD_splitAt (xs : List α) :
    ∀ x ∈ (splitAt sep xs).getLastD [], (x == sep) = false := by
  obtain ⟨first, pieces, hxs⟩ := splitAt_eq_cons sep xs
  refine forall_mem_splitAt xs _ ?_
  rw [hxs, List.getLastD_cons]
  exact List.getLastD_mem_cons

lemma splitAt_eq_splitOn (xs : List α) : splitAt sep xs = xs.splitOn sep := by
  induction xs with
  | nil => simp [splitAt]
  | cons x xs ih =>
    obtain ⟨piece, pieces, hxs⟩ := splitAt_eq_cons sep xs
    rw [List.splitOn, List.splitOnP_cons_eq_if_modifyHead, ← List.splitOn, ← ih, hxs]
    split
    case isTrue hx => rw [splitAt_cons_sep hx, hxs]
    case isFalse hx => exact splitAt_cons (by simpa using hx) hxs

/-- What stands behind the last separator is the longest end without one. -/
lemma getLastD_splitAt (xs : List α) :
    (splitAt sep xs).getLastD [] = xs.rtakeWhile fun x => !(x == sep) := by
  induction xs using List.reverseRecOn with
  | nil => rfl
  | append_singleton xs x ih =>
    -- The last piece of the front is cut again, now with `x` behind it.
    have hlast : ∀ y ∈ (splitAt sep xs).getLastD [], (y == sep) = false :=
      forall_mem_getLastD_splitAt xs
    cases hx : x == sep with
    | true =>
      have hcut := splitAt_append_of_forall hlast (splitAt_cons_sep hx [])
      rw [List.rtakeWhile_concat_neg _ _ _ (by simp [hx]), splitAt_append, hcut]
      simp [splitAt]
    | false =>
      have hone : splitAt sep [x] = [[x]] := splitAt_cons hx rfl
      have hcut := splitAt_append_of_forall hlast hone
      rw [List.rtakeWhile_concat_pos _ _ _ (by simp [hx]), splitAt_append, hcut, ← ih]
      simp

/-- A list is cut at a separator that stands in it. -/
lemma splitAt_append_sep [LawfulBEq α] (xs ys : List α) :
    splitAt sep (xs ++ sep :: ys) = splitAt sep xs ++ splitAt sep ys := by
  induction xs with
  | nil => exact splitAt_cons_sep (beq_self_eq_true sep) ys
  | cons x xs ih =>
    obtain ⟨piece, pieces, hxs⟩ := splitAt_eq_cons sep xs
    cases hx : x == sep with
    | true => rw [List.cons_append, splitAt_cons_sep hx, splitAt_cons_sep hx, ih, List.cons_append]
    | false =>
      rw [hxs] at ih
      rw [List.cons_append, splitAt_cons hx hxs]
      exact splitAt_cons hx ih

/-- **Cutting undoes joining**, when no piece holds the separator. -/
theorem splitAt_intercalate [LawfulBEq α] {pieces : List (List α)}
    (h : ∀ piece ∈ pieces, sep ∉ piece) (hne : pieces ≠ []) :
    splitAt sep ([sep].intercalate pieces) = pieces := by
  rw [splitAt_eq_splitOn, List.splitOn_intercalate sep h hne]

end BuildRunner.Text
