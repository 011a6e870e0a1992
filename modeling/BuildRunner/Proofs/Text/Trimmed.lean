import BuildRunner.Text.Blank
import Mathlib.Data.List.DropRight
import Mathlib.Tactic.Common

/-!
Texts without the blank space at their ends. What is left of a text is what stands between two
stretches of blank space and has none at its own ends (`trimmed_iff`), so blank space around a text
makes no difference to it.
-/

namespace BuildRunner.Text

variable {cs t u w : List Char}

/-- Nothing but blank space. -/
def Blank (cs : List Char) : Prop := ∀ c ∈ cs, isBlank c = true

/-- No blank space at either end. -/
def Tight (cs : List Char) : Prop :=
  (∀ c ∈ cs.head?, isBlank c = false) ∧ ∀ c ∈ cs.getLast?, isBlank c = false

/-- **What is left of a text** without the blank space at its ends. -/
def Trimmed (cs t : List Char) : Prop :=
  Tight t ∧ ∃ u w, Blank u ∧ Blank w ∧ cs = u ++ t ++ w

lemma Blank.append (hu : Blank u) (hw : Blank w) : Blank (u ++ w) := fun c hc =>
  (List.mem_append.1 hc).elim (hu c) (hw c)

/-! ### One end -/

lemma trimStart_append (hu : Blank u) (cs : List Char) : trimStart (u ++ cs) = trimStart cs :=
  List.dropWhile_append_of_pos hu

lemma trimStart_of_head? (h : ∀ c ∈ cs.head?, isBlank c = false) : trimStart cs = cs := by
  cases cs with
  | nil => rfl
  | cons c cs => exact List.dropWhile_cons_of_neg (by simp [h c rfl])

lemma trimEnd_append (hw : Blank w) (cs : List Char) : trimEnd (cs ++ w) = trimEnd cs := by
  have hw : Blank w.reverse := fun c hc => hw c (List.mem_reverse.1 hc)
  rw [trimEnd, List.reverse_append, trimEnd]
  exact congrArg List.reverse (trimStart_append hw cs.reverse)

lemma trimEnd_of_getLast? (h : ∀ c ∈ cs.getLast?, isBlank c = false) : trimEnd cs = cs := by
  have h : ∀ c ∈ cs.reverse.head?, isBlank c = false := by simpa using h
  exact (congrArg List.reverse (trimStart_of_head? h)).trans (List.reverse_reverse cs)

/-- In front of what is left stood nothing but blank space. -/
lemma exists_trimStart (cs : List Char) :
    ∃ u, Blank u ∧ cs = u ++ trimStart cs ∧ ∀ c ∈ (trimStart cs).head?, isBlank c = false := by
  refine ⟨cs.takeWhile isBlank, fun c hc => List.mem_takeWhile_imp hc,
    List.takeWhile_append_dropWhile.symm, fun c hc => ?_⟩
  have hnot := List.head?_dropWhile_not isBlank cs
  rw [← trimStart, Option.mem_def.1 hc] at hnot
  simpa using hnot

/-- Behind what is left stood nothing but blank space. -/
lemma exists_trimEnd (cs : List Char) :
    ∃ w, Blank w ∧ cs = trimEnd cs ++ w ∧ ∀ c ∈ (trimEnd cs).getLast?, isBlank c = false := by
  obtain ⟨w, hw, hcs, hhead⟩ := exists_trimStart cs.reverse
  refine ⟨w.reverse, fun c hc => hw c (List.mem_reverse.1 hc), ?_, ?_⟩
  · rw [trimEnd, ← trimStart, ← List.reverse_append, ← hcs, List.reverse_reverse]
  · rwa [trimEnd, ← trimStart, List.getLast?_reverse]

/-! ### Both ends -/

lemma trimChars_of_trimmed (h : Trimmed cs t) : trimChars cs = t := by
  obtain ⟨⟨hhead, hlast⟩, u, w, hu, hw, rfl⟩ := h
  rw [trimChars, List.append_assoc, trimStart_append hu]
  by_cases hnil : t = []
  · have hempty := trimStart_append hw []
    rw [List.append_nil] at hempty
    rw [hnil, List.nil_append, hempty]
    rfl
  · have hhead : ∀ c ∈ (t ++ w).head?, isBlank c = false := by
      rwa [List.head?_append_of_ne_nil _ hnil]
    rw [trimStart_of_head? hhead, trimEnd_append hw, trimEnd_of_getLast? hlast]

/-- **What is left of a text is what it is trimmed to**, and nothing else is. -/
theorem trimmed_iff : Trimmed cs t ↔ trimChars cs = t := by
  refine ⟨trimChars_of_trimmed, ?_⟩
  rintro rfl
  obtain ⟨u, hu, hcs, hhead⟩ := exists_trimStart cs
  obtain ⟨w, hw, hstart, hlast⟩ := exists_trimEnd (trimStart cs)
  refine ⟨⟨fun c hc => hhead c ?_, hlast⟩, u, w, hu, hw, ?_⟩
  · -- What is left begins as the text without the blank space in front of it.
    have hne : trimEnd (trimStart cs) ≠ [] := by
      intro hnil
      rw [trimChars, hnil] at hc
      cases hc
    rw [hstart, List.head?_append_of_ne_nil _ hne]
    exact hc
  · rw [trimChars, List.append_assoc, ← hstart, ← hcs]

/-- Blank space around a text makes no difference. -/
lemma trimChars_append (hu : Blank u) (hw : Blank w) (cs : List Char) :
    trimChars (u ++ cs ++ w) = trimChars cs := by
  obtain ⟨htight, u', w', hu', hw', hcs⟩ : Trimmed cs (trimChars cs) := trimmed_iff.2 rfl
  refine trimmed_iff.1 ⟨htight, u ++ u', w' ++ w, hu.append hu', hw'.append hw, ?_⟩
  conv_lhs => rw [hcs]
  simp only [List.append_assoc]

lemma Tight.trimmed (h : Tight t) : Trimmed t t := ⟨h, [], [], by simp [Blank], by simp [Blank], by simp⟩

lemma tight_trimChars (cs : List Char) : Tight (trimChars cs) := (trimmed_iff.2 rfl).1

end BuildRunner.Text
