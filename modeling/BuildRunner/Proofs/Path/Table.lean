import BuildRunner.Path.Table
import Mathlib.Data.List.Basic
import Mathlib.Tactic.Common

/-!
The order of paths is a total order on what counts of them, and a table keeps it: its entries are
ascending, so a path has at most one. What is looked up behind a change is what was filed last, and
the values of the other paths are the ones from before.
-/

namespace BuildRunner

open Std

/-! ### The order -/

namespace Component

/-- Components are ordered by their rank, and those of one rank by their spelling. -/
lemma order_eq (a b : Component) :
    a.order b = (compare a.rank b.rank).then (compare a.text b.text) := by
  cases a <;> cases b <;> rfl

instance : TransCmp order := by
  have h : order = compareLex (compareOn rank) (compareOn text) := by
    funext a b
    exact order_eq a b
  rw [h]
  infer_instance

instance : LawfulEqCmp order where
  compare_self := ReflCmp.compare_self
  eq_of_compare := by
    intro a b h
    rw [order_eq, Ordering.then_eq_eq, LawfulEqOrd.compare_eq_iff_eq,
      LawfulEqOrd.compare_eq_iff_eq] at h
    obtain ⟨hrank, htext⟩ := h
    -- Only names have a spelling of their own, and no other kind has their rank.
    cases a <;> cases b <;> simp_all [rank, text]

end Component

namespace Path

variable {p q r : Path}

lemma orderComponents_eq : orderComponents = List.compareLex Component.order := by
  funext as bs
  induction as generalizing bs with
  | nil => cases bs <;> rfl
  | cons a as ih =>
    cases bs with
    | nil => rfl
    | cons b bs => rw [orderComponents, ih, List.compareLex_cons_cons]

instance : TransCmp orderComponents := by
  rw [orderComponents_eq]
  infer_instance

instance : LawfulEqCmp orderComponents := by
  rw [orderComponents_eq]
  infer_instance

instance : TransCmp order where
  eq_swap := by
    intro p q
    show orderComponents p.components q.components = (orderComponents q.components p.components).swap
    exact OrientedCmp.eq_swap
  isLE_trans := by
    intro p q r hpq hqr
    show (orderComponents p.components r.components).isLE
    exact TransCmp.isLE_trans hpq hqr

lemma same_iff : p.same q = true ↔ p.components = q.components := beq_iff_eq

/-- Two paths are on a par exactly if they have the same components. -/
lemma order_eq_eq : p.order q = .eq ↔ p.same q = true := by
  rw [same_iff, order, LawfulEqCmp.compare_eq_iff_eq]

lemma not_same_of_lt (h : p.order q = .lt) : p.same q = false := by
  rw [← Bool.not_eq_true, ← order_eq_eq, h]
  exact Ordering.noConfusion

lemma same_self (p : Path) : p.same p = true := same_iff.2 rfl

lemma same_comm (p q : Path) : p.same q = q.same p := by
  rw [Bool.eq_iff_iff, same_iff, same_iff, eq_comm]

/-- Two paths that are the same are the same as no others. -/
lemma same_congr (h : p.same q = true) (r : Path) : r.same p = r.same q := by
  rw [Bool.eq_iff_iff, same_iff, same_iff, same_iff.1 h]

namespace Table

variable {α : Type} {t : Table α} {v : α}

/-- The entries ascend. -/
def Sorted (t : Table α) : Prop := t.entries.Pairwise fun e e' => e.1.order e'.1 = .lt

lemma sorted_empty : (empty : Table α).Sorted := .nil

/-! ### What is looked up -/

lemma get?_cons (e : Path × α) (es : List (Path × α)) (p : Path) :
    (Table.mk (e :: es)).get? p = if e.1.same p then some e.2 else (Table.mk es).get? p := by
  unfold get?
  rw [List.find?_cons]
  cases e.1.same p <;> rfl

/-- **What was filed last is found**, and the other paths keep what they have. -/
theorem get?_insert (t : Table α) (p q : Path) (v : α) :
    (t.insert p v).get? q = if p.same q then some v else t.get? q := by
  obtain ⟨es⟩ := t
  unfold insert
  induction es with
  | nil => exact get?_cons (p, v) [] q
  | cons e es ih =>
    obtain ⟨r, w⟩ := e
    simp only [insertInto]
    split
    case h_1 => exact get?_cons (p, v) ((r, w) :: es) q
    case h_2 heq =>
      have hsame : p.same q = r.same q := by
        rw [same_comm p q, same_comm r q, same_congr (order_eq_eq.1 heq)]
      rw [get?_cons, get?_cons, hsame]
      split <;> rfl
    case h_3 hgt =>
      have hother : ¬ (p.same q = true ∧ r.same q = true) := by
        rintro ⟨hp, hr⟩
        rw [← same_congr hp r, same_comm r p, ← order_eq_eq, hgt] at hr
        cases hr
      rw [get?_cons, get?_cons, ih]
      by_cases hr : r.same q = true
      · have hp : ¬ p.same q = true := fun hp => hother ⟨hp, hr⟩
        rw [if_pos hr, if_neg hp, if_pos hr]
      · rw [if_neg hr, if_neg hr]

/-! ### What the entries are -/

/-- An entry behind an insertion was there before, or it is the one with the value that was filed. -/
lemma of_mem_insertInto {p : Path} {es : List (Path × α)} {e : Path × α}
    (h : e ∈ insertInto p v es) : e ∈ es ∨ (p.same e.1 = true ∧ e.2 = v) := by
  induction es with
  | nil =>
    obtain rfl := List.mem_singleton.1 h
    exact .inr ⟨same_self p, rfl⟩
  | cons e' es ih =>
    obtain ⟨r, w⟩ := e'
    simp only [insertInto] at h
    split at h
    case h_1 =>
      rcases List.mem_cons.1 h with rfl | h
      · exact .inr ⟨same_self p, rfl⟩
      · exact .inl h
    case h_2 heq =>
      rcases List.mem_cons.1 h with rfl | h
      · exact .inr ⟨order_eq_eq.1 heq, rfl⟩
      · exact .inl (List.mem_cons_of_mem _ h)
    case h_3 =>
      rcases List.mem_cons.1 h with rfl | h
      · exact .inl List.mem_cons_self
      · exact (ih h).imp_left (List.mem_cons_of_mem _)

/-- **A table stays in order.** -/
theorem sorted_insert (h : t.Sorted) (p : Path) (v : α) : (t.insert p v).Sorted := by
  obtain ⟨es⟩ := t
  unfold Sorted insert at *
  induction es with
  | nil => exact List.pairwise_singleton _ _
  | cons e es ih =>
    obtain ⟨r, w⟩ := e
    obtain ⟨hhead, htail⟩ := List.pairwise_cons.1 h
    simp only [insertInto]
    split
    case h_1 hlt =>
      refine List.pairwise_cons.2 ⟨fun e he => ?_, h⟩
      rcases List.mem_cons.1 he with rfl | he
      · exact hlt
      · exact TransCmp.lt_trans hlt (hhead e he)
    case h_2 => exact List.pairwise_cons.2 ⟨hhead, htail⟩
    case h_3 hgt =>
      refine List.pairwise_cons.2 ⟨fun e he => ?_, ih htail⟩
      rcases of_mem_insertInto he with he | ⟨hsame, -⟩
      · exact hhead e he
      · exact TransCmp.lt_of_lt_of_eq (OrientedCmp.gt_iff_lt.1 hgt) (order_eq_eq.2 hsame)

/-! ### The values -/

lemma erase_cons (e : Path × α) (es : List (Path × α)) (p : Path) :
    ((Table.mk (e :: es)).erase p).entries =
      if e.1.same p then ((Table.mk es).erase p).entries else e :: ((Table.mk es).erase p).entries := by
  unfold erase
  rw [List.filter_cons]
  cases e.1.same p <;> rfl

/-- What is filed under a path does not count for the others. -/
lemma erase_insert (t : Table α) (p : Path) (v : α) : (t.insert p v).erase p = t.erase p := by
  suffices h : ((t.insert p v).erase p).entries = (t.erase p).entries from congrArg Table.mk h
  obtain ⟨es⟩ := t
  unfold insert
  induction es with
  | nil =>
    rw [insertInto, erase_cons, if_pos (same_self p)]
  | cons e es ih =>
    obtain ⟨r, w⟩ := e
    simp only [insertInto]
    split
    case h_1 => rw [erase_cons, if_pos (same_self p)]
    case h_2 heq =>
      have hsame : r.same p = true := by rw [same_comm, ← order_eq_eq, heq]
      rw [erase_cons, erase_cons, if_pos hsame, if_pos hsame]
    case h_3 => rw [erase_cons, erase_cons, ih]

lemma erase_of_lt {p : Path} {es : List (Path × α)} (h : ∀ e ∈ es, p.order e.1 = .lt) :
    ((Table.mk es).erase p).entries = es := by
  refine List.filter_eq_self.2 fun e he => ?_
  rw [same_comm, not_same_of_lt (h e he)]
  rfl

/-- **The values are the one filed under a path, if there is one, and those of the others.** -/
theorem values_perm (h : t.Sorted) (p : Path) :
    t.values.Perm ((t.get? p).toList ++ (t.erase p).values) := by
  obtain ⟨es⟩ := t
  unfold Sorted values at *
  induction es with
  | nil => exact .refl _
  | cons e es ih =>
    obtain ⟨hhead, htail⟩ := List.pairwise_cons.1 h
    rw [get?_cons, erase_cons]
    split
    case isTrue hsame =>
      have hbehind : ∀ e' ∈ es, p.order e'.1 = .lt := by
        intro e' he'
        rw [same_comm, ← order_eq_eq] at hsame
        exact TransCmp.lt_of_eq_of_lt hsame (hhead e' he')
      rw [erase_of_lt hbehind]
      exact .refl _
    case isFalse => exact ((ih htail).cons e.2).trans List.perm_middle.symm

/-- The values behind an insertion are the one that was filed and those of the other paths. -/
theorem values_insert_perm (h : t.Sorted) (p : Path) (v : α) :
    (t.insert p v).values.Perm (v :: (t.erase p).values) := by
  have hperm := values_perm (sorted_insert h p v) p
  rw [get?_insert, if_pos (same_self p), erase_insert] at hperm
  exact hperm

/-! ### Paths without an entry, and entries filed anew -/

/-- Nothing is found for a path exactly when no entry has it. -/
lemma get?_eq_none_iff {p : Path} : t.get? p = none ↔ ∀ q ∈ t.paths, q.same p = false := by
  simp [get?, paths]

/-- What is filed already makes no difference when it is filed again. -/
lemma insert_of_get? (h : t.Sorted) {p : Path} (hget : t.get? p = some v) : t.insert p v = t := by
  suffices h : (t.insert p v).entries = t.entries from congrArg Table.mk h
  obtain ⟨es⟩ := t
  unfold Sorted insert at *
  induction es with
  | nil => cases hget
  | cons e es ih =>
    obtain ⟨r, w⟩ := e
    obtain ⟨hhead, htail⟩ := List.pairwise_cons.1 h
    rw [get?_cons] at hget
    simp only [insertInto]
    split
    case h_1 hlt =>
      -- Nothing behind a path that comes first is found under it.
      have hnone : (Table.mk ((r, w) :: es)).get? p = none := by
        refine get?_eq_none_iff.2 fun q hq => ?_
        obtain ⟨e, he, rfl⟩ := List.mem_map.1 hq
        rw [same_comm]
        rcases List.mem_cons.1 he with rfl | he
        · exact not_same_of_lt hlt
        · exact not_same_of_lt (TransCmp.lt_trans hlt (hhead e he))
      rw [get?_cons, hget] at hnone
      cases hnone
    case h_2 heq =>
      rw [same_comm, order_eq_eq.1 heq, if_pos rfl] at hget
      obtain rfl : w = v := Option.some.inj hget
      rfl
    case h_3 hgt =>
      have hother : ¬ r.same p = true := by
        rw [same_comm, ← order_eq_eq, hgt]
        exact Ordering.noConfusion
      rw [if_neg hother] at hget
      exact congrArg ((r, w) :: ·) (ih htail hget)

/-! ### Values made into others -/

/-- The table with every value made into another. -/
def mapValues {β : Type} (f : α → β) (t : Table α) : Table β :=
  ⟨t.entries.map fun e => (e.1, f e.2)⟩

section MapValues

variable {β : Type} (f : α → β)

lemma paths_mapValues (t : Table α) : (t.mapValues f).paths = t.paths := by
  simp [mapValues, paths, Function.comp_def]

lemma get?_mapValues (t : Table α) (p : Path) : (t.mapValues f).get? p = (t.get? p).map f := by
  simp [mapValues, get?, List.find?_map, Function.comp_def]

lemma sorted_mapValues (h : t.Sorted) : (t.mapValues f).Sorted := List.pairwise_map.2 h

lemma insert_mapValues (t : Table α) (p : Path) (v : α) :
    (t.mapValues f).insert p (f v) = (t.insert p v).mapValues f := by
  obtain ⟨es⟩ := t
  suffices h : insertInto p (f v) (es.map fun e => (e.1, f e.2)) =
      (insertInto p v es).map fun e => (e.1, f e.2) from congrArg Table.mk h
  induction es with
  | nil => rfl
  | cons e es ih =>
    obtain ⟨r, w⟩ := e
    simp only [List.map_cons, insertInto]
    split
    case h_3 => rw [ih, List.map_cons]
    all_goals rfl

end MapValues

/-! ### Paths with an entry -/

lemma mem_paths_insert {p q : Path} (h : q ∈ (t.insert p v).paths) : q = p ∨ q ∈ t.paths := by
  obtain ⟨es⟩ := t
  unfold insert paths at *
  induction es with
  | nil => exact .inl (List.mem_singleton.1 h)
  | cons e es ih =>
    obtain ⟨r, w⟩ := e
    simp only [insertInto] at h
    split at h
    case h_1 => exact List.mem_cons.1 h
    case h_2 => exact .inr h
    case h_3 =>
      rcases List.mem_cons.1 h with rfl | h
      · exact .inr List.mem_cons_self
      · exact (ih h).imp_right (List.mem_cons_of_mem _)

/-- What is filed under a path with an entry makes no other entry. -/
lemma paths_insert_of_get? (h : t.Sorted) {p : Path} {w : α} (hget : t.get? p = some w) :
    (t.insert p v).paths = t.paths := by
  -- The values do not count, and without them nothing is new.
  have hthere : (t.mapValues fun _ => ()).get? p = some () := by rw [get?_mapValues, hget]; rfl
  rw [← paths_mapValues (fun _ => ()), ← insert_mapValues,
    insert_of_get? (sorted_mapValues _ h) hthere, paths_mapValues]

/-- A path with an entry is the only one that is the same. -/
lemma filter_same_paths (h : t.Sorted) {p : Path} (hp : p ∈ t.paths) :
    t.paths.filter (·.same p) = [p] := by
  obtain ⟨es⟩ := t
  unfold Sorted paths at *
  induction es with
  | nil => cases hp
  | cons e es ih =>
    obtain ⟨hhead, htail⟩ := List.pairwise_cons.1 h
    rw [List.map_cons] at hp ⊢
    rcases List.mem_cons.1 hp with rfl | hp
    · have hothers : (es.map (·.1)).filter (·.same e.1) = [] := by
        rw [List.filter_eq_nil_iff]
        intro q hq
        obtain ⟨e', he', rfl⟩ := List.mem_map.1 hq
        rw [same_comm, not_same_of_lt (hhead e' he')]
        exact Bool.false_ne_true
      rw [List.filter_cons, if_pos (same_self e.1), hothers]
    · obtain ⟨e', he', rfl⟩ := List.mem_map.1 hp
      rw [List.filter_cons, not_same_of_lt (hhead e' he')]
      exact ih htail hp

end Table

end Path

end BuildRunner
