import BuildRunner.Proofs.Text.Utf8
import Mathlib.Algebra.Group.Nat.Defs
import Mathlib.Data.List.Infix
import Mathlib.Tactic.Common

/-!
What the lossy reading makes of any bytes, told without the reader (`Reads`): the characters that
stand there are read as they are, and each broken piece is replaced once. A broken piece is as much
of the beginning of a character as there is, or a byte with which no character begins. Neither
reaches over a character of one byte, so a text can be cut there (`reads_append_cons_iff`).
-/

namespace BuildRunner.Text.Utf8

/-- Bytes with which a character begins. -/
def Begins (bytes : List UInt8) : Prop := ∃ c, bytes <+: String.utf8EncodeChar c

/-- **A broken piece** in front of other bytes: a part of a character that they do not go on with,
or a byte with which none begins. -/
inductive Broken : List UInt8 → List UInt8 → Prop where
  | cut {piece rest : List UInt8} {c : Char} (nonempty : piece ≠ [])
    (begins : piece <+: String.utf8EncodeChar c) (short : piece ≠ String.utf8EncodeChar c)
    (ends : ∀ b ∈ rest.head?, ¬ Begins (piece ++ [b])) : Broken piece rest
  | stray {b : UInt8} {rest : List UInt8} (stray : ¬ Begins [b]) : Broken [b] rest

/-- **What bytes are read as**, broken pieces replaced. -/
inductive Reads : List UInt8 → List Char → Prop where
  | nil : Reads [] []
  | char {bs : List UInt8} {cs : List Char} (c : Char) (rest : Reads bs cs) :
    Reads (String.utf8EncodeChar c ++ bs) (c :: cs)
  | broken {piece bs : List UInt8} {cs : List Char} (broken : Broken piece bs)
    (rest : Reads bs cs) : Reads (piece ++ bs) (replacement :: cs)

/-! ### The bytes of a character -/

/-- The last bytes of a character, six bits each. -/
def lastBytes : Nat → Nat → List UInt8
  | 0, _ => []
  | k + 1, n => UInt8.ofNat (n / 64 ^ k % 64 + 0x80) :: lastBytes k n

section Bytes

variable {n : Nat}

lemma toNat_ofNat_of_valid (h : n < 0xD800 ∨ 0xDFFF < n ∧ n < 0x110000) :
    (Char.ofNat n).val.toNat = n := by
  rw [Char.ofNat, dif_pos h]
  rfl

lemma utf8EncodeChar_one (h : n < 0x80) : String.utf8EncodeChar (Char.ofNat n) = [UInt8.ofNat n] := by
  simp only [String.utf8EncodeChar, toNat_ofNat_of_valid (n := n) (by omega)]
  rw [if_pos (by omega)]

lemma utf8EncodeChar_two (hlow : 0x80 ≤ n) (hhigh : n < 0x800) :
    String.utf8EncodeChar (Char.ofNat n) = UInt8.ofNat (n / 64 + 0xC0) :: lastBytes 1 n := by
  have hfirst : n / 64 % 32 + 192 = n / 64 + 0xC0 := by omega
  simp only [String.utf8EncodeChar, toNat_ofNat_of_valid (n := n) (by omega)]
  rw [if_neg (by omega), if_pos (by omega), hfirst]
  simp [lastBytes]

lemma utf8EncodeChar_three (hlow : 0x800 ≤ n) (hhigh : n < 0x10000)
    (hvalid : n < 0xD800 ∨ 0xDFFF < n) :
    String.utf8EncodeChar (Char.ofNat n) = UInt8.ofNat (n / 4096 + 0xE0) :: lastBytes 2 n := by
  have hfirst : n / 4096 % 16 + 224 = n / 4096 + 0xE0 := by omega
  simp only [String.utf8EncodeChar, toNat_ofNat_of_valid (n := n) (by omega)]
  rw [if_neg (by omega), if_neg (by omega), if_pos (by omega), hfirst]
  simp [lastBytes]

lemma utf8EncodeChar_four (hlow : 0x10000 ≤ n) (hhigh : n < 0x110000) :
    String.utf8EncodeChar (Char.ofNat n) = UInt8.ofNat (n / 262144 + 0xF0) :: lastBytes 3 n := by
  have hfirst : n / 262144 % 8 + 240 = n / 262144 + 0xF0 := by omega
  simp only [String.utf8EncodeChar, toNat_ofNat_of_valid (n := n) (by omega)]
  rw [if_neg (by omega), if_neg (by omega), if_neg (by omega), hfirst]
  simp [lastBytes]

end Bytes

/-! ### The beginning of a character -/

/-- **What is known of a character of which the first bytes have been read**: `k` bytes are missing
behind the next one, and every next byte within the bounds goes on with it. -/
structure Held (piece : List UInt8) (p : Partial) (k : Nat) : Prop where
  wanted : p.wanted = k + 1
  nonempty : piece ≠ []
  bounds : 0x80 ≤ p.low ∧ p.low ≤ p.high ∧ p.high ≤ 0xBF
  scan_eq : ∀ bs, scan none (piece ++ bs) = scan (some p) bs
  char : ∀ x n, p.low ≤ x → x ≤ p.high → n / 64 ^ k = p.value * 64 + (x - 0x80) →
    String.utf8EncodeChar (Char.ofNat n) = piece ++ UInt8.ofNat x :: lastBytes k n

lemma lastBytes_succ {n k v x : Nat} (hlow : 0x80 ≤ x) (hhigh : x ≤ 0xBF)
    (hn : n / 64 ^ k = v * 64 + (x - 0x80)) :
    lastBytes (k + 1) n = UInt8.ofNat x :: lastBytes k n := by
  have hx : (v * 64 + (x - 0x80)) % 64 + 0x80 = x := by omega
  rw [lastBytes, hn, hx]

/-- A first byte, and the bounds within which every second one goes on with it. -/
lemma held_first {b k low high v : Nat} (bounds : 0x80 ≤ low ∧ low ≤ high ∧ high ≤ 0xBF)
    (hb : b < 0x100) (h : start b = .more ⟨k + 1, low, high, v⟩)
    (char : ∀ x n, low ≤ x → x ≤ high → n / 64 ^ k = v * 64 + (x - 0x80) →
      String.utf8EncodeChar (Char.ofNat n) = UInt8.ofNat b :: lastBytes (k + 1) n) :
    Held [UInt8.ofNat b] ⟨k + 1, low, high, v⟩ k := by
  obtain ⟨h1, h2, h3⟩ := bounds
  refine ⟨rfl, by simp, ⟨h1, h2, h3⟩, fun bs => scan_more hb h, fun x n hlow hhigh hn => ?_⟩
  rw [char x n hlow hhigh hn, lastBytes_succ (h1.trans hlow) (hhigh.trans h3) hn]
  rfl

lemma held_start {b : Nat} {p : Partial} (hb : b < 0x100) (h : start b = .more p) :
    ∃ k, Held [UInt8.ofNat b] p k := by
  have hstart := h
  unfold start at h
  -- One case for characters of two bytes, three for those of three and three for those of four.
  split_ifs at h <;> cases h
  · refine ⟨0, held_first (by omega) hb hstart fun x n hlow hhigh hn => ?_⟩
    have hn : n / 1 = (b - 0xC0) * 64 + (x - 0x80) := hn
    rw [utf8EncodeChar_two (by omega) (by omega), show n / 64 + 0xC0 = b by omega]
  · refine ⟨1, held_first (by omega) hb hstart fun x n hlow hhigh hn => ?_⟩
    have hn : n / 64 = 0 * 64 + (x - 0x80) := hn
    rw [utf8EncodeChar_three (by omega) (by omega) (by omega), show n / 4096 + 0xE0 = b by omega]
  · refine ⟨1, held_first (by omega) hb hstart fun x n hlow hhigh hn => ?_⟩
    have hn : n / 64 = 0xD * 64 + (x - 0x80) := hn
    rw [utf8EncodeChar_three (by omega) (by omega) (by omega), show n / 4096 + 0xE0 = b by omega]
  · refine ⟨1, held_first (by omega) hb hstart fun x n hlow hhigh hn => ?_⟩
    have hn : n / 64 = (b - 0xE0) * 64 + (x - 0x80) := hn
    rw [utf8EncodeChar_three (by omega) (by omega) (by omega), show n / 4096 + 0xE0 = b by omega]
  · refine ⟨2, held_first (by omega) hb hstart fun x n hlow hhigh hn => ?_⟩
    have hn : n / 4096 = 0 * 64 + (x - 0x80) := hn
    rw [utf8EncodeChar_four (by omega) (by omega), show n / 262144 + 0xF0 = b by omega]
  · refine ⟨2, held_first (by omega) hb hstart fun x n hlow hhigh hn => ?_⟩
    have hn : n / 4096 = (b - 0xF0) * 64 + (x - 0x80) := hn
    rw [utf8EncodeChar_four (by omega) (by omega), show n / 262144 + 0xF0 = b by omega]
  · refine ⟨2, held_first (by omega) hb hstart fun x n hlow hhigh hn => ?_⟩
    have hn : n / 4096 = 4 * 64 + (x - 0x80) := hn
    rw [utf8EncodeChar_four (by omega) (by omega), show n / 262144 + 0xF0 = b by omega]

section Held

variable {piece : List UInt8} {p : Partial} {k x : Nat}

/-- One more byte of it, within the bounds. -/
lemma Held.next (h : Held piece p (k + 1)) (hlow : p.low ≤ x) (hhigh : x ≤ p.high) :
    Held (piece ++ [UInt8.ofNat x]) ⟨k + 1, 0x80, 0xBF, p.value * 64 + (x - 0x80)⟩ k := by
  obtain ⟨h1, h2, h3⟩ := h.bounds
  refine ⟨rfl, by simp, by simp, fun bs => ?_, fun y n hy hy' hn => ?_⟩
  · have hwanted : 1 < p.wanted := by rw [h.wanted]; omega
    rw [List.append_assoc, h.scan_eq, List.singleton_append,
      scan_next (by omega) hlow hhigh hwanted, h.wanted]
    rfl
  · have hvalue : n / 64 ^ (k + 1) = p.value * 64 + (x - 0x80) := by
      have hhigh' : y - 0x80 < 64 := by
        have : y ≤ 0xBF := hy'
        omega
      rw [Nat.pow_succ, ← Nat.div_div_eq_div_mul, hn, Nat.mul_comm _ 64,
        Nat.mul_add_div (by decide), Nat.div_eq_of_lt hhigh', Nat.add_zero]
    rw [h.char x n hlow hhigh hvalue, lastBytes_succ hy hy' hn]
    simp

/-- The last byte of it, within the bounds. -/
lemma Held.last (h : Held piece p 0) (hlow : p.low ≤ x) (hhigh : x ≤ p.high) :
    String.utf8EncodeChar (Char.ofNat (p.value * 64 + (x - 0x80))) = piece ++ [UInt8.ofNat x] :=
  h.char x _ hlow hhigh (Nat.div_one _)

/-- A character begins with it and with each next byte within the bounds. -/
lemma Held.begins (h : Held piece p k) (hlow : p.low ≤ x) (hhigh : x ≤ p.high) :
    Begins (piece ++ [UInt8.ofNat x]) := by
  have hpos : 0 < 64 ^ k := Nat.pow_pos (by decide)
  have hchar := h.char x _ hlow hhigh (Nat.mul_div_left (p.value * 64 + (x - 0x80)) hpos)
  exact ⟨_, lastBytes k _, by rw [hchar, List.append_assoc, List.singleton_append]⟩

/-- No character goes on with a byte out of the bounds. -/
lemma Held.begins_iff {b : UInt8} (h : Held piece p k) :
    Begins (piece ++ [b]) ↔ p.low ≤ b.toNat ∧ b.toNat ≤ p.high := by
  constructor
  · rintro ⟨c, bs, hc⟩
    by_contra hb
    have hread := scan_utf8EncodeChar c []
    rw [List.append_nil, ← hc, List.append_assoc, h.scan_eq] at hread
    simp [scan, hb] at hread
  · rintro ⟨hlow, hhigh⟩
    have hbegins := h.begins hlow hhigh
    rwa [UInt8.ofNat_toNat] at hbegins

lemma Held.broken {rest : List UInt8} (h : Held piece p k)
    (hends : ∀ b ∈ rest.head?, ¬ Begins (piece ++ [b])) : Broken piece rest := by
  obtain ⟨-, h2, -⟩ := h.bounds
  obtain ⟨c, bs, hc⟩ := h.begins (Nat.le_refl p.low) h2
  rw [List.append_assoc] at hc
  refine .cut h.nonempty ⟨_, hc⟩ ?_ hends
  intro heq
  rw [← hc] at heq
  simp at heq

/-- A byte out of the bounds closes a broken piece, and is looked at afresh. -/
lemma scan_out {b : UInt8} {bs : List UInt8} (hb : ¬ (p.low ≤ b.toNat ∧ b.toNat ≤ p.high)) :
    scan (some p) (b :: bs) = none :: scan none (b :: bs) := by
  simp [scan, hb]

end Held

/-! ### One byte that begins a character or none -/

section Start

variable {b : UInt8} {c c' : Char}

lemma utf8EncodeChar_of_complete (h : start b.toNat = .complete c) :
    String.utf8EncodeChar c = [b] := by
  unfold start at h
  split_ifs at h with hb
  obtain rfl := Start.complete.inj h
  rw [utf8EncodeChar_one hb, UInt8.ofNat_toNat]

lemma held_of_more {p : Partial} (h : start b.toNat = .more p) : ∃ k, Held [b] p k := by
  have hheld := held_start b.toNat_lt h
  rwa [UInt8.ofNat_toNat] at hheld

lemma not_begins_of_broken (h : start b.toNat = .broken) : ¬ Begins [b] := by
  rintro ⟨c, bs, hc⟩
  have hread := scan_utf8EncodeChar c []
  rw [List.append_nil, ← hc] at hread
  simp [scan, h] at hread

/-- No character is the beginning of another one. -/
lemma eq_of_isPrefix (h : String.utf8EncodeChar c <+: String.utf8EncodeChar c') : c = c' := by
  obtain ⟨bs, hc⟩ := h
  have hread := scan_utf8EncodeChar c' []
  rw [List.append_nil, ← hc, scan_utf8EncodeChar] at hread
  exact Option.some.inj (List.cons.inj hread).1

end Start

/-! ### The main statement -/

/-- **What the reader makes of bytes** is a reading of them, and behind the first bytes of a
character one of those and the bytes. -/
lemma reads_scan (bs : List UInt8) :
    Reads bs ((scan none bs).map (·.getD replacement)) ∧
      ∀ piece p k, Held piece p k →
        Reads (piece ++ bs) ((scan (some p) bs).map (·.getD replacement)) := by
  induction bs with
  | nil => exact ⟨.nil, fun piece p k h => .broken (h.broken (by simp)) .nil⟩
  | cons b bs ih =>
    have hnone : Reads (b :: bs) ((scan none (b :: bs)).map (·.getD replacement)) := by
      rw [scan]
      split
      case h_1 c hstart =>
        have hread := Reads.char c ih.1
        rwa [utf8EncodeChar_of_complete hstart] at hread
      case h_2 p hstart =>
        obtain ⟨k, hheld⟩ := held_of_more hstart
        exact ih.2 [b] p k hheld
      case h_3 hstart => exact .broken (.stray (not_begins_of_broken hstart)) ih.1
    refine ⟨hnone, fun piece p k h => ?_⟩
    by_cases hb : p.low ≤ b.toNat ∧ b.toNat ≤ p.high
    · cases k with
      | zero =>
        have hread := Reads.char (Char.ofNat (p.value * 64 + (b.toNat - 0x80))) ih.1
        rw [h.last hb.1 hb.2, UInt8.ofNat_toNat] at hread
        simpa [scan, hb, h.wanted] using hread
      | succ k =>
        have hread := ih.2 _ _ k (h.next hb.1 hb.2)
        rw [UInt8.ofNat_toNat] at hread
        simpa [scan, hb, h.wanted] using hread
    · rw [scan_out hb]
      refine .broken (h.broken ?_) hnone
      rintro _ ⟨⟩ hbegins
      exact hb (h.begins_iff.1 hbegins)

/-- The first bytes of a character leave something missing. -/
lemma held_of_isPrefix {piece : List UInt8} {c : Char} (nonempty : piece ≠ [])
    (begins : piece <+: String.utf8EncodeChar c) (short : piece ≠ String.utf8EncodeChar c) :
    ∃ p k, Held piece p k := by
  -- A whole character is not the beginning of another one.
  have hwhole : ∀ c', String.utf8EncodeChar c' ≠ piece := by
    rintro c' rfl
    exact short (congrArg _ (eq_of_isPrefix begins))
  induction piece using List.reverseRecOn with
  | nil => exact absurd rfl nonempty
  | append_singleton piece b ih =>
    have hfront : piece <+: String.utf8EncodeChar c := (List.prefix_append piece [b]).trans begins
    by_cases hempty : piece = []
    · subst hempty
      cases hstart : start b.toNat with
      | complete c' => exact absurd (utf8EncodeChar_of_complete hstart) (hwhole c')
      | more p =>
        obtain ⟨k, h⟩ := held_of_more hstart
        exact ⟨p, k, h⟩
      | broken => exact absurd ⟨c, begins⟩ (not_begins_of_broken hstart)
    · have hshort : piece ≠ String.utf8EncodeChar c := by
        rintro rfl
        have hlength := begins.length_le
        rw [List.length_append, List.length_singleton] at hlength
        omega
      obtain ⟨p, k, h⟩ := ih hempty hfront hshort (by
        rintro c' rfl
        exact hshort (congrArg _ (eq_of_isPrefix hfront)))
      obtain ⟨hlow, hhigh⟩ := h.begins_iff.1 ⟨c, begins⟩
      rw [← UInt8.ofNat_toNat (x := b)] at hwhole ⊢
      cases k with
      | zero => exact absurd (h.last hlow hhigh) (hwhole _)
      | succ k => exact ⟨_, k, h.next hlow hhigh⟩

lemma scan_broken {piece bs : List UInt8} (h : Broken piece bs) :
    scan none (piece ++ bs) = none :: scan none bs := by
  cases h with
  | cut nonempty begins short ends =>
    obtain ⟨p, k, h⟩ := held_of_isPrefix nonempty begins short
    rw [h.scan_eq]
    cases bs with
    | nil => rfl
    | cons b bs => exact scan_out fun hb => ends b rfl (h.begins_iff.2 hb)
  | @stray b _ stray =>
    rw [List.singleton_append, scan]
    split
    case h_1 c hstart => exact absurd ⟨c, [], by simp [utf8EncodeChar_of_complete hstart]⟩ stray
    case h_2 p hstart =>
      obtain ⟨k, h⟩ := held_of_more hstart
      obtain ⟨-, h2, -⟩ := h.bounds
      obtain ⟨c, bs', hc⟩ := h.begins (Nat.le_refl p.low) h2
      exact absurd ⟨c, _, by rw [← hc, List.append_assoc]⟩ stray
    case h_3 => rfl

/-- **Bytes are read with their broken pieces replaced**, and in no other way. -/
theorem reads_iff {bytes : List UInt8} {cs : List Char} :
    Reads bytes cs ↔ decodeLossy bytes = cs := by
  constructor
  · intro h
    induction h with
    | nil => rfl
    | char c _ ih =>
      rw [decodeLossy, scan_utf8EncodeChar, ← ih]
      rfl
    | broken hbroken _ ih =>
      rw [decodeLossy, scan_broken hbroken, ← ih]
      rfl
  · rintro rfl
    exact (reads_scan bytes).1

/-- Two bytes of a character that takes three are one broken piece, two first bytes are two. -/
example : decodeLossy [0xE2, 0x82, 0x41, 0xC3, 0xC3] = [replacement, 'A', replacement, replacement] :=
  rfl

/-! ### Bytes cut at a character of one byte -/

section Cut

variable {bytes xs ys piece rest : List UInt8} {cs ds : List Char} {b : UInt8} {c : Char}

lemma utf8EncodeChar_ascii (hc : c.toNat < 0x80) : String.utf8EncodeChar c = [UInt8.ofNat c.toNat] := by
  have h := utf8EncodeChar_one hc
  rwa [Char.ofNat_toNat] at h

/-- Behind the first byte of a character none of the first 128 goes on with it. -/
lemma not_begins_append (hpiece : piece ≠ []) (hb : b.toNat < 0x80) : ¬ Begins (piece ++ [b]) := by
  rintro ⟨c, hc⟩
  have hmem : b ∈ String.utf8EncodeChar c := hc.subset (by simp)
  rcases of_mem_utf8EncodeChar hmem with heq | hge
  · -- The character is the byte itself, so there is no room for one in front of it.
    have hlength := hc.length_le
    rw [utf8EncodeChar_ascii (heq ▸ hb), List.length_append] at hlength
    exact hpiece (List.eq_nil_of_length_eq_zero (by simpa using hlength))
  · omega

/-- A broken piece is one whatever stands there of what is behind it. -/
lemma Broken.of_append (h : Broken piece (xs ++ ys)) : Broken piece xs := by
  cases h with
  | cut nonempty begins short ends =>
    refine .cut nonempty begins short fun b hb => ends b ?_
    rw [List.head?_append, Option.mem_def.1 hb]
    rfl
  | stray stray => exact .stray stray

/-- A broken piece ends in front of a byte that begins a character by itself. -/
lemma Broken.append (h : Broken piece xs) (hys : ∀ b ∈ ys.head?, b.toNat < 0x80) :
    Broken piece (xs ++ ys) := by
  cases h with
  | cut nonempty begins short ends =>
    refine .cut nonempty begins short fun b hb => ?_
    rw [List.head?_append] at hb
    cases hxs : xs.head? with
    | none => exact not_begins_append nonempty (hys b (by simpa [hxs] using hb))
    | some b' => exact ends b (by simpa [hxs] using hb)
  | stray stray => exact .stray stray

lemma Reads.append (hxs : Reads xs cs) (hys : ∀ b ∈ ys.head?, b.toNat < 0x80) (h : Reads ys ds) :
    Reads (xs ++ ys) (cs ++ ds) := by
  induction hxs with
  | nil => exact h
  | char c _ ih =>
    rw [List.append_assoc]
    exact .char c ih
  | broken hbroken _ ih =>
    rw [List.append_assoc]
    exact .broken (hbroken.append hys) ih

/-- Nothing but no bytes is read as nothing. -/
lemma Reads.eq_nil (h : Reads bytes []) : bytes = [] := by
  cases h
  rfl

/-- **A text is cut at a character of one byte where its bytes are cut at that byte**: broken pieces
do not reach over it, nor does it stand inside another character. -/
theorem reads_append_cons_iff (hc : c.toNat < 0x80) :
    Reads bytes (cs ++ c :: ds) ↔
      ∃ xs ys, bytes = xs ++ UInt8.ofNat c.toNat :: ys ∧ Reads xs cs ∧ Reads ys ds := by
  constructor
  · intro h
    generalize htext : cs ++ c :: ds = text at h
    induction h generalizing cs with
    | nil => simp at htext
    | @char bs _ d hrest ih =>
      rcases List.cons_eq_append_iff.1 htext.symm with ⟨rfl, heq⟩ | ⟨cs', rfl, heq⟩
      · obtain ⟨rfl, rfl⟩ := List.cons.inj heq
        exact ⟨[], bs, by rw [utf8EncodeChar_ascii hc]; rfl, .nil, hrest⟩
      · obtain ⟨xs, ys, rfl, hxs, hys⟩ := ih heq.symm
        exact ⟨_, ys, (List.append_assoc ..).symm, .char d hxs, hys⟩
    | @broken piece bs _ hbroken hrest ih =>
      rcases List.cons_eq_append_iff.1 htext.symm with ⟨rfl, heq⟩ | ⟨cs', rfl, heq⟩
      · obtain ⟨rfl, rfl⟩ := List.cons.inj heq
        exact absurd hc (by decide)
      · obtain ⟨xs, ys, rfl, hxs, hys⟩ := ih heq.symm
        exact ⟨_, ys, (List.append_assoc ..).symm, .broken hbroken.of_append hxs, hys⟩
  · rintro ⟨xs, ys, rfl, hxs, hys⟩
    have hread := Reads.char c hys
    rw [utf8EncodeChar_ascii hc] at hread
    refine hxs.append ?_ hread
    rintro _ ⟨⟩
    rw [toNat_ofNat (by omega)]
    exact hc

end Cut

end BuildRunner.Text.Utf8
