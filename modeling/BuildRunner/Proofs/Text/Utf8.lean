import BuildRunner.Text.Utf8
import Mathlib.Data.List.Basic

/-!
Characters that are written as bytes are read back. A character takes up to four bytes; the first
one says how many follow and within which bounds the second one lies, and each of the others adds
six bits to what has been read.
-/

namespace BuildRunner.Text.Utf8

/-! ### One byte -/

section Byte

variable {b : Nat} {p : Partial} {bs : List UInt8}

lemma toNat_ofNat (h : b < 0x100) : (UInt8.ofNat b).toNat = b := UInt8.toNat_ofNat_of_lt h

/-- A first byte that says all. -/
lemma scan_complete (h : b < 0x80) :
    scan none (UInt8.ofNat b :: bs) = some (Char.ofNat b) :: scan none bs := by
  have hb : (UInt8.ofNat b).toNat = b := toNat_ofNat (by omega)
  simp [scan, start, hb, h]

/-- A first byte behind which others are wanted. -/
lemma scan_more (hb : b < 0x100) (h : start b = .more p) :
    scan none (UInt8.ofNat b :: bs) = scan (some p) bs := by
  simp [scan, toNat_ofNat hb, h]

/-- A byte that a character goes on with. -/
lemma scan_next (hb : b < 0x100) (hlow : p.low ≤ b) (hhigh : b ≤ p.high) (h : 1 < p.wanted) :
    scan (some p) (UInt8.ofNat b :: bs) =
      scan (some ⟨p.wanted - 1, 0x80, 0xBF, p.value * 64 + (b - 0x80)⟩) bs := by
  simp [scan, toNat_ofNat hb, hlow, hhigh, Nat.not_le.2 h]

/-- A byte that a character ends with. -/
lemma scan_last (hb : b < 0x100) (hlow : p.low ≤ b) (hhigh : b ≤ p.high) (h : p.wanted ≤ 1) :
    scan (some p) (UInt8.ofNat b :: bs) =
      some (Char.ofNat (p.value * 64 + (b - 0x80))) :: scan none bs := by
  simp [scan, toNat_ofNat hb, hlow, hhigh, h]

end Byte

/-! ### One character -/

lemma toNat_valid (c : Char) : c.toNat < 0xD800 ∨ 0xDFFF < c.toNat ∧ c.toNat < 0x110000 := c.valid

/-- The first of two bytes. -/
lemma start_two {n : Nat} (hlow : 0x80 ≤ n) (hhigh : n < 0x800) :
    start (n / 64 % 32 + 192) = .more ⟨1, 0x80, 0xBF, n / 64⟩ := by
  have hvalue : n / 64 % 32 + 192 - 0xC0 = n / 64 := by omega
  simp only [start, hvalue]
  split_ifs <;> first | rfl | omega

/-- The first of three bytes, and the bounds of the second. -/
lemma start_three {n : Nat} (hlow : 0x800 ≤ n) (hhigh : n < 0x10000)
    (hn : n < 0xD800 ∨ 0xDFFF < n) :
    ∃ low high, start (n / 4096 % 16 + 224) = .more ⟨2, low, high, n / 4096⟩ ∧
      low ≤ n / 64 % 64 + 128 ∧ n / 64 % 64 + 128 ≤ high := by
  have hvalue : n / 4096 % 16 + 224 - 0xE0 = n / 4096 := by omega
  simp only [start, hvalue]
  split_ifs
  · omega
  · omega
  · exact ⟨0xA0, 0xBF, by rw [show n / 4096 = 0 by omega], by omega, by omega⟩
  · exact ⟨0x80, 0x9F, by rw [show n / 4096 = 0xD by omega], by omega, by omega⟩
  · exact ⟨0x80, 0xBF, rfl, by omega, by omega⟩
  all_goals omega

/-- The first of four bytes, and the bounds of the second. -/
lemma start_four {n : Nat} (hlow : 0x10000 ≤ n) (hhigh : n < 0x110000) :
    ∃ low high, start (n / 262144 % 8 + 240) = .more ⟨3, low, high, n / 262144⟩ ∧
      low ≤ n / 4096 % 64 + 128 ∧ n / 4096 % 64 + 128 ≤ high := by
  have hvalue : n / 262144 % 8 + 240 - 0xF0 = n / 262144 := by omega
  simp only [start, hvalue]
  split_ifs
  all_goals try omega
  · exact ⟨0x90, 0xBF, by rw [show n / 262144 = 0 by omega], by omega, by omega⟩
  · exact ⟨0x80, 0xBF, rfl, by omega, by omega⟩
  · exact ⟨0x80, 0x8F, by rw [show n / 262144 = 4 by omega], by omega, by omega⟩

/-- **A character is read back.** -/
theorem scan_utf8EncodeChar (c : Char) (bs : List UInt8) :
    scan none (String.utf8EncodeChar c ++ bs) = some c :: scan none bs := by
  have hvalid := toNat_valid c
  have hc {n : Nat} (h : n = c.toNat) : Char.ofNat n = c := by rw [h, Char.ofNat_toNat]
  simp only [String.utf8EncodeChar, show c.val.toNat = c.toNat from rfl]
  -- One byte, two, three and four.
  split_ifs with h1 h2 h3
  · rw [List.singleton_append, scan_complete (by omega), hc rfl]
  · simp only [List.cons_append, List.nil_append]
    rw [scan_more (by omega) (start_two (by omega) (by omega)),
      scan_last (by omega) (by simp) (by simp; omega) (by simp), hc (by simp; omega)]
  · obtain ⟨low, high, hstart, hb⟩ := start_three (n := c.toNat) (by omega) (by omega) (by omega)
    simp only [List.cons_append, List.nil_append]
    rw [scan_more (by omega) hstart, scan_next (by omega) hb.1 hb.2 (by simp),
      scan_last (by omega) (by simp) (by simp; omega) (by simp), hc (by simp; omega)]
  · obtain ⟨low, high, hstart, hb⟩ := start_four (n := c.toNat) (by omega) (by omega)
    simp only [List.cons_append, List.nil_append]
    rw [scan_more (by omega) hstart, scan_next (by omega) hb.1 hb.2 (by simp),
      scan_next (by omega) (by simp) (by simp; omega) (by simp),
      scan_last (by omega) (by simp) (by simp; omega) (by simp), hc (by simp; omega)]

/-- A byte of a character is the character itself or none of the first 128. -/
lemma of_mem_utf8EncodeChar {c : Char} {b : UInt8} (h : b ∈ String.utf8EncodeChar c) :
    b.toNat = c.toNat ∨ 0x80 ≤ b.toNat := by
  simp only [String.utf8EncodeChar, show c.val.toNat = c.toNat from rfl] at h
  split_ifs at h with h1
  · rw [List.mem_singleton.1 h]
    exact .inl (toNat_ofNat (by omega))
  all_goals
    simp only [List.mem_cons, List.not_mem_nil, or_false] at h
    right
  · rcases h with rfl | rfl <;> rw [toNat_ofNat (by omega)] <;> omega
  · rcases h with rfl | rfl | rfl <;> rw [toNat_ofNat (by omega)] <;> omega
  · rcases h with rfl | rfl | rfl | rfl <;> rw [toNat_ofNat (by omega)] <;> omega

/-! ### Many characters -/

lemma encode_append (cs cs' : List Char) : encode (cs ++ cs') = encode cs ++ encode cs' :=
  List.flatMap_append

lemma scan_encode (cs : List Char) (bs : List UInt8) :
    scan none (encode cs ++ bs) = cs.map some ++ scan none bs := by
  induction cs with
  | nil => rfl
  | cons c cs ih =>
    rw [encode, List.flatMap_cons, List.append_assoc, scan_utf8EncodeChar]
    exact congrArg _ ih

/-- **A text is read back** from its bytes, and none of it is replaced. -/
theorem decodeLossy_encode (cs : List Char) : decodeLossy (encode cs) = cs := by
  have h := scan_encode cs []
  rw [List.append_nil, scan, List.append_nil] at h
  rw [decodeLossy, h, List.map_map]
  exact List.map_id cs

/-- One of the first 128 bytes stands in a text only for the character itself. -/
lemma mem_of_mem_encode {cs : List Char} {b : UInt8} (h : b ∈ encode cs) (hb : b.toNat < 0x80) :
    ∃ c ∈ cs, c.toNat = b.toNat := by
  obtain ⟨c, hc, hmem⟩ := List.mem_flatMap.1 h
  rcases of_mem_utf8EncodeChar hmem with heq | hge
  · exact ⟨c, hc, heq.symm⟩
  · omega

end BuildRunner.Text.Utf8
