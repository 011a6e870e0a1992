import BuildRunner.Json.Printer
import BuildRunner.Json.Reader
import Mathlib.Data.List.TakeWhile
import Mathlib.Data.Nat.Digits.Defs

/-!
What is printed is read back. A printed value stands in front of a comma, a closing bracket or the
end of the text, and each piece of it is read up to there; only a value with more arrays and objects
inside one another than the reader opens at once is refused.
-/

namespace BuildRunner.Json

/-! ### Strings -/

/-- The piece that a character of a string is read back as. -/
def Piece.Spells (p : Piece) (c : Char) : Prop := ∀ ps, join? (p :: ps) = (join? ps).map (c :: ·)

lemma Piece.spells_char (c : Char) : (Piece.char c).Spells c := fun _ => by rw [join?]

lemma Piece.spells_unit {c : Char} (h : c.toNat < 0x20) : (Piece.unit c.toNat).Spells c := by
  intro ps
  have htrail : isTrail c.toNat = false := by simp [isTrail]; omega
  have hlead : isLead c.toNat = false := by simp [isLead]; omega
  rcases ps with _ | ⟨_ | _, _⟩ <;> simp [join?, htrail, hlead]

lemma hexValue?_digitChar : ∀ n < 16, hexValue? (Nat.digitChar n) = some n := by decide

/-- What is read behind a piece. -/
def Piece.before (p : Piece) (q : List Piece × List Char) : List Piece × List Char :=
  (p :: q.1, q.2)

lemma Piece.bind_before (p : Piece) (read : Option (List Piece × List Char)) :
    (do let (ps, rest) ← read; return (p :: ps, rest)) = read.map p.before := by
  cases read <;> rfl

lemma pieces_escape {e c : Char} (h : escape? e = some c) (rest : List Char) :
    pieces ('\\' :: e :: rest) = (pieces rest).map (Piece.char c).before := by
  have he : e ≠ 'u' := by
    rintro rfl
    simp [escape?] at h
  rw [pieces, h]
  · exact Piece.bind_before _ _
  · exact fun _ _ _ _ _ hu _ => he hu

/-- A character is read back from its escape. -/
lemma pieces_escapedChar (c : Char) (rest : List Char) :
    ∃ p : Piece, p.Spells c ∧ pieces (escapedChar c ++ rest) = (pieces rest).map p.before := by
  have hletter {e d : Char} (he : escape? e = some d) (hd : c = d) : ∃ p : Piece, p.Spells c ∧
      pieces ('\\' :: e :: rest) = (pieces rest).map p.before :=
    ⟨.char c, Piece.spells_char c, pieces_escape (hd ▸ he) rest⟩
  have hof {n : Nat} (h : c.toNat = n) : c = Char.ofNat n := by rw [← h, Char.ofNat_toNat]
  unfold escapedChar
  -- Seven escapes of one letter, the escape by number, and the characters that stand as they are.
  split_ifs with hquote hslash hn hr ht hb hf hctl
  · exact hletter rfl hquote
  · exact hletter rfl hslash
  · exact hletter rfl hn
  · exact hletter rfl hr
  · exact hletter rfl ht
  · exact hletter rfl (hof hb)
  · exact hletter rfl (hof hf)
  · have hhex : hexQuad? '0' '0' (Nat.digitChar (c.toNat / 16)) (Nat.digitChar (c.toNat % 16)) =
        some c.toNat := by
      have hdiv := hexValue?_digitChar (c.toNat / 16) (by omega)
      have hmod := hexValue?_digitChar (c.toNat % 16) (by omega)
      have hzero : hexValue? '0' = some 0 := rfl
      simp [hexQuad?, hdiv, hmod, hzero]
      omega
    refine ⟨.unit c.toNat, Piece.spells_unit hctl, ?_⟩
    simp only [List.cons_append, List.nil_append, pieces, hhex]
    exact Piece.bind_before _ _
  · refine ⟨.char c, Piece.spells_char c, ?_⟩
    rw [List.singleton_append, pieces]
    · simp only [hslash, hctl, or_self, if_false]
      exact Piece.bind_before _ _
    · exact hquote
    · exact fun _ _ _ _ _ h _ => hslash h
    · exact fun _ _ h _ => hslash h

/-- **A string is read back**, up to its closing quote. -/
theorem readString_stringChars (s : String) (rest : List Char) :
    readString (s.toList.flatMap escapedChar ++ '"' :: rest) = some (s, rest) := by
  have hpieces (cs : List Char) : ∃ ps, pieces (cs.flatMap escapedChar ++ '"' :: rest) =
      some (ps, rest) ∧ join? ps = some cs := by
    induction cs with
    | nil => exact ⟨[], by simp [pieces], by simp [join?]⟩
    | cons c cs ih =>
      obtain ⟨ps, hps, hjoin⟩ := ih
      obtain ⟨p, hp, hread⟩ := pieces_escapedChar c (cs.flatMap escapedChar ++ '"' :: rest)
      refine ⟨p :: ps, ?_, by simp [hp ps, hjoin]⟩
      rw [List.flatMap_cons, List.append_assoc, hread, hps]
      rfl
  obtain ⟨ps, hps, hjoin⟩ := hpieces s.toList
  simp [readString, hps, hjoin]

/-! ### Numbers -/

lemma toDigits_eq_cons (n : Nat) : ∃ c cs, Nat.toDigits 10 n = c :: cs ∧ c.isDigit = true := by
  rcases hds : Nat.toDigits 10 n with _ | ⟨c, cs⟩
  · exact absurd hds Nat.toDigits_ne_nil
  · exact ⟨c, cs, rfl, Nat.isDigit_of_mem_toDigits (b := 10) (n := n) (by decide) (by decide)
      (by simp [hds])⟩

/-- A printed number does not begin with a zero unless it is zero. -/
lemma toDigits_eq_zero_cons {n : Nat} {ds : List Char} (h : Nat.toDigits 10 n = '0' :: ds) :
    ds = [] := by
  induction n using Nat.strongRecOn generalizing ds with
  | _ n ih =>
    rcases Nat.lt_or_ge n 10 with hn | hn
    · rw [Nat.toDigits_of_lt_base hn] at h
      exact (List.cons.inj h).2.symm
    · rw [Nat.toDigits_of_base_le (by decide) hn] at h
      rcases hq : Nat.toDigits 10 (n / 10) with _ | ⟨d, ds'⟩
      · exact absurd hq Nat.toDigits_ne_nil
      · rw [hq, List.cons_append] at h
        obtain ⟨rfl, -⟩ := List.cons.inj h
        have hzero : n / 10 = 0 := by
          rw [← Nat.ofDigitChars_ten_toDigits (n := n / 10), hq, ih (n / 10) (by omega) hq]
          rfl
        omega

lemma le_foldl_digits (s : Nat) (ds : List Nat) : s ≤ ds.foldl (fun n d => n * 10 + d) s := by
  induction ds generalizing s with
  | nil => exact Nat.le_refl s
  | cons d ds ih => exact Nat.le_trans (by omega) (ih (s * 10 + d))

/-- The significand takes up all digits of a number that is small enough. -/
lemma absorb_eq {s : Nat} {ds : List Nat} (h : ds.foldl (fun n d => n * 10 + d) s < 2 ^ 64) :
    absorb s ds = (ds.foldl (fun n d => n * 10 + d) s, 0) := by
  induction ds generalizing s with
  | nil => rfl
  | cons d ds ih =>
    have hnext : s * 10 + d < Nat.pow 2 64 := Nat.lt_of_le_of_lt (le_foldl_digits _ ds) h
    rw [absorb, if_pos hnext, ih h]
    rfl

/-- What may stand behind a printed value: nothing, or what ends it inside another value. -/
def EndsValue : List Char → Prop
  | [] => True
  | c :: _ => c = ',' ∨ c = ']' ∨ c = '}'

/-- **A number is read back**, up to what ends it. -/
theorem readUnsigned_toDigits {n : Nat} (hn : n < 2 ^ 64) {rest : List Char} (h : EndsValue rest) :
    readUnsigned false (Nat.toDigits 10 n ++ rest) = some (.natural n, rest) := by
  have hdigit : ∀ c ∈ Nat.toDigits 10 n, c.isDigit = true := fun c hc =>
    Nat.isDigit_of_mem_toDigits (by decide) (by decide) hc
  have hstop : rest.takeWhile Char.isDigit = [] ∧ rest.dropWhile Char.isDigit = rest := by
    rcases rest with _ | ⟨c, rest⟩
    · simp
    · rcases h with rfl | rfl | rfl <;> simp [Char.isDigit]
  have hdigits : digits (Nat.toDigits 10 n ++ rest) =
      ((Nat.toDigits 10 n).map fun c => c.toNat - '0'.toNat, rest) := by
    rw [digits, List.takeWhile_append_of_pos hdigit, List.dropWhile_append_of_pos hdigit, hstop.1,
      hstop.2, List.append_nil]
  have habsorb : absorb 0 ((Nat.toDigits 10 n).map fun c => c.toNat - '0'.toNat) = (n, 0) := by
    have hval : ((Nat.toDigits 10 n).map fun c => c.toNat - '0'.toNat).foldl
        (fun n d => n * 10 + d) 0 = n := by
      rw [List.foldl_map]
      conv_rhs => rw [← Nat.ofDigitChars_ten_toDigits (n := n), Nat.ofDigitChars_eq_foldl]
      simp only [Nat.mul_comm]
    rw [absorb_eq (by rwa [hval]), hval]
  have hfraction : readFraction rest = some ([], rest) := by
    rcases rest with _ | ⟨c, rest⟩
    · rfl
    · rcases h with rfl | rfl | rfl <;> rfl
  have hexponent : readExponent rest = some (false, 0, rest) := by
    rcases rest with _ | ⟨c, rest⟩
    · rfl
    · rcases h with rfl | rfl | rfl <;> rfl
  simp only [readUnsigned, hdigits, Option.bind_eq_bind]
  split
  case h_1 h => simp at h
  case h_2 d ds h =>
    obtain ⟨c, cs, hcs, hc, hds⟩ := List.map_eq_cons_iff.1 h
    have hzero : c = '0' := by
      have hlow := (Char.isDigit_iff_toNat.1 (hdigit c (by simp [hcs]))).1
      exact Char.toNat_inj.1 (by omega)
    subst hzero
    rw [toDigits_eq_zero_cons hcs] at hds
    cases hds
  case h_3 =>
    simp only [hfraction, hexponent, habsorb, Option.bind_some]
    rfl

/-! ### Values -/

mutual

/-- A value that is printed as it is: its numbers are ones that the reader keeps. -/
def Writable : Json → Prop
  | natural n => n < 2 ^ 64
  | otherNumber => False
  | array items => AllWritable items
  | object members => MembersWritable members
  | _ => True

/-- Each item is printed as it is. -/
def AllWritable : List Json → Prop
  | [] => True
  | v :: vs => Writable v ∧ AllWritable vs

/-- The value of each member is printed as it is. -/
def MembersWritable : List (String × Json) → Prop
  | [] => True
  | (_, v) :: members => Writable v ∧ MembersWritable members

end

mutual

/-- How many arrays and objects stand inside one another. -/
def depth : Json → Nat
  | array items => itemsDepth items + 1
  | object members => membersDepth members + 1
  | _ => 0

/-- The depth of the deepest item. -/
def itemsDepth : List Json → Nat
  | [] => 0
  | v :: vs => max (depth v) (itemsDepth vs)

/-- The depth of the deepest member. -/
def membersDepth : List (String × Json) → Nat
  | [] => 0
  | (_, v) :: members => max (depth v) (membersDepth members)

end

lemma allWritable_iff {vs : List Json} : AllWritable vs ↔ ∀ v ∈ vs, v.Writable := by
  induction vs with
  | nil => simp [AllWritable]
  | cons v vs ih => rw [AllWritable, ih, List.forall_mem_cons]

lemma itemsDepth_cons_le (v : Json) (vs : List Json) (d : Nat) :
    itemsDepth (v :: vs) ≤ d ↔ depth v ≤ d ∧ itemsDepth vs ≤ d := by
  rw [itemsDepth, Nat.max_le]

lemma membersDepth_cons_le (m : String × Json) (ms : List (String × Json)) (d : Nat) :
    membersDepth (m :: ms) ≤ d ↔ depth m.2 ≤ d ∧ membersDepth ms ≤ d := by
  rw [membersDepth, Nat.max_le]

lemma skipSpace_cons {c : Char} (h : isSpace c = false) (cs : List Char) :
    skipSpace (c :: cs) = c :: cs := by
  simp [skipSpace, h]

lemma isSpace_of_isDigit {c : Char} (h : c.isDigit = true) : isSpace c = false := by
  by_contra hc
  rw [Bool.not_eq_false, isSpace] at hc
  simp only [Bool.or_eq_true, decide_eq_true_eq] at hc
  rcases hc with ((rfl | rfl) | rfl) | rfl <;> cases h

/-- A printed value begins with a character that is no blank space and ends nothing. -/
lemma chars_eq_cons (v : Json) : ∃ c cs, chars v = c :: cs ∧ isSpace c = false ∧ c ≠ ']' := by
  cases v with
  | natural n =>
    obtain ⟨c, cs, hds, hc⟩ := toDigits_eq_cons n
    refine ⟨c, cs, by rw [chars, hds], isSpace_of_isDigit hc, ?_⟩
    rintro rfl
    cases hc
  | bool b => cases b <;> simp [chars, isSpace]
  | _ => simp [chars, stringChars, isSpace]

section Read

variable {fuel d : Nat} {cs rest : List Char}

lemma readValue_digits {c : Char} (h : c.isDigit = true) :
    readValue (fuel + 1) d (c :: cs) = readUnsigned false (c :: cs) := by
  rw [readValue, skipSpace_cons (isSpace_of_isDigit h)]
  split
  case h_8 => rfl
  all_goals
    rename_i hcs
    obtain ⟨rfl, -⟩ := List.cons.inj hcs
    cases h

/-- An array with items in it. -/
lemma readValue_array {c : Char} (hspace : isSpace c = false) (hc : c ≠ ']') :
    readValue (fuel + 1) (d + 1) ('[' :: c :: cs) =
      (readItems fuel d (c :: cs)).map fun (items, rest) => (.array items, rest) := by
  rw [readValue, skipSpace_cons (by decide)]
  simp only [skipSpace_cons hspace]
  split
  case h_1 h => cases h
  case h_2 h => exact absurd (List.cons.inj h).1 hc
  case h_3 h _ =>
    cases h
    rfl

/-- An object with members in it. -/
lemma readValue_object :
    readValue (fuel + 1) (d + 1) ('{' :: '"' :: cs) =
      (readMembers fuel d ('"' :: cs)).map fun (members, rest) => (.object members, rest) := by
  rw [readValue, skipSpace_cons (by decide)]
  simp [skipSpace_cons (show isSpace '"' = false by decide)]

lemma readValue_zero : readValue (fuel + 1) 0 ('[' :: cs) = none ∧
    readValue (fuel + 1) 0 ('{' :: cs) = none := by
  simp [readValue, skipSpace, isSpace]

/-- The last item of an array. -/
lemma readItems_last {v : Json} (h : readValue fuel d cs = some (v, ']' :: rest)) :
    readItems (fuel + 1) d cs = some ([v], rest) := by
  simp [readItems, h, skipSpace, isSpace]

/-- An item of an array with others behind it. -/
lemma readItems_cons {v : Json} (h : readValue fuel d cs = some (v, ',' :: rest)) :
    readItems (fuel + 1) d cs =
      (readItems fuel d rest).map fun (items, rest) => (v :: items, rest) := by
  simp only [readItems, h, Option.bind_eq_bind, Option.bind_some,
    skipSpace_cons (show isSpace ',' = false by decide)]
  rcases readItems fuel d rest with _ | _ <;> rfl

lemma readItems_none (h : readValue fuel d cs = none) : readItems (fuel + 1) d cs = none := by
  simp [readItems, h]

/-- The name of a member. -/
lemma readMembers_name (k : String) :
    readMembers (fuel + 1) d (stringChars k ++ ':' :: cs) =
      (readValue fuel d cs).bind fun (v, rest) =>
        match skipSpace rest with
        | ',' :: rest => (readMembers fuel d rest).map fun (ms, rest) => ((k, v) :: ms, rest)
        | '}' :: rest => some ([(k, v)], rest)
        | _ => none := by
  simp only [stringChars, List.cons_append, List.append_assoc, List.nil_append, readMembers,
    skipSpace_cons (show isSpace '"' = false by decide), readString_stringChars,
    Option.bind_eq_bind, Option.bind_some, skipSpace_cons (show isSpace ':' = false by decide),
    Option.map_eq_bind]
  rfl

/-- The last member of an object. -/
lemma readMembers_last {k : String} {v : Json} (h : readValue fuel d cs = some (v, '}' :: rest)) :
    readMembers (fuel + 1) d (stringChars k ++ ':' :: cs) = some ([(k, v)], rest) := by
  simp [readMembers_name, h, skipSpace, isSpace]

/-- A member of an object with others behind it. -/
lemma readMembers_cons {k : String} {v : Json} (h : readValue fuel d cs = some (v, ',' :: rest)) :
    readMembers (fuel + 1) d (stringChars k ++ ':' :: cs) =
      (readMembers fuel d rest).map fun (members, rest) => ((k, v) :: members, rest) := by
  simp only [readMembers_name, h, Option.bind_some,
    skipSpace_cons (show isSpace ',' = false by decide)]

lemma readMembers_none {k : String} (h : readValue fuel d cs = none) :
    readMembers (fuel + 1) d (stringChars k ++ ':' :: cs) = none := by
  simp [readMembers_name, h]

end Read

lemma itemChars_cons_cons (v w : Json) (vs : List Json) :
    itemChars (v :: w :: vs) = chars v ++ ',' :: itemChars (w :: vs) := by
  rw [itemChars]
  exact fun h => by cases h

lemma memberChars_cons_cons (k : String) (v : Json) (m : String × Json)
    (ms : List (String × Json)) :
    memberChars ((k, v) :: m :: ms) =
      stringChars k ++ ':' :: chars v ++ ',' :: memberChars (m :: ms) := by
  rw [memberChars]
  exact fun h => by cases h

lemma itemChars_eq_cons (v : Json) (vs : List Json) :
    ∃ c cs, itemChars (v :: vs) = c :: cs ∧ isSpace c = false ∧ c ≠ ']' := by
  obtain ⟨c, cs, hc, hspace, hne⟩ := chars_eq_cons v
  rcases vs with _ | ⟨w, vs⟩
  · exact ⟨c, cs, by rw [itemChars, hc], hspace, hne⟩
  · exact ⟨c, cs ++ ',' :: itemChars (w :: vs), by rw [itemChars_cons_cons, hc, List.cons_append],
      hspace, hne⟩

lemma memberChars_eq_cons (m : String × Json) (ms : List (String × Json)) :
    ∃ cs, memberChars (m :: ms) = '"' :: cs := by
  obtain ⟨k, v⟩ := m
  rcases ms with _ | ⟨m, ms⟩
  · exact ⟨_, by rw [memberChars, stringChars]; rfl⟩
  · exact ⟨_, by rw [memberChars_cons_cons, stringChars]; rfl⟩

/-- What is printed is read back with so much fuel, unless it is too deep. -/
structure ReadsBack (fuel : Nat) : Prop where
  value : ∀ {v d r}, Writable v → 2 * (chars v).length ≤ fuel → EndsValue r →
    readValue fuel d (chars v ++ r) = if depth v ≤ d then some (v, r) else none
  items : ∀ {v vs d r}, AllWritable (v :: vs) → 2 * (itemChars (v :: vs)).length + 1 ≤ fuel →
    readItems fuel d (itemChars (v :: vs) ++ ']' :: r) =
      if itemsDepth (v :: vs) ≤ d then some (v :: vs, r) else none
  members : ∀ {m ms d r}, MembersWritable (m :: ms) →
    2 * (memberChars (m :: ms)).length + 1 ≤ fuel →
    readMembers fuel d (memberChars (m :: ms) ++ '}' :: r) =
      if membersDepth (m :: ms) ≤ d then some (m :: ms, r) else none

section ReadsBack

variable {fuel : Nat} (ih : ReadsBack fuel)

include ih

lemma readValue_succ {v : Json} {d : Nat} {rest : List Char} (hv : v.Writable)
    (hfuel : 2 * (chars v).length ≤ fuel + 1) (hrest : EndsValue rest) :
    readValue (fuel + 1) d (chars v ++ rest) = if depth v ≤ d then some (v, rest) else none := by
  match v with
  | null => simp [chars, readValue, skipSpace, isSpace, depth]
  | bool true => simp [chars, readValue, skipSpace, isSpace, depth]
  | bool false => simp [chars, readValue, skipSpace, isSpace, depth]
  | natural n =>
    obtain ⟨c, cs, hds, hc⟩ := toDigits_eq_cons n
    rw [chars, hds, List.cons_append, readValue_digits hc, ← List.cons_append, ← hds,
      readUnsigned_toDigits hv hrest]
    simp [depth]
  | string s =>
    simp [chars, stringChars, readValue, skipSpace, isSpace, readString_stringChars, depth]
  | array [] =>
    cases d <;> simp [chars, itemChars, readValue, skipSpace, isSpace, depth, itemsDepth]
  | array (w :: ws) =>
    obtain ⟨c, cs, hc, hspace, hne⟩ := itemChars_eq_cons w ws
    have hread := ih.items (d := d - 1) (r := rest) hv (by simp [chars] at hfuel; omega)
    rcases d with _ | d
    · simp [chars, readValue_zero, depth]
    · simp only [chars, List.cons_append, List.append_assoc, List.nil_append, hc,
        readValue_array hspace hne, Nat.add_sub_cancel] at hread ⊢
      rw [hread]
      simp only [depth, Nat.add_le_add_iff_right]
      split <;> rfl
  | object [] =>
    cases d <;> simp [chars, memberChars, readValue, skipSpace, isSpace, depth, membersDepth]
  | object (m :: ms) =>
    obtain ⟨cs, hc⟩ := memberChars_eq_cons m ms
    have hread := ih.members (d := d - 1) (r := rest) hv (by simp [chars] at hfuel; omega)
    rcases d with _ | d
    · exact readValue_zero.2
    · have hbrace : chars (object (m :: ms)) ++ rest =
          '{' :: (memberChars (m :: ms) ++ '}' :: rest) := by simp [chars]
      rw [hbrace]
      simp only [List.cons_append, hc, readValue_object, Nat.add_sub_cancel] at hread ⊢
      rw [hread]
      simp only [depth, Nat.add_le_add_iff_right]
      split <;> rfl

lemma readItems_succ {v : Json} {vs : List Json} {d : Nat} {rest : List Char}
    (hv : AllWritable (v :: vs)) (hfuel : 2 * (itemChars (v :: vs)).length + 1 ≤ fuel + 1) :
    readItems (fuel + 1) d (itemChars (v :: vs) ++ ']' :: rest) =
      if itemsDepth (v :: vs) ≤ d then some (v :: vs, rest) else none := by
  rcases vs with _ | ⟨w, vs⟩
  · have hread := ih.value (v := v) (d := d) (r := ']' :: rest) hv.1
      (by simpa [itemChars] using hfuel) (.inr (.inl rfl))
    rw [itemChars]
    by_cases hd : depth v ≤ d
    · rw [if_pos hd] at hread
      simp [readItems_last hread, itemsDepth, hd]
    · rw [if_neg hd] at hread
      simp [readItems_none hread, itemsDepth, hd]
  · rw [itemChars_cons_cons] at hfuel ⊢
    simp only [List.length_append, List.length_cons] at hfuel
    have hread := ih.value (v := v) (d := d) (r := ',' :: (itemChars (w :: vs) ++ ']' :: rest))
      hv.1 (by omega) (.inl rfl)
    rw [List.append_assoc, List.cons_append]
    by_cases hd : depth v ≤ d
    · rw [if_pos hd] at hread
      rw [readItems_cons hread, ih.items hv.2 (by omega)]
      simp only [itemsDepth_cons_le v (w :: vs), hd, true_and]
      split <;> rfl
    · rw [if_neg hd] at hread
      simp [readItems_none hread, itemsDepth, hd]

lemma readMembers_succ {m : String × Json} {ms : List (String × Json)} {d : Nat}
    {rest : List Char} (hm : MembersWritable (m :: ms))
    (hfuel : 2 * (memberChars (m :: ms)).length + 1 ≤ fuel + 1) :
    readMembers (fuel + 1) d (memberChars (m :: ms) ++ '}' :: rest) =
      if membersDepth (m :: ms) ≤ d then some (m :: ms, rest) else none := by
  obtain ⟨k, v⟩ := m
  rcases ms with _ | ⟨m, ms⟩
  · simp only [memberChars, List.length_append, List.length_cons] at hfuel
    have hread := ih.value (v := v) (d := d) (r := '}' :: rest) hm.1 (by omega)
      (.inr (.inr rfl))
    rw [memberChars, List.append_assoc, List.cons_append]
    by_cases hd : depth v ≤ d
    · rw [if_pos hd] at hread
      simp [readMembers_last hread, membersDepth, hd]
    · rw [if_neg hd] at hread
      simp [readMembers_none hread, membersDepth, hd]
  · rw [memberChars_cons_cons] at hfuel ⊢
    simp only [List.length_append, List.length_cons] at hfuel
    have hread := ih.value (v := v) (d := d)
      (r := ',' :: (memberChars (m :: ms) ++ '}' :: rest)) hm.1 (by omega) (.inl rfl)
    simp only [List.append_assoc, List.cons_append]
    by_cases hd : depth v ≤ d
    · rw [if_pos hd] at hread
      rw [readMembers_cons hread, ih.members hm.2 (by omega)]
      simp only [membersDepth_cons_le (k, v) (m :: ms), hd, true_and]
      split <;> rfl
    · rw [if_neg hd] at hread
      simp [readMembers_none hread, membersDepth, hd]

end ReadsBack

/-- What is printed is read back with any fuel that is enough for its length. -/
theorem readsBack (fuel : Nat) : ReadsBack fuel := by
  -- Each of the three readers calls the others with one unit less.
  induction fuel with
  | zero =>
    refine ⟨fun {v} _ _ _ h => ?_, fun _ h => absurd h (by omega), fun _ h => absurd h (by omega)⟩
    obtain ⟨c, cs, hc, -⟩ := chars_eq_cons v
    simp [hc] at h
  | succ fuel ih => exact ⟨readValue_succ ih, readItems_succ ih, readMembers_succ ih⟩

/-- **What is printed is read back**, unless more arrays and objects stand inside one another than
the reader opens at once. -/
theorem parse?_chars {v : Json} (hv : v.Writable) :
    parse? (chars v) = if depth v ≤ maxDepth then some v else none := by
  have hread := (readsBack (2 * (chars v).length + 2)).value (d := maxDepth) (r := []) hv
    (by omega) trivial
  rw [List.append_nil] at hread
  simp only [parse?, hread]
  split <;> rfl

/-! ### Control characters -/

lemma digitChar_ge : ∀ n < 16, 0x20 ≤ (Nat.digitChar n).toNat := by decide

lemma escapedChar_ge (c : Char) : ∀ d ∈ escapedChar c, 0x20 ≤ d.toNat := by
  unfold escapedChar
  split_ifs with hquote hslash hn hr ht hb hf hctl
  case neg => simpa using hctl
  any_goals (simp; done)
  have hdiv := digitChar_ge (c.toNat / 16) (by omega)
  have hmod := digitChar_ge (c.toNat % 16) (by omega)
  simp [hdiv, hmod]

lemma stringChars_ge (s : String) : ∀ c ∈ stringChars s, 0x20 ≤ c.toNat := by
  rw [stringChars, List.cons_append, List.forall_mem_cons, List.forall_mem_append]
  refine ⟨by decide, fun c hc => ?_, by simp⟩
  obtain ⟨d, -, hd⟩ := List.mem_flatMap.1 hc
  exact escapedChar_ge d c hd

mutual

/-- **No character of a printed value is a control character.** -/
theorem chars_ge : ∀ v : Json, ∀ c ∈ chars v, 0x20 ≤ c.toNat
  | null => by simp [chars]
  | bool true => by simp [chars]
  | bool false => by simp [chars]
  | natural n => by
    intro c hc
    rw [chars] at hc
    have hlow := Char.isDigit_iff_toNat.1 (Nat.isDigit_of_mem_toDigits (by decide) (by decide) hc)
    have hzero : '0'.toNat = 0x30 := rfl
    omega
  | otherNumber => by simp [chars]
  | string s => by
    rw [chars]
    exact stringChars_ge s
  | array items => by
    rw [chars, List.cons_append, List.forall_mem_cons, List.forall_mem_append]
    exact ⟨by decide, itemChars_ge items, by simp⟩
  | object members => by
    rw [chars, List.cons_append, List.forall_mem_cons, List.forall_mem_append]
    exact ⟨by decide, memberChars_ge members, by simp⟩

/-- No character of printed items is a control character. -/
theorem itemChars_ge : ∀ vs : List Json, ∀ c ∈ itemChars vs, 0x20 ≤ c.toNat
  | [] => by simp [itemChars]
  | [v] => by
    rw [itemChars]
    exact chars_ge v
  | v :: w :: vs => by
    rw [itemChars_cons_cons, List.forall_mem_append, List.forall_mem_cons]
    exact ⟨chars_ge v, by decide, itemChars_ge (w :: vs)⟩

/-- No character of printed members is a control character. -/
theorem memberChars_ge : ∀ ms : List (String × Json), ∀ c ∈ memberChars ms, 0x20 ≤ c.toNat
  | [] => by simp [memberChars]
  | [(k, v)] => by
    rw [memberChars, List.forall_mem_append, List.forall_mem_cons]
    exact ⟨stringChars_ge k, by decide, chars_ge v⟩
  | (k, v) :: m :: ms => by
    rw [memberChars_cons_cons, List.forall_mem_append, List.forall_mem_append,
      List.forall_mem_cons, List.forall_mem_cons]
    exact ⟨⟨stringChars_ge k, by decide, chars_ge v⟩, by decide, memberChars_ge (m :: ms)⟩

end

end BuildRunner.Json
