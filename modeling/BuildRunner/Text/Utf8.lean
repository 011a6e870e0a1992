/-!
UTF-8. Reading goes byte by byte and keeps what is still missing of the current character, so
that a byte that cannot continue it closes a broken piece and is looked at afresh: every longest
start of a character that is not completed counts as one broken piece. The strict reading refuses
broken pieces, the lossy one puts the replacement character in their place.
-/

namespace BuildRunner.Text.Utf8

/-- What is missing of a character: the bytes wanted, the bounds of the next one, and the value of
the bits read so far. -/
structure Partial where
  wanted : Nat
  low : Nat
  high : Nat
  value : Nat

/-- What a byte at the start of a character means. -/
inductive Start where
  | complete (c : Char)
  | more (p : Partial)
  | broken

/-- The meaning of a first byte. The bounds of the second byte leave out spellings that are too
long, surrogates, and values above the last code point. -/
def start (b : Nat) : Start :=
  if b < 0x80 then .complete (Char.ofNat b)
  else if 0xC2 ≤ b ∧ b ≤ 0xDF then .more ⟨1, 0x80, 0xBF, b - 0xC0⟩
  else if b = 0xE0 then .more ⟨2, 0xA0, 0xBF, 0⟩
  else if b = 0xED then .more ⟨2, 0x80, 0x9F, 0xD⟩
  else if 0xE1 ≤ b ∧ b ≤ 0xEF then .more ⟨2, 0x80, 0xBF, b - 0xE0⟩
  else if b = 0xF0 then .more ⟨3, 0x90, 0xBF, 0⟩
  else if 0xF1 ≤ b ∧ b ≤ 0xF3 then .more ⟨3, 0x80, 0xBF, b - 0xF0⟩
  else if b = 0xF4 then .more ⟨3, 0x80, 0x8F, 4⟩
  else .broken

/-- The characters of a byte string, `none` for a broken piece. -/
def scan : Option Partial → List UInt8 → List (Option Char)
  | none, [] => []
  | some _, [] => [none]
  | none, b :: bs =>
    match start b.toNat with
    | .complete c => some c :: scan none bs
    | .more p => scan (some p) bs
    | .broken => none :: scan none bs
  | some p, b :: bs =>
    if p.low ≤ b.toNat ∧ b.toNat ≤ p.high then
      let value := p.value * 64 + (b.toNat - 0x80)
      if p.wanted ≤ 1 then some (Char.ofNat value) :: scan none bs
      else scan (some ⟨p.wanted - 1, 0x80, 0xBF, value⟩) bs
    else
      none :: match start b.toNat with
        | .complete c => some c :: scan none bs
        | .more q => scan (some q) bs
        | .broken => none :: scan none bs

/-- The character that stands for a broken piece. -/
def replacement : Char := Char.ofNat 0xFFFD

/-- The characters of a byte string, broken pieces replaced. -/
def decodeLossy (bytes : List UInt8) : List Char :=
  (scan none bytes).map (·.getD replacement)

/-- The characters of a byte string without broken pieces. -/
def decode? (bytes : List UInt8) : Option (List Char) := (scan none bytes).mapM id

/-- The bytes of a list of characters. -/
def encode (cs : List Char) : List UInt8 := cs.flatMap String.utf8EncodeChar

end BuildRunner.Text.Utf8
