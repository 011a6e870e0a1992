import BuildRunner.Text.CaseTable

/-!
The lower case of a text. A character has one lower-case form whatever stands around it, but for
the Greek capital sigma, whose form at the end of a word differs from that inside one.
-/

namespace BuildRunner.Text

open CaseTable

/-- Whether a code point lies in one of the ranges. -/
def inRanges (ranges : Array (Nat × Nat)) (n : Nat) : Bool :=
  ranges.any fun r => r.1 ≤ n && n ≤ r.2

/-- A letter with case. -/
def isCased (c : Char) : Bool := inRanges cased c.toNat

/-- A character that the search for a neighbouring letter skips. -/
def isCaseIgnorable (c : Char) : Bool := inRanges caseIgnorable c.toNat

/-- The lower-case form of a character, away from the ends of words. -/
def lowerChar (c : Char) : List Char :=
  let n := c.toNat
  if n < 0x80 then [c.toLower]
  else if n = 0x130 then ['i', Char.ofNat 0x307]
  else match shifts.find? fun s => s.first ≤ n && n ≤ s.last && (n - s.first) % s.step == 0 with
    | some s => [Char.ofNat (n + s.delta).toNat]
    | none => [c]

/-- Whether the first character that is not skipped is a letter with case. -/
def letterAhead (cs : List Char) : Bool :=
  match cs.dropWhile isCaseIgnorable with
  | [] => false
  | c :: _ => isCased c

/-- The lower case of the rest of a text, given the characters before it in reverse. -/
def lowerAfter (before : List Char) : List Char → List Char
  | [] => []
  | c :: cs =>
    let form :=
      if c = 'Σ' then
        if letterAhead before && !letterAhead cs then ['ς'] else ['σ']
      else lowerChar c
    form ++ lowerAfter (c :: before) cs

/-- The lower case of a text. -/
def lowerCase (s : String) : String := String.ofList (lowerAfter [] s.toList)

end BuildRunner.Text
