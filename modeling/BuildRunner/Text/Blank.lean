/-!
Blank space as the `White_Space` property of Unicode has it, and a text without the blank space
at its ends.
-/

namespace BuildRunner.Text

/-- Whether a character is blank space. -/
def isBlank (c : Char) : Bool :=
  let n := c.toNat
  (0x09 ≤ n && n ≤ 0x0D) || n == 0x20 || n == 0x85 || n == 0xA0 || n == 0x1680 ||
  (0x2000 ≤ n && n ≤ 0x200A) || n == 0x2028 || n == 0x2029 || n == 0x202F || n == 0x205F ||
  n == 0x3000

/-- The characters from the first one that is not blank. -/
def trimStart (cs : List Char) : List Char := cs.dropWhile isBlank

/-- The characters up to the last one that is not blank. -/
def trimEnd (cs : List Char) : List Char := (cs.reverse.dropWhile isBlank).reverse

/-- The characters between the blank space at both ends. -/
def trimChars (cs : List Char) : List Char := trimEnd (trimStart cs)

/-- A text without the blank space at its ends. -/
def trim (s : String) : String := String.ofList (trimChars s.toList)

/-- Whether a text is empty or nothing but blank space. -/
def isBlankText (s : String) : Bool := s.toList.all isBlank

end BuildRunner.Text
