import BuildRunner.Text.LowerCase
import BuildRunner.Text.PrintTable

/-!
Texts written for inspection: between double quotes, with a backslash before what would end the
text early and an escape for every character that would not show.
-/

namespace BuildRunner.Text

open PrintTable

/-- The digits of a number to the base sixteen, in small letters. -/
def hexDigits (n : Nat) : List Char := Nat.toDigits 16 n

/-- Whether a character shows, and on its own. -/
def isVisible (c : Char) : Bool :=
  let n := c.toNat
  0x20 ≤ n && (n < 0x7F || (!inRanges invisible n && !inRanges joining n))

/-- One character as it stands between the quotes. -/
def quotedChar (c : Char) : List Char :=
  if c = '"' then ['\\', '"']
  else if c = '\\' then ['\\', '\\']
  else if c = '\n' then ['\\', 'n']
  else if c = '\r' then ['\\', 'r']
  else if c = '\t' then ['\\', 't']
  else if c.toNat = 0 then ['\\', '0']
  else if isVisible c then [c]
  else ['\\', 'u', Char.ofNat 0x7B] ++ hexDigits c.toNat ++ [Char.ofNat 0x7D]

/-- A text between quotes. -/
def quoted (s : String) : String :=
  String.ofList ('"' :: s.toList.flatMap quotedChar ++ ['"'])

/-- A list of texts, each between quotes. -/
def quotedList (items : List String) : String :=
  "[" ++ ", ".intercalate (items.map quoted) ++ "]"

end BuildRunner.Text
