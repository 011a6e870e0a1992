import BuildRunner.Json.Value
import BuildRunner.Text.Quoted

/-!
JSON values as text, without blank space. In a string the quote, the backslash and the characters
below the space are escaped; all others stand as they are.
-/

namespace BuildRunner.Json

/-- One character as it stands in a string. -/
def escapedChar (c : Char) : List Char :=
  if c = '"' then ['\\', '"']
  else if c = '\\' then ['\\', '\\']
  else if c = '\n' then ['\\', 'n']
  else if c = '\r' then ['\\', 'r']
  else if c = '\t' then ['\\', 't']
  else if c.toNat = 8 then ['\\', 'b']
  else if c.toNat = 12 then ['\\', 'f']
  else if c.toNat < 0x20 then
    ['\\', 'u', '0', '0', Nat.digitChar (c.toNat / 16), Nat.digitChar (c.toNat % 16)]
  else [c]

/-- A string between its quotes. -/
def stringChars (s : String) : List Char := '"' :: s.toList.flatMap escapedChar ++ ['"']

mutual

/-- The characters of a value. A number that was not kept prints as zero with a fraction. -/
def chars : Json → List Char
  | null => ['n', 'u', 'l', 'l']
  | bool true => ['t', 'r', 'u', 'e']
  | bool false => ['f', 'a', 'l', 's', 'e']
  | natural n => Nat.toDigits 10 n
  | otherNumber => ['0', '.', '0']
  | string s => stringChars s
  | array items => '[' :: itemChars items ++ [']']
  | object members => Char.ofNat 0x7B :: memberChars members ++ [Char.ofNat 0x7D]

/-- The items of an array, with commas between them. -/
def itemChars : List Json → List Char
  | [] => []
  | [v] => chars v
  | v :: rest => chars v ++ ',' :: itemChars rest

/-- The members of an object, with commas between them. -/
def memberChars : List (String × Json) → List Char
  | [] => []
  | [(k, v)] => stringChars k ++ ':' :: chars v
  | (k, v) :: rest => stringChars k ++ ':' :: chars v ++ ',' :: memberChars rest

end

/-- A value as text. -/
def render (v : Json) : String := String.ofList (chars v)

end BuildRunner.Json
