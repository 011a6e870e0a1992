import BuildRunner.Text.Split

/-!
The lines of a text: pieces ended by a newline, each without the one carriage return before its
newline; a last piece with no newline is a line as it stands, unless it is empty.
-/

namespace BuildRunner.Text

/-- The lines of the pieces between newlines, of which the last had no newline behind it. -/
def linesOfPieces : List (List Char) → List (List Char)
  | [] => []
  | [[]] => []
  | [tail] => [tail]
  | piece :: pieces => dropLastIf '\r' piece :: linesOfPieces pieces

/-- The lines of a text. -/
def lines (s : String) : List String :=
  (linesOfPieces (splitAt '\n' s.toList)).map String.ofList

/-- The first line of a text, empty when there is none. -/
def firstLine (s : String) : String := (lines s).headD ""

end BuildRunner.Text
