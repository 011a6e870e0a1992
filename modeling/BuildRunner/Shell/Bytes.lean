import BuildRunner.Text.Utf8

/-!
Text as a script sees it: a string with one character below 256 for every byte. So a script can
hold any bytes, and counts and cuts bytes.
-/

namespace BuildRunner.Shell

/-- Bytes as text. -/
def ofBytes (bytes : List UInt8) : String :=
  String.ofList (bytes.map fun b => Char.ofNat b.toNat)

/-- The bytes of such a text. -/
def toBytes (s : String) : List UInt8 := s.toList.map fun c => UInt8.ofNat c.toNat

/-- Ordinary text byte by byte. -/
def ofText (s : String) : String := ofBytes (Text.Utf8.encode s.toList)

/-- Ordinary text from bytes, broken pieces replaced. -/
def toText (s : String) : String := String.ofList (Text.Utf8.decodeLossy (toBytes s))

/-- A number that a text spells in decimal digits. -/
def natural? (cs : List Char) : Option Nat :=
  if cs.isEmpty || !cs.all Char.isDigit then none
  else some (cs.foldl (fun n c => n * 10 + (c.toNat - '0'.toNat)) 0)

/-- A number that a text spells in decimal digits, perhaps behind a sign. -/
def integer? (cs : List Char) : Option Int :=
  match cs with
  | '-' :: rest => (natural? rest).map fun n => -(n : Int)
  | '+' :: rest => (natural? rest).map fun n => (n : Int)
  | cs => (natural? cs).map fun n => (n : Int)

/-- Whether a character can stand at the front of a name. -/
def isNameStart (c : Char) : Bool := c = '_' || c.isAlpha

/-- Whether a character can stand in a name. -/
def isNameRest (c : Char) : Bool := isNameStart c || c.isDigit

/-- Whether a text is a name. -/
def isName : List Char → Bool
  | [] => false
  | c :: cs => isNameStart c && cs.all isNameRest

/-- The lines of a text, and what is left behind the last newline. -/
def linesAndRest (cs : List Char) : List (List Char) × List Char :=
  cs.foldr (fun c (ls, rest) =>
    if c = '\n' then ([] :: ls, rest)
    else match ls with
      | l :: ls => ((c :: l) :: ls, rest)
      | [] => ([], c :: rest)) ([], [])

/-- A text cut behind its newlines. -/
def inLines (text : String) : List String :=
  let (lines, rest) := linesAndRest text.toList
  lines.map (fun l => String.ofList (l ++ ['\n'])) ++
    if rest.isEmpty then [] else [String.ofList rest]

end BuildRunner.Shell
