import BuildRunner.Json.Reader

/-!
The tokens of TOML text that stand for strings and keys: basic strings with escapes, literal ones
without, either on one line or, between three quotes, on several.
-/

namespace BuildRunner.Toml

/-- The blank space within a line. -/
def isSpace (c : Char) : Bool := c = ' ' || c = '\t'

/-- The text from the first character that is not blank space within a line. -/
def skipSpace (cs : List Char) : List Char := cs.dropWhile isSpace

/-- A character that may not stand in a text: a control character other than the tab. -/
def isControl (c : Char) : Bool := (c.toNat < 0x20 && c ≠ '\t') || c.toNat = 0x7F

/-- Blank space, newlines and comments skipped; `none` where one of them is broken. -/
def skipTrivia : (inComment : Bool) → List Char → Option (List Char)
  | _, [] => some []
  | _, '\n' :: cs => skipTrivia false cs
  | _, '\r' :: '\n' :: cs => skipTrivia false cs
  | true, c :: cs => if isControl c then none else skipTrivia true cs
  | false, c :: cs =>
    if isSpace c then skipTrivia false cs
    else if c = '#' then skipTrivia true cs
    else some (c :: cs)

/-- The rest of a line that holds nothing but blank space and a comment: the text behind it. -/
def endOfLine : (inComment : Bool) → List Char → Option (List Char)
  | _, [] => some []
  | _, '\n' :: cs => some cs
  | _, '\r' :: '\n' :: cs => some cs
  | true, c :: cs => if isControl c then none else endOfLine true cs
  | false, c :: cs =>
    if isSpace c then endOfLine false cs
    else if c = '#' then endOfLine true cs
    else none

/-- The character behind a backslash of one letter. -/
def escape? (c : Char) : Option Char :=
  if c = 'b' then some (Char.ofNat 8)
  else if c = 't' then some '\t'
  else if c = 'n' then some '\n'
  else if c = 'f' then some (Char.ofNat 12)
  else if c = 'r' then some '\r'
  else if c = 'e' then some (Char.ofNat 27)
  else if c = '"' ∨ c = '\\' then some c
  else none

/-- The character with a number, unless that is a surrogate or too large. -/
def scalar? (n : Nat) : Option Char := if n.isValidChar then some (Char.ofNat n) else none

/-- The number that hexadecimal digits spell. -/
def hex? (cs : List Char) : Option Nat :=
  cs.foldlM (fun n c => (Json.hexValue? c).map (n * 16 + ·)) 0

/-- One character put in front of a text that was read. -/
def push (c : Option Char) (r : Option (List Char × List Char)) :
    Option (List Char × List Char) := do
  let c ← c
  let (cs, rest) ← r
  return (c :: cs, rest)

/-- A basic string from behind its opening quote. -/
def basic : List Char → Option (List Char × List Char)
  | [] => none
  | '"' :: rest => some ([], rest)
  | '\\' :: 'x' :: a :: b :: rest => push ((hex? [a, b]).bind scalar?) (basic rest)
  | '\\' :: 'u' :: a :: b :: c :: d :: rest =>
    push ((hex? [a, b, c, d]).bind scalar?) (basic rest)
  | '\\' :: 'U' :: a :: b :: c :: d :: e :: f :: g :: h :: rest =>
    push ((hex? [a, b, c, d, e, f, g, h]).bind scalar?) (basic rest)
  | '\\' :: c :: rest => push (escape? c) (basic rest)
  | c :: rest => if isControl c ∨ c = '\\' then none else push (some c) (basic rest)

/-- A literal string from behind its opening quote. -/
def literal : List Char → Option (List Char × List Char)
  | [] => none
  | '\'' :: rest => some ([], rest)
  | c :: rest => if isControl c then none else push (some c) (literal rest)

/-- What the reading of a string on several lines is at. -/
inductive Joining where
  /-- Within a line. -/
  | no
  /-- Behind a backslash that ends its line. -/
  | lineEnd
  /-- In the blank space that such a backslash takes away. -/
  | blank
  deriving DecidableEq

/-- Whether nothing but blank space stands before the end of the line. -/
def blankToLineEnd : List Char → Bool
  | '\n' :: _ => true
  | '\r' :: '\n' :: _ => true
  | c :: cs => isSpace c && blankToLineEnd cs
  | [] => false

/-- A basic string on several lines. A backslash at the end of a line takes away the blank space up
to the next other character. -/
def basicLines : Joining → List Char → Option (List Char × List Char)
  | _, [] => none
  | .lineEnd, '\n' :: rest => basicLines .blank rest
  | .lineEnd, _ :: rest => basicLines .lineEnd rest
  | .blank, ' ' :: rest => basicLines .blank rest
  | .blank, '\t' :: rest => basicLines .blank rest
  | .blank, '\n' :: rest => basicLines .blank rest
  | .blank, '\r' :: '\n' :: rest => basicLines .blank rest
  | _, '"' :: '"' :: '"' :: '"' :: '"' :: rest => some (['"', '"'], rest)
  | _, '"' :: '"' :: '"' :: '"' :: rest => some (['"'], rest)
  | _, '"' :: '"' :: '"' :: rest => some ([], rest)
  | _, '\r' :: '\n' :: rest => push (some '\r') (push (some '\n') (basicLines .no rest))
  | _, '\\' :: 'x' :: a :: b :: rest => push ((hex? [a, b]).bind scalar?) (basicLines .no rest)
  | _, '\\' :: 'u' :: a :: b :: c :: d :: rest =>
    push ((hex? [a, b, c, d]).bind scalar?) (basicLines .no rest)
  | _, '\\' :: 'U' :: a :: b :: c :: d :: e :: f :: g :: h :: rest =>
    push ((hex? [a, b, c, d, e, f, g, h]).bind scalar?) (basicLines .no rest)
  | _, '\\' :: c :: rest =>
    if blankToLineEnd (c :: rest) then
      if c = '\n' then basicLines .blank rest else basicLines .lineEnd rest
    else push (escape? c) (basicLines .no rest)
  | _, c :: rest =>
    if (isControl c ∧ c ≠ '\n') ∨ c = '\\' then none
    else push (some c) (basicLines .no rest)

/-- A literal string on several lines. -/
def literalLines : List Char → Option (List Char × List Char)
  | [] => none
  | '\'' :: '\'' :: '\'' :: '\'' :: '\'' :: rest => some (['\'', '\''], rest)
  | '\'' :: '\'' :: '\'' :: '\'' :: rest => some (['\''], rest)
  | '\'' :: '\'' :: '\'' :: rest => some ([], rest)
  | '\r' :: '\n' :: rest => push (some '\r') (push (some '\n') (literalLines rest))
  | c :: rest =>
    if isControl c ∧ c ≠ '\n' then none else push (some c) (literalLines rest)

/-- The text without the newline that may follow three opening quotes. -/
def dropNewline : List Char → List Char
  | '\n' :: cs => cs
  | '\r' :: '\n' :: cs => cs
  | cs => cs

/-- A string of any kind, when one stands at the front. -/
def readString : List Char → Option (Option (String × List Char))
  | '"' :: '"' :: '"' :: rest =>
    some ((basicLines .no (dropNewline rest)).map fun (cs, rest) => (String.ofList cs, rest))
  | '"' :: rest => some ((basic rest).map fun (cs, rest) => (String.ofList cs, rest))
  | '\'' :: '\'' :: '\'' :: rest =>
    some ((literalLines (dropNewline rest)).map fun (cs, rest) => (String.ofList cs, rest))
  | '\'' :: rest => some ((literal rest).map fun (cs, rest) => (String.ofList cs, rest))
  | _ => none

/-- A character of a bare key. -/
def isKeyChar (c : Char) : Bool := c.isAlphanum || c = '_' || c = '-'

/-- One key: bare, or a string on one line. -/
def readKey : List Char → Option (String × List Char)
  | '"' :: rest => (basic rest).map fun (cs, rest) => (String.ofList cs, rest)
  | '\'' :: rest => (literal rest).map fun (cs, rest) => (String.ofList cs, rest)
  | cs =>
    match cs.takeWhile isKeyChar with
    | [] => none
    | key => some (String.ofList key, cs.dropWhile isKeyChar)

/-- Keys with dots between them, and the text behind them and the blank space that follows. The
fuel bounds their number. -/
def readKeys : (fuel : Nat) → List Char → Option (List String × List Char)
  | 0, _ => none
  | fuel + 1, cs => do
    let (key, rest) ← readKey (skipSpace cs)
    match skipSpace rest with
    | '.' :: rest =>
      let (keys, rest) ← readKeys fuel rest
      return (key :: keys, rest)
    | rest => return ([key], rest)

end BuildRunner.Toml
