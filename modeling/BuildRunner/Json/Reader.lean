import BuildRunner.Json.Value
import BuildRunner.Number.Binary64

/-!
Text read as a JSON value, strictly: one value with nothing but blank space around it, no number
too large for a binary floating-point number, no unpaired surrogate escape and no bare control
character in a string, and at most 127 arrays and objects inside one another.
-/

namespace BuildRunner.Json

/-! ### Strings -/

/-- Blank space between the tokens of a text. -/
def isSpace (c : Char) : Bool := c = ' ' || c = '\n' || c = '\t' || c = '\r'

/-- The text from its first character that is not blank space. -/
def skipSpace (cs : List Char) : List Char := cs.dropWhile isSpace

/-- The value of a hexadecimal digit. -/
def hexValue? (c : Char) : Option Nat :=
  let n := c.toNat
  if 0x30 ≤ n ∧ n ≤ 0x39 then some (n - 0x30)
  else if 0x41 ≤ n ∧ n ≤ 0x46 then some (n - 0x37)
  else if 0x61 ≤ n ∧ n ≤ 0x66 then some (n - 0x57)
  else none

/-- The value of four hexadecimal digits. -/
def hexQuad? (a b c d : Char) : Option Nat := do
  return ((← hexValue? a) * 16 + (← hexValue? b)) * 256 + (← hexValue? c) * 16 + (← hexValue? d)

/-- What one position of a string stands for: a character, or a UTF-16 unit from an escape. -/
inductive Piece where
  | char (c : Char)
  | unit (n : Nat)

/-- The character of a one-letter escape. -/
def escape? (c : Char) : Option Char :=
  if c = '"' ∨ c = '\\' ∨ c = '/' then some c
  else if c = 'n' then some '\n'
  else if c = 'r' then some '\r'
  else if c = 't' then some '\t'
  else if c = 'b' then some (Char.ofNat 8)
  else if c = 'f' then some (Char.ofNat 12)
  else none

/-- The pieces of a string up to its closing quote, and the text behind that. -/
def pieces : List Char → Option (List Piece × List Char)
  | [] => none
  | '"' :: rest => some ([], rest)
  | '\\' :: 'u' :: a :: b :: c :: d :: rest => do
    let n ← hexQuad? a b c d
    let (ps, rest) ← pieces rest
    return (.unit n :: ps, rest)
  | '\\' :: e :: rest => do
    let c ← escape? e
    let (ps, rest) ← pieces rest
    return (.char c :: ps, rest)
  | c :: rest =>
    if c.toNat < 0x20 ∨ c = '\\' then none
    else do
      let (ps, rest) ← pieces rest
      return (.char c :: ps, rest)

/-- The first unit of a surrogate pair. -/
def isLead (n : Nat) : Bool := 0xD800 ≤ n && n ≤ 0xDBFF

/-- The second unit of a surrogate pair. -/
def isTrail (n : Nat) : Bool := 0xDC00 ≤ n && n ≤ 0xDFFF

/-- The characters of the pieces, each surrogate paired with its partner. -/
def join? : List Piece → Option (List Char)
  | [] => some []
  | .char c :: rest => (join? rest).map (c :: ·)
  | .unit n :: rest =>
    if isTrail n then none
    else if isLead n then
      match rest with
      | .unit m :: rest =>
        if isTrail m then
          (join? rest).map (Char.ofNat (0x10000 + (n - 0xD800) * 0x400 + (m - 0xDC00)) :: ·)
        else none
      | _ => none
    else (join? rest).map (Char.ofNat n :: ·)

/-- A string from behind its opening quote, and the text behind its closing one. -/
def readString (cs : List Char) : Option (String × List Char) := do
  let (ps, rest) ← pieces cs
  return (String.ofList (← join? ps), rest)

/-! ### Numbers -/

/-- The digits at the front of a text. -/
def digits (cs : List Char) : List Nat × List Char :=
  ((cs.takeWhile Char.isDigit).map fun c => c.toNat - '0'.toNat, cs.dropWhile Char.isDigit)

/-- The number a list of decimal digits spells. -/
def ofDigits (ds : List Nat) : Nat := ds.foldl (fun n d => n * 10 + d) 0

/-- The digits a significand can take up without reaching `2 ^ 64`, and how many are left over. -/
def absorb (significand : Nat) : List Nat → Nat × Nat
  | [] => (significand, 0)
  | d :: ds =>
    let next := significand * 10 + d
    if next < Nat.pow 2 64 then absorb next ds else (significand, ds.length + 1)

/-- Whether a significand times a power of ten is too large for a binary number. -/
def overflows (significand : Nat) (exponent : Int) : Bool :=
  if significand = 0 ∨ exponent < 0 then false
  else if 308 < exponent then true
  else Number.Binary64.mulOverflows (.ofNat significand) (.ofNat (Nat.pow 10 exponent.toNat))

/-- The exponent written behind a number: zero when there is none, `none` when it is broken. -/
def readExponent : List Char → Option (Bool × Int × List Char)
  | e :: rest =>
    if e = 'e' ∨ e = 'E' then
      let (sign, rest) : Int × List Char := match rest with
        | '+' :: rest => (1, rest)
        | '-' :: rest => (-1, rest)
        | rest => (1, rest)
      match digits rest with
      | ([], _) => none
      | (ds, rest) => some (true, sign * ofDigits ds, rest)
    else some (false, 0, e :: rest)
  | [] => some (false, 0, [])

/-- The fraction written behind a number: no digits when there is none, `none` when it is
broken. -/
def readFraction : List Char → Option (List Nat × List Char)
  | '.' :: rest =>
    match digits rest with
    | ([], _) => none
    | (ds, rest) => some (ds, rest)
  | rest => some ([], rest)

/-- A number, from its first digit on; `negative` says that a minus sign stood before it. -/
def readUnsigned (negative : Bool) (cs : List Char) : Option (Json × List Char) := do
  let (whole, rest) := digits cs
  match whole with
  | [] => none
  | 0 :: _ :: _ => none
  | _ =>
    let (fraction, rest) ← readFraction rest
    let (powered, power, rest) ← readExponent rest
    let (significand, dropped) := absorb 0 whole
    if fraction.isEmpty ∧ ¬ powered ∧ dropped = 0 then
      return (if negative then .otherNumber else .natural significand, rest)
    else
      let (significand, unused) := absorb significand fraction
      let exponent : Int := dropped - (fraction.length - unused : Nat) + power
      if overflows significand exponent then none else return (.otherNumber, rest)

/-! ### Values -/

mutual

/-- A value, and the text behind it. At most `depth` arrays and objects may be open at once. -/
def readValue : (fuel depth : Nat) → List Char → Option (Json × List Char)
  | 0, _, _ => none
  | fuel + 1, depth, cs =>
    match skipSpace cs with
    | 'n' :: 'u' :: 'l' :: 'l' :: rest => some (.null, rest)
    | 't' :: 'r' :: 'u' :: 'e' :: rest => some (.bool true, rest)
    | 'f' :: 'a' :: 'l' :: 's' :: 'e' :: rest => some (.bool false, rest)
    | '"' :: rest => (readString rest).map fun (s, rest) => (.string s, rest)
    | '-' :: rest => readUnsigned true rest
    | '[' :: rest =>
      match depth, skipSpace rest with
      | 0, _ => none
      | _ + 1, ']' :: rest => some (.array [], rest)
      | depth + 1, rest =>
        (readItems fuel depth rest).map fun (items, rest) => (.array items, rest)
    | '{' :: rest =>
      match depth, skipSpace rest with
      | 0, _ => none
      | _ + 1, '}' :: rest => some (.object [], rest)
      | depth + 1, rest =>
        (readMembers fuel depth rest).map fun (members, rest) => (.object members, rest)
    | rest => readUnsigned false rest

/-- The items of an array from the first one on, and the text behind its closing bracket. -/
def readItems : (fuel depth : Nat) → List Char → Option (List Json × List Char)
  | 0, _, _ => none
  | fuel + 1, depth, cs => do
    let (v, rest) ← readValue fuel depth cs
    match skipSpace rest with
    | ',' :: rest =>
      let (vs, rest) ← readItems fuel depth rest
      return (v :: vs, rest)
    | ']' :: rest => return ([v], rest)
    | _ => none

/-- The members of an object from the first one on, and the text behind its closing brace. -/
def readMembers : (fuel depth : Nat) → List Char → Option (List (String × Json) × List Char)
  | 0, _, _ => none
  | fuel + 1, depth, cs => do
    match skipSpace cs with
    | '"' :: rest =>
      let (k, rest) ← readString rest
      match skipSpace rest with
      | ':' :: rest =>
        let (v, rest) ← readValue fuel depth rest
        match skipSpace rest with
        | ',' :: rest =>
          let (ms, rest) ← readMembers fuel depth rest
          return ((k, v) :: ms, rest)
        | '}' :: rest => return ([(k, v)], rest)
        | _ => none
      | _ => none
    | _ => none

end

/-- How many arrays and objects may be open at once. -/
def maxDepth : Nat := 127

/-- The value that a whole text spells. Every two steps of the reading take a character, so the
fuel is enough. -/
def parse? (cs : List Char) : Option Json := do
  let (v, rest) ← readValue (2 * cs.length + 2) maxDepth cs
  if (skipSpace rest).isEmpty then some v else none

end BuildRunner.Json
