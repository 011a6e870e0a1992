import BuildRunner.Shell.Arithmetic

/-!
Text put together from a format: backslash escapes, and conversions that take up the arguments. A
format is gone through again as long as it takes up arguments and some are left.
-/

namespace BuildRunner.Shell.Format

/-! ### Escapes -/

/-- The octal digits at the front of a text, at most `n` of them. -/
def octal (n : Nat) (cs : List Char) : List Char :=
  (cs.take n).takeWhile fun c => '0' ≤ c && c ≤ '7'

/-- The byte that octal digits spell. -/
def octalByte (ds : List Char) : Char :=
  Char.ofNat ((ds.foldl (fun n c => n * 8 + (c.toNat - '0'.toNat)) 0) % 256)

/-- The character of a one-letter escape. -/
def letter? (c : Char) : Option Char :=
  match c with
  | 'a' => some (Char.ofNat 7)
  | 'b' => some (Char.ofNat 8)
  | 'f' => some (Char.ofNat 12)
  | 'n' => some '\n'
  | 'r' => some '\r'
  | 't' => some '\t'
  | 'v' => some (Char.ofNat 11)
  | '\\' => some '\\'
  | _ => none

/-- The escape behind a backslash, and the text behind it. -/
def escape (cs : List Char) : List Char × List Char :=
  match cs with
  | [] => (['\\'], [])
  | c :: rest =>
    match letter? c with
    | some d => ([d], rest)
    | none =>
      let ds := octal 3 cs
      if ds.isEmpty then (['\\'], cs) else ([octalByte ds], cs.drop ds.length)

/-- A text with its escapes replaced, and whether `\c` ended it. An octal number may have a zero in
front of its three digits. -/
def unescape : (fuel : Nat) → List Char → List Char × Bool
  | 0, _ => ([], false)
  | _, [] => ([], false)
  | fuel + 1, c :: cs =>
    if c ≠ '\\' then
      let (text, isOver) := unescape fuel cs
      (c :: text, isOver)
    else match cs with
      | 'c' :: _ => ([], true)
      | '0' :: rest =>
        let ds := octal 3 rest
        let (text, isOver) := unescape fuel (rest.drop ds.length)
        (octalByte ds :: text, isOver)
      | cs =>
        let (front, rest) := escape cs
        let (text, isOver) := unescape fuel rest
        (front ++ text, isOver)

/-! ### Conversions -/

/-- What stands between the percent sign and the letter of a conversion. -/
structure Spec where
  isLeft : Bool := false
  isZeroed : Bool := false
  isSigned : Bool := false
  isSpaced : Bool := false
  isAlternate : Bool := false
  width : Nat := 0
  precision : Option Nat := none

/-- The flags at the front of a text. -/
def flags : List Char → Spec → Spec × List Char
  | '-' :: cs, s => flags cs { s with isLeft := true }
  | '0' :: cs, s => flags cs { s with isZeroed := true }
  | '+' :: cs, s => flags cs { s with isSigned := true }
  | ' ' :: cs, s => flags cs { s with isSpaced := true }
  | '#' :: cs, s => flags cs { s with isAlternate := true }
  | cs, s => (s, cs)

/-- A text filled up with spaces to the width. -/
def Spec.pad (s : Spec) (cs : List Char) : List Char :=
  let gap := List.replicate (s.width - cs.length) ' '
  if s.isLeft then cs ++ gap else gap ++ cs

/-- A text cut down to the precision and filled up to the width. -/
def Spec.text (s : Spec) (cs : List Char) : List Char :=
  s.pad (match s.precision with
    | some n => cs.take n
    | none => cs)

/-- The digits of a number behind a sign, filled up with zeros and spaces. -/
def Spec.digits (s : Spec) (sign : String) (ds : List Char) : List Char :=
  let least := s.precision.getD 0
  let ds := List.replicate (least - ds.length) '0' ++ ds
  let room := s.width - sign.length - ds.length
  let ds := if s.isZeroed && !s.isLeft && s.precision.isNone
    then List.replicate room '0' ++ ds else ds
  s.pad (sign.toList ++ ds)

/-- A signed number in decimal. -/
def Spec.decimal (s : Spec) (n : Int) : List Char :=
  let sign := if n < 0 then "-" else if s.isSigned then "+" else if s.isSpaced then " " else ""
  s.digits sign (toString n.natAbs).toList

/-- An unsigned number in some base. -/
def Spec.unsigned (s : Spec) (base : Nat) (isUpper : Bool) (n : Int) : List Char :=
  let ds := Nat.toDigits base (Expr.bits n)
  let mark := if !s.isAlternate || n = 0 then "" else if base = 16 then
    (if isUpper then "0X" else "0x") else if base = 8 then "0" else ""
  s.digits mark (if isUpper then ds.map Char.toUpper else ds)

/-- The number that an argument spells: that of a character behind a quote, else one as in an
expression; and whether the argument is all right. -/
def argument (cs : List Char) : Int × Bool :=
  match cs with
  | [] => (0, true)
  | '"' :: c :: _ => (c.toNat, true)
  | '\'' :: c :: _ => (c.toNat, true)
  | cs =>
    let body := cs.dropWhile fun c => c = ' ' || c = '\t'
    let (isNegative, body) : Bool × List Char := match body with
      | '-' :: rest => (true, rest)
      | '+' :: rest => (false, rest)
      | rest => (false, rest)
    match Expr.literal? body with
    | some n => (if isNegative then -(n : Int) else n, true)
    | none =>
      let ds := body.takeWhile Char.isDigit
      let n := (natural? ds).getD 0
      (if isNegative then -(n : Int) else n, false)

/-- What a format has made so far. -/
structure Result where
  text : List Char := []
  /-- The arguments not taken up yet. -/
  args : List String
  /-- Whether any was taken up. -/
  isFed : Bool := false
  isOver : Bool := false
  /-- The arguments that are not the numbers they should be. -/
  faults : List String := []

/-- More text. -/
def Result.put (r : Result) (cs : List Char) : Result := { r with text := r.text ++ cs }

/-- The next argument; a missing one is empty. -/
def Result.next (r : Result) : List Char × Result :=
  match r.args with
  | [] => ([], { r with isFed := true })
  | a :: rest => (a.toList, { r with args := rest, isFed := true })

/-- A number taken from the next argument. -/
def Result.number (r : Result) : Int × Result :=
  let (a, r) := r.next
  match argument a with
  | (n, true) => (n, r)
  | (n, false) => (n, { r with faults := r.faults ++ [String.ofList a] })

/-- A width or a precision: digits, or a star for the next argument. -/
def measure (r : Result) (cs : List Char) : Option Nat × Result × List Char :=
  match cs with
  | '*' :: rest => let (n, r) := r.number; (some n.toNat, r, rest)
  | cs =>
    let ds := cs.takeWhile Char.isDigit
    (natural? ds, r, cs.drop ds.length)

/-- The conversion of a letter. -/
def convert (s : Spec) (letter : Char) (r : Result) : Option Result :=
  match letter with
  | 's' => let (a, r) := r.next; some (r.put (s.text a))
  | 'c' => let (a, r) := r.next; some (r.put (s.pad (a.take 1)))
  | 'b' =>
    let (a, r) := r.next
    let (text, isOver) := unescape (a.length + 1) a
    some { r.put (s.text text) with isOver }
  | 'd' => let (n, r) := r.number; some (r.put (s.decimal n))
  | 'i' => let (n, r) := r.number; some (r.put (s.decimal n))
  | 'u' => let (n, r) := r.number; some (r.put (s.unsigned 10 false n))
  | 'o' => let (n, r) := r.number; some (r.put (s.unsigned 8 false n))
  | 'x' => let (n, r) := r.number; some (r.put (s.unsigned 16 false n))
  | 'X' => let (n, r) := r.number; some (r.put (s.unsigned 16 true n))
  | _ => none

/-- One way through a format. -/
def pass : (fuel : Nat) → Result → List Char → Result
  | 0, r, _ => r
  | _, r, [] => r
  | fuel + 1, r, c :: cs =>
    if r.isOver then r
    else if c = '\\' then
      let (front, rest) := escape cs
      pass fuel (r.put front) rest
    else if c = '%' then
      match cs with
      | '%' :: rest => pass fuel (r.put ['%']) rest
      | cs =>
        let (s, cs) := flags cs {}
        let (width, r, cs) := measure r cs
        let s := { s with width := width.getD 0 }
        let (precision, r, cs) : Option Nat × Result × List Char := match cs with
          | '.' :: rest => let (p, r, cs) := measure r rest; (some (p.getD 0), r, cs)
          | cs => (none, r, cs)
        match cs with
        | [] => r.put ['%']
        | letter :: rest =>
          match convert { s with precision } letter r with
          | some r => pass fuel r rest
          | none => { r with isOver := true, faults := r.faults ++ ["%" ++ letter.toString] }
    else pass fuel (r.put [c]) cs

/-- A format gone through until no argument is left. -/
def repeated : (fuel : Nat) → List Char → Result → Result
  | 0, _, r => r
  | fuel + 1, format, r =>
    let r := pass (format.length + 1) { r with isFed := false } format
    if r.isOver || r.args.isEmpty || !r.isFed then r else repeated fuel format r

/-- The text that a format makes of arguments, and the arguments that are not the numbers they
should be. -/
def print (format : String) (args : List String) : String × List String :=
  let r := repeated (args.length + 1) format.toList { args }
  (String.ofList r.text, r.faults)

end BuildRunner.Shell.Format
