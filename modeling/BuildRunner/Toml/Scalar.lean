import BuildRunner.Toml.Text
import BuildRunner.Toml.Value

/-!
The tokens of TOML text that are neither strings nor brackets: truth values, numbers and dates.
-/

namespace BuildRunner.Toml

/-- Digits that single underscores may divide, at least one and none of them at an end. -/
def isDigits (ok : Char → Bool) : List Char → Bool
  | [] => false
  | [c] => ok c
  | c :: '_' :: cs => ok c && isDigits ok cs
  | c :: cs => ok c && isDigits ok cs

/-- The text behind a sign, if there is one. -/
def dropSign : List Char → List Char
  | '+' :: cs => cs
  | '-' :: cs => cs
  | cs => cs

/-- Decimal digits of a number that does not start with a zero unless it is one. -/
def isWhole (cs : List Char) : Bool :=
  isDigits Char.isDigit cs && (cs.head? ≠ some '0' || cs.length = 1)

/-- Whether a token is an integer. -/
def isInteger : List Char → Bool
  | '0' :: 'x' :: cs => isDigits (fun c => (Json.hexValue? c).isSome) cs
  | '0' :: 'o' :: cs => isDigits (fun c => '0' ≤ c && c ≤ '7') cs
  | '0' :: 'b' :: cs => isDigits (fun c => c = '0' || c = '1') cs
  | cs => isWhole (dropSign cs)

/-- A text cut at the first character of a class: what stands before it, and behind it. -/
def cut (p : Char → Bool) (cs : List Char) : List Char × Option (List Char) :=
  (cs.takeWhile (!p ·), (cs.dropWhile (!p ·)).tail?)

/-- Whether a token is a number with a fraction or an exponent, or one of the special ones. -/
def isFloat (cs : List Char) : Bool :=
  let cs := dropSign cs
  if cs = ['i', 'n', 'f'] ∨ cs = ['n', 'a', 'n'] then true
  else
    let (mantissa, power) := cut (fun c => c = 'e' || c = 'E') cs
    let (whole, fraction) := cut (· = '.') mantissa
    isWhole whole && (fraction.isSome || power.isSome) &&
      (fraction.map (isDigits Char.isDigit)).getD true &&
      (power.map fun p => isDigits Char.isDigit (dropSign p)).getD true

/-- The number that a fixed count of decimal digits spells. -/
def fixed? (count : Nat) (cs : List Char) : Option (Nat × List Char) :=
  let ds := cs.take count
  if ds.length = count ∧ ds.all Char.isDigit then
    some (ds.foldl (fun n c => n * 10 + (c.toNat - 48)) 0, cs.drop count)
  else none

/-- How many days a month has. -/
def daysIn (year month : Nat) : Nat :=
  if month = 2 then
    if year % 4 = 0 ∧ (year % 100 ≠ 0 ∨ year % 400 = 0) then 29 else 28
  else if month = 4 ∨ month = 6 ∨ month = 9 ∨ month = 11 then 30
  else 31

/-- A day: year, month and day of the month. -/
def date? (cs : List Char) : Option (List Char) := do
  let (year, cs) ← fixed? 4 cs
  let cs ← if cs.head? = some '-' then some cs.tail else none
  let (month, cs) ← fixed? 2 cs
  let cs ← if cs.head? = some '-' then some cs.tail else none
  let (day, cs) ← fixed? 2 cs
  if 1 ≤ month ∧ month ≤ 12 ∧ 1 ≤ day ∧ day ≤ daysIn year month then some cs else none

/-- A time of day: hour and minute, seconds if given, and a fraction of them if given. -/
def time? (cs : List Char) : Option (List Char) := do
  let (hour, cs) ← fixed? 2 cs
  let cs ← if cs.head? = some ':' then some cs.tail else none
  let (minute, cs) ← fixed? 2 cs
  if 24 ≤ hour ∨ 60 ≤ minute then none
  else match cs with
    | ':' :: cs =>
      let (second, cs) ← fixed? 2 cs
      if 60 < second then none
      else match cs with
        | '.' :: cs =>
          if (cs.head?.map Char.isDigit).getD false then some (cs.dropWhile Char.isDigit) else none
        | cs => some cs
    | cs => some cs

/-- The distance from universal time behind a time of day, if given. -/
def offset? : List Char → Option (List Char)
  | 'Z' :: cs => some cs
  | 'z' :: cs => some cs
  | c :: cs =>
    if c = '+' ∨ c = '-' then do
      let (hour, cs) ← fixed? 2 cs
      let cs ← if cs.head? = some ':' then some cs.tail else none
      let (minute, cs) ← fixed? 2 cs
      if 24 ≤ hour ∨ 60 ≤ minute then none else some cs
    else some (c :: cs)
  | [] => some []

/-- Whether a token is a day, a time of day, or both. -/
def isDateTime (cs : List Char) : Bool :=
  match date? cs with
  | some [] => true
  | some (c :: rest) =>
    (c = 'T' || c = 't' || c = ' ') && (time? rest).bind offset? == some []
  | none => time? cs == some []

/-- A character of a token that is neither a string nor a bracket. -/
def isTokenChar (c : Char) : Bool :=
  c.isAlphanum || c = '_' || c = '-' || c = '+' || c = '.' || c = ':'

/-- The token at the front of a text. A day and the time of day behind one space are one token. -/
def token (cs : List Char) : List Char × List Char :=
  let t := cs.takeWhile isTokenChar
  let rest := cs.dropWhile isTokenChar
  match date? t, rest with
  | some [], ' ' :: d :: more =>
    if d.isDigit then
      (t ++ ' ' :: (d :: more).takeWhile isTokenChar, (d :: more).dropWhile isTokenChar)
    else (t, rest)
  | _, _ => (t, rest)

/-- The value of a token. -/
def ofToken? (t : List Char) : Option Toml :=
  if t = ['t', 'r', 'u', 'e'] then some (.boolean true)
  else if t = ['f', 'a', 'l', 's', 'e'] then some (.boolean false)
  else if isInteger t ∨ isFloat t ∨ isDateTime t then some .other
  else none

end BuildRunner.Toml
