/-!
Non-negative binary floating-point numbers with 53 significant bits, by exact arithmetic on
natural numbers: a quotient rounds to the nearest such number and a tie to the even one.
-/

namespace BuildRunner.Number

/-- The natural number nearest to `num / den`, of two the even one. -/
def roundQuotient (num den : Nat) : Nat :=
  let q := num / den
  let r := num % den
  if 2 * r < den then q
  else if den < 2 * r then q + 1
  else if q % 2 = 0 then q else q + 1

/-- The number `mantissa * 2 ^ exponent`. -/
structure Binary64 where
  mantissa : Nat
  exponent : Int

namespace Binary64

/-- The numerator of the number as a quotient. -/
def num (x : Binary64) : Nat := x.mantissa * Nat.pow 2 x.exponent.toNat

/-- The denominator of the number as a quotient. -/
def den (x : Binary64) : Nat := Nat.pow 2 (-x.exponent).toNat

/-- How many bits a number has. -/
def bitCount (n : Nat) : Nat := if n = 0 then 0 else n.log2 + 1

/-- The exponent with which `num / den` has 53 bits before the point. -/
def exponentOf (num den : Nat) : Int :=
  let e : Int := (bitCount num : Int) - bitCount den - 53
  if den * Nat.pow 2 53 * Nat.pow 2 e.toNat ≤ num * Nat.pow 2 (-e).toNat then e + 1 else e

/-- The number nearest to `num / den`, of two the one with the even last bit. -/
def ofQuotient (num den : Nat) : Binary64 :=
  if num = 0 then ⟨0, 0⟩
  else
    let e := exponentOf num den
    ⟨roundQuotient (num * Nat.pow 2 (-e).toNat) (den * Nat.pow 2 e.toNat), e⟩

/-- The number nearest to a natural number. -/
def ofNat (n : Nat) : Binary64 := ofQuotient n 1

/-- The number nearest to the sum. -/
def add (x y : Binary64) : Binary64 :=
  ofQuotient (x.num * y.den + y.num * x.den) (x.den * y.den)

/-- The number nearest to the quotient. -/
def div (x y : Binary64) : Binary64 := ofQuotient (x.num * y.den) (x.den * y.num)

/-- Whether the product lies where the nearest number would be infinite. -/
def mulOverflows (x y : Binary64) : Bool :=
  (Nat.pow 2 1024 - Nat.pow 2 970) * (x.den * y.den) ≤ x.num * y.num

/-- The number in hundredths: the nearest count, of two the even one. -/
def toHundredths (x : Binary64) : Nat := roundQuotient (x.num * 100) x.den

end Binary64

/-- A count of hundredths, written with a point and two places. -/
def hundredthsText (n : Nat) : String :=
  let places := n % 100
  toString (n / 100) ++ "." ++ (if places < 10 then "0" else "") ++ toString places

end BuildRunner.Number
