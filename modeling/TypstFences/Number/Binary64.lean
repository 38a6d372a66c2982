import TypstFences.Text.Basic

/-!
# Double-precision numbers

The values of the binary format with 53 significant bits, kept exactly as a mantissa and a power of
two, and the nearest such value to a decimal. All arithmetic is on natural numbers and integers.
-/

set_option autoImplicit false

namespace TypstFences

/-- A double-precision value: `mantissa * 2 ^ exponent` with a sign, an infinity, or no number. -/
inductive Binary64 where
  | finite (negative : Bool) (mantissa : Nat) (exponent : Int)
  | infinite (negative : Bool)
  | nan
  deriving DecidableEq, Inhabited

/-- The quotient rounded to the nearest integer, a tie going to the even one. -/
def roundHalfEven (numerator denominator : Nat) : Nat :=
  let quotient := numerator / denominator
  let twice := 2 * (numerator % denominator)
  if twice < denominator then quotient
  else if denominator < twice then quotient + 1
  else quotient + quotient % 2

namespace Binary64

/-- Zero with a sign. -/
def zero (negative : Bool) : Binary64 := .finite negative 0 (-1074)

/-- The fraction `numerator / denominator` times two to the power `-exponent`, as a fraction. -/
def scaleDown (numerator denominator : Nat) (exponent : Int) : Nat × Nat :=
  if 0 ≤ exponent then (numerator, denominator * Nat.pow 2 exponent.toNat)
  else (numerator * Nat.pow 2 (-exponent).toNat, denominator)

/-- The exponent for which the mantissa of a positive fraction has 53 bits, or the least exponent of
the format when that is larger. -/
def exponentFor (numerator denominator : Nat) : Int :=
  let guess : Int := (Nat.log2 numerator : Int) - (Nat.log2 denominator : Int) - 52
  let (n, d) := scaleDown numerator denominator guess
  max (if n < d * Nat.pow 2 52 then guess - 1 else guess) (-1074)

/-- The value nearest to a positive fraction; a tie goes to the even mantissa, and what rounds beyond
the largest finite value is infinite. -/
def ofFraction (negative : Bool) (numerator denominator : Nat) : Binary64 :=
  let exponent := exponentFor numerator denominator
  let (n, d) := scaleDown numerator denominator exponent
  let mantissa := roundHalfEven n d
  let (mantissa, exponent) :=
    if mantissa = Nat.pow 2 53 then (Nat.pow 2 52, exponent + 1) else (mantissa, exponent)
  if 971 < exponent then .infinite negative else .finite negative mantissa exponent

/-- The value nearest to `digits * 10 ^ exponent`. Decimals far outside the range of the format are
decided by their size alone. -/
def ofDecimal (negative : Bool) (digits : Nat) (exponent : Int) : Binary64 :=
  let places : Int := exponent + (Nat.toDigits 10 digits).length
  if digits = 0 ∨ places < -330 then zero negative
  else if 330 < places then .infinite negative
  else if 0 ≤ exponent then ofFraction negative (digits * Nat.pow 10 exponent.toNat) 1
  else ofFraction negative digits (Nat.pow 10 (-exponent).toNat)

/-- The value nearest to an integer. -/
def ofInt (i : Int) : Binary64 := ofDecimal (i < 0) i.natAbs 0

/-- Whether the value is greater than zero. -/
def isPositive : Binary64 → Bool
  | .finite negative mantissa _ => !negative && mantissa != 0
  | .infinite negative => !negative
  | .nan => false

/-- The integer that the value is, if it is one. -/
def toInt? : Binary64 → Option Int
  | .finite negative mantissa exponent =>
    let signed (n : Nat) : Int := if negative then -(n : Int) else n
    if 0 ≤ exponent then some (signed (mantissa * Nat.pow 2 exponent.toNat))
    else
      let unit := Nat.pow 2 (-exponent).toNat
      if mantissa % unit = 0 then some (signed (mantissa / unit)) else none
  | _ => none

/-- The absolute value of a finite value as a fraction. -/
def fraction (mantissa : Nat) (exponent : Int) : Nat × Nat :=
  if 0 ≤ exponent then (mantissa * Nat.pow 2 exponent.toNat, 1)
  else (mantissa, Nat.pow 2 (-exponent).toNat)

end Binary64

end TypstFences
