import TypstFences.Number.Decimal

/-!
# Numbers with a number of places

Fractions rounded to a chosen number of decimal places: behind the point, or from the first digit on.
Rounding is of the exact value, a tie going to the even digit.
-/

set_option autoImplicit false

namespace TypstFences.Binary64

/-- More decimal digits than any double-precision value has on one side of its point; all that follow are
zeros. -/
def mostDigits : Nat := 1100

/-- A fraction with `places` digits behind its point; `whole` ends a number without any. -/
def fixedText (whole : Text) (places numerator denominator : Nat) : Text :=
  let known := min places mostDigits
  let digits := Text.ofNat (roundHalfEven (numerator * Nat.pow 10 known) denominator)
  let digits := List.replicate (known + 1 - digits.length) '0' ++ digits
  let count := digits.length - known
  if places = 0 then digits ++ whole
  else
    digits.take count ++ '.' :: digits.drop count ++ List.replicate (places - known) '0'

/-- The first `places` digits of a fraction, with the decimal exponent of the first of them. -/
def firstDigits (places numerator denominator : Nat) : Text × Int :=
  if numerator = 0 then (List.replicate places '0', 0)
  else
    let known := min places mostDigits
    let (number, exponent) := significant known numerator denominator
    (Text.ofNat number ++ List.replicate (places - known) '0', exponent)

/-- The value times a hundred. -/
def timesHundred : Binary64 → Binary64
  | .finite negative mantissa exponent =>
    if mantissa = 0 then .finite negative mantissa exponent
    else
      let (n, d) := fraction mantissa exponent
      ofFraction negative (n * 100) d
  | value => value

end TypstFences.Binary64
