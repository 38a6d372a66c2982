import TypstFences.Number.Binary64

/-!
# Decimal text of double-precision numbers

Two ways of writing a value: with a fixed number of significant digits, trailing zeros dropped, and
with the fewest digits that read back as the value. Both round the exact binary value.
-/

set_option autoImplicit false

namespace TypstFences.Binary64

/-- The number of digits of a decimal numeral. -/
def digitCount (n : Nat) : Nat := (Nat.toDigits 10 n).length

/-- The fraction `numerator / denominator` divided by ten to the power `exponent`. -/
def scaleDecimal (numerator denominator : Nat) (exponent : Int) : Nat × Nat :=
  if 0 ≤ exponent then (numerator, denominator * Nat.pow 10 exponent.toNat)
  else (numerator * Nat.pow 10 (-exponent).toNat, denominator)

/-- The decimal exponent of the leading digit of a positive fraction. -/
def leadingExponent (numerator denominator : Nat) : Int :=
  let guess : Int := (digitCount numerator : Int) - (digitCount denominator : Int)
  let (n, d) := scaleDecimal numerator denominator guess
  if n < d then guess - 1 else guess

/-- A positive fraction rounded to `places` significant digits: the digits as a number with exactly
`places` digits, and the decimal exponent of the first of them. -/
def significant (places : Nat) (numerator denominator : Nat) : Nat × Int :=
  let exponent := leadingExponent numerator denominator
  let (n, d) := scaleDecimal numerator denominator (exponent - places + 1)
  let digits := roundHalfEven n d
  if digits = Nat.pow 10 places then (Nat.pow 10 (places - 1), exponent + 1) else (digits, exponent)

/-- The digits without zeros at their end, but at least one digit. -/
def dropTrailingZeros (digits : Text) : Text :=
  match (digits.reverse.dropWhile (· == '0')).reverse with
  | [] => ['0']
  | kept => kept

/-- A decimal exponent as it is written: with its sign and at least two digits. -/
def exponentText (exponent : Int) : Text :=
  let digits := Text.ofNat exponent.natAbs
  (if exponent < 0 then '-' else '+') :: (if digits.length < 2 then '0' :: digits else digits)

/-- Digits with a decimal point after the first, if there are more, and an exponent; `single` ends a single
digit. -/
def scientificText (single : Text) (digits : Text) (exponent : Int) : Text :=
  (match digits with
    | first :: second :: rest => first :: '.' :: second :: rest
    | short => short ++ single) ++ 'e' :: exponentText exponent

/-- Digits in positional notation, the first having the given decimal exponent; `whole` ends a number
without a fractional part. -/
def positionalText (whole : Text) (digits : Text) (exponent : Int) : Text :=
  if exponent < 0 then
    "0.".toList ++ List.replicate (exponent.natAbs - 1) '0' ++ digits
  else
    let point := exponent.toNat + 1
    if digits.length ≤ point then
      digits ++ List.replicate (point - digits.length) '0' ++ whole
    else digits.take point ++ '.' :: digits.drop point

/-- How significant digits are arranged: the decimal exponent from which on they have an exponent, what
ends whole digits, and what ends a single digit in front of an exponent. -/
structure Arrangement where
  limit : Int
  whole : Text
  single : Text

/-- Digits arranged, the first having the given decimal exponent: positional if that is at least -4 and
below the limit, with an exponent otherwise. -/
def Arrangement.text (arrangement : Arrangement) (digits : Text) (exponent : Int) : Text :=
  if -4 ≤ exponent ∧ exponent < arrangement.limit then
    positionalText arrangement.whole digits exponent
  else scientificText arrangement.single digits exponent

/-- The sign in front of a number. -/
def signText (negative : Bool) : Text := if negative then ['-'] else []

/-- The value with `places` significant digits, without trailing zeros. -/
def generalText (places : Nat) : Binary64 → Text
  | .nan => "nan".toList
  | .infinite negative => signText negative ++ "inf".toList
  | .finite negative mantissa exponent =>
    if mantissa = 0 then signText negative ++ ['0']
    else
      let (n, d) := fraction mantissa exponent
      let (number, leading) := significant places n d
      let digits := dropTrailingZeros (Text.ofNat number)
      signText negative ++ Arrangement.text ⟨places, [], []⟩ digits leading

/-- The candidates with `places` digits for a positive fraction: the neighbours of the fraction on
that decimal grid, the nearer one first. -/
def neighbours (places : Nat) (numerator denominator : Nat) : List Nat × Int :=
  let exponent := leadingExponent numerator denominator - places + 1
  let (n, d) := scaleDecimal numerator denominator exponent
  let low := n / d
  (if roundHalfEven n d = low then [low, low + 1] else [low + 1, low], exponent)

/-- The fewest digits that read back as the finite value, with their decimal exponent, looking at
`places` digits and more. Seventeen digits always read back. -/
def shortestDigits (value : Binary64) (numerator denominator : Nat) : Nat → Nat → Nat × Int
  | 0, places => significant places numerator denominator
  | more + 1, places =>
    let (candidates, exponent) := neighbours places numerator denominator
    match candidates.find? fun digits => ofDecimal false digits exponent == value with
    | some digits => (digits, exponent + (digitCount digits : Int) - 1)
    | none => shortestDigits value numerator denominator more (places + 1)

/-- The fewest digits that read back as the absolute value of a finite value, with their decimal exponent. -/
def shortest (mantissa : Nat) (exponent : Int) : Text × Int :=
  if mantissa = 0 then (['0'], 0)
  else
    let (n, d) := fraction mantissa exponent
    let (number, leading) := shortestDigits (.finite false mantissa exponent) n d 16 1
    (dropTrailingZeros (Text.ofNat number), leading)

/-- The value with the fewest digits that read back as it: positional for decimal exponents from -4
to 15, a whole number ending in `.0`. -/
def shortestText : Binary64 → Text
  | .nan => "nan".toList
  | .infinite negative => signText negative ++ "inf".toList
  | .finite negative mantissa exponent =>
    let (digits, leading) := shortest mantissa exponent
    signText negative ++ Arrangement.text ⟨16, ".0".toList, []⟩ digits leading

end TypstFences.Binary64
