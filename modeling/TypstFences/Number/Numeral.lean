import TypstFences.Number.Binary64
import TypstFences.Text.Blank
import TypstFences.Text.Digit

/-!
# Numerals

Reading numbers that people have written: blanks around a numeral are ignored, a sign may stand in
front of it, and single underscores may stand between its digits. A whole number may have needless zeros
in front and a fraction of zeros behind.
-/

set_option autoImplicit false

namespace TypstFences.Numeral

/-- Whether a character is white space around a numeral: a blank that is no information separator. -/
def isSpace (c : Char) : Bool := Text.isBlank c && !(0x1c ≤ c.toNat && c.toNat ≤ 0x1f)

/-- The text without the white space around it. -/
def strip (text : Text) : Text := Text.dropEndWhile isSpace (text.dropWhile isSpace)

/-- The number that decimal digits stand for. -/
def value (digits : Text) : Nat := digits.foldl (fun n c => n * 10 + (c.toNat - '0'.toNat)) 0

/-- Whether a text is a sign, and what follows it. -/
def cutSign : Text → Bool × Text
  | '-' :: rest => (true, rest)
  | '+' :: rest => (false, rest)
  | rest => (false, rest)

/-- The text without its underscores, if none of them is at an end or beside another. -/
def dropUnderscores? (text : Text) : Option Text :=
  if (Text.splitOn '_' text).any List.isEmpty then none else some (text.filter (· != '_'))

/-- Why a text is not read as a whole number. -/
inductive IntFault where
  | unreadable
  | oversized
  deriving DecidableEq, Inhabited

/-- The plain numeral that a text begins with: a minus sign or none, and digits without a needless zero
in front. -/
def plainStart (text : Text) : Text :=
  let digits (text : Text) : Text :=
    if text.head? = some '0' then ['0'] else text.takeWhile Char.isDigit
  match text with
  | '-' :: rest => '-' :: digits rest
  | text => digits text

/-- A numeral without its minus sign. -/
def digitsOf : Text → Text
  | '-' :: digits => digits
  | digits => digits

/-- The whole number that a text is the plain numeral of. -/
def readPlainInt? (text : Text) : Option Int :=
  if plainStart text = text ∧ (digitsOf text).length ≤ Text.longestNumeral then
    match text with
    | [] => none
    | ['-'] => none
    | '-' :: digits => some (-(value digits : Int))
    | digits => some (value digits : Int)
  else none

/-- The text behind a zero, from the first character on that is no zero and no underscore; in front of a
point one character stays. -/
def afterZeros? (before : Char) : Text → Option Text
  | [] => some [before]
  | c :: rest =>
    if c = '0' ∨ c = '_' then afterZeros? c rest
    else if c.isDigit ∨ c = '-' then some (c :: rest)
    else if c = '.' then some (before :: c :: rest)
    else none

/-- The text without needless zeros at its start. -/
def dropZeros? : Text → Option Text
  | [] => none
  | c :: rest =>
    if c = '0' then afterZeros? c rest
    else if c.isDigit ∨ c = '-' then some (c :: rest)
    else none

/-- The text without a fraction of zeros. -/
def dropZeroFraction (text : Text) : Text :=
  match Text.cut? '.' text with
  | some (whole, fraction) => if !fraction.isEmpty && fraction.all (· == '0') then whole else text
  | none => text

/-- The text without a sign and needless zeros at its start; a minus sign stays. -/
def dropFront? : Text → Option Text
  | '+' :: '-' :: _ => none
  | '+' :: rest => dropZeros? rest
  | '-' :: rest => (dropZeros? rest).map ('-' :: ·)
  | text => dropZeros? text

/-- The whole number that a numeral stands for. -/
def readInt (text : Text) : Except IntFault Int :=
  if Text.longestNumeral < (digitsOf (plainStart text)).length then .error .oversized
  else
    let plain := (dropFront? (strip text)).bind fun text => dropUnderscores? (dropZeroFraction text)
    match (readPlainInt? text).or (plain.bind readPlainInt?) with
    | some number => .ok number
    | none => .error .unreadable

/-- The exponent in the text after a mantissa: nothing, or a letter and a whole number. -/
def readExponent? : Text → Option Int
  | [] => some 0
  | e :: rest =>
    let (negative, digits) := cutSign rest
    if (e = 'e' ∨ e = 'E') ∧ !digits.isEmpty ∧ digits.all Char.isDigit then
      let n : Int := value digits
      some (if negative then -n else n)
    else none

/-- The number that a numeral without white space and underscores stands for: digits with a decimal
point and an exponent, or the name of an infinity or of the missing number. -/
def readPlainReal? (text : Text) : Option Binary64 :=
  let (negative, rest) := cutSign text
  let word := rest.map Char.toLower
  if word = "inf".toList ∨ word = "infinity".toList then some (.infinite negative)
  else if word = "nan".toList then some .nan
  else
    let whole := rest.takeWhile Char.isDigit
    let afterWhole := rest.dropWhile Char.isDigit
    let point := afterWhole.head? == some '.'
    let tail := if point then afterWhole.drop 1 else []
    let fraction := tail.takeWhile Char.isDigit
    let ending := if point then tail.dropWhile Char.isDigit else afterWhole
    match readExponent? ending with
    | some exponent =>
      if whole.isEmpty ∧ fraction.isEmpty then none
      else
        some (Binary64.ofDecimal negative (value (whole ++ fraction)) (exponent - fraction.length))
    | none => none

/-- The number that a numeral stands for. White space and underscores do not go together. -/
def readReal? (text : Text) : Option Binary64 :=
  (readPlainReal? (strip text)).or ((dropUnderscores? text).bind readPlainReal?)

end TypstFences.Numeral
