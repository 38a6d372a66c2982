import TypstFences.Number.Places
import TypstFences.Template.Layout

/-!
# Figures

How a number is written by the letter of a layout, and how it then takes its place. Zeros and marks between
groups are put among its whole digits; all else stays together.
-/

set_option autoImplicit false

namespace TypstFences

/-- Why a template cannot be filled: a name without a value, a number where a name should be, an item
that a value does not have, a use that a value does not allow, a part that it does not have, a number too
great for the form asked for, a layout wider than any text, or a text that is no template. -/
inductive TemplateFault where
  | unknownName
  | noName
  | noItem
  | unfit
  | noPart
  | tooGreat
  | tooWide
  | malformed
  deriving DecidableEq, Inhabited

end TypstFences

namespace TypstFences.Template

/-- A number written out: its sign and what tells its base, its whole digits, and what follows them. -/
structure Figure where
  front : Text
  digits : Text
  rest : Text
  deriving DecidableEq, Inhabited

namespace Figure

/-- A text of which the digits at the start are whole digits. -/
def ofText (front text : Text) : Figure :=
  ⟨front, text.takeWhile Char.isDigit, text.dropWhile Char.isDigit⟩

/-- Digits with a mark between groups of a size, counted from the last digit. -/
def grouped (mark : Char) (size : Nat) (digits : Text) : Text :=
  let add (c : Char) (done : Nat × Text) : Nat × Text :=
    (done.1 + 1, if done.1 ≠ 0 ∧ done.1 % size = 0 then c :: mark :: done.2 else c :: done.2)
  (digits.foldr add (0, [])).2

/-- Digits with as many zeros in front as they need to be of a width once they are grouped. -/
def zeroFilled (size width : Nat) (digits : Text) : Text :=
  List.replicate (width - (width - 1) / (size + 1) - digits.length) '0' ++ digits

/-- The size of the groups of digits in the form of a letter. -/
def groupSize (letter : Option Char) : Nat := if letter.any Layout.isBaseLetter then 4 else 3

/-- A number laid out. -/
def lay (layout : Layout) (figure : Figure) : Text :=
  let side := layout.side.getD (if layout.zeros then .apart else .right)
  let room := layout.width - figure.front.length - figure.rest.length
  let digits := match layout.separator with
    | some mark =>
      if figure.digits.isEmpty then []
      else
        let size := groupSize layout.letter
        let width := if side = .apart ∧ layout.filler = '0' then room else 0
        grouped mark size (zeroFilled size width figure.digits)
    | none => figure.digits
  if side = .apart then
    figure.front ++ List.replicate (room - digits.length) layout.filler ++ digits ++ figure.rest
  else layout.fillUp side (figure.front ++ digits ++ figure.rest)

/-- What stands in front of a number by a layout: a minus sign, or what is asked for in its stead. -/
def signOf (layout : Layout) (negative : Bool) : Text :=
  if negative then ['-'] else (layout.sign.filter (· != '-')).toList

/-- The letters that stand for digits in another base, with the base. -/
def bases : List (Char × Nat) := [('b', 2), ('o', 8), ('x', 16), ('X', 16)]

/-- A whole number in the form of a layout: decimal, in another base, or as the character it is the number
of. -/
def ofInt (layout : Layout) (number : Int) : Except TemplateFault Figure :=
  let sign := signOf layout (number < 0)
  let letter := layout.letter.getD 'd'
  if layout.places.isSome || layout.positiveZero then .error .malformed
  else if letter = 'd' ∨ letter = 'n' then .ok ⟨sign, Text.ofNat number.natAbs, []⟩
  else if letter = 'c' then
    if layout.sign.isSome || layout.inFull then .error .malformed
    else if 0 ≤ number ∧ number < 0x110000 then .ok ⟨[], [], [Char.ofNat number.toNat]⟩
    else .error .tooGreat
  else
    match bases.lookup letter with
    | none => .error .malformed
    | some base =>
      let digits := Nat.toDigits base number.natAbs
      .ok
        ⟨sign ++ (if layout.inFull then ['0', letter] else []),
          if letter = 'X' then digits.map Char.toUpper else digits, []⟩

/-- The letters of the forms with a point. -/
def pointed : Text := "eEfFgGn%".toList

/-- The absolute value of a finite number in the form of a layout. Without a letter it has the fewest digits
that read back, or a number of places and always a digit behind its point. -/
def magnitude (layout : Layout) (mantissa : Nat) (exponent : Int) : Text :=
  let (n, d) := Binary64.fraction mantissa exponent
  let point : Text := if layout.inFull then ['.'] else []
  let places := layout.places.getD 6
  let general (dotted : Bool) : Text :=
    let places := max places 1
    let (digits, leading) := Binary64.firstDigits places n d
    let digits := if layout.inFull then digits else Binary64.dropTrailingZeros digits
    if dotted then Binary64.Arrangement.text ⟨places - 1, ".0".toList, point⟩ digits leading
    else Binary64.Arrangement.text ⟨places, point, point⟩ digits leading
  match layout.letter.map Char.toLower with
  | some 'e' =>
    let (digits, leading) := Binary64.firstDigits (places + 1) n d
    Binary64.scientificText point digits leading
  | some 'f' => Binary64.fixedText point places n d
  | some '%' => Binary64.fixedText point places n d ++ ['%']
  | some _ => general false
  | none =>
    if layout.places.isSome then general true
    else
      let (digits, leading) := Binary64.shortest mantissa exponent
      Binary64.Arrangement.text ⟨16, ".0".toList, point⟩ digits leading

/-- Whether a text has a digit other than zero in front of an exponent. -/
def isNonzero (text : Text) : Bool :=
  (text.takeWhile fun c => c != 'e').any fun c => c.isDigit && c != '0'

/-- A number with a point in the form of a layout. -/
def ofReal (layout : Layout) (value : Binary64) : Except TemplateFault Figure :=
  let isHundredfold := layout.letter == some '%'
  let cased (text : Text) : Text :=
    if layout.letter.any (· ∈ "EFG".toList) then text.map Char.toUpper else text
  let word (negative : Bool) (text : String) : Figure :=
    ⟨signOf layout negative, [], cased text.toList ++ (if isHundredfold then ['%'] else [])⟩
  if !layout.letter.all (· ∈ pointed) || layout.places.any (Nat.pow 2 31 ≤ ·) then .error .malformed
  else if layout.places.any (Nat.pow 2 30 ≤ ·) then .error .tooWide
  else
    match if isHundredfold then value.timesHundred else value with
    | .nan => .ok (word false "nan")
    | .infinite negative => .ok (word negative "inf")
    | .finite negative mantissa exponent =>
      let text := magnitude layout mantissa exponent
      let negative := negative && (isNonzero text || !layout.positiveZero)
      .ok (ofText (signOf layout negative) (cased text))

/-- A whole number in any form of a layout; one with a point needs a number of double precision. -/
def ofIntAs (layout : Layout) (number : Int) : Except TemplateFault Figure :=
  if layout.letter.any fun letter => letter ∈ pointed && letter != 'n' then
    match Binary64.ofInt number with
    | .infinite _ => .error .tooGreat
    | value => ofReal layout value
  else ofInt layout number

end Figure

end TypstFences.Template
