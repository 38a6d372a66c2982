import TypstFences.Text.Digit

/-!
# Layouts

How a value takes its place in a template. A layout is written as a fill character and a side, the sign of
numbers that are not negative, a `z` where zero has no sign, a `#` where the form of a number is to be seen
in full, a zero for zeros in front of digits, a width, a mark between groups of digits, a dot with a number
of places, and a letter, each of which may be missing. A number in a template has room in a word of 64 bits
with a sign.
-/

set_option autoImplicit false

namespace TypstFences.Template

/-- The number that a text begins with, unless it is too great for a template. A text that does not
begin with a digit begins with zero. -/
def leadingNumber? (text : Text) : Option Nat :=
  let number := Text.digitsValue (text.takeWhile Text.isDigit)
  if number < Nat.pow 2 63 then some number else none

/-- Where a value stands in a wider place. A number may have its sign at the start and its digits at the
end. -/
inductive Side where
  | left
  | right
  | centre
  | apart
  deriving DecidableEq, Inhabited

/-- A layout as it is written. Places are the greatest number of characters of a text, and of digits of a
number. -/
structure Layout where
  side : Option Side
  filler : Char
  sign : Option Char
  positiveZero : Bool
  inFull : Bool
  zeros : Bool
  width : Nat
  separator : Option Char
  places : Option Nat
  letter : Option Char
  deriving DecidableEq, Inhabited

namespace Layout

/-- The side that a character stands for. -/
def sideOf? (c : Char) : Option Side :=
  if c = '<' then some .left
  else if c = '>' then some .right
  else if c = '^' then some .centre
  else if c = '=' then some .apart
  else none

/-- The side and the fill character at the start of a layout, and the text after them. A side may stand
alone. -/
def readFill (text : Text) : Option Side × Option Char × Text :=
  match text with
  | [] => (none, none, [])
  | c :: rest =>
    match rest.head?.bind sideOf?, sideOf? c with
    | some side, _ => (some side, some c, rest.tail)
    | none, some side => (some side, none, rest)
    | none, none => (none, none, text)

/-- The sign at the start of a text, and the text after it. -/
def readSign (text : Text) : Option Char × Text :=
  match text with
  | c :: rest => if c = '+' ∨ c = '-' ∨ c = ' ' then (some c, rest) else (none, text)
  | [] => (none, [])

/-- Whether a text begins with a character, and the text after it. -/
def readFlag (flag : Char) (text : Text) : Bool × Text :=
  if text.head? = some flag then (true, text.tail) else (false, text)

/-- The mark between groups at the start of a text, and the text after it. There are not two kinds. -/
def readSeparator? : Text → Option (Option Char × Text)
  | ',' :: '_' :: _ => none
  | '_' :: ',' :: _ => none
  | ',' :: rest => some (some ',', rest)
  | '_' :: rest => some (some '_', rest)
  | rest => some (none, rest)

/-- The number of places at the start of a text, and the text after it. -/
def readPlaces? : Text → Option (Option Nat × Text)
  | '.' :: rest =>
    match rest.takeWhile Text.isDigit, leadingNumber? rest with
    | _ :: _, some places => some (some places, rest.dropWhile Text.isDigit)
    | _, _ => none
  | text => some (none, text)

/-- The letter that a text is, if it is not empty. -/
def readLetter? : Text → Option (Option Char)
  | [] => some none
  | [letter] => some (some letter)
  | _ => none

/-- Whether a letter asks for digits in another base than ten. -/
def isBaseLetter (letter : Char) : Bool := letter ∈ ['b', 'o', 'x', 'X']

/-- Whether digits in the form of a letter have groups with a mark between them: decimal digits always,
those in another base with underscores only. -/
def hasGroups (letter : Option Char) (separator : Char) : Bool :=
  match letter with
  | none => true
  | some letter =>
    letter ∈ "deEfFgG%".toList || (isBaseLetter letter && separator == '_')

/-- The layout that a text is. -/
def read? (text : Text) : Option Layout := do
  let (side, filler, rest) := readFill text
  let (sign, rest) := readSign rest
  let (positiveZero, rest) := readFlag 'z' rest
  let (inFull, rest) := readFlag '#' rest
  let (zeros, rest) := if filler.isNone then readFlag '0' rest else (false, rest)
  let width ← leadingNumber? rest
  let (separator, rest) ← readSeparator? (rest.dropWhile Text.isDigit)
  let (places, rest) ← readPlaces? rest
  let letter ← readLetter? rest
  if separator.all (hasGroups letter) then
    some
      ⟨side, filler.getD (if zeros then '0' else ' '), sign, positiveZero, inFull, zeros, width,
        separator, places, letter⟩
  else none

/-- Whether there is room for texts of the width: one of a gibibyte has none. -/
def hasRoom (layout : Layout) : Bool := layout.width < Nat.pow 2 30

/-- A text filled up to the width. What is missing is divided in the middle for a text in the centre, the
greater part after it. -/
def fillUp (layout : Layout) (side : Side) (text : Text) : Text :=
  let missing := layout.width - text.length
  let before := match side with
    | .left => 0
    | .right | .apart => missing
    | .centre => missing / 2
  List.replicate before layout.filler ++ text ++ List.replicate (missing - before) layout.filler

/-- Whether a layout has nothing that is for numbers only. -/
def isForTexts (layout : Layout) : Bool :=
  layout.side != some .apart && layout.sign.isNone && !layout.positiveZero && !layout.inFull &&
    layout.separator.isNone && layout.letter.all (· == 's')

/-- A text laid out: cut to the number of places, then filled up. -/
def applyToText (layout : Layout) (text : Text) : Text :=
  let kept := match layout.places with
    | some most => text.take most
    | none => text
  layout.fillUp (layout.side.getD .left) kept

end Layout

end TypstFences.Template
