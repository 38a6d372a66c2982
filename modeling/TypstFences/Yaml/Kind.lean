import TypstFences.Text.Basic
import TypstFences.Text.Digit

/-!
# Kinds of values in YAML text

What kind of value a plain text is written like, and what kind a tag names. Words are written in small
letters, with a capital in front, or in capitals. Whole numbers may be binary, octal, decimal, hexadecimal
or counted in sixties; other numbers have a decimal point.
-/

set_option autoImplicit false

namespace TypstFences.Yaml

/-- A kind of value. Besides values there are the key under which a table takes over the fields of others,
the key for what a table stands for where it should be a scalar, and all the kinds that are not known. -/
inductive Kind where
  | null
  | bool
  | int
  | real
  | text
  | bytes
  | moment
  | list
  | map
  | set
  | pairs
  | merge
  | standIn
  | foreign
  deriving DecidableEq, Inhabited

namespace Kind

/-- What the tags of known kinds begin with. -/
def tagStart : Text := "tag:yaml.org,2002:".toList

/-- The known kinds by the ends of their tags. -/
def named : List (Text × Kind) :=
  [("null".toList, null), ("bool".toList, bool), ("int".toList, int), ("float".toList, real),
    ("str".toList, text), ("binary".toList, bytes), ("timestamp".toList, moment),
    ("seq".toList, list), ("map".toList, map), ("set".toList, set), ("omap".toList, pairs),
    ("pairs".toList, pairs), ("merge".toList, merge), ("value".toList, standIn)]

/-- The kind that a tag names. -/
def ofTag (tag : Text) : Kind :=
  if tagStart.isPrefixOf tag then (named.lookup (tag.drop tagStart.length)).getD foreign
  else foreign

/-- Whether values of a kind have parts, and so are no keys. -/
def isCompound : Kind → Bool
  | list | map | set | pairs => true
  | _ => false

/-- The ways of writing a word. -/
def waysOf (word : String) : List Text :=
  let letters := word.toList
  [letters, (letters.take 1).map Char.toUpper ++ letters.drop 1, letters.map Char.toUpper]

/-- The words for truth values. -/
def flagWords : List (String × Bool) :=
  [("true", true), ("yes", true), ("on", true), ("false", false), ("no", false), ("off", false)]

/-- Whether a text is a word for a truth value. -/
def isFlag (text : Text) : Bool := flagWords.any fun word => (waysOf word.1).contains text

/-- Whether a text stands for nothing. -/
def isNull (text : Text) : Bool := text = ['~'] || (waysOf "null").contains text

/-- Whether a text has a character and all of them satisfy a condition or are underscores. -/
def isRun (isDigit : Char → Bool) (text : Text) : Bool :=
  !text.isEmpty && text.all fun c => isDigit c || c == '_'

/-- Whether a text is a run of decimal digits and underscores that begins with a digit. -/
def isDecimal (text : Text) : Bool := text.head?.any Char.isDigit && isRun Char.isDigit text

/-- Whether a text is a count below sixty, written with one digit or with two. -/
def isSixtieth (text : Text) : Bool :=
  match text with
  | [c] => c.isDigit
  | [c, d] => '0' ≤ c && c ≤ '5' && d.isDigit
  | _ => false

/-- Whether a text is a number and counts below sixty after it. -/
def isSixties (text : Text) : Bool :=
  match Text.splitOn ':' text with
  | first :: counts => isDecimal first && !counts.isEmpty && counts.all isSixtieth
  | [] => false

/-- The text without a sign in front. -/
def dropSign : Text → Text
  | '-' :: rest => rest
  | '+' :: rest => rest
  | rest => rest

/-- Whether a text is written like a whole number. -/
def isInt (text : Text) : Bool :=
  match dropSign text with
  | ['0'] => true
  | '0' :: 'b' :: digits => isRun (fun c => c == '0' || c == '1') digits
  | '0' :: 'x' :: digits => isRun (fun c => (Text.hexDigit? c).isSome) digits
  | '0' :: digits => isRun (fun c => '0' ≤ c && c ≤ '7') digits
  | digits => isDecimal digits || isSixties digits

/-- Whether a text is empty or an exponent: a letter, a sign and digits. -/
def isExponent : Text → Bool
  | [] => true
  | e :: sign :: digits =>
    (e == 'e' || e == 'E') && (sign == '+' || sign == '-') && !digits.isEmpty &&
      digits.all Char.isDigit
  | _ => false

/-- Whether a text is written like a number with a decimal point. Without digits in front of the point there
is no sign, and after counts of sixties there is no exponent. -/
def isFraction (text : Text) : Bool :=
  let unsigned := dropSign text
  let mantissa := unsigned.takeWhile fun c => c != 'e' && c != 'E'
  match Text.cut? '.' mantissa with
  | none => false
  | some (front, fraction) =>
    let exponent := unsigned.drop mantissa.length
    if !(fraction.isEmpty || isRun Char.isDigit fraction) then false
    else if front.isEmpty then
      unsigned.length == text.length && fraction.head?.any Char.isDigit && isExponent exponent
    else (isDecimal front && isExponent exponent) || (isSixties front && exponent.isEmpty)

/-- Whether a text is written like a number that is not whole. -/
def isReal (text : Text) : Bool :=
  ((waysOf "inf").map ('.' :: ·)).contains (dropSign text) ||
    [".nan".toList, ".NaN".toList, ".NAN".toList].contains text || isFraction text

end Kind

end TypstFences.Yaml
