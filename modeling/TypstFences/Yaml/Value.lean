import TypstFences.Number.Sum
import TypstFences.Text.Lower
import TypstFences.Yaml.Cursor
import TypstFences.Yaml.Kind
import TypstFences.Yaml.Moment

/-!
# Values of YAML text

What a text stands for as a value of a kind. A kind that is named by a tag reads more than is taken for it
without a tag: digits of all scripts, white space around numerals, and letter cases that are mixed.
-/

set_option autoImplicit false

namespace TypstFences.Yaml

/-- A value. A table and a set keep the order of their keys; a date is the text that it is written as. -/
inductive Value where
  | null
  | bool (value : Bool)
  | int (value : Int)
  | real (value : Binary64)
  | text (value : Text)
  | bytes (value : Bytes)
  | moment (value : Text)
  | list (items : List Value)
  | set (items : List Value)
  | map (fields : List (Value × Value))
  deriving Inhabited

namespace Kind

/-- The kind of value that a plain text is. A line feed at its end does not count. -/
def ofPlain (text : Text) : Kind :=
  let word := if text.getLast? = some '\n' then text.dropLast else text
  if text.isEmpty then null
  else if isNull word then null
  else if isFlag word then bool
  else if isReal word then real
  else if isInt word then int
  else if word = "<<".toList then merge
  else if Moment.isMoment word then moment
  else if word = ['='] then standIn
  else Kind.text

end Kind

namespace Value

/-- The text without underscores. -/
def dropUnderscores (text : Text) : Text := text.filter (· != '_')

/-- The text with the digits of all scripts in ASCII. -/
def plainDigits (text : Text) : Text :=
  text.map fun c => ((Text.digit? c).map fun digit => Char.ofNat ('0'.toNat + digit)).getD c

/-- What may come in front of the digits of a base. -/
def baseMark : Nat → Char
  | 2 => 'b'
  | 8 => 'o'
  | _ => 'x'

/-- The text without a zero and the letter of a base in front. -/
def dropBaseMark (base : Nat) (text : Text) : Text :=
  match text with
  | '0' :: c :: digits =>
    if base ≠ 10 ∧ c.toLower = baseMark base ∧ !digits.isEmpty then digits else text
  | _ => text

/-- The whole number that a numeral of a base stands for, with white space and a sign in front. Decimal
numerals are not to be too long. -/
def inBase (base : Nat) (numeral : Text) : Except Fault Int :=
  let (isNegative, numeral) := Numeral.cutSign (Numeral.strip numeral)
  let digits := dropBaseMark base (plainDigits numeral)
  let isDigit (c : Char) : Bool := (Text.hexDigit? c).any (· < base)
  if digits.isEmpty || !digits.all isDigit ||
      (base == 10 && decide (Text.longestNumeral < digits.length)) then .error .impossible
  else
    let number : Int := Text.valueInBase base digits
    .ok (if isNegative then -number else number)

/-- A numeral without its underscores as a sign and what follows it; it must not be empty. -/
def cutNumeral (text : Text) : Except Fault (Bool × Text) :=
  match dropUnderscores text with
  | [] => .error .noDigits
  | numeral => .ok (Numeral.cutSign numeral)

/-- Numbers of units, of sixties of them and so on as one number of units, the greatest first. -/
def inSixties (counts : List Int) : Int := counts.foldl (fun n count => n * 60 + count) 0

/-- The whole number that a numeral without a sign stands for. -/
def readUnsigned (numeral : Text) : Except Fault Int :=
  match numeral with
  | [] => .error .noDigits
  | ['0'] => .ok 0
  | '0' :: 'b' :: digits => inBase 2 digits
  | '0' :: 'x' :: digits => inBase 16 digits
  | '0' :: _ => inBase 8 numeral
  | _ =>
    if ':' ∈ numeral then ((Text.splitOn ':' numeral).mapM (inBase 10)).map inSixties
    else inBase 10 numeral

/-- The whole number that a text stands for. -/
def readInt (text : Text) : Except Fault Int := do
  let (isNegative, numeral) ← cutNumeral text
  let number ← readUnsigned numeral
  .ok (if isNegative then -number else number)

/-- The number that a decimal numeral stands for. -/
def readDecimal (numeral : Text) : Except Fault Binary64 :=
  match Numeral.readPlainReal? (Numeral.strip (plainDigits numeral)) with
  | some number => .ok number
  | none => .error .impossible

/-- Numbers of units, of sixties of them and so on as one number of units, the least first, added to a
number of units. The value of a unit must have a number of double precision near it. -/
def sumSixties (sum : Binary64) (unit : Nat) : List Binary64 → Except Fault Binary64
  | [] => .ok sum
  | count :: counts =>
    match Binary64.ofInt unit with
    | .infinite _ => .error .tooGreat
    | worth => sumSixties (sum.add (count.mul worth)) (unit * 60) counts

/-- The number that a text stands for. -/
def readReal (text : Text) : Except Fault Binary64 := do
  let (isNegative, numeral) ← cutNumeral (Text.lower text)
  let number ←
    if numeral = ".inf".toList then .ok (.infinite false)
    else if numeral = ".nan".toList then .ok .nan
    else if ':' ∈ numeral then do
      let counts ← (Text.splitOn ':' numeral).mapM readDecimal
      sumSixties (.zero false) 1 counts.reverse
    else readDecimal numeral
  .ok (if isNegative then number.neg else number)

/-- The six bits that a digit of the base 64 stands for. -/
def sextet? (c : Char) : Option Nat :=
  if 'A' ≤ c ∧ c ≤ 'Z' then some (c.toNat - 'A'.toNat)
  else if 'a' ≤ c ∧ c ≤ 'z' then some (c.toNat - 'a'.toNat + 26)
  else if '0' ≤ c ∧ c ≤ '9' then some (c.toNat - '0'.toNat + 52)
  else if c = '+' then some 62
  else if c = '/' then some 63
  else none

/-- The bytes of a text in base 64, given the digits of the group that has begun and how many fillers came
after them. Other characters are passed over; a group that its fillers complete is the last one. -/
def readSextets : List Nat → Nat → Text → Except Fault Bytes
  | [], _, [] => .ok []
  | _, _, [] => .error .unknownKind
  | group, fillers, c :: rest =>
    match sextet? c, group with
    | some d, [a, b, c] =>
      (readSextets [] 0 rest).map fun bytes =>
        (a * 4 + b / 16).toUInt8 :: (b % 16 * 16 + c / 4).toUInt8 :: (c % 4 * 64 + d).toUInt8 :: bytes
    | some d, group => readSextets (group ++ [d]) 0 rest
    | none, group =>
      if c ≠ '=' ∨ group.length < 2 then readSextets group fillers rest
      else if group.length + fillers + 1 < 4 then readSextets group (fillers + 1) rest
      else
        match group with
        | [a, b, c] => .ok [(a * 4 + b / 16).toUInt8, (b % 16 * 16 + c / 4).toUInt8]
        | [a, b] => .ok [(a * 4 + b / 16).toUInt8]
        | _ => .ok []

/-- The bytes that a text in base 64 stands for. -/
def readBytes (text : Text) : Except Fault Bytes :=
  if text.all (·.toNat < 128) then readSextets [] 0 text else .error .unknownKind

/-- The text of a date, if there is such a date. A line feed at its end does not count. -/
def readMoment (text : Text) : Except Fault Text :=
  match Moment.read? (if text.getLast? = some '\n' then text.dropLast else text) with
  | none => .error .noMoment
  | some date => if date.isPossible then .ok text else .error .impossible

/-- What a text stands for as a value of a kind. -/
def ofText (kind : Kind) (text : Text) : Except Fault Value :=
  match kind with
  | .null => .ok .null
  | .bool =>
    match (Kind.flagWords.map fun (word, flag) => (word.toList, flag)).lookup (Text.lower text) with
    | some flag => .ok (.bool flag)
    | none => .error .unknownWord
  | .int => (readInt text).map .int
  | .real => (readReal text).map .real
  | .text => .ok (.text text)
  | .bytes => (readBytes text).map .bytes
  | .moment => (readMoment text).map .moment
  | _ => .error .unknownKind

/-- The whole number that a value is; truth values are numbers. -/
def int? : Value → Option Int
  | .bool value => some (if value then 1 else 0)
  | .int value => some value
  | .real value => value.toInt?
  | _ => none

/-- Whether two values are the same key. -/
def isSameKey (x y : Value) : Bool :=
  match x, y with
  | .null, .null => true
  | .text s, .text t => s == t
  | .bytes s, .bytes t => s == t
  | .moment s, .moment t => s == t
  | .real s, .real t => if s = .nan then false else s == t || (s.toInt?.isSome && s.toInt? == t.toInt?)
  | x, y => x.int?.isSome && x.int? == y.int?

/-- Fields with one more: in the place of the older one with its key, or at the end. -/
def putField (key value : Value) : List (Value × Value) → List (Value × Value)
  | [] => [(key, value)]
  | (other, old) :: fields =>
    if isSameKey key other then (other, value) :: fields
    else (other, old) :: putField key value fields

/-- The fields of a table, where the last value of a key counts. -/
def ofFields (fields : List (Value × Value)) : List (Value × Value) :=
  fields.foldl (fun kept field => putField field.1 field.2 kept) []

/-- Whether a value counts as nothing. -/
def isNothing : Value → Bool
  | .null => true
  | .bool value => !value
  | .int value => value == 0
  | .real value => value.toInt? == some 0
  | .text value => value.isEmpty
  | .bytes value => value.isEmpty
  | .moment _ => false
  | .list items => items.isEmpty
  | .set items => items.isEmpty
  | .map fields => fields.isEmpty

end Value

end TypstFences.Yaml
