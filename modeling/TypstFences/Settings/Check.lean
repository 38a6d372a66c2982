import TypstFences.Number.Numeral
import TypstFences.Settings.Override

/-!
# Checking settings

A value from a configuration is accepted for a field when it is of the field's type or can be read as
such. All that is wrong with a configuration is told at once, field by field.
-/

set_option autoImplicit false

namespace TypstFences

/-- What is wrong with a value. -/
inductive SettingFault where
  | notText
  | undecodableText
  | notBoolean
  | unreadableBoolean
  | notInteger
  | unreadableInteger
  | fractionalInteger
  | infiniteInteger
  | oversizedInteger
  | notNumber
  | unreadableNumber
  | notList
  | belowLeast (least : Nat)
  | notPositive
  | unknownField
  deriving DecidableEq, Inhabited

/-- The fault in words. -/
def SettingFault.message : SettingFault → Text
  | notText => "Input should be a valid string".toList
  | undecodableText =>
    "Input should be a valid string, unable to parse raw data as a unicode string".toList
  | notBoolean => "Input should be a valid boolean".toList
  | unreadableBoolean => "Input should be a valid boolean, unable to interpret input".toList
  | notInteger => "Input should be a valid integer".toList
  | unreadableInteger =>
    "Input should be a valid integer, unable to parse string as an integer".toList
  | fractionalInteger =>
    "Input should be a valid integer, got a number with a fractional part".toList
  | infiniteInteger => "Input should be a finite number".toList
  | oversizedInteger =>
    "Unable to parse input string as an integer, exceeded maximum size".toList
  | notNumber => "Input should be a valid number".toList
  | unreadableNumber => "Input should be a valid number, unable to parse string as a number".toList
  | notList => "Input should be a valid list".toList
  | belowLeast least => "Input should be greater than or equal to ".toList ++ Text.ofNat least
  | notPositive => "Input should be greater than 0".toList
  | unknownField => "Extra inputs are not permitted".toList

/-- The problem that a fault is, with the name it was found under, and the position in the list if it was
found there. -/
def SettingFault.problem (name : Text) (index : Option Nat) (fault : SettingFault) : Problem :=
  ⟨name :: (index.map Text.ofNat).toList, fault.message⟩

namespace FieldType

/-- A text. -/
def checkText : Candidate → Except SettingFault Text
  | .text value => .ok value
  | .rawBytes => .error .undecodableText
  | _ => .error .notText

/-- The spellings of falsehood. -/
def falseWords : List Text :=
  ["0".toList, "off".toList, "f".toList, "false".toList, "n".toList, "no".toList]

/-- The spellings of truth. -/
def trueWords : List Text :=
  ["1".toList, "on".toList, "t".toList, "true".toList, "y".toList, "yes".toList]

/-- The truth value that a number is. -/
def checkFlagNumber (number : Int) : Except SettingFault Bool :=
  if number = 0 then .ok false
  else if number = 1 then .ok true
  else .error .unreadableBoolean

/-- Whether a whole number has room in a word of 64 bits with a sign. -/
def fitsWord (number : Int) : Bool :=
  -(Nat.pow 2 63 : Int) ≤ number && number < Nat.pow 2 63

/-- Whether a double-precision number that is whole has room in a word of 64 bits with a sign; the least
number of such a word is left out. -/
def hasRoom (number : Int) : Bool := number.natAbs < Nat.pow 2 63

/-- A truth value, be it a number or a word. -/
def checkFlag : Candidate → Except SettingFault Bool
  | .bool value => .ok value
  | .int number => if fitsWord number then checkFlagNumber number else .error .notBoolean
  | .real number =>
    match number.toInt?.filter hasRoom with
    | some number => checkFlagNumber number
    | none => .error .notBoolean
  | .text value =>
    let word := value.map Char.toLower
    if falseWords.contains word then .ok false
    else if trueWords.contains word then .ok true
    else .error .unreadableBoolean
  | .rawBytes => .error .unreadableBoolean
  | _ => .error .notBoolean

/-- A whole number, be it a truth value, a number without a fraction, or a numeral. -/
def checkInt : Candidate → Except SettingFault Int
  | .int number => .ok number
  | .bool value => .ok (if value then 1 else 0)
  | .real number =>
    match number, number.toInt? with
    | _, some number => if hasRoom number then .ok number else .error .oversizedInteger
    | .finite .., none => .error .fractionalInteger
    | _, none => .error .infiniteInteger
  | .text numeral =>
    match Numeral.readInt numeral with
    | .ok number => .ok number
    | .error .unreadable => .error .unreadableInteger
    | .error .oversized => .error .oversizedInteger
  | .rawBytes => .error .unreadableInteger
  | _ => .error .notInteger

/-- A whole number that is not below the least one allowed. -/
def checkCount (least : Nat) (candidate : Candidate) : Except SettingFault Nat :=
  match checkInt candidate with
  | .ok number => if number < least then .error (.belowLeast least) else .ok number.toNat
  | .error fault => .error fault

/-- A number, be it a truth value or a numeral. -/
def checkNumber : Candidate → Except SettingFault Binary64
  | .real number => .ok number
  | .int number =>
    match Binary64.ofInt number with
    | .infinite _ => .error .notNumber
    | number => .ok number
  | .bool value => .ok (Binary64.ofInt (if value then 1 else 0))
  | .text numeral =>
    match Numeral.readReal? numeral with
    | some number => .ok number
    | none => .error .unreadableNumber
  | .rawBytes => .error .unreadableNumber
  | _ => .error .notNumber

/-- A number greater than zero. -/
def checkSeconds (candidate : Candidate) : Except SettingFault Binary64 :=
  match checkNumber candidate with
  | .ok number => if number.isPositive then .ok number else .error .notPositive
  | .error fault => .error fault

/-- Texts of a list, or what is wrong with which of its items; the first item has position `index`. -/
def checkItems : Nat → List Candidate → Except (List (Option Nat × SettingFault)) (List Text)
  | _, [] => .ok []
  | index, item :: items =>
    match checkText item, checkItems (index + 1) items with
    | .ok value, .ok values => .ok (value :: values)
    | .ok _, .error faults => .error faults
    | .error fault, .ok _ => .error [(some index, fault)]
    | .error fault, .error faults => .error ((some index, fault) :: faults)

/-- The fault of a whole value. -/
def atWhole {α : Type} : Except SettingFault α → Except (List (Option Nat × SettingFault)) α
  | .ok value => .ok value
  | .error fault => .error [(none, fault)]

/-- The value of a field type that a candidate is, or all that is wrong with it. -/
def check : (type : FieldType) → Candidate → Except (List (Option Nat × SettingFault)) type.Carrier
  | .text, candidate => atWhole (checkText candidate)
  | .optionalText, .null => .ok none
  | .optionalText, candidate =>
    match checkText candidate with
    | .ok value => .ok (some value)
    | .error fault => .error [(none, fault)]
  | .flag, candidate => atWhole (checkFlag candidate)
  | .texts, .list items => checkItems 0 items
  | .texts, _ => .error [(none, .notList)]
  | .seconds, candidate => atWhole (checkSeconds candidate)
  | .count, candidate => atWhole (checkCount 0 candidate)
  | .optionalCount, .null => .ok none
  | .optionalCount, candidate =>
    match checkCount 1 candidate with
    | .ok number => .ok (some number)
    | .error fault => .error [(none, fault)]

end FieldType

end TypstFences
