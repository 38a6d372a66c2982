import TypstFences.Number.Binary64

/-!
# JSON values

A JSON value keeps the order in which the keys of an object were first given. Whole numerals are
integers of any size; numerals with a fraction or an exponent are double-precision numbers.
-/

set_option autoImplicit false

namespace TypstFences

/-- A JSON value. -/
inductive Json where
  | null
  | bool (value : Bool)
  | int (value : Int)
  | real (value : Binary64)
  | string (value : Text)
  | list (items : List Json)
  | object (fields : List (Text × Json))
  deriving Inhabited

namespace Json

/-- The value of the first field with a key. -/
def lookup (key : Text) : List (Text × Json) → Option Json
  | [] => none
  | (name, value) :: fields => if name = key then some value else lookup key fields

/-- The fields with `key` given `value`: in its old place, or at the end when it is new. -/
def assign (key : Text) (value : Json) : List (Text × Json) → List (Text × Json)
  | [] => [(key, value)]
  | (name, old) :: fields =>
    if name = key then (name, value) :: fields else (name, old) :: assign key value fields

/-- The fields of an object; other values have none. -/
def fields : Json → List (Text × Json)
  | .object fields => fields
  | _ => []

/-- The items of a list; other values have none. -/
def items : Json → List Json
  | .list items => items
  | _ => []

/-- The value under a key of an object. -/
def field? (key : Text) (json : Json) : Option Json := lookup key json.fields

/-- The text that a value is. -/
def text? : Json → Option Text
  | .string value => some value
  | _ => none

/-- Whether a value counts as nothing. -/
def isNothing : Json → Bool
  | .null => true
  | .bool value => !value
  | .int number => number == 0
  | .real (.finite _ mantissa _) => mantissa == 0
  | .string text => text.isEmpty
  | .list items => items.isEmpty
  | .object fields => fields.isEmpty
  | _ => false

/-- A value found in a list of fields is smaller than the list. -/
theorem sizeOf_lt_of_lookup {key : Text} {value : Json} :
    {fields : List (Text × Json)} → lookup key fields = some value →
      sizeOf value < sizeOf fields
  | [], h => by simp [lookup] at h
  | (name, old) :: fields, h => by
    unfold lookup at h
    split at h
    · cases h
      simp
      omega
    · have := sizeOf_lt_of_lookup h
      simp
      omega

end Json

end TypstFences
