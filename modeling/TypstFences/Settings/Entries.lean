import TypstFences.Settings.Override
import TypstFences.Text.Line
import TypstFences.Yaml.Document

/-!
# Configuration files

A configuration file is a table in YAML text that gives values to names. A list of pairs is taken for a
table, and what counts as nothing is an empty one.
-/

set_option autoImplicit false

namespace TypstFences

namespace Entries

open Yaml (Value)

/-- The candidate that an item of a list is. -/
def itemOf : Value → Candidate
  | .null => .null
  | .bool value => .bool value
  | .int value => .int value
  | .real value => .real value
  | .text value => .text value
  | .bytes value => .ofBytes value
  | _ => .other

/-- The candidate that a value is. -/
def candidateOf : Value → Candidate
  | .list items => .list (items.map itemOf)
  | .set items => .list (items.map itemOf)
  | value => itemOf value

/-- The parts of a value, if it has parts. Those of a table are its keys, and those of a text its
characters. -/
def partsOf? : Value → Option (List Value)
  | .text value => some (value.map fun c => .text [c])
  | .bytes value => some (value.map fun byte => .int byte.toNat)
  | .list items => some items
  | .set items => some items
  | .map fields => some (fields.map (·.1))
  | _ => none

/-- Whether a value can be a key. -/
def isKey : Value → Bool
  | .list _ => false
  | .set _ => false
  | .map _ => false
  | _ => true

/-- The field that a value is if it has two parts. -/
def fieldOf (pair : Value) : Except EntryFault (Value × Value) :=
  match partsOf? pair with
  | some [key, value] => if isKey key then .ok (key, value) else .error .noParts
  | some _ => .error .noTable
  | none => .error .noParts

/-- The fields of a value. -/
def fieldsOf (value : Value) : Except EntryFault (List (Value × Value)) :=
  if value.isNothing then .ok []
  else
    match value, partsOf? value with
    | .map fields, _ => .ok fields
    | _, some parts => (parts.mapM fieldOf).map Value.ofFields
    | _, none => .error .noParts

/-- The entry that a field is. -/
def entryOf (field : Value × Value) : Except EntryFault (Text × Candidate) :=
  match field.1 with
  | .text name => .ok (name, candidateOf field.2)
  | _ => .error .strangeName

/-- The entries of a configuration file. -/
def read (content : Text) : Except EntryFault (List (Text × Candidate)) :=
  match Yaml.Document.read (Text.unifyLineEndings content) with
  | .error fault => .error (.unreadable fault)
  | .ok value => (fieldsOf value).bind (·.mapM entryOf)

end Entries

end TypstFences
