import TypstFences.Json.Value
import TypstFences.Text.Utf8

/-!
# Candidates for settings

What is given for a setting before it is known to fit. It comes from a JSON value or from a configuration
file, where it may also be bytes; bytes that are text are taken for the text.
-/

set_option autoImplicit false

namespace TypstFences

/-- What is given for a setting. All that no setting can be is one candidate, and so are lists inside
lists. -/
inductive Candidate where
  | null
  | bool (value : Bool)
  | int (value : Int)
  | real (value : Binary64)
  | text (value : Text)
  | rawBytes
  | list (items : List Candidate)
  | other
  deriving Inhabited

namespace Candidate

/-- The candidate that an item of a JSON list is. -/
def ofItem : Json → Candidate
  | .null => .null
  | .bool value => .bool value
  | .int value => .int value
  | .real value => .real value
  | .string value => .text value
  | .list _ => .other
  | .object _ => .other

/-- The candidate that a JSON value is. -/
def ofJson : Json → Candidate
  | .list items => .list (items.map ofItem)
  | value => ofItem value

/-- The candidate that bytes are. -/
def ofBytes (bytes : Bytes) : Candidate := ((Text.decodeUtf8? bytes).map text).getD rawBytes

/-- The named candidates that the fields of a JSON object are. -/
def ofFields (fields : List (Text × Json)) : List (Text × Candidate) :=
  fields.map fun (name, value) => (name, ofJson value)

end Candidate

end TypstFences
