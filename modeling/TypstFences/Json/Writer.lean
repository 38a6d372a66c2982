import TypstFences.Json.Value
import TypstFences.Number.Decimal
import TypstFences.Text.Quoted

/-!
# Writing JSON

A value as text on one line. As JSON it is in printable ASCII only: all other characters are written as
numeric escapes of their UTF-16 code units, save for the five controls that have a short escape. In a
message it has other words, and its texts are quoted as messages quote them.
-/

set_option autoImplicit false

namespace TypstFences.Json

/-- The numeric escape of one UTF-16 code unit. -/
def unitEscape (unit : Nat) : Text :=
  ['\\', 'u', Nat.digitChar (unit / 0x1000 % 0x10), Nat.digitChar (unit / 0x100 % 0x10),
    Nat.digitChar (unit / 0x10 % 0x10), Nat.digitChar (unit % 0x10)]

/-- The numeric escape of a character: one code unit, or two for a character beyond the first plane. -/
def numericEscape (c : Char) : Text :=
  let n := c.toNat
  if n < 0x10000 then unitEscape n
  else
    unitEscape (0xd800 + (n - 0x10000) / 0x400) ++ unitEscape (0xdc00 + (n - 0x10000) % 0x400)

/-- A character as it stands between the quotes of a JSON string. -/
def escapeChar (c : Char) : Text :=
  if c = '"' then ['\\', '"']
  else if c = '\\' then ['\\', '\\']
  else if c = '\n' then ['\\', 'n']
  else if c = '\r' then ['\\', 'r']
  else if c = '\t' then ['\\', 't']
  else if c = '\x0c' then ['\\', 'f']
  else if c = '\x08' then ['\\', 'b']
  else if 0x20 ≤ c.toNat ∧ c.toNat < 0x7f then [c]
  else numericEscape c

/-- A text as a JSON string. -/
def writeText (text : Text) : Text := '"' :: text.flatMap escapeChar ++ ['"']

/-- How a value is written: what stands between two items, and between a key and its value; the words for
nothing, truth, falsehood, the missing number and infinity; and the form of texts. -/
structure Style where
  betweenItems : Text
  afterKey : Text
  nothing : Text
  truth : Text
  falsehood : Text
  missing : Text
  infinity : Text
  quote : Text → Text

/-- JSON without any blanks. -/
def compact : Style :=
  ⟨[','], [':'], "null".toList, "true".toList, "false".toList, "NaN".toList, "Infinity".toList, writeText⟩

/-- JSON with a space after every comma and colon. -/
def spaced : Style := { compact with betweenItems := [',', ' '], afterKey := [':', ' '] }

/-- The form in which a message shows a value. -/
def displayed : Style :=
  ⟨[',', ' '], [':', ' '], "None".toList, "True".toList, "False".toList, "nan".toList, "inf".toList,
    Text.quoted⟩

/-- A number in a style. -/
def writeReal (style : Style) (value : Binary64) : Text :=
  match value with
  | .nan => style.missing
  | .infinite negative => Binary64.signText negative ++ style.infinity
  | value => value.shortestText

mutual

/-- A value as text. -/
def write (style : Style) : Json → Text
  | .null => style.nothing
  | .bool value => if value then style.truth else style.falsehood
  | .int value => Text.ofInt value
  | .real value => writeReal style value
  | .string value => style.quote value
  | .list items => '[' :: writeItems style items ++ [']']
  | .object fields => '\x7b' :: writeFields style fields ++ ['\x7d']

/-- The items of a list with separators. -/
def writeItems (style : Style) : List Json → Text
  | [] => []
  | [item] => write style item
  | item :: next :: items => write style item ++ style.betweenItems ++ writeItems style (next :: items)

/-- The fields of an object with separators. -/
def writeFields (style : Style) : List (Text × Json) → Text
  | [] => []
  | [(key, value)] => style.quote key ++ style.afterKey ++ write style value
  | (key, value) :: next :: fields =>
    style.quote key ++ style.afterKey ++ write style value ++ style.betweenItems ++
      writeFields style (next :: fields)

end

/-- A value as it stands in a message; a text stands for itself. -/
def shown : Json → Text
  | .string value => value
  | value => value.write displayed

end TypstFences.Json
