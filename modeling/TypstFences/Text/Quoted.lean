import TypstFences.Text.Unseen

/-!
# Quoted and escaped text

The form in which a message shows a text to its reader: between quotes, with backslash escapes for all
that would not be seen. Every escape stands for one character, so a quoted text shows where it ends.
Inside HTML the characters that it reserves are escaped, and in a place where they matter quotes too.
-/

set_option autoImplicit false

namespace TypstFences.Text

/-- The hexadecimal digits of a number, in a fixed count. -/
def hexDigits : Nat → Nat → Text
  | 0, _ => []
  | count + 1, n => hexDigits count (n / 16) ++ [Nat.digitChar (n % 16)]

/-- The escape of a character by its code point: two digits, four, or eight. -/
def codeEscape (c : Char) : Text :=
  if c.toNat < 0x100 then ['\\', 'x'] ++ hexDigits 2 c.toNat
  else if c.toNat < 0x10000 then ['\\', 'u'] ++ hexDigits 4 c.toNat
  else ['\\', 'U'] ++ hexDigits 8 c.toNat

/-- One character of a text between quotes `mark`. -/
def quotedChar (mark c : Char) : Text :=
  if c = mark ∨ c = '\\' then ['\\', c]
  else if c = '\n' then ['\\', 'n']
  else if c = '\r' then ['\\', 'r']
  else if c = '\t' then ['\\', 't']
  else if isUnseen c then codeEscape c
  else [c]

/-- The quotes around a text: double ones when it holds single quotes only, else single ones. -/
def quoteMark (text : Text) : Char := if '\'' ∈ text ∧ '"' ∉ text then '"' else '\''

/-- A text as a message shows it. -/
def quoted (text : Text) : Text :=
  let mark := quoteMark text
  [mark] ++ text.flatMap (quotedChar mark) ++ [mark]

/-- A text with all characters beyond ASCII escaped. -/
def escapeForeign (text : Text) : Text :=
  text.flatMap fun c => if 0x7f < c.toNat then codeEscape c else [c]

/-- The text as element content: ampersands and angle brackets become character references. -/
def escapeContent (text : Text) : Text :=
  text.flatMap fun c =>
    match c with
    | '&' => "&amp;".toList
    | '<' => "&lt;".toList
    | '>' => "&gt;".toList
    | c => [c]

/-- The text as element content with both kinds of quotes as character references as well. -/
def escapeQuotes (text : Text) : Text :=
  (escapeContent text).flatMap fun c =>
    match c with
    | '"' => "&quot;".toList
    | '\'' => "&#x27;".toList
    | c => [c]

end TypstFences.Text
