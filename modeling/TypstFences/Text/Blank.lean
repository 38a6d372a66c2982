import TypstFences.Text.Basic

/-!
# Blank characters

The characters that count as blank space, and trimming. The blanks are the Unicode space separators,
the line and paragraph separators, the controls from tab to carriage return, the four information
separators and the next-line control. Zero-width characters are not blank.
-/

set_option autoImplicit false

namespace TypstFences.Text

/-- Whether a character is blank space. -/
def isBlank (c : Char) : Bool :=
  let n := c.toNat
  (0x09 ≤ n && n ≤ 0x0d) || (0x1c ≤ n && n ≤ 0x20) || n == 0x85 || n == 0xa0 || n == 0x1680 ||
    (0x2000 ≤ n && n ≤ 0x200a) || n == 0x2028 || n == 0x2029 || n == 0x202f || n == 0x205f ||
    n == 0x3000

/-- Whether a text has no character but blanks. -/
def allBlank (text : Text) : Bool := text.all isBlank

/-- The text without the characters satisfying `p` at its end. -/
def dropEndWhile (p : Char → Bool) (text : Text) : Text :=
  (text.reverse.dropWhile p).reverse

/-- The text without the blanks at its start. -/
def trimStart (text : Text) : Text := text.dropWhile isBlank

/-- The text without the blanks at its end. -/
def trimEnd (text : Text) : Text := dropEndWhile isBlank text

/-- The text without the blanks at its start and at its end. -/
def trim (text : Text) : Text := trimEnd (trimStart text)

end TypstFences.Text
