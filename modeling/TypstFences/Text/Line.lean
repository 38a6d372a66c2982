import TypstFences.Text.Blank

/-!
# Lines

A line is a nonempty text whose only line feed, if it has one, is its last character. A text is the
concatenation of its lines, and a carriage return in front of the line feed stays with its line.
Indenting and dedenting work line by line.
-/

set_option autoImplicit false

namespace TypstFences.Text

/-- The lines of a text, each with its line feed; only the last may lack one. -/
def lines : Text → List Text
  | [] => []
  | c :: rest =>
    if c = '\n' then [c] :: lines rest
    else
      match lines rest with
      | [] => [[c]]
      | line :: others => (c :: line) :: others

/-- The number of line feeds in a text. -/
def lineFeeds (text : Text) : Nat := text.count '\n'

/-- Whether a character may be part of an indentation: a space or a tab. -/
def isIndent (c : Char) : Bool := c == ' ' || c == '\t'

/-- The line without its first indentation characters, at most `width` of them. -/
def dropIndent : Nat → Text → Text
  | 0, line => line
  | _ + 1, [] => []
  | width + 1, c :: rest => if isIndent c then dropIndent width rest else c :: rest

/-- Every line of `body` without at most as many indentation characters as `indentation` has. -/
def dedent (indentation : Text) (body : Text) : Text :=
  (lines body).flatMap (dropIndent indentation.length)

/-- Every line of `text` that is not blank with `indentation` in front. -/
def indent (indentation : Text) (text : Text) : Text :=
  (lines text).flatMap fun line => if allBlank line then line else indentation ++ line

/-- Every line ending, be it a line feed, a carriage return or both together, as a line feed. -/
def unifyLineEndings : Text → Text
  | [] => []
  | '\r' :: '\n' :: rest => '\n' :: unifyLineEndings rest
  | c :: rest => (if c = '\r' then '\n' else c) :: unifyLineEndings rest

end TypstFences.Text
