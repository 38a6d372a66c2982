import TypstFences.Text.Line

/-!
# Hidden lines

A block may hold lines that are typeset but not shown. A line is hidden when it begins, after blanks,
with the marker of the block; its marker and one space after it are removed before typesetting. The
empty marker hides nothing.
-/

set_option autoImplicit false

namespace TypstFences

/-- The two views of a block: what is typeset and what is shown. -/
structure Views where
  compiled : Text
  display : Text
  deriving DecidableEq, Inhabited

namespace HiddenLines

/-- Whether a line is hidden under a marker. -/
def isHidden (marker line : Text) : Bool :=
  !marker.isEmpty && marker.isPrefixOf (Text.trimStart line)

/-- The text without one space at its start. -/
def dropSpace : Text → Text
  | ' ' :: rest => rest
  | text => text

/-- The line without as many characters as the marker has after its leading blanks, and without one
space after them. -/
def unmark (marker line : Text) : Text :=
  line.takeWhile Text.isBlank ++ dropSpace ((Text.trimStart line).drop marker.length)

/-- The views of a block under a marker, line by line. -/
def views (marker body : Text) : Views where
  compiled :=
    (Text.lines body).flatMap fun line => if isHidden marker line then unmark marker line else line
  display := (Text.lines body).flatMap fun line => if isHidden marker line then [] else line

end HiddenLines

end TypstFences
