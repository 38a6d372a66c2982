import TypstFences.Text.Line

/-!
# Fences

The line grammar of fenced code blocks. A fence opens with a line of at least three backticks, possibly
indented, followed by an info string without backticks; it closes with the next line that holds nothing
but at least as many backticks and blanks. Shorter runs inside a block are part of its body.
-/

set_option autoImplicit false

namespace TypstFences

/-- The character of which fences are made. -/
def backtick : Char := '`'

/-- The fewest backticks that open a fence. -/
def leastFence : Nat := 3

/-- What a line that opens a fence says: the indentation in front of it, the number of its backticks,
and the info string after them, trimmed. -/
structure Opening where
  indent : Text
  length : Nat
  info : Text
  deriving DecidableEq, Inhabited

/-- The line without the line-ending characters at its end. -/
def lineContent (line : Text) : Text := Text.dropEndWhile (fun c => c == '\r' || c == '\n') line

/-- The opening that a line is, if it opens a fence. A backtick in what follows the run makes the line
an ordinary one, so inline code at the start of a line opens nothing. -/
def Opening.ofLine? (line : Text) : Option Opening :=
  let content := lineContent line
  let indent := content.takeWhile Text.isIndent
  let marked := content.dropWhile Text.isIndent
  let length := Text.leadingRun [backtick] marked
  let info := marked.drop length
  if length < leastFence ∨ backtick ∈ info then none else some ⟨indent, length, Text.trim info⟩

/-- Whether a line closes a fence of `length` backticks. -/
def closesFence (length : Nat) (line : Text) : Bool :=
  let content := Text.trim line
  decide (length ≤ content.length) && Text.leadingRun [backtick] content == content.length

/-- A fenced block: its opening line, the lines between, its closing line, what the opening says, and
the number of the opening line, counted from one. -/
structure Fence where
  opener : Text
  body : Text
  closer : Text
  opening : Opening
  line : Nat
  deriving DecidableEq, Inhabited

namespace Fence

/-- The text of the whole block. -/
def raw (fence : Fence) : Text := fence.opener ++ fence.body ++ fence.closer

/-- The indentation of the opening line. -/
def indent (fence : Fence) : Text := fence.opening.indent

/-- The number of backticks of the opening line. -/
def length (fence : Fence) : Nat := fence.opening.length

/-- The info string of the opening line. -/
def info (fence : Fence) : Text := fence.opening.info

/-- The number of the closing line. -/
def lastLine (fence : Fence) : Nat := fence.line + (Text.lines fence.body).length + 1

end Fence

end TypstFences
