import TypstFences.PassError
import TypstFences.Text.Digit

/-!
# Diagnostics

The line that a diagnostic points to. A reference is the name of the file, a line number and a column
number, joined by colons; it begins at the start of the text, after a blank, or after a slash, so that a
file whose name only ends in the same way is not taken for the one that is meant.
-/

set_option autoImplicit false

namespace TypstFences.Diagnostic

/-- Whether a reference may begin after a character. -/
def isBoundary (c : Char) : Bool := Text.isBlank c || c == '/' || c == '\\'

/-- The digits of the line number in the reference to a file with which a text begins. -/
def digitsHere? (file text : Text) : Option Text :=
  if file.isPrefixOf text then
    match text.drop file.length with
    | ':' :: rest =>
      let digits := rest.takeWhile Text.isDigit
      match digits, rest.dropWhile Text.isDigit with
      | _ :: _, ':' :: c :: _ => if Text.isDigit c then some digits else none
      | _, _ => none
    | _ => none
  else none

/-- The digits of the line number in the first reference to a file in a text, where a reference may begin
at the start of the text or not. -/
def digitsFrom? (file : Text) : Bool → Text → Option Text
  | atBoundary, [] => if atBoundary then digitsHere? file [] else none
  | atBoundary, c :: rest =>
    match if atBoundary then digitsHere? file (c :: rest) else none with
    | some digits => some digits
    | none => digitsFrom? file (isBoundary c) rest

/-- The digits of the line number in the first reference to a file in a diagnostic. -/
def digits? (file diagnostic : Text) : Option Text := digitsFrom? file true diagnostic

/-- The line number of the first reference to a file in a diagnostic. -/
def line? (file diagnostic : Text) : Option Nat := (digits? file diagnostic).map Text.digitsValue

/-- The line number of the first reference to a file in a diagnostic, unless it has too many digits to be
read. -/
def readLine (file diagnostic : Text) : Except PassError (Option Nat) :=
  match digits? file diagnostic with
  | none => .ok none
  | some digits =>
    match Text.numeralValue? digits with
    | some line => .ok (some line)
    | none => .error .unreadableLine

end TypstFences.Diagnostic
