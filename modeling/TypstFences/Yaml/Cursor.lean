import TypstFences.Text.Basic

/-!
# Positions and faults in YAML text

A cursor is a position in a text that knows its line and its column. A line ends with a line feed, a next
line control, a line separator or a paragraph separator; the mark of the byte order takes no column.
-/

set_option autoImplicit false

namespace TypstFences.Yaml

/-- Why a text has no value: it has a character that no text has or a character that no token has, a token
where there can be none, a reference to nothing or a name given twice, a value that its kind cannot have,
a number or a date that does not exist, a word that is no truth value, a number without digits, a date
that is written unlike any date or like a table, a number that is too great, or too many values inside
each other. -/
inductive Fault where
  | badCharacter
  | noToken
  | misplacedToken
  | unknownReference
  | unknownKind
  | impossible
  | unknownWord
  | noDigits
  | noMoment
  | tableAsMoment
  | tooGreat
  | tooDeep
  deriving DecidableEq, Inhabited

/-- Whether a character ends a line. -/
def isBreak (c : Char) : Bool := c == '\n' || c == '\u0085' || c == '\u2028' || c == '\u2029'

/-- Whether a character is a gap between tokens of a line. -/
def isGap (c : Char) : Bool := c == ' ' || c == '\t'

/-- Whether a text is at its end or goes on with the end of a line. -/
def atLineEnd (text : Text) : Bool := text.head?.all isBreak

/-- Whether a text is at its end or goes on with a space or the end of a line. -/
def atSpace (text : Text) : Bool := text.head?.all fun c => c == ' ' || isBreak c

/-- Whether a text is at its end or goes on with a gap or the end of a line. -/
def atGap (text : Text) : Bool := text.head?.all fun c => isGap c || isBreak c

/-- Whether a line goes on as the start or the end of a document. -/
def isDocumentMark (line : Text) : Bool :=
  ["---".toList, "...".toList].contains (line.take 3) && atGap (line.drop 3)

/-- What the end of a line and the ends of empty lines after it stand for in a text that is written over
several lines: a single line feed is a space, and the first of several line feeds is nothing. -/
def foldBreaks (first : Char) (others : Text) : Text :=
  if first ≠ '\n' then first :: others
  else if others.isEmpty then [' ']
  else others

/-- A position in a text: what is still to come, and how many characters, lines, and columns of the line are
in front of it. -/
structure Cursor where
  rest : Text
  index : Nat
  line : Nat
  column : Nat
  deriving Inhabited

namespace Cursor

/-- The start of a text. -/
def start (text : Text) : Cursor := ⟨text, 0, 0, 0⟩

/-- The position after the next character. -/
def next (cursor : Cursor) : Cursor :=
  match cursor.rest with
  | [] => cursor
  | c :: rest =>
    if isBreak c then ⟨rest, cursor.index + 1, cursor.line + 1, 0⟩
    else
      ⟨rest, cursor.index + 1, cursor.line,
        if c = '\ufeff' then cursor.column else cursor.column + 1⟩

/-- The position after so many characters. -/
def skip : Nat → Cursor → Cursor
  | 0, cursor => cursor
  | n + 1, cursor => skip n cursor.next

/-- The characters up to the first that fails a condition, and the position in front of that. -/
def takeWhile (p : Char → Bool) (cursor : Cursor) : Text × Cursor :=
  let taken := cursor.rest.takeWhile p
  (taken, cursor.skip taken.length)

/-- The position in front of the first character that fails a condition. -/
def dropWhile (p : Char → Bool) (cursor : Cursor) : Cursor := (cursor.takeWhile p).2

/-- The end of a line as it counts in texts, if there is one, and the position after it. -/
def break? (cursor : Cursor) : Option (Char × Cursor) :=
  (cursor.rest.head?.filter isBreak).map fun c => (if c = '\u0085' then '\n' else c, cursor.next)

/-- The position after spaces and a comment. -/
def skipBlank (cursor : Cursor) : Cursor :=
  let cursor := cursor.dropWhile (· == ' ')
  if cursor.rest.head? = some '#' then cursor.dropWhile (!isBreak ·) else cursor

/-- The position at the end of the line, if only spaces and a comment come before it. -/
def lineEnd? (cursor : Cursor) : Option Cursor :=
  if atLineEnd cursor.skipBlank.rest then some cursor.skipBlank else none

/-- The next character is gone after a step. -/
theorem rest_next (cursor : Cursor) : cursor.next.rest = cursor.rest.tail := by
  unfold next
  split
  · rename_i h
    rw [h, List.tail_nil]
  · rename_i h
    split <;> simp [h]

/-- So many characters are gone after so many steps. -/
theorem rest_skip (n : Nat) (cursor : Cursor) : (skip n cursor).rest = cursor.rest.drop n := by
  induction n generalizing cursor with
  | zero => rfl
  | succ n ih => rw [skip, ih, rest_next, List.drop_tail]

/-- Steps do not go back. -/
theorem length_skip_le (n : Nat) (cursor : Cursor) :
    (skip n cursor).rest.length ≤ cursor.rest.length := by
  rw [rest_skip, List.length_drop]
  exact Nat.sub_le ..

/-- What is passed over is gone. -/
theorem length_dropWhile_le (p : Char → Bool) (cursor : Cursor) :
    (cursor.dropWhile p).rest.length ≤ cursor.rest.length := length_skip_le ..

/-- Spaces and a comment are gone when they are passed over. -/
theorem length_skipBlank_le (cursor : Cursor) :
    cursor.skipBlank.rest.length ≤ cursor.rest.length := by
  unfold skipBlank
  dsimp only
  split
  · exact Nat.le_trans (length_dropWhile_le ..) (length_dropWhile_le ..)
  · exact length_dropWhile_le ..

/-- The end of a line is gone after it. -/
theorem length_lt_of_break? {cursor after : Cursor} {c : Char} (h : cursor.break? = some (c, after)) :
    after.rest.length < cursor.rest.length := by
  unfold break? at h
  cases rest : cursor.rest with
  | nil => simp [rest] at h
  | cons d rest' =>
    simp only [rest, List.head?_cons, Option.map_eq_some_iff, Prod.mk.injEq] at h
    obtain ⟨_, _, _, rfl⟩ := h
    rw [rest_next, rest, List.tail_cons, List.length_cons]
    exact Nat.lt_succ_self _

end Cursor

end TypstFences.Yaml
