import TypstFences.Text.Digit
import TypstFences.Yaml.Cursor

/-!
# Block texts

A bar or an angle opens a text that is made of the indented lines below. After an angle, lines are joined
with spaces unless they begin with a gap. Signs and digits after the opening character say what becomes of
the line ends at the end of the text, and how far its lines are indented.
-/

set_option autoImplicit false

namespace TypstFences.Yaml.Block

/-- What becomes of the line ends at the end of a block text: one is kept, none is, or all are. -/
inductive Chomping where
  | clip
  | strip
  | keep
  deriving DecidableEq, Inhabited

/-- The sign at a position and the position after it, if there is one. -/
def readSign? (cursor : Cursor) : Option (Chomping × Cursor) :=
  match cursor.rest with
  | '+' :: _ => some (.keep, cursor.next)
  | '-' :: _ => some (.strip, cursor.next)
  | _ => none

/-- The digit at a position, if there is one, and the position after it. It must not be zero. -/
def readStep (cursor : Cursor) : Except Fault (Option Nat × Cursor) :=
  match cursor.rest with
  | '0' :: _ => .error .noToken
  | c :: _ =>
    if c.isDigit then .ok (Text.hexDigit? c, cursor.next) else .ok (none, cursor)
  | [] => .ok (none, cursor)

/-- What the opening line says after its first character: a sign and a digit, in either order. The position
is at the start of the next line. -/
def readOpening (cursor : Cursor) : Except Fault (Chomping × Option Nat × Cursor) := do
  let before := readSign? cursor
  let (step, cursor) ← readStep ((before.map (·.2)).getD cursor)
  let sign := before.or (readSign? cursor)
  let cursor := if before.isNone then (sign.map (·.2)).getD cursor else cursor
  match if atSpace cursor.rest then cursor.lineEnd? else none with
  | some cursor => .ok ((sign.map (·.1)).getD .clip, step, cursor.next)
  | none => .error .noToken

/-- The position after spaces, as far as they are in front of a column. -/
def dropIndentation (indentation : Nat) (cursor : Cursor) : Cursor :=
  cursor.skip <| min (indentation - cursor.column) (cursor.rest.takeWhile (· == ' ')).length

/-- Indentation is gone when it is passed over. -/
theorem length_dropIndentation_le (indentation : Nat) (cursor : Cursor) :
    (dropIndentation indentation cursor).rest.length ≤ cursor.rest.length := cursor.length_skip_le _

/-- The ends of empty lines, and the position after them and the indentation that follows. -/
def readBreaks (indentation : Nat) (cursor : Cursor) : Text × Cursor :=
  match found : (dropIndentation indentation cursor).break? with
  | none => ([], dropIndentation indentation cursor)
  | some (first, next) =>
    have : next.rest.length < cursor.rest.length :=
      Nat.lt_of_lt_of_le (Cursor.length_lt_of_break? found) (length_dropIndentation_le ..)
    let (others, after) := readBreaks indentation next
    (first :: others, after)
termination_by cursor.rest.length

/-- Empty lines are gone after them. -/
theorem length_readBreaks_le (indentation : Nat) (cursor : Cursor) :
    (readBreaks indentation cursor).2.rest.length ≤ cursor.rest.length := by
  fun_induction readBreaks indentation cursor with
  | case1 cursor found => exact length_dropIndentation_le indentation cursor
  | case2 cursor first next found shorter others after same ih =>
    rw [same] at ih
    exact Nat.le_trans ih (Nat.le_of_lt shorter)

/-- The ends of empty lines, the greatest column that is reached by spaces, and the position after both. -/
def readLead (most : Nat) (cursor : Cursor) : Text × Nat × Cursor :=
  match found : (cursor.dropWhile (· == ' ')).break? with
  | none => ([], max most (cursor.dropWhile (· == ' ')).column, cursor.dropWhile (· == ' '))
  | some (first, next) =>
    have : next.rest.length < cursor.rest.length :=
      Nat.lt_of_lt_of_le (Cursor.length_lt_of_break? found) (cursor.length_dropWhile_le _)
    let (others, most, after) := readLead (max most (cursor.dropWhile (· == ' ')).column) next
    (first :: others, most, after)
termination_by cursor.rest.length

/-- Whether a position is at the start of a line with text. -/
def isAtLine (indentation : Nat) (cursor : Cursor) : Bool :=
  cursor.column == indentation && !cursor.rest.isEmpty

/-- Whether a text goes on with a gap. -/
def beginsWithGap (text : Text) : Bool := text.head?.any isGap

/-- The lines from the start of one on, the line ends that follow the last of them, first the one that ends
it, and the position after these. -/
def readLines (isFolded : Bool) (indentation : Nat) (cursor : Cursor) : Text × Text × Text × Cursor :=
  let line := cursor.rest.takeWhile (!isBreak ·)
  match found : (cursor.dropWhile (!isBreak ·)).break? with
  | none => (line, [], [], cursor.dropWhile (!isBreak ·))
  | some (first, next) =>
    match same : readBreaks indentation next with
    | (others, start) =>
      have : start.rest.length < cursor.rest.length := by
        have after := length_readBreaks_le indentation next
        rw [same] at after
        exact Nat.lt_of_le_of_lt after <|
          Nat.lt_of_lt_of_le (Cursor.length_lt_of_break? found) (cursor.length_dropWhile_le _)
      if isAtLine indentation start then
        let isJoined :=
          isFolded && first == '\n' && !beginsWithGap cursor.rest && !beginsWithGap start.rest
        let (text, ending) := readLines isFolded indentation start
        (line ++ (if isJoined then foldBreaks first others else first :: others) ++ text, ending)
      else (line, [first], others, start)
termination_by cursor.rest.length

/-- The block text that is opened at a position, and the position after it. Its lines are indented by more
columns than `outer`. -/
def read (isFolded : Bool) (outer : Int) (cursor : Cursor) : Except Fault (Text × Cursor) := do
  let (chomping, step, cursor) ← readOpening cursor.next
  let least := max 1 (outer + 1).toNat
  let (lead, indentation, cursor) :=
    match step with
    | some step =>
      let indentation := least + step - 1
      let (lead, cursor) := readBreaks indentation cursor
      (lead, indentation, cursor)
    | none =>
      let (lead, most, cursor) := readLead 0 cursor
      (lead, max least most, cursor)
  if isAtLine indentation cursor then
    let (text, first, others, cursor) := readLines isFolded indentation cursor
    .ok (lead ++ text ++ (if chomping = .strip then [] else first) ++
      (if chomping = .keep then others else []), cursor)
  else .ok (if chomping = .keep then lead else [], cursor)

end TypstFences.Yaml.Block
