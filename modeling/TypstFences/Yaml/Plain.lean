import TypstFences.Yaml.Cursor

/-!
# Plain texts

A text without quotes ends in front of a comment or of what separates keys from values, and between
brackets in front of what separates items. It may go on in the next lines, as far as they are indented.
-/

set_option autoImplicit false

namespace TypstFences.Yaml.Plain

/-- The characters that separate items between brackets, and those that a key can go in front of. -/
def separators : Text := ",[]\x7b\x7d".toList

/-- Whether a character ends a plain text, given what comes after it. -/
def isEnding (inBrackets : Bool) (c : Char) (rest : Text) : Bool :=
  isGap c || isBreak c ||
    (c == ':' && (atGap rest || (inBrackets && rest.head?.any (· ∈ separators)))) ||
    (inBrackets && (c == '?' || c ∈ separators))

/-- The number of characters up to the next one that ends a plain text. -/
def wordLength (inBrackets : Bool) : Text → Nat
  | [] => 0
  | c :: rest => if isEnding inBrackets c rest then 0 else wordLength inBrackets rest + 1

/-- The ends of empty lines and the position after them and the spaces that follow; where a line begins or
ends a document, there are none. -/
def readBreaks (cursor : Cursor) : Option Text × Cursor :=
  if isDocumentMark cursor.rest then (none, cursor)
  else
    match found : (cursor.dropWhile (· == ' ')).break? with
    | none => (some [], cursor.dropWhile (· == ' '))
    | some (first, next) =>
      have : next.rest.length < cursor.rest.length :=
        Nat.lt_of_lt_of_le (Cursor.length_lt_of_break? found) (cursor.length_dropWhile_le _)
      let (others, after) := readBreaks next
      (others.map (first :: ·), after)
termination_by cursor.rest.length

/-- Empty lines are gone after them. -/
theorem length_readBreaks_le (cursor : Cursor) :
    (readBreaks cursor).2.rest.length ≤ cursor.rest.length := by
  fun_induction readBreaks cursor with
  | case1 cursor mark => exact Nat.le_refl _
  | case2 cursor noMark found => exact cursor.length_dropWhile_le _
  | case3 cursor noMark first next found shorter others after same ih =>
    rw [same] at ih
    exact Nat.le_trans ih (Nat.le_of_lt shorter)

/-- What comes between two words of a text and the position after it, and whether a new line begins there. -/
def readGap (cursor : Cursor) : Text × Cursor × Bool :=
  let (spaces, cursor) := cursor.takeWhile (· == ' ')
  match cursor.break? with
  | none => (spaces, cursor, false)
  | some (first, next) =>
    let (others, after) := readBreaks next
    ((others.map (foldBreaks first)).getD [], after, true)

/-- What comes between two words is gone after it, if it is not empty. -/
theorem length_lt_of_readGap {cursor after : Cursor} {c : Char} {gap : Text} {isNewLine : Bool}
    (h : readGap cursor = (c :: gap, after, isNewLine)) :
    after.rest.length < cursor.rest.length := by
  unfold readGap at h
  dsimp only [Cursor.takeWhile] at h
  split at h
  · obtain ⟨spaces, rfl, _⟩ := Prod.mk.inj h |>.imp_right Prod.mk.inj
    have some_spaces : 0 < (cursor.rest.takeWhile (· == ' ')).length := by rw [spaces]; simp
    have fewer := (List.takeWhile_prefix (l := cursor.rest) (· == ' ')).length_le
    rw [Cursor.rest_skip, List.length_drop]
    omega
  · rename_i first next found
    obtain ⟨_, rfl, _⟩ := Prod.mk.inj h |>.imp_right Prod.mk.inj
    exact Nat.lt_of_le_of_lt (length_readBreaks_le next) <|
      Nat.lt_of_lt_of_le (Cursor.length_lt_of_break? found) (cursor.length_skip_le _)

/-- The text from a position on, the position after it, and whether a new line begins there. Lines belong to
the text as far as they are indented by at least as many columns as `least`. -/
def read (inBrackets : Bool) (least : Int) (cursor : Cursor) : Text × Cursor × Bool :=
  let length := wordLength inBrackets cursor.rest
  let word := cursor.rest.take length
  match found : readGap (cursor.skip length) with
  | ([], after, isNewLine) => (word, after, isNewLine)
  | (c :: gap, after, isNewLine) =>
    if after.rest.head? == some '#' || (!inBrackets && decide (after.column < least))
    then (word, after, isNewLine)
    else
      have : after.rest.length < cursor.rest.length :=
        Nat.lt_of_lt_of_le (length_lt_of_readGap found) (cursor.length_skip_le _)
      match read inBrackets least after with
      | ([], _) => (word, after, isNewLine)
      | (text, last) => (word ++ c :: gap ++ text, last)
termination_by cursor.rest.length

end TypstFences.Yaml.Plain
