import Mathlib.Data.List.DropRight
import TypstFences.Text.Blank

/-!
# Trimming

Trimming takes the blanks from both ends of a text, and it does not matter from which end first
(`trimStart_trimEnd`). So blanks around a text make no difference (`trim_padded`), and a character that is
no blank keeps what stands behind it from being trimmed at its start and what stands in front of it from
being trimmed at its end (`trim_append_cons`).
-/

set_option autoImplicit false

namespace TypstFences.Text

/-- Trimmed text has no blanks at its start. -/
theorem trimStart_trim (text : Text) : trimStart (trim text) = trim text := by
  cases h : trim text with
  | nil => rfl
  | cons c rest =>
    -- the first character is also the first one after the leading blanks
    have kept : trim text <+: trimStart text := List.rdropWhile_prefix _ (trimStart text)
    rw [h] at kept
    obtain ⟨more, whole⟩ := kept
    have first := List.head?_dropWhile_not isBlank text
    rw [show text.dropWhile isBlank = c :: (rest ++ more) from whole.symm] at first
    exact List.dropWhile_cons_of_neg (by simpa using first)

/-- Trimming twice is trimming once. -/
theorem trim_trim (text : Text) : trim (trim text) = trim text := by
  have again : trim (trim text) = trimEnd (trimStart (trim text)) := rfl
  rw [again, trimStart_trim]
  exact List.rdropWhile_idempotent isBlank (trimStart text)

/-- Trimming only takes characters away. -/
theorem trim_subset (text : Text) : trim text ⊆ text := by
  have before : trim text ⊆ trimStart text :=
    (List.rdropWhile_prefix isBlank (trimStart text)).subset
  exact List.Subset.trans before (List.dropWhile_suffix isBlank).subset

/-- A character in front of a text is trimmed away if it is a blank and nothing of the text stays. -/
theorem trimEnd_cons (c : Char) (text : Text) :
    trimEnd (c :: text) = if isBlank c ∧ trimEnd text = [] then [] else c :: trimEnd text := by
  have reversed : trimEnd (c :: text) = ((text.reverse ++ [c]).dropWhile isBlank).reverse := by
    simp [trimEnd, dropEndWhile]
  rw [reversed, List.dropWhile_append]
  by_cases stays : text.reverse.dropWhile isBlank = []
  · have gone : trimEnd text = [] := congrArg List.reverse stays
    rw [stays, gone]
    by_cases blank : isBlank c = true <;> simp [blank]
  · have left : trimEnd text ≠ [] := fun gone => stays (List.reverse_eq_nil_iff.mp gone)
    rw [if_neg (by simpa using stays), if_neg fun both => left both.2]
    simp [trimEnd, dropEndWhile]

/-- It makes no difference from which end a text is trimmed first. -/
theorem trimStart_trimEnd (text : Text) : trimStart (trimEnd text) = trim text := by
  induction text with
  | nil => rfl
  | cons c rest ih =>
    unfold trim trimStart at ih ⊢
    rw [trimEnd_cons]
    by_cases blank : isBlank c = true
    · rw [List.dropWhile_cons_of_pos blank, ← ih]
      by_cases gone : trimEnd rest = []
      · rw [if_pos ⟨blank, gone⟩, gone]
      · rw [if_neg fun both => gone both.2, List.dropWhile_cons_of_pos blank]
    · rw [List.dropWhile_cons_of_neg blank, if_neg fun both => blank both.1,
        List.dropWhile_cons_of_neg blank, trimEnd_cons, if_neg fun both => blank both.1]

/-- A text without its first blanks is trimmed to the same. -/
theorem trim_trimStart (text : Text) : trim (trimStart text) = trim text := by
  have again : trimStart (trimStart text) = trimStart text := List.dropWhile_idempotent isBlank text
  rw [trim, again, trim]

/-- A text without its last blanks is trimmed to the same. -/
theorem trim_trimEnd (text : Text) : trim (trimEnd text) = trim text := by
  have again : trimEnd (trimEnd text) = trimEnd text := List.rdropWhile_idempotent isBlank text
  rw [← trimStart_trimEnd, again, trimStart_trimEnd]

/-- Blanks around a text are trimmed away. -/
theorem trim_padded {before after : Text} (text : Text) (blankBefore : ∀ c ∈ before, isBlank c = true)
    (blankAfter : ∀ c ∈ after, isBlank c = true) : trim (before ++ text ++ after) = trim text := by
  have start : trimStart (before ++ (text ++ after)) = trimStart (text ++ after) :=
    List.dropWhile_append_of_pos blankBefore
  have finish : trimEnd (text ++ after) = trimEnd text := by
    have reversed : ∀ c ∈ after.reverse, isBlank c = true := by simpa using blankAfter
    unfold trimEnd dropEndWhile
    rw [List.reverse_append, List.dropWhile_append_of_pos reversed]
  calc trim (before ++ text ++ after)
      = trimEnd (trimStart (before ++ (text ++ after))) := by rw [List.append_assoc, trim]
    _ = trim (text ++ after) := by rw [start, trim]
    _ = trimStart (trimEnd text) := by rw [← trimStart_trimEnd, finish]
    _ = trim text := trimStart_trimEnd text

section Mark

variable {mark : Char}

/-- Trimming a text at its start goes no further than a character that is not blank. -/
theorem trimStart_append_cons (notBlank : isBlank mark = false) (before after : Text) :
    trimStart (before ++ mark :: after) = trimStart before ++ mark :: after := by
  induction before with
  | nil => exact List.dropWhile_cons_of_neg (by simp [notBlank])
  | cons c rest ih =>
    unfold trimStart at ih ⊢
    rw [List.cons_append]
    by_cases blank : isBlank c = true
    · rw [List.dropWhile_cons_of_pos blank, List.dropWhile_cons_of_pos blank, ih]
    · rw [List.dropWhile_cons_of_neg blank, List.dropWhile_cons_of_neg blank, List.cons_append]

/-- Trimming a text at its end goes no further than a character that is not blank. -/
theorem trimEnd_append_cons (notBlank : isBlank mark = false) (before after : Text) :
    trimEnd (before ++ mark :: after) = before ++ mark :: trimEnd after := by
  have last : trimEnd (mark :: after) = mark :: trimEnd after := by
    rw [trimEnd_cons, if_neg]
    rintro ⟨blank, -⟩
    exact absurd blank (by simp [notBlank])
  induction before with
  | nil => exact last
  | cons c rest ih =>
    rw [List.cons_append, trimEnd_cons, ih, if_neg]
    · rfl
    · rintro ⟨-, gone⟩
      exact absurd gone (by simp)

/-- A character that is no blank shields both sides of it. -/
theorem trim_append_cons (notBlank : isBlank mark = false) (before after : Text) :
    trim (before ++ mark :: after) = trimStart before ++ mark :: trimEnd after := by
  rw [trim, trimStart_append_cons notBlank, trimEnd_append_cons notBlank]

end Mark

/-- What is not blank altogether is not empty when it is trimmed. -/
theorem trim_ne_nil {text : Text} (marked : allBlank text = false) : trim text ≠ [] := by
  have some_mark : ∃ c ∈ text, isBlank c = false := by
    simpa [allBlank, List.all_eq_false] using marked
  obtain ⟨c, mem, notBlank⟩ := some_mark
  obtain ⟨before, after, rfl⟩ := List.append_of_mem mem
  rw [trim_append_cons notBlank]
  simp

end TypstFences.Text
