import TypstFences.Text.Line

/-!
# The lines of a text

A list of texts is a decomposition into lines (`IsLines`) when every member is nonempty, holds a
line feed at its end only, and all but the last end with one. The lines of a text are the only such
list that concatenates to it (`lines_flatten`, `isLines_lines`, `IsLines.lines_flatten`), and they
are found piece by piece in texts that are cut after a line feed, and in no others
(`lines_append_iff`). A line feed is counted for every line that is not the last
(`IsLines.lineFeeds_flatten`).
-/

set_option autoImplicit false

namespace TypstFences.Text

/-- Whether a text ends where a line does: it is empty, or its last character is a line feed. -/
def EndsLine (text : Text) : Prop := ∀ c ∈ text.getLast?, c = '\n'

/-- Whether texts are the lines of a text: none is empty, none has a line feed before its end, and
all but the last have one there. -/
structure IsLines (ls : List Text) : Prop where
  nonempty : ∀ line ∈ ls, line ≠ []
  inner : ∀ line ∈ ls, '\n' ∉ line.dropLast
  ended : ∀ line ∈ ls.dropLast, EndsLine line

/-! ## Texts that end where a line does -/

/-- The empty text ends where a line does. -/
theorem endsLine_nil : EndsLine [] := by simp [EndsLine]

/-- Beyond its first character, a text ends where a line does if all of it does. -/
theorem EndsLine.tail {c : Char} {text : Text} (h : EndsLine (c :: text)) : EndsLine text := by
  cases text with
  | nil => exact endsLine_nil
  | cons d rest => simpa [EndsLine] using h

/-- A text of one character ends a line only if it is a line feed. -/
theorem EndsLine.eq_lineFeed {c : Char} (h : EndsLine [c]) : c = '\n' := by simpa [EndsLine] using h

/-- A text that is put in front of one that ends a line ends one as well. -/
theorem EndsLine.append {first second : Text} (h₁ : EndsLine first) (h₂ : EndsLine second) :
    EndsLine (first ++ second) := by
  cases second with
  | nil => simpa using h₁
  | cons c rest => simpa [EndsLine, List.getLast?_append] using h₂

/-! ## The lines of a text -/

/-- The lines of a text that begins with a line feed. -/
theorem lines_lineFeed (rest : Text) : lines ('\n' :: rest) = ['\n'] :: lines rest := by
  simp [lines]

/-- The lines of a text, from those of what follows its first character. -/
theorem lines_cons {c : Char} (rest : Text) (h : c ≠ '\n') :
    lines (c :: rest) = match lines rest with
      | [] => [[c]]
      | line :: others => (c :: line) :: others := by
  cases found : lines rest <;> simp [lines, h, found]

/-- Only the empty text has no lines. -/
theorem lines_eq_nil {text : Text} : lines text = [] ↔ text = [] := by
  constructor
  · intro h
    cases text with
    | nil => rfl
    | cons c rest =>
      by_cases hc : c = '\n'
      · subst hc
        simp [lines_lineFeed] at h
      · rw [lines_cons rest hc] at h
        cases hr : lines rest <;> simp [hr] at h
  · rintro rfl
    rfl

/-- The lines of a text concatenate to it. -/
theorem lines_flatten (text : Text) : (lines text).flatten = text := by
  induction text with
  | nil => rfl
  | cons c rest ih =>
    by_cases hc : c = '\n'
    · subst hc
      simp [lines_lineFeed, ih]
    · rw [lines_cons rest hc]
      cases hr : lines rest with
      | nil =>
        have : rest = [] := lines_eq_nil.mp hr
        simp [this]
      | cons line others =>
        rw [hr] at ih
        simpa using ih

/-- The lines of a text that is cut where a line ends are those of both parts. -/
theorem lines_append {first : Text} (second : Text) (h : EndsLine first) :
    lines (first ++ second) = lines first ++ lines second := by
  induction first with
  | nil => rfl
  | cons c rest ih =>
    by_cases hc : c = '\n'
    · subst hc
      simp [lines_lineFeed, ih h.tail]
    · -- what follows is nonempty, for the text would end with `c`
      cases hr : lines rest with
      | nil =>
        have hnil : rest = [] := lines_eq_nil.mp hr
        subst hnil
        exact absurd h.eq_lineFeed hc
      | cons line others =>
        rw [List.cons_append, lines_cons _ hc, lines_cons _ hc, ih h.tail, hr]
        rfl

/-- A nonempty text without a line feed before its end is its only line. -/
theorem lines_singleton {line : Text} (h : line ≠ []) (inner : '\n' ∉ line.dropLast) :
    lines line = [line] := by
  induction line with
  | nil => exact absurd rfl h
  | cons c rest ih =>
    cases rest with
    | nil => by_cases hc : c = '\n' <;> simp [lines, hc]
    | cons d rest =>
      have hc : c ≠ '\n' := fun e => inner (by simp [e])
      have inner' : '\n' ∉ (d :: rest).dropLast := fun hm => inner (by simp [hm])
      rw [lines_cons _ hc, ih (by simp) inner']

/-! ## Decompositions into lines -/

namespace IsLines

variable {ls rest : List Text} {line : Text}

/-- What follows the first line are lines. -/
theorem tail (h : IsLines (line :: rest)) : IsLines rest where
  nonempty l hl := h.nonempty l (List.mem_cons_of_mem _ hl)
  inner l hl := h.inner l (List.mem_cons_of_mem _ hl)
  ended l hl := by
    cases rest with
    | nil => simp at hl
    | cons next others => exact h.ended l (by simp [hl])

/-- The first of several lines ends with a line feed. -/
theorem head_endsLine (h : IsLines (line :: rest)) (more : rest ≠ []) : EndsLine line := by
  cases rest with
  | nil => exact absurd rfl more
  | cons next others => exact h.ended line (by simp)

/-- The first lines of a decomposition are one. -/
theorem left {others : List Text} (h : IsLines (ls ++ others)) : IsLines ls where
  nonempty l hl := h.nonempty l (List.mem_append_left _ hl)
  inner l hl := h.inner l (List.mem_append_left _ hl)
  ended l hl := by
    apply h.ended l
    cases others with
    | nil => simpa using hl
    | cons next others =>
      rw [List.dropLast_append_cons]
      exact List.mem_append_left _ (List.dropLast_subset _ hl)

/-- The last lines of a decomposition are one. -/
theorem right {others : List Text} (h : IsLines (ls ++ others)) : IsLines others := by
  induction ls with
  | nil => exact h
  | cons line ls ih => exact ih h.tail

/-- Lines that are followed by others make up a text that ends where a line does. -/
theorem endsLine_flatten {others : List Text} (h : IsLines (ls ++ others)) (more : others ≠ []) :
    EndsLine ls.flatten := by
  induction ls with
  | nil => exact endsLine_nil
  | cons line ls ih =>
    have ends : EndsLine line := h.head_endsLine (by simp [more])
    exact ends.append (ih h.tail)

/-- The lines of the concatenation of lines are these lines. -/
theorem lines_flatten (h : IsLines ls) : lines ls.flatten = ls := by
  induction ls with
  | nil => rfl
  | cons line rest ih =>
    have only : lines line = [line] :=
      lines_singleton (h.nonempty line (by simp)) (h.inner line (by simp))
    cases rest with
    | nil => simpa using only
    | cons next others =>
      have ends : EndsLine line := h.head_endsLine (by simp)
      rw [List.flatten_cons, lines_append _ ends, only, ih h.tail]
      rfl

/-- A line that ends with a line feed has one. -/
theorem lineFeeds_head (h : IsLines (line :: rest)) (ends : EndsLine line) : lineFeeds line = 1 := by
  have nonempty : line ≠ [] := h.nonempty line (by simp)
  have inner : '\n' ∉ line.dropLast := h.inner line (by simp)
  have last : line.getLast nonempty = '\n' := ends _ (by simp [List.getLast?_eq_some_getLast nonempty])
  have parts := List.dropLast_concat_getLast nonempty
  rw [last] at parts
  unfold lineFeeds
  rw [← parts, List.count_append, List.count_eq_zero_of_not_mem inner]
  rfl

/-- Lines that are followed by others have a line feed each. -/
theorem lineFeeds_flatten {others : List Text} (h : IsLines (ls ++ others)) (more : others ≠ []) :
    lineFeeds ls.flatten = ls.length := by
  induction ls with
  | nil => rfl
  | cons line ls ih =>
    have one : lineFeeds line = 1 := h.lineFeeds_head (h.head_endsLine (by simp [more]))
    have rest : lineFeeds ls.flatten = ls.length := ih h.tail
    unfold lineFeeds at one rest ⊢
    rw [List.flatten_cons, List.count_append, one, rest, List.length_cons]
    omega

end IsLines

/-- The lines of a text are a decomposition into lines. -/
theorem isLines_lines (text : Text) : IsLines (lines text) := by
  induction text with
  | nil => exact ⟨by simp [lines], by simp [lines], by simp [lines]⟩
  | cons c rest ih =>
    by_cases hc : c = '\n'
    · subst hc
      rw [lines_lineFeed]
      refine ⟨?_, ?_, ?_⟩
      · simpa using ih.nonempty
      · simpa using ih.inner
      · intro line hl
        cases hr : lines rest with
        | nil => simp [hr] at hl
        | cons next others =>
          rw [hr, List.dropLast_cons_cons, List.mem_cons] at hl
          rcases hl with rfl | hl
          · simp [EndsLine]
          · exact ih.ended line (by rwa [hr])
    · rw [lines_cons rest hc]
      cases hr : lines rest with
      | nil => exact ⟨by simp, by simp, by simp⟩
      | cons line others =>
        rw [hr] at ih
        have nonempty : line ≠ [] := ih.nonempty line (by simp)
        have shape : (c :: line).dropLast = c :: line.dropLast := List.dropLast_cons_of_ne_nil nonempty
        refine ⟨?_, ?_, ?_⟩
        · intro l hl
          rcases List.mem_cons.mp hl with rfl | hl
          · simp
          · exact ih.nonempty l (List.mem_cons_of_mem _ hl)
        · intro l hl
          rcases List.mem_cons.mp hl with rfl | hl
          · rw [shape, List.mem_cons]
            rintro (e | inner)
            · exact hc e.symm
            · exact ih.inner line (by simp) inner
          · exact ih.inner l (List.mem_cons_of_mem _ hl)
        · intro l hl
          cases others with
          | nil => simp at hl
          | cons next others =>
            rw [List.dropLast_cons_cons, List.mem_cons] at hl
            rcases hl with rfl | hl
            · have ends : EndsLine line := ih.ended line (by simp)
              intro d hd
              exact ends d (by rwa [List.getLast?_cons_of_ne_nil nonempty] at hd)
            · exact ih.ended l (by simp [hl])

/-- The lines of two texts are those of both together only if the first ends where a line does, or nothing
follows it. -/
theorem lines_append_iff (first second : Text) :
    lines (first ++ second) = lines first ++ lines second ↔ EndsLine first ∨ second = [] := by
  constructor
  · intro split
    by_cases more : second = []
    · exact .inr more
    · have together : IsLines (lines first ++ lines second) := split ▸ isLines_lines (first ++ second)
      have ends : EndsLine (lines first).flatten :=
        together.endsLine_flatten fun none => more (lines_eq_nil.mp none)
      rw [lines_flatten] at ends
      exact .inl ends
  · rintro (ends | rfl)
    · exact lines_append second ends
    · simp [lines]

/-- A text that ends where a line does has as many lines as line feeds. -/
theorem length_lines {text : Text} (h : EndsLine text) : (lines text).length = lineFeeds text := by
  have together : IsLines (lines text ++ [['\n']]) := by
    have whole := isLines_lines (text ++ ['\n'])
    rwa [lines_append _ h] at whole
  have count := together.lineFeeds_flatten (by simp)
  rw [lines_flatten] at count
  exact count.symm

/-! ## The only decomposition -/

/-- The lines of a text are lines and concatenate to it, and no other list does. They are found piece by piece
where a text is cut at the end of a line, and nowhere else. -/
theorem lines_only_decomposition :
    (∀ text : Text, (lines text).flatten = text ∧ IsLines (lines text)) ∧
      (∀ ls, IsLines ls → lines ls.flatten = ls) ∧
      ∀ first second, lines (first ++ second) = lines first ++ lines second ↔
        EndsLine first ∨ second = [] :=
  ⟨fun text => ⟨lines_flatten text, isLines_lines text⟩, fun _ h => h.lines_flatten, lines_append_iff⟩

/-- Three lines, the second of which is blank, the first with a carriage return, and the last without a
line feed. -/
def threeLines : List Text := ["a\r\n".toList, "\n".toList, "b".toList]

/-- Three lines, the last one without a line feed. -/
theorem threeLines_isLines : IsLines threeLines where
  nonempty := by decide
  inner := by decide
  ended := by simp [threeLines, EndsLine]

/-- The lines of a text are found again part by part, if the cut does not go through a line. -/
theorem threeLines_found_again :
    IsLines threeLines ∧ lines "a\r\n\nb".toList = threeLines ∧
      lines ("a\r\n".toList ++ "\nb".toList) = lines "a\r\n".toList ++ lines "\nb".toList ∧
      lines ("a".toList ++ "\r\n".toList) ≠ lines "a".toList ++ lines "\r\n".toList := by
  obtain ⟨-, again, cut⟩ := lines_only_decomposition
  refine ⟨threeLines_isLines, again threeLines threeLines_isLines,
    (cut _ _).mpr (.inl (by simp [EndsLine])), fun split => ?_⟩
  rcases (cut _ _).mp split with ends | none
  · exact absurd ends (by simp [EndsLine])
  · exact absurd none (by decide)

end TypstFences.Text
