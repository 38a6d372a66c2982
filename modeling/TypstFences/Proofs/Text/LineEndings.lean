import TypstFences.Proofs.Text.Blank
import TypstFences.Proofs.Text.Lines

/-!
# Line endings

A line is a text without line feeds and its ending, which is empty or a line feed (`exists_ending`). A
carriage return may be part of the ending as well (`LineEnd`): trimming and dedenting do not look into it.
So a text with a carriage return in front of each line feed (`withReturns`) has the same lines, each with
the longer ending (`lines_withReturns`). What does not depend on the endings of lines is the same for both,
and what keeps the endings keeps the carriage returns (`eq_withReturns`, `map_withReturns`).
-/

set_option autoImplicit false

namespace TypstFences.Text

/-- Whether a text has nothing but characters that end a line. -/
def LineEnd (ending : Text) : Prop := ∀ c ∈ ending, c = '\r' ∨ c = '\n'

/-- Whether a text has no character that ends a line. -/
def InLine (text : Text) : Prop := '\r' ∉ text ∧ '\n' ∉ text

/-- The text with a carriage return in front of each line feed. -/
def withReturns (text : Text) : Text := text.flatMap fun c => if c = '\n' then ['\r', '\n'] else [c]

variable {line ending : Text}

/-! ## The ending of a line -/

/-- A line is a part without line feeds, and a line feed or nothing behind it. -/
theorem exists_ending (inner : '\n' ∉ line.dropLast) :
    ∃ part ending, line = part ++ ending ∧ '\n' ∉ part ∧ (ending = [] ∨ ending = ['\n']) := by
  by_cases feed : '\n' ∈ line
  · have nonempty : line ≠ [] := List.ne_nil_of_mem feed
    have whole := List.dropLast_concat_getLast nonempty
    have last : line.getLast nonempty = '\n' := by
      rw [← whole] at feed
      rcases List.mem_append.mp feed with inside | atEnd
      · exact absurd inside inner
      · exact (List.mem_singleton.mp atEnd).symm
    rw [last] at whole
    exact ⟨line.dropLast, ['\n'], whole.symm, inner, .inr rfl⟩
  · exact ⟨line, [], (List.append_nil line).symm, feed, .inl rfl⟩

/-- Nothing and a line feed are ends of lines. -/
theorem lineEnd_of_cases (h : ending = [] ∨ ending = ['\n']) : LineEnd ending := by
  rcases h with rfl | rfl
  · exact fun _ mem => absurd mem (by simp)
  · exact fun _ mem => .inr (List.mem_singleton.mp mem)

/-- The end of a line is blank. -/
theorem LineEnd.blank (h : LineEnd ending) : ∀ c ∈ ending, isBlank c = true := by
  intro c mem
  rcases h c mem with rfl | rfl <;> decide

/-- What stands in a line has no character of its end. -/
theorem InLine.clean {text : Text} (h : InLine text) (ends : LineEnd ending) : ∀ c ∈ ending, c ∉ text := by
  intro c mem
  rcases ends c mem with rfl | rfl
  · exact h.1
  · exact h.2

/-- The end of a line begins with no other character than those of line endings. -/
theorem LineEnd.head_ne (h : LineEnd ending) {c : Char} (differs : c ≠ '\r' ∧ c ≠ '\n') :
    ending.head? ≠ some c := by
  intro first
  rcases h c (List.mem_of_head? first) with rfl | rfl
  · exact differs.1 rfl
  · exact differs.2 rfl

/-- A line is trimmed of its end. -/
theorem trim_append_lineEnd (h : LineEnd ending) (line : Text) : trim (line ++ ending) = trim line := by
  have none : ∀ c ∈ ([] : Text), isBlank c = true := by simp
  have padded := trim_padded line none h.blank
  rwa [List.nil_append] at padded

/-- A line with a character that is no blank loses the same blanks at its start, whatever its ending. -/
theorem trimStart_append_lineEnd (h : trimStart line ≠ []) (ending : Text) :
    trimStart (line ++ ending) = trimStart line ++ ending ∧
      (line ++ ending).takeWhile isBlank = line.takeWhile isBlank := by
  induction line with
  | nil => exact absurd rfl h
  | cons c rest ih =>
    unfold trimStart at h ih ⊢
    by_cases blank : isBlank c = true
    · rw [List.dropWhile_cons_of_pos blank] at h
      obtain ⟨trimmed, taken⟩ := ih h
      rw [List.cons_append, List.dropWhile_cons_of_pos blank, List.dropWhile_cons_of_pos blank,
        List.takeWhile_cons_of_pos blank, List.takeWhile_cons_of_pos blank, trimmed, taken]
      exact ⟨rfl, rfl⟩
    · rw [List.cons_append, List.dropWhile_cons_of_neg blank, List.dropWhile_cons_of_neg blank,
        List.takeWhile_cons_of_neg blank, List.takeWhile_cons_of_neg blank]
      exact ⟨rfl, rfl⟩

/-- The ending of a line is no part of its indentation. -/
theorem dropIndent_append_lineEnd (h : LineEnd ending) (width : Nat) (line : Text) :
    dropIndent width (line ++ ending) = dropIndent width line ++ ending := by
  induction line generalizing width with
  | nil =>
    cases ending with
    | nil => cases width <;> rfl
    | cons c rest =>
      have noIndent : isIndent c = false := by
        rcases h c List.mem_cons_self with rfl | rfl <;> decide
      cases width <;> simp [dropIndent, noIndent]
  | cons c rest ih =>
    cases width with
    | zero => rfl
    | succ width =>
      rw [List.cons_append, dropIndent, dropIndent]
      split
      · exact ih width
      · rfl

/-- Dropping an indentation brings no characters in. -/
theorem dropIndent_subset (width : Nat) (line : Text) : dropIndent width line ⊆ line := by
  induction line generalizing width with
  | nil => cases width <;> simp [dropIndent]
  | cons c rest ih =>
    cases width with
    | zero => exact List.Subset.refl _
    | succ width =>
      rw [dropIndent]
      split
      · exact List.Subset.trans (ih width) (List.subset_cons_self c rest)
      · exact List.Subset.refl _

/-! ## Carriage returns -/

/-- The empty text has no line endings to change. -/
@[simp] theorem withReturns_nil : withReturns [] = [] := rfl

/-- Carriage returns are put in part by part. -/
theorem withReturns_append (first second : Text) :
    withReturns (first ++ second) = withReturns first ++ withReturns second := List.flatMap_append

/-- A text without line feeds gets no carriage returns. -/
theorem withReturns_of_notMem (plain : '\n' ∉ line) : withReturns line = line := by
  induction line with
  | nil => rfl
  | cons c rest ih =>
    rw [List.mem_cons, not_or] at plain
    have first : withReturns [c] = [c] := by simp [withReturns, Ne.symm plain.1]
    have split : withReturns (c :: rest) = withReturns [c] ++ withReturns rest :=
      withReturns_append [c] rest
    rw [split, first, ih plain.2, List.singleton_append]

/-- Carriage returns are put in part by part, in however many parts. -/
theorem withReturns_flatten (parts : List Text) :
    withReturns parts.flatten = (parts.map withReturns).flatten := by
  induction parts with
  | nil => rfl
  | cons part parts ih =>
    rw [List.flatten_cons, withReturns_append, ih, List.map_cons, List.flatten_cons]

/-- Carriage returns are put in item by item. -/
theorem withReturns_flatMap {α : Type} (items : List α) (f : α → Text) :
    withReturns (items.flatMap f) = items.flatMap fun item => withReturns (f item) := by
  rw [List.flatMap_def, withReturns_flatten, List.map_map, List.flatMap_def]
  rfl

/-- The end of a line is one with a carriage return too. -/
theorem lineEnd_withReturns (h : LineEnd ending) : LineEnd (withReturns ending) := by
  intro c mem
  obtain ⟨d, listed, inside⟩ := List.mem_flatMap.mp mem
  rcases h d listed with rfl | rfl
  · left
    simpa using inside
  · simpa using inside

/-- Lines with carriage returns are lines. -/
theorem isLines_withReturns {ls : List Text} (h : IsLines ls) : IsLines (ls.map withReturns) := by
  have feed : withReturns ['\n'] = ['\r', '\n'] := by decide
  refine ⟨?_, ?_, ?_⟩
  · intro line mem
    obtain ⟨before, listed, rfl⟩ := List.mem_map.mp mem
    obtain ⟨c, rest, rfl⟩ := List.exists_cons_of_ne_nil (h.nonempty before listed)
    rw [withReturns, List.flatMap_cons]
    split <;> simp
  · intro line mem
    obtain ⟨before, listed, rfl⟩ := List.mem_map.mp mem
    obtain ⟨part, ending, rfl, plain, rfl | rfl⟩ := exists_ending (h.inner before listed)
    · rw [List.append_nil, withReturns_of_notMem plain]
      exact fun inside => plain (List.dropLast_subset part inside)
    · rw [withReturns_append, withReturns_of_notMem plain, feed]
      simp [plain]
  · intro line mem
    rw [← List.map_dropLast] at mem
    obtain ⟨before, listed, rfl⟩ := List.mem_map.mp mem
    obtain ⟨part, ending, rfl, plain, rfl | rfl⟩ :=
      exists_ending (h.inner before (List.dropLast_subset ls listed))
    · -- a line without a line feed at its end is empty or the last
      have ends := h.ended _ listed
      rw [List.append_nil] at ends ⊢
      rwa [withReturns_of_notMem plain]
    · rw [withReturns_append, feed]
      simp [EndsLine]

/-- The lines of a text with carriage returns are its lines with carriage returns. -/
theorem lines_withReturns (text : Text) : lines (withReturns text) = (lines text).map withReturns := by
  have isLines : IsLines ((lines text).map withReturns) := isLines_withReturns (isLines_lines text)
  have whole : withReturns text = ((lines text).map withReturns).flatten := by
    rw [← withReturns_flatten, lines_flatten]
  rw [whole, isLines.lines_flatten]

/-- What does not depend on the ending of a line is the same with a carriage return. -/
theorem eq_withReturns {α : Type} {f : Text → α}
    (ignores : ∀ part ending, LineEnd ending → f (part ++ ending) = f part) (inner : '\n' ∉ line.dropLast) :
    f (withReturns line) = f line := by
  obtain ⟨part, ending, rfl, plain, h⟩ := exists_ending inner
  have ends : LineEnd ending := lineEnd_of_cases h
  rw [withReturns_append, withReturns_of_notMem plain, ignores part _ (lineEnd_withReturns ends),
    ignores part _ ends]

/-- What keeps the ending of a line keeps a carriage return. -/
theorem map_withReturns {f : Text → Text}
    (keeps : ∀ part ending, LineEnd ending → f (part ++ ending) = f part ++ ending)
    (within : ∀ part, f part ⊆ part) (inner : '\n' ∉ line.dropLast) :
    f (withReturns line) = withReturns (f line) := by
  obtain ⟨part, ending, rfl, plain, h⟩ := exists_ending inner
  have ends : LineEnd ending := lineEnd_of_cases h
  have plain' : '\n' ∉ f part := fun mem => plain (within part mem)
  rw [withReturns_append, withReturns_of_notMem plain, keeps part _ (lineEnd_withReturns ends),
    keeps part _ ends, withReturns_append, withReturns_of_notMem plain']

/-- What is done to lines without looking into their endings is done to lines with carriage returns. -/
theorem flatMap_lines_withReturns {f : Text → Text}
    (each : ∀ line, '\n' ∉ line.dropLast → f (withReturns line) = withReturns (f line)) (text : Text) :
    (lines (withReturns text)).flatMap f = withReturns ((lines text).flatMap f) := by
  rw [lines_withReturns, List.flatMap_map, withReturns_flatMap]
  exact List.flatMap_congr fun line mem => each line ((isLines_lines text).inner line mem)

/-- Dedenting does not look into the endings of lines. -/
theorem dedent_withReturns (indentation body : Text) :
    dedent indentation (withReturns body) = withReturns (dedent indentation body) :=
  flatMap_lines_withReturns (fun _ inner =>
    map_withReturns (fun part _ ends => dropIndent_append_lineEnd ends _ part) (dropIndent_subset _)
      inner) body

end TypstFences.Text
