import TypstFences.Proofs.Text.LineEndings

/-!
# Indentation

A line is dedented by as many characters as the indentation has, or by all spaces and tabs at its start if
these are fewer (`dropIndent_eq_drop`). It is a line still, unless nothing is left of it (`lines_dedent`), so
dedenting twice is dedenting by both indentations at once (`dedent_dedent`). Indenting puts the indentation in
front of every line that is not blank (`lines_indent`), and what was indented is dedented to what it was, if
and only if no blank line begins with a space or a tab (`dedent_indent_eq_self`): a blank line is not
indented, but it is dedented.
-/

set_option autoImplicit false

namespace TypstFences.Text

variable {line indentation : Text} {ls : List Text}

/-! ## Lines without their indentation -/

/-- The characters of indentations are blank. -/
theorem isBlank_of_isIndent {c : Char} (h : isIndent c = true) : isBlank c = true := by
  rcases Bool.or_eq_true_iff.mp h with space | tab
  · rw [eq_of_beq space]
    decide
  · rw [eq_of_beq tab]
    decide

/-- The blanks at the start of a line are gone with or without its indentation. -/
theorem trimStart_dropIndent (width : Nat) (line : Text) :
    trimStart (dropIndent width line) = trimStart line := by
  induction line generalizing width with
  | nil => cases width <;> rfl
  | cons c rest ih =>
    cases width with
    | zero => rfl
    | succ width =>
      rw [dropIndent]
      split
      · rename_i indents
        rw [ih, trimStart, trimStart, List.dropWhile_cons_of_pos (isBlank_of_isIndent indents)]
      · rfl

/-- A line loses the spaces and tabs at its start, but no more than the width. -/
theorem dropIndent_eq_drop (width : Nat) (line : Text) :
    dropIndent width line = line.drop (min width (line.takeWhile isIndent).length) := by
  induction line generalizing width with
  | nil => cases width <;> rfl
  | cons c rest ih =>
    cases width with
    | zero => simp [dropIndent]
    | succ width =>
      rw [dropIndent]
      split
      · rename_i indents
        rw [List.takeWhile_cons_of_pos indents, List.length_cons, Nat.succ_min_succ, List.drop_succ_cons, ih]
      · rename_i starts
        rw [List.takeWhile_cons_of_neg starts, List.length_nil, Nat.min_zero, List.drop_zero]

/-- A line without some of its indentation is an end of it. -/
theorem dropIndent_suffix (width : Nat) (line : Text) : dropIndent width line <:+ line := by
  rw [dropIndent_eq_drop]
  exact List.drop_suffix _ line

/-- Nothing is dropped of an empty line. -/
theorem dropIndent_nil (width : Nat) : dropIndent width [] = [] := by
  cases width <;> rfl

/-- What a line loses are spaces and tabs. -/
theorem isIndent_of_mem_take (width : Nat) (line : Text) :
    ∀ c ∈ line.take (min width (line.takeWhile isIndent).length), isIndent c = true := by
  intro c mem
  have within : c ∈ line.takeWhile isIndent := by
    rw [List.prefix_iff_eq_take.mp (List.takeWhile_prefix isIndent (l := line))]
    exact List.take_subset_take_left line (Nat.min_le_right _ _) mem
  exact List.all_eq_true.mp List.all_takeWhile c within

/-- No line loses a line feed. -/
theorem lineFeeds_dropIndent (width : Nat) (line : Text) :
    lineFeeds (dropIndent width line) = lineFeeds line := by
  have none : '\n' ∉ line.take (min width (line.takeWhile isIndent).length) := fun mem =>
    absurd (isIndent_of_mem_take width line '\n' mem) (by decide)
  have parts := List.take_append_drop (min width (line.takeWhile isIndent).length) line
  unfold lineFeeds
  rw [dropIndent_eq_drop]
  conv_rhs => rw [← parts, List.count_append, List.count_eq_zero_of_not_mem none, Nat.zero_add]

/-- What is left of a line is dedented as far as the rest of the width goes. -/
theorem dropIndent_dropIndent (first second : Nat) (line : Text) :
    dropIndent second (dropIndent first line) = dropIndent (first + second) line := by
  induction line generalizing first with
  | nil => rw [dropIndent_nil, dropIndent_nil, dropIndent_nil]
  | cons c rest ih =>
    cases first with
    | zero => rw [dropIndent, Nat.zero_add]
    | succ first =>
      rw [Nat.succ_add, dropIndent, dropIndent]
      split
      · exact ih first
      · rename_i starts
        cases second with
        | zero => rfl
        | succ second => rw [dropIndent, if_neg starts]

/-- A line keeps all of its characters if nothing is to be dropped or its first character is no
indentation. -/
theorem dropIndent_eq_self (width : Nat) (line : Text) :
    dropIndent width line = line ↔ width = 0 ∨ ∀ c ∈ line.head?, isIndent c = false := by
  cases width with
  | zero => simp [dropIndent]
  | succ width =>
    cases line with
    | nil => simp [dropIndent]
    | cons c rest =>
      rw [dropIndent]
      split
      · rename_i indents
        have shorter : (dropIndent width rest).length ≤ rest.length :=
          (dropIndent_suffix width rest).length_le
        have differ : dropIndent width rest ≠ c :: rest := by
          intro same
          rw [same, List.length_cons] at shorter
          omega
        simp [differ, indents]
      · rename_i starts
        simp [starts]

/-- An indentation in front of a line is dropped again. -/
theorem dropIndent_append (indents : ∀ c ∈ indentation, isIndent c = true) (line : Text) :
    dropIndent indentation.length (indentation ++ line) = line := by
  induction indentation with
  | nil => cases line <;> rfl
  | cons c rest ih =>
    rw [List.length_cons, List.cons_append, dropIndent, if_pos (indents c List.mem_cons_self)]
    exact ih fun other mem => indents other (List.mem_cons_of_mem c mem)

/-- Only at the end of what is left of a line can there be a line feed. -/
theorem notMem_dropLast_dropIndent (inner : '\n' ∉ line.dropLast) (width : Nat) :
    '\n' ∉ (dropIndent width line).dropLast := by
  obtain ⟨front, whole⟩ := dropIndent_suffix width line
  intro mem
  have left : dropIndent width line ≠ [] := by
    intro empty
    rw [empty] at mem
    exact absurd mem List.not_mem_nil
  rw [← whole, List.dropLast_append_of_ne_nil left] at inner
  exact inner (List.mem_append_right front mem)

/-- A line with a line feed keeps it, so something is left of the line. -/
theorem endsLine_dropIndent (nonempty : line ≠ []) (ends : EndsLine line) (width : Nat) :
    EndsLine (dropIndent width line) ∧ dropIndent width line ≠ [] := by
  have last : line.getLast nonempty = '\n' := ends _ (by simp [List.getLast?_eq_some_getLast nonempty])
  have parts := List.dropLast_concat_getLast nonempty
  rw [last] at parts
  rw [← parts, dropIndent_append_lineEnd (lineEnd_of_cases (.inr rfl))]
  refine ⟨?_, by simp⟩
  intro c hc
  rw [List.getLast?_concat] at hc
  exact (Option.some.inj hc).symm

/-- The lines of lines without their indentation are those of which something is left. -/
theorem IsLines.lines_flatMap_dropIndent (h : IsLines ls) (width : Nat) :
    lines (ls.flatMap (dropIndent width)) =
      (ls.map (dropIndent width)).filter fun line => !line.isEmpty := by
  induction ls with
  | nil => rfl
  | cons line rest ih =>
    have nonempty : line ≠ [] := h.nonempty line List.mem_cons_self
    have inner := notMem_dropLast_dropIndent (h.inner line List.mem_cons_self) width
    rw [List.flatMap_cons, List.map_cons, List.filter_cons]
    by_cases more : rest = []
    · -- the last line may have been nothing but indentation
      subst more
      rw [List.flatMap_nil, List.append_nil]
      by_cases left : dropIndent width line = []
      · simp [left, lines]
      · simp [left, lines_singleton left inner]
    · obtain ⟨ends, left⟩ := endsLine_dropIndent nonempty (h.head_endsLine more) width
      rw [lines_append _ ends, lines_singleton left inner, ih h.tail]
      simp [left]

/-! ## Dedenting -/

/-- The lines of a dedented text are those of the text without their indentation. -/
theorem lines_dedent (indentation body : Text) :
    lines (dedent indentation body) =
      ((lines body).map (dropIndent indentation.length)).filter fun line => !line.isEmpty :=
  (isLines_lines body).lines_flatMap_dropIndent indentation.length

/-- Empty lines add nothing to what is made of lines one by one. -/
theorem flatMap_filter_nonempty {f : Text → Text} (none : f [] = []) (ls : List Text) :
    (ls.filter fun line => !line.isEmpty).flatMap f = ls.flatMap f := by
  induction ls with
  | nil => rfl
  | cons line rest ih => cases line <;> simp [none, ih]

/-- Dedenting twice is dedenting by both indentations at once. -/
theorem dedent_dedent (first second body : Text) :
    dedent second (dedent first body) = dedent (first ++ second) body := by
  calc dedent second (dedent first body)
      = (((lines body).map (dropIndent first.length)).filter fun line =>
          !line.isEmpty).flatMap (dropIndent second.length) := by rw [dedent, lines_dedent]
    _ = (lines body).flatMap fun line => dropIndent second.length (dropIndent first.length line) := by
        rw [flatMap_filter_nonempty (dropIndent_nil _), List.flatMap_map]
    _ = dedent (first ++ second) body := by
        simp only [dropIndent_dropIndent, dedent, List.length_append]

/-- Lines that keep their line feeds make up a text that keeps them. -/
theorem lineFeeds_flatMap_lines {f : Text → Text} (keeps : ∀ line, lineFeeds (f line) = lineFeeds line)
    (text : Text) : lineFeeds ((lines text).flatMap f) = lineFeeds text := by
  have each : ∀ ls : List Text, lineFeeds (ls.flatMap f) = lineFeeds ls.flatten := by
    intro ls
    induction ls with
    | nil => rfl
    | cons line rest ih =>
      have first := keeps line
      unfold lineFeeds at first ih ⊢
      rw [List.flatMap_cons, List.flatten_cons, List.count_append, List.count_append, first, ih]
  rw [each, lines_flatten]

/-! ## Indenting -/

/-- The lines of an indented text are its lines, those that are not blank behind the indentation. -/
theorem lines_indent (text : Text) (clean : '\n' ∉ indentation) :
    lines (indent indentation text) =
      (lines text).map fun line => if allBlank line then line else indentation ++ line := by
  have isLines := isLines_lines text
  have indented : IsLines ((lines text).map fun line =>
      if allBlank line then line else indentation ++ line) := by
    refine ⟨fun line mem => ?_, fun line mem => ?_, fun line mem => ?_⟩
    · obtain ⟨under, listed, rfl⟩ := List.mem_map.mp mem
      have nonempty := isLines.nonempty under listed
      split <;> simp [nonempty]
    · obtain ⟨under, listed, rfl⟩ := List.mem_map.mp mem
      have inner := isLines.inner under listed
      split
      · exact inner
      · rw [List.dropLast_append_of_ne_nil (isLines.nonempty under listed), List.mem_append]
        exact not_or.mpr ⟨clean, inner⟩
    · rw [← List.map_dropLast] at mem
      obtain ⟨under, listed, rfl⟩ := List.mem_map.mp mem
      have ended := isLines.ended under listed
      have nonempty := isLines.nonempty under (List.dropLast_subset _ listed)
      split
      · exact ended
      · intro c found
        rw [List.getLast?_append_of_ne_nil _ nonempty] at found
        exact ended c found
  have whole := indented.lines_flatten
  rwa [← List.flatMap_def] at whole

/-- Indentation has no line feeds, so a line keeps its own when it is indented. -/
theorem lineFeeds_indent (text : Text) (clean : '\n' ∉ indentation) :
    lineFeeds (indent indentation text) = lineFeeds text := by
  refine lineFeeds_flatMap_lines (fun line => ?_) text
  unfold lineFeeds
  split
  · rfl
  · rw [List.count_append, List.count_eq_zero_of_not_mem clean, Nat.zero_add]

/-! ## Dedenting what was indented -/

/-- Pieces that are replaced by ends of themselves make up the same whole only if each is the same. -/
theorem flatMap_eq_flatten {f : Text → Text} (ends : ∀ line, f line <:+ line) :
    ls.flatMap f = ls.flatten ↔ ∀ line ∈ ls, f line = line := by
  have shorter : ∀ ls : List Text, (ls.flatMap f).length ≤ ls.flatten.length := by
    intro ls
    induction ls with
    | nil => simp
    | cons line rest ih =>
      have first := (ends line).length_le
      rw [List.flatMap_cons, List.flatten_cons, List.length_append, List.length_append]
      omega
  induction ls with
  | nil => simp
  | cons line rest ih =>
    rw [List.flatMap_cons, List.flatten_cons, List.forall_mem_cons]
    constructor
    · intro same
      have lengths := congrArg List.length same
      rw [List.length_append, List.length_append] at lengths
      have first := (ends line).length_le
      have others := shorter rest
      have kept : f line = line := (ends line).eq_of_length (by omega)
      rw [kept] at same
      exact ⟨kept, ih.mp (List.append_cancel_left same)⟩
    · rintro ⟨kept, others⟩
      rw [kept, ih.mpr others]

/-- What was indented is dedented to what it was, unless a blank line, which was not indented, begins with a
space or a tab. -/
theorem dedent_indent_eq_self (indents : ∀ c ∈ indentation, isIndent c = true) (text : Text) :
    dedent indentation (indent indentation text) = text ↔
      indentation = [] ∨ ∀ line ∈ lines text, allBlank line = true → ∀ c ∈ line.head?, isIndent c = false := by
  have plain : '\n' ∉ indentation := fun mem => absurd (indents _ mem) (by decide)
  let back : Text → Text := fun line => if allBlank line then dropIndent indentation.length line else line
  have back_eq (line : Text) : dropIndent indentation.length
      (if allBlank line then line else indentation ++ line) = back line := by
    unfold back
    split
    · rfl
    · exact dropIndent_append indents line
  have ends (line : Text) : back line <:+ line := by
    unfold back
    split
    · exact dropIndent_suffix _ line
    · exact List.suffix_refl line
  have kept (line : Text) : back line = line ↔
      indentation = [] ∨ (allBlank line = true → ∀ c ∈ line.head?, isIndent c = false) := by
    unfold back
    split
    · rename_i blank
      rw [dropIndent_eq_self, List.length_eq_zero_iff]
      simp [blank]
    · rename_i marked
      simp [marked]
  calc dedent indentation (indent indentation text) = text
      ↔ (lines text).flatMap back = (lines text).flatten := by
        rw [dedent, lines_indent text plain, List.flatMap_map, lines_flatten]
        simp only [back_eq]
    _ ↔ ∀ line ∈ lines text, back line = line := flatMap_eq_flatten ends
    _ ↔ _ := by
        simp only [kept]
        by_cases none : indentation = []
        · simp [none]
        · simp [none]

/-! ## Indenting and dedenting -/

/-- Dedenting takes from each line as many spaces and tabs as the indentation has characters, or all at its
start if they are fewer, and never a line feed; so it adds up. Indenting keeps the line feeds as well and puts
the indentation in front of all lines that are not blank, and dedenting undoes it for exactly the texts in
which no blank line begins with a space or a tab. -/
theorem dedent_fits_indent (first second body text : Text) (indents : ∀ c ∈ first, isIndent c = true) :
    (dedent first body = (lines body).flatMap fun line =>
        line.drop (min first.length (line.takeWhile isIndent).length)) ∧
      (∀ line : Text, '\n' ∉ line.take (min first.length (line.takeWhile isIndent).length)) ∧
      lineFeeds (dedent first body) = lineFeeds body ∧
      dedent second (dedent first body) = dedent (first ++ second) body ∧
      lineFeeds (indent first text) = lineFeeds text ∧
      (∀ line ∈ lines (indent first text), allBlank line = false → first <+: line) ∧
      (dedent first (indent first text) = text ↔
        first = [] ∨ ∀ line ∈ lines text, allBlank line = true → ∀ c ∈ line.head?, isIndent c = false) := by
  have plain : '\n' ∉ first := fun mem => absurd (indents _ mem) (by decide)
  refine ⟨?_, fun line mem => ?_, ?_, dedent_dedent first second body, ?_, fun line mem marked => ?_,
    dedent_indent_eq_self indents text⟩
  · exact congrArg ((lines body).flatMap ·) (funext (dropIndent_eq_drop first.length))
  · exact absurd (isIndent_of_mem_take _ line '\n' mem) (by decide)
  · exact lineFeeds_flatMap_lines (lineFeeds_dropIndent first.length) body
  · exact lineFeeds_indent text plain
  · rw [lines_indent text plain] at mem
    obtain ⟨before, -, rfl⟩ := List.mem_map.mp mem
    split at marked
    · rename_i blank
      exact absurd (blank.symm.trans marked) (by simp)
    · rename_i visible
      rw [if_neg visible]
      exact List.prefix_append first before

/-- Two lines with a blank one between them, the last with a tab of its own and without a line feed. -/
def paragraphs : Text := "a\n\n\tb".toList

/-- Two paragraphs are indented and dedented, with a blank line between them. -/
theorem paragraphs_indented :
    (∀ c ∈ [' ', '\t'], isIndent c = true) ∧
      indent [' ', '\t'] paragraphs = " \ta\n\n \t\tb".toList ∧
      dedent [' ', '\t'] (indent [' ', '\t'] paragraphs) = paragraphs ∧
      dedent ['\t'] (dedent [' ', '\t'] " \t\tb".toList) = ['b'] ∧
      dedent [' ', '\t'] (indent [' ', '\t'] "a\n \n".toList) ≠ "a\n \n".toList := by
  have indents : ∀ c ∈ [' ', '\t'], isIndent c = true := List.all_eq_true.mp rfl
  have cut : lines paragraphs = ["a\n".toList, ['\n'], "\tb".toList] := by decide
  have unmarked : ∀ line ∈ lines paragraphs, allBlank line = true →
      ∀ c ∈ line.head?, isIndent c = false := by
    intro line mem blank c first
    rw [cut] at mem
    simp only [List.mem_cons, List.not_mem_nil, or_false] at mem
    rcases mem with rfl | rfl | rfl
    · exact absurd blank (by decide)
    · obtain rfl : '\n' = c := Option.some.inj first
      rfl
    · exact absurd blank (by decide)
  obtain ⟨-, -, -, -, -, -, undone⟩ := dedent_fits_indent [' ', '\t'] [] [] paragraphs indents
  obtain ⟨-, -, -, twice, -, -, lost⟩ :=
    dedent_fits_indent [' ', '\t'] ['\t'] " \t\tb".toList "a\n \n".toList indents
  refine ⟨indents, by decide, undone.mpr (.inr unmarked), twice.trans (by decide), fun same => ?_⟩
  rcases lost.mp same with empty | clean
  · exact absurd empty (by decide)
  · exact absurd (clean [' ', '\n'] (by decide) (by decide) ' ' rfl) (by decide)

end TypstFences.Text
