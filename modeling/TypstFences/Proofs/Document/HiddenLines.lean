import Mathlib.Data.List.Forall2
import TypstFences.HiddenLines
import TypstFences.Proofs.Text.Numbered

/-!
# Hidden lines, line by line

A line is hidden if the marker stands behind its leading blanks (`Marked`). The views of a block are made of
its lines one by one: the hidden ones are not shown, and typeset they lose their marker and one space behind
it (`TypesetAs`). The marker has no line feed, so no line loses its ending, and as many lines are typeset as
the block has (`views_line_by_line`).
-/

set_option autoImplicit false

namespace TypstFences.HiddenLines

variable {marker line : Text}

/-- Whether a line consists of blanks, the marker and a rest, with no blank in front of the marker left out
of the blanks. -/
structure Marked (marker line blanks rest : Text) : Prop where
  line_eq : line = blanks ++ marker ++ rest
  blanks_eq : line.takeWhile Text.isBlank = blanks

/-- What a line is typeset as. -/
inductive TypesetAs (marker line : Text) : Text → Prop
  | shown (plain : ¬ ∃ blanks rest, Marked marker line blanks rest) : TypesetAs marker line line
  | spaced {blanks rest : Text} (marked : Marked marker line blanks (' ' :: rest)) :
      TypesetAs marker line (blanks ++ rest)
  | bare {blanks rest : Text} (marked : Marked marker line blanks rest)
      (noSpace : rest.head? ≠ some ' ') : TypesetAs marker line (blanks ++ rest)

/-- A line as it is typeset. -/
def compiledLine (marker line : Text) : Text :=
  if isHidden marker line then unmark marker line else line

/-! ## One line -/

/-- A marked line begins with the marker behind its blanks. -/
theorem Marked.trimStart_eq {blanks rest : Text} (h : Marked marker line blanks rest) :
    Text.trimStart line = marker ++ rest := by
  have parts : line.takeWhile Text.isBlank ++ Text.trimStart line = line := List.takeWhile_append_dropWhile
  have whole := h.line_eq
  rw [h.blanks_eq] at parts
  rw [List.append_assoc] at whole
  exact List.append_cancel_left (parts.trans whole)

/-- The marker of a marked line is cut out, with a space behind it. -/
theorem Marked.unmark_eq {blanks rest : Text} (h : Marked marker line blanks rest) :
    unmark marker line = blanks ++ dropSpace rest := by
  rw [unmark, h.blanks_eq, h.trimStart_eq, List.drop_left]

/-- The lines with a marker are hidden. -/
theorem isHidden_iff (nonempty : marker ≠ []) :
    isHidden marker line = true ↔ ∃ blanks rest, Marked marker line blanks rest := by
  constructor
  · intro hidden
    obtain ⟨-, begins⟩ := Bool.and_eq_true_iff.mp hidden
    obtain ⟨rest, shape⟩ := List.isPrefixOf_iff_prefix.mp begins
    refine ⟨_, rest, ?_, rfl⟩
    rw [List.append_assoc, shape]
    exact List.takeWhile_append_dropWhile.symm
  · rintro ⟨blanks, rest, marked⟩
    rw [isHidden, marked.trimStart_eq]
    simp [nonempty]

/-- Nothing is dropped where no space is in front. -/
theorem dropSpace_of_head? {text : Text} (noSpace : text.head? ≠ some ' ') : dropSpace text = text := by
  unfold dropSpace
  split
  · exact absurd rfl noSpace
  · rfl

/-- A line is typeset as it stands in the compiled view. -/
theorem typesetAs_compiledLine (nonempty : marker ≠ []) (line : Text) :
    TypesetAs marker line (compiledLine marker line) := by
  unfold compiledLine
  by_cases hidden : isHidden marker line = true
  · obtain ⟨blanks, rest, marked⟩ := (isHidden_iff nonempty).mp hidden
    rw [if_pos hidden, marked.unmark_eq]
    by_cases space : rest.head? = some ' '
    · obtain ⟨more, rfl⟩ := List.head?_eq_some_iff.mp space
      exact .spaced marked
    · rw [dropSpace_of_head? space]
      exact .bare marked space
  · rw [if_neg hidden]
    exact .shown fun marked => hidden ((isHidden_iff nonempty).mpr marked)

/-- A typeset line has no character that the line has not. -/
theorem compiledLine_subset (marker line : Text) : compiledLine marker line ⊆ line := by
  unfold compiledLine
  split
  · have trimmed : Text.trimStart line ⊆ line := (List.dropWhile_suffix Text.isBlank).subset
    have spaced (text : Text) : dropSpace text ⊆ text := by
      unfold dropSpace
      split
      · exact List.subset_cons_self _ _
      · exact List.Subset.refl _
    refine List.append_subset.mpr ⟨(List.takeWhile_prefix Text.isBlank).subset, ?_⟩
    exact List.Subset.trans (List.Subset.trans (spaced _) (List.drop_subset _ _)) trimmed
  · exact List.Subset.refl _

/-! ## The ending of a line -/

section Ending

variable {ending : Text}

/-- A marker with no character of an ending is found in front of it or not at all. -/
theorem isPrefixOf_append_ending (clean : ∀ c ∈ ending, c ∉ marker) :
    marker.isPrefixOf (line ++ ending) = marker.isPrefixOf line := by
  rw [Bool.eq_iff_iff, List.isPrefixOf_iff_prefix, List.isPrefixOf_iff_prefix]
  constructor
  · intro found
    rcases List.prefix_or_prefix_of_prefix found (List.prefix_append line ending) with inside | longer
    · exact inside
    · obtain ⟨more, rfl⟩ := longer
      have begins : more <+: ending := (List.prefix_append_right_inj line).mp found
      cases more with
      | nil => simp
      | cons c more => exact absurd (by simp) (clean c (begins.subset List.mem_cons_self))
  · exact fun inside => inside.trans (List.prefix_append line ending)

/-- No ending hides a line. -/
theorem isHidden_append_lineEnd (h : Text.LineEnd ending) (clean : ∀ c ∈ ending, c ∉ marker) :
    isHidden marker (line ++ ending) = isHidden marker line := by
  unfold isHidden
  by_cases empty : marker = []
  · simp [empty]
  · by_cases blank : Text.trimStart line = []
    · -- then both lines are blank, and the marker is not
      have whole : Text.trimStart (line ++ ending) = [] := by
        refine List.dropWhile_eq_nil_iff.mpr fun c mem => ?_
        rcases List.mem_append.mp mem with inside | last
        · exact List.dropWhile_eq_nil_iff.mp blank c inside
        · exact h.blank c last
      rw [blank, whole]
    · rw [(Text.trimStart_append_lineEnd blank ending).1, isPrefixOf_append_ending clean]

/-- A line is typeset alike with every ending. -/
theorem compiledLine_append_lineEnd (h : Text.LineEnd ending) (clean : ∀ c ∈ ending, c ∉ marker) :
    compiledLine marker (line ++ ending) = compiledLine marker line ++ ending := by
  unfold compiledLine
  rw [isHidden_append_lineEnd h clean]
  split
  · rename_i hidden
    obtain ⟨nonempty, begins⟩ := Bool.and_eq_true_iff.mp hidden
    obtain ⟨rest, shape⟩ := List.isPrefixOf_iff_prefix.mp begins
    have notBlank : Text.trimStart line ≠ [] := by
      intro blank
      rw [blank, List.append_eq_nil_iff] at shape
      simp [shape.1] at nonempty
    obtain ⟨trimmed, taken⟩ := Text.trimStart_append_lineEnd notBlank ending
    have spaced : dropSpace (rest ++ ending) = dropSpace rest ++ ending := by
      cases rest with
      | nil => exact dropSpace_of_head? (h.head_ne ⟨by decide, by decide⟩)
      | cons c rest =>
        by_cases space : c = ' '
        · subst space
          rfl
        · simp [dropSpace, space]
    rw [unmark, unmark, trimmed, taken, ← shape, List.append_assoc, List.drop_left, List.drop_left,
      spaced, List.append_assoc]
  · rfl

end Ending

/-- A typeset line ends with a line feed if the line does, and has no other. -/
theorem compiledLine_feeds (clean : '\n' ∉ marker) (inner : '\n' ∉ line.dropLast) :
    ((compiledLine marker line).getLast? = some '\n' ↔ line.getLast? = some '\n') ∧
      Text.lineFeeds (compiledLine marker line) = Text.lineFeeds line := by
  obtain ⟨part, ending, rfl, plain, h⟩ := Text.exists_ending inner
  have plain' : '\n' ∉ compiledLine marker part := fun mem => plain (compiledLine_subset marker part mem)
  unfold Text.lineFeeds
  rcases h with rfl | rfl
  · rw [List.append_nil, List.count_eq_zero_of_not_mem plain', List.count_eq_zero_of_not_mem plain]
    have last : part.getLast? ≠ some '\n' := fun ends => plain (List.mem_of_getLast? ends)
    have last' : (compiledLine marker part).getLast? ≠ some '\n' := fun ends =>
      plain' (List.mem_of_getLast? ends)
    exact ⟨⟨fun ends => absurd ends last', fun ends => absurd ends last⟩, rfl⟩
  · have feed : Text.LineEnd ['\n'] := Text.lineEnd_of_cases (.inr rfl)
    rw [compiledLine_append_lineEnd feed (by simpa using clean), List.count_append, List.count_append,
      List.count_eq_zero_of_not_mem plain', List.count_eq_zero_of_not_mem plain]
    simp

/-! ## All lines -/

/-- The compiled view is made line by line. -/
theorem compiled_eq (marker body : Text) :
    (views marker body).compiled = ((Text.lines body).map (compiledLine marker)).flatten := by
  rw [← List.flatMap_def]
  rfl

/-- The compiled view of ended lines is made of ended lines. -/
theorem compiled_ended {parts : List Text} (plain : ∀ part ∈ parts, '\n' ∉ part)
    (clean : '\n' ∉ marker) :
    (views marker (Text.ended parts)).compiled = Text.ended (parts.map (compiledLine marker)) := by
  have feed : Text.LineEnd ['\n'] := Text.lineEnd_of_cases (.inr rfl)
  rw [compiled_eq, Text.lines_ended plain, Text.ended, List.map_map, ← List.flatMap_def, List.flatMap_map]
  exact congrArg (parts.flatMap ·) (funext fun part =>
    compiledLine_append_lineEnd feed (by simpa using clean))

/-- What is shown are the lines that are not hidden. -/
theorem display_eq (marker body : Text) :
    (views marker body).display =
      ((Text.lines body).filter fun line => !isHidden marker line).flatten := by
  have shown : ∀ ls : List Text, ls.flatMap (fun line => if isHidden marker line then [] else line) =
      (ls.filter fun line => !isHidden marker line).flatten := by
    intro ls
    induction ls with
    | nil => rfl
    | cons line ls ih =>
      rw [List.flatMap_cons, ih, List.filter_cons]
      cases isHidden marker line <;> simp
  exact shown (Text.lines body)

/-- The lines of the displayed view are those that are not hidden. -/
theorem lines_display (marker body : Text) :
    Text.lines (views marker body).display =
      (Text.lines body).filter fun line => !isHidden marker line := by
  have isLines : Text.IsLines ((Text.lines body).filter fun line => !isHidden marker line) :=
    (Text.isLines_lines body).sublist List.filter_sublist
  rw [display_eq, isLines.lines_flatten]

/-- What is shown has no hidden lines. -/
theorem display_display (marker body : Text) :
    (views marker (views marker body).display).display = (views marker body).display := by
  rw [display_eq, lines_display, List.filter_filter, display_eq]
  simp

/-- What is shown is typeset as it is. -/
theorem compiled_display (marker body : Text) :
    (views marker (views marker body).display).compiled = (views marker body).display := by
  have same : ∀ line ∈ (Text.lines body).filter (fun line => !isHidden marker line),
      compiledLine marker line = line := by
    intro line mem
    have seen : isHidden marker line = false := by simpa using (List.mem_filter.mp mem).2
    rw [compiledLine, if_neg (by simp [seen])]
  rw [compiled_eq, lines_display, List.map_congr_left same, List.map_id', ← display_eq]

/-- Typesetting keeps the line feeds. -/
theorem lineFeeds_compiled (clean : '\n' ∉ marker) (body : Text) :
    Text.lineFeeds (views marker body).compiled = Text.lineFeeds body := by
  have each : ∀ line ∈ Text.lines body,
      Text.lineFeeds (compiledLine marker line) = Text.lineFeeds line := fun line mem =>
    (compiledLine_feeds clean ((Text.isLines_lines body).inner line mem)).2
  have counted : ∀ ls : List Text, Text.lineFeeds ls.flatten = (ls.map Text.lineFeeds).sum :=
    fun ls => List.count_flatten
  conv_rhs => rw [← Text.lines_flatten body, counted]
  rw [compiled_eq, counted, List.map_map]
  exact congrArg List.sum (List.map_congr_left each)

/-- The views of a block that is cut where a line ends are those of both parts. -/
theorem views_append {first : Text} (second : Text) (ends : Text.EndsLine first) :
    views marker (first ++ second) =
      ⟨(views marker first).compiled ++ (views marker second).compiled,
        (views marker first).display ++ (views marker second).display⟩ := by
  simp only [views, Text.lines_append second ends, List.flatMap_append]

/-- With a marker that is not empty and has no line feed, the lines that have it behind their leading blanks
are hidden. The others are shown, and all are typeset, each as it should be and with its line feed. Lines
that are hidden make no difference to what is shown, what is shown stays the same in both views, and the
views of a block that is cut behind a line feed are those of both parts. -/
theorem views_line_by_line (marker : Text) (nonempty : marker ≠ []) (clean : '\n' ∉ marker) (body : Text) :
    (∀ line, isHidden marker line = true ↔ ∃ blanks rest, Marked marker line blanks rest) ∧
    (views marker body).display =
      ((Text.lines body).filter fun line => !isHidden marker line).flatten ∧
    (∃ parts : List Text, (views marker body).compiled = parts.flatten ∧
      List.Forall₂ (fun line part => TypesetAs marker line part ∧
        (part.getLast? = some '\n' ↔ line.getLast? = some '\n')) (Text.lines body) parts) ∧
    Text.lineFeeds (views marker body).compiled = Text.lineFeeds body ∧
    (∀ other, ((Text.lines other).filter fun line => !isHidden marker line) =
        ((Text.lines body).filter fun line => !isHidden marker line) →
      (views marker other).display = (views marker body).display) ∧
    views marker (views marker body).display =
      ⟨(views marker body).display, (views marker body).display⟩ ∧
    ∀ first second, body = first ++ second → first.getLast? = some '\n' →
      views marker body =
        ⟨(views marker first).compiled ++ (views marker second).compiled,
          (views marker first).display ++ (views marker second).display⟩ := by
  refine ⟨fun line => isHidden_iff nonempty, display_eq marker body, ?_, lineFeeds_compiled clean body, ?_,
    ?_, ?_⟩
  · refine ⟨_, compiled_eq marker body, ?_⟩
    rw [List.forall₂_map_right_iff, List.forall₂_same]
    intro line mem
    have inner : '\n' ∉ line.dropLast := (Text.isLines_lines body).inner line mem
    exact ⟨typesetAs_compiledLine nonempty line, (compiledLine_feeds clean inner).1⟩
  · intro other same
    rw [display_eq, same, ← display_eq]
  · exact congrArg₂ Views.mk (compiled_display marker body) (display_display marker body)
  · rintro first second rfl feed
    have ends : Text.EndsLine first := by
      intro c last
      rw [feed] at last
      exact (Option.some.inj last).symm
    exact views_append second ends

/-- Hidden lines with and without an indentation, a blank line, a line with the marker inside, and a hidden
line without a line feed at the end. -/
def mixedLines : Text := "% a\r\n \t\n  %%b\nd % e\n\t%  c".toList

/-- The views of some lines, marked ones and others. -/
theorem mixedLines_views :
    (views ['%'] mixedLines).display = " \t\nd % e\n".toList ∧
    Text.lineFeeds (views ['%'] mixedLines).compiled = 4 ∧
    (∃ blanks rest, Marked ['%'] "\t%  c".toList blanks rest) ∧
    (¬ ∃ blanks rest, Marked ['%'] "d % e\n".toList blanks rest) ∧
    (views ['%'] mixedLines).compiled =
      (views ['%'] "% a\r\n \t\n".toList).compiled ++ "  %b\nd % e\n\t c".toList := by
  obtain ⟨marked, shown, -, feeds, -, -, cut⟩ :=
    views_line_by_line ['%'] (by decide) (by decide) mixedLines
  refine ⟨?_, ?_, (marked _).mp (by decide), fun has => ?_, ?_⟩
  · rw [shown]
    decide
  · rw [feeds]
    decide
  · exact absurd ((marked _).mpr has) (by decide)
  · rw [cut "% a\r\n \t\n".toList "  %%b\nd % e\n\t%  c".toList (by decide) (by decide)]
    decide

end TypstFences.HiddenLines
