import TypstFences.Proofs.Text.LineEndings
import TypstFences.Proofs.Text.Parts

/-!
# Lines by their numbers

Messages tell lines by their numbers, counted from one (`lineAt?`). Cut at its line feeds, a text has
one line more than line feeds, the last of which may be empty. Lines that end with a line feed each
(`ended`) stay the same lines whatever follows them (`splitOn_ended`), and a text below another and a
line feed has its lines below those of the other (`splitOn_lineFeed`).
-/

set_option autoImplicit false

namespace TypstFences.Text

variable {parts : List Text}

/-- The line with a number, counted from one, without its line feed. What follows the last line feed
is the last line, be it empty. -/
def lineAt? (text : Text) (number : Nat) : Option Text := (splitOn '\n' text)[number - 1]?

/-- The number of lines when what follows the last line feed counts as one. -/
def lineCount (text : Text) : Nat := (splitOn '\n' text).length

/-- Texts one after the other, each with a line feed behind it. -/
def ended (parts : List Text) : Text := parts.flatMap (· ++ ['\n'])

/-- A text has one more line than line feeds, when the last line is counted even if it is empty. -/
theorem lineCount_eq (text : Text) : lineCount text = lineFeeds text + 1 := by
  induction text with
  | nil => rfl
  | cons c rest ih =>
    unfold lineCount lineFeeds at ih ⊢
    by_cases hc : c = '\n'
    · subst hc
      rw [splitOn, if_pos rfl, List.length_cons, ih, List.count_cons_self]
    · rw [splitOn, if_neg hc, List.count_cons_of_ne hc]
      cases found : splitOn '\n' rest with
      | nil => simp [found] at ih
      | cons part others => simpa [found] using ih

/-- A text is split at a line feed between two others. -/
theorem splitOn_lineFeed (first second : Text) :
    splitOn '\n' (first ++ '\n' :: second) = splitOn '\n' first ++ splitOn '\n' second := by
  induction first with
  | nil => rfl
  | cons c first ih =>
    by_cases hc : c = '\n'
    · subst hc
      rw [List.cons_append, splitOn, if_pos rfl, ih, splitOn, if_pos rfl, List.cons_append]
    · rw [List.cons_append, splitOn, if_neg hc, ih, splitOn, if_neg hc]
      cases found : splitOn '\n' first with
      | nil =>
        -- there is at least one part
        have count := lineCount_eq first
        rw [lineCount, found, List.length_nil] at count
        omega
      | cons part others => rfl

/-- Ended lines are split into what they were made of. -/
theorem splitOn_ended (rest : Text) (plain : ∀ part ∈ parts, '\n' ∉ part) :
    splitOn '\n' (ended parts ++ rest) = parts ++ splitOn '\n' rest := by
  induction parts with
  | nil => rfl
  | cons part parts ih =>
    have others := ih fun other mem => plain other (List.mem_cons_of_mem part mem)
    have shape : ended (part :: parts) ++ rest = part ++ '\n' :: (ended parts ++ rest) := by
      simp [ended]
    rw [shape, splitOn_lineFeed, splitOn_of_notMem (plain part List.mem_cons_self), others]
    rfl

/-! ## Lines that end with a line feed -/

/-- Ended lines are the lines of their text. -/
theorem lines_ended (plain : ∀ part ∈ parts, '\n' ∉ part) :
    lines (ended parts) = parts.map (· ++ ['\n']) := by
  have isLines : IsLines (parts.map (· ++ ['\n'])) := by
    refine ⟨?_, ?_, ?_⟩
    · intro line mem
      obtain ⟨part, -, rfl⟩ := List.mem_map.mp mem
      simp
    · intro line mem
      obtain ⟨part, listed, rfl⟩ := List.mem_map.mp mem
      rw [List.dropLast_concat]
      exact plain part listed
    · intro line mem
      obtain ⟨part, -, rfl⟩ := List.mem_map.mp (List.dropLast_subset _ mem)
      simp [EndsLine]
  have whole := isLines.lines_flatten
  rwa [← List.flatMap_def] at whole

/-- Ended lines end where a line does. -/
theorem endsLine_ended (parts : List Text) : EndsLine (ended parts) := by
  induction parts with
  | nil => exact endsLine_nil
  | cons part parts ih =>
    have first : EndsLine (part ++ ['\n']) := by simp [EndsLine]
    exact first.append ih

/-- Lines that are followed by others end with a line feed each. -/
theorem IsLines.exists_parts {ls others : List Text} (h : IsLines (ls ++ others))
    (more : others ≠ []) :
    ∃ parts : List Text, ls = parts.map (· ++ ['\n']) ∧ ∀ part ∈ parts, '\n' ∉ part := by
  refine ⟨ls.map List.dropLast, ?_, ?_⟩
  · rw [List.map_map]
    refine (List.map_id ls).symm.trans (List.map_congr_left fun line mem => ?_)
    have nonempty : line ≠ [] := h.nonempty line (List.mem_append_left _ mem)
    have ends : EndsLine line := by
      apply h.ended line
      obtain ⟨next, rest, rfl⟩ := List.exists_cons_of_ne_nil more
      rw [List.dropLast_append_cons]
      exact List.mem_append_left _ mem
    have last : line.getLast nonempty = '\n' :=
      ends _ (by simp [List.getLast?_eq_some_getLast nonempty])
    have whole := List.dropLast_concat_getLast nonempty
    rw [last] at whole
    exact whole.symm
  · intro part mem
    obtain ⟨line, listed, rfl⟩ := List.mem_map.mp mem
    exact h.inner line (List.mem_append_left _ listed)

/-- Lines with their line feeds are the ended lines. -/
theorem flatten_map_lineFeed (parts : List Text) :
    (parts.map (· ++ ['\n'])).flatten = ended parts := by
  rw [← List.flatMap_def]
  rfl

/-- Lines are still lines when some of them are left out. -/
theorem IsLines.sublist {ls fewer : List Text} (h : IsLines ls) (among : fewer.Sublist ls) :
    IsLines fewer := by
  have upper : fewer.dropLast.reverse.Sublist ls.dropLast.reverse := by
    rw [← List.tail_reverse, ← List.tail_reverse]
    exact among.reverse.tail
  have others : fewer.dropLast.Sublist ls.dropLast := List.reverse_sublist.mp upper
  exact ⟨fun line mem => h.nonempty line (among.subset mem),
    fun line mem => h.inner line (among.subset mem),
    fun line mem => h.ended line (others.subset mem)⟩

/-! ## Indentation -/

/-- A text that ends where a line does still does so when it is indented. -/
theorem EndsLine.indent {text : Text} (ends : EndsLine text) (indentation : Text) :
    EndsLine (Text.indent indentation text) := by
  have isLines : IsLines (lines text ++ [['\n']]) := by
    have whole := isLines_lines (text ++ ['\n'])
    rwa [lines_append _ ends] at whole
  obtain ⟨parts, split, -⟩ := isLines.exists_parts (by simp)
  have indented : Text.indent indentation text = ended (parts.map fun part =>
      if allBlank (part ++ ['\n']) then part else indentation ++ part) := by
    rw [Text.indent, split, ended, List.flatMap_map, List.flatMap_map]
    refine congrArg (parts.flatMap ·) (funext fun part => ?_)
    split <;> simp
  rw [indented]
  exact endsLine_ended _

/-- Ended lines are dedented one by one. -/
theorem dedent_ended (indentation : Text) (plain : ∀ part ∈ parts, '\n' ∉ part) :
    dedent indentation (ended parts) = ended (parts.map (dropIndent indentation.length)) := by
  rw [dedent, lines_ended plain, ended, List.flatMap_map, List.flatMap_map]
  have feed : LineEnd ['\n'] := lineEnd_of_cases (.inr rfl)
  exact congrArg (parts.flatMap ·) (funext (dropIndent_append_lineEnd feed indentation.length))

end TypstFences.Text
