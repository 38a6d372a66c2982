import TypstFences.Proofs.Document.Grammar
import TypstFences.Proofs.Text.Indentation
import TypstFences.Proofs.Text.Numbered

/-!
# Ordinary lines

A line that opens no fence stays one that opens none under more indentation (`ofLine?_indented`), and
with something behind it that begins neither with a backtick nor with an indentation
(`ofLine?_extended`). So texts of ordinary lines can be framed (`Text.Ordinary.framed`), can be
indented (`Text.Ordinary.indent`), and can follow each other (`Text.Ordinary.append`).
-/

set_option autoImplicit false

namespace TypstFences

/-! ## Lines that open a fence -/

namespace Opening

variable {line indent back : Text}

/-- The content of a line keeps all up to a backtick in it. -/
theorem lineContent_append (before after : Text) :
    ∃ rest, lineContent (before ++ backtick :: after) = before ++ backtick :: rest ∧ rest <+: after := by
  have cut : lineContent (before ++ backtick :: after) =
      ((after.reverse ++ (before ++ [backtick]).reverse).dropWhile
        fun c => c == '\r' || c == '\n').reverse := by
    simp [lineContent, Text.dropEndWhile]
  -- nothing in front of the backtick is cut off
  have kept : ((before ++ [backtick]).reverse).dropWhile (fun c => c == '\r' || c == '\n') =
      (before ++ [backtick]).reverse := by
    rw [List.reverse_append]
    exact List.dropWhile_cons_of_neg (by decide)
  rw [cut, List.dropWhile_append, kept]
  split
  · exact ⟨[], by simp, List.nil_prefix⟩
  · refine ⟨Text.dropEndWhile (fun c => c == '\r' || c == '\n') after, by simp [Text.dropEndWhile], ?_⟩
    exact List.rdropWhile_prefix _ after

/-- A text begins with its leading backticks. -/
theorem replicate_leadingRun (text : Text) :
    List.replicate (Text.leadingRun [backtick] text) backtick ++
      text.drop (Text.leadingRun [backtick] text) = text := by
  have run : text.takeWhile (fun c => [c] == [backtick]) =
      List.replicate (Text.leadingRun [backtick] text) backtick :=
    List.eq_replicate_iff.mpr ⟨rfl, fun c mem => by simpa using List.mem_takeWhile_imp mem⟩
  have cut : (text.takeWhile (fun c => [c] == [backtick]) ++
      text.dropWhile fun c => [c] == [backtick]).drop (Text.leadingRun [backtick] text) =
        text.dropWhile fun c => [c] == [backtick] := List.drop_left
  rw [List.takeWhile_append_dropWhile] at cut
  rw [cut, ← run, List.takeWhile_append_dropWhile]

/-- A run of backticks in front of other characters has its length. -/
theorem leadingRun_replicate (n : Nat) {rest : Text} (plain : backtick ∉ rest) :
    Text.leadingRun [backtick] (List.replicate n backtick ++ rest) = n := by
  have stop : rest.takeWhile (fun c => [c] == [backtick]) = [] := by
    cases rest with
    | nil => rfl
    | cons c rest =>
      refine List.takeWhile_cons_of_neg fun same => plain ?_
      rw [show c = backtick by simpa using same]
      exact List.mem_cons_self
  unfold Text.leadingRun
  rw [List.takeWhile_append_of_pos fun c mem => by simp [List.eq_of_mem_replicate mem], stop]
  simp

/-- A line that opens a fence is an indentation, backticks, and a rest without any. -/
theorem shape_of_ofLine? (opens : ofLine? line ≠ none) :
    ∃ indent n rest, line = indent ++ List.replicate n backtick ++ rest ∧
      (∀ c ∈ indent, Text.isIndent c = true) ∧ leastFence ≤ n ∧ backtick ∉ rest := by
  unfold ofLine? at opens
  simp only at opens
  split at opens
  · exact absurd rfl opens
  · rename_i enough
    obtain ⟨long, plain⟩ := not_or.mp enough
    let marked := (lineContent line).dropWhile Text.isIndent
    have content_eq : (lineContent line).takeWhile Text.isIndent ++ marked = lineContent line :=
      List.takeWhile_append_dropWhile
    let ending := line.rtakeWhile fun c => c == '\r' || c == '\n'
    have line_eq : lineContent line ++ ending = line := List.rdropWhile_append_rtakeWhile
    refine ⟨(lineContent line).takeWhile Text.isIndent, Text.leadingRun [backtick] marked,
      marked.drop (Text.leadingRun [backtick] marked) ++ ending, ?_, fun c => List.mem_takeWhile_imp,
      Nat.le_of_not_lt long, fun mem => ?_⟩
    · rw [List.append_assoc, ← List.append_assoc _ _ ending, replicate_leadingRun,
        ← List.append_assoc, content_eq, line_eq]
    · rcases List.mem_append.mp mem with mem | mem
      · exact plain mem
      · exact absurd (List.mem_rtakeWhile_imp mem) (by decide)

/-- A line of this shape opens a fence. -/
theorem ofLine?_of_shape {n : Nat} {rest : Text} (indents : ∀ c ∈ indent, Text.isIndent c = true)
    (enough : leastFence ≤ n) (plain : backtick ∉ rest) :
    ofLine? (indent ++ List.replicate n backtick ++ rest) ≠ none := by
  obtain ⟨n, rfl⟩ : ∃ m, n = m + 1 := ⟨n - 1, by unfold leastFence at enough; omega⟩
  have shape (rest : Text) : indent ++ List.replicate n backtick ++ backtick :: rest =
      indent ++ (List.replicate (n + 1) backtick ++ rest) := by
    rw [List.replicate_succ']
    simp
  obtain ⟨kept, content_eq, within⟩ := lineContent_append (indent ++ List.replicate n backtick) rest
  rw [shape, shape, ← List.append_assoc] at content_eq
  have clean : backtick ∉ kept := fun mem => plain (within.subset mem)
  have marked : (indent ++ (List.replicate (n + 1) backtick ++ kept)).dropWhile Text.isIndent =
      List.replicate (n + 1) backtick ++ kept := by
    rw [List.dropWhile_append_of_pos indents]
    exact List.dropWhile_cons_of_neg (by decide)
  unfold ofLine?
  simp only [content_eq, marked, leadingRun_replicate _ clean, List.drop_left' List.length_replicate]
  rw [if_neg (not_or.mpr ⟨Nat.not_lt.mpr enough, clean⟩)]
  simp

/-- A line opens a fence if and only if it is an indentation, at least three backticks, and a rest
without any. -/
theorem ofLine?_ne_none :
    ofLine? line ≠ none ↔ ∃ indent n rest, line = indent ++ List.replicate n backtick ++ rest ∧
      (∀ c ∈ indent, Text.isIndent c = true) ∧ leastFence ≤ n ∧ backtick ∉ rest := by
  constructor
  · exact shape_of_ofLine?
  · rintro ⟨indent, n, rest, rfl, indents, enough, plain⟩
    exact ofLine?_of_shape indents enough plain

/-- Whether a text begins neither with an indentation nor with a backtick. -/
def Blunt (text : Text) : Prop := ∃ c, text.head? = some c ∧ Text.isIndent c = false ∧ c ≠ backtick

/-- A blunt line opens no fence. -/
theorem ofLine?_blunt (h : Blunt line) : ofLine? line = none := by
  obtain ⟨c, first, dense, other⟩ := h
  by_contra opens
  obtain ⟨indent, n, rest, rfl, indents, enough, -⟩ := ofLine?_ne_none.mp opens
  cases indent with
  | nil =>
    obtain ⟨n, rfl⟩ : ∃ m, n = m + 1 := ⟨n - 1, by unfold leastFence at enough; omega⟩
    exact other (Option.some.inj first).symm
  | cons d indent =>
    obtain rfl : d = c := Option.some.inj first
    exact absurd (indents d List.mem_cons_self) (by simp [dense])

/-- A line that opens nothing opens nothing with a longer indentation. -/
theorem ofLine?_indented (plain : ofLine? line = none) (indents : ∀ c ∈ indent, Text.isIndent c = true) :
    ofLine? (indent ++ line) = none := by
  by_contra opens
  obtain ⟨before, n, rest, split, indents', enough, clean⟩ := ofLine?_ne_none.mp opens
  rw [List.append_assoc] at split
  refine absurd plain (ofLine?_ne_none.mpr ?_)
  rcases List.append_eq_append_iff.mp split with ⟨more, rfl, line_eq⟩ | ⟨more, rfl, run_eq⟩
  · refine ⟨more, n, rest, by rw [line_eq, List.append_assoc], fun c mem => ?_, enough, clean⟩
    exact indents' c (List.mem_append_right _ mem)
  · cases more with
    | nil => exact ⟨[], n, rest, by simpa using run_eq.symm, by simp, enough, clean⟩
    | cons d more =>
      -- the run would begin within the indentation
      obtain ⟨n, rfl⟩ : ∃ m, n = m + 1 := ⟨n - 1, by unfold leastFence at enough; omega⟩
      rw [List.replicate_succ, List.cons_append, List.cons_append] at run_eq
      have indents_d := indents d (by simp)
      rw [← (List.cons.inj run_eq).1] at indents_d
      exact absurd indents_d (by decide)

/-- A line that opens nothing opens nothing with something blunt behind it. -/
theorem ofLine?_extended (plain : ofLine? line = none) (h : Blunt back) :
    ofLine? (line ++ back) = none := by
  obtain ⟨c, first, dense, other⟩ := h
  by_contra opens
  obtain ⟨indent, n, rest, split, indents, enough, clean⟩ := ofLine?_ne_none.mp opens
  refine absurd plain (ofLine?_ne_none.mpr ?_)
  rcases List.append_eq_append_iff.mp split with ⟨more, opening_eq, back_eq⟩ | ⟨more, line_eq, rest_eq⟩
  · cases more with
    | nil => exact ⟨indent, n, [], by simpa using opening_eq.symm, indents, enough, by simp⟩
    | cons d more =>
      -- what stands behind the line would begin within the indentation or the run
      rw [back_eq] at first
      obtain rfl : d = c := Option.some.inj first
      have mem : d ∈ indent ++ List.replicate n backtick := by simp [opening_eq]
      rcases List.mem_append.mp mem with mem | mem
      · exact absurd (indents d mem) (by simp [dense])
      · exact absurd (List.eq_of_mem_replicate mem) other
  · exact ⟨indent, n, more, line_eq, indents, enough, fun mem =>
      clean (rest_eq ▸ List.mem_append_left back mem)⟩

end Opening

/-! ## Texts of ordinary lines -/

namespace Text

variable {text first second front back indentation : Text}

/-- Whether no line of a text opens a fence. -/
def Ordinary (text : Text) : Prop := ∀ line ∈ lines text, Opening.ofLine? line = none

/-- Whether no line of a text opens a fence, but perhaps its first. -/
def OrdinaryBelow (text : Text) : Prop := ∀ line ∈ (lines text).tail, Opening.ofLine? line = none

instance (text : Text) : Decidable (OrdinaryBelow text) :=
  inferInstanceAs (Decidable (∀ line ∈ (lines text).tail, Opening.ofLine? line = none))

/-- Ordinary texts can stand one behind the other, if the first ends where a line does. -/
theorem Ordinary.append (h₁ : Ordinary first) (ends : EndsLine first) (h₂ : Ordinary second) :
    Ordinary (first ++ second) := by
  unfold Ordinary
  rw [lines_append second ends, List.forall_mem_append]
  exact ⟨h₁, h₂⟩

/-- A text without line feeds stands in the first line of what it is put in front of. -/
theorem lines_front (text : Text) (nonempty : front ≠ []) (clean : '\n' ∉ front) :
    lines (front ++ text) = (front ++ (lines text).headD []) :: (lines text).tail := by
  induction front with
  | nil => exact absurd rfl nonempty
  | cons c front ih =>
    obtain ⟨differ, clean⟩ := not_or.mp (mt List.mem_cons.mpr clean)
    rw [List.cons_append, lines_cons _ (Ne.symm differ)]
    cases front with
    | nil => cases found : lines text <;> simp [found]
    | cons d front => rw [ih (by simp) clean]; rfl

/-- What is put behind a text that does not end where a line does stands in its last line. -/
theorem lines_behind (within : ¬EndsLine text) (nonempty : back ≠ []) (inner : '\n' ∉ back.dropLast) :
    ∃ upper last, lines text = upper ++ [last] ∧ lines (text ++ back) = upper ++ [last ++ back] := by
  have some_line : lines text ≠ [] := by
    intro empty
    rw [lines_eq_nil.mp empty] at within
    exact within endsLine_nil
  obtain ⟨upper, last, split⟩ : ∃ upper last, lines text = upper ++ [last] :=
    ⟨_, _, (List.dropLast_concat_getLast some_line).symm⟩
  have isLines := isLines_lines text
  rw [split] at isLines
  have text_eq : text = upper.flatten ++ last := by
    have whole := lines_flatten text
    rw [split] at whole
    simpa using whole.symm
  have last_nonempty : last ≠ [] := isLines.nonempty last (by simp)
  have last_clean : '\n' ∉ last := by
    rw [← List.dropLast_concat_getLast last_nonempty, List.mem_append, List.mem_singleton]
    rintro (mem | same)
    · exact isLines.inner last (by simp) mem
    · refine within fun c found => ?_
      rw [text_eq, List.getLast?_append_of_ne_nil _ last_nonempty,
        List.getLast?_eq_some_getLast last_nonempty] at found
      rw [← Option.some.inj found, same]
  refine ⟨upper, last, split, ?_⟩
  have longer : IsLines (upper ++ [last ++ back]) := by
    refine ⟨fun line mem => ?_, fun line mem => ?_, fun line mem => ?_⟩
    · rcases List.mem_append.mp mem with mem | mem
      · exact isLines.nonempty line (List.mem_append_left _ mem)
      · simp [List.mem_singleton.mp mem, nonempty]
    · rcases List.mem_append.mp mem with mem | mem
      · exact isLines.inner line (List.mem_append_left _ mem)
      · rw [List.mem_singleton.mp mem, List.dropLast_append_of_ne_nil nonempty, List.mem_append]
        exact not_or.mpr ⟨last_clean, inner⟩
    · rw [List.dropLast_concat] at mem
      exact isLines.ended line (by rwa [List.dropLast_concat])
  have whole : text ++ back = (upper ++ [last ++ back]).flatten := by simp [text_eq]
  rw [whole, longer.lines_flatten]

/-- A text of ordinary lines with something blunt behind it, which is one line. -/
theorem Ordinary.extended (h : Ordinary text) (blunt : Opening.Blunt back)
    (inner : '\n' ∉ back.dropLast) : Ordinary (text ++ back) := by
  have nonempty : back ≠ [] := by
    rintro rfl
    obtain ⟨c, none, -⟩ := blunt
    exact absurd none (by simp)
  by_cases ends : EndsLine text
  · have alone : Ordinary back := by
      unfold Ordinary
      rw [lines_singleton nonempty inner, List.forall_mem_singleton]
      exact Opening.ofLine?_blunt blunt
    exact h.append ends alone
  · obtain ⟨upper, last, split, longer⟩ := lines_behind ends nonempty inner
    unfold Ordinary at h ⊢
    rw [split, List.forall_mem_append, List.forall_mem_singleton] at h
    rw [longer, List.forall_mem_append, List.forall_mem_singleton]
    exact ⟨h.1, Opening.ofLine?_extended h.2 blunt⟩

/-- A text between two others that are blunt and have no line feeds opens nothing if no line below
its first does. -/
theorem OrdinaryBelow.framed (h : OrdinaryBelow text) (blunt : Opening.Blunt front)
    (clean : '\n' ∉ front) (blunt' : Opening.Blunt back) (clean' : '\n' ∉ back) :
    Ordinary (front ++ text ++ back) := by
  obtain ⟨c, first, dense, other⟩ := blunt
  have nonempty : front ≠ [] := by
    rintro rfl
    exact absurd first (by simp)
  have below : Ordinary (front ++ text) := by
    unfold Ordinary
    rw [lines_front text nonempty clean, List.forall_mem_cons]
    refine ⟨Opening.ofLine?_blunt ⟨c, ?_, dense, other⟩, h⟩
    rw [List.head?_append_of_ne_nil _ nonempty, first]
  exact below.extended blunt' fun mem => clean' (List.dropLast_subset _ mem)

/-- Ordinary texts stay so when they are indented. -/
theorem Ordinary.indent (h : Ordinary text) (indents : ∀ c ∈ indentation, isIndent c = true) :
    Ordinary (indent indentation text) := by
  have clean : '\n' ∉ indentation := fun mem => absurd (indents _ mem) (by decide)
  unfold Ordinary
  rw [lines_indent text clean]
  intro line mem
  obtain ⟨under, listed, rfl⟩ := List.mem_map.mp mem
  split
  · exact h under listed
  · exact Opening.ofLine?_indented (h under listed) indents

end Text

end TypstFences
