import TypstFences.Text.Basic

/-!
# Parts of a text

The parts between the occurrences of a separator have none in them, and joined with it they give the text
again. Texts without the separator are found again where they were joined (`splitOn_joinWith`), so a text is
put together from such parts in one way only. To cut a text is to find its first part (`cut?_append`).
-/

set_option autoImplicit false

namespace TypstFences.Text

variable {separator : Char} {text : Text}

/-- A text without the separator is one part. -/
theorem splitOn_of_notMem (h : separator ∉ text) : splitOn separator text = [text] := by
  induction text with
  | nil => rfl
  | cons c text ih =>
    rw [List.mem_cons, not_or] at h
    unfold splitOn
    rw [if_neg (Ne.symm h.1), ih h.2]

/-- The part in front of the first separator. -/
theorem splitOn_append (rest : Text) (h : separator ∉ text) :
    splitOn separator (text ++ separator :: rest) = text :: splitOn separator rest := by
  induction text with
  | nil => rw [List.nil_append, splitOn, if_pos rfl]
  | cons c text ih =>
    rw [List.mem_cons, not_or] at h
    rw [List.cons_append, splitOn, if_neg (Ne.symm h.1), ih h.2]

/-- What stands in front of the first separator and what follows it are told by the whole. -/
theorem append_cons_inj {other rest otherRest : Text} (h : separator ∉ text) (h' : separator ∉ other)
    (same : text ++ separator :: rest = other ++ separator :: otherRest) :
    text = other ∧ rest = otherRest := by
  have parts : splitOn separator (text ++ separator :: rest) =
      splitOn separator (other ++ separator :: otherRest) := congrArg _ same
  rw [splitOn_append rest h, splitOn_append otherRest h', List.cons.injEq] at parts
  obtain ⟨rfl, -⟩ := parts
  exact ⟨rfl, (List.cons.inj (List.append_cancel_left same)).2⟩

/-- Joined parts with one part more at the end. -/
theorem joinWith_concat (parts : List Text) (last : Text) :
    joinWith [separator] (parts ++ [last]) = parts.flatMap (· ++ [separator]) ++ last := by
  induction parts with
  | nil => simp [joinWith]
  | cons part parts ih =>
    have more : parts ++ [last] ≠ [] := by simp
    obtain ⟨next, others, eq⟩ := List.exists_cons_of_ne_nil more
    rw [List.cons_append, eq, joinWith, ← eq, ih]
    simp

/-! ## Cutting -/

/-- The texts that are not cut are those without a separator. -/
theorem cut?_eq_none : cut? separator text = none ↔ separator ∉ text := by
  unfold cut?
  split <;> simp_all

/-- A text is cut at the first separator. -/
theorem cut?_append (rest : Text) (h : separator ∉ text) :
    cut? separator (text ++ separator :: rest) = some (text, rest) := by
  have inside : ∀ c ∈ text, (c != separator) = true := by
    intro c mem
    have differ : c ≠ separator := fun same => h (same ▸ mem)
    simpa using differ
  have occurs : separator ∈ text ++ separator :: rest := by simp
  rw [cut?, if_pos occurs, List.takeWhile_append_of_pos inside, List.dropWhile_append_of_pos inside,
    List.takeWhile_cons_of_neg (by simp), List.dropWhile_cons_of_neg (by simp), List.append_nil,
    List.tail_cons]

/-! ## Splitting and joining -/

/-- Parts are joined with a separator behind the first one. -/
theorem joinWith_cons (first : Text) {others : List Text} (more : others ≠ []) :
    joinWith [separator] (first :: others) = first ++ separator :: joinWith [separator] others := by
  obtain ⟨next, rest, rfl⟩ := List.exists_cons_of_ne_nil more
  rw [joinWith, List.append_assoc, List.singleton_append]

/-- Parts without the separator are found again after they were joined. -/
theorem splitOn_joinWith {parts : List Text} (nonempty : parts ≠ [])
    (plain : ∀ part ∈ parts, separator ∉ part) :
    splitOn separator (joinWith [separator] parts) = parts := by
  induction parts with
  | nil => exact absurd rfl nonempty
  | cons part others ih =>
    have first : separator ∉ part := plain part List.mem_cons_self
    by_cases last : others = []
    · subst last
      exact splitOn_of_notMem first
    · rw [joinWith_cons part last, splitOn_append _ first,
        ih last fun other mem => plain other (List.mem_cons_of_mem part mem)]

/-- The parts of a text: none has the separator in it, and joined they give the text. -/
theorem splitOn_parts (separator : Char) (text : Text) :
    splitOn separator text ≠ [] ∧ (∀ part ∈ splitOn separator text, separator ∉ part) ∧
      joinWith [separator] (splitOn separator text) = text := by
  by_cases occurs : separator ∈ text
  · obtain ⟨before, after, whole, plain⟩ := List.eq_append_cons_of_mem occurs
    have shorter : after.length < text.length := by
      rw [whole, List.length_append, List.length_cons]
      omega
    obtain ⟨more, clean, joined⟩ := splitOn_parts separator after
    rw [whole, splitOn_append after plain]
    refine ⟨by simp, ?_, ?_⟩
    · intro part mem
      rcases List.mem_cons.mp mem with rfl | later
      · exact plain
      · exact clean part later
    · rw [joinWith_cons before more, joined]
  · rw [splitOn_of_notMem occurs]
    refine ⟨by simp, ?_, rfl⟩
    intro part mem
    rwa [List.mem_singleton.mp mem]
  termination_by text.length

end TypstFences.Text
