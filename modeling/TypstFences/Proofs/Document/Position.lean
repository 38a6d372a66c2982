import TypstFences.Proofs.Document.Grammar
import TypstFences.Proofs.Text.Numbered

/-!
# Where a fence stands

A fence that is scanned takes up successive lines of the document: its opening line, which has the
number of the fence, the lines of its body, and its closing line (`Stands`, `scan_stands`). So the
lines of the body are told by numbers counted from that of the fence (`Stands.lineAt?_body`).
-/

set_option autoImplicit false

namespace TypstFences

/-- Whether a fence takes up lines of a text: `front` above it, its first line, `body`, its last line
and `back` below it. -/
structure Fence.Stands (source : Text) (fence : Fence) (front body back : List Text) : Prop where
  lines_eq : Text.lines source = front ++ fence.opener :: (body ++ fence.closer :: back)
  line_eq : fence.line = front.length + 1
  body_eq : fence.body = body.flatten
  opens : Opening.ofLine? fence.opener = some fence.opening
  inside : ∀ line ∈ body, closesFence fence.length line = false
  closes : closesFence fence.length fence.closer = true

/-- The blocks in front of that of a fence spell the segments in front of it. -/
theorem Segment.blocks_around {before after : List Segment} {fence : Fence} :
    ∀ {blocks : List (List Text)},
      List.Forall₂ Segment.Spells (before ++ .fence fence :: after) blocks →
      ∃ front block back, blocks.flatten = front ++ block ++ back ∧
        front.flatten = before.flatMap Segment.raw ∧ (Segment.fence fence).Spells block := by
  induction before with
  | nil =>
    intro blocks spells
    cases spells with
    | @cons _ block _ blocks head tail => exact ⟨[], block, blocks.flatten, rfl, rfl, head⟩
  | cons segment before ih =>
    intro blocks spells
    cases spells with
    | @cons _ first _ blocks head tail =>
      obtain ⟨front, block, back, whole, texts, spelled⟩ := ih tail
      refine ⟨first ++ front, block, back, ?_, ?_, spelled⟩
      · rw [List.flatten_cons, whole, List.append_assoc, List.append_assoc, List.append_assoc]
      · rw [List.flatten_append, List.flatMap_cons, texts, head.raw_eq]

/-- A scanned fence takes up lines of the text. -/
theorem scan_stands {source : Text} {fence : Fence} (closed : (scan source).unclosed = none)
    (mem : .fence fence ∈ (scan source).segments) :
    ∃ front body back, Fence.Stands source fence front body back := by
  have grammar : FenceGrammar source (scan source).segments :=
    (scan_eq_iff source _).mp (by rw [← closed])
  obtain ⟨blocks, blocks_eq, spells⟩ := grammar.blocks
  obtain ⟨before, after, split⟩ := List.append_of_mem mem
  rw [split] at spells
  obtain ⟨front, block, back, whole, texts, body, rfl, body_eq, opens, inside, closes⟩ :=
    Segment.blocks_around spells
  have lines_eq : Text.lines source = front ++ fence.opener :: (body ++ fence.closer :: back) := by
    rw [← blocks_eq, whole]
    simp
  have isLines := Text.isLines_lines source
  rw [lines_eq] at isLines
  have number := grammar.numbered before fence after split
  rw [← texts, isLines.lineFeeds_flatten (by simp)] at number
  exact ⟨front, body, back, lines_eq, by omega, body_eq, opens, inside, closes⟩

namespace Fence.Stands

variable {source : Text} {fence : Fence} {front body back : List Text}

/-- The lines from the body of a fence on are lines. -/
theorem isLines_body (h : Stands source fence front body back) :
    Text.IsLines (body ++ fence.closer :: back) := by
  have isLines := Text.isLines_lines source
  rw [h.lines_eq] at isLines
  exact isLines.right.tail

/-- The lines of the body of a fence are those that stand in it. -/
theorem lines_body (h : Stands source fence front body back) : Text.lines fence.body = body := by
  rw [h.body_eq]
  exact h.isLines_body.left.lines_flatten

/-- The closing line has the last number of the fence. -/
theorem lines_lastLine (h : Stands source fence front body back) :
    (Text.lines source)[fence.lastLine - 1]? = some fence.closer := by
  have index : fence.lastLine - 1 = front.length + (body.length + 1) := by
    rw [Fence.lastLine, h.line_eq, h.lines_body]
    omega
  rw [index, h.lines_eq, List.getElem?_append_right (Nat.le_add_right _ _), Nat.add_sub_cancel_left,
    List.getElem?_cons_succ, List.getElem?_append_right (Nat.le_refl _), Nat.sub_self]
  rfl

/-- The body is lines that end with a line feed, and these are lines of the text below that of the
fence. -/
theorem lineAt?_body (h : Stands source fence front body back) :
    ∃ parts, (∀ part ∈ parts, '\n' ∉ part) ∧ fence.body = Text.ended parts ∧
      parts.length = (Text.lines fence.body).length ∧
      ∀ j part, parts[j]? = some part → Text.lineAt? source (fence.line + (j + 1)) = some part := by
  -- all lines above the closing line end with a line feed
  have together : Text.IsLines ((front ++ [fence.opener] ++ body) ++ fence.closer :: back) := by
    have isLines := Text.isLines_lines source
    rw [h.lines_eq] at isLines
    simpa using isLines
  obtain ⟨parts, split, plain⟩ := together.exists_parts (by simp)
  obtain ⟨upper, lower, rfl, upper_eq, lower_eq⟩ := List.append_eq_map_iff.mp split
  have upper_length : upper.length = front.length + 1 := by
    have lengths := congrArg List.length upper_eq
    simpa using lengths
  refine ⟨lower, fun part mem => plain part (List.mem_append_right _ mem), ?_, ?_, ?_⟩
  · rw [h.body_eq, ← lower_eq, Text.flatten_map_lineFeed]
  · rw [h.lines_body, ← lower_eq, List.length_map]
  · intro j part found
    have whole : source = Text.ended (upper ++ lower) ++ (fence.closer :: back).flatten := by
      rw [← Text.flatten_map_lineFeed, ← split, ← List.flatten_append, ← Text.lines_flatten source,
        h.lines_eq]
      simp
    have index : fence.line + (j + 1) - 1 = upper.length + j := by
      rw [h.line_eq, upper_length]
      omega
    have inside : j < lower.length := (List.getElem?_eq_some_iff.mp found).1
    rw [Text.lineAt?, index, whole, Text.splitOn_ended _ plain, List.append_assoc,
      List.getElem?_append_right (Nat.le_add_right _ _), Nat.add_sub_cancel_left,
      List.getElem?_append_left inside, found]

end Fence.Stands

end TypstFences
