import TypstFences.Pass.Plan
import TypstFences.Proofs.Document.HiddenLines
import TypstFences.Proofs.Document.Position

/-!
# The lines that the engine receives

A block is dedented, its hidden lines lose their marker, and the preamble is put in front of it. None
of this adds or drops a line, if the marker has no line feed: below the lines of the preamble, the
source that is submitted for a fence has one line for each line of the body, made of that line
(`lineAt?_assembled`), and an empty one at its end (`lineCount_assembled`).
-/

set_option autoImplicit false

namespace TypstFences

/-! ## Blocks that are submitted -/

/-- Whether a fence of a document is rendered, with a marker for its hidden lines, by a request. -/
structure Fence.Asks (settings : Settings) (registry : Registry) (source : Text) (fence : Fence)
    (marker : Text) (request : Request) : Prop where
  closed : (scan source).unclosed = none
  mem : .fence fence ∈ (scan source).segments
  planned : ∃ directive display, Directive.read registry fence.info = .ok directive ∧
    directive.marker settings.hidelines = marker ∧
    Plan.ofDirective? settings registry directive fence = some (.render request display)

namespace Fence.Asks

variable {press : Press} {settings : Settings} {registry : Registry} {source marker : Text} {fence : Fence}
variable {request : Request}

/-- What is submitted is made of the dedented body. -/
theorem source_eq (h : Asks settings registry source fence marker request) :
    request.source =
      (HiddenLines.views marker (Text.dedent fence.indent fence.body)).compiled := by
  obtain ⟨directive, display, -, rfl, planned⟩ := h.planned
  unfold Plan.ofDirective? at planned
  split at planned
  · exact absurd planned (by simp)
  · exact absurd planned (by simp)
  · obtain ⟨rfl, -⟩ := Plan.render.inj (Option.some.inj planned)
    rfl
  · obtain ⟨rfl, -⟩ := Plan.render.inj (Option.some.inj planned)
    rfl

/-- The lines of what is submitted: those above the block, one for each line of the body, and an
empty one. -/
theorem lines_assembled (h : Asks settings registry source fence marker request)
    (clean : '\n' ∉ marker) (preamble : Text) :
    ∃ above parts : List Text, above.length = request.preambleLines preamble ∧
      parts.length = (Text.lines fence.body).length ∧
      (∀ j part, parts[j]? = some part →
        Text.lineAt? source (fence.line + (j + 1)) = some part) ∧
      Text.splitOn '\n' (request.assembled preamble) = above ++ parts.map (fun part =>
        HiddenLines.compiledLine marker (Text.dropIndent fence.indent.length part)) ++ [[]] := by
  obtain ⟨front, body, back, stands⟩ := scan_stands h.closed h.mem
  obtain ⟨parts, plain, body_eq, length_eq, numbered⟩ := stands.lineAt?_body
  let typeset (part : Text) : Text :=
    HiddenLines.compiledLine marker (Text.dropIndent fence.indent.length part)
  have dedented : ∀ part ∈ parts.map (Text.dropIndent fence.indent.length), '\n' ∉ part := by
    intro part mem lineFeed
    obtain ⟨line, listed, rfl⟩ := List.mem_map.mp mem
    exact plain line listed (Text.dropIndent_subset _ line lineFeed)
  have source_eq : request.source = Text.ended (parts.map typeset) := by
    rw [h.source_eq, body_eq, Text.dedent_ended _ plain, HiddenLines.compiled_ended dedented clean,
      List.map_map]
    rfl
  have block : Text.splitOn '\n' request.source = parts.map typeset ++ [[]] := by
    have typeset_plain : ∀ part ∈ parts.map typeset, '\n' ∉ part := by
      intro part mem lineFeed
      obtain ⟨line, listed, rfl⟩ := List.mem_map.mp mem
      exact dedented _ (List.mem_map_of_mem listed)
        (HiddenLines.compiledLine_subset marker _ lineFeed)
    have cut := Text.splitOn_ended [] typeset_plain
    rwa [List.append_nil, ← source_eq] at cut
  cases uses : request.usesPreamble with
  | false =>
    refine ⟨[], parts, by simp [Request.preambleLines_eq_lineFeeds, uses], length_eq, numbered, ?_⟩
    rw [Request.assembled, uses]
    exact block
  | true =>
    refine ⟨Text.splitOn '\n' preamble, parts, ?_, length_eq, numbered, ?_⟩
    · rw [Request.preambleLines_eq_lineFeeds, uses]
      exact Text.lineCount_eq preamble
    · rw [Request.assembled, uses, if_pos rfl, Text.splitOn_lineFeed, block, List.append_assoc]

/-- A line of the body is, dedented and without its marker, the line of what is submitted that is as
far below the preamble. -/
theorem lineAt?_assembled (h : Asks settings registry source fence marker request)
    (clean : '\n' ∉ marker) (preamble : Text) {j : Nat} (first : 1 ≤ j)
    (last : j ≤ (Text.lines fence.body).length) :
    ∃ line, Text.lineAt? source (fence.line + j) = some line ∧
      Text.lineAt? (request.assembled preamble) (request.preambleLines preamble + j) =
        some (HiddenLines.compiledLine marker (Text.dropIndent fence.indent.length line)) := by
  obtain ⟨above, parts, above_length, length_eq, numbered, split⟩ :=
    h.lines_assembled clean preamble
  obtain ⟨i, rfl⟩ : ∃ i, j = i + 1 := ⟨j - 1, by omega⟩
  have inside : i < parts.length := by omega
  have found : parts[i]? = some parts[i] := List.getElem?_eq_getElem inside
  refine ⟨parts[i], numbered i _ found, ?_⟩
  have index : request.preambleLines preamble + (i + 1) - 1 = above.length + i := by
    rw [above_length]
    omega
  rw [Text.lineAt?, index, split, List.append_assoc,
    List.getElem?_append_right (Nat.le_add_right _ _), Nat.add_sub_cancel_left,
    List.getElem?_append_left (by rwa [List.length_map]), List.getElem?_map, found, Option.map_some]

/-- What is submitted has the lines above the block, those of the body, and an empty one. -/
theorem lineCount_assembled (h : Asks settings registry source fence marker request)
    (clean : '\n' ∉ marker) (preamble : Text) :
    Text.lineCount (request.assembled preamble) =
      request.preambleLines preamble + (Text.lines fence.body).length + 1 := by
  obtain ⟨above, parts, above_length, length_eq, -, split⟩ := h.lines_assembled clean preamble
  rw [Text.lineCount, split]
  simp [above_length, length_eq, Nat.add_assoc]

end Fence.Asks

end TypstFences
