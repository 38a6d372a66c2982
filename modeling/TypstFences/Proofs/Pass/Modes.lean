import TypstFences.Proofs.Pass.Unrendered
import TypstFences.Proofs.Text.Indentation

/-!
# What is shown with and without rendering

A block that is typeset loses the indentation of its fence before its hidden lines are looked for, and a
block that is shown as a fence keeps it. Indentation is blank, so it makes no difference to which lines are
hidden (`HiddenLines.isHidden_dropIndent`), and both ways lead to the same lines: what is shown of a dedented
block is what is shown of the block, dedented (`HiddenLines.display_dedent`).
-/

set_option autoImplicit false

namespace TypstFences

/-! ## Hidden lines without their indentation -/

namespace HiddenLines

/-- A line is hidden with its indentation if and only if it is without. -/
theorem isHidden_dropIndent (marker : Text) (width : Nat) (line : Text) :
    isHidden marker (Text.dropIndent width line) = isHidden marker line := by
  unfold isHidden
  rw [Text.trimStart_dropIndent]

/-- Lines of which nothing is left are shown, and do not show. -/
theorem display_dedent (marker indentation body : Text) :
    (views marker (Text.dedent indentation body)).display =
      Text.dedent indentation (views marker body).display := by
  have seen : (fun line => !isHidden marker line) ∘ Text.dropIndent indentation.length =
      fun line => !isHidden marker line :=
    funext fun line => congrArg (!·) (isHidden_dropIndent marker indentation.length line)
  calc (views marker (Text.dedent indentation body)).display
      = ((Text.lines (Text.dedent indentation body)).filter fun line => !isHidden marker line).flatten :=
        display_eq marker _
    _ = ((((Text.lines body).map (Text.dropIndent indentation.length)).filter fun line =>
          !isHidden marker line).filter fun line => !line.isEmpty).flatten := by
        rw [Text.lines_dedent, List.filter_comm]
    _ = (((Text.lines body).filter fun line => !isHidden marker line).map
          (Text.dropIndent indentation.length)).flatten := by
        rw [List.flatten_filter_not_isEmpty, List.filter_map, seen]
    _ = Text.dedent indentation (views marker body).display := by
        rw [Text.dedent, lines_display, List.flatMap_def]

end HiddenLines

/-! ## Plans in both modes -/

/-- The plan for a block that is typeset: what is shown of it is what is shown of its dedented body. -/
theorem Plan.ofDirective?_rendered (settings : Settings) (on : settings.render = true) {registry : Registry}
    {directive : Directive} (renders : (registry.behaviour directive.tag).renders = true) (fence : Fence) :
    ∃ request, ofDirective? settings registry directive fence =
      some (.render request (HiddenLines.views (directive.marker settings.hidelines)
        (Text.dedent fence.indent fence.body)).display) := by
  unfold ofDirective? effective
  rw [on]
  cases selected : registry.behaviour directive.tag with
  | passthrough => exact absurd (selected ▸ renders) (by decide)
  | literal => exact absurd (selected ▸ renders) (by decide)
  | renderWithPreamble => exact ⟨_, rfl⟩
  | renderBare => exact ⟨_, rfl⟩

/-- Hidden lines are found alike with and without indentation, so that dedenting a block and leaving out its
hidden lines can be done in either order. A block that is typeset therefore shows the same lines as it does
without rendering, where it is kept as a fence: all that are not hidden, without their indentation. -/
theorem modes_show_same_lines (marker indentation body : Text) :
    (∀ line, HiddenLines.isHidden marker (Text.dropIndent indentation.length line) =
      HiddenLines.isHidden marker line) ∧
    (HiddenLines.views marker (Text.dedent indentation body)).display =
      Text.dedent indentation (HiddenLines.views marker body).display ∧
    ∀ (settings : Settings) (registry : Registry) (directive : Directive) (fence : Fence),
      (registry.behaviour directive.tag).renders = true →
      ∃ request shown,
        Plan.ofDirective? { settings with render := false } registry directive fence =
          some (.literal shown) ∧
        Plan.ofDirective? { settings with render := true } registry directive fence =
          some (.render request (Text.dedent fence.indent shown)) ∧
        Text.lines shown = (Text.lines fence.body).filter (fun line =>
          !HiddenLines.isHidden (directive.marker settings.hidelines) line) ∧
        Text.lines (Text.dedent fence.indent shown) =
          ((Text.lines shown).map (Text.dropIndent fence.indent.length)).filter fun line =>
            !line.isEmpty := by
  refine ⟨HiddenLines.isHidden_dropIndent marker _, HiddenLines.display_dedent marker _ _, ?_⟩
  intro settings registry directive fence renders
  have selects : registry.behaviour directive.tag ≠ .passthrough := by
    intro passes
    rw [passes] at renders
    exact absurd renders (by decide)
  obtain ⟨request, planned⟩ :=
    Plan.ofDirective?_rendered { settings with render := true } rfl renders fence
  rw [HiddenLines.display_dedent] at planned
  refine ⟨request, _, ?_, planned, HiddenLines.lines_display _ _, Text.lines_dedent _ _⟩
  rw [Plan.ofDirective?_unrendered rfl, if_neg selects]

/-- An indented fence with a hidden line, a line that is indented further, and nothing but indentation behind
the last line feed. -/
def indentedFence : Fence where
  opener := "  ```typ\n".toList
  body := "\t % a\n   b\n\t".toList
  closer := []
  opening := ⟨"  ".toList, 3, "typ".toList⟩
  line := 1

/-- The default settings with a marker for hidden lines. -/
def markedSettings : Settings := { Settings.default with hidelines := ['%'] }

/-- An indented fence with hidden lines shows the same in both modes. -/
theorem indentedFence_in_both_modes :
    (Registry.typst.behaviour "typ".toList).renders = true ∧
    Plan.ofDirective? { markedSettings with render := false } Registry.typst ⟨"typ".toList, []⟩
      indentedFence = some (.literal "   b\n\t".toList) ∧
    ∃ request, Plan.ofDirective? { markedSettings with render := true } Registry.typst
      ⟨"typ".toList, []⟩ indentedFence = some (.render request " b\n".toList) := by
  have renders : (Registry.typst.behaviour "typ".toList).renders = true := by decide
  obtain ⟨-, -, modes⟩ := modes_show_same_lines ['%'] indentedFence.indent indentedFence.body
  obtain ⟨request, shown, kept, rendered, lines, -⟩ :=
    modes markedSettings Registry.typst ⟨"typ".toList, []⟩ indentedFence renders
  have shown_eq : shown = "   b\n\t".toList := by
    have whole := Text.lines_flatten shown
    rw [lines] at whole
    rw [← whole]
    decide
  subst shown_eq
  exact ⟨renders, kept, request, rendered⟩

end TypstFences
