import TypstFences.Proofs.Document.Concat
import TypstFences.Proofs.Document.Ordinary
import TypstFences.Proofs.Pass.Stages

/-!
# Texts at rest

A text is at rest when a pass has nothing to do in it: no fence is left open, each info string is read,
and each fence either has no plan or is to be shown as it stands. Texts of ordinary lines are at rest,
and so are two texts at rest, one after the other (`AtRest.append`). A pass over a text at rest submits
nothing and returns the text (`Pass.runWith_atRest`).
-/

set_option autoImplicit false

namespace TypstFences

variable {ε : Type} {press : Press} {settings : Settings} {registry : Registry}

/-- Whether a fence is to be left as it stands: its info string is read, and if there is a plan for the
fence, it is to show its body. -/
def Fence.Rests (settings : Settings) (registry : Registry) (fence : Fence) : Prop :=
  ∃ directive, Directive.read registry fence.info = .ok directive ∧
    ∀ plan, Plan.ofDirective? settings registry directive fence = some plan → plan = .literal fence.body

/-- Whether a pass has nothing to do in a text. -/
structure AtRest (settings : Settings) (registry : Registry) (text : Text) : Prop where
  closed : (scan text).unclosed = none
  rests : ∀ fence, .fence fence ∈ (scan text).segments → fence.Rests settings registry

/-! ## Which texts are at rest -/

namespace Segment

/-- The fences of segments with a line in front. -/
theorem mem_consLine {fence : Fence} {line : Text} {segments : List Segment} :
    .fence fence ∈ consLine line segments ↔ .fence fence ∈ segments := by
  cases segments with
  | nil => simp [consLine]
  | cons segment segments => cases segment <;> simp [consLine]

/-- The fences of segments side by side. -/
theorem mem_beside {fence : Fence} {first second : List Segment} :
    .fence fence ∈ beside first second ↔ .fence fence ∈ first ∨ .fence fence ∈ second := by
  induction first with
  | nil => simp [beside]
  | cons segment first ih =>
    have step : beside (segment :: first) second = onto segment (beside first second) := rfl
    rw [step]
    cases segment with
    | text raw =>
      rw [onto, mem_consLine, ih]
      simp
    | fence block =>
      rw [onto, List.mem_cons, ih]
      simp [or_assoc]

end Segment

/-- Texts at rest can stand one behind the other, if the first ends where a line does. -/
theorem AtRest.append {first second : Text} (h₁ : AtRest settings registry first)
    (ends : Text.EndsLine first) (h₂ : AtRest settings registry second) :
    AtRest settings registry (first ++ second) := by
  have scanned := scan_append second ends h₁.closed
  refine ⟨by rw [scanned, h₂.closed]; rfl, fun fence mem => ?_⟩
  rw [scanned, Segment.mem_beside] at mem
  rcases mem with mem | mem
  · exact h₁.rests fence mem
  · -- further down it is read and planned as it is above
    obtain ⟨segment, listed, moved⟩ := List.mem_map.mp mem
    cases segment with
    | text raw => exact absurd moved (by simp [Segment.below])
    | fence block =>
      obtain rfl := Segment.fence.inj moved
      exact h₂.rests block listed

/-! ## Passes over texts at rest -/

/-- Whether a piece is to be left as it stands. -/
def Piece.Rests (piece : Piece) : Prop :=
  ∀ fence plan, piece = .fence fence (some plan) → plan = .literal fence.body

namespace Piece

variable {piece : Piece}

/-- A piece that rests asks for nothing. -/
theorem Rests.request? (h : piece.Rests) : piece.request? = none := by
  cases piece with
  | text raw => rfl
  | fence fence plan =>
    cases plan with
    | none => rfl
    | some plan =>
      rw [h fence plan rfl]
      rfl

/-- A piece that rests is written as it stands. -/
theorem Rests.written (h : piece.Rests) (rendering : Rendering) (name : Text) :
    piece.written press settings rendering name = .ok piece.segment.raw := by
  cases piece with
  | text raw => rfl
  | fence fence plan =>
    cases plan with
    | none => rfl
    | some plan =>
      rw [h fence plan rfl]
      rfl

end Piece

namespace Pass

/-- Fences that are to be left as they stand become pieces that are. -/
theorem pieces_of_rests (name : Text) {segments : List Segment}
    (rests : ∀ fence, .fence fence ∈ segments → fence.Rests settings registry) :
    ∃ found, pieces settings registry name segments = .ok found ∧ ∀ piece ∈ found, piece.Rests := by
  induction segments with
  | nil => exact ⟨[], rfl, by simp⟩
  | cons segment segments ih =>
    obtain ⟨found, found_eq, quiet⟩ := ih fun fence mem => rests fence (List.mem_cons_of_mem _ mem)
    have first : ∃ piece, Piece.ofSegment settings registry name segment = .ok piece ∧ piece.Rests := by
      cases segment with
      | text raw => exact ⟨.text raw, rfl, by simp [Piece.Rests]⟩
      | fence block =>
        obtain ⟨directive, read, left⟩ := rests block List.mem_cons_self
        refine ⟨.fence block (Plan.ofDirective? settings registry directive block), ?_, ?_⟩
        · rw [Piece.ofSegment, read]
        · intro fence plan same
          obtain ⟨rfl, planned⟩ := Piece.fence.inj same
          exact left plan planned
    obtain ⟨piece, piece_eq, quiet_piece⟩ := first
    refine ⟨piece :: found, pieces_cons_ok.mpr ⟨piece, found, piece_eq, found_eq, rfl⟩, ?_⟩
    simpa using ⟨quiet_piece, quiet⟩

/-- Pieces that are left as they stand are written as they were found. -/
theorem written_of_rests (press : Press) (settings : Settings) {found : List Piece}
    (rests : ∀ piece ∈ found, piece.Rests) (rendering : Rendering) (name : Text) :
    found.mapM (Piece.written press settings rendering name) =
      .ok (found.map fun piece => piece.segment.raw) := by
  induction found with
  | nil => rfl
  | cons piece found ih =>
    rw [List.mapM_cons, (rests piece List.mem_cons_self).written rendering name,
      ih fun other mem => rests other (List.mem_cons_of_mem _ mem)]
    rfl

/-- A pass over a document that asks for nothing submits nothing, returns what is written for the
pieces, and leaves the session as it was, but for the log. -/
theorem runWith_unasked {name source : Text} {found : List Piece} {texts : List Text}
    {rendering : Rendering} (closed : (scan source).unclosed = none)
    (made : pieces settings registry name (scan source).segments = .ok found)
    (unasked : ∀ piece ∈ found, piece.request? = none)
    (written : found.mapM (Piece.written press settings rendering name) = .ok texts)
    (schedule : List Nat → Schedule) (engine : Engine ε) (session : Session ε) :
    ∃ host, SameButLog session.rig.host host ∧
      runWith schedule press settings engine registry name source session =
        (.ok ⟨texts.flatten, [], []⟩, session.withHost host) := by
  obtain ⟨host, same, run⟩ := runWith_of_planned closed made schedule press engine session
  refine ⟨host, same, ?_⟩
  have asked : Plan.requests (plansFrom 0 found) = [] := by
    rw [requests_plansFrom, List.filterMap_eq_nil_iff]
    intro entry mem
    rw [unasked entry.1 (List.fst_mem_of_mem_zipIdx mem)]
    rfl
  have delivered : DeliveredAll rendering.answer (Plan.requests (plansFrom 0 found)) [] := by
    rw [asked]
    exact ⟨fun _ => rfl, List.nodup_nil⟩
  have output : Replacement.ofDocument press settings (outcomesOf [] [] (plansFrom 0 found))
      ⟨name, found.map Piece.segment⟩ = .ok texts.flatten := by
    have whole := ofDocument_eq press settings name delivered
    rw [written] at whole
    exact whole
  have concluded : conclude press settings engine ⟨name, found.map Piece.segment⟩ (plansFrom 0 found) []
      (session.withHost host).rig =
        (.ok ⟨texts.flatten, [], []⟩, (session.withHost host).rig) := by
    have gathered : gatherImages settings engine (Plan.requests (plansFrom 0 found)) [] []
        (session.withHost host).rig = (.ok ([], []), (session.withHost host).rig) := rfl
    have unfailed : failuresOf ⟨name, found.map Piece.segment⟩ [] = [] := rfl
    have silent : ((plansFrom 0 found).filterMap fun entry =>
        ([] : Failures).lookup entry.1) = [] :=
      List.filterMap_eq_nil_iff.mpr fun _ _ => rfl
    simp only [conclude, gathered, unfailed, output, silent]
  rw [run]
  simp only [renderPieces, asked]
  have rendered : renderRequests settings engine [] (onFailure settings ⟨name, found.map Piece.segment⟩)
      (schedule []) [] (session.withHost host) = (.ok ([], []), session.withHost host) := rfl
  simp only [List.map_nil, rendered, concluded]

/-- A pass over a text at rest submits nothing, returns the text, and leaves the session as it was, but
for the log. -/
theorem runWith_atRest {source : Text} (rest : AtRest settings registry source)
    (schedule : List Nat → Schedule) (press : Press) (engine : Engine ε) (name : Text) (session : Session ε) :
    ∃ host, SameButLog session.rig.host host ∧
      runWith schedule press settings engine registry name source session =
        (.ok ⟨source, [], []⟩, session.withHost host) := by
  obtain ⟨found, made, quiet⟩ := pieces_of_rests name rest.rests
  -- nothing is asked for, so any rendering will do
  have written := written_of_rests press settings quiet ⟨fun _ => default, fun _ => []⟩ name
  have text_eq : (found.map fun piece => piece.segment.raw).flatten = source := by
    have grammar := (scan_eq_iff source (scan source).segments).mp (by rw [← rest.closed])
    have kept := grammar.kept
    rwa [← segments_of_pieces made, List.flatMap_map, List.flatMap_def] at kept
  have ran := runWith_unasked rest.closed made (fun piece mem => (quiet piece mem).request?) written
    schedule engine session
  rwa [text_eq] at ran

end Pass

end TypstFences
