import TypstFences.Proofs.Document.InfoString
import TypstFences.Proofs.Pass.Idempotence

/-!
# What a pass leaves alone

A pass that returns has written one part for each segment, in order. The part of a text is the text,
and the part of a fence whose tag selects nothing is the fence; of a fence that is to be shown, the
first and the last line stay and of its other lines those that are not hidden. Attributes are read for
registered tags only, so a document none of whose tags is registered comes back as it was, whatever
stands behind the commas of its info strings.
-/

set_option autoImplicit false

namespace TypstFences

variable {ε : Type} {press : Press} {settings : Settings} {registry : Registry}

/-- Tags that are not registered pass through. -/
theorem Registry.behaviour_of_unregistered {tag : Text} (unknown : registry.isRegistered tag = false) :
    registry.behaviour tag = .passthrough := by
  have absent : registry.spec? tag = none := Option.not_isSome_iff_eq_none.mp (Bool.eq_false_iff.mp unknown)
  rw [behaviour, absent]

/-! ## Parts -/

/-- The lines of a fence that are seen: its first and its last, and the others that are not hidden. -/
def Fence.visible (marker : Text) (fence : Fence) : Text :=
  fence.opener ++
    ((Text.lines fence.body).filter fun line => !HiddenLines.isHidden marker line).flatten ++
    fence.closer

/-- What a fence contributes to a document if it is not typeset. -/
structure Fence.Contributes (settings : Settings) (registry : Registry) (fence : Fence) (part : Text) :
    Prop where
  passthrough : registry.behaviour (Directive.tagOf fence.info) = .passthrough → part = fence.raw
  literal : Plan.effective settings (registry.behaviour (Directive.tagOf fence.info)) = .literal →
    ∃ directive, Directive.read registry fence.info = .ok directive ∧
      part = fence.visible (directive.marker settings.hidelines)

/-- What a segment contributes: a text itself, and a fence what its tag selects. -/
def Segment.Contributes (settings : Settings) (registry : Registry) : Segment → Text → Prop
  | .text raw, part => part = raw
  | .fence block, part => block.Contributes settings registry part

namespace Replacement

/-- What is written for segments is one part after the other. -/
theorem parts_of_ofSegments {outcomes : List (Nat × Outcome)} {segments : List Segment} :
    ∀ {index text}, ofSegments press settings outcomes index segments = .ok text →
      ∃ parts : List Text, text = parts.flatten ∧
        List.Forall₂ (fun entry part => ofSegment press settings (outcomes.lookup entry.2) entry.1 = .ok part)
          (segments.zipIdx index) parts := by
  induction segments with
  | nil =>
    intro index text made
    exact ⟨[], (Except.ok.inj made).symm, .nil⟩
  | cons segment segments ih =>
    intro index text made
    rw [ofSegments] at made
    split at made
    · exact absurd made (by simp)
    · rename_i part part_eq
      split at made
      · rename_i rest rest_eq
        obtain ⟨parts, rfl, written⟩ := ih rest_eq
        exact ⟨part :: parts, (Except.ok.inj made).symm, .cons part_eq written⟩
      · exact absurd made (by simp)

/-- A fence without a plan that was kept, and a fence to be shown that was shown, contribute what their
tags select. -/
theorem contributes_of_ofFence {fence : Fence} {directive : Directive} {outcome : Option Outcome}
    {part : Text} (read : Directive.read registry fence.info = .ok directive)
    (kept : Plan.ofDirective? settings registry directive fence = none → outcome = none)
    (shown : ∀ display, Plan.ofDirective? settings registry directive fence = some (.literal display) →
      outcome = some (.literal display))
    (made : ofFence press settings fence (outcome.getD .kept) = .ok part) :
    fence.Contributes settings registry part := by
  have tag_eq := Directive.tag_of_read read
  constructor
  · intro selects
    have planned : Plan.ofDirective? settings registry directive fence = none := by
      simp [Plan.ofDirective?, tag_eq, selects, Plan.effective, Behaviour.renders]
    rw [kept planned] at made
    exact (Except.ok.inj made).symm
  · intro selects
    refine ⟨directive, read, ?_⟩
    have planned : Plan.ofDirective? settings registry directive fence = some (.literal
        (HiddenLines.views (directive.marker settings.hidelines) fence.body).display) := by
      simp [Plan.ofDirective?, tag_eq, selects]
    rw [shown _ planned] at made
    rw [Fence.visible, ← HiddenLines.display_eq]
    exact (Except.ok.inj made).symm

end Replacement

/-! ## Passes -/

namespace Pass

/-- Each segment of a pass that returns contributes what its tag selects. -/
theorem contributes_of_conclude {engine : Engine ε} {name source : Text} {found : List Piece}
    {results : List (Nat × RenderResult)} {rig : Rig ε} {result : PassResult}
    (made : pieces settings registry name (scan source).segments = .ok found)
    (h : (conclude press settings engine ⟨name, (scan source).segments⟩ (plansFrom 0 found) results
      rig).1 = .ok result) :
    ∃ parts : List Text, result.output = parts.flatten ∧
      List.Forall₂ (Segment.Contributes settings registry) (scan source).segments parts := by
  obtain ⟨names, written, -⟩ := conclude_ok h
  obtain ⟨parts, output, each⟩ := Replacement.parts_of_ofSegments written
  refine ⟨parts, output, ?_⟩
  rw [← List.zipIdx_map_fst 0 (scan source).segments, List.forall₂_map_left_iff]
  -- the part at a position is made of the segment there and of what became of its plan
  have listed := (List.forall₂_and_left _ _).mpr ⟨fun _ mem => mem, each⟩
  apply listed.imp
  rintro ⟨segment, i⟩ part ⟨mem, part_eq⟩
  have segment_at : (scan source).segments[i]? = some segment := List.mem_zipIdx_iff_getElem?.mp mem
  cases segment with
  | text raw => exact (Except.ok.inj part_eq).symm
  | fence fence =>
    have mapped := segment_at
    rw [← segments_of_pieces made, List.getElem?_map] at mapped
    obtain ⟨piece, at_i, -⟩ := Option.map_eq_some_iff.mp mapped
    have read := ofSegment_of_pieces made i _ _ segment_at at_i
    rw [Piece.ofSegment] at read
    cases directive_eq : Directive.read registry fence.info with
    | error fault => exact absurd read (by simp [directive_eq])
    | ok directive =>
      rw [directive_eq] at read
      obtain rfl := Except.ok.inj read
      have became : ∀ outcome : Nat → Plan → Outcome,
          ((plansFrom 0 found).map fun entry => (entry.1, outcome entry.1 entry.2)).lookup i =
            (Plan.ofDirective? settings registry directive fence).map (outcome i) := by
        intro outcome
        rw [lookup_map (f := outcome), lookup_plansFrom, at_i]
        rfl
      rw [outcomesOf, became] at part_eq
      refine Replacement.contributes_of_ofFence directive_eq ?_ ?_ part_eq
      · intro planned
        rw [planned]
        rfl
      · intro display planned
        rw [planned]
        rfl

end Pass

/-- A document whose fences all have tags that are not registered has nothing to do for a pass. -/
theorem atRest_of_unregistered {source : Text} (closed : (scan source).unclosed = none)
    (unknown : ∀ fence, .fence fence ∈ (scan source).segments →
      registry.isRegistered (Directive.tagOf fence.info) = false) :
    AtRest settings registry source := by
  refine ⟨closed, ?_⟩
  intro fence mem
  refine ⟨_, Directive.read_of_unregistered (unknown fence mem), ?_⟩
  intro plan planned
  have selects := Registry.behaviour_of_unregistered (unknown fence mem)
  simp [Plan.ofDirective?, selects, Plan.effective, Behaviour.renders] at planned

/-- What a pass returns is one part for each segment, where a text and a fence whose tag selects nothing
contribute themselves and a fence to be shown its visible lines. A document without an open fence none
of whose tags is registered comes back as it is, without images and failures, and nothing of the session
has changed but the log. -/
theorem only_recognized_fences_change (press : Press) (settings : Settings) (registry : Registry)
    (engine : Engine ε)
    (schedule : List Nat → Schedule) (name source : Text) (session : Session ε) :
    (∀ result, (Pass.runWith schedule press settings engine registry name source session).1 = .ok result →
      ∃ parts : List Text, result.output = parts.flatten ∧
        List.Forall₂ (Segment.Contributes settings registry) (scan source).segments parts) ∧
    ((scan source).unclosed = none →
      (∀ fence, .fence fence ∈ (scan source).segments →
        registry.isRegistered (Directive.tagOf fence.info) = false) →
      ∃ host, Pass.SameButLog session.rig.host host ∧
        Pass.runWith schedule press settings engine registry name source session =
          (.ok ⟨source, [], []⟩, session.withHost host)) := by
  constructor
  · intro result ran
    obtain ⟨-, found, results, rig, made, concluded⟩ := Pass.runWith_ok ran
    exact Pass.contributes_of_conclude made concluded
  · intro closed unknown
    exact Pass.runWith_atRest (atRest_of_unregistered closed unknown) schedule press engine name session

/-- A foreign info string whose attributes would be refused, and a fence to be shown with a line that is
hidden. -/
def mixedFences : Text :=
  "a\n```rust,=,\nx\n```\n  ```typ-norender,hidelines=%\n% h\ny\n```\n".toList

/-- An indented fence with another foreign info string, and line ends of two characters. -/
def foreignFence : Text := "a\r\n  ```rust,,=\r\n x\r\n  ```".toList

/-- The pass over the first returns and hides one line, and that over the second changes nothing. -/
theorem mixedFences_change_one_line :
    (∃ parts, ((bareCall onePage mixedFences).run ⟨Cache.new none, bareRig⟩).1 =
        .ok ⟨parts.flatten, [], []⟩ ∧
      parts.flatten =
        "a\n```rust,=,\nx\n```\n  ```typ-norender,hidelines=%\ny\n```\n".toList ∧
      List.Forall₂ (Segment.Contributes Settings.default Registry.typst) (scan mixedFences).segments
        parts) ∧
    ∃ host, Pass.SameButLog bareRig.host host ∧
      (bareCall onePage foreignFence).run ⟨Cache.new none, bareRig⟩ =
        (.ok ⟨foreignFence, [], []⟩, Session.withHost ⟨Cache.new none, bareRig⟩ host) := by
  have always := only_recognized_fences_change barePress Settings.default Registry.typst
    (bareCall onePage []).engine Schedule.inOrder "d.md".toList
  constructor
  · have ran : ((bareCall onePage mixedFences).run ⟨Cache.new none, bareRig⟩).1 = .ok
        ⟨"a\n```rust,=,\nx\n```\n  ```typ-norender,hidelines=%\ny\n```\n".toList, [], []⟩ := by
      decide +kernel
    obtain ⟨parts, output, each⟩ := (always mixedFences ⟨Cache.new none, bareRig⟩).1 _ ran
    exact ⟨parts, by rw [ran, ← output], output.symm, each⟩
  · refine (always foreignFence ⟨Cache.new none, bareRig⟩).2 (by decide +kernel) ?_
    have segments : (scan foreignFence).segments =
        [.text "a\r\n".toList, .fence ⟨"  ```rust,,=\r\n".toList, " x\r\n".toList, "  ```".toList,
          ⟨"  ".toList, 3, "rust,,=".toList⟩, 2⟩] := by decide +kernel
    intro fence mem
    rw [segments] at mem
    obtain rfl : fence = _ := by simpa using mem
    decide

end TypstFences
