import TypstFences.Proofs.Pass.Idempotence

/-!
# Passes that render nothing

A pass without rendering shows each block that it would typeset. It writes the lines of the document
but for those that are hidden, and hidden lines are lines of a body. No line of a body closes its fence,
so none of the lines that are left does, and the closing line is the same line as before: what is written
is scanned as the same segments, with bodies that hold what is shown (`Pass.scanLines_unrendered`). What
is shown has no hidden lines, so the text that such a pass returns is at rest.
-/

set_option autoImplicit false

namespace TypstFences

variable {ε : Type} {press : Press} {settings : Settings} {registry : Registry}

/-! ## What is shown of a fence -/

/-- A fence as it is shown by a pass that renders nothing: the first and the last line and what the
opening says are the same, and the body is that of a fence whose tag selects nothing, and else what is
shown of it. Nothing is said about the number of the opening line. -/
structure Fence.ShownAs (settings : Settings) (registry : Registry) (fence shown : Fence) : Prop where
  opener : shown.opener = fence.opener
  closer : shown.closer = fence.closer
  opening : shown.opening = fence.opening
  body : ∃ directive, Directive.read registry fence.info = .ok directive ∧
    shown.body =
      if registry.behaviour directive.tag = .passthrough then fence.body
      else (HiddenLines.views (directive.marker settings.hidelines) fence.body).display

/-- A segment as it is shown by a pass that renders nothing: a text as it is, and a fence as a fence. -/
def Segment.ShownAs (settings : Settings) (registry : Registry) : Segment → Segment → Prop
  | .text raw, .text shown => shown = raw
  | .fence block, .fence shown => block.ShownAs settings registry shown
  | _, _ => False

/-- Without rendering, a fence whose tag selects something is to be shown. -/
theorem Plan.ofDirective?_unrendered (off : settings.render = false) (directive : Directive)
    (fence : Fence) :
    ofDirective? settings registry directive fence =
      if registry.behaviour directive.tag = .passthrough then none
      else some (.literal
        (HiddenLines.views (directive.marker settings.hidelines) fence.body).display) := by
  unfold ofDirective? effective
  rw [off]
  cases registry.behaviour directive.tag <;> rfl

/-- A fence that is shown rests where nothing is rendered. -/
theorem Fence.ShownAs.rests (off : settings.render = false) {fence shown : Fence}
    (h : fence.ShownAs settings registry shown) : shown.Rests settings registry := by
  obtain ⟨directive, read, body_eq⟩ := h.body
  have info_eq : shown.info = fence.info := by
    unfold Fence.info
    rw [h.opening]
  refine ⟨directive, by rw [info_eq, read], ?_⟩
  intro plan planned
  rw [Plan.ofDirective?_unrendered off] at planned
  by_cases selects : registry.behaviour directive.tag = .passthrough
  · rw [if_pos selects] at planned
    exact absurd planned (by simp)
  · rw [if_neg selects] at planned body_eq
    rw [← Option.some.inj planned, body_eq, HiddenLines.display_display]

namespace Pass

variable {name : Text}

/-- Where nothing is rendered no piece asks for anything. -/
theorem unasked_of_unrendered (off : settings.render = false) {segments : List Segment} :
    ∀ {found : List Piece}, pieces settings registry name segments = .ok found →
      ∀ piece ∈ found, piece.request? = none := by
  induction segments with
  | nil =>
    intro found made piece mem
    obtain rfl := Except.ok.inj made
    exact absurd mem List.not_mem_nil
  | cons segment segments ih =>
    intro found made
    obtain ⟨piece, rest, first, others, rfl⟩ := pieces_cons_ok.mp made
    rw [List.forall_mem_cons]
    refine ⟨?_, ih others⟩
    cases segment with
    | text raw =>
      obtain rfl := Except.ok.inj first
      rfl
    | fence fence =>
      rw [Piece.ofSegment] at first
      split at first
      · exact absurd first (by simp)
      · rename_i directive read
        obtain rfl := Except.ok.inj first
        rw [Plan.ofDirective?_unrendered off]
        by_cases selects : registry.behaviour directive.tag = .passthrough
        · rw [if_pos selects]
          rfl
        · rw [if_neg selects]
          rfl

/-- Of a fence are written the first and the last line and some of those between, and whatever the
number of its line, the fence that they spell is the one to be shown. -/
theorem written_fence_unrendered (rendering : Rendering) (off : settings.render = false)
    {fence : Fence} {piece : Piece}
    (made : Piece.ofSegment settings registry name (.fence fence) = .ok piece) :
    ∃ kept : List Text, kept.Sublist (Text.lines fence.body) ∧
      piece.written press settings rendering name = .ok (fence.opener ++ kept.flatten ++ fence.closer) ∧
      ∀ number, fence.ShownAs settings registry
        ⟨fence.opener, kept.flatten, fence.closer, fence.opening, number⟩ := by
  rw [Piece.ofSegment] at made
  split at made
  · exact absurd made (by simp)
  · rename_i directive read
    obtain rfl := Except.ok.inj made
    rw [Plan.ofDirective?_unrendered off]
    by_cases selects : registry.behaviour directive.tag = .passthrough
    · refine ⟨Text.lines fence.body, List.Sublist.refl _, ?_, ?_⟩
      · rw [if_pos selects, Text.lines_flatten]
        rfl
      · intro number
        refine ⟨rfl, rfl, rfl, directive, read, ?_⟩
        rw [if_pos selects, Text.lines_flatten]
    · refine ⟨(Text.lines fence.body).filter fun line =>
        !HiddenLines.isHidden (directive.marker settings.hidelines) line, List.filter_sublist, ?_, ?_⟩
      · rw [if_neg selects, HiddenLines.display_eq]
        rfl
      · intro number
        refine ⟨rfl, rfl, rfl, directive, read, ?_⟩
        rw [if_neg selects, HiddenLines.display_eq]

/-- The lines that are written for segments are some of those that the segments spell, and they are
scanned as what is to be shown of the segments. -/
theorem scanLines_unrendered (rendering : Rendering) (off : settings.render = false)
    {segments : List Segment} {blocks : List (List Text)}
    (spells : List.Forall₂ Segment.Spells segments blocks) :
    ∀ {found}, Text.IsLines blocks.flatten →
      segments.IsChain (fun first second => first.fence?.isSome ∨ second.fence?.isSome) →
      pieces settings registry name segments = .ok found →
      ∃ (texts kept : List Text), found.mapM (Piece.written press settings rendering name) = .ok texts ∧
        kept.Sublist blocks.flatten ∧ texts.flatten = kept.flatten ∧
        ∀ number, ∃ shown, scanLines none number kept = ⟨shown, none⟩ ∧
          List.Forall₂ (Segment.ShownAs settings registry) segments shown := by
  induction spells with
  | nil =>
    intro found _ _ made
    obtain rfl := Except.ok.inj made
    exact ⟨[], [], rfl, List.Sublist.refl _, rfl, fun number => ⟨[], rfl, .nil⟩⟩
  | @cons segment block segments blocks head tail ih =>
    intro found isLines apart made
    rw [List.flatten_cons] at isLines
    obtain ⟨piece, rest, first, others, rfl⟩ := pieces_cons_ok.mp made
    obtain ⟨texts, kept, written, among, same, scanned⟩ := ih isLines.right apart.of_cons others
    cases segment with
    | text raw =>
      obtain rfl := Except.ok.inj first
      obtain ⟨nonempty, plain, rfl⟩ := head
      refine ⟨block.flatten :: texts, block ++ kept, ?_, ?_, ?_, ?_⟩
      · rw [List.mapM_cons, written]
        rfl
      · rw [List.flatten_cons]
        exact among.append_left block
      · rw [List.flatten_cons, List.flatten_append, same]
      · intro number
        obtain ⟨shown, shown_eq, each⟩ := scanned (number + block.length)
        refine ⟨.text block.flatten :: shown, ?_, .cons rfl each⟩
        -- what follows the run of text is a fence, and is shown as one
        rw [scanLines_run number kept nonempty plain, shown_eq]
        rw [shown_eq]
        rintro raw more rfl
        cases each with
        | @cons next _ _ _ alike _ =>
          cases next with
          | text => simp [Segment.fence?] at apart
          | fence => exact alike
    | fence fence =>
      obtain ⟨body, rfl, body_eq, opens, inside, closes⟩ := head
      obtain ⟨seen, fewer, part, shown_as⟩ := written_fence_unrendered rendering off first
      have bodyLines : Text.lines fence.body = body := by
        rw [body_eq]
        exact isLines.left.tail.left.lines_flatten
      rw [bodyLines] at fewer
      have open_still : ∀ line ∈ seen, closesFence fence.opening.length line = false := by
        intro line mem
        exact inside line (fewer.subset mem)
      refine ⟨(fence.opener ++ seen.flatten ++ fence.closer) :: texts,
        fence.opener :: (seen ++ fence.closer :: kept), ?_, ?_, ?_, ?_⟩
      · rw [List.mapM_cons, part, written]
        rfl
      · have split : (fence.opener :: (body ++ [fence.closer])) ++ blocks.flatten =
            fence.opener :: (body ++ fence.closer :: blocks.flatten) := by simp
        rw [List.flatten_cons, split]
        exact (fewer.append (among.cons_cons fence.closer)).cons_cons fence.opener
      · simp [same]
      · intro number
        obtain ⟨shown, shown_eq, each⟩ := scanned (number + seen.length + 2)
        refine ⟨.fence ⟨fence.opener, seen.flatten, fence.closer, fence.opening, number⟩ :: shown, ?_,
          .cons (shown_as number) each⟩
        rw [scanLines_fence number kept opens open_still closes, shown_eq]

end Pass

/-! ## The structure is kept -/

/-- A text whose segments are shown is at rest where nothing is rendered. -/
theorem atRest_of_shown (off : settings.render = false) {source output : Text}
    (closed : (scan output).unclosed = none)
    (each : List.Forall₂ (Segment.ShownAs settings registry) (scan source).segments
      (scan output).segments) :
    AtRest settings registry output := by
  refine ⟨closed, ?_⟩
  intro shown mem
  obtain ⟨i, inside, at_i⟩ := List.getElem_of_mem mem
  have inside' : i < (scan source).segments.length := each.length_eq ▸ inside
  have alike := each.get inside' inside
  rw [List.get_eq_getElem, List.get_eq_getElem, at_i] at alike
  cases first : (scan source).segments[i] with
  | text raw => exact absurd alike (by rw [first]; exact not_false)
  | fence fence =>
    rw [first] at alike
    exact Fence.ShownAs.rests off alike

/-- A pass that renders nothing and returns keeps the fences of its document: nothing is submitted and
nothing has changed but the log, there are no images and no failures, and what is returned is scanned to
its end as many segments of the same kinds, where a text is the same text, a fence whose tag selects
nothing the same fence, and another fence the same but for its hidden lines. Every pass under the same
settings over what is returned returns it again. -/
theorem unrendered_pass_keeps_fences (press : Press) (settings : Settings)
    (off : settings.render = false) (registry : Registry) (engine : Engine ε)
    (schedule : List Nat → Schedule) (name source : Text)
    (session : Session ε) (result : PassResult)
    (ran : (Pass.runWith schedule press settings engine registry name source session).1 = .ok result) :
    result.artifacts = [] ∧ result.failures = [] ∧
    (∃ host, Pass.SameButLog session.rig.host host ∧
      (Pass.runWith schedule press settings engine registry name source session).2 =
        session.withHost host) ∧
    (Pass.runWith schedule press settings engine registry name source session).2.rig.submitted =
      session.rig.submitted ∧
    (scan result.output).unclosed = none ∧
    List.Forall₂ (Segment.ShownAs settings registry) (scan source).segments
      (scan result.output).segments ∧
    ∀ (schedule : List Nat → Schedule) (press : Press) (engine : Engine ε) (name : Text)
        (session : Session ε),
      ∃ host, Pass.SameButLog session.rig.host host ∧
        Pass.runWith schedule press settings engine registry name result.output session =
          (.ok ⟨result.output, [], []⟩, session.withHost host) := by
  obtain ⟨closed, found, -, -, made, -⟩ := Pass.runWith_ok ran
  -- nothing is asked for, so any rendering will do
  let rendering : Rendering := ⟨fun _ => default, fun _ => []⟩
  have grammar := (scan_eq_iff source (scan source).segments).mp (by rw [← closed])
  obtain ⟨blocks, blocks_eq, spells⟩ := grammar.blocks
  have isLines : Text.IsLines blocks.flatten := blocks_eq ▸ Text.isLines_lines source
  obtain ⟨texts, kept, written, among, same, scanned⟩ :=
    Pass.scanLines_unrendered rendering off spells isLines grammar.apart made
  obtain ⟨host, log, run⟩ := Pass.runWith_unasked closed made
    (Pass.unasked_of_unrendered off made) written schedule engine session
  have output : result = ⟨texts.flatten, [], []⟩ := by
    rw [run] at ran
    exact (Except.ok.inj ran).symm
  obtain ⟨shown, shown_eq, each⟩ := scanned 1
  have scan_output : scan result.output = ⟨shown, none⟩ := by
    rw [output, same, scan, (isLines.sublist among).lines_flatten, shown_eq]
  have closed_again : (scan result.output).unclosed = none := by rw [scan_output]
  have each_again : List.Forall₂ (Segment.ShownAs settings registry) (scan source).segments
      (scan result.output).segments := by rwa [scan_output]
  refine ⟨by rw [output], by rw [output], ⟨host, log, by rw [run]⟩, by rw [run]; rfl, closed_again,
    each_again, ?_⟩
  intro schedule press engine name session
  exact Pass.runWith_atRest (atRest_of_shown off closed_again each_again) schedule press engine name
    session

/-- A long indented fence with a hidden line and a shorter run of backticks in it, a foreign fence, and
a fence with a marker of its own. -/
def nestedFences : Text :=
  ("a\n  ````typ\n  % h\n```\n x\n  ````\n```rust\n% k\n```\n" ++
    "```typ-norender,hidelines=#\n#h\n%y\n```\n").toList

/-- What is shown of these. -/
def nestedFencesShown : Text :=
  ("a\n  ````typ\n```\n x\n  ````\n```rust\n% k\n```\n" ++
    "```typ-norender,hidelines=#\n%y\n```\n").toList

/-- The default settings without rendering and with a marker for hidden lines. -/
def showingSettings : Settings := { Settings.default with render := false, hidelines := ['%'] }

/-- A pass that renders nothing shows the three fences, and a second pass shows them again. -/
theorem nestedFences_shown :
    showingSettings.render = false ∧
    (Pass.run barePress showingSettings (bareCall onePage []).engine Registry.typst "d.md".toList nestedFences
      ⟨Cache.new none, bareRig⟩).1 = .ok ⟨nestedFencesShown, [], []⟩ ∧
    List.Forall₂ (Segment.ShownAs showingSettings Registry.typst) (scan nestedFences).segments
      (scan nestedFencesShown).segments ∧
    (Pass.run barePress showingSettings (bareCall onePage []).engine Registry.typst "d.md".toList
      nestedFencesShown ⟨Cache.new none, bareRig⟩).1 = .ok ⟨nestedFencesShown, [], []⟩ := by
  have ran : (Pass.run barePress showingSettings (bareCall onePage []).engine Registry.typst "d.md".toList
      nestedFences ⟨Cache.new none, bareRig⟩).1 = .ok ⟨nestedFencesShown, [], []⟩ := by
    decide +kernel
  obtain ⟨-, -, -, -, -, each, again⟩ := unrendered_pass_keeps_fences barePress showingSettings rfl
    Registry.typst (bareCall onePage []).engine Schedule.inOrder "d.md".toList nestedFences
    ⟨Cache.new none, bareRig⟩ _ ran
  obtain ⟨host, -, second⟩ := again Schedule.inOrder barePress (bareCall onePage []).engine "d.md".toList
    ⟨Cache.new none, bareRig⟩
  refine ⟨rfl, ran, each, ?_⟩
  unfold Pass.run
  rw [second]

end TypstFences
