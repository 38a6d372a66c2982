import TypstFences.Proofs.Document.LineEndings
import TypstFences.Proofs.Pass.Unrendered

/-!
# Passes over documents with carriage returns

A carriage return in front of each line feed of a document goes through a pass that renders nothing: the
fences are the same and planned alike, and what is written for each has the carriage returns
(`Piece.written_withReturns`). So such a pass ends with the same error, or returns what it would, with
carriage returns (`carriage_returns_go_through`).
-/

set_option autoImplicit false

namespace TypstFences

variable {settings : Settings} {registry : Registry} {name : Text}

/-- The document with carriage returns in its texts. -/
def Document.withReturns (document : Document) : Document :=
  { document with segments := document.segments.map Segment.withReturns }

/-- The result with carriage returns in the document written back. -/
def PassResult.withReturns (result : PassResult) : PassResult :=
  { result with output := Text.withReturns result.output }

/-- Whether the info string of a segment, if it is a fence, is refused or gives a marker without characters
that end a line. -/
def Segment.MarkedInLine (settings : Settings) (registry : Registry) (segment : Segment) : Prop :=
  ∀ fence directive, segment = .fence fence → Directive.read registry fence.info = .ok directive →
    Text.InLine (directive.marker settings.hidelines)

/-- A segment with carriage returns is refused like the segment without, or what is written for it has the
carriage returns. -/
theorem Piece.written_withReturns (press press' : Press) (rendering : Rendering)
    (off : settings.render = false)
    {segment : Segment} (clean : segment.MarkedInLine settings registry) :
    (∃ error, ofSegment settings registry name segment = .error error ∧
      ofSegment settings registry name segment.withReturns = .error error) ∨
    ∃ piece piece' text, ofSegment settings registry name segment = .ok piece ∧
      ofSegment settings registry name segment.withReturns = .ok piece' ∧
      piece.written press settings rendering name = .ok text ∧
      piece'.written press' settings rendering name = .ok (Text.withReturns text) := by
  cases segment with
  | text raw => exact .inr ⟨.text raw, .text (Text.withReturns raw), raw, rfl, rfl, rfl, rfl⟩
  | fence fence =>
    have info_eq : fence.withReturns.info = fence.info := rfl
    unfold Segment.withReturns
    rw [ofSegment, ofSegment, info_eq]
    cases read : Directive.read registry fence.info with
    | error fault => exact .inl ⟨_, rfl, rfl⟩
    | ok directive =>
      have inLine : Text.InLine (directive.marker settings.hidelines) := clean fence directive rfl read
      right
      simp only [Plan.ofDirective?_unrendered off]
      by_cases selects : registry.behaviour directive.tag = .passthrough
      · refine ⟨_, _, fence.raw, rfl, rfl, ?_, ?_⟩
        · rw [if_pos selects]
          rfl
        · rw [if_pos selects, ← fence.raw_withReturns]
          rfl
      · let display := (HiddenLines.views (directive.marker settings.hidelines) fence.body).display
        refine ⟨_, _, fence.opener ++ display ++ fence.closer, rfl, rfl, ?_, ?_⟩
        · rw [if_neg selects]
          rfl
        · have shown : (HiddenLines.views (directive.marker settings.hidelines)
              (Text.withReturns fence.body)).display = Text.withReturns display := by
            rw [HiddenLines.views_withReturns inLine]
          rw [if_neg selects, Text.withReturns_append, Text.withReturns_append, ← shown]
          rfl

namespace Pass

/-- Segments with carriage returns are refused like the segments without, or what is written for them has
the carriage returns. -/
theorem written_withReturns (press press' : Press) (rendering : Rendering) (off : settings.render = false)
    {segments : List Segment} (clean : ∀ segment ∈ segments, segment.MarkedInLine settings registry) :
    (∃ error, pieces settings registry name segments = .error error ∧
      pieces settings registry name (segments.map Segment.withReturns) = .error error) ∨
    ∃ found found' texts, pieces settings registry name segments = .ok found ∧
      pieces settings registry name (segments.map Segment.withReturns) = .ok found' ∧
      found.mapM (Piece.written press settings rendering name) = .ok texts ∧
      found'.mapM (Piece.written press' settings rendering name) = .ok (texts.map Text.withReturns) := by
  induction segments with
  | nil => exact .inr ⟨[], [], [], rfl, rfl, rfl, rfl⟩
  | cons segment segments ih =>
    rw [List.forall_mem_cons] at clean
    rw [List.map_cons, pieces_cons, pieces_cons]
    rcases Piece.written_withReturns press press' rendering off clean.1 with
      ⟨error, refused, refused'⟩ | ⟨piece, piece', text, first, first', part, part'⟩
    · exact .inl ⟨error, by rw [refused], by rw [refused']⟩
    · rw [first, first']
      rcases ih clean.2 with
        ⟨error, refused, refused'⟩ | ⟨found, found', texts, made, made', written, written'⟩
      · exact .inl ⟨error, by rw [refused]; rfl, by rw [refused']; rfl⟩
      · refine .inr ⟨piece :: found, piece' :: found', text :: texts, ?_, ?_, ?_, ?_⟩
        · rw [made]
          rfl
        · rw [made']
          rfl
        · rw [List.mapM_cons, part, written]
          rfl
        · rw [List.mapM_cons, part', written']
          rfl

/-- A pass that renders nothing ends with the same error if there are carriage returns in the document, or
returns what it would, with carriage returns. -/
theorem runWith_withReturns {ε : Type} (off : settings.render = false)
    (clean : Text.InLine settings.hidelines) {source : Text} (plain : '\r' ∉ source)
    (press press' : Press) (engine engine' : Engine ε) (schedule schedule' : List Nat → Schedule)
    (session session' : Session ε) :
    (runWith schedule' press' settings engine' registry name (Text.withReturns source) session').1 =
      (runWith schedule press settings engine registry name source session).1.map PassResult.withReturns := by
  have scanned := scan_withReturns source
  cases open_eq : (scan source).unclosed with
  | some openFence =>
    have open_eq' : (scan (Text.withReturns source)).unclosed = some openFence.withReturns := by
      rw [scanned, Scan.withReturns, open_eq]
      rfl
    obtain ⟨host, -, run⟩ := runWith_of_unclosed open_eq schedule press settings engine registry name session
    obtain ⟨host', -, run'⟩ :=
      runWith_of_unclosed open_eq' schedule' press' settings engine' registry name session'
    rw [run, run']
    rfl
  | none =>
    have closed' : (scan (Text.withReturns source)).unclosed = none := by
      rw [scanned, Scan.withReturns, open_eq]
      rfl
    have segments_eq : (scan (Text.withReturns source)).segments =
        (scan source).segments.map Segment.withReturns := by rw [scanned, Scan.withReturns]
    have marked : ∀ segment ∈ (scan source).segments, segment.MarkedInLine settings registry := by
      rintro segment mem fence directive rfl read
      exact inLine_marker plain clean open_eq mem read
    -- nothing is asked for, so any rendering will do
    let rendering : Rendering := ⟨fun _ => default, fun _ => []⟩
    rcases written_withReturns press press' rendering off marked with
      ⟨error, refused, refused'⟩ | ⟨found, found', texts, made, made', written, written'⟩
    · rw [← segments_eq] at refused'
      obtain ⟨host, -, run⟩ := runWith_of_refused open_eq refused schedule press engine session
      obtain ⟨host', -, run'⟩ := runWith_of_refused closed' refused' schedule' press' engine' session'
      rw [run, run']
      rfl
    · rw [← segments_eq] at made'
      obtain ⟨host, -, run⟩ := runWith_unasked open_eq made (unasked_of_unrendered off made) written
        schedule engine session
      obtain ⟨host', -, run'⟩ := runWith_unasked closed' made' (unasked_of_unrendered off made') written'
        schedule' engine' session'
      rw [run, run']
      simp only [Except.map, PassResult.withReturns, Text.withReturns_flatten]

end Pass

/-- A document without carriage returns is scanned with them as the same segments, or the same fence is
open, with carriage returns in all texts. Dedenting keeps the carriage returns, and so do both views of a
block, for no marker of a fence in the document has a character that ends a line, if the default has none.
So a pass that renders nothing ends with the same error, or returns what it would, with carriage returns. -/
theorem carriage_returns_go_through {ε : Type} (source : Text) (plain : '\r' ∉ source) :
    scan (Text.withReturns source) = (scan source).withReturns ∧
    (∀ name host host', (Pass.readDocument name (Text.withReturns source) host').1 =
      (Pass.readDocument name source host).1.map Document.withReturns) ∧
    (∀ indentation body, Text.dedent indentation (Text.withReturns body) =
      Text.withReturns (Text.dedent indentation body)) ∧
    (∀ marker, Text.InLine marker → ∀ body, HiddenLines.views marker (Text.withReturns body) =
      ⟨Text.withReturns (HiddenLines.views marker body).compiled,
        Text.withReturns (HiddenLines.views marker body).display⟩) ∧
    ∀ settings : Settings, Text.InLine settings.hidelines → ∀ registry,
      ((scan source).unclosed = none → ∀ fence, .fence fence ∈ (scan source).segments → ∀ directive,
        Directive.read registry fence.info = .ok directive →
          Text.InLine (directive.marker settings.hidelines)) ∧
      (settings.render = false → ∀ (press press' : Press) (engine engine' : Engine ε) schedule schedule'
        name session session',
        (Pass.runWith schedule' press' settings engine' registry name (Text.withReturns source) session').1 =
          (Pass.runWith schedule press settings engine registry name source session).1.map
            PassResult.withReturns) := by
  refine ⟨scan_withReturns source, ?_, Text.dedent_withReturns, fun _ => HiddenLines.views_withReturns, ?_⟩
  · intro name host host'
    rw [readDocument_fst, readDocument_fst, scan_withReturns, Scan.withReturns]
    cases (scan source).unclosed <;> rfl
  · intro settings clean registry
    refine ⟨fun closed fence mem directive read => inLine_marker plain clean closed mem read, ?_⟩
    intro off press press' engine engine' schedule schedule' name session session'
    exact Pass.runWith_withReturns off clean plain press press' engine engine' schedule schedule' session
      session'

/-- The three fences are shown with carriage returns as well, and an open fence is told alike. -/
theorem nestedFences_withReturns :
    (Pass.run barePress showingSettings (bareCall onePage []).engine Registry.typst "d.md".toList
      (Text.withReturns nestedFences) ⟨Cache.new none, bareRig⟩).1 =
        .ok ⟨Text.withReturns nestedFencesShown, [], []⟩ ∧
    Text.InLine ['%'] ∧
    (Pass.readDocument "d.md".toList (Text.withReturns "a\n``` typ\n".toList) bareRig.host).1 =
      .error (.unterminatedFence ⟨"d.md".toList, 2⟩ "```typ".toList) := by
  refine ⟨?_, ⟨by decide, by decide⟩, ?_⟩
  · obtain ⟨-, -, -, -, passes⟩ := @carriage_returns_go_through Unit nestedFences (by decide)
    have alike := (passes showingSettings ⟨by decide, by decide⟩ Registry.typst).2 rfl
    have ran : (Pass.run barePress showingSettings (bareCall onePage []).engine Registry.typst "d.md".toList
        nestedFences ⟨Cache.new none, bareRig⟩).1 = .ok ⟨nestedFencesShown, [], []⟩ := by
      decide +kernel
    unfold Pass.run at ran ⊢
    rw [alike barePress _ (bareCall onePage []).engine _ Schedule.inOrder, ran]
    rfl
  · obtain ⟨-, read, -⟩ := @carriage_returns_go_through Unit "a\n``` typ\n".toList (by decide)
    rw [read _ bareRig.host]
    decide

end TypstFences
