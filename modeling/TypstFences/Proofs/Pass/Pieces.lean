import TypstFences.Proofs.Document.Concat
import TypstFences.Proofs.Pass.Meaning
import TypstFences.Proofs.Pass.Steadiness

/-!
# Pieces further down and side by side

The pieces of a text that stands below another are its pieces, some lines further down (`pieces_below`):
their images are the same, their failures are told further down, and without failures they are written as
before if the template shows no places in memory. When two texts stand one after the other, the pieces of
both stand side by side, with the runs of text that meet joined to one (`pieces_beside`). What is written is
the text of the first and then that of the second (`writtenAll_beside`), and all else is gathered from both
(`flatMap_beside`).
-/

set_option autoImplicit false

namespace TypstFences

/-! ## Further down -/

/-- The location, some lines further down. -/
def Location.below (n : Nat) (location : Location) : Location :=
  { location with line := location.line + n }

/-- The failure, some lines further down. -/
def BlockFailure.below (n : Nat) (failure : BlockFailure) : BlockFailure :=
  { failure with location := failure.location.below n }

/-- The error, some lines further down. An error that is not about the document has no line. -/
def PassError.below (n : Nat) : PassError → PassError
  | .unterminatedFence location fence => .unterminatedFence (location.below n) fence
  | .invalidDirective location info fault => .invalidDirective (location.below n) info fault
  | .renderFailure failures => .renderFailure (failures.map (BlockFailure.below n))
  | error => error

namespace Replacement

variable {press : Press} {settings : Settings} {error : PassError}

/-- Images can be refused for their template only, and then the error has no line. -/
theorem imageElements_error_below {address : Nat → Template.Address} (n : Nat) (names : List Text) :
    ∀ page, imageElements address settings page names = .error error → error.below n = error := by
  induction names with
  | nil => exact fun _ h => absurd h (by simp [imageElements])
  | cons name names ih =>
    intro page h
    rw [imageElements] at h
    split at h
    · obtain rfl := Except.error.inj h
      rfl
    · split at h
      · exact absurd h (by simp)
      · rename_i refused
        obtain rfl := Except.error.inj h
        exact ih (page + 1) refused

/-- The source of a block can be refused for the style only. -/
theorem sourceElements_error_below {display : Text}
    (h : sourceElements press.highlighter settings display = .error error) (n : Nat) :
    error.below n = error := by
  unfold sourceElements at h
  split at h
  · split at h
    · exact absurd h (by simp)
    · obtain rfl := Except.error.inj h
      rfl
  · exact absurd h (by simp)

/-- What replaces a fence can be refused for the settings only, so the error has no line. -/
theorem ofFence_error_below {fence : Fence} {outcome : Outcome}
    (h : ofFence press settings fence outcome = .error error) (n : Nat) : error.below n = error := by
  cases outcome with
  | kept => exact absurd h (by simp [ofFence])
  | literal display => exact absurd h (by simp [ofFence])
  | failed failure => exact absurd h (by simp [ofFence])
  | rendered display pages =>
    simp only [ofFence, embedding] at h
    cases source : sourceElements press.highlighter settings display with
    | error refused =>
      obtain rfl : refused = error := by simpa [source] using h
      exact sourceElements_error_below source n
    | ok elements =>
      cases images : imageElements (press.address fence.line) settings 1 pages with
      | error refused =>
        obtain rfl : refused = error := by simpa [source, images] using h
        exact imageElements_error_below n pages 1 images
      | ok others => exact absurd h (by simp [source, images])

end Replacement

/-- A failure of a fence further down is told further down. -/
theorem Pass.locate_below (name : Text) (fence : Fence) (failure : Failure) (n : Nat) :
    locate name (fence.below n) failure = (locate name fence failure).below n := by
  have line : ((fence.line + n : Nat) : Int) + failure.line.getD 0 =
      fence.line + failure.line.getD 0 + n := by
    push_cast
    omega
  simp only [locate, Fence.below, BlockFailure.below, Location.below, line]

namespace Piece

variable {press : Press} {settings : Settings} {registry : Registry} {name : Text} {rendering : Rendering}

/-- The piece, some lines further down. -/
def below (n : Nat) : Piece → Piece
  | .text raw => .text raw
  | .fence block plan => .fence (block.below n) plan

/-- A segment further down becomes the same piece there, or is refused there. -/
theorem ofSegment_below (n : Nat) (segment : Segment) :
    ofSegment settings registry name (segment.below n) =
      ((ofSegment settings registry name segment).map (below n)).mapError (PassError.below n) := by
  cases segment with
  | text raw => rfl
  | fence block =>
    unfold Segment.below
    rw [ofSegment, ofSegment]
    have info : (block.below n).info = block.info := rfl
    rw [info]
    cases Directive.read registry block.info with
    | error fault => rfl
    | ok directive => rfl

/-- The images of a piece are the same further down. -/
theorem images_below (n : Nat) (piece : Piece) :
    (piece.below n).images rendering = piece.images rendering := by
  cases piece <;> rfl

/-- The failures of a piece further down. -/
theorem failures_below (n : Nat) (piece : Piece) :
    (piece.below n).failures rendering name =
      (piece.failures rendering name).map (BlockFailure.below n) := by
  cases piece with
  | text raw => rfl
  | fence block plan =>
    rcases plan with - | (display | ⟨request, display⟩)
    · rfl
    · rfl
    · simp only [below, failures]
      cases (rendering.answer request).failure? with
      | none => rfl
      | some failure => simp [Pass.locate_below]

/-- A piece that does not fail is written the same further down. -/
theorem written_below (steady : settings.Steady) {piece : Piece} (n : Nat)
    (quiet : piece.failures rendering name = []) :
    (piece.below n).written press settings rendering name = piece.written press settings rendering name := by
  cases piece with
  | text raw => rfl
  | fence block plan =>
    rcases plan with - | (display | ⟨request, display⟩)
    · rfl
    · rfl
    · simp only [failures] at quiet
      simp only [below, written, Option.map_some, Option.getD_some, Rendering.outcome]
      cases answered : rendering.answer request with
      | artifact artifact =>
        simp only [Replacement.ofFence]
        rw [Replacement.embedding_steady steady rfl (block.below n).line block.line]
        rfl
      | failure failure => simp [answered, RenderResult.failure?] at quiet

/-- A piece that fails is written as a notice. -/
theorem written_of_failures (settings : Settings) {piece : Piece}
    (failed : piece.failures rendering name ≠ []) :
    ∃ text, piece.written press settings rendering name = .ok text := by
  cases piece with
  | text raw => exact ⟨raw, rfl⟩
  | fence block plan =>
    rcases plan with - | (display | ⟨request, display⟩)
    · exact absurd rfl failed
    · exact absurd rfl failed
    · simp only [failures] at failed
      simp only [written, Option.map_some, Option.getD_some, Rendering.outcome]
      cases answered : rendering.answer request with
      | artifact artifact => simp [answered, RenderResult.failure?] at failed
      | failure failure => exact ⟨_, rfl⟩

/-- A piece is refused for the settings only, so the error has no line. -/
theorem written_error_below {piece : Piece} {error : PassError}
    (refused : piece.written press settings rendering name = .error error) (n : Nat) :
    error.below n = error := by
  cases piece with
  | text raw => exact absurd refused (by simp [written])
  | fence block plan => exact Replacement.ofFence_error_below refused n

/-! ## Side by side -/

/-- The pieces with a text in front, joined to a run of text that they begin with. -/
def consText (text : Text) : List Piece → List Piece
  | .text raw :: pieces => .text (text ++ raw) :: pieces
  | pieces => .text text :: pieces

/-- The pieces with a piece in front, joined to a run of text that they begin with if it is one. -/
def onto : Piece → List Piece → List Piece
  | .text raw, pieces => consText raw pieces
  | .fence block plan, pieces => .fence block plan :: pieces

/-- The pieces of two texts side by side, with runs of text joined where they meet. -/
def beside (first second : List Piece) : List Piece := first.foldr onto second

/-- What pieces contribute besides text, with a piece in front. -/
theorem flatMap_onto {β : Type} {f : Piece → List β} (silent : ∀ raw, f (.text raw) = [])
    (piece : Piece) (pieces : List Piece) :
    (onto piece pieces).flatMap f = f piece ++ pieces.flatMap f := by
  cases piece with
  | fence block plan => rfl
  | text raw =>
    cases pieces with
    | nil => rfl
    | cons next pieces =>
      cases next with
      | text other => simp [onto, consText, silent]
      | fence block plan => rfl

/-- What pieces side by side contribute besides text. -/
theorem flatMap_beside {β : Type} {f : Piece → List β} (silent : ∀ raw, f (.text raw) = [])
    (first second : List Piece) :
    (beside first second).flatMap f = first.flatMap f ++ second.flatMap f := by
  induction first with
  | nil => rfl
  | cons piece first ih =>
    have step : beside (piece :: first) second = onto piece (beside first second) := rfl
    rw [step, flatMap_onto silent, ih, List.flatMap_cons, List.append_assoc]

/-- The text that is written for pieces. -/
def writtenAll (press : Press) (settings : Settings) (rendering : Rendering) (name : Text)
    (pieces : List Piece) : Except PassError Text :=
  (pieces.mapM (written press settings rendering name)).map List.flatten

/-- The text that is written for a piece and those after it. -/
theorem writtenAll_cons (piece : Piece) (pieces : List Piece) :
    writtenAll press settings rendering name (piece :: pieces) =
      (piece.written press settings rendering name).bind fun text =>
        (writtenAll press settings rendering name pieces).map (text ++ ·) := by
  rw [writtenAll, writtenAll, List.mapM_cons]
  cases piece.written press settings rendering name with
  | error error => rfl
  | ok text => cases pieces.mapM (written press settings rendering name) <;> rfl

/-- The text that is written for pieces with a piece in front. -/
theorem writtenAll_onto (piece : Piece) (pieces : List Piece) :
    writtenAll press settings rendering name (onto piece pieces) =
      (piece.written press settings rendering name).bind fun text =>
        (writtenAll press settings rendering name pieces).map (text ++ ·) := by
  cases piece with
  | fence block plan => exact writtenAll_cons (.fence block plan) pieces
  | text raw =>
    cases pieces with
    | nil => rfl
    | cons next pieces =>
      cases next with
      | fence block plan => exact writtenAll_cons (.text raw) (.fence block plan :: pieces)
      | text other =>
        show writtenAll press settings rendering name (.text (raw ++ other) :: pieces) = _
        rw [writtenAll_cons, writtenAll_cons]
        cases writtenAll press settings rendering name pieces with
        | error error => rfl
        | ok text => exact congrArg Except.ok (List.append_assoc raw other text)

/-- The text that is written for pieces side by side. -/
theorem writtenAll_beside {first : List Piece} (second : List Piece) :
    ∀ {text}, writtenAll press settings rendering name first = .ok text →
      writtenAll press settings rendering name (beside first second) =
        (writtenAll press settings rendering name second).map (text ++ ·) := by
  induction first with
  | nil =>
    intro text h
    obtain rfl : [] = text := Except.ok.inj h
    cases h' : writtenAll press settings rendering name second <;> simp [beside, h', Except.map]
  | cons piece first ih =>
    intro text h
    have step : beside (piece :: first) second = onto piece (beside first second) := rfl
    rw [writtenAll_cons] at h
    rw [step, writtenAll_onto]
    cases begun : piece.written press settings rendering name with
    | error error => exact absurd h (by simp [begun, Except.bind])
    | ok front =>
      cases others : writtenAll press settings rendering name first with
      | error error => exact absurd h (by simp [begun, others, Except.bind, Except.map])
      | ok rest =>
        obtain rfl : front ++ rest = text := by
          simpa [begun, others, Except.bind, Except.map] using h
        rw [ih others]
        cases writtenAll press settings rendering name second with
        | error error => rfl
        | ok text => exact congrArg Except.ok (List.append_assoc front rest text).symm

/-- Pieces that do not fail are written the same further down. -/
theorem writtenAll_below (press : Press) (steady : settings.Steady) (n : Nat) (pieces : List Piece)
    (quiet : pieces.flatMap (failures rendering name) = []) :
    writtenAll press settings rendering name (pieces.map (below n)) =
      writtenAll press settings rendering name pieces := by
  induction pieces with
  | nil => rfl
  | cons piece pieces ih =>
    rw [List.flatMap_cons, List.append_eq_nil_iff] at quiet
    rw [List.map_cons, writtenAll_cons, writtenAll_cons, written_below steady n quiet.1, ih quiet.2]

/-- Pieces can be written further down if they can be written, and else are refused with the same
error. -/
theorem writtenAll_below_cases (press : Press) (steady : settings.Steady) (rendering : Rendering)
    (name : Text)
    (n : Nat) (pieces : List Piece) :
    (∃ text lower, writtenAll press settings rendering name pieces = .ok text ∧
        writtenAll press settings rendering name (pieces.map (below n)) = .ok lower) ∨
      ∃ error, writtenAll press settings rendering name pieces = .error error ∧
        writtenAll press settings rendering name (pieces.map (below n)) = .error error ∧
        error.below n = error := by
  induction pieces with
  | nil => exact Or.inl ⟨[], [], rfl, rfl⟩
  | cons piece pieces ih =>
    rw [List.map_cons, writtenAll_cons, writtenAll_cons]
    by_cases quiet : piece.failures rendering name = []
    · rw [written_below steady n quiet]
      cases front : piece.written press settings rendering name with
      | error error => exact Or.inr ⟨error, rfl, rfl, written_error_below front n⟩
      | ok text =>
        rcases ih with ⟨rest, lower, h, h'⟩ | ⟨error, h, h', same⟩
        · exact Or.inl ⟨text ++ rest, text ++ lower, by rw [h]; rfl, by rw [h']; rfl⟩
        · exact Or.inr ⟨error, by rw [h]; rfl, by rw [h']; rfl, same⟩
    · obtain ⟨text, h⟩ := written_of_failures settings quiet
      have quiet' : (piece.below n).failures rendering name ≠ [] := by
        rw [failures_below]
        simpa using quiet
      obtain ⟨lowerText, h'⟩ := written_of_failures settings quiet'
      rw [h, h']
      rcases ih with ⟨rest, lower, h, h'⟩ | ⟨error, h, h', same⟩
      · exact Or.inl ⟨text ++ rest, lowerText ++ lower, by rw [h]; rfl, by rw [h']; rfl⟩
      · exact Or.inr ⟨error, by rw [h]; rfl, by rw [h']; rfl, same⟩

/-- The images of pieces are the same further down. -/
theorem flatMap_images_below (n : Nat) (pieces : List Piece) :
    (pieces.map (below n)).flatMap (images rendering) = pieces.flatMap (images rendering) := by
  rw [List.flatMap_map]
  exact List.flatMap_congr fun piece _ => images_below n piece

/-- The failures of pieces further down. -/
theorem flatMap_failures_below (n : Nat) (pieces : List Piece) :
    (pieces.map (below n)).flatMap (failures rendering name) =
      (pieces.flatMap (failures rendering name)).map (BlockFailure.below n) := by
  rw [List.flatMap_map, List.map_flatMap]
  exact List.flatMap_congr fun piece _ => failures_below n piece

end Piece

namespace Pass

variable {press : Press} {settings : Settings} {registry : Registry} {name : Text}

/-- Segments further down become the same pieces there, or are refused there. -/
theorem pieces_below (n : Nat) (segments : List Segment) :
    pieces settings registry name (segments.map (Segment.below n)) =
      ((pieces settings registry name segments).map (List.map (Piece.below n))).mapError
        (PassError.below n) := by
  induction segments with
  | nil => rfl
  | cons segment segments ih =>
    rw [List.map_cons, pieces_cons, pieces_cons, Piece.ofSegment_below, ih]
    cases Piece.ofSegment settings registry name segment with
    | error error => rfl
    | ok piece => cases pieces settings registry name segments <;> rfl

/-- The pieces that segments with a text in front become. -/
theorem pieces_consLine (text : Text) (segments : List Segment) :
    pieces settings registry name (Segment.consLine text segments) =
      (pieces settings registry name segments).map (Piece.consText text) := by
  cases segments with
  | nil => rfl
  | cons segment segments =>
    cases segment with
    | text raw =>
      show pieces settings registry name (.text (text ++ raw) :: segments) = _
      rw [pieces_cons, pieces_cons]
      cases pieces settings registry name segments <;> rfl
    | fence block =>
      show pieces settings registry name (.text text :: .fence block :: segments) = _
      rw [pieces_cons, pieces_cons, Piece.ofSegment, Piece.ofSegment]
      cases Directive.read registry block.info with
      | error fault => rfl
      | ok directive => cases pieces settings registry name segments <;> rfl

/-- The pieces that segments side by side become. -/
theorem pieces_beside {first : List Segment} (second : List Segment) :
    ∀ {found}, pieces settings registry name first = .ok found →
      pieces settings registry name (Segment.beside first second) =
        (pieces settings registry name second).map (Piece.beside found) := by
  induction first with
  | nil =>
    intro found h
    obtain rfl : [] = found := Except.ok.inj h
    cases h' : pieces settings registry name second <;>
      simp [Segment.beside, Piece.beside, h', Except.map]
  | cons segment first ih =>
    intro found h
    obtain ⟨piece, rest, begun, others, rfl⟩ := pieces_cons_ok.mp h
    have rest_eq := ih others
    cases segment with
    | text raw =>
      obtain rfl : .text raw = piece := Except.ok.inj begun
      show pieces settings registry name (Segment.consLine raw (Segment.beside first second)) = _
      rw [pieces_consLine, rest_eq]
      cases pieces settings registry name second <;> rfl
    | fence block =>
      show pieces settings registry name (.fence block :: Segment.beside first second) = _
      rw [pieces_cons, begun, rest_eq]
      rw [Piece.ofSegment] at begun
      split at begun
      · exact absurd begun (by simp)
      · obtain rfl := Except.ok.inj begun
        cases pieces settings registry name second <;> rfl

end Pass

end TypstFences
