import TypstFences.Proofs.Pass.Evaluation

/-!
# The stages of a pass

A pass reads its document and plans it, which only notes something, and then renders what is planned
and writes the document (`runWith_eq`). So an error of a pass tells the stage that it ended in: an open
fence, an info string (`pieces_error`), the rendering of a block, or a template or style that cannot be
used (`conclude_error`).
-/

set_option autoImplicit false

namespace TypstFences

variable {ε : Type}

/-! ## Planning -/

namespace Pass

variable {press : Press} {settings : Settings} {registry : Registry} {name : Text} {engine : Engine ε}

/-- Each piece is made of the segment at its position. -/
theorem ofSegment_of_pieces {segments : List Segment} :
    ∀ {found : List Piece}, pieces settings registry name segments = .ok found →
      ∀ (i : Nat) segment piece, segments[i]? = some segment → found[i]? = some piece →
        Piece.ofSegment settings registry name segment = .ok piece := by
  induction segments with
  | nil => exact fun _ i segment piece listed => absurd listed (by simp)
  | cons head segments ih =>
    intro found h i segment piece listed at_i
    obtain ⟨made, others, first, rest, rfl⟩ := pieces_cons_ok.mp h
    cases i with
    | zero =>
      obtain rfl := Option.some.inj listed
      obtain rfl := Option.some.inj at_i
      exact first
    | succ i => exact ih rest i segment piece listed at_i

/-- Pieces are refused for an info string only. -/
theorem pieces_error {segments : List Segment} {error : PassError} :
    pieces settings registry name segments = .error error →
      ∃ location info fault, error = .invalidDirective location info fault := by
  induction segments with
  | nil => exact fun h => absurd h (by simp [pieces, pure, Except.pure])
  | cons head segments ih =>
    intro h
    rcases pieces_cons_error.mp h with first | ⟨-, rest⟩
    · cases head with
      | text raw => exact absurd first (by simp [Piece.ofSegment])
      | fence block =>
        rw [Piece.ofSegment] at first
        split at first
        · exact ⟨_, _, _, (Except.error.inj first).symm⟩
        · exact absurd first (by simp)
    · exact ih rest

/-- What a pass does when its document is planned: it renders the requests and concludes from the results. -/
def renderPieces (schedule : List Nat → Schedule) (press : Press) (settings : Settings) (engine : Engine ε)
    (name : Text) (found : List Piece) (session : Session ε) : Except PassError PassResult × Session ε :=
  let document : Document := ⟨name, found.map Piece.segment⟩
  let plans := plansFrom 0 found
  let requests := Plan.requests plans
  match renderRequests settings engine requests (onFailure settings document)
      (schedule (requests.map (·.1))) [] session with
  | (.error error, session) => (.error error, session)
  | (.ok (results, _), session) =>
    let (result, rig) := conclude press settings engine document plans results session.rig
    (result, { session with rig := rig })

/-- The host after a pass has read and planned its document. -/
def plannedHost (settings : Settings) (registry : Registry) (name source : Text) (host : Host) : Host :=
  match readDocument name source host with
  | (.error _, host) => host
  | (.ok document, host) => (Plan.ofFences settings registry name document.fences host).2

/-- A pass ends with an open fence or a faulty info string, or renders the pieces of its document. -/
theorem runWith_eq_planned (schedule : List Nat → Schedule) (press : Press) (settings : Settings)
    (engine : Engine ε)
    (registry : Registry) (name source : Text) (session : Session ε) :
    SameButLog session.rig.host (plannedHost settings registry name source session.rig.host) ∧
      runWith schedule press settings engine registry name source session =
        match (scan source).unclosed with
        | some openFence =>
          (.error (.unterminatedFence ⟨name, openFence.line⟩ openFence.shown),
            session.withHost (plannedHost settings registry name source session.rig.host))
        | none =>
          match pieces settings registry name (scan source).segments with
          | .error error => (.error error,
              session.withHost (plannedHost settings registry name source session.rig.host))
          | .ok found => renderPieces schedule press settings engine name found
              (session.withHost (plannedHost settings registry name source session.rig.host)) := by
  obtain ⟨read, read_eq, read_log⟩ := readDocument_eq name source session.rig.host
  unfold runWith plannedHost
  rw [read_eq]
  cases (scan source).unclosed with
  | some openFence => exact ⟨read_log, rfl⟩
  | none =>
    obtain ⟨planned, planned_eq, planned_log⟩ :=
      ofFences_eq settings registry name (scan source).segments 0 read
    have fences_eq : (⟨name, (scan source).segments⟩ : Document).fences =
        fencesFrom 0 (scan source).segments := rfl
    simp only [fences_eq, planned_eq]
    refine ⟨read_log.trans planned_log, ?_⟩
    cases found : pieces settings registry name (scan source).segments with
    | error error => rfl
    | ok parts =>
      rw [← segments_of_pieces found]
      unfold renderPieces
      simp only [Except.map]
      cases rendered : renderRequests settings engine (Plan.requests (plansFrom 0 parts))
          (onFailure settings ⟨name, parts.map Piece.segment⟩)
          (schedule ((Plan.requests (plansFrom 0 parts)).map (·.1))) [] (session.withHost planned) with
      | mk outcome after =>
        cases outcome with
        | error error => rfl
        | ok both =>
          obtain ⟨results, noted⟩ := both
          simp only [finish_of_renderRequests (pairwise_plansFrom parts 0) (congrArg Prod.fst rendered)]

/-- A pass reads the document, then its directives, and then renders its pieces; what it notes meanwhile
changes no files. -/
theorem runWith_eq (schedule : List Nat → Schedule) (press : Press) (settings : Settings) (engine : Engine ε)
    (registry : Registry) (name source : Text) (session : Session ε) :
    ∃ host, SameButLog session.rig.host host ∧
      runWith schedule press settings engine registry name source session =
        match (scan source).unclosed with
        | some openFence =>
          (.error (.unterminatedFence ⟨name, openFence.line⟩ openFence.shown), session.withHost host)
        | none =>
          match pieces settings registry name (scan source).segments with
          | .error error => (.error error, session.withHost host)
          | .ok found => renderPieces schedule press settings engine name found (session.withHost host) :=
  ⟨_, runWith_eq_planned schedule press settings engine registry name source session⟩

variable {source : Text}

/-- A pass over a document with an open fence ends in the error that tells it. -/
theorem runWith_of_unclosed {openFence : OpenFence} (found : (scan source).unclosed = some openFence)
    (schedule : List Nat → Schedule) (press : Press) (settings : Settings) (engine : Engine ε)
    (registry : Registry) (name : Text) (session : Session ε) :
    ∃ host, SameButLog session.rig.host host ∧
      runWith schedule press settings engine registry name source session =
        (.error (.unterminatedFence ⟨name, openFence.line⟩ openFence.shown),
          session.withHost host) := by
  obtain ⟨host, log, run⟩ := runWith_eq schedule press settings engine registry name source session
  refine ⟨host, log, ?_⟩
  rw [run, found]

/-- A pass over a document without an open fence ends in the error of planning, if there is one. -/
theorem runWith_of_refused {error : PassError} (closed : (scan source).unclosed = none)
    (made : pieces settings registry name (scan source).segments = .error error)
    (schedule : List Nat → Schedule) (press : Press) (engine : Engine ε) (session : Session ε) :
    ∃ host, SameButLog session.rig.host host ∧
      runWith schedule press settings engine registry name source session =
        (.error error, session.withHost host) := by
  obtain ⟨host, log, run⟩ := runWith_eq schedule press settings engine registry name source session
  refine ⟨host, log, ?_⟩
  rw [run, closed]
  simp only [made]

/-- A pass over a document that can be planned renders its pieces. -/
theorem runWith_of_planned {found : List Piece} (closed : (scan source).unclosed = none)
    (made : pieces settings registry name (scan source).segments = .ok found)
    (schedule : List Nat → Schedule) (press : Press) (engine : Engine ε) (session : Session ε) :
    ∃ host, SameButLog session.rig.host host ∧
      runWith schedule press settings engine registry name source session =
        renderPieces schedule press settings engine name found (session.withHost host) := by
  obtain ⟨host, log, run⟩ := runWith_eq schedule press settings engine registry name source session
  refine ⟨host, log, ?_⟩
  rw [run, closed]
  simp only [made]

end Pass

/-! ## Writing the document -/

namespace Replacement

variable {press : Press} {settings : Settings} {error : PassError}

/-- Images are shown unless the template cannot be used. -/
theorem imageElements_error {address : Nat → Template.Address} {names : List Text} :
    ∀ page, imageElements address settings page names = .error error →
      ∃ fault, error = .badTemplate fault := by
  induction names with
  | nil => exact fun _ h => absurd h (by simp [imageElements])
  | cons image names ih =>
    intro page h
    rw [imageElements] at h
    split at h
    · exact ⟨_, (Except.error.inj h).symm⟩
    · split at h
      · exact absurd h (by simp)
      · rename_i rest
        rw [Except.error.inj h] at rest
        exact ih (page + 1) rest

/-- Where a source is not shown, the style is unknown. -/
theorem sourceElements_error {display : Text}
    (h : sourceElements press.highlighter settings display = .error error) : error = .unknownStyle := by
  unfold sourceElements at h
  split at h
  · split at h
    · exact absurd h (by simp)
    · exact (Except.error.inj h).symm
  · exact absurd h (by simp)

/-- Where a fence is not written, its template or the style is at fault. -/
theorem ofFence_error {fence : Fence} {outcome : Outcome}
    (h : ofFence press settings fence outcome = .error error) :
    (∃ fault, error = .badTemplate fault) ∨ error = .unknownStyle := by
  cases outcome with
  | kept => exact absurd h (by simp [ofFence])
  | literal => exact absurd h (by simp [ofFence])
  | failed => exact absurd h (by simp [ofFence])
  | rendered display names =>
    rw [ofFence, embedding] at h
    cases shown : sourceElements press.highlighter settings display with
    | error refused =>
      rw [shown] at h
      obtain rfl : refused = error := Except.error.inj h
      exact .inr (sourceElements_error shown)
    | ok source =>
      cases images : imageElements (press.address fence.line) settings 1 names with
      | error refused =>
        rw [shown, images] at h
        obtain rfl : refused = error := Except.error.inj h
        exact .inl (imageElements_error 1 images)
      | ok elements =>
        rw [shown, images] at h
        exact absurd h (by simp)

/-- A document is not written for its template or its style only. -/
theorem ofSegments_error {outcomes : List (Nat × Outcome)} {segments : List Segment} :
    ∀ index, ofSegments press settings outcomes index segments = .error error →
      (∃ fault, error = .badTemplate fault) ∨ error = .unknownStyle := by
  induction segments with
  | nil => exact fun _ h => absurd h (by simp [ofSegments])
  | cons segment segments ih =>
    intro index h
    rw [ofSegments] at h
    split at h
    · rename_i failed
      rw [Except.error.inj h] at failed
      cases segment with
      | text raw => exact absurd failed (by simp [ofSegment])
      | fence block => exact ofFence_error failed
    · split at h
      · exact absurd h (by simp)
      · rename_i failed
        rw [Except.error.inj h] at failed
        exact ih _ failed

end Replacement

namespace Pass

variable {press : Press} {settings : Settings} {engine : Engine ε} {document : Document}
variable {plans : List (Nat × Plan)} {results : List (Nat × RenderResult)} {rig : Rig ε}

/-- Names are found for all images, unless the engine does not tell its version. -/
theorem gatherImages_error {requests : List (Nat × Request)} {error : PassError} :
    ∀ {images : List (Text × Bytes)} {rig : Rig ε},
      (gatherImages settings engine requests results images rig).1 = .error error →
        ∃ rig, (engine.version rig).1 = .error error := by
  induction results with
  | nil => exact fun h => absurd h (by simp [gatherImages])
  | cons entry results ih =>
    intro images rig h
    obtain ⟨index, artifact | failure⟩ := entry
    · rw [gatherImages, requestDigest_eq_map] at h
      cases told : engine.version rig with
      | mk outcome after =>
        rw [told] at h
        cases outcome with
        | error other =>
          obtain rfl : other = error := Except.error.inj h
          exact ⟨rig, congrArg Prod.fst told⟩
        | ok version =>
          simp only [Except.map] at h
          split at h
          · rename_i failed
            exact ih ((congrArg Prod.fst failed).trans h)
          · exact absurd h (by simp)
    · exact ih h

/-- A pass that has its results ends in no error but one of the template or the style, or one of the engine
that does not tell its version. -/
theorem conclude_error {error : PassError}
    (h : (conclude press settings engine document plans results rig).1 = .error error) :
    (∃ rig, (engine.version rig).1 = .error error) ∨ (∃ fault, error = .badTemplate fault) ∨
      error = .unknownStyle := by
  unfold conclude at h
  split at h
  · rename_i other _ failed
    obtain rfl : other = error := Except.error.inj h
    exact .inl (gatherImages_error (congrArg Prod.fst failed))
  · split at h
    · rename_i failed
      rw [Except.error.inj h] at failed
      exact .inr (Replacement.ofSegments_error 0 failed)
    · exact absurd h (by simp)

/-- The failures of a pass are those among its results, in the order of the plans. -/
theorem conclude_failures {result : PassResult}
    (h : (conclude press settings engine document plans results rig).1 = .ok result) :
    result.failures = plans.filterMap fun entry => (failuresOf document results).lookup entry.1 := by
  unfold conclude at h
  split at h
  · exact absurd h (by simp)
  · split at h
    · exact absurd h (by simp)
    · rw [← Except.ok.inj h]

end Pass

end TypstFences
