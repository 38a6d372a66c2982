import TypstFences.Proofs.Association
import TypstFences.Proofs.Cache.Names
import TypstFences.Proofs.Document.Grammar
import TypstFences.Proofs.Pass.Steadiness

/-!
# What a pass comes to

A pass numbers the segments of a document and looks plans, results and outcomes up by these numbers.
What it comes to can be said without numbers: each segment becomes a piece, the segment with its
plan, and each piece contributes a text, failures and images of its own (`Pass.meaning`). The
planning of the segments is that of the pass (`ofFences_eq`), and what is made of delivered results
is what the pieces contribute (`conclude_eq`).
-/

set_option autoImplicit false

namespace TypstFences

variable {ε : Type}

/-- A segment together with what is to be done with it. -/
inductive Piece where
  | text (raw : Text)
  | fence (block : Fence) (plan : Option Plan)
  deriving Inhabited

/-- The results of requests, and their digests. -/
structure Rendering where
  answer : Request → RenderResult
  digest : Request → Text

/-- The images of an artifact by the names of its pages. -/
def Rendering.images (rendering : Rendering) (request : Request) : List (Text × Bytes) :=
  match rendering.answer request with
  | .artifact artifact =>
    (Pass.pageNames (rendering.digest request) artifact).zip artifact.pages
  | .failure _ => []

/-- What becomes of a fence with a plan. -/
def Rendering.outcome (rendering : Rendering) (name : Text) (block : Fence) : Plan → Outcome
  | .literal display => .literal display
  | .render request display =>
    match rendering.answer request with
    | .artifact artifact => .rendered display (Pass.pageNames (rendering.digest request) artifact)
    | .failure failure => .failed (Pass.locate name block failure)

namespace Piece

/-- The segment that the piece is made of. -/
def segment : Piece → Segment
  | .text raw => .text raw
  | .fence block _ => .fence block

/-- The plan of a piece. -/
def plan? : Piece → Option Plan
  | .text _ => none
  | .fence _ plan => plan

/-- The request of a piece. -/
def request? (piece : Piece) : Option Request := piece.plan?.bind Plan.request?

/-- The piece that a segment becomes, unless its info string is refused. -/
def ofSegment (settings : Settings) (registry : Registry) (name : Text) :
    Segment → Except PassError Piece
  | .text raw => .ok (.text raw)
  | .fence block =>
    match Directive.read registry block.info with
    | .error fault => .error (.invalidDirective ⟨name, block.line⟩ (Text.trim block.info) fault)
    | .ok directive => .ok (.fence block (Plan.ofDirective? settings registry directive block))

/-- A piece is made of its segment. -/
theorem segment_ofSegment {settings : Settings} {registry : Registry} {name : Text}
    {segment : Segment} {piece : Piece} (h : ofSegment settings registry name segment = .ok piece) :
    piece.segment = segment := by
  cases segment with
  | text raw =>
    obtain rfl := Except.ok.inj h
    rfl
  | fence block =>
    rw [ofSegment] at h
    split at h
    · exact absurd h (by simp)
    · obtain rfl := Except.ok.inj h
      rfl

/-- The text that is written for a piece. -/
def written (press : Press) (settings : Settings) (rendering : Rendering) (name : Text) :
    Piece → Except PassError Text
  | .text raw => .ok raw
  | .fence block plan =>
    Replacement.ofFence press settings block ((plan.map (rendering.outcome name block)).getD .kept)

/-- The failures of a piece, of which there is at most one. -/
def failures (rendering : Rendering) (name : Text) : Piece → List BlockFailure
  | .fence block (some (.render request _)) =>
    ((rendering.answer request).failure?.map (Pass.locate name block)).toList
  | _ => []

/-- The images of a piece. -/
def images (rendering : Rendering) (piece : Piece) : List (Text × Bytes) :=
  piece.request?.toList.flatMap rendering.images

end Piece

namespace Pass

/-- The pieces that segments become, unless an info string among them is refused. -/
def pieces (settings : Settings) (registry : Registry) (name : Text) (segments : List Segment) :
    Except PassError (List Piece) :=
  segments.mapM (Piece.ofSegment settings registry name)

/-- What pieces come to. -/
def piecesMeaning (press : Press) (settings : Settings) (rendering : Rendering) (name : Text)
    (pieces : List Piece) : Except PassError PassResult :=
  (pieces.mapM (Piece.written press settings rendering name)).map fun texts =>
    ⟨texts.flatten, pieces.flatMap (Piece.images rendering),
      pieces.flatMap (Piece.failures rendering name)⟩

/-- What a pass over a text comes to. -/
def meaning (press : Press) (settings : Settings) (registry : Registry) (rendering : Rendering)
    (name source : Text) : Except PassError PassResult :=
  match (scan source).unclosed with
  | some openFence => .error (.unterminatedFence ⟨name, openFence.line⟩ openFence.shown)
  | none =>
    match pieces settings registry name (scan source).segments with
    | .error error => .error error
    | .ok pieces => piecesMeaning press settings rendering name pieces

/-- The requests of a text. -/
def requestsOf (settings : Settings) (registry : Registry) (name source : Text) : List Request :=
  match pieces settings registry name (scan source).segments with
  | .error _ => []
  | .ok pieces => pieces.filterMap Piece.request?

/-- A list is mapped if its first element is and the others are. -/
theorem mapM_cons_ok {α β : Type} {f : α → Except PassError β} {first : α} {others : List α}
    {found : List β} :
    (first :: others).mapM f = .ok found ↔
      ∃ image rest, f first = .ok image ∧ others.mapM f = .ok rest ∧ found = image :: rest := by
  rw [List.mapM_cons]
  cases f first with
  | error error => simp [bind, Except.bind]
  | ok image =>
    cases others.mapM f with
    | error error => simp [bind, Except.bind]
    | ok rest => simp [bind, Except.bind, pure, Except.pure, eq_comm]

/-- The first segment is read before those after it. -/
theorem pieces_cons {settings : Settings} {registry : Registry} {name : Text} (segment : Segment)
    (segments : List Segment) :
    pieces settings registry name (segment :: segments) =
      match Piece.ofSegment settings registry name segment with
      | .error error => .error error
      | .ok piece => (pieces settings registry name segments).map (piece :: ·) := by
  unfold pieces
  rw [List.mapM_cons]
  cases Piece.ofSegment settings registry name segment with
  | error error => rfl
  | ok piece => cases segments.mapM (Piece.ofSegment settings registry name) <;> rfl

/-- Segments become pieces if the first does and those after it do. -/
theorem pieces_cons_ok {settings : Settings} {registry : Registry} {name : Text} {segment : Segment}
    {segments : List Segment} {found : List Piece} :
    pieces settings registry name (segment :: segments) = .ok found ↔
      ∃ piece rest, Piece.ofSegment settings registry name segment = .ok piece ∧
        pieces settings registry name segments = .ok rest ∧ found = piece :: rest :=
  mapM_cons_ok

/-- Segments are refused for the first, or else for one after it. -/
theorem pieces_cons_error {settings : Settings} {registry : Registry} {name : Text} {segment : Segment}
    {segments : List Segment} {error : PassError} :
    pieces settings registry name (segment :: segments) = .error error ↔
      Piece.ofSegment settings registry name segment = .error error ∨
        (∃ piece, Piece.ofSegment settings registry name segment = .ok piece) ∧
          pieces settings registry name segments = .error error := by
  rw [pieces_cons]
  cases Piece.ofSegment settings registry name segment with
  | error other => simp
  | ok piece => cases pieces settings registry name segments <;> simp [Except.map]

/-! ## Planning -/

/-- The fences of segments with their positions. -/
def fencesFrom (start : Nat) (segments : List Segment) : List (Nat × Fence) :=
  (segments.zipIdx start).filterMap fun entry => entry.1.fence?.map (entry.2, ·)

/-- The plans of pieces with their positions. -/
def plansFrom (start : Nat) (pieces : List Piece) : List (Nat × Plan) :=
  (pieces.zipIdx start).filterMap fun entry => entry.1.plan?.map (entry.2, ·)

variable {press : Press} {settings : Settings} {registry : Registry} {name : Text} {rendering : Rendering}

/-- Hosts that differ in their logs only. -/
def SameButLog (host other : Host) : Prop := ∃ log, other = { host with log := log }

/-- The plans for the fences of segments are those of the pieces that the segments become. -/
theorem ofFences_eq (settings : Settings) (registry : Registry) (name : Text)
    (segments : List Segment) :
    ∀ start host, ∃ after,
      Plan.ofFences settings registry name (fencesFrom start segments) host =
        ((pieces settings registry name segments).map (plansFrom start), after) ∧
      SameButLog host after := by
  induction segments with
  | nil => exact fun _ host => ⟨host, rfl, host.log, rfl⟩
  | cons segment segments ih =>
    intro start host
    rw [pieces_cons]
    cases segment with
    | text raw =>
      obtain ⟨after, rest, log⟩ := ih (start + 1) host
      refine ⟨after, ?_, log⟩
      have same : fencesFrom start (.text raw :: segments) = fencesFrom (start + 1) segments := rfl
      rw [same, rest]
      cases pieces settings registry name segments <;> rfl
    | fence block =>
      have first : fencesFrom start (.fence block :: segments) =
          (start, block) :: fencesFrom (start + 1) segments := rfl
      rw [first, Plan.ofFences, Piece.ofSegment]
      cases Directive.read registry block.info with
      | error fault => exact ⟨host, rfl, host.log, rfl⟩
      | ok directive =>
        have noted : SameButLog host
            (Plan.noteUntagged settings ⟨name, block.line⟩ directive host) := by
          unfold Plan.noteUntagged
          split
          · exact ⟨_, rfl⟩
          · exact ⟨_, rfl⟩
        obtain ⟨log, noted_eq⟩ := noted
        obtain ⟨after, rest, log', after_eq⟩ := ih (start + 1)
          (Plan.noteUntagged settings ⟨name, block.line⟩ directive host)
        refine ⟨after, ?_, log', by rw [after_eq, noted_eq]⟩
        simp only [rest]
        cases pieces settings registry name segments with
        | error error => rfl
        | ok others =>
          cases plan : Plan.ofDirective? settings registry directive block <;> rfl

/-- The pieces are made of the segments. -/
theorem segments_of_pieces {segments : List Segment} :
    ∀ {found : List Piece}, pieces settings registry name segments = .ok found →
      found.map Piece.segment = segments := by
  induction segments with
  | nil =>
    intro found h
    obtain rfl := Except.ok.inj h
    rfl
  | cons segment segments ih =>
    intro found h
    obtain ⟨piece, rest, first, others, rfl⟩ := pieces_cons_ok.mp h
    rw [List.map_cons, Piece.segment_ofSegment first, ih others]

/-- The requests of plans with their positions. -/
theorem requests_plansFrom (start : Nat) (pieces : List Piece) :
    Plan.requests (plansFrom start pieces) =
      (pieces.zipIdx start).filterMap fun entry => entry.1.request?.map (entry.2, ·) := by
  unfold Plan.requests
  rw [plansFrom, List.filterMap_filterMap]
  refine List.filterMap_congr fun entry _ => ?_
  rw [Piece.request?]
  cases entry.1.plan? with
  | none => rfl
  | some plan => cases plan <;> rfl

/-- The plans stand in the order of their positions. -/
theorem pairwise_plansFrom (pieces : List Piece) :
    ∀ start, (plansFrom start pieces).Pairwise fun first second => first.1 < second.1 := by
  intro start
  refine List.pairwise_filterMap.mpr ?_
  have positions : ((pieces.zipIdx start).map Prod.snd).Pairwise (· < ·) := by
    rw [List.zipIdx_map_snd]
    exact List.pairwise_lt_range'
  refine (List.pairwise_map.mp positions).imp fun less => ?_
  intro early early_eq late late_eq
  obtain ⟨_, -, rfl⟩ := Option.map_eq_some_iff.mp early_eq
  obtain ⟨_, -, rfl⟩ := Option.map_eq_some_iff.mp late_eq
  exact less

/-- The plan at a position. -/
theorem lookup_plansFrom (pieces : List Piece) (i : Nat) :
    (plansFrom 0 pieces).lookup i = pieces[i]?.bind Piece.plan? := by
  have found := lookup_filterMap_zipIdx (f := Piece.plan?) pieces 0 i
  rwa [Nat.zero_add] at found

/-- The request at a position. -/
theorem lookup_requests (pieces : List Piece) (i : Nat) :
    (Plan.requests (plansFrom 0 pieces)).lookup i = pieces[i]?.bind Piece.request? := by
  have found := lookup_filterMap_zipIdx (f := Piece.request?) pieces 0 i
  rwa [Nat.zero_add, ← requests_plansFrom] at found

/-- Each request is at some position. -/
theorem exists_lookup_requests {pieces : List Piece} {request : Request}
    (mem : request ∈ pieces.filterMap Piece.request?) :
    ∃ i, (Plan.requests (plansFrom 0 pieces)).lookup i = some request := by
  obtain ⟨piece, listed, asks⟩ := List.mem_filterMap.mp mem
  obtain ⟨i, at_i⟩ := List.mem_iff_getElem?.mp listed
  refine ⟨i, ?_⟩
  rw [lookup_requests, at_i]
  exact asks

/-- The fence at a position. -/
theorem lookup_fences (document : Document) (i : Nat) :
    document.fences.lookup i = document.segments[i]?.bind Segment.fence? := by
  have found := lookup_filterMap_zipIdx (f := Segment.fence?) document.segments 0 i
  rwa [Nat.zero_add] at found

/-- What is written for pieces, given the outcomes of their fences. -/
theorem ofSegments_eq {outcomes : List (Nat × Outcome)} (pieces : List Piece) :
    ∀ start, (∀ i block plan, pieces[i]? = some (.fence block plan) →
        outcomes.lookup (start + i) = plan.map (rendering.outcome name block)) →
      Replacement.ofSegments press settings outcomes start (pieces.map Piece.segment) =
        (pieces.mapM (Piece.written press settings rendering name)).map List.flatten := by
  induction pieces with
  | nil => exact fun _ _ => rfl
  | cons piece pieces ih =>
    intro start known
    have rest := ih (start + 1) fun i block plan found => by
      rw [Nat.add_right_comm, Nat.add_assoc]
      exact known (i + 1) block plan (by simpa using found)
    have first : Replacement.ofSegment press settings (outcomes.lookup start) piece.segment =
        piece.written press settings rendering name := by
      cases piece with
      | text raw => rfl
      | fence block plan =>
        have outcome := known 0 block plan rfl
        rw [Nat.add_zero] at outcome
        unfold Piece.segment
        rw [Replacement.ofSegment, outcome, Piece.written]
    rw [List.map_cons, Replacement.ofSegments, first, rest, List.mapM_cons]
    cases piece.written press settings rendering name with
    | error error => rfl
    | ok text =>
      cases pieces.mapM (Piece.written press settings rendering name) <;> rfl

/-- The failures of pieces, in their order, are those found by their positions. -/
theorem failures_eq {failures : List (Nat × BlockFailure)} (pieces : List Piece) :
    ∀ start, (∀ i piece, pieces[i]? = some piece → piece.plan? ≠ none →
        (failures.lookup (start + i)).toList = piece.failures rendering name) →
      ((plansFrom start pieces).filterMap fun entry => failures.lookup entry.1) =
        pieces.flatMap (Piece.failures rendering name) := by
  induction pieces with
  | nil => exact fun _ _ => rfl
  | cons piece pieces ih =>
    intro start known
    have rest := ih (start + 1) fun i other found => by
      rw [Nat.add_right_comm, Nat.add_assoc]
      exact known (i + 1) other (by simpa using found)
    rw [List.flatMap_cons, ← rest, plansFrom, List.zipIdx_cons, List.filterMap_cons]
    cases planned : piece.plan? with
    | none =>
      have none_failed : piece.failures rendering name = [] := by
        cases piece with
        | text raw => rfl
        | fence block plan =>
          obtain rfl : plan = none := planned
          rfl
      rw [none_failed]
      rfl
    | some plan =>
      have failed := known 0 piece rfl (by simp [planned])
      rw [Nat.add_zero] at failed
      rw [← failed]
      show List.filterMap _ ((start, plan) :: plansFrom (start + 1) pieces) = _
      rw [List.filterMap_cons]
      cases failures.lookup start <;> rfl

end Pass

/-! ## Where objects stand -/

section Steady

variable {press press' : Press} {settings : Settings} (steady : settings.Steady)
variable (same : press.highlighter = press'.highlighter)

include steady same

/-- A piece is written alike wherever objects stand. -/
theorem Piece.written_steady (rendering : Rendering) (name : Text) (piece : Piece) :
    piece.written press settings rendering name = piece.written press' settings rendering name := by
  cases piece with
  | text raw => rfl
  | fence block plan => exact Replacement.ofFence_steady steady same block _

/-- A text means the same wherever objects stand. -/
theorem Pass.meaning_steady (registry : Registry) (rendering : Rendering) (name source : Text) :
    meaning press settings registry rendering name source =
      meaning press' settings registry rendering name source := by
  have written : Piece.written press settings rendering name = Piece.written press' settings rendering name :=
    funext (Piece.written_steady steady same rendering name)
  unfold meaning piecesMeaning
  rw [written]

end Steady

end TypstFences
