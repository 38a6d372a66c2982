import TypstFences.Proofs.Pass.AnyOrder
import TypstFences.Proofs.Pass.Idempotence
import TypstFences.Proofs.Render.Lockstep

/-!
# Ending with the first failure

A pass may end with the first failure that is delivered, or go on and tell all failures in its result.
Up to the first failure both do the same. So one ends in a render failure exactly if the other one has
failures to tell, and what it tells is one of these; without failures both have the same result, and an
error of the document is the same in both (`fail_fast_agrees`).

Where objects stand in memory may differ in the two, if the template of the settings does not show it.

When the file system refuses a file of the cache this is wrong: after a failure the pass that goes on
may still come to a block whose artifact cannot be kept, and then it has no result to compare with
(`refused_after_failure`).
-/

set_option autoImplicit false

namespace TypstFences

variable {ε σ : Type}

/-- The settings of passes that end with the first failure, or of passes that go on. -/
def Settings.failingFast (settings : Settings) (flag : Bool) : Settings :=
  { settings with failFast := flag }

/-- Whether blocks can be embedded: the template can be filled with the path of every image, wherever
objects stand, and the highlighter knows the style. -/
structure Settings.Embeds (settings : Settings) (highlighter : Highlighter) : Prop where
  template : ∀ address name, ∃ element, Template.fill address
    [(Replacement.pathName, .string (Replacement.imagePath settings.imageDir name))]
    settings.embedTemplate = .ok element
  style : highlighter.knowsStyle settings.highlightStyle = true

/-- The pass of a call in an order and with objects in some places, which ends with the first failure or
goes on. -/
def PassCall.inMode (call : PassCall ε) (failFast : Bool) (order : List Nat → Schedule)
    (address : Nat → Nat → Template.Address) : PassCall ε :=
  { call.again order address with settings := call.settings.failingFast failFast }

/-! ## What does not depend on the flag -/

section Flag

variable (settings : Settings) (engine : Engine ε) (requests : List (Nat × Request)) (flag : Bool)

/-- Events take place alike in both modes, whatever is done about failures. -/
theorem Collection.run_failingFast (onFailure : OnFailure σ) (events : Schedule) :
    ∀ collection : Collection ε σ,
      collection.run (settings.failingFast flag) engine requests onFailure events =
        collection.run settings engine requests onFailure events := by
  induction events with
  | nil => exact fun _ => rfl
  | cons event events ih =>
    intro collection
    have step_eq : collection.step (settings.failingFast flag) engine requests onFailure event =
        collection.step settings engine requests onFailure event := rfl
    rw [Collection.run, Collection.run, step_eq]
    cases collection.step settings engine requests onFailure event with
    | mk outcome after =>
      cases outcome with
      | ok => exact ih after
      | error error => rfl

/-- So are requests rendered. -/
theorem renderRequests_failingFast (onFailure : OnFailure σ) (schedule : Schedule) (noted : σ)
    (session : Session ε) :
    renderRequests (settings.failingFast flag) engine requests onFailure schedule noted session =
      renderRequests settings engine requests onFailure schedule noted session := by
  have text_eq : renderingText (settings.failingFast flag) requests =
      renderingText settings requests := rfl
  unfold renderRequests
  simp only [text_eq, Collection.run_failingFast]

/-- So are images gathered. -/
theorem Pass.gatherImages_failingFast (results : List (Nat × RenderResult)) :
    ∀ images rig, gatherImages (settings.failingFast flag) engine requests results images rig =
      gatherImages settings engine requests results images rig := by
  induction results with
  | nil => exact fun _ _ => rfl
  | cons entry results ih =>
    intro images rig
    obtain ⟨index, artifact | failure⟩ := entry
    · have digest_eq (request : Request) :
          requestDigest (settings.failingFast flag) engine request rig =
            requestDigest settings engine request rig := rfl
      simp only [gatherImages, digest_eq, ih]
    · exact ih images rig

/-- Fences are planned alike. -/
theorem Plan.ofFences_failingFast (registry : Registry) (name : Text) (fences : List (Nat × Fence)) :
    ∀ host, ofFences (settings.failingFast flag) registry name fences host =
      ofFences settings registry name fences host := by
  induction fences with
  | nil => exact fun _ => rfl
  | cons entry fences ih =>
    intro host
    have noted (location : Location) (directive : Directive) :
        noteUntagged (settings.failingFast flag) location directive host =
          noteUntagged settings location directive host := rfl
    have planned (directive : Directive) (fence : Fence) :
        ofDirective? (settings.failingFast flag) registry directive fence =
          ofDirective? settings registry directive fence := rfl
    simp only [ofFences, noted, planned, ih]

/-- So is the document planned. -/
theorem Pass.plannedHost_failingFast (registry : Registry) (name source : Text) (host : Host) :
    plannedHost (settings.failingFast flag) registry name source host =
      plannedHost settings registry name source host := by
  unfold plannedHost
  simp only [Plan.ofFences_failingFast]

namespace Replacement

/-- Images are shown alike. -/
theorem imageElements_failingFast (address : Nat → Template.Address) (names : List Text) :
    ∀ page, imageElements address (settings.failingFast flag) page names =
      imageElements address settings page names := by
  induction names with
  | nil => exact fun _ => rfl
  | cons name names ih =>
    intro page
    have directory_eq : (settings.failingFast flag).imageDir = settings.imageDir := rfl
    have template_eq : (settings.failingFast flag).embedTemplate = settings.embedTemplate := rfl
    simp only [imageElements, directory_eq, template_eq, ih]

/-- Segments are written alike. -/
theorem ofSegment_failingFast (press : Press) (outcome : Option Outcome) (segment : Segment) :
    ofSegment press (settings.failingFast flag) outcome segment =
      ofSegment press settings outcome segment := by
  have source_eq (display : Text) :
      sourceElements press.highlighter (settings.failingFast flag) display =
        sourceElements press.highlighter settings display := rfl
  cases segment with
  | text raw => rfl
  | fence fence =>
    simp only [ofSegment, ofFence, embedding, source_eq, imageElements_failingFast]

/-- So are whole documents. -/
theorem ofSegments_failingFast (press : Press) (outcomes : List (Nat × Outcome))
    (segments : List Segment) :
    ∀ index, ofSegments press (settings.failingFast flag) outcomes index segments =
      ofSegments press settings outcomes index segments := by
  induction segments with
  | nil => exact fun _ => rfl
  | cons segment segments ih =>
    intro index
    simp only [ofSegments, ofSegment_failingFast, ih]

end Replacement

/-- So passes conclude alike from the same results. -/
theorem Pass.conclude_failingFast (press : Press) (document : Document) (plans : List (Nat × Plan))
    (results : List (Nat × RenderResult)) (rig : Rig ε) :
    conclude press (settings.failingFast flag) engine document plans results rig =
      conclude press settings engine document plans results rig := by
  simp only [conclude, gatherImages_failingFast, Replacement.ofDocument,
    Replacement.ofSegments_failingFast]

end Flag

/-! ## Writing with settings that embed -/

namespace Replacement

variable {press : Press} {settings : Settings}

/-- All images can be shown. -/
theorem imageElements_ok {highlighter : Highlighter} (embeds : settings.Embeds highlighter)
    (address : Nat → Template.Address) (names : List Text) :
    ∀ page, ∃ elements, imageElements address settings page names = .ok elements := by
  induction names with
  | nil => exact fun _ => ⟨[], rfl⟩
  | cons name names ih =>
    intro page
    obtain ⟨element, filled⟩ := embeds.template (address page) name
    obtain ⟨elements, made⟩ := ih (page + 1)
    exact ⟨element :: elements, by simp only [imageElements, filled, made]⟩

/-- All sources can be shown. -/
theorem sourceElements_ok {highlighter : Highlighter} (embeds : settings.Embeds highlighter)
    (display : Text) :
    ∃ elements, sourceElements highlighter settings display = .ok elements := by
  unfold sourceElements Highlighter.highlight?
  rw [if_pos embeds.style]
  split
  · exact ⟨_, rfl⟩
  · exact ⟨_, rfl⟩

/-- Every segment can be written. -/
theorem ofSegment_ok (embeds : settings.Embeds press.highlighter) (outcome : Option Outcome)
    (segment : Segment) : ∃ part, ofSegment press settings outcome segment = .ok part := by
  cases segment with
  | text raw => exact ⟨raw, rfl⟩
  | fence fence =>
    rw [ofSegment]
    cases outcome.getD .kept with
    | kept => exact ⟨_, rfl⟩
    | literal display => exact ⟨_, rfl⟩
    | failed failure => exact ⟨_, rfl⟩
    | rendered display names =>
      obtain ⟨source, shown⟩ := sourceElements_ok embeds display
      obtain ⟨images, made⟩ := imageElements_ok embeds (press.address fence.line) names 1
      simp only [ofFence, embedding, shown, made]
      exact ⟨_, rfl⟩

/-- Every document can be written. -/
theorem ofSegments_ok (embeds : settings.Embeds press.highlighter) (outcomes : List (Nat × Outcome))
    (segments : List Segment) :
    ∀ index, ∃ text, ofSegments press settings outcomes index segments = .ok text := by
  induction segments with
  | nil => exact fun _ => ⟨[], rfl⟩
  | cons segment segments ih =>
    intro index
    obtain ⟨part, written⟩ := ofSegment_ok embeds (outcomes.lookup index) segment
    obtain ⟨rest, others⟩ := ih (index + 1)
    exact ⟨part ++ rest, by simp only [ofSegments, written, others]⟩

end Replacement

/-! ## Two passes in step -/

/-- What two passes come to, the first of which ends with the first failure: both to the same without
failures, or the first one to an error about a failure that is among those of the other one, unless this
one is refused a file later. -/
inductive PassesInStep : Except PassError PassResult → Except PassError PassResult → Prop
  | together {outcome : Except PassError PassResult}
      (quiet : ∀ result, outcome = .ok result → result.failures = [])
      (untold : ∀ failures, outcome ≠ .error (.renderFailure failures)) : PassesInStep outcome outcome
  | ended {told : BlockFailure} {result : PassResult} (among : told ∈ result.failures) :
      PassesInStep (.error (.renderFailure [told])) (.ok result)
  | refused (told : BlockFailure) (error : FileError) :
      PassesInStep (.error (.renderFailure [told])) (.error (.refusedFile error))

namespace Pass

variable {press : Press} {settings : Settings} {engine : Engine ε} {found : List Piece} {name : Text}
variable {document : Document} {plans : List (Nat × Plan)} {results : List (Nat × RenderResult)}
variable {rig : Rig ε} {result : PassResult}

/-- With an engine that tells its version, a pass that can embed blocks has a result. -/
theorem conclude_isOk (embeds : settings.Embeds press.highlighter)
    (told : ∀ rig error, (engine.version rig).1 ≠ .error error) (document : Document)
    (plans : List (Nat × Plan)) (results : List (Nat × RenderResult)) (rig : Rig ε) :
    ∃ result, (conclude press settings engine document plans results rig).1 = .ok result := by
  unfold conclude
  split
  · rename_i failed
    obtain ⟨rig', unknown⟩ := gatherImages_error (congrArg Prod.fst failed)
    exact absurd unknown (told rig' _)
  · rename_i names images _ _
    obtain ⟨text, written⟩ := Replacement.ofSegments_ok embeds
      (outcomesOf (failuresOf document results) names plans) document.segments 0
    rw [Replacement.ofDocument, written]
    exact ⟨_, rfl⟩

/-- Without a failure among the results, the pass has none to tell. -/
theorem failures_of_conclude_nil (distinct : (results.map Prod.fst).Nodup)
    (quiet : ∀ block failure, results.lookup block ≠ some (.failure failure))
    (h : (conclude press settings engine document plans results rig).1 = .ok result) :
    result.failures = [] := by
  rw [conclude_failures h, List.filterMap_eq_nil_iff]
  intro entry _
  rw [lookup_failuresOf document distinct]
  cases found : results.lookup entry.1 with
  | none => rfl
  | some outcome =>
    cases outcome with
    | artifact artifact => rfl
    | failure failure => exact absurd found (quiet entry.1 failure)

/-- A failure among the results is told with its place. -/
theorem mem_failures_of_conclude (distinct : (results.map Prod.fst).Nodup) {block : Nat}
    {failure : Failure} {request : Request}
    (asked : (Plan.requests plans).lookup block = some request)
    (failed : results.lookup block = some (.failure failure))
    (h : (conclude press settings engine document plans results rig).1 = .ok result) :
    locateAt document block failure ∈ result.failures := by
  obtain ⟨⟨index, plan⟩, listed, planned⟩ := List.mem_filterMap.mp (mem_of_lookup asked)
  obtain ⟨_, -, same⟩ := Option.map_eq_some_iff.mp planned
  obtain rfl : index = block := congrArg Prod.fst same
  rw [conclude_failures h]
  refine List.mem_filterMap.mpr ⟨(index, plan), listed, ?_⟩
  rw [lookup_failuresOf document distinct, failed]
  rfl

/-- What is done about a failure in the two modes. -/
theorem onFailure_endsWhere (settings : Settings) (document : Document) :
    (onFailure (settings.failingFast true) document).EndsWhere
      (onFailure (settings.failingFast false) document)
      fun block failure => .renderFailure [locateAt document block failure] :=
  ⟨fun _ _ _ _ => rfl, fun _ _ _ _ => rfl⟩

/-- What a pass comes to when its requests are rendered. -/
def concludeRendered (press : Press) (settings : Settings) (engine : Engine ε) (document : Document)
    (plans : List (Nat × Plan)) :
    Except PassError (List (Nat × RenderResult) × Failures) × Session ε → Except PassError PassResult
  | (.error error, _) => .error error
  | (.ok (results, _), session) => (conclude press settings engine document plans results session.rig).1

/-- A rendering that ends in an error ends the pass in it. -/
theorem concludeRendered_error {error : PassError}
    {rendered : Except PassError (List (Nat × RenderResult) × Failures) × Session ε}
    (ends : rendered.1 = .error error) :
    concludeRendered press settings engine document plans rendered = .error error := by
  obtain ⟨outcome, session⟩ := rendered
  obtain rfl : outcome = .error error := ends
  rfl

/-- What is made of pieces is concluded from the rendering of their requests. -/
theorem renderPieces_fst (schedule : List Nat → Schedule) (press : Press) (settings : Settings)
    (engine : Engine ε) (name : Text) (found : List Piece) (session : Session ε) :
    (renderPieces schedule press settings engine name found session).1 =
      concludeRendered press settings engine ⟨name, found.map Piece.segment⟩ (plansFrom 0 found)
        (renderRequests settings engine (Plan.requests (plansFrom 0 found))
          (onFailure settings ⟨name, found.map Piece.segment⟩)
          (schedule ((Plan.requests (plansFrom 0 found)).map Prod.fst)) [] session) := by
  simp only [renderPieces]
  generalize renderRequests settings engine _ _ _ [] session = rendered
  obtain ⟨outcome, after⟩ := rendered
  cases outcome <;> rfl

/-- In either mode the rendering and what is made of it are those of the settings, but for what is done
about failures. -/
theorem renderPieces_failingFast (flag : Bool) (schedule : List Nat → Schedule) (press : Press)
    (name : Text) (found : List Piece) (session : Session ε) :
    (renderPieces schedule press (settings.failingFast flag) engine name found session).1 =
      concludeRendered press settings engine ⟨name, found.map Piece.segment⟩ (plansFrom 0 found)
        (renderRequests settings engine (Plan.requests (plansFrom 0 found))
          (onFailure (settings.failingFast flag) ⟨name, found.map Piece.segment⟩)
          (schedule ((Plan.requests (plansFrom 0 found)).map Prod.fst)) [] session) := by
  rw [renderPieces_fst, renderRequests_failingFast]
  generalize renderRequests settings engine _ _ _ [] session = rendered
  obtain ⟨outcome, after⟩ := rendered
  cases outcome with
  | error error => rfl
  | ok results =>
    simp only [concludeRendered, conclude_failingFast]

/-- What is made of the pieces of a document is in step. -/
theorem renderPieces_inStep (press : Press) (embeds : settings.Embeds press.highlighter)
    (tells : ∀ rig error, (engine.version rig).1 ≠ .error error) {digest : Request → Text}
    {answer : Request → RenderResult} (gives : GivesForeseen settings engine digest answer)
    (schedule : List Nat → Schedule) (name : Text) (found : List Piece) (session : Session ε) :
    PassesInStep
      (renderPieces schedule press (settings.failingFast true) engine name found session).1
      (renderPieces schedule press (settings.failingFast false) engine name found session).1 := by
  let document : Document := ⟨name, found.map Piece.segment⟩
  let requests := Plan.requests (plansFrom 0 found)
  let lenient := onFailure (settings.failingFast false) document
  have inStep := renderRequests_inStep settings engine requests
    (onFailure_endsWhere settings document) (schedule (requests.map Prod.fst)) [] session
  have refused : ∀ error, (renderRequests settings engine requests lenient
      (schedule (requests.map Prod.fst)) [] session).1 = .error error →
        ∃ file, error = .refusedFile file := by
    intro error failed
    exact refused_of_renderRequests gives.endsRefused (onFailure_quiet rfl document) failed
  have orderly : ∀ results noted, (renderRequests settings engine requests lenient
      (schedule (requests.map Prod.fst)) [] session).1 = .ok (results, noted) →
        (results.map Prod.fst).Nodup ∧ ∀ block result, results.lookup block = some result →
          ∃ request, requests.lookup block = some request :=
    fun results noted => orderly_of_renderRequests
  rw [renderPieces_failingFast, renderPieces_failingFast]
  -- from here on only what the two renderings have come to matters
  generalize renderRequests settings engine requests (onFailure (settings.failingFast true) document)
    (schedule (requests.map Prod.fst)) [] session = strictly at inStep ⊢
  generalize renderRequests settings engine requests lenient (schedule (requests.map Prod.fst)) []
    session = leniently at inStep refused orderly ⊢
  obtain ⟨outcome, after⟩ := leniently
  cases outcome with
  | error error =>
    obtain ⟨file, rfl⟩ := refused error rfl
    rcases inStep with ⟨rfl, -⟩ | ⟨block, failure, ends, -⟩
    · exact .together (fun _ same => absurd same (by simp [concludeRendered]))
        (by simp [concludeRendered])
    · rw [concludeRendered_error ends]
      exact .refused _ file
  | ok told =>
    obtain ⟨results, noted⟩ := told
    obtain ⟨distinct, asked⟩ := orderly results noted rfl
    obtain ⟨result, concluded⟩ := conclude_isOk embeds tells document (plansFrom 0 found) results
      after.rig
    have returned : concludeRendered press settings engine document (plansFrom 0 found)
        (.ok (results, noted), after) = .ok result := concluded
    rcases inStep with ⟨rfl, none⟩ | ⟨block, failure, ends, delivered⟩
    · rw [returned]
      refine .together ?_ (by simp)
      intro same_result same
      rw [← Except.ok.inj same]
      exact failures_of_conclude_nil distinct (none results noted rfl) concluded
    · have failed := delivered results noted rfl
      obtain ⟨request, asked⟩ := asked block _ failed
      rw [returned, concludeRendered_error ends]
      exact .ended (mem_failures_of_conclude distinct asked failed concluded)

/-- What is made of the pieces of a document in two orders. -/
theorem renderPieces_anyOrder (press : Press) (name : Text) (noFailFast : settings.failFast = false)
    {order other : List Nat → Schedule} (complete : Schedule.Complete order)
    (complete' : Schedule.Complete other) {rendering : Rendering} {start session : Session ε}
    (gives : GivesForeseen settings engine rendering.digest rendering.answer)
    (digests : DigestsAs settings engine rendering.digest fun _ => True)
    (single : SingleAnswers rendering.digest rendering.answer (found.filterMap Piece.request?))
    (agrees : start.Agrees rendering.digest rendering.answer (found.filterMap Piece.request?)
      session) :
    SameOrRefused (renderPieces order press settings engine name found session).1
      (renderPieces other press settings engine name found session).1 := by
  have first := renderPieces_foreseen press name complete noFailFast gives digests single agrees
  have second := renderPieces_foreseen press name complete' noFailFast gives digests single agrees
  by_cases all : ∀ request ∈ found.filterMap Piece.request?,
      start.foreseen? (rendering.digest request) (rendering.answer request) ≠ none
  · exact .same ((first.1 all).trans (second.1 all).symm)
  · simp only [not_forall, not_not] at all
    obtain ⟨request, mem, nothing⟩ := all
    obtain ⟨refused, ends⟩ := first.2 request mem nothing
    obtain ⟨refused', ends'⟩ := second.2 request mem nothing
    rw [ends, ends']
    exact .refused refused refused'

/-- Without a directory no pass is refused a file. -/
theorem renderPieces_unrefused {digest : Request → Text} {answer : Request → RenderResult}
    (gives : GivesForeseen settings engine digest answer)
    (tells : ∀ rig error, (engine.version rig).1 ≠ .error error) (noFailFast : settings.failFast = false)
    {session : Session ε} (used : session.cache.directory = none) (schedule : List Nat → Schedule)
    (error : FileError) :
    (renderPieces schedule press settings engine name found session).1 ≠ .error (.refusedFile error) := by
  intro refused
  rw [renderPieces_fst] at refused
  have rendered : ∀ error, (renderRequests settings engine (Plan.requests (plansFrom 0 found))
      (onFailure settings ⟨name, found.map Piece.segment⟩)
      (schedule ((Plan.requests (plansFrom 0 found)).map Prod.fst)) [] session).1 ≠ .error error :=
    ok_of_renderRequests gives.succeedsUnkept (onFailure_quiet noFailFast _) used
  generalize renderRequests settings engine _ _ _ [] session = done at rendered refused
  obtain ⟨outcome, after⟩ := done
  cases outcome with
  | error error => exact rendered error rfl
  | ok results =>
    rcases conclude_error refused with ⟨rig, unknown⟩ | ⟨fault, same⟩ | same
    · exact tells rig _ unknown
    · exact absurd same (by simp)
    · exact absurd same (by simp)

end Pass

/-! ## Two passes in their modes -/

/-- Whether a pass that ends with the first failure agrees with one that goes on: it ends so exactly if
the other one has failures, and tells one of them; else they have the same result, or end in the same
error, which any error is that does not tell failures. -/
structure FailFastAgrees (fast collect : Except PassError PassResult) : Prop where
  raises : (∃ failures, fast = .error (.renderFailure failures)) ↔
    ∃ result, collect = .ok result ∧ result.failures ≠ []
  raised : ∀ failures, fast = .error (.renderFailure failures) →
    ∃ told result, failures = [told] ∧ collect = .ok result ∧ told ∈ result.failures
  otherwise : (∀ failures, fast ≠ .error (.renderFailure failures)) → SameOutcome fast collect
  structural : ∀ error, (∀ failures, error ≠ .renderFailure failures) →
    (fast = .error error ↔ collect = .error error)

/-- Whether they agree unless the one that goes on is refused a file, which takes a directory; then the
other one is refused a file as well, or it ends with one failure. -/
structure AgreesUnlessRefused (session : Session ε) (fast collect : Except PassError PassResult) :
    Prop where
  agrees : (∀ error, collect ≠ .error (.refusedFile error)) → FailFastAgrees fast collect
  refused : ∀ error, collect = .error (.refusedFile error) → session.cache.directory ≠ none ∧
    ((∃ other, fast = .error (.refusedFile other)) ∨ ∃ told, fast = .error (.renderFailure [told]))

namespace FailFastAgrees

/-- A pass that ends with the first failure has ended without one. -/
theorem of_together {outcome other : Except PassError PassResult}
    (quiet : ∀ result, outcome = .ok result → result.failures = [])
    (untold : ∀ failures, outcome ≠ .error (.renderFailure failures)) (h : SameOutcome outcome other) :
    FailFastAgrees outcome other := by
  have none : ∀ result, other = .ok result → result.failures = [] := by
    rintro result rfl
    cases h with
    | ok same => rw [← same.failures, quiet _ rfl]
  refine ⟨⟨?_, ?_⟩, ?_, fun _ => h, fun error _ => h.error_iff error⟩
  · rintro ⟨failures, ends⟩
    exact absurd ends (untold failures)
  · rintro ⟨result, returned, some⟩
    exact absurd (none result returned) some
  · intro failures ends
    exact absurd ends (untold failures)

/-- It has ended with a failure that the other one tells in its result. -/
theorem of_ended {told : BlockFailure} {result : PassResult} (among : told ∈ result.failures) :
    FailFastAgrees (.error (.renderFailure [told])) (.ok result) := by
  refine ⟨⟨?_, ?_⟩, ?_, ?_, ?_⟩
  · exact fun _ => ⟨result, rfl, List.ne_nil_of_mem among⟩
  · exact fun _ => ⟨[told], rfl⟩
  · intro failures ends
    obtain rfl := PassError.renderFailure.inj (Except.error.inj ends)
    exact ⟨told, result, rfl, rfl, among⟩
  · exact fun untold => absurd rfl (untold [told])
  · intro error untold
    refine ⟨fun ends => ?_, fun ends => absurd ends (by simp)⟩
    exact absurd (Except.error.inj ends).symm (untold [told])

end FailFastAgrees

/-- Passes in step agree, and so does one that goes on in another order. -/
theorem AgreesUnlessRefused.of_inStep {session : Session ε}
    {fast collect other : Except PassError PassResult} (inStep : PassesInStep fast collect)
    (same : SameOrRefused collect other)
    (used : ∀ error, other = .error (.refusedFile error) → session.cache.directory ≠ none) :
    AgreesUnlessRefused session fast other := by
  cases same with
  | refused first second =>
    refine ⟨fun unrefused => absurd rfl (unrefused second), fun error ends => ⟨used error ends, ?_⟩⟩
    cases inStep with
    | together => exact .inl ⟨first, rfl⟩
    | refused told => exact .inr ⟨told, rfl⟩
  | same h =>
    cases inStep with
    | together quiet untold =>
      exact ⟨fun _ => .of_together quiet untold h,
        fun error ends => ⟨used error ends, .inl ⟨error, (h.error_iff _).mpr ends⟩⟩⟩
    | @ended told result among =>
      cases h with
      | ok same =>
        have among' := same.failures ▸ among
        exact ⟨fun _ => .of_ended among', fun error ends => absurd ends (by simp)⟩
    | refused told error =>
      cases h with
      | error =>
        exact ⟨fun unrefused => absurd rfl (unrefused error),
          fun other ends => ⟨used other ends, .inr ⟨told, rfl⟩⟩⟩

namespace PassCall

/-- The session of a call after its document was read and planned. -/
def planned (call : PassCall ε) (session : Session ε) : Session ε :=
  session.withHost
    (Pass.plannedHost call.settings call.registry call.name call.source session.rig.host)

/-- In either mode and in any order, the same is read and planned. -/
theorem run_inMode (call : PassCall ε) (flag : Bool) (order : List Nat → Schedule)
    (address : Nat → Nat → Template.Address) (session : Session ε) :
    ((call.inMode flag order address).run session).1 =
      match (scan call.source).unclosed with
      | some openFence =>
        .error (.unterminatedFence ⟨call.name, openFence.line⟩ openFence.shown)
      | none =>
        match Pass.pieces call.settings call.registry call.name (scan call.source).segments with
        | .error error => .error error
        | .ok found => (Pass.renderPieces order ⟨call.press.highlighter, address⟩
            (call.settings.failingFast flag) call.engine call.name found (call.planned session)).1 := by
  obtain ⟨-, run⟩ := Pass.runWith_eq_planned order ⟨call.press.highlighter, address⟩
    (call.settings.failingFast flag) call.engine call.registry call.name call.source session
  have pieces_eq : Pass.pieces (call.settings.failingFast flag) call.registry call.name
      (scan call.source).segments =
        Pass.pieces call.settings call.registry call.name (scan call.source).segments := rfl
  rw [Pass.plannedHost_failingFast, pieces_eq] at run
  unfold PassCall.run inMode again planned
  rw [run]
  cases (scan call.source).unclosed with
  | some openFence => rfl
  | none =>
    cases Pass.pieces call.settings call.registry call.name (scan call.source).segments with
    | error error => rfl
    | ok found => rfl

/-- Passes that go on make the same of the pieces of a document, in one order or in two orders that
deliver every block. -/
theorem renderPieces_goingOn {call : PassCall ε} (press : Press) {answer : Text → RenderResult}
    (answers : call.engine.Answers call.version answer) (spares : call.engine.SparesFiles)
    {order other : List Nat → Schedule} {session : Session ε}
    (orders : order = other ∨ Schedule.Complete order ∧ Schedule.Complete other ∧
      call.NoCollision call ∧ session.Tidy call.keys) {found : List Piece}
    (found_eq : Pass.pieces call.settings call.registry call.name (scan call.source).segments =
      .ok found) :
    SameOrRefused
      (Pass.renderPieces order press (call.settings.failingFast false) call.engine call.name found
        (call.planned session)).1
      (Pass.renderPieces other press (call.settings.failingFast false) call.engine call.name found
        (call.planned session)).1 := by
  rcases orders with rfl | ⟨complete, complete', noCollision, tidy⟩
  · exact .same (SameOutcome.refl _)
  let rendering := call.rendering fun _ _ _ => answer
  have gives : GivesForeseen (call.settings.failingFast false) call.engine rendering.digest
      rendering.answer := givesForeseen_of_answers (call.settings.failingFast false) answers spares
  have digests : Pass.DigestsAs (call.settings.failingFast false) call.engine rendering.digest
      fun _ => True :=
    ⟨fun rig request => Pass.requestDigest_eq answers request rig, fun _ _ _ => trivial⟩
  have requests_eq : call.requests = found.filterMap Piece.request? := by
    unfold PassCall.requests Pass.requestsOf
    rw [found_eq]
  have single := PassCall.singleAnswers noCollision fun _ _ _ => answer
  -- planning changes nothing but the log, so what is in the directory is foreseen as before
  obtain ⟨log, -⟩ := Pass.runWith_eq_planned order press call.settings call.engine call.registry
    call.name call.source session
  have start : session.Agrees rendering.digest rendering.answer call.requests session :=
    ⟨tidy, fun _ _ => rfl⟩
  have agrees : session.Agrees rendering.digest rendering.answer call.requests
      (call.planned session) := start.sameFiles rfl rfl log.sameFiles
  rw [requests_eq] at single agrees
  exact Pass.renderPieces_anyOrder press call.name rfl complete complete' gives digests single agrees

end PassCall

/-- A pass that ends with the first failure agrees with one that goes on, unless this one is refused a
file of the directory of the cache. Both may be in any one order; they may also be in two orders that
deliver every block, if the payloads of the blocks have different digests and the directory is there or
has no page of a block of the text when it is made. The template and the style can be used, the
template shows no places in memory, and the engine answers each source in one way. -/
theorem fail_fast_agrees (call : PassCall ε) (answer : Text → RenderResult)
    (embeds : call.settings.Embeds call.press.highlighter) (steady : call.settings.Steady)
    (answers : call.engine.Answers call.version answer) (spares : call.engine.SparesFiles)
    (order other : List Nat → Schedule) (address address' : Nat → Nat → Template.Address)
    (session : Session ε)
    (orders : order = other ∨ Schedule.Complete order ∧ Schedule.Complete other ∧
      call.NoCollision call ∧ session.Tidy call.keys) :
    AgreesUnlessRefused session ((call.inMode true order address).run session).1
      ((call.inMode false other address').run session).1 := by
  have tells (rig : Rig ε) (error : PassError) : (call.engine.version rig).1 ≠ .error error := by
    rw [answers.version_eq rig]
    simp
  have moved : (call.inMode false other address').run = (call.inMode false other address).run :=
    ({ call with settings := call.settings.failingFast false } : PassCall ε).run_again steady other
      address' address
  rw [moved]
  let press : Press := ⟨call.press.highlighter, address⟩
  -- a fault of the document is found before the flag matters
  have fault (error : PassError) (untold : ∀ failures, error ≠ .renderFailure failures)
      (unrefused : ∀ file, error ≠ .refusedFile file) :
      AgreesUnlessRefused session (.error error) (.error error) :=
    .of_inStep (.together (by simp) fun failures same => untold failures (Except.error.inj same))
      (.same (.error error)) fun file same => absurd (Except.error.inj same) (unrefused file)
  rw [PassCall.run_inMode, PassCall.run_inMode]
  cases (scan call.source).unclosed with
  | some openFence => exact fault _ (by simp) (by simp)
  | none =>
    cases found_eq : Pass.pieces call.settings call.registry call.name (scan call.source).segments with
    | error error =>
      obtain ⟨location, info, reason, rfl⟩ := Pass.pieces_error found_eq
      exact fault _ (by simp) (by simp)
    | ok found =>
      let rendering := call.rendering fun _ _ _ => answer
      have gives : GivesForeseen call.settings call.engine rendering.digest rendering.answer :=
        givesForeseen_of_answers call.settings answers spares
      have lenient : GivesForeseen (call.settings.failingFast false) call.engine rendering.digest
          rendering.answer := givesForeseen_of_answers (call.settings.failingFast false) answers spares
      have inStep := Pass.renderPieces_inStep press embeds tells gives order call.name found
        (call.planned session)
      refine .of_inStep inStep (PassCall.renderPieces_goingOn press answers spares orders found_eq) ?_
      intro error refused none
      have used : (call.planned session).cache.directory = Option.none := none
      exact Pass.renderPieces_unrefused lenient tells rfl used other error refused

/-! ## Two blocks in both modes -/

/-- With the default settings blocks can be embedded. -/
theorem default_embeds : Settings.default.Embeds barePress.highlighter := by
  refine ⟨?_, by decide +kernel⟩
  intro address name
  rw [Settings.default_embedTemplate]
  exact ⟨_, Replacement.fill_defaultTemplate address _⟩

/-- The pass over two blocks ends with the failure of the second one; the pass in the other order that
goes on has this failure to tell. -/
theorem twoBlocks_in_both_modes : ∃ told result,
    ((twoBlocks.inMode true Schedule.inOrder barePress.address).run ⟨Cache.new (some cacheName), bareRig⟩).1 =
      .error (.renderFailure [told]) ∧
    ((twoBlocks.inMode false Schedule.lastFirst barePress.address).run
      ⟨Cache.new (some cacheName), bareRig⟩).1 =
      .ok result ∧
    told ∈ result.failures := by
  have both := fail_fast_agrees twoBlocks failsAtBad default_embeds Settings.steady_default
    twoBlocks_answers twoBlocks_spares Schedule.inOrder Schedule.lastFirst barePress.address
    barePress.address ⟨Cache.new (some cacheName), bareRig⟩
    (.inr ⟨Schedule.inOrder_complete, Schedule.lastFirst_complete, twoBlocks_noCollision,
      tidy_cacheName twoBlocks.keys⟩)
  have returned : hasResult ((twoBlocks.inMode false Schedule.lastFirst barePress.address).run
      ⟨Cache.new (some cacheName), bareRig⟩).1 = true := by
    decide +kernel
  have ended : ((twoBlocks.inMode true Schedule.inOrder barePress.address).run
      ⟨Cache.new (some cacheName), bareRig⟩).1 =
        .error (.renderFailure [⟨⟨"d.md".toList, 4⟩, "no".toList, compileKind⟩]) := by
    decide +kernel
  have unrefused : ∀ error, ((twoBlocks.inMode false Schedule.lastFirst barePress.address).run
      ⟨Cache.new (some cacheName), bareRig⟩).1 ≠ .error (.refusedFile error) := by
    intro error refused
    rw [refused] at returned
    exact absurd returned (by simp [hasResult])
  obtain ⟨told, result, same, goes_on, among⟩ := (both.agrees unrefused).raised _ ended
  exact ⟨told, result, by rw [ended, same], goes_on, among⟩

/-- What an engine answers that fails at sources which end in a certain line, and makes artifacts in a
format with a very long name of all others. -/
def failsOrLong (source : Text) : RenderResult :=
  match failsAtBad source with
  | .failure failure => .failure failure
  | .artifact _ => .artifact longFormat

/-- A pass over two blocks, the first of which fails. -/
def badFirst : PassCall Unit :=
  { twoBlocks with
    engine := Engine.pure "1".toList none failsOrLong
    source := "```typ\nbad\n```\n```typ\nx\n```\n".toList }

/-- With a directory where the artifact of the second block cannot be kept, the pass ends with the
failure of the first one, and the pass in the same order that goes on has no result. -/
theorem refused_after_failure :
    badFirst.settings.Embeds badFirst.press.highlighter ∧ badFirst.settings.Steady ∧
      badFirst.engine.Answers badFirst.version failsOrLong ∧
      badFirst.engine.SparesFiles ∧ Schedule.Complete Schedule.inOrder ∧
      ¬FailFastAgrees
        ((badFirst.inMode true Schedule.inOrder barePress.address).run
          ⟨Cache.new (some cacheName), bareRig⟩).1
        ((badFirst.inMode false Schedule.inOrder barePress.address).run
          ⟨Cache.new (some cacheName), bareRig⟩).1 := by
  refine ⟨default_embeds, Settings.steady_default, ⟨fun _ => rfl, fun _ _ => rfl⟩,
    ⟨fun rig => .refl rig.host, fun _ rig => .refl rig.host⟩, Schedule.inOrder_complete, ?_⟩
  intro agrees
  have ended : ((badFirst.inMode true Schedule.inOrder barePress.address).run
      ⟨Cache.new (some cacheName), bareRig⟩).1 =
        .error (.renderFailure [⟨⟨"d.md".toList, 1⟩, "no".toList, compileKind⟩]) := by
    decide +kernel
  have none : hasResult ((badFirst.inMode false Schedule.inOrder barePress.address).run
      ⟨Cache.new (some cacheName), bareRig⟩).1 = false := by
    decide +kernel
  obtain ⟨result, returned, -⟩ := agrees.raises.mp ⟨_, ended⟩
  rw [returned] at none
  exact absurd none (by simp [hasResult])

end TypstFences
