import TypstFences.Proofs.Pass.FailFast

/-!
# What a pass gathers

A pass gathers results for the requests of its fences and notes their failures (`PassCall.gather`), and writes
the document from both (`PassCall.run_eq_gather`). Plans, results and failures stand at positions of fences:
when all requests have results, whatever is looked up at a position is there (`Pass.keyed_of_results`), and
a rendering that ends in no error has a result for each request (`renderRequests_answers`).
-/

set_option autoImplicit false

namespace TypstFences

variable {ε σ : Type}

/-- What a pass has when it comes to write its document: the document, the plans for its fences, the results
of the requests among these, and the failures that were noted. Plans, results and failures stand at the
positions of the fences. -/
structure Gathered where
  document : Document
  plans : List (Nat × Plan)
  results : List (Nat × RenderResult)
  failures : Pass.Failures

namespace PassCall

variable (call : PassCall ε)

/-- What a pass gathers before it writes its document. -/
def gather (session : Session ε) : Except PassError Gathered × Session ε :=
  match Pass.readDocument call.name call.source session.rig.host with
  | (.error error, host) => (.error error, session.withHost host)
  | (.ok document, host) =>
    match Plan.ofFences call.settings call.registry call.name document.fences host with
    | (.error error, host) => (.error error, session.withHost host)
    | (.ok plans, host) =>
      match renderRequests call.settings call.engine (Plan.requests plans)
          (Pass.onFailure call.settings document) (call.schedule ((Plan.requests plans).map (·.1))) []
          (session.withHost host) with
      | (.error error, session) => (.error error, session)
      | (.ok (results, failures), session) => (.ok ⟨document, plans, results, failures⟩, session)

/-- The writing of a document from what was gathered. -/
def write (gathered : Gathered) (session : Session ε) : Except PassError PassResult × Session ε :=
  let (result, rig) := Pass.finish call.press call.settings call.engine gathered.document gathered.plans
    gathered.results gathered.failures session.rig
  (result, { session with rig := rig })

/-- A pass gathers, and then writes. -/
theorem run_eq_gather (session : Session ε) : call.run session = match call.gather session with
    | (.error error, session) => (.error error, session)
    | (.ok gathered, session) => call.write gathered session := by
  unfold run gather Pass.runWith
  cases Pass.readDocument call.name call.source session.rig.host with
  | mk read host =>
    cases read with
    | error error => rfl
    | ok document =>
      simp only
      cases Plan.ofFences call.settings call.registry call.name document.fences host with
      | mk planned host =>
        cases planned with
        | error error => rfl
        | ok plans =>
          simp only
          cases renderRequests call.settings call.engine (Plan.requests plans)
              (Pass.onFailure call.settings document)
              (call.schedule ((Plan.requests plans).map (·.1))) [] (session.withHost host) with
          | mk rendered session => cases rendered <;> rfl

/-- What is rendered of the pieces of a document. -/
def gatherPieces (found : List Piece) (session : Session ε) : Except PassError Gathered × Session ε :=
  match renderRequests call.settings call.engine (Plan.requests (Pass.plansFrom 0 found))
      (Pass.onFailure call.settings ⟨call.name, found.map Piece.segment⟩)
      (call.schedule ((Plan.requests (Pass.plansFrom 0 found)).map (·.1))) [] session with
  | (.error error, session) => (.error error, session)
  | (.ok (results, failures), session) =>
    (.ok ⟨⟨call.name, found.map Piece.segment⟩, Pass.plansFrom 0 found, results, failures⟩, session)

/-- Gathering ends with an open fence or a faulty info string, or renders the pieces of the document. -/
theorem gather_eq (session : Session ε) : ∃ host, Pass.SameButLog session.rig.host host ∧
    call.gather session = match (scan call.source).unclosed with
      | some openFence =>
        (.error (.unterminatedFence ⟨call.name, openFence.line⟩ openFence.shown), session.withHost host)
      | none =>
        match Pass.pieces call.settings call.registry call.name (scan call.source).segments with
        | .error error => (.error error, session.withHost host)
        | .ok found => call.gatherPieces found (session.withHost host) := by
  obtain ⟨read, read_eq, read_log⟩ := Pass.readDocument_eq call.name call.source session.rig.host
  unfold gather
  rw [read_eq]
  cases (scan call.source).unclosed with
  | some openFence => exact ⟨read, read_log, rfl⟩
  | none =>
    obtain ⟨planned, planned_eq, planned_log⟩ := Pass.ofFences_eq call.settings call.registry call.name
      (scan call.source).segments 0 read
    have fences_eq : (⟨call.name, (scan call.source).segments⟩ : Document).fences =
        Pass.fencesFrom 0 (scan call.source).segments := rfl
    refine ⟨planned, read_log.trans planned_log, ?_⟩
    simp only [fences_eq, planned_eq]
    cases found : Pass.pieces call.settings call.registry call.name (scan call.source).segments with
    | error error => rfl
    | ok parts =>
      rw [← Pass.segments_of_pieces found]
      rfl

end PassCall

/-! ## Positions -/

/-- Whether no position that a pass looks up is missing. The results are those of the requests of the plans;
each stands at a fence of the document, of which something has become before; and the failures that were noted
are those of the results, with the places of the fences. -/
structure Gathered.Keyed (gathered : Gathered) : Prop where
  distinct : (gathered.results.map Prod.fst).Nodup
  requests : ∀ i, gathered.results.lookup i ≠ none ↔ (Plan.requests gathered.plans).lookup i ≠ none
  fences : ∀ i, gathered.results.lookup i ≠ none → gathered.document.fences.lookup i ≠ none
  outcomes : ∀ i, gathered.results.lookup i ≠ none → (Pass.planned gathered.plans).lookup i ≠ none
  failures : ∀ i told, gathered.failures.lookup i = some told ↔
    ∃ failure, gathered.results.lookup i = some (.failure failure) ∧
      told = Pass.locateAt gathered.document i failure

namespace Pass

variable {found : List Piece} {results : List (Nat × RenderResult)} {i : Nat}

/-- A request stands at the position of a piece. -/
theorem lt_of_request (asked : (Plan.requests (plansFrom 0 found)).lookup i ≠ none) :
    i < found.length := by
  rw [lookup_requests] at asked
  by_contra outside
  rw [List.getElem?_eq_none (Nat.le_of_not_lt outside)] at asked
  exact asked rfl

/-- Nothing is looked up in vain when a document is written from the results of all its requests. -/
theorem keyed_of_results (name : Text) (distinct : (results.map Prod.fst).Nodup)
    (asked : ∀ i, results.lookup i ≠ none ↔ (Plan.requests (plansFrom 0 found)).lookup i ≠ none) :
    Gathered.Keyed ⟨⟨name, found.map Piece.segment⟩, plansFrom 0 found, results,
      failuresOf ⟨name, found.map Piece.segment⟩ results⟩ := by
  refine ⟨distinct, asked, fun i there => ?_, fun i there => ?_, fun i told => ?_⟩
  · have planned := plan_of_request ((asked i).mp there)
    rw [lookup_plansFrom] at planned
    rw [lookup_fences, List.getElem?_map]
    cases at_i : found[i]? with
    | none => exact absurd (by rw [at_i]; rfl) planned
    | some piece =>
      rw [at_i, Option.bind_some] at planned
      cases piece with
      | text raw => exact absurd rfl planned
      | fence fence plan => exact Option.some_ne_none fence
  · obtain ⟨plan, planned_at⟩ := Option.ne_none_iff_exists'.mp (plan_of_request ((asked i).mp there))
    rw [planned_eq, lookup_outcomesOf, planned_at]
    exact Option.some_ne_none _
  · rw [lookup_failuresOf _ distinct]
    cases results.lookup i with
    | none => simp
    | some result =>
      cases result with
      | artifact artifact => simp [RenderResult.failure?]
      | failure failure => simp [RenderResult.failure?, eq_comm]

end Pass

/-- A rendering that ends in no error has one result for each of its requests. -/
theorem renderRequests_answers (settings : Settings) (engine : Engine ε)
    {schedule : List Nat → Schedule} (complete : Schedule.Complete schedule)
    {requests : List (Nat × Request)} {onFailure : OnFailure σ} {noted told : σ}
    {session after : Session ε} {results : List (Nat × RenderResult)}
    (rendered : renderRequests settings engine requests onFailure (schedule (requests.map (·.1))) noted
      session = (.ok (results, told), after)) :
    (results.map Prod.fst).Nodup ∧ ∀ i, results.lookup i ≠ none ↔ requests.lookup i ≠ none := by
  have returned := congrArg Prod.fst rendered
  obtain ⟨distinct, asked⟩ := orderly_of_renderRequests returned
  refine ⟨distinct, fun i => ⟨fun there => ?_, fun listed => ?_⟩⟩
  · obtain ⟨result, given⟩ := Option.ne_none_iff_exists'.mp there
    obtain ⟨request, request_at⟩ := asked i result given
    rw [request_at]
    exact Option.some_ne_none request
  · obtain ⟨request, request_at⟩ := Option.ne_none_iff_exists'.mp listed
    exact renderRequests_delivers settings engine requests onFailure _ noted told session results i returned
      listed (complete _ i (List.mem_map_of_mem (mem_of_lookup request_at)))

end TypstFences
