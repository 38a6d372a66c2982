import TypstFences.Proofs.Pass.SourceLines
import TypstFences.Proofs.Pass.Stages
import TypstFences.Proofs.Render.Origin

/-!
# The failures that a pass tells

Each failure that a pass tells is that of a fence of its document: one that is remembered under the key
of the request of the fence, told with the place of the fence (`runWith_tells`). A pass that returns has
a result for every fence that is to be rendered, and tells those that are failures
(`delivered_tells`).
-/

set_option autoImplicit false

namespace TypstFences

variable {ε : Type}

namespace Pass

variable {press : Press} {settings : Settings} {registry : Registry} {name source marker : Text}
variable {engine : Engine ε}
variable {segments : List Segment} {found : List Piece} {fence : Fence} {request : Request}

/-! ## Fences that are to be rendered -/

/-- A piece with a request is a fence that asks for it. -/
theorem asks_of_piece (closed : (scan source).unclosed = none)
    (made : pieces settings registry name (scan source).segments = .ok found) {i : Nat}
    (asked : found[i]?.bind Piece.request? = some request) :
    ∃ fence plan marker, found[i]? = some (.fence fence plan) ∧
      fence.Asks settings registry source marker request := by
  obtain ⟨piece, at_i, request_eq⟩ := Option.bind_eq_some_iff.mp asked
  have segment_at : (scan source).segments[i]? = some piece.segment := by
    rw [← segments_of_pieces made, List.getElem?_map, at_i]
    rfl
  have read := ofSegment_of_pieces made i _ _ segment_at at_i
  cases piece with
  | text raw => exact absurd request_eq (by simp [Piece.request?, Piece.plan?])
  | fence fence plan =>
    have planned := read
    simp only [Piece.segment, Piece.ofSegment] at planned
    split at planned
    · exact absurd planned (by simp)
    · rename_i directive directive_eq
      have plan_eq := (Piece.fence.inj (Except.ok.inj planned)).2
      rcases plan with - | (display | ⟨asking, display⟩)
      · exact absurd request_eq (by simp [Piece.request?, Piece.plan?])
      · exact absurd request_eq (by simp [Piece.request?, Piece.plan?, Plan.request?])
      · obtain rfl : asking = request := Option.some.inj request_eq
        exact ⟨fence, _, directive.marker settings.hidelines, at_i, closed,
          List.mem_of_getElem? segment_at, directive, display, directive_eq, rfl, plan_eq⟩

/-- A fence that asks for a request is a piece with it. -/
theorem piece_of_asks (asks : fence.Asks settings registry source marker request)
    (made : pieces settings registry name (scan source).segments = .ok found) :
    ∃ (i : Nat) (plan : Option Plan), found[i]? = some (.fence fence plan) ∧
      found[i]?.bind Piece.request? = some request := by
  obtain ⟨i, segment_at⟩ := List.mem_iff_getElem?.mp asks.mem
  obtain ⟨directive, display, directive_eq, -, planned⟩ := asks.planned
  have mapped := segment_at
  rw [← segments_of_pieces made, List.getElem?_map] at mapped
  obtain ⟨piece, at_i, -⟩ := Option.map_eq_some_iff.mp mapped
  have read := ofSegment_of_pieces made i _ _ segment_at at_i
  rw [Piece.ofSegment, directive_eq] at read
  obtain rfl := Except.ok.inj read
  refine ⟨i, _, at_i, ?_⟩
  rw [at_i, Option.bind_some, Piece.request?, Piece.plan?, planned]
  rfl

/-- A fence that asks for a request has it among those of the pass. -/
theorem mem_requestsOf (asked : request ∈ found.filterMap Piece.request?)
    (made : pieces settings registry name (scan source).segments = .ok found) :
    request ∈ requestsOf settings registry name source := by
  unfold requestsOf
  rwa [made]

/-! ## What is told -/

/-- Whether a failure is told of a fence that is to be rendered: it has an origin under the key of the
request of the fence, and is told with the place of the fence. -/
def TellsOf (settings : Settings) (engine : Engine ε) (registry : Registry) (name source : Text)
    (origin : Text → Failure → Prop) (told : BlockFailure) : Prop :=
  ∃ (fence : Fence) (marker : Text) (request : Request) (version : Text) (failure : Failure),
    fence.Asks settings registry source marker request ∧ engine.HasVersion version ∧
      origin (requestKey settings engine request version) failure ∧ told = locate name fence failure

/-- What a pass tells and leaves: every failure that is remembered has an origin, and so has every one
that is told, be it listed or raised. A pass that returns has a result for each fence that is to be
rendered, and lists those that are failures. -/
structure Tells (schedule : List Nat → Schedule) (settings : Settings) (engine : Engine ε)
    (registry : Registry) (name source : Text) (origin : Text → Failure → Prop)
    (outcome : Except PassError PassResult) (after : Session ε) : Prop where
  traced : after.Traced origin
  listed : ∀ result, outcome = .ok result → ∀ told ∈ result.failures,
    TellsOf settings engine registry name source origin told
  raised : ∀ failures, outcome = .error (.renderFailure failures) →
    ¬engine.Raises (.renderFailure failures) →
      ∀ told ∈ failures, TellsOf settings engine registry name source origin told
  complete : Schedule.Complete schedule → ∀ result, outcome = .ok result →
    ∀ (fence : Fence) marker request, fence.Asks settings registry source marker request →
      ∃ version known, engine.HasVersion version ∧
        after.cache.entry? (requestKey settings engine request version) = some known ∧
        ∀ failure, known = .failure failure → locate name fence failure ∈ result.failures

variable {origin : Text → Failure → Prop} {session : Session ε}

/-- A failure at a position is told of the fence there. -/
theorem tellsOf_at (closed : (scan source).unclosed = none)
    (made : pieces settings registry name (scan source).segments = .ok found) {i : Nat} {version : Text}
    {failure : Failure} (asked : (Plan.requests (plansFrom 0 found)).lookup i = some request)
    (has : engine.HasVersion version)
    (from_origin : origin (requestKey settings engine request version) failure) :
    TellsOf settings engine registry name source origin
      (locateAt ⟨name, found.map Piece.segment⟩ i failure) := by
  rw [lookup_requests] at asked
  obtain ⟨fence, plan, marker, at_i, asks⟩ := asks_of_piece closed made asked
  exact ⟨fence, marker, request, version, failure, asks, has, from_origin, locateAt_eq at_i failure⟩

variable {collection : Collection ε Failures}

/-- The failures that a delivery raises are told of fences that are to be rendered. -/
theorem tells_of_deliver (closed : (scan source).unclosed = none)
    (made : pieces settings registry name (scan source).segments = .ok found)
    (inv : Collection.Traced settings engine (Plan.requests (plansFrom 0 found)) origin collection)
    {block : Nat} {failures : List BlockFailure}
    (ended : (collection.deliver (onFailure settings ⟨name, found.map Piece.segment⟩) block).1 =
      .error (.renderFailure failures))
    (own : ¬engine.Raises (.renderFailure failures)) :
    ∀ told ∈ failures, TellsOf settings engine registry name source origin told := by
  rcases Collection.deliver_cases (onFailure settings ⟨name, found.map Piece.segment⟩) collection
      block with ⟨-, done⟩ | ⟨_, -, -, done⟩ | ⟨failure, outcome, noted, host, executed, -, raised, done⟩ |
    ⟨error, executed, -, done⟩
  · exact absurd ((congrArg Prod.fst done).symm.trans ended) (by simp)
  · exact absurd ((congrArg Prod.fst done).symm.trans ended) (by simp)
  · -- the first failure ends the pass
    obtain rfl : outcome = .error (.renderFailure failures) :=
      (congrArg Prod.fst done).symm.trans ended
    unfold onFailure at raised
    split at raised
    · have only := PassError.renderFailure.inj (Except.error.inj (Prod.mk.inj raised).1)
      rw [← only]
      intro told mem
      obtain rfl := List.mem_singleton.mp mem
      obtain ⟨request, version, asked, has, known⟩ := inv.remembered block _ executed
      exact tellsOf_at closed made asked has (inv.session _ _ known)
    · exact absurd (Prod.mk.inj raised).1 (by simp)
  · obtain rfl := Except.error.inj ((congrArg Prod.fst done).symm.trans ended)
    rcases inv.breaks block _ executed with ⟨_, same⟩ | ⟨_, same⟩ | raises
    · exact absurd same (by simp)
    · exact absurd same (by simp)
    · exact absurd raises own

/-- The failures among what was delivered are told of fences that are to be rendered. -/
theorem tells_of_delivered (closed : (scan source).unclosed = none)
    (made : pieces settings registry name (scan source).segments = .ok found)
    (inv : Collection.Traced settings engine (Plan.requests (plansFrom 0 found)) origin collection)
    {i : Nat} {told : BlockFailure}
    (listed : (failuresOf ⟨name, found.map Piece.segment⟩ collection.delivered).lookup i = some told) :
    TellsOf settings engine registry name source origin told := by
  rw [lookup_failuresOf _ inv.orderly.distinct] at listed
  obtain ⟨result, found_at, listed⟩ := Option.bind_eq_some_iff.mp listed
  obtain ⟨failure, failed, rfl⟩ := Option.map_eq_some_iff.mp listed
  obtain ⟨request, version, asked, has, known⟩ := inv.remembered i _ (inv.orderly.executed i _ found_at)
  cases result with
  | artifact artifact => exact absurd failed (by simp [RenderResult.failure?])
  | failure other =>
    obtain rfl := Option.some.inj failed
    exact tellsOf_at closed made asked has (inv.session _ _ known)

/-- A fence that is to be rendered and has a result has it remembered, and listed if it is a failure. -/
theorem delivered_tells (asks : fence.Asks settings registry source marker request)
    (made : pieces settings registry name (scan source).segments = .ok found)
    (inv : Collection.Traced settings engine (Plan.requests (plansFrom 0 found)) origin collection)
    (delivers : ∀ i, (Plan.requests (plansFrom 0 found)).lookup i = some request →
      collection.delivered.lookup i ≠ none) :
    ∃ version known, engine.HasVersion version ∧
      collection.session.cache.entry? (requestKey settings engine request version) = some known ∧
      ∀ failure, known = .failure failure → locate name fence failure ∈
        (plansFrom 0 found).filterMap fun entry =>
          (failuresOf ⟨name, found.map Piece.segment⟩ collection.delivered).lookup entry.1 := by
  obtain ⟨i, plan, at_i, asked⟩ := piece_of_asks asks made
  have listed : (Plan.requests (plansFrom 0 found)).lookup i = some request :=
    (lookup_requests found i).trans asked
  obtain ⟨result, found_at⟩ := Option.ne_none_iff_exists'.mp (delivers i listed)
  obtain ⟨other, version, listed', has, known⟩ := inv.remembered i _ (inv.orderly.executed i _ found_at)
  obtain rfl : other = request := Option.some.inj (listed'.symm.trans listed)
  refine ⟨version, result, has, known, fun failure failed => ?_⟩
  subst failed
  rw [at_i, Option.bind_some] at asked
  obtain ⟨action, planned, -⟩ := Option.bind_eq_some_iff.mp asked
  have plan_at : (plansFrom 0 found).lookup i = some action := by
    rw [lookup_plansFrom, at_i]
    exact planned
  refine List.mem_filterMap.mpr ⟨(i, action), mem_of_lookup plan_at, ?_⟩
  rw [lookup_failuresOf _ inv.orderly.distinct, found_at, Option.bind_some]
  show Option.map _ (some failure) = _
  rw [Option.map_some, locateAt_eq at_i]

/-- The failures that are told when pieces are rendered have their origin in the engine. -/
theorem renderPieces_tells (schedule : List Nat → Schedule)
    (closed : (scan source).unclosed = none)
    (made : pieces settings registry name (scan source).segments = .ok found)
    (covers : ∀ request ∈ requestsOf settings registry name source, ∀ version told,
      engine.HasVersion version → engine.Fails (request.assembled settings.preamble) told →
        origin (requestKey settings engine request version)
          (told.inBlock (request.preambleLines settings.preamble)))
    (traced : session.Traced origin) :
    Tells schedule settings engine registry name source origin
      (renderPieces schedule press settings engine name found session).1
      (renderPieces schedule press settings engine name found session).2 := by
  let document : Document := ⟨name, found.map Piece.segment⟩
  let requests := Plan.requests (plansFrom 0 found)
  have covered : Collection.Covers settings engine requests origin := by
    intro block request version told asked has fails
    refine covers request (mem_requestsOf ?_ made) version told has fails
    rw [lookup_requests] at asked
    obtain ⟨piece, at_block, request_eq⟩ := Option.bind_eq_some_iff.mp asked
    exact List.mem_filterMap.mpr ⟨piece, List.mem_of_getElem? at_block, request_eq⟩
  -- executing and delivering keep the origins, to the end of the rendering
  obtain ⟨collection, kept, session_eq, results_eq, error_eq⟩ := renderRequests_keeps
    (onFailure settings document) (schedule (requests.map (·.1)))
    (fun collection block inv => inv.execute covered block)
    (fun collection block inv => inv.deliver block) (Collection.traced_start [] traced)
    (Collection.traced_start [] traced)
  have delivers (results : List (Nat × RenderResult)) (noted : Failures) (block : Nat) :=
    renderRequests_delivers
    settings engine requests (onFailure settings document) (schedule (requests.map (·.1))) [] noted session
    results block
  unfold renderPieces
  cases rendered : renderRequests settings engine requests (onFailure settings document)
      (schedule (requests.map (·.1))) [] session with
  | mk outcome after =>
    rw [rendered] at session_eq results_eq error_eq delivers
    obtain rfl : after = collection.session := session_eq
    simp only [requests, document] at rendered
    simp only [rendered]
    cases outcome with
    | error error =>
      refine ⟨kept.session, fun result same => absurd same (by simp), fun failures same crash => ?_,
        fun _ result same => absurd same (by simp)⟩
      obtain rfl := Except.error.inj same
      obtain ⟨before, block, inv, ended⟩ := error_eq _ rfl
      exact tells_of_deliver closed made inv ended crash
    | ok both =>
      obtain ⟨results, noted⟩ := both
      obtain ⟨rfl, -⟩ := results_eq _ _ rfl
      refine ⟨kept.session, fun result same told mem => ?_, fun failures same => ?_,
        fun scheduled result same fence marker request asks => ?_⟩
      · rw [conclude_failures same] at mem
        obtain ⟨_, -, listed⟩ := List.mem_filterMap.mp mem
        exact tells_of_delivered closed made kept listed
      · intro own
        rcases conclude_error same with raises | ⟨_, written⟩ | written
        · exact absurd (.inr raises) own
        · exact absurd written (by simp)
        · exact absurd written (by simp)
      · rw [conclude_failures same]
        exact delivered_tells asks made kept fun i asked => delivers _ _ i rfl (by simp [requests, asked])
          (scheduled _ i (List.mem_map_of_mem (mem_of_lookup asked)))

/-- A pass tells failures of its fences that have an origin, if those that are remembered have one and
those of its own requests are origins. -/
theorem runWith_tells (schedule : List Nat → Schedule)
    (covers : ∀ request ∈ requestsOf settings registry name source, ∀ version told,
      engine.HasVersion version → engine.Fails (request.assembled settings.preamble) told →
        origin (requestKey settings engine request version)
          (told.inBlock (request.preambleLines settings.preamble)))
    (traced : session.Traced origin) :
    Tells schedule settings engine registry name source origin
      (runWith schedule press settings engine registry name source session).1
      (runWith schedule press settings engine registry name source session).2 := by
  -- a pass that ends before anything is rendered tells nothing
  have ended {host : Host} {error : PassError}
      (other : ∀ failures, error ≠ .renderFailure failures) :
      Tells schedule settings engine registry name source origin (.error error)
        (session.withHost host) :=
    ⟨traced, fun result same => absurd same (by simp),
      fun failures same => absurd (Except.error.inj same) (other failures),
      fun _ result same => absurd same (by simp)⟩
  obtain ⟨host, -, run⟩ := runWith_eq schedule press settings engine registry name source session
  rw [run]
  cases closed : (scan source).unclosed with
  | some openFence => exact ended fun failures => by simp
  | none =>
    cases made : pieces settings registry name (scan source).segments with
    | error error =>
      obtain ⟨location, info, fault, rfl⟩ := pieces_error made
      exact ended fun failures => by simp
    | ok found => exact renderPieces_tells schedule closed made covers traced

end Pass

end TypstFences
