import TypstFences.Proofs.Pass.FailFast
import TypstFences.Proofs.Pass.Needed
import TypstFences.Proofs.Render.Expectation

/-!
# Passes that are foretold

What a pass comes to can be told before it is made, also when other passes are made and files are written in
between: the results that were expected at the start decide what is written, and a pass that is to end with
the first failure ends with the first one in the document (`Pass.foretold`). A pass in order comes to what is
foretold, unless the file system refuses a file of the cache (`PassCall.run_foretold`).
-/

set_option autoImplicit false

namespace TypstFences

variable {ε σ : Type}

namespace Pass

variable {press : Press} {settings : Settings} {registry : Registry} {engine : Engine ε}
variable {rendering : Rendering}
variable {name source : Text} {pieces : List Piece} {document : Document}

/-- The results that are expected at a start, with the digests of their requests. -/
def expectedOf (rendering : Rendering) (start : Session ε) : Rendering where
  answer request :=
    (start.expected? (rendering.digest request) (rendering.answer request)).getD default
  digest := rendering.digest

/-- What a pass in order comes to that means a result: it ends with the first failure, if it is to do so, and
else returns the result with its images by name. -/
def settle (settings : Settings) (result : PassResult) : Except PassError PassResult :=
  match settings.failFast, result.failures with
  | true, failure :: _ => .error (.renderFailure [failure])
  | _, _ => .ok { result with artifacts := addImages [] result.artifacts }

/-- What a pass over a text comes to that renders its blocks one after the other. -/
def foretold (press : Press) (settings : Settings) (registry : Registry) (rendering : Rendering)
    (name source : Text) :
    Except PassError PassResult :=
  (meaning press settings registry rendering name source).bind (settle settings)

/-! ## Results in order -/

/-- The results of requests, in their order. -/
def resultsOf (rendering : Rendering) (requests : List (Nat × Request)) : List (Nat × RenderResult) :=
  requests.map fun entry => (entry.1, rendering.answer entry.2)

/-- How the delivery of results in their order ends: with the first failure, if that is to end it. -/
def endOf (settings : Settings) (document : Document) (results : List (Nat × RenderResult)) :
    Except PassError Unit :=
  match settings.failFast, failuresOf document results with
  | true, failure :: _ => .error (.renderFailure [failure.2])
  | _, _ => .ok ()

/-- Nothing is wrong with no results. -/
@[simp] theorem endOf_nil (settings : Settings) (document : Document) :
    endOf settings document [] = .ok () := by
  unfold endOf
  cases settings.failFast <;> rfl

/-- The delivery ends with the first result, or as that of the others does. -/
theorem endOf_cons (settings : Settings) (document : Document) (result : Nat × RenderResult)
    (results : List (Nat × RenderResult)) :
    endOf settings document (result :: results) =
      match endOf settings document [result] with
      | .error error => .error error
      | .ok () => endOf settings document results := by
  obtain ⟨index, artifact | failure⟩ := result
  · unfold endOf
    cases settings.failFast <;> rfl
  · unfold endOf
    cases settings.failFast <;> rfl

/-- Different requests stand at different positions. -/
theorem nodup_requests (pieces : List Piece) :
    ((Plan.requests (plansFrom 0 pieces)).map Prod.fst).Nodup := by
  have positions : (pieces.zipIdx.map Prod.snd).Nodup := by
    rw [List.zipIdx_map_snd]
    exact List.nodup_range'
  rw [requests_plansFrom, List.map_filterMap, List.Nodup, List.pairwise_filterMap]
  refine (List.pairwise_map.mp positions).imp fun {first second} differ index mem index' mem' => ?_
  obtain ⟨_, asked, same⟩ := Option.map_eq_some_iff.mp mem
  obtain ⟨_, asked', same'⟩ := Option.map_eq_some_iff.mp mem'
  obtain ⟨_, -, rfl⟩ := Option.map_eq_some_iff.mp asked
  obtain ⟨_, -, rfl⟩ := Option.map_eq_some_iff.mp asked'
  rw [← same, ← same']
  exact differ

/-- Results in order are those of all requests. -/
theorem deliveredAll_resultsOf (rendering : Rendering) {requests : List (Nat × Request)}
    (distinct : (requests.map Prod.fst).Nodup) :
    DeliveredAll rendering.answer requests (resultsOf rendering requests) := by
  refine ⟨fun block => ?_, ?_⟩
  · exact lookup_map (f := fun _ => rendering.answer) ..
  · rwa [resultsOf, List.map_map]

/-- The images of results in order are those of the pieces. -/
theorem images_resultsOf (rendering : Rendering) (pieces : List Piece) :
    imagesFrom (keysOf rendering (Plan.requests (plansFrom 0 pieces)))
        (resultsOf rendering (Plan.requests (plansFrom 0 pieces))) =
      pieces.flatMap (Piece.images rendering) := by
  have image_eq : ∀ entry ∈ Plan.requests (plansFrom 0 pieces),
      imagesUnder (keysOf rendering (Plan.requests (plansFrom 0 pieces)) entry.1)
        (rendering.answer entry.2) = rendering.images entry.2 := by
    intro entry mem
    rw [Rendering.images, keysOf, lookup_of_mem (nodup_requests pieces) mem]
    rfl
  have requests_eq : (Plan.requests (plansFrom 0 pieces)).flatMap (fun entry =>
      rendering.images entry.2) = (pieces.filterMap Piece.request?).flatMap rendering.images := by
    rw [← requests_map_snd, List.flatMap_map]
  rw [imagesFrom, resultsOf, List.flatMap_map, List.flatMap_congr image_eq, requests_eq,
    List.filterMap_eq_flatMap_toList, List.flatMap_assoc]
  rfl

/-- The failures of results in order are those of the pieces. -/
theorem failures_resultsOf (rendering : Rendering) (name : Text) (pieces : List Piece) :
    (failuresOf ⟨name, pieces.map Piece.segment⟩
        (resultsOf rendering (Plan.requests (plansFrom 0 pieces)))).map Prod.snd =
      pieces.flatMap (Piece.failures rendering name) := by
  have told : ∀ entry ∈ pieces.zipIdx,
      ((entry.1.request?.bind fun request => (rendering.answer request).failure?.map
        (locateAt ⟨name, pieces.map Piece.segment⟩ entry.2)).toList) =
          entry.1.failures rendering name := by
    rintro ⟨piece, i⟩ mem
    have at_i : pieces[i]? = some piece := List.mem_zipIdx_iff_getElem?.mp mem
    cases piece with
    | text raw => rfl
    | fence block plan =>
      rcases plan with - | (display | ⟨request, display⟩)
      · rfl
      · rfl
      · simp only [Piece.request?, Piece.plan?, Plan.request?, Option.bind_some, Piece.failures]
        congr 2
        funext failure
        exact locateAt_eq at_i failure
  have pieces_eq : pieces.flatMap (Piece.failures rendering name) =
      pieces.zipIdx.flatMap fun entry => entry.1.failures rendering name := by
    conv_lhs => rw [← List.zipIdx_map_fst 0 pieces, List.flatMap_map]
  rw [pieces_eq, ← List.flatMap_congr told, ← List.filterMap_eq_flatMap_toList, failuresOf, resultsOf,
    requests_plansFrom, List.filterMap_map, List.filterMap_filterMap, List.map_filterMap]
  refine List.filterMap_congr fun entry _ => ?_
  cases entry.1.request? with
  | none => rfl
  | some request =>
    simp only [Option.map_some, Option.bind_some, Function.comp_apply, Option.map_map]
    rfl

/-- What is concluded from results in order is what the pieces mean. -/
theorem conclude_resultsOf (press : Press) (Inv : Rig ε → Prop) (name : Text) (rig : Rig ε)
    (tells : ∀ rig request, Inv rig →
      (requestDigest settings engine request rig).1 = .ok (rendering.digest request))
    (stays : ∀ rig request, Inv rig → Inv (requestDigest settings engine request rig).2)
    (inv : Inv rig) (pieces : List Piece) :
    ∃ after, Inv after ∧
      conclude press settings engine ⟨name, pieces.map Piece.segment⟩ (plansFrom 0 pieces)
        (resultsOf rendering (Plan.requests (plansFrom 0 pieces))) rig =
      ((piecesMeaning press settings rendering name pieces).map fun result =>
        { result with artifacts := addImages [] result.artifacts }, after) := by
  have delivered := deliveredAll_resultsOf rendering (nodup_requests pieces)
  obtain ⟨after, inv', gathered⟩ :=
    gatherImages_eq tells stays (Plan.requests (plansFrom 0 pieces)) delivered.distinct [] inv
  have output : Replacement.ofDocument press settings (outcomesOf _ _ (plansFrom 0 pieces)) _ = _ :=
    ofDocument_eq press settings name delivered
  have failures : ((plansFrom 0 pieces).filterMap fun entry => (failuresOf ⟨name, pieces.map Piece.segment⟩
      (resultsOf rendering (Plan.requests (plansFrom 0 pieces)))).lookup entry.1) = _ :=
    failures_inOrder delivered
  rw [images_resultsOf] at gathered
  refine ⟨after, inv', ?_⟩
  unfold piecesMeaning
  cases texts : pieces.mapM (Piece.written press settings rendering name) with
  | error error =>
    rw [texts] at output
    simp only [conclude, gathered, output]
    rfl
  | ok parts =>
    rw [texts] at output
    simp only [conclude, gathered, output, failures]
    rfl

/-- What pieces mean is settled as the delivery of their results ends. -/
theorem settle_eq {result : PassResult}
    (means : piecesMeaning press settings rendering name pieces = .ok result) :
    settle settings result =
      (endOf settings ⟨name, pieces.map Piece.segment⟩
        (resultsOf rendering (Plan.requests (plansFrom 0 pieces)))).map fun _ =>
          { result with artifacts := addImages [] result.artifacts } := by
  have failures_eq : result.failures = (failuresOf ⟨name, pieces.map Piece.segment⟩
      (resultsOf rendering (Plan.requests (plansFrom 0 pieces)))).map Prod.snd := by
    rw [failures_resultsOf]
    unfold piecesMeaning at means
    cases texts : pieces.mapM (Piece.written press settings rendering name) with
    | error error => exact absurd (texts ▸ means) (by simp [Except.map])
    | ok parts =>
      rw [texts] at means
      rw [← Except.ok.inj means]
  unfold settle endOf
  rw [failures_eq]
  cases settings.failFast with
  | false => rfl
  | true =>
    cases failuresOf ⟨name, pieces.map Piece.segment⟩
      (resultsOf rendering (Plan.requests (plansFrom 0 pieces))) <;> rfl

/-! ## What is foretold in the two modes -/

/-- What pieces come to can be written, if it can be embedded. -/
theorem piecesMeaning_isOk (embeds : settings.Embeds press.highlighter) (rendering : Rendering) (name : Text)
    (pieces : List Piece) : ∃ result, piecesMeaning press settings rendering name pieces = .ok result := by
  have written (piece : Piece) : ∃ part, piece.written press settings rendering name = .ok part := by
    cases piece with
    | text raw => exact ⟨raw, rfl⟩
    | fence block plan =>
      exact Replacement.ofSegment_ok embeds (plan.map (rendering.outcome name block)) (.fence block)
  have all : ∃ parts, pieces.mapM (Piece.written press settings rendering name) = .ok parts := by
    induction pieces with
    | nil => exact ⟨[], rfl⟩
    | cons piece pieces ih =>
      obtain ⟨part, first⟩ := written piece
      obtain ⟨parts, others⟩ := ih
      exact ⟨part :: parts, mapM_cons_ok.mpr ⟨part, parts, first, others, rfl⟩⟩
  obtain ⟨parts, made⟩ := all
  unfold piecesMeaning
  rw [made]
  exact ⟨_, rfl⟩

/-- Nothing but its structure keeps a document from a result, or the first failure, if that is to be the end.
-/
theorem foretold_error (embeds : settings.Embeds press.highlighter) {error : PassError}
    (ends : foretold press settings registry rendering name source = .error error) :
    error.isStructural = true ∨
      settings.failFast = true ∧ ∃ failure, error = .renderFailure [failure] := by
  unfold foretold meaning at ends
  cases open_eq : (scan source).unclosed with
  | some openFence =>
    rw [open_eq] at ends
    rw [← Except.error.inj ends]
    exact .inl rfl
  | none =>
    rw [open_eq] at ends
    cases made : Pass.pieces settings registry name (scan source).segments with
    | error other =>
      rw [made] at ends
      obtain rfl : other = error := Except.error.inj ends
      obtain ⟨location, info, fault, rfl⟩ := pieces_error made
      exact .inl rfl
    | ok found =>
      obtain ⟨result, means⟩ := piecesMeaning_isOk embeds rendering name found
      simp only [made, means, Except.bind, settle] at ends
      split at ends
      · rename_i failure _ failFast _
        exact .inr ⟨failFast, failure, (Except.error.inj ends).symm⟩
      · exact absurd ends (by simp)

/-- Nothing but the document keeps it from a result. -/
theorem isDocumentError_of_foretold (embeds : settings.Embeds press.highlighter) {error : PassError}
    (ends : foretold press settings registry rendering name source = .error error) :
    error.isDocumentError = true := by
  rcases foretold_error embeds ends with structural | ⟨-, failure, rfl⟩
  · cases error <;> first | rfl | exact absurd structural (by simp [PassError.isStructural])
  · rfl

/-- Without the first failure as an end, nothing but the structure of a document keeps it from a result. -/
theorem isStructural_of_foretold (embeds : settings.Embeds press.highlighter)
    (noFailFast : settings.failFast = false) {error : PassError}
    (ends : foretold press settings registry rendering name source = .error error) :
    error.isStructural = true := by
  rcases foretold_error embeds ends with structural | ⟨failFast, -⟩
  · exact structural
  · exact absurd (noFailFast.symm.trans failFast) (by simp)

/-- A result without failures, or the first failure as an error. -/
def halted (result : PassResult) : Except PassError PassResult :=
  match result.failures with
  | [] => .ok result
  | failure :: _ => .error (.renderFailure [failure])

/-- The pieces of a document are the same in the two modes. -/
theorem pieces_failingFast (flag : Bool) (segments : List Segment) :
    Pass.pieces (settings.failingFast flag) registry name segments =
      Pass.pieces settings registry name segments := by
  have one : Piece.ofSegment (settings.failingFast flag) registry name =
      Piece.ofSegment settings registry name := by
    funext segment
    cases segment <;> rfl
  unfold Pass.pieces
  rw [one]

/-- What a document means is the same in the two modes. -/
theorem meaning_failingFast (flag : Bool) :
    meaning press (settings.failingFast flag) registry rendering name source =
      meaning press settings registry rendering name source := by
  have one : Piece.written press (settings.failingFast flag) rendering name =
      Piece.written press settings rendering name := by
    funext piece
    cases piece with
    | text raw => rfl
    | fence block plan =>
      exact Replacement.ofSegment_failingFast settings flag press (plan.map (rendering.outcome name block))
        (.fence block)
  unfold meaning piecesMeaning
  rw [pieces_failingFast, one]

/-- A pass that is to end with the first failure comes to what one comes to that goes on, unless that has
failures. -/
theorem foretold_failingFast :
    foretold press (settings.failingFast true) registry rendering name source =
      (foretold press (settings.failingFast false) registry rendering name source).bind halted := by
  unfold foretold
  rw [meaning_failingFast, meaning_failingFast]
  cases meaning press settings registry rendering name source with
  | error error => rfl
  | ok result =>
    show settle (settings.failingFast true) result =
      (settle (settings.failingFast false) result).bind halted
    unfold settle halted
    cases failures_eq : result.failures with
    | nil => simp [Settings.failingFast, Except.bind]
    | cons failure others => simp [Settings.failingFast, Except.bind]

end Pass

/-! ## Rendering in order -/

/-- Whether a session comes of another one by giving results as they were expected at a start. -/
structure Session.GoesOn (value : Text → Option RenderResult) (wanted : Text → Prop)
    (start session after : Session ε) : Prop where
  expects : Expects value start after
  advances : Advances value wanted session after

namespace Session.GoesOn

variable {value : Text → Option RenderResult} {wanted : Text → Prop}
variable {start session between after : Session ε}

/-- A session goes on to itself. -/
theorem refl (h : Expects value start session) : GoesOn value wanted start session session :=
  ⟨h, .refl session⟩

/-- A session goes on by steps. -/
theorem trans (h : GoesOn value wanted start session between)
    (next : GoesOn value wanted start between after) : GoesOn value wanted start session after :=
  ⟨next.expects, h.advances.trans next.advances⟩

/-- What leaves the cache and the files as they are gives no results. -/
theorem sameFiles (h : GoesOn value wanted start session between) (cache : after.cache = between.cache)
    (files : Store.SameFiles between.rig.host after.rig.host) :
    GoesOn value wanted start session after := by
  refine ⟨h.expects.sameFiles (by rw [cache]) (by rw [cache]) files, h.advances.trans ?_⟩
  exact .of_sameFiles (by rw [cache]) (fun key there => by rwa [cache]) files

end Session.GoesOn

/-- The result of a block is delivered as `Pass.endOf` says, with the cache and the files left as they are. -/
theorem Pass.deliver_result {settings : Settings} (document : Document)
    {collection : Collection ε Pass.Failures}
    {index : Nat} {result : RenderResult}
    (executed : collection.executed.lookup index = some (.ok result))
    (absent : collection.delivered.lookup index = none) :
    ∃ after, collection.deliver (Pass.onFailure settings document) index =
        (Pass.endOf settings document [(index, result)], after) ∧
      after.executed = collection.executed ∧
      after.delivered = collection.delivered ++ [(index, result)] ∧
      after.session.cache = collection.session.cache ∧
      Store.SameFiles collection.session.rig.host after.session.rig.host := by
  cases result with
  | artifact artifact =>
    have quiet : Pass.endOf settings document [(index, .artifact artifact)] = .ok () := by
      rw [← Pass.endOf_nil settings document]
      rfl
    rw [Collection.deliver_artifact executed absent, quiet]
    exact ⟨_, rfl, rfl, rfl, rfl, .refl _⟩
  | failure failure =>
    rw [Collection.deliver_failure executed absent]
    unfold Pass.onFailure Pass.endOf
    cases settings.failFast <;> exact ⟨_, rfl, rfl, rfl, rfl, .note _ _ _⟩

namespace PassCall

/-- The results of a pass that are expected at a start, with the digests of their requests. -/
def expected (answer : Answer) (start : Session ε) (call : PassCall ε) : Rendering :=
  Pass.expectedOf (call.rendering answer) start

/-- What a pass comes to by the results that are expected at a start. -/
def foretold (answer : Answer) (start : Session ε) (call : PassCall ε) : Except PassError PassResult :=
  Pass.foretold call.press call.settings call.registry (call.expected answer start) call.name call.source

/-- What is assumed of a pass: it renders its blocks in order, with an engine that answers as it should and
changes no files, and what its blocks come to can be written. -/
structure InOrder (answer : Answer) (call : PassCall ε) : Prop where
  schedule : call.schedule = Schedule.inOrder
  answers : call.engine.Answers call.version (call.answerTo answer)
  spares : call.engine.SparesFiles
  embeds : call.settings.Embeds call.press.highlighter

/-- Whether there are values for the digests of some requests of a pass, which are what is computed. -/
def Values (answer : Answer) (value : Text → Option RenderResult) (call : PassCall ε)
    (requests : List Request) : Prop :=
  ∀ request ∈ requests, value ((call.rendering answer).digest request) =
    some ((call.rendering answer).answer request)

section Rendering

variable {call : PassCall ε} {answer : Answer} {value : Text → Option RenderResult}
variable {wanted : Text → Prop} {start session : Session ε} {document : Document}
variable {requests : List (Nat × Request)} {collection : Collection ε Pass.Failures}

/-- A block that is rendered and delivered has the result that is expected, unless the file system refuses a
file. -/
theorem block_expected (document : Document) (inOrder : call.InOrder answer)
    (isKey : ∀ key, value key ≠ none → Store.IsKey key)
    (h : Session.Expects value start collection.session) {index : Nat} {request : Request}
    (asked : requests.lookup index = some request)
    (executed : collection.executed.lookup index = none)
    (delivered : collection.delivered.lookup index = none)
    (mem : wanted ((call.rendering answer).digest request))
    (known : value ((call.rendering answer).digest request) =
      some ((call.rendering answer).answer request)) :
    (∃ fault after, (collection.execute call.settings call.engine requests index).deliver
        (Pass.onFailure call.settings document) index = (.error (.refusedFile fault), after) ∧
          collection.session.Refuses value wanted fault) ∨
      ∃ after, (collection.execute call.settings call.engine requests index).deliver
          (Pass.onFailure call.settings document) index =
            (Pass.endOf call.settings document
              [(index, (call.expected answer start).answer request)], after) ∧
        Session.GoesOn value wanted start collection.session after.session ∧
        after.session.cache.entry? ((call.rendering answer).digest request) ≠ none ∧
        (∀ other, other ≠ index →
          after.executed.lookup other = collection.executed.lookup other) ∧
        after.delivered =
          collection.delivered ++ [(index, (call.expected answer start).answer request)] := by
  rw [Collection.execute_eq asked executed]
  have outcome_eq (other : Nat) :
      (collection.addOutcome call.settings call.engine index request).executed.lookup other =
        if other = index then some (renderRequest call.settings call.engine request collection.session).1
        else collection.executed.lookup other :=
    Collection.lookup_addOutcome executed other
  have rendered := outcome_eq index
  rw [if_pos rfl] at rendered
  rcases renderRequest_expected inOrder.answers inOrder.spares isKey h known with
    ⟨fault, refused, refuses⟩ | ⟨result, given, expected, expects, advances, remembered⟩
  · rw [refused] at rendered
    exact .inl ⟨fault, _, Collection.deliver_error rendered delivered,
      refuses.mono (fun _ _ _ known => known) fun key same => same ▸ mem⟩
  · have answer_eq : (call.expected answer start).answer request = result := by
      show (start.expected? (digestUnder call.settings call.version call.engine.root request)
        (request.answer (call.answerTo answer) call.settings.preamble)).getD default = result
      rw [expected]
      rfl
    rw [given] at rendered
    rw [answer_eq]
    obtain ⟨after, done, executed_eq, delivered_eq, cache_eq, files⟩ :=
      Pass.deliver_result document rendered delivered
    have goes : Session.GoesOn value wanted start collection.session
        (collection.addOutcome call.settings call.engine index request).session :=
      ⟨expects, advances.mono (fun _ _ _ known => known) fun key same => same ▸ mem⟩
    refine .inr ⟨after, done, goes.sameFiles cache_eq files, ?_, fun other differ => ?_, delivered_eq⟩
    · rw [cache_eq]
      exact fun absent => absurd (remembered.symm.trans absent) (by simp)
    · rw [executed_eq, outcome_eq, if_neg differ]

/-- Blocks that are rendered and delivered one after the other have the results that are expected, up to the
first failure if that is to be the end, unless the file system refuses a file. -/
theorem blocks_expected (document : Document) (wanted : Text → Prop) (inOrder : call.InOrder answer)
    (isKey : ∀ key, value key ≠ none → Store.IsKey key) {rest : List (Nat × Request)} :
    ∀ {collection : Collection ε Pass.Failures}, Session.Expects value start collection.session →
      (rest.map Prod.fst).Nodup →
      (∀ entry ∈ rest, requests.lookup entry.1 = some entry.2 ∧
        collection.executed.lookup entry.1 = none ∧ collection.delivered.lookup entry.1 = none ∧
        wanted ((call.rendering answer).digest entry.2)) →
      call.Values answer value (rest.map Prod.snd) →
      (∃ fault, (collection.run call.settings call.engine requests
          (Pass.onFailure call.settings document) (Schedule.inOrder (rest.map Prod.fst))).1 =
            .error (.refusedFile fault) ∧ collection.session.Refuses value wanted fault) ∨
        ∃ after, collection.run call.settings call.engine requests
            (Pass.onFailure call.settings document) (Schedule.inOrder (rest.map Prod.fst)) =
              (Pass.endOf call.settings document (Pass.resultsOf (call.expected answer start) rest),
                after) ∧
          Session.GoesOn value wanted start collection.session after.session ∧
          (Pass.endOf call.settings document (Pass.resultsOf (call.expected answer start) rest) =
              .ok () →
            after.delivered =
                collection.delivered ++ Pass.resultsOf (call.expected answer start) rest ∧
              ∀ entry ∈ rest,
                after.session.cache.entry? ((call.rendering answer).digest entry.2) ≠ none) := by
  induction rest with
  | nil =>
    intro collection h _ _ _
    refine .inr ⟨collection, ?_, .refl h, fun _ => ⟨(List.append_nil _).symm, ?_⟩⟩
    · show _ = (Pass.endOf call.settings document [], collection)
      rw [Pass.endOf_nil]
      rfl
    · exact fun _ mem => absurd mem List.not_mem_nil
  | cons entry rest ih =>
    intro collection h distinct ready values
    obtain ⟨asked, executed, delivered, mem⟩ := ready entry List.mem_cons_self
    rw [List.map_cons, List.nodup_cons] at distinct
    have schedule_eq : Schedule.inOrder ((entry :: rest).map Prod.fst) =
        .execute entry.1 :: .deliver entry.1 :: Schedule.inOrder (rest.map Prod.fst) := rfl
    have results_eq : Pass.resultsOf (call.expected answer start) (entry :: rest) =
        (entry.1, (call.expected answer start).answer entry.2) ::
          Pass.resultsOf (call.expected answer start) rest := rfl
    rw [schedule_eq, Collection.run_execute, results_eq, Pass.endOf_cons]
    rcases block_expected document inOrder isKey h asked executed delivered mem
        (values entry.2 List.mem_cons_self) with
      ⟨fault, after, refused, refuses⟩ | ⟨after, done, goes, there, others, delivered_eq⟩
    · exact .inl ⟨fault, by rw [Collection.run_deliver_error _ refused], refuses⟩
    · cases ends : Pass.endOf call.settings document
          [(entry.1, (call.expected answer start).answer entry.2)] with
      | error error =>
        rw [ends] at done
        exact .inr ⟨after, Collection.run_deliver_error _ done, goes, fun ok => absurd ok (by simp)⟩
      | ok =>
        rw [ends] at done
        rw [Collection.run_deliver _ done]
        have next := ih goes.expects distinct.2 (fun other later => by
          have differ : other.1 ≠ entry.1 := fun same =>
            distinct.1 (same ▸ List.mem_map_of_mem later)
          obtain ⟨asked', executed', delivered', mem'⟩ := ready other (List.mem_cons_of_mem _ later)
          refine ⟨asked', ?_, ?_, mem'⟩
          · rw [others other.1 differ, executed']
          · rw [delivered_eq, lookup_concat _ delivered, if_neg differ, delivered'])
          fun request later => values request (List.mem_cons_of_mem _ later)
        rcases next with ⟨fault, refused, refuses⟩ | ⟨final, ran, goes', ended⟩
        · exact .inl ⟨fault, refused, .of_advances goes.advances refuses⟩
        · refine .inr ⟨final, ran, goes.trans goes', fun ok => ?_⟩
          obtain ⟨delivered_all, remembered_all⟩ := ended ok
          refine ⟨?_, fun other mem => ?_⟩
          · rw [delivered_all, delivered_eq, List.append_assoc]
            rfl
          · rcases List.mem_cons.mp mem with rfl | later
            · exact goes'.advances.kept _ there
            · exact remembered_all other later

/-- The requests of pieces are rendered in order as it is expected, unless the file system refuses a file. -/
theorem renderRequests_expected (document : Document) (inOrder : call.InOrder answer)
    (isKey : ∀ key, value key ≠ none → Store.IsKey key) (h : Session.Expects value start session)
    (distinct : (requests.map Prod.fst).Nodup) (values : call.Values answer value (requests.map Prod.snd)) :
    (∃ fault, (renderRequests call.settings call.engine requests (Pass.onFailure call.settings document)
        (Schedule.inOrder (requests.map Prod.fst)) [] session).1 = .error (.refusedFile fault) ∧
          session.Refuses value (Asked (call.rendering answer).digest (requests.map Prod.snd)) fault) ∨
      ∃ after, renderRequests call.settings call.engine requests
          (Pass.onFailure call.settings document) (Schedule.inOrder (requests.map Prod.fst)) [] session =
            ((Pass.endOf call.settings document (Pass.resultsOf (call.expected answer start)
              requests)).map fun _ => (Pass.resultsOf (call.expected answer start) requests,
                Pass.failuresOf document (Pass.resultsOf (call.expected answer start) requests)),
              after) ∧
        Session.GoesOn value (Asked (call.rendering answer).digest (requests.map Prod.snd)) start session
          after ∧
        (Pass.endOf call.settings document (Pass.resultsOf (call.expected answer start) requests) =
          .ok () → ∀ entry ∈ requests,
            after.cache.entry? ((call.rendering answer).digest entry.2) ≠ none) := by
  unfold renderRequests
  cases requests with
  | nil =>
    refine .inr ⟨session, ?_, .refl h, fun _ _ mem => absurd mem List.not_mem_nil⟩
    show _ = ((Pass.endOf call.settings document []).map _, session)
    rw [Pass.endOf_nil]
    rfl
  | cons first others =>
    simp only [List.isEmpty_cons, Bool.false_eq_true, if_false]
    have noted : Session.GoesOn value
        (Asked (call.rendering answer).digest ((first :: others).map Prod.snd)) start session
        (session.withHost
          (session.rig.host.note 2 (renderingText call.settings (first :: others)))) :=
      (Session.GoesOn.refl h).sameFiles rfl (.note _ _ _)
    have begun : Session.Expects value start (Collection.start ([] : Pass.Failures) (session.withHost
        (session.rig.host.note 2 (renderingText call.settings (first :: others))))).session :=
      noted.expects
    rcases blocks_expected document
        (Asked (call.rendering answer).digest ((first :: others).map Prod.snd)) inOrder isKey begun
        distinct (fun entry mem => ⟨lookup_of_mem distinct mem, rfl, rfl, entry.2,
          List.mem_map_of_mem mem, rfl⟩) values with
      ⟨fault, refused, refuses⟩ | ⟨after, ran, goes, ended⟩
    · refine .inl ⟨fault, ?_, .of_advances noted.advances refuses⟩
      generalize Collection.run call.settings call.engine (first :: others) _ _ _ = done at refused ⊢
      obtain ⟨outcome, after⟩ := done
      obtain rfl : outcome = _ := refused
      rfl
    · refine .inr ⟨after.session, ?_, noted.trans goes,
        fun ok => (ended ok).2⟩
      rw [ran]
      cases ends : Pass.endOf call.settings document
          (Pass.resultsOf (call.expected answer start) (first :: others)) with
      | error error => rfl
      | ok =>
        have delivered : after.delivered =
          Pass.resultsOf (call.expected answer start) (first :: others) := (ended ends).1
        -- the failures that were noted are those among the results
        have whole : (renderRequests call.settings call.engine (first :: others)
            (Pass.onFailure call.settings document) (Schedule.inOrder ((first :: others).map Prod.fst)) []
            session).1 = .ok (after.delivered, after.noted) := by
          unfold renderRequests
          simp only [List.isEmpty_cons, Bool.false_eq_true, if_false]
          rw [ran, ends]
        simp only [Pass.noted_of_renderRequests whole, delivered]
        rfl

/-- A document that can be planned comes to what its pieces mean, up to the first failure if that is to be the
end, unless the file system refuses a file. -/
theorem renderPieces_foretold (inOrder : call.InOrder answer)
    (isKey : ∀ key, value key ≠ none → Store.IsKey key) (h : Session.Expects value start session)
    {found : List Piece} (values : call.Values answer value (found.filterMap Piece.request?)) :
    (∃ fault, (Pass.renderPieces Schedule.inOrder call.press call.settings call.engine call.name found
        session).1 = .error (.refusedFile fault) ∧
          session.Refuses value (Asked (call.rendering answer).digest (found.filterMap Piece.request?))
            fault) ∨
      ∃ after, Pass.renderPieces Schedule.inOrder call.press call.settings call.engine call.name found
          session =
          ((Pass.piecesMeaning call.press call.settings (call.expected answer start) call.name found).bind
            (Pass.settle call.settings), after) ∧
        Session.GoesOn value (Asked (call.rendering answer).digest (found.filterMap Piece.request?)) start
          session after ∧
        ∀ result, (Pass.piecesMeaning call.press call.settings (call.expected answer start) call.name
            found).bind
            (Pass.settle call.settings) = .ok result →
          ∀ request ∈ found.filterMap Piece.request?,
            after.cache.entry? ((call.rendering answer).digest request) ≠ none := by
  have requests_eq := Pass.requests_map_snd found
  rw [← requests_eq] at values ⊢
  have digest_eq (rig : Rig ε) (request : Request) :
      (requestDigest call.settings call.engine request rig).1 =
        .ok ((call.expected answer start).digest request) :=
    Pass.requestDigest_eq inOrder.answers request rig
  obtain ⟨meant, means⟩ := Pass.piecesMeaning_isOk inOrder.embeds (call.expected answer start) call.name found
  have settled : (Pass.piecesMeaning call.press call.settings (call.expected answer start) call.name
      found).bind
      (Pass.settle call.settings) =
        (Pass.endOf call.settings ⟨call.name, found.map Piece.segment⟩
          (Pass.resultsOf (call.expected answer start) (Plan.requests (Pass.plansFrom 0 found)))).map
            fun _ => { meant with artifacts := Pass.addImages [] meant.artifacts } := by
    rw [← Pass.settle_eq means, means]
    rfl
  rw [settled]
  unfold Pass.renderPieces
  rcases renderRequests_expected ⟨call.name, found.map Piece.segment⟩ inOrder isKey h
      (Pass.nodup_requests found) values with ⟨fault, refused, refuses⟩ | ⟨after, rendered, goes, ended⟩
  · refine .inl ⟨fault, ?_, refuses⟩
    simp only
    generalize renderRequests call.settings call.engine _ _ _ [] session = done at refused ⊢
    obtain ⟨outcome, after⟩ := done
    obtain rfl : outcome = _ := refused
    rfl
  · refine .inr ?_
    simp only [rendered]
    cases ends : Pass.endOf call.settings ⟨call.name, found.map Piece.segment⟩
        (Pass.resultsOf (call.expected answer start) (Plan.requests (Pass.plansFrom 0 found))) with
    | error error => exact ⟨after, rfl, goes, fun _ returned => absurd returned (by simp [Except.map])⟩
    | ok =>
      obtain ⟨last, files, written⟩ := Pass.conclude_resultsOf call.press
        (fun rig => Store.SameFiles after.rig.host rig.host) call.name after.rig
        (fun rig request _ => digest_eq rig request)
        (fun rig request same => same.trans (by
          rw [requestDigest_eq_map]
          exact inOrder.spares.version rig)) (.refl after.rig.host) found
      refine ⟨{ after with rig := last }, ?_, goes.sameFiles rfl files, fun _ _ request mem => ?_⟩
      · simp only [Except.map, written, means]
      · obtain ⟨entry, listed, rfl⟩ := List.mem_map.mp mem
        exact ended ends entry listed

/-- A pass in order comes to what is foretold at a start, unless the file system refuses a file of the cache.
What is expected stays the same, and a pass that returns remembers the results of all its blocks. -/
theorem run_foretold (inOrder : call.InOrder answer)
    (isKey : ∀ key, value key ≠ none → Store.IsKey key) (h : Session.Expects value start session)
    (values : call.Values answer value call.requests) :
    (∃ fault, (call.run session).1 = .error (.refusedFile fault) ∧
        session.Refuses value call.keys fault) ∨
      (call.run session).1 = call.foretold answer start ∧
        Session.GoesOn value call.keys start session (call.run session).2 ∧
        ((∃ result, call.foretold answer start = .ok result) →
          ∀ key, call.keys key → (call.run session).2.cache.entry? key ≠ none) := by
  obtain ⟨host, log, run⟩ := Pass.runWith_eq call.schedule call.press call.settings call.engine call.registry
    call.name call.source session
  have noted : Session.GoesOn value call.keys start session (session.withHost host) :=
    (Session.GoesOn.refl h).sameFiles rfl log.sameFiles
  unfold PassCall.run foretold Pass.foretold Pass.meaning
  rw [run, inOrder.schedule]
  cases (scan call.source).unclosed with
  | some openFence =>
    exact .inr ⟨rfl, noted, fun ⟨_, returned⟩ => absurd returned (by simp [Except.bind])⟩
  | none =>
    cases made : Pass.pieces call.settings call.registry call.name (scan call.source).segments with
    | error error =>
      exact .inr ⟨rfl, noted, fun ⟨_, returned⟩ => absurd returned (by simp [Except.bind])⟩
    | ok found =>
      have requests_eq : call.requests = found.filterMap Piece.request? := by
        unfold PassCall.requests Pass.requestsOf
        rw [made]
      have keys_eq : call.keys = Asked (call.rendering answer).digest (found.filterMap Piece.request?) := by
        rw [← requests_eq]
        rfl
      rw [requests_eq] at values
      rw [keys_eq] at noted ⊢
      rcases renderPieces_foretold inOrder isKey noted.expects values with
        ⟨fault, refused, refuses⟩ | ⟨after, rendered, goes, remembered⟩
      · exact .inl ⟨fault, refused, .of_advances noted.advances refuses⟩
      · simp only [rendered]
        refine .inr ⟨trivial, noted.trans goes, ?_⟩
        rintro ⟨result, returned⟩ key ⟨request, listed, rfl⟩
        exact remembered result returned request listed

end Rendering

end PassCall

end TypstFences
