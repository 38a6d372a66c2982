import TypstFences.Proofs.Pass.AnyOrder
import TypstFences.Proofs.Pass.Precedence
import TypstFences.Proofs.Render.Economy

/-!
# The sources that a pass submits

A pass submits sources of the fences that are typeset and of no others: the compiled view of a block, below
the preamble or alone (`Fence.Typesets`). Blocks with one digest share a result, so at most one source is
submitted for each digest, and none where the cache has a result already. A pass that is not ended by the
files of its cache submits all others, and it leaves a cache with which a second pass over the text submits
nothing.

When a file of the cache is refused, its result is neither kept nor remembered, so the next pass submits
the source again. And a directory that is only made while the first artifact is saved may hold files of other
blocks by then, the sources of which are not submitted any more (`stray_and_refused_pages`).
-/

set_option autoImplicit false

namespace TypstFences

variable {ε : Type} {press : Press} {settings : Settings} {registry : Registry}

/-! ## Sources of fences -/

/-- What is compiled of a fence with a marker for hidden lines. -/
def Fence.compiled (marker : Text) (fence : Fence) : Text :=
  (HiddenLines.views marker (Text.dedent fence.indent fence.body)).compiled

/-- Whether a fence is typeset by a request with a source: blocks are rendered, its tag selects a behaviour
that renders, and the source is what is compiled of it, below the preamble or alone. -/
inductive Fence.Typesets (settings : Settings) (registry : Registry) (fence : Fence) :
    Request → Text → Prop
  | withPreamble {directive : Directive} (on : settings.render = true)
      (read : Directive.read registry fence.info = .ok directive)
      (selects : registry.behaviour directive.tag = .renderWithPreamble) :
      Typesets settings registry fence
        ⟨fence.compiled (directive.marker settings.hidelines), true⟩
        (settings.preamble ++ '\n' :: fence.compiled (directive.marker settings.hidelines))
  | bare {directive : Directive} (on : settings.render = true)
      (read : Directive.read registry fence.info = .ok directive)
      (selects : registry.behaviour directive.tag = .renderBare) :
      Typesets settings registry fence
        ⟨fence.compiled (directive.marker settings.hidelines), false⟩
        (fence.compiled (directive.marker settings.hidelines))

/-- A behaviour that renders is the one of the tag, and rendering is on. -/
theorem Plan.renders_of_effective {behaviour kind : Behaviour} (renders : kind.renders = true)
    (h : effective settings behaviour = kind) : settings.render = true ∧ behaviour = kind := by
  unfold effective at h
  split at h
  · subst h
    exact absurd renders (by decide)
  · rename_i unchanged
    subst h
    simpa [renders] using unchanged

namespace Fence

variable {fence : Fence} {request : Request} {text : Text}

/-- The source of a request that typesets a fence is its assembled source. -/
theorem Typesets.assembled (h : fence.Typesets settings registry request text) :
    text = request.assembled settings.preamble := by
  cases h with
  | withPreamble => rfl
  | bare => rfl

/-- The fences that are typeset are those with a plan to render them. -/
theorem typesets_iff : fence.Typesets settings registry request (request.assembled settings.preamble) ↔
    ∃ directive display, Directive.read registry fence.info = .ok directive ∧
      Plan.ofDirective? settings registry directive fence = some (.render request display) := by
  constructor
  · intro h
    generalize request.assembled settings.preamble = text at h
    cases h with
    | @withPreamble directive on read selects =>
      have effective : Plan.effective settings (registry.behaviour directive.tag) =
          .renderWithPreamble := by rw [Plan.effective, selects, on]; rfl
      exact ⟨directive, _, read, by rw [Plan.ofDirective?, effective]; rfl⟩
    | @bare directive on read selects =>
      have effective : Plan.effective settings (registry.behaviour directive.tag) = .renderBare := by
        rw [Plan.effective, selects, on]; rfl
      exact ⟨directive, _, read, by rw [Plan.ofDirective?, effective]; rfl⟩
  · rintro ⟨directive, display, read, planned⟩
    unfold Plan.ofDirective? at planned
    split at planned
    · exact absurd planned (by simp)
    · exact absurd planned (by simp)
    · rename_i effective
      obtain ⟨on, selects⟩ := Plan.renders_of_effective rfl effective
      obtain ⟨rfl, -⟩ := Plan.render.inj (Option.some.inj planned)
      exact .withPreamble on read selects
    · rename_i effective
      obtain ⟨on, selects⟩ := Plan.renders_of_effective rfl effective
      obtain ⟨rfl, -⟩ := Plan.render.inj (Option.some.inj planned)
      exact .bare on read selects

end Fence

namespace Pass

variable {engine : Engine ε} {name source version : Text} {found : List Piece}
variable {start session : Session ε}

/-- The requests of a document are those that typeset its fences. -/
theorem mem_requests_iff (closed : (scan source).unclosed = none)
    (made : pieces settings registry name (scan source).segments = .ok found) (request : Request) :
    request ∈ found.filterMap Piece.request? ↔ ∃ fence, .fence fence ∈ (scan source).segments ∧
      fence.Typesets settings registry request (request.assembled settings.preamble) := by
  constructor
  · intro mem
    obtain ⟨piece, listed, asks⟩ := List.mem_filterMap.mp mem
    obtain ⟨i, at_i⟩ := List.mem_iff_getElem?.mp listed
    have asked : found[i]?.bind Piece.request? = some request := by rwa [at_i]
    obtain ⟨fence, -, marker, -, asking⟩ := asks_of_piece closed made asked
    obtain ⟨directive, display, read, -, planned⟩ := asking.planned
    exact ⟨fence, asking.mem, Fence.typesets_iff.mpr ⟨directive, display, read, planned⟩⟩
  · rintro ⟨fence, mem, typesets⟩
    obtain ⟨directive, display, read, planned⟩ := Fence.typesets_iff.mp typesets
    have asks : fence.Asks settings registry source (directive.marker settings.hidelines) request :=
      ⟨closed, mem, directive, display, read, rfl, planned⟩
    obtain ⟨i, plan, at_i, asked⟩ := piece_of_asks asks made
    rw [at_i] at asked
    exact List.mem_filterMap.mpr ⟨_, List.mem_of_getElem? at_i, asked⟩

/-! ## What a pass submits -/

/-- Nothing is submitted when images are gathered. -/
theorem gatherImages_submitted (settings : Settings)
    (asked : ∀ rig, (engine.version rig).2.submitted = rig.submitted)
    (requests : List (Nat × Request)) (results : List (Nat × RenderResult)) :
    ∀ images rig, (gatherImages settings engine requests results images rig).2.submitted =
      rig.submitted := by
  induction results with
  | nil => exact fun _ _ => rfl
  | cons entry results ih =>
    intro images rig
    obtain ⟨index, artifact | failure⟩ := entry
    · have digested := congrArg Prod.snd
        (requestDigest_eq_map settings engine ((requests.lookup index).getD default) rig)
      rw [gatherImages]
      generalize requestDigest settings engine ((requests.lookup index).getD default) rig = done
        at digested ⊢
      obtain ⟨error | digest, after⟩ := done
      · obtain rfl : after = (engine.version rig).2 := digested
        exact asked rig
      · obtain rfl : after = (engine.version rig).2 := digested
        have rest := ih (addImages images ((pageNames digest artifact).zip artifact.pages))
          (engine.version rig).2
        simp only
        split
        · rename_i gathered
          rw [← asked rig, ← rest, gathered]
        · rename_i gathered
          rw [← asked rig, ← rest, gathered]
    · exact ih images rig

/-- Nor is anything when a pass concludes. -/
theorem conclude_submitted (settings : Settings)
    (asked : ∀ rig, (engine.version rig).2.submitted = rig.submitted)
    (document : Document) (plans : List (Nat × Plan)) (results : List (Nat × RenderResult))
    (rig : Rig ε) :
    (conclude press settings engine document plans results rig).2.submitted = rig.submitted := by
  have gathered := gatherImages_submitted settings asked (Plan.requests plans) results [] rig
  unfold conclude
  generalize gatherImages settings engine (Plan.requests plans) results [] rig = done at gathered ⊢
  obtain ⟨error | gathering, after⟩ := done
  · exact gathered
  · simp only
    split <;> exact gathered

/-- The rendering of pieces is that of their requests, to which the writing of the document adds nothing
that is remembered or submitted. -/
theorem renderPieces_cases (asked : ∀ rig, (engine.version rig).2.submitted = rig.submitted)
    (schedule : List Nat → Schedule) (press : Press) (settings : Settings) (name : Text)
    (found : List Piece) (session : Session ε) : ∃ rendered,
      renderRequests settings engine (Plan.requests (plansFrom 0 found))
        (onFailure settings ⟨name, found.map Piece.segment⟩)
        (schedule ((Plan.requests (plansFrom 0 found)).map Prod.fst)) [] session = rendered ∧
      (renderPieces schedule press settings engine name found session).2.cache = rendered.2.cache ∧
      (renderPieces schedule press settings engine name found session).2.rig.submitted =
        rendered.2.rig.submitted ∧
      ∀ error, rendered.1 = .error error →
        (renderPieces schedule press settings engine name found session).1 = .error error := by
  refine ⟨_, rfl, ?_⟩
  simp only [renderPieces]
  generalize renderRequests settings engine _ _ _ [] session = rendered
  obtain ⟨outcome, after⟩ := rendered
  cases outcome with
  | error error => exact ⟨rfl, rfl, fun other ended => congrArg Except.error (Except.error.inj ended)⟩
  | ok told =>
    obtain ⟨results, noted⟩ := told
    exact ⟨rfl, conclude_submitted settings asked ⟨name, found.map Piece.segment⟩ (plansFrom 0 found) results
      after.rig, fun error ended => absurd ended (by simp)⟩

/-- When pieces are rendered, a file is refused in the end, or their requests are settled. In both cases
only sources of their requests are submitted. -/
theorem renderPieces_settled {schedule : List Nat → Schedule} (complete : Schedule.Complete schedule)
    (noFailFast : settings.failFast = false) (finishes : engine.Finishes version) (name : Text)
    (leaves : ∀ path, start.cache.directory = some path →
      engine.LeavesFound path
        (Asked (digestUnder settings version engine.root) (found.filterMap Piece.request?)))
    (begun : start.Ledger settings (digestUnder settings version engine.root)
      (found.filterMap Piece.request?) [] session) :
    (∃ made ⊆ found.filterMap Piece.request?,
      (renderPieces schedule press settings engine name found session).2.rig.submitted =
        start.rig.submitted ++ made.map (Request.assembled settings.preamble)) ∧
    ((∃ fault, (renderPieces schedule press settings engine name found session).1 =
        .error (.refusedFile fault)) ∧ start.cache.directory ≠ none ∨
      ∃ newly, start.Settled settings (digestUnder settings version engine.root)
        (found.filterMap Piece.request?) newly
        (renderPieces schedule press settings engine name found session).2) := by
  have quiet := onFailure_quiet noFailFast ⟨name, found.map Piece.segment⟩
  have listed : ∀ request ∈ (Plan.requests (plansFrom 0 found)).map Prod.snd,
      ∃ block, (Plan.requests (plansFrom 0 found)).lookup block = some request := by
    intro request mem
    rw [requests_map_snd] at mem
    exact exists_lookup_requests mem
  have renders := rendersEconomically_of_finishes settings finishes _ leaves
  obtain ⟨rendered, same, cache, submitted, error_eq⟩ :=
    renderPieces_cases finishes.asked schedule press settings name found session
  rw [← requests_map_snd found] at renders begun ⊢
  have accounts := renderRequests_accounts renders quiet
    (complete ((Plan.requests (plansFrom 0 found)).map Prod.fst)) listed begun []
  rw [same] at accounts
  obtain ⟨made, errors, settled⟩ := accounts
  rw [submitted]
  refine ⟨made, ?_⟩
  cases outcome : rendered.1 with
  | error error =>
    obtain ⟨fault, rfl⟩ := errors error outcome
    refine .inl ⟨⟨fault, error_eq _ outcome⟩, ?_⟩
    intro unused
    rw [← same] at outcome
    exact ok_of_renderRequests (fun session request => (renders.frugal session request).unkept) quiet
      (begun.directory.trans unused) _ outcome
  | ok told =>
    obtain ⟨newly, settled⟩ := settled told.1 told.2 outcome
    refine .inr ⟨newly, submitted.trans settled.submitted, settled.among, settled.distinct,
      settled.once, ?_⟩
    rw [cache]
    exact settled.remembered

/-- Noting a failure touches no files. -/
theorem onFailure_sparesFiles (settings : Settings) (document : Document) :
    (onFailure settings document).SparesFiles := by
  intro block failure noted host
  unfold onFailure
  simp only
  split <;> exact .note host 1 _

/-- When pieces are rendered whose requests have results already, nothing is submitted. -/
theorem renderPieces_recalls (finishes : engine.Finishes version)
    (schedule : List Nat → Schedule) (name : Text)
    (recalls : start.Recalls
      (Asked (digestUnder settings version engine.root) (found.filterMap Piece.request?)) session) :
    (renderPieces schedule press settings engine name found session).2.rig.submitted =
      start.rig.submitted := by
  obtain ⟨rendered, same, -, submitted, -⟩ :=
    renderPieces_cases finishes.asked schedule press settings name found session
  rw [← requests_map_snd found] at recalls
  have recalled := renderRequests_recalls finishes
    (onFailure_sparesFiles settings ⟨name, found.map Piece.segment⟩)
    (schedule ((Plan.requests (plansFrom 0 found)).map Prod.fst)) recalls []
  rw [submitted, ← same, recalled]

end Pass

namespace PassCall

/-- The digest of a request of a pass. -/
def digest (call : PassCall ε) (request : Request) : Text := Sha256.hexDigest (call.payload request)

/-- Whether a request typesets a fence of the document of a pass with a source. -/
def Typesets (call : PassCall ε) (request : Request) (text : Text) : Prop :=
  ∃ fence, .fence fence ∈ (scan call.source).segments ∧
    fence.Typesets call.settings call.registry request text

/-- Requests with their sources. -/
def sourced (call : PassCall ε) (requests : List Request) : List (Request × Text) :=
  requests.map fun request => (request, request.assembled call.settings.preamble)

section Document

variable (call : PassCall ε) {name : Text} {found : List Piece} {newly : List Request}

/-- The sources that are submitted for requests. -/
theorem sourced_submitted {before after : List Text}
    (submitted : after = before ++ newly.map (Request.assembled call.settings.preamble)) :
    after = before ++ (call.sourced newly).map Prod.snd := by
  rw [submitted, sourced, List.map_map]
  rfl

/-- A request stands with its assembled source. -/
theorem mem_sourced_iff {request : Request} {text : Text} : (request, text) ∈ call.sourced newly ↔
    request ∈ newly ∧ text = request.assembled call.settings.preamble := by
  unfold sourced
  rw [List.mem_map]
  constructor
  · rintro ⟨_, mem, same⟩
    obtain ⟨rfl, rfl⟩ := Prod.mk.inj same
    exact ⟨mem, rfl⟩
  · rintro ⟨mem, rfl⟩
    exact ⟨request, mem, rfl⟩

/-- Requests of a document with their sources typeset fences of it. -/
theorem sourced_typeset (closed : (scan call.source).unclosed = none)
    (made : Pass.pieces call.settings call.registry name (scan call.source).segments = .ok found)
    (among : newly ⊆ found.filterMap Piece.request?) (request : Request) (text : Text)
    (mem : (request, text) ∈ call.sourced newly) : call.Typesets request text := by
  obtain ⟨chosen, rfl⟩ := call.mem_sourced_iff.mp mem
  exact (Pass.mem_requests_iff closed made request).mp (among chosen)

/-- The digests of the requests of a document, planned under any name. -/
theorem asked_iff (closed : (scan call.source).unclosed = none)
    (made : Pass.pieces call.settings call.registry name (scan call.source).segments = .ok found)
    (key : Text) : Asked call.digest (found.filterMap Piece.request?) key ↔
      ∃ request text, call.Typesets request text ∧ call.digest request = key := by
  constructor
  · rintro ⟨request, mem, rfl⟩
    exact ⟨request, _, (Pass.mem_requests_iff closed made request).mp mem, rfl⟩
  · rintro ⟨request, text, ⟨fence, mem, typesets⟩, rfl⟩
    obtain rfl := typesets.assembled
    exact ⟨request, (Pass.mem_requests_iff closed made request).mpr ⟨fence, mem, typesets⟩, rfl⟩

/-- A pass over the document, under any name, submits nothing when the results of all requests that typeset
its fences are remembered. -/
theorem runWith_recalls (finishes : call.engine.Finishes call.version)
    (closed : (scan call.source).unclosed = none)
    (made : Pass.pieces call.settings call.registry name (scan call.source).segments = .ok found)
    (schedule : List Nat → Schedule) (press : Press) (session : Session ε)
    (remembered : ∀ request text, call.Typesets request text →
      session.cache.entry? (call.digest request) ≠ none) :
    (Pass.runWith schedule press call.settings call.engine call.registry name call.source
      session).2.rig.submitted = session.rig.submitted := by
  obtain ⟨host, -, run⟩ := Pass.runWith_of_planned closed made schedule press call.engine session
  rw [run]
  refine Pass.renderPieces_recalls finishes schedule name ⟨rfl, ?_⟩
  intro key asked
  obtain ⟨request, text, typesets, rfl⟩ := (call.asked_iff closed made key).mp asked
  exact remembered request text typesets

/-- The requests of a pass are those that typeset fences of its document. -/
theorem mem_requests_iff (closed : (scan call.source).unclosed = none)
    (readable : ∀ fence, .fence fence ∈ (scan call.source).segments →
      ∀ fault, ¬ fence.RefusedFor call.registry fault) (request : Request) :
    request ∈ call.requests ↔ call.Typesets request (request.assembled call.settings.preamble) := by
  obtain ⟨found, made⟩ : ∃ found, Pass.pieces call.settings call.registry call.name
      (scan call.source).segments = .ok found := Pass.pieces_ok_iff.mpr readable
  unfold requests Pass.requestsOf
  rw [made]
  exact Pass.mem_requests_iff closed made request

end Document

end PassCall

/-- A pass that does not end with the first failure, over a document that can be planned, with an engine of
one version that finishes every source and leaves alone what is found in the directory of the cache, if
that is there or has no page of a block of the document when it is made, submits sources that typeset fences
of the document and nothing else. Unless a file of the cache is refused, which happens only where a directory
is used, these are, up to their order, one for each digest of a request that lacks a result at the start,
and a second pass over the document, with the cache that the first one leaves, submits nothing. -/
theorem pass_submits_what_is_lacking (call : PassCall ε) (noFailFast : call.settings.failFast = false)
    (finishes : call.engine.Finishes call.version) (complete : Schedule.Complete call.schedule)
    (closed : (scan call.source).unclosed = none)
    (readable : ∀ fence, .fence fence ∈ (scan call.source).segments →
      ∀ fault, ¬ fence.RefusedFor call.registry fault)
    (session : Session ε) (tidy : session.Tidy call.keys)
    (leaves : ∀ path, session.cache.directory = some path → call.engine.LeavesFound path call.keys) :
    ∃ chosen : List (Request × Text),
      (call.run session).2.rig.submitted = session.rig.submitted ++ chosen.map Prod.snd ∧
      (∀ request text, (request, text) ∈ chosen → call.Typesets request text) ∧
      ((∃ fault, (call.run session).1 = .error (.refusedFile fault)) ∧
          session.cache.directory ≠ none ∨
        (chosen.map fun entry => call.digest entry.1).Nodup ∧
        (∀ key, (∃ request text, (request, text) ∈ chosen ∧ call.digest request = key) ↔
          session.Lacks key ∧ ∃ request text, call.Typesets request text ∧
            call.digest request = key) ∧
        ∀ (schedule : List Nat → Schedule) (press : Press) (name : Text) (again : Session ε),
          again.cache = (call.run session).2.cache →
            (Pass.runWith schedule press call.settings call.engine call.registry name call.source
              again).2.rig.submitted = again.rig.submitted) := by
  have planned (name : Text) : ∃ found, Pass.pieces call.settings call.registry name
      (scan call.source).segments = .ok found := Pass.pieces_ok_iff.mpr readable
  obtain ⟨found, made⟩ := planned call.name
  have keys_eq : call.keys = Asked call.digest (found.filterMap Piece.request?) := by
    unfold PassCall.keys PassCall.requests Pass.requestsOf
    rw [made]
    rfl
  rw [keys_eq] at tidy leaves
  obtain ⟨host, log, run⟩ := Pass.runWith_of_planned closed made call.schedule call.press
    call.engine session
  have begun : session.Ledger call.settings call.digest (found.filterMap Piece.request?) []
      (session.withHost host) :=
    (Session.Ledger.nothing tidy).sameFiles rfl rfl log.sameFiles
  obtain ⟨⟨chosen, among, submitted⟩, settled⟩ :=
    Pass.renderPieces_settled complete noFailFast finishes call.name leaves begun
  rw [← run] at submitted settled
  rcases settled with refused | ⟨newly, settled⟩
  · exact ⟨_, call.sourced_submitted submitted, call.sourced_typeset closed made among, .inl refused⟩
  · have once (key : Text) : key ∈ newly.map call.digest ↔ session.Lacks key ∧
        Asked call.digest (found.filterMap Piece.request?) key := settled.once key
    refine ⟨_, call.sourced_submitted settled.submitted, call.sourced_typeset closed made settled.among,
      .inr ⟨?_, ?_, ?_⟩⟩
    · rw [PassCall.sourced, List.map_map]
      exact settled.distinct
    · intro key
      rw [← call.asked_iff closed made, ← once, List.mem_map]
      constructor
      · rintro ⟨request, text, mem, same⟩
        exact ⟨request, (call.mem_sourced_iff.mp mem).1, same⟩
      · rintro ⟨request, mem, same⟩
        exact ⟨request, _, call.mem_sourced_iff.mpr ⟨mem, rfl⟩, same⟩
    · intro schedule press name again cache_eq
      obtain ⟨found', made'⟩ := planned name
      refine call.runWith_recalls finishes closed made' schedule press again fun request text typesets => ?_
      rw [cache_eq]
      exact settled.remembered _ ((call.asked_iff closed made _).mpr ⟨request, text, typesets, rfl⟩)

/-! ## Two blocks on a bare host -/

/-- The settings with a short preamble, and with a template that is filled with nothing but the path. -/
def pathSettings : Settings :=
  { Settings.default with preamble := "#p".toList, embedTemplate := "\x7bsrc\x7d".toList }

/-- The pass over two blocks, the second of which fails, under these settings. -/
def pathBlocks : PassCall Unit := { twoBlocks with settings := pathSettings }

/-- The two blocks ask for two sources. -/
theorem pathBlocks_requests :
    pathBlocks.requests = [⟨"x\n".toList, true⟩, ⟨"bad\n".toList, true⟩] := by
  show Pass.requestsOf pathSettings Registry.typst "d.md".toList twoBlocks.source = _
  decide +kernel

/-- The sources have different digests. -/
theorem pathBlocks_noCollision : pathBlocks.NoCollision pathBlocks := by
  apply PassCall.noCollision_of_pair pathBlocks_requests
  decide +kernel

/-- No fence of the document is open. -/
theorem pathBlocks_closed : (scan pathBlocks.source).unclosed = none := by decide +kernel

/-- No fence of the document is refused. -/
theorem pathBlocks_readable : ∀ fence, .fence fence ∈ (scan pathBlocks.source).segments →
    ∀ fault, ¬ fence.RefusedFor pathBlocks.registry fault := by
  apply Pass.pieces_ok_iff.mp
  cases made : Pass.pieces pathBlocks.settings pathBlocks.registry pathBlocks.name
      (scan pathBlocks.source).segments with
  | ok found => exact ⟨found, rfl⟩
  | error error =>
    have none_asked : pathBlocks.requests = [] := by
      unfold PassCall.requests Pass.requestsOf
      rw [made]
    rw [pathBlocks_requests] at none_asked
    exact absurd none_asked (by simp)

/-- An engine that is a function of the source finishes every source. -/
theorem Engine.pure_finishes (version : Text) (root : Option Text) (answer : Text → RenderResult) :
    (Engine.pure version root answer).Finishes version :=
  ⟨fun _ => rfl, fun source _ => ⟨answer source, rfl⟩, fun _ => rfl, fun _ _ => rfl⟩

/-- An engine that is a function of the source touches no files. -/
theorem Engine.pure_sparesFiles (version : Text) (root : Option Text) (answer : Text → RenderResult) :
    (Engine.pure version root answer).SparesFiles :=
  ⟨fun rig => .refl rig.host, fun _ rig => .refl rig.host⟩

/-- With a new cache a pass over the two blocks submits the sources of both, though the last one fails, and
a pass with the cache that it leaves submits nothing. -/
theorem twoBlocks_submitted_once :
    (∀ request ∈ pathBlocks.requests, request.assembled pathBlocks.settings.preamble ∈
      (pathBlocks.run ⟨Cache.new (some cacheName), bareRig⟩).2.rig.submitted) ∧
    ∀ rig, (pathBlocks.run
      ⟨(pathBlocks.run ⟨Cache.new (some cacheName), bareRig⟩).2.cache, rig⟩).2.rig.submitted =
        rig.submitted := by
  have returned : hasResult (pathBlocks.run ⟨Cache.new (some cacheName), bareRig⟩).1 = true := by
    decide +kernel
  have needed := pass_submits_what_is_lacking pathBlocks rfl (Engine.pure_finishes _ _ _)
    Schedule.inOrder_complete pathBlocks_closed pathBlocks_readable ⟨Cache.new (some cacheName), bareRig⟩
    (tidy_cacheName pathBlocks.keys) fun path _ => twoBlocks_spares.leavesFound path pathBlocks.keys
  -- what the pass comes to is not looked at again
  generalize pathBlocks.run ⟨Cache.new (some cacheName), bareRig⟩ = done at returned needed ⊢
  obtain ⟨chosen, submitted, typeset, ⟨⟨fault, refused⟩, -⟩ | ⟨-, once, again⟩⟩ := needed
  · rw [refused] at returned
    exact absurd returned (by simp [hasResult])
  · refine ⟨?_, fun rig => again pathBlocks.schedule pathBlocks.press pathBlocks.name
      ⟨done.2.cache, rig⟩ rfl⟩
    intro request mem
    have isKey : Store.IsKey (pathBlocks.digest request) := Store.isKey_hexDigest _
    have lacks : (⟨Cache.new (some cacheName), bareRig⟩ : Session Unit).Lacks
        (pathBlocks.digest request) :=
      ⟨rfl, congrArg Prod.fst (Store.load_none bareRig_holds isKey rfl)⟩
    have mem_iff := pathBlocks.mem_requests_iff pathBlocks_closed pathBlocks_readable
    obtain ⟨other, text, listed, same⟩ := (once _).mpr ⟨lacks, request, _, (mem_iff request).mp mem, rfl⟩
    obtain ⟨fence, there, typesets⟩ := typeset other text listed
    obtain rfl := typesets.assembled
    have mem' := (mem_iff other).mpr ⟨fence, there, typesets⟩
    obtain ⟨-, -, -, rfl, -⟩ :=
      Request.payloadBytes_inj (pathBlocks_noCollision other mem' request mem same)
    rw [submitted]
    exact List.mem_append_right _ (List.mem_map.mpr ⟨_, listed, rfl⟩)

/-- An engine whose pages are in a format that leads from the first page of the first block to that of the
last one. -/
def strayBlocks : PassCall Unit :=
  { pathBlocks with
    engine := Engine.pure "1".toList none fun _ => .artifact ⟨[[7]], "svg/../".toList ++
      Store.pageName (pathBlocks.digest ⟨"bad\n".toList, true⟩) 1 "svg".toList⟩ }

/-- A way to the working directory through a missing directory that has the name of the first page of
the first block. -/
def strayWay : Text :=
  "X/".toList ++ Store.pageName (pathBlocks.digest ⟨"x\n".toList, true⟩) 1 "svg".toList ++
    "/..".toList

/-- Two blocks with pages in a format with a name of three hundred characters. -/
def longBlocks : PassCall Unit :=
  { pathBlocks with engine := Engine.pure "1".toList none fun _ => .artifact longFormat }

/-- With the way for the directory of a new cache the page of the first block is found for the last one,
which is not submitted, though it lacks a result at the start. And a page that a tidy directory refuses
is submitted again by a second pass. -/
theorem stray_and_refused_pages :
    strayBlocks.settings.failFast = false ∧ strayBlocks.engine.Finishes strayBlocks.version ∧
      strayBlocks.engine.SparesFiles ∧ Schedule.Complete strayBlocks.schedule ∧
      (scan strayBlocks.source).unclosed = none ∧
      (∀ fence, .fence fence ∈ (scan strayBlocks.source).segments →
        ∀ fault, ¬ fence.RefusedFor strayBlocks.registry fault) ∧
      (∀ request ∈ ([⟨"x\n".toList, true⟩, ⟨"bad\n".toList, true⟩] : List Request),
        strayBlocks.Typesets request (request.assembled strayBlocks.settings.preamble) ∧
          (⟨Cache.new (some strayWay), bareRig⟩ : Session Unit).Lacks (strayBlocks.digest request)) ∧
      strayBlocks.digest ⟨"x\n".toList, true⟩ ≠ strayBlocks.digest ⟨"bad\n".toList, true⟩ ∧
      hasResult (strayBlocks.run ⟨Cache.new (some strayWay), bareRig⟩).1 = true ∧
      (strayBlocks.run ⟨Cache.new (some strayWay), bareRig⟩).2.rig.submitted.length = 1 ∧
    longBlocks.engine.Finishes longBlocks.version ∧
      (⟨Cache.new (some cacheName), bareRig⟩ : Session Unit).Tidy longBlocks.keys ∧
      (longBlocks.run (longBlocks.run
        ⟨Cache.new (some cacheName), bareRig⟩).2).2.rig.submitted.length = 2 := by
  have made : pathBlocks.requests = strayBlocks.requests := rfl
  have missing : bareRig.host.probeDirectory (Path.ofText strayWay) = .ok false := by decide +kernel
  have ran : hasResult (strayBlocks.run ⟨Cache.new (some strayWay), bareRig⟩).1 = true ∧
      (strayBlocks.run ⟨Cache.new (some strayWay), bareRig⟩).2.rig.submitted.length = 1 := by
    decide +kernel
  have again : (longBlocks.run (longBlocks.run
      ⟨Cache.new (some cacheName), bareRig⟩).2).2.rig.submitted.length = 2 := by
    decide +kernel
  refine ⟨rfl, Engine.pure_finishes _ _ _, Engine.pure_sparesFiles _ _ _, Schedule.inOrder_complete,
    pathBlocks_closed, pathBlocks_readable, ?_, by decide +kernel, ran.1, ran.2,
    Engine.pure_finishes _ _ _, tidy_cacheName longBlocks.keys, again⟩
  intro request mem
  rw [← pathBlocks_requests, made,
    strayBlocks.mem_requests_iff pathBlocks_closed pathBlocks_readable] at mem
  have used : (Cache.new (some strayWay)).directory = some (Path.ofText strayWay) := rfl
  refine ⟨mem, rfl, ?_⟩
  rw [Cache.load_of_some _ _ used, Store.load, missing]

end TypstFences
