import TypstFences.Proofs.Pass.Coherence
import TypstFences.Proofs.Pass.Gathering
import TypstFences.Proofs.Pass.Untouched
import TypstFences.Proofs.Render.Replies

/-!
# Accounts of the blocks of a document

A pass gathers results for the requests of its fences and notes their failures (`PassCall.gather`), and
writes the document from both. Plans, results and failures stand at positions of fences, and whatever is
looked up at a position is there (`Gathered.Keyed`), so that no key is missing. What a pass returns is made
of accounts, one for each segment (`PassResult.Accounts`): a fence that is typeset has a result, and either
embeds the pages of an artifact or leaves the placeholder of a failure (`BlockFailure.placeholder`), which is
listed once (`every_fence_is_accounted_for`). This holds of any engine that does not crash, be it given up
with a source or not, and whatever it does in between.

A cache whose files are refused ends the pass instead (`longFormat_unaccounted`).
-/

set_option autoImplicit false

namespace TypstFences

variable {ε σ : Type} {press : Press} {settings : Settings} {registry : Registry} {engine : Engine ε}

/-! ## Accounts -/

/-- What a pass does about a segment: the part of the document that it writes for it, the images that it
adds for it, and the failure that it lists for it. -/
structure Account where
  part : Text
  images : List (Text × Bytes)
  failure : Option BlockFailure

/-- A character as it stands in HTML: those that HTML reserves as references. -/
def Text.reference (c : Char) : Text :=
  match c with
  | '&' => "&amp;".toList
  | '<' => "&lt;".toList
  | '>' => "&gt;".toList
  | '"' => "&quot;".toList
  | '\'' => "&#x27;".toList
  | c => [c]

/-- A text is escaped character by character. -/
theorem Text.escapeQuotes_eq (text : Text) : Text.escapeQuotes text = text.flatMap Text.reference := by
  unfold Text.escapeQuotes Text.escapeContent
  rw [List.flatMap_assoc]
  refine List.flatMap_congr fun c _ => ?_
  unfold Text.reference
  split
  · rfl
  · rfl
  · rfl
  · rw [List.flatMap_singleton]
    split
    · rfl
    · rfl
    · simp

/-- What stands in the place of a block with a failure: an element of a class of its own, with the place and
the diagnostic without blanks at its end, escaped, and a blank line behind it. -/
def BlockFailure.placeholder (failure : BlockFailure) : Text :=
  "<pre class=\"typst-error\">".toList ++
    (failure.location.document ++ ':' :: Text.ofInt failure.location.line ++ ": ".toList ++
      Text.trimEnd failure.diagnostic).flatMap Text.reference ++
    "</pre>\n\n".toList

/-- The notice of a failure is its placeholder. -/
theorem Replacement.notice_eq (failure : BlockFailure) : notice failure = failure.placeholder := by
  unfold notice BlockFailure.placeholder Location.text
  rw [Text.escapeQuotes_eq]

/-- How a fence is accounted for by its result. The pages of an artifact are embedded under names made of a
key, and are its images; a failure leaves its placeholder, indented as the fence is, and is listed with its
diagnostic and its kind at the line of the fence, or as many lines below it as it tells. -/
inductive Fence.Accounted (call : PassCall ε) (fence : Fence) (key : Text) :
    RenderResult → Account → Prop
  | embedded {artifact : Artifact} {part : Text}
      (embeds : fence.Embeds call.press call.settings call.registry (Pass.pageNames key artifact) part) :
      Accounted call fence key (.artifact artifact)
        ⟨part, (Pass.pageNames key artifact).zip artifact.pages, none⟩
  | told {failure : Failure} {told : BlockFailure}
      (placed : told = ⟨⟨call.name, fence.line + failure.line.getD 0⟩, failure.diagnostic, failure.kind⟩) :
      Accounted call fence key (.failure failure)
        ⟨Text.indent fence.indent told.placeholder, [], some told⟩

/-- Whether a key is one that the engine tells for a request, in a state in which it is of the version of the
pass if it was so at the start. -/
def PassCall.Tells (call : PassCall ε) (session : Session ε) (request : Request) (key : Text) : Prop :=
  ∃ rig version, (call.engine.version rig).1 = .ok version ∧
    key = requestKey call.settings call.engine request version ∧
    (call.engine.OfVersion call.version session.rig → call.engine.OfVersion call.version rig)

/-- Whether a result of a pass is made of accounts, one for each segment of its document. A fence that is
typeset has a result, by which it is accounted for, and any other segment has no result, no image and no
failure. -/
structure PassResult.Accounts (call : PassCall ε) (session : Session ε)
    (results : List (Nat × RenderResult)) (accounts : List Account) (result : PassResult) : Prop where
  length : accounts.length = (scan call.source).segments.length
  output : result.output = (accounts.map Account.part).flatten
  failures : result.failures = accounts.filterMap Account.failure
  names : ∀ image, image ∈ result.artifacts.map Prod.fst ↔
    ∃ account ∈ accounts, image ∈ account.images.map Prod.fst
  images : ∀ image ∈ result.artifacts, ∃ account ∈ accounts, image ∈ account.images
  typeset : ∀ (i : Nat) fence request text account,
    (scan call.source).segments[i]? = some (.fence fence) →
    fence.Typesets call.settings call.registry request text → accounts[i]? = some account →
      ∃ answer key, results.lookup i = some answer ∧ call.Tells session request key ∧
        fence.Accounted call key answer account
  others : ∀ (i : Nat) segment account, (scan call.source).segments[i]? = some segment →
    (∀ fence request text, segment = .fence fence →
      ¬ fence.Typesets call.settings call.registry request text) → accounts[i]? = some account →
        results.lookup i = none ∧ account.images = [] ∧ account.failure = none

/-- An engine stays of a version when it is asked for it. -/
theorem Engine.OfVersion.requestDigest {version : Text} {rig : Rig ε} (told : engine.OfVersion version rig)
    (settings : Settings) (request : Request) :
    engine.OfVersion version (requestDigest settings engine request rig).2 := by
  obtain ⟨steady, stays, ready⟩ := told
  exact ⟨steady, stays, stays.ready (ready.requestDigest settings request).2⟩

/-- A digest of a request is a key that the engine tells. -/
theorem PassCall.Tells.of_requestDigest {call : PassCall ε} {session : Session ε} {request : Request}
    {key : Text} {rig : Rig ε} (digested : (requestDigest call.settings call.engine request rig).1 = .ok key)
    (still : call.engine.OfVersion call.version session.rig → call.engine.OfVersion call.version rig) :
    call.Tells session request key := by
  rw [requestDigest_eq_map] at digested
  cases told : (call.engine.version rig).1 with
  | error error =>
    rw [told] at digested
    exact absurd digested (by simp [Except.map])
  | ok version =>
    rw [told] at digested
    exact ⟨rig, version, told, (Except.ok.inj digested).symm, still⟩

/-- A key that an engine of one version tells is the digest of the request. -/
theorem PassCall.Tells.eq_digest {call : PassCall ε} {session : Session ε} {request : Request} {key : Text}
    (tells : call.Tells session request key) (told : call.engine.OfVersion call.version session.rig) :
    key = call.digest request := by
  obtain ⟨rig, version, told', rfl, still⟩ := tells
  obtain ⟨_, -, ready⟩ := still told
  obtain rfl := Except.ok.inj (told'.symm.trans (ready rig.host (.refl rig.host)).1)
  rfl

namespace Pass
variable {found : List Piece} {name source : Text} {results : List (Nat × RenderResult)}

/-- What stands at positions of plans only is listed in the order of the plans. -/
theorem filterMap_plansFrom {α : Type} (at? : Nat → Option α)
    (planned : ∀ i, at? i ≠ none → (plansFrom 0 found).lookup i ≠ none) :
    ((plansFrom 0 found).filterMap fun entry => at? entry.1) =
      (List.range' 0 found.length).filterMap at? := by
  rw [← List.zipIdx_map_snd 0 found, List.filterMap_map, plansFrom, List.filterMap_filterMap]
  refine List.filterMap_congr fun entry mem => ?_
  obtain ⟨piece, i⟩ := entry
  have at_i : found[i]? = some piece := List.mem_zipIdx_iff_getElem?.mp mem
  cases planned_i : piece.plan? with
  | some plan => simp
  | none =>
    have absent : at? i = none := by
      by_contra there
      apply planned i there
      rw [lookup_plansFrom, at_i]
      exact planned_i
    simp [absent]

/-- The images of the result at a position, under a key. -/
def imagesAt (key : Text) (results : List (Nat × RenderResult)) (i : Nat) : List (Text × Bytes) :=
  ((results.lookup i).map (imagesUnder key)).getD []

/-- What is done about the segment at a position, for which a part is written. -/
def accountAt (document : Document) (keys : Nat → Text) (results : List (Nat × RenderResult)) (i : Nat)
    (part : Text) : Account :=
  ⟨part, imagesAt (keys i) results i, (failuresOf document results).lookup i⟩

/-- What is done about the segments of a document, for which parts are written. -/
def accountsOf (document : Document) (keys : Nat → Text) (results : List (Nat × RenderResult))
    (parts : List Text) : List Account :=
  parts.mapIdx (accountAt document keys results)

section AccountsOf

variable (document : Document) (keys : Nat → Text) (results : List (Nat × RenderResult))
variable (parts : List Text)

/-- Each account is that of a part. -/
theorem accountsOf_at {i : Nat} {account : Account}
    (listed : (accountsOf document keys results parts)[i]? = some account) :
    ∃ part, parts[i]? = some part ∧ accountAt document keys results i part = account := by
  rw [accountsOf, List.getElem?_mapIdx] at listed
  exact Option.map_eq_some_iff.mp listed

/-- The parts of accounts are those that were written. -/
theorem part_accountsOf : (accountsOf document keys results parts).map Account.part = parts := by
  rw [accountsOf, List.mapIdx_eq_zipIdx_map, List.map_map]
  exact List.zipIdx_map_fst 0 parts

/-- The failures of accounts are those of the results, in the order of the parts. -/
theorem failure_accountsOf : (accountsOf document keys results parts).filterMap Account.failure =
    (List.range' 0 parts.length).filterMap fun i => (failuresOf document results).lookup i := by
  rw [accountsOf, List.mapIdx_eq_zipIdx_map, List.filterMap_map, ← List.zipIdx_map_snd 0 parts,
    List.filterMap_map]
  rfl

/-- The images of accounts are those of the results, if these stand at positions of parts. -/
theorem mem_images_accountsOf (within : ∀ i, results.lookup i ≠ none → i < parts.length)
    (image : Text × Bytes) :
    (∃ account ∈ accountsOf document keys results parts, image ∈ account.images) ↔
      ∃ i, image ∈ imagesAt (keys i) results i := by
  constructor
  · rintro ⟨account, mem, listed⟩
    obtain ⟨i, at_i⟩ := List.mem_iff_getElem?.mp mem
    obtain ⟨part, -, rfl⟩ := accountsOf_at document keys results parts at_i
    exact ⟨i, listed⟩
  · rintro ⟨i, listed⟩
    have there : results.lookup i ≠ none := by
      intro absent
      rw [imagesAt, absent] at listed
      exact absurd listed List.not_mem_nil
    have bound := within i there
    refine ⟨accountAt document keys results i parts[i], ?_, listed⟩
    refine List.mem_iff_getElem?.mpr ⟨i, ?_⟩
    rw [accountsOf, List.getElem?_mapIdx, List.getElem?_eq_getElem bound]
    rfl

end AccountsOf

/-- The images of results are those at their positions. -/
theorem mem_imagesFrom_iff (distinct : (results.map Prod.fst).Nodup) (keys : Nat → Text)
    (image : Text × Bytes) :
    image ∈ imagesFrom keys results ↔ ∃ i, image ∈ imagesAt (keys i) results i := by
  rw [imagesFrom, List.mem_flatMap]
  constructor
  · rintro ⟨⟨i, result⟩, mem, listed⟩
    refine ⟨i, ?_⟩
    rwa [imagesAt, lookup_of_mem distinct mem]
  · rintro ⟨i, listed⟩
    unfold imagesAt at listed
    cases found : results.lookup i with
    | none => exact absurd listed (by simp [found])
    | some result =>
      rw [found] at listed
      exact ⟨(i, result), mem_of_lookup found, listed⟩

/-- The images that results add are those of the accounts, by their names. -/
theorem mem_names_accountsOf (document : Document) {keys : Nat → Text} {parts : List Text}
    (distinct : (results.map Prod.fst).Nodup) (within : ∀ i, results.lookup i ≠ none → i < parts.length)
    (name : Text) :
    name ∈ (addImages [] (imagesFrom keys results)).map Prod.fst ↔
      ∃ account ∈ accountsOf document keys results parts, name ∈ account.images.map Prod.fst := by
  have images_iff (image : Text × Bytes) : image ∈ imagesFrom keys results ↔
      ∃ account ∈ accountsOf document keys results parts, image ∈ account.images := by
    rw [mem_imagesFrom_iff distinct, mem_images_accountsOf _ _ _ _ within]
  rw [mem_names_addImages]
  constructor
  · rintro (none_before | listed)
    · exact absurd none_before List.not_mem_nil
    · obtain ⟨image, mem, rfl⟩ := List.mem_map.mp listed
      obtain ⟨account, there, among⟩ := (images_iff image).mp mem
      exact ⟨account, there, List.mem_map_of_mem among⟩
  · rintro ⟨account, there, among⟩
    obtain ⟨image, mem, rfl⟩ := List.mem_map.mp among
    exact .inr (List.mem_map_of_mem ((images_iff image).mpr ⟨account, there, mem⟩))

/-- An image that results add is one of an account. -/
theorem mem_accountsOf_of_addImages (document : Document) {keys : Nat → Text} {parts : List Text}
    (distinct : (results.map Prod.fst).Nodup) (within : ∀ i, results.lookup i ≠ none → i < parts.length)
    {image : Text × Bytes} (mem : image ∈ addImages [] (imagesFrom keys results)) :
    ∃ account ∈ accountsOf document keys results parts, image ∈ account.images := by
  rcases mem_of_mem_addImages mem with none_before | listed
  · exact absurd none_before List.not_mem_nil
  · rw [mem_images_accountsOf _ _ _ _ within, ← mem_imagesFrom_iff distinct]
    exact listed

/-- A segment without a result at its position has no images and no failure. -/
theorem accountAt_of_absent (document : Document) (keys : Nat → Text) (part : Text) {i : Nat}
    (distinct : (results.map Prod.fst).Nodup) (absent : results.lookup i = none) :
    accountAt document keys results i part = ⟨part, [], none⟩ := by
  rw [accountAt, imagesAt, lookup_failuresOf _ distinct, absent, Option.bind_none]
  rfl
variable {call : PassCall ε} {session : Session ε} {i : Nat} {fence : Fence} {request : Request}
variable {text part : Text}

/-- The piece of a fence that is typeset has its request. -/
theorem piece_of_typesets {segments : List Segment}
    (typesets : fence.Typesets settings registry request text)
    (made : pieces settings registry name segments = .ok found)
    (segment_at : segments[i]? = some (.fence fence)) :
    ∃ display, found[i]? = some (.fence fence (some (.render request display))) ∧
      Piece.ofSegment settings registry name (.fence fence) =
        .ok (.fence fence (some (.render request display))) := by
  obtain rfl := typesets.assembled
  obtain ⟨directive, display, read, planned⟩ := Fence.typesets_iff.mp typesets
  have mapped := segment_at
  rw [← segments_of_pieces made, List.getElem?_map] at mapped
  obtain ⟨piece, at_i, -⟩ := Option.map_eq_some_iff.mp mapped
  have piece_eq := ofSegment_of_pieces made i _ _ segment_at at_i
  have read_eq := piece_eq
  rw [Piece.ofSegment, read] at read_eq
  simp only [planned] at read_eq
  obtain rfl := Except.ok.inj read_eq
  exact ⟨display, at_i, piece_eq⟩

/-- A fence that is typeset is accounted for by the result at its position. -/
theorem accounted_of_typesets
    (typesets : fence.Typesets call.settings call.registry request text)
    (made : pieces call.settings call.registry call.name (scan call.source).segments = .ok found)
    (segment_at : (scan call.source).segments[i]? = some (.fence fence))
    (distinct : (results.map Prod.fst).Nodup) {answer : RenderResult}
    (answered : results.lookup i = some answer) {keys : Nat → Text} {names : List (Nat × List Text)}
    (named : names.lookup i = namesUnder (keys i) answer)
    (written : Replacement.ofSegment call.press call.settings
      ((outcomesOf (failuresOf ⟨call.name, found.map Piece.segment⟩ results) names
        (plansFrom 0 found)).lookup i) (.fence fence) = .ok part) :
    fence.Accounted call (keys i) answer
      (accountAt ⟨call.name, found.map Piece.segment⟩ keys results i part) := by
  obtain ⟨display, at_i, piece_eq⟩ := piece_of_typesets typesets made segment_at
  have failure_eq : (failuresOf ⟨call.name, found.map Piece.segment⟩ results).lookup i =
      answer.failure?.map (locate call.name fence) := by
    rw [lookup_failuresOf _ distinct, answered, Option.bind_some]
    congr 1
    funext failure
    exact locateAt_eq at_i failure
  have planned : (plansFrom 0 found).lookup i = some (.render request display) := by
    rw [lookup_plansFrom, at_i]
    rfl
  rw [lookup_outcomesOf, planned, Option.map_some, outcomeOf, failure_eq, named, Replacement.ofSegment,
    Option.getD_some] at written
  unfold accountAt imagesAt
  rw [failure_eq, answered]
  cases answer with
  | failure failure =>
    obtain rfl := Except.ok.inj written
    rw [Replacement.notice_eq]
    exact .told rfl
  | artifact artifact =>
    -- the pages are written as by a rendering with this artifact and this key
    let rendering : Rendering := ⟨fun _ => .artifact artifact, fun _ => keys i⟩
    have written' : (Piece.fence fence (some (.render request display))).written call.press call.settings
        rendering call.name = .ok part := written
    exact .embedded (typesets.embeds piece_eq written' rfl)

/-- A segment that is not typeset has no request. -/
theorem request_of_not_typeset {segment : Segment} (closed : (scan source).unclosed = none)
    (made : pieces settings registry name (scan source).segments = .ok found)
    (segment_at : (scan source).segments[i]? = some segment)
    (bare : ∀ fence request text, segment = .fence fence →
      ¬ fence.Typesets settings registry request text) :
    (Plan.requests (plansFrom 0 found)).lookup i = none := by
  rw [lookup_requests]
  refine Option.eq_none_iff_forall_ne_some.mpr fun request asked => ?_
  obtain ⟨fence, plan, marker, at_i, asks⟩ := asks_of_piece closed made asked
  obtain ⟨directive, display, read, -, planned⟩ := asks.planned
  have there := segment_at
  rw [← segments_of_pieces made, List.getElem?_map, at_i] at there
  exact bare fence request _ (Option.some.inj there).symm
    (Fence.typesets_iff.mpr ⟨directive, display, read, planned⟩)

/-- What is written of results: a part for each segment, and the images under keys that are told for the
requests. -/
theorem parts_of_conclude (Inv : Rig ε → Prop)
    (tells : ∀ rig request, Inv rig → ∃ key, (requestDigest settings engine request rig).1 = .ok key)
    (stays : ∀ rig request, Inv rig → Inv (requestDigest settings engine request rig).2) {rig : Rig ε}
    (inv : Inv rig) (distinct : (results.map Prod.fst).Nodup) {document : Document}
    {plans : List (Nat × Plan)} {result : PassResult}
    (finished : (conclude press settings engine document plans results rig).1 = .ok result) :
    ∃ keys parts,
      (∀ i, ∃ rig, Inv rig ∧ (requestDigest settings engine (((Plan.requests plans).lookup i).getD default)
        rig).1 = .ok (keys i)) ∧
      result.output = List.flatten parts ∧ result.artifacts = addImages [] (imagesFrom keys results) ∧
      parts.length = document.segments.length ∧
      ∀ (i : Nat) segment part, document.segments[i]? = some segment → parts[i]? = some part →
        Replacement.ofSegment press settings ((outcomesOf (failuresOf document results)
          (namesFrom keys results) plans).lookup i) segment = .ok part := by
  obtain ⟨keys, after, telling, -, gathered⟩ :=
    gatherImages_keyed tells stays (Plan.requests plans) [] rig inv distinct
  unfold conclude at finished
  rw [gathered] at finished
  simp only at finished
  split at finished
  · exact absurd finished (by simp)
  rename_i output written
  obtain rfl := Except.ok.inj finished
  obtain ⟨parts, output_eq, each⟩ := Replacement.parts_of_ofSegments written
  have length_eq := each.length_eq
  rw [List.length_zipIdx] at length_eq
  refine ⟨keys, parts, telling, output_eq, rfl, length_eq.symm, fun i segment part segment_at part_at => ?_⟩
  obtain ⟨bound, segment_eq⟩ := List.getElem?_eq_some_iff.mp segment_at
  obtain ⟨bound', part_eq⟩ := List.getElem?_eq_some_iff.mp part_at
  have here := each.get (i := i) (by rwa [List.length_zipIdx]) bound'
  simpa [segment_eq, part_eq] using here

/-- The failures of all results are listed in the order of the segments. -/
theorem failures_of_conclude {rig : Rig ε} (distinct : (results.map Prod.fst).Nodup)
    (asked : ∀ i, results.lookup i ≠ none ↔ (Plan.requests (plansFrom 0 found)).lookup i ≠ none)
    {result : PassResult} (finished : (conclude press settings engine ⟨name, found.map Piece.segment⟩
      (plansFrom 0 found) results rig).1 = .ok result) :
    result.failures = (List.range' 0 found.length).filterMap fun i =>
      (failuresOf ⟨name, found.map Piece.segment⟩ results).lookup i := by
  refine (conclude_failures finished).trans (filterMap_plansFrom (fun i =>
    (failuresOf ⟨name, found.map Piece.segment⟩ results).lookup i) fun i there => ?_)
  refine plan_of_request ((asked i).mp fun absent => there ?_)
  rw [lookup_failuresOf _ distinct, absent, Option.bind_none]

/-- A document that is written from the results of all its requests is made of accounts. -/
theorem accounts_of_conclude (replies : call.engine.Replies) (closed : (scan call.source).unclosed = none)
    (made : pieces call.settings call.registry call.name (scan call.source).segments = .ok found)
    (distinct : (results.map Prod.fst).Nodup)
    (asked : ∀ i, results.lookup i ≠ none ↔ (Plan.requests (plansFrom 0 found)).lookup i ≠ none)
    {rig : Rig ε} (still : call.engine.OfVersion call.version session.rig →
      call.engine.OfVersion call.version rig) {result : PassResult}
    (finished : (conclude call.press call.settings call.engine ⟨call.name, found.map Piece.segment⟩
      (plansFrom 0 found) results rig).1 = .ok result) :
    ∃ accounts, result.Accounts call session results accounts := by
  obtain ⟨keys, parts, telling, output_eq, images_eq, parts_length, written⟩ := parts_of_conclude
    (fun rig => call.engine.OfVersion call.version session.rig → call.engine.OfVersion call.version rig)
    (fun rig request _ => replies.digests call.settings request rig)
    (fun rig request inv told => (inv told).requestDigest call.settings request) still distinct finished
  let document : Document := ⟨call.name, found.map Piece.segment⟩
  have segments_eq : found.map Piece.segment = (scan call.source).segments := segments_of_pieces made
  have found_length : parts.length = found.length := by rw [parts_length, List.length_map]
  have within (i : Nat) (there : results.lookup i ≠ none) : i < parts.length :=
    found_length ▸ lt_of_request ((asked i).mp there)
  refine ⟨accountsOf document keys results parts, ?_, ?_, ?_, fun image => ?_, fun image mem => ?_, ?_, ?_⟩
  · rw [accountsOf, List.length_mapIdx, parts_length, segments_eq]
  · rw [part_accountsOf, output_eq]
  · rw [failure_accountsOf, found_length]
    exact failures_of_conclude distinct asked finished
  · rw [images_eq]
    exact mem_names_accountsOf document distinct within image
  · rw [images_eq] at mem
    exact mem_accountsOf_of_addImages document distinct within mem
  · intro i fence request text account segment_at typesets listed
    obtain ⟨part, part_at, rfl⟩ := accountsOf_at document keys results parts listed
    obtain ⟨display, at_i, -⟩ := piece_of_typesets typesets made segment_at
    have request_at : (Plan.requests (plansFrom 0 found)).lookup i = some request := by
      rw [lookup_requests, at_i]
      rfl
    obtain ⟨answer, answered⟩ := Option.ne_none_iff_exists'.mp
      ((asked i).mpr (by rw [request_at]; exact Option.some_ne_none request))
    obtain ⟨asked_rig, of_version, digested⟩ := telling i
    rw [request_at, Option.getD_some] at digested
    refine ⟨answer, keys i, answered, .of_requestDigest digested of_version, ?_⟩
    refine accounted_of_typesets typesets made segment_at distinct answered ?_
      (written i _ part (by rw [segments_eq]; exact segment_at) part_at)
    rw [lookup_namesFrom distinct, answered, Option.bind_some]
  · intro i segment account segment_at bare listed
    obtain ⟨part, -, rfl⟩ := accountsOf_at document keys results parts listed
    have absent : results.lookup i = none := by
      by_contra there
      exact (asked i).mp there (request_of_not_typeset closed made segment_at bare)
    rw [accountAt_of_absent document keys part distinct absent]
    exact ⟨absent, rfl, rfl⟩

end Pass

/-! ## Every fence is accounted for -/
/-- An engine is of a version whatever is in the log. -/
theorem Engine.OfVersion.sameFiles {version : Text} {rig : Rig ε} {host : Host}
    (told : engine.OfVersion version rig) (same : Store.SameFiles rig.host host) :
    engine.OfVersion version { rig with host := host } := by
  obtain ⟨steady, stays, ready⟩ := told
  exact ⟨steady, stays, ready.sameFiles same⟩

/-- After a rendering by an engine of one version the results are remembered by the digests of their
requests. -/
theorem PassCall.remembered_of_rendered (call : PassCall ε) (complete : Schedule.Complete call.schedule)
    {requests : List (Nat × Request)} {document : Document} {session after : Session ε}
    {results : List (Nat × RenderResult)} {noted : Pass.Failures}
    (told : call.engine.OfVersion call.version session.rig)
    (rendered : renderRequests call.settings call.engine requests (Pass.onFailure call.settings document)
      (call.schedule (requests.map (·.1))) [] session = (.ok (results, noted), after)) :
    call.engine.OfVersion call.version after.rig ∧
      ∀ i request answer, requests.lookup i = some request → results.lookup i = some answer →
        after.cache.entry? (call.digest request) = some answer := by
  obtain ⟨steady, stays, ready⟩ := told
  obtain ⟨-, ready', delivers⟩ := renderRequests_remembered stays
    (Pass.onFailure_sparesFiles call.settings document) (fun block mem => complete _ block mem) ready
    rendered
  obtain ⟨delivered, answered⟩ := delivers results noted rfl
  refine ⟨⟨steady, stays, ready'⟩, fun i request answer request_at given => ?_⟩
  obtain ⟨known, entry⟩ := Option.ne_none_iff_exists'.mp (answered i request request_at)
  have same := delivered.lookup i
  rw [given, request_at, Option.map_some, Cache.recalled_eq entry] at same
  obtain rfl := Option.some.inj same
  exact entry

/-- The images of accounts are listed with their contents, if the results are those that are known by the
digests of the requests. -/
theorem PassResult.Accounts.listed {call : PassCall ε} {session : Session ε} {result : PassResult}
    {results : List (Nat × RenderResult)} {accounts : List Account} {known : Text → Option RenderResult}
    (h : result.Accounts call session results accounts)
    (told : call.engine.OfVersion call.version session.rig) (coherent : result.Coherent call known)
    (answered : ∀ (i : Nat) fence request text answer,
      (scan call.source).segments[i]? = some (.fence fence) →
      fence.Typesets call.settings call.registry request text → results.lookup i = some answer →
        known (call.digest request) = some answer) :
    ∀ account ∈ accounts, ∀ image ∈ account.images, image ∈ result.artifacts := by
  intro account mem image listed
  obtain ⟨i, at_i⟩ := List.mem_iff_getElem?.mp mem
  have bound : i < (scan call.source).segments.length :=
    h.length ▸ (List.getElem?_eq_some_iff.mp at_i).1
  have segment_at := List.getElem?_eq_getElem bound
  by_cases typeset : ∃ fence request text, (scan call.source).segments[i] = .fence fence ∧
      fence.Typesets call.settings call.registry request text
  · obtain ⟨fence, request, text, is_fence, typesets⟩ := typeset
    rw [is_fence] at segment_at
    obtain ⟨answer, key, given, tells, accounted⟩ := h.typeset i fence request text account segment_at
      typesets at_i
    have known_eq := answered i fence request text answer segment_at typesets given
    obtain rfl := tells.eq_digest told
    cases accounted with
    | told => exact absurd listed List.not_mem_nil
    | @embedded artifact part embeds =>
      obtain ⟨image, content⟩ := image
      let rendering : Rendering := ⟨fun _ => .artifact artifact, fun _ => call.digest request⟩
      have listed' : (image, content) ∈ rendering.images request := listed
      obtain ⟨_, page, same, stored, named⟩ := Pass.mem_rendering_images.mp listed'
      obtain rfl := RenderResult.artifact.inj same
      exact (coherent.images image content).mpr ⟨request, text, artifact, page,
        ⟨fence, List.mem_of_getElem? segment_at, typesets⟩, known_eq, stored, named⟩
  · have bare : ∀ fence request text, (scan call.source).segments[i] = .fence fence →
        ¬ fence.Typesets call.settings call.registry request text :=
      fun fence request text is_fence typesets => typeset ⟨fence, request, text, is_fence, typesets⟩
    obtain ⟨-, no_images, -⟩ := h.others i _ account segment_at bare at_i
    rw [no_images] at listed
    exact absurd listed List.not_mem_nil

/-- What a pass gathers of its pieces ends in an error only if a file of its cache was refused. -/
theorem PassCall.refused_of_gatherPieces (call : PassCall ε) (noFailFast : call.settings.failFast = false)
    (replies : call.engine.Replies) {found : List Piece} {session after : Session ε} {error : PassError}
    (failed : call.gatherPieces found session = (.error error, after)) :
    (∃ fault, error = .refusedFile fault) ∧ session.cache.directory ≠ none := by
  have quiet := Pass.onFailure_quiet noFailFast ⟨call.name, found.map Piece.segment⟩
  unfold gatherPieces at failed
  split at failed
  · rename_i told _ rendered
    obtain ⟨same, -⟩ := Prod.mk.inj failed
    obtain rfl := Except.error.inj same
    have ended := congrArg Prod.fst rendered
    exact ⟨refused_of_renderRequests (replies.endsRefused call.settings) quiet ended, fun unused =>
      ok_of_renderRequests (replies.succeedsUnkept call.settings) quiet unused told ended⟩
  · exact absurd (Prod.mk.inj failed).1 (by simp)

/-- What a pass gathered of its pieces it writes as a document that is made of accounts. -/
theorem PassCall.accounted_of_gatherPieces (call : PassCall ε) (complete : Schedule.Complete call.schedule)
    (embeds : call.settings.Embeds call.press.highlighter) (replies : call.engine.Replies)
    {session after : Session ε} {host : Host} (log : Pass.SameButLog session.rig.host host)
    (closed : (scan call.source).unclosed = none) {found : List Piece}
    (made : Pass.pieces call.settings call.registry call.name (scan call.source).segments = .ok found)
    {gathered : Gathered}
    (gathers : call.gatherPieces found (session.withHost host) = (.ok gathered, after)) :
    gathered.Keyed ∧ ∃ result accounts, (call.write gathered after).1 = .ok result ∧
      result.Accounts call session gathered.results accounts ∧
      (call.engine.OfVersion call.version session.rig → call.engine.OfVersion call.version after.rig ∧
        ∀ i request answer, (Plan.requests (Pass.plansFrom 0 found)).lookup i = some request →
          gathered.results.lookup i = some answer →
            after.cache.entry? (call.digest request) = some answer) := by
  unfold gatherPieces at gathers
  split at gathers
  · exact absurd (Prod.mk.inj gathers).1 (by simp)
  rename_i results noted ended rendered
  obtain ⟨same, rfl⟩ := Prod.mk.inj gathers
  obtain rfl := Except.ok.inj same
  obtain ⟨distinct, asked⟩ := renderRequests_answers call.settings call.engine complete rendered
  have still (told : call.engine.OfVersion call.version session.rig) :=
    have told' : call.engine.OfVersion call.version (session.withHost host).rig :=
      told.sameFiles log.sameFiles
    call.remembered_of_rendered complete told' rendered
  -- what is written is told by the results, among which are the failures that were noted
  have concluded := Pass.finish_of_renderRequests (Pass.pairwise_plansFrom found 0)
    (congrArg Prod.fst rendered) call.press
  obtain ⟨result, finished⟩ := Pass.conclude_isOk embeds replies.version_ne_error
    ⟨call.name, found.map Piece.segment⟩ (Pass.plansFrom 0 found) results ended.rig
  obtain ⟨accounts, accounted⟩ := Pass.accounts_of_conclude replies closed made distinct asked
    (fun told => (still told).1) finished
  have keyed := Pass.keyed_of_results call.name distinct asked
  rw [← Pass.noted_of_renderRequests (congrArg Prod.fst rendered)] at keyed
  refine ⟨keyed, result, accounts, ?_, accounted, still⟩
  show (Pass.finish _ _ _ _ _ _ _ _).1 = _
  rw [concluded]
  exact finished

/-- A pass ends in an error about the structure of its document or about the files of its cache, or returns a
result that is made of accounts. -/
theorem PassCall.accounted (call : PassCall ε) (complete : Schedule.Complete call.schedule)
    (noFailFast : call.settings.failFast = false) (embeds : call.settings.Embeds call.press.highlighter)
    (replies : call.engine.Replies) (session : Session ε) :
    (∃ error after, call.gather session = (.error error, after) ∧
      call.run session = (.error error, after) ∧
      (error.isStructural = true ∨
        (∃ fault, error = .refusedFile fault) ∧ session.cache.directory ≠ none)) ∨
    ∃ gathered after result accounts, call.gather session = (.ok gathered, after) ∧
      (call.run session).1 = .ok result ∧ gathered.Keyed ∧
      result.Accounts call session gathered.results accounts ∧
      (result.failures = [] ↔ ∀ account ∈ accounts, account.failure = none) ∧
      (call.engine.OfVersion call.version session.rig →
        ∀ account ∈ accounts, ∀ image ∈ account.images, image ∈ result.artifacts) := by
  obtain ⟨host, log, gather_eq⟩ := call.gather_eq session
  have run_eq := call.run_eq_gather session
  cases closed : (scan call.source).unclosed with
  | some openFence =>
    rw [closed] at gather_eq
    rw [gather_eq] at run_eq
    exact .inl ⟨_, _, gather_eq, run_eq, .inl rfl⟩
  | none =>
    rw [closed] at gather_eq
    cases made : Pass.pieces call.settings call.registry call.name (scan call.source).segments with
    | error error =>
      simp only [made] at gather_eq
      rw [gather_eq] at run_eq
      obtain ⟨location, info, fault, rfl⟩ := Pass.pieces_error made
      exact .inl ⟨_, _, gather_eq, run_eq, .inl rfl⟩
    | ok found =>
      simp only [made] at gather_eq
      rw [gather_eq] at run_eq
      cases gathers : call.gatherPieces found (session.withHost host) with
      | mk outcome after =>
        rw [gathers] at gather_eq run_eq
        cases outcome with
        | error error =>
          have refused := call.refused_of_gatherPieces noFailFast replies gathers
          exact .inl ⟨_, _, gather_eq, run_eq, .inr refused⟩
        | ok gathered =>
          obtain ⟨keyed, result, accounts, written, accounted, still⟩ :=
            call.accounted_of_gatherPieces complete embeds replies log closed made gathers
          simp only at run_eq
          have returned : (call.run session).1 = .ok result := by rw [run_eq, written]
          refine .inr ⟨gathered, after, result, accounts, gather_eq, returned, keyed, accounted, ?_,
            fun told => ?_⟩
          · rw [accounted.failures, List.filterMap_eq_nil_iff]
          · have coherent := (call.run_coherent complete told).2 result returned
            have cache_eq : (call.run session).2.cache = after.cache := by rw [run_eq]; rfl
            rw [cache_eq] at coherent
            refine accounted.listed told coherent
              fun i fence request text answer segment_at typesets given => ?_
            obtain ⟨display, at_i, -⟩ := Pass.piece_of_typesets typesets made segment_at
            have request_at : (Plan.requests (Pass.plansFrom 0 found)).lookup i = some request := by
              rw [Pass.lookup_requests, at_i]
              rfl
            exact (still told).2 i request answer request_at given

/-- No key is missing in a pass that goes on after failures, if the engine does not crash and the settings
have a template and a style that can be used. The pass ends in an error that is about the structure of its
document, or in one about the files of the directory of its cache. Or it returns, and then nothing was
looked up in vain, and the result is made of accounts: every fence that is typeset has a result, and either
this is an artifact whose pages are embedded, or it is a failure, which leaves a placeholder and is listed
once, in the order of the document. No failure is listed if and only if no fence has one. If the engine
tells the version of the pass, the images that are embedded are listed with the contents of their pages. -/
theorem every_fence_is_accounted_for (call : PassCall ε) (complete : Schedule.Complete call.schedule)
    (noFailFast : call.settings.failFast = false) (embeds : call.settings.Embeds call.press.highlighter)
    (replies : call.engine.Replies) (session : Session ε) :
    (call.run session).1 ≠ .error .missingKey ∧
    ((∃ error after, call.gather session = (.error error, after) ∧
      call.run session = (.error error, after) ∧
      (error.isStructural = true ∨
        (∃ fault, error = .refusedFile fault) ∧ session.cache.directory ≠ none)) ∨
    ∃ gathered after result accounts, call.gather session = (.ok gathered, after) ∧
      (call.run session).1 = .ok result ∧ gathered.Keyed ∧
      result.Accounts call session gathered.results accounts ∧
      (result.failures = [] ↔ ∀ account ∈ accounts, account.failure = none) ∧
      (call.engine.OfVersion call.version session.rig →
        ∀ account ∈ accounts, ∀ image ∈ account.images, image ∈ result.artifacts)) := by
  rcases call.accounted complete noFailFast embeds replies session with
    ⟨error, after, gathered, ended, structural | ⟨⟨fault, rfl⟩, used⟩⟩ |
    ⟨gathered, after, result, accounts, gathered_eq, returned, rest⟩
  · refine ⟨?_, .inl ⟨error, after, gathered, ended, .inl structural⟩⟩
    rw [ended]
    rintro ⟨⟩
    exact absurd structural (by decide)
  · refine ⟨?_, .inl ⟨_, after, gathered, ended, .inr ⟨⟨fault, rfl⟩, used⟩⟩⟩
    rw [ended]
    simp
  · refine ⟨?_, .inr ⟨gathered, after, result, accounts, gathered_eq, returned, rest⟩⟩
    rw [returned]
    simp

/-! ## A slow engine -/

/-- A template that shows the path of an image alone can be filled with every path. -/
theorem pathSettings_embeds : pathSettings.Embeds barePress.highlighter := by
  refine ⟨fun address name => ?_, by decide +kernel⟩
  have pieces_eq : Template.pieces pathSettings.embedTemplate =
      [.slot ⟨Replacement.pathName, none, []⟩] := by decide +kernel
  rw [Template.fill, Template.fillWithin, pieces_eq, Template.fillPieces,
    Replacement.slotText_path, Template.fillPieces]
  exact ⟨_, rfl⟩

/-- An engine that is given up with the first source that it gets, and with every bad one. -/
def slowEngine : Engine Bool where
  root := none
  version := fun rig => (.ok "1".toList, rig)
  compile := fun source rig =>
    if rig.state && !"bad\n".toList.isSuffixOf source then (.finished (.artifact onePage), rig)
    else (.timedOut ⟨.ofInt 1, []⟩, { rig with state := true })

/-- A session with this engine and a new cache. -/
def slowSession : Session Bool := ⟨Cache.new none, ⟨false, [], bareRig.host⟩⟩

/-- The pass over three blocks with this engine. The first and the last block are the same. -/
def slowBlocks : PassCall Bool where
  schedule := Schedule.inOrder
  press := barePress
  settings := pathSettings
  engine := slowEngine
  version := "1".toList
  registry := Registry.typst
  name := "d.md".toList
  source := "```typ\nx\n```\n```typ\nbad\n```\n```typ\nx\n```\n".toList

/-- It has an answer to everything. -/
theorem slowEngine_replies : slowEngine.Replies := by
  refine ⟨fun rig => ⟨"1".toList, rfl⟩, fun source rig error => ?_⟩
  show (if _ then _ else _ : Reply × Rig Bool).1 ≠ _
  split <;> simp

/-- The number of the failures that a pass returned. -/
def failureCount (outcome : Except PassError PassResult) : Option Nat :=
  match outcome with
  | .ok result => some result.failures.length
  | .error _ => none

/-- The first block is typeset when it is submitted again, the second one is given up, and the last one is
found: all three are accounted for, one of them with a failure. -/
theorem slowBlocks_accounted : ∃ gathered after result accounts,
    slowBlocks.gather slowSession = (.ok gathered, after) ∧
      (slowBlocks.run slowSession).1 = .ok result ∧
      gathered.Keyed ∧
      result.Accounts slowBlocks slowSession gathered.results accounts ∧
      result.failures.length = 1 := by
  have count : failureCount (slowBlocks.run slowSession).1 = some 1 := by
    rw [PassCall.run, (Pass.runWith_eq_planned _ _ _ _ _ _ _ _).2]
    decide +kernel
  rcases every_fence_is_accounted_for slowBlocks Schedule.inOrder_complete rfl pathSettings_embeds
      slowEngine_replies slowSession with
    ⟨-, ⟨error, after, -, ended, -⟩ |
      ⟨gathered, after, result, accounts, gathered_eq, returned, keyed, accounted, -⟩⟩
  · rw [ended] at count
    exact absurd count (by simp [failureCount])
  · rw [returned] at count
    exact ⟨gathered, after, result, accounts, gathered_eq, returned, keyed, accounted,
      Option.some.inj count⟩

/-- Why the file system refused a file to a pass that ended with that. -/
def refusal? (outcome : Except PassError PassResult) : Option FileFault :=
  match outcome with
  | .error (.refusedFile error) => some error.fault
  | _ => none

/-- With an engine that makes pages in a format with a name of three hundred characters, a pass whose cache is
to keep them ends in the error of the file system, and its one block is not accounted for. -/
theorem longFormat_unaccounted :
    Schedule.Complete (oneBlockCall longFormat).schedule ∧
      (oneBlockCall longFormat).settings.failFast = false ∧
      (oneBlockCall longFormat).settings.Embeds (oneBlockCall longFormat).press.highlighter ∧
      (oneBlockCall longFormat).engine.Replies ∧ (oneBlockCall longFormat).requests ≠ [] ∧
      refusal? ((oneBlockCall longFormat).run ⟨Cache.new (some cacheName), bareRig⟩).1 =
        some .nameTooLong := by
  refine ⟨Schedule.inOrder_complete, rfl, default_embeds,
    ⟨fun _ => ⟨_, rfl⟩, fun _ _ _ => by simp [oneBlockCall, bareCall, Engine.pure]⟩, ?_,
    by decide +kernel⟩
  rw [oneBlockCall_requests]
  simp

end TypstFences
