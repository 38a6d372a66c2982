import TypstFences.Proofs.Pass.Conclusion
import TypstFences.Proofs.Pass.Meaning
import TypstFences.Proofs.Render.Truth

/-!
# A pass in a truthful session

Two passes had the same result if they wrote the same document, told the same failures, and have the
same images by name (`SameOutcome`); the order of the images is that of the deliveries. In a
truthful session a pass has the result that the text means, in any schedule that delivers every
block, and leaves the session truthful (`runWith_same_meaning`).
-/

set_option autoImplicit false

namespace TypstFences

variable {ε : Type}

/-! ## The same result -/

/-- Whether two results are the same, up to the order of the images. -/
structure PassResult.Same (first second : PassResult) : Prop where
  output : first.output = second.output
  artifacts : ∀ image, first.artifacts.lookup image = second.artifacts.lookup image
  failures : first.failures = second.failures

/-- Whether two passes had the same result, or ended in the same error. -/
inductive SameOutcome : Except PassError PassResult → Except PassError PassResult → Prop
  | ok {first second : PassResult} (same : first.Same second) : SameOutcome (.ok first) (.ok second)
  | error (error : PassError) : SameOutcome (.error error) (.error error)

namespace SameOutcome

variable {first second third : Except PassError PassResult}

/-- An outcome is the same as itself. -/
theorem refl (outcome : Except PassError PassResult) : SameOutcome outcome outcome := by
  cases outcome with
  | ok result => exact .ok ⟨rfl, fun _ => rfl, rfl⟩
  | error error => exact .error error

/-- Having the same result is symmetric. -/
theorem symm (h : SameOutcome first second) : SameOutcome second first := by
  cases h with
  | ok same => exact .ok ⟨same.output.symm, fun image => (same.artifacts image).symm, same.failures.symm⟩
  | error error => exact .error error

/-- Having the same result is transitive. -/
theorem trans (h : SameOutcome first second) (h' : SameOutcome second third) :
    SameOutcome first third := by
  cases h with
  | ok same =>
    cases h' with
    | ok same' =>
      exact .ok ⟨same.output.trans same'.output,
        fun image => (same.artifacts image).trans (same'.artifacts image),
        same.failures.trans same'.failures⟩
  | error error =>
    cases h' with
    | error => exact .error error

/-- Outcomes that are the same have the same errors. -/
theorem error_iff (h : SameOutcome first second) (error : PassError) :
    first = .error error ↔ second = .error error := by
  cases h with
  | ok same => simp
  | error told => simp

end SameOutcome

namespace Pass

variable {press : Press} {settings : Settings} {registry : Registry} {name : Text} {rendering : Rendering}
variable {engine : Engine ε} {requests : List (Nat × Request)}

/-! ## Images -/

/-- An image by its name after one was added. -/
theorem lookup_addImage (name other : Text) (content : Bytes) (images : List (Text × Bytes)) :
    (addImage name content images).lookup other =
      if other = name then some content else images.lookup other := by
  induction images with
  | nil => by_cases h : other = name <;> simp [addImage, h]
  | cons image images ih =>
    obtain ⟨old, oldContent⟩ := image
    unfold addImage
    split
    · rename_i same
      subst same
      by_cases h : other = old
      · simp [h]
      · rw [if_neg h, lookup_cons_of_ne _ _ h, lookup_cons_of_ne _ _ h]
    · rename_i differ
      by_cases h : other = old
      · simp [h, differ]
      · rw [lookup_cons_of_ne _ _ h, lookup_cons_of_ne _ _ h, ih]

/-- An image by its name after some were added, the last of which counts. -/
theorem lookup_addImages (other : Text) (more : List (Text × Bytes)) :
    ∀ images, (addImages images more).lookup other = (more.reverse ++ images).lookup other := by
  induction more with
  | nil => exact fun _ => rfl
  | cons image more ih =>
    intro images
    obtain ⟨name, content⟩ := image
    show (addImages (addImage name content images) more).lookup other = _
    rw [ih, List.lookup_append, lookup_addImage, List.reverse_cons, List.append_assoc,
      List.lookup_append]
    apply congrArg _
    by_cases same : other = name
    · simp [same]
    · rw [List.singleton_append, lookup_cons_of_ne _ _ same, if_neg same]

/-- Images that are added in two parts. -/
theorem addImages_append (images more others : List (Text × Bytes)) :
    addImages images (more ++ others) = addImages (addImages images more) others :=
  List.foldl_append

/-- The names of the pages of a result under a key. -/
def namesUnder (key : Text) (result : RenderResult) : Option (List Text) :=
  result.artifact?.map (pageNames key)

/-- The images of a result under a key, of which a failure has none. -/
def imagesUnder (key : Text) : RenderResult → List (Text × Bytes)
  | .artifact artifact => (pageNames key artifact).zip artifact.pages
  | .failure _ => []

/-- The names of the pages of results, under the keys at their positions. -/
def namesFrom (keys : Nat → Text) (results : List (Nat × RenderResult)) : List (Nat × List Text) :=
  results.filterMap fun entry => (namesUnder (keys entry.1) entry.2).map (entry.1, ·)

/-- The images of results, under the keys at their positions. -/
def imagesFrom (keys : Nat → Text) (results : List (Nat × RenderResult)) : List (Text × Bytes) :=
  results.flatMap fun entry => imagesUnder (keys entry.1) entry.2

/-- The names of the pages at a position are those of the result there. -/
theorem lookup_namesFrom {results : List (Nat × RenderResult)} (distinct : (results.map Prod.fst).Nodup)
    (keys : Nat → Text) (i : Nat) :
    (namesFrom keys results).lookup i = (results.lookup i).bind (namesUnder (keys i)) :=
  lookup_filterMap (f := fun i result => namesUnder (keys i) result) i distinct

/-- Only the keys at the positions of results count. -/
theorem keysFrom_congr {keys other : Nat → Text} {results : List (Nat × RenderResult)}
    (same : ∀ entry ∈ results, keys entry.1 = other entry.1) :
    namesFrom keys results = namesFrom other results ∧ imagesFrom keys results = imagesFrom other results :=
  ⟨List.filterMap_congr fun entry mem =>
      congrArg (fun key => (namesUnder key entry.2).map (entry.1, ·)) (same entry mem),
    List.flatMap_congr fun entry mem => congrArg (fun key => imagesUnder key entry.2) (same entry mem)⟩

/-- The keys of requests at their positions. -/
def keysOf (rendering : Rendering) (requests : List (Nat × Request)) (i : Nat) : Text :=
  rendering.digest ((requests.lookup i).getD default)

/-- What is assumed of asking for digests on rigs with some property. -/
structure DigestsAs (settings : Settings) (engine : Engine ε) (digest : Request → Text)
    (Inv : Rig ε → Prop) : Prop where
  digest : ∀ rig request, (requestDigest settings engine request rig).1 = .ok (digest request)
  stays : ∀ rig request, Inv rig → Inv (requestDigest settings engine request rig).2

/-- The names and the images of results are gathered under keys that are told for their requests one after
the other. -/
theorem gatherImages_keyed {Inv : Rig ε → Prop}
    (tells : ∀ rig request, Inv rig → ∃ key, (requestDigest settings engine request rig).1 = .ok key)
    (stays : ∀ rig request, Inv rig → Inv (requestDigest settings engine request rig).2)
    (requests : List (Nat × Request)) {results : List (Nat × RenderResult)} :
    ∀ images rig, Inv rig → (results.map Prod.fst).Nodup → ∃ keys after,
      (∀ i, ∃ rig, Inv rig ∧
        (requestDigest settings engine ((requests.lookup i).getD default) rig).1 = .ok (keys i)) ∧
      Inv after ∧ gatherImages settings engine requests results images rig =
        (.ok (namesFrom keys results, addImages images (imagesFrom keys results)), after) := by
  induction results with
  | nil =>
    intro images rig inv _
    choose keys told using fun i => tells rig ((requests.lookup i).getD default) inv
    exact ⟨keys, rig, fun i => ⟨rig, inv, told i⟩, inv, rfl⟩
  | cons entry results ih =>
    intro images rig inv distinct
    obtain ⟨index, result⟩ := entry
    rw [List.map_cons, List.nodup_cons] at distinct
    cases result with
    | failure failure => exact ih images rig inv distinct.2
    | artifact artifact =>
      obtain ⟨key, told⟩ := tells rig ((requests.lookup index).getD default) inv
      have kept := stays rig ((requests.lookup index).getD default) inv
      obtain ⟨keys, after, telling, inv', gathered⟩ := ih
        (addImages images (imagesUnder key (.artifact artifact))) _ kept distinct.2
      refine ⟨Function.update keys index key, after, fun i => ?_, inv', ?_⟩
      · by_cases same : i = index
        · rw [same, Function.update_self]
          exact ⟨rig, inv, told⟩
        · rw [Function.update_of_ne same]
          exact telling i
      · -- none of the other results is at the position of the first one
        obtain ⟨names_eq, images_eq⟩ : namesFrom (Function.update keys index key) results =
            namesFrom keys results ∧ imagesFrom (Function.update keys index key) results =
              imagesFrom keys results := by
          refine keysFrom_congr fun entry mem => Function.update_of_ne ?_ _ _
          intro same
          exact distinct.1 (List.mem_map.mpr ⟨entry, mem, same⟩)
        have names_cons : namesFrom (Function.update keys index key)
            ((index, .artifact artifact) :: results) =
              (index, pageNames key artifact) :: namesFrom keys results := by
          rw [← names_eq, namesFrom, List.filterMap_cons, Function.update_self]
          rfl
        have images_cons : imagesFrom (Function.update keys index key)
            ((index, .artifact artifact) :: results) =
              imagesUnder key (.artifact artifact) ++ imagesFrom keys results := by
          rw [← images_eq, imagesFrom, List.flatMap_cons, Function.update_self]
          rfl
        rw [names_cons, images_cons, addImages_append, gatherImages]
        generalize requestDigest settings engine ((requests.lookup index).getD default) rig = done
          at told gathered ⊢
        obtain ⟨outcome, between⟩ := done
        obtain rfl : outcome = .ok key := told
        simp only [imagesUnder] at gathered ⊢
        rw [gathered]

/-- The names and the images that are gathered from results, if the keys of their requests are known. -/
theorem gatherImages_eq {Inv : Rig ε → Prop}
    (tells : ∀ rig request, Inv rig →
      (requestDigest settings engine request rig).1 = .ok (rendering.digest request))
    (stays : ∀ rig request, Inv rig → Inv (requestDigest settings engine request rig).2)
    (requests : List (Nat × Request)) {results : List (Nat × RenderResult)}
    (distinct : (results.map Prod.fst).Nodup) (images : List (Text × Bytes)) {rig : Rig ε} (inv : Inv rig) :
    ∃ after, Inv after ∧ gatherImages settings engine requests results images rig =
      (.ok (namesFrom (keysOf rendering requests) results,
        addImages images (imagesFrom (keysOf rendering requests) results)), after) := by
  obtain ⟨keys, after, telling, inv', gathered⟩ := gatherImages_keyed
    (fun rig request inv => ⟨_, tells rig request inv⟩) stays requests images rig inv distinct
  obtain rfl : keys = keysOf rendering requests := by
    funext i
    obtain ⟨asked, inv, told⟩ := telling i
    exact Except.ok.inj (told.symm.trans (tells asked _ inv))
  exact ⟨after, inv', gathered⟩

/-- The images of pieces by name do not depend on their order, if no name has two contents. -/
def SingleImages (images : List (Text × Bytes)) : Prop :=
  ∀ image content other, (image, content) ∈ images → (image, other) ∈ images → content = other

/-! ## From results to what the pieces contribute -/

section Finish

variable {pieces : List Piece} {results : List (Nat × RenderResult)}

/-- The result at a position. -/
theorem lookup_delivered
    (delivered : DeliveredAll rendering.answer (Plan.requests (plansFrom 0 pieces)) results) (i : Nat) :
    results.lookup i = (pieces[i]?.bind Piece.request?).map rendering.answer := by
  rw [delivered.lookup, lookup_requests]

/-- The images of all results are those of all pieces. -/
theorem mem_images_iff
    (delivered : DeliveredAll rendering.answer (Plan.requests (plansFrom 0 pieces)) results)
    (image : Text × Bytes) :
    image ∈ imagesFrom (keysOf rendering (Plan.requests (plansFrom 0 pieces))) results ↔
      image ∈ pieces.flatMap (Piece.images rendering) := by
  have images_eq (i : Nat) (request : Request) (result : RenderResult)
      (asked : (Plan.requests (plansFrom 0 pieces)).lookup i = some request)
      (answered : rendering.answer request = result) :
      imagesUnder (keysOf rendering (Plan.requests (plansFrom 0 pieces)) i) result =
        rendering.images request := by
    rw [Rendering.images, keysOf, asked, answered]
    rfl
  simp only [imagesFrom, List.mem_flatMap]
  constructor
  · rintro ⟨⟨i, result⟩, mem, in_images⟩
    have found := delivered.lookup i
    rw [lookup_of_mem delivered.distinct mem] at found
    obtain ⟨request, asked, answered⟩ := Option.map_eq_some_iff.mp found.symm
    rw [images_eq i request result asked answered] at in_images
    rw [lookup_requests] at asked
    obtain ⟨piece, at_i, request_eq⟩ := Option.bind_eq_some_iff.mp asked
    refine ⟨piece, List.mem_of_getElem? at_i, ?_⟩
    unfold Piece.images
    rw [request_eq]
    simpa using in_images
  · rintro ⟨piece, mem, in_images⟩
    obtain ⟨i, at_i⟩ := List.mem_iff_getElem?.mp mem
    unfold Piece.images at in_images
    rw [List.mem_flatMap] at in_images
    obtain ⟨request, request_eq, in_images⟩ := in_images
    have asked : (Plan.requests (plansFrom 0 pieces)).lookup i = some request := by
      rw [lookup_requests, at_i]
      simpa using request_eq
    have found := delivered.lookup i
    rw [asked] at found
    refine ⟨(i, rendering.answer request), mem_of_lookup found, ?_⟩
    rwa [images_eq i request _ asked rfl]

/-- The failure of the fence at a position, told of the fence. -/
theorem locateAt_eq {i : Nat} {block : Fence} {plan : Option Plan}
    (at_i : pieces[i]? = some (.fence block plan)) (failure : Failure) :
    locateAt ⟨name, pieces.map Piece.segment⟩ i failure = locate name block failure := by
  have fence : (⟨name, pieces.map Piece.segment⟩ : Document).fences.lookup i = some block := by
    rw [lookup_fences]
    simp [at_i, Piece.segment, Segment.fence?]
  unfold locateAt
  rw [fence]
  rfl

/-- The failures of the piece at a position. -/
theorem failures_at
    (delivered : DeliveredAll rendering.answer (Plan.requests (plansFrom 0 pieces)) results) {i : Nat}
    {piece : Piece} (at_i : pieces[i]? = some piece) :
    ((failuresOf ⟨name, pieces.map Piece.segment⟩ results).lookup i).toList =
      piece.failures rendering name := by
  rw [lookup_failuresOf _ delivered.distinct, lookup_delivered delivered, at_i]
  cases piece with
  | text raw => rfl
  | fence block plan =>
    rcases plan with - | (display | ⟨request, display⟩)
    · rfl
    · rfl
    · simp only [Piece.request?, Piece.plan?, Plan.request?, Option.bind_some, Option.map_some,
        Piece.failures]
      congr 2
      funext failure
      exact locateAt_eq at_i failure

/-- The outcome of the piece at a position. -/
theorem outcome_at
    (delivered : DeliveredAll rendering.answer (Plan.requests (plansFrom 0 pieces)) results) {i : Nat}
    {block : Fence} {plan : Plan} (at_i : pieces[i]? = some (.fence block (some plan))) :
    outcomeOf (failuresOf ⟨name, pieces.map Piece.segment⟩ results)
        (namesFrom (keysOf rendering (Plan.requests (plansFrom 0 pieces))) results) i plan =
      rendering.outcome name block plan := by
  cases plan with
  | literal display => rfl
  | render request display =>
    have asked : (Plan.requests (plansFrom 0 pieces)).lookup i = some request := by
      rw [lookup_requests, at_i]
      rfl
    have result : results.lookup i = some (rendering.answer request) := by
      rw [delivered.lookup, asked]
      rfl
    rw [outcomeOf, Rendering.outcome, lookup_failuresOf _ delivered.distinct,
      lookup_namesFrom delivered.distinct, result, Option.bind_some, Option.bind_some, namesUnder,
      keysOf, asked]
    cases rendering.answer request with
    | artifact artifact => rfl
    | failure failure =>
      show Outcome.failed (locateAt _ i failure) = _
      rw [locateAt_eq at_i]

/-- The document is written as the pieces are. -/
theorem ofDocument_eq (press : Press) (settings : Settings) (name : Text)
    (delivered : DeliveredAll rendering.answer (Plan.requests (plansFrom 0 pieces)) results) :
    Replacement.ofDocument press settings
        (outcomesOf (failuresOf ⟨name, pieces.map Piece.segment⟩ results)
          (namesFrom (keysOf rendering (Plan.requests (plansFrom 0 pieces))) results) (plansFrom 0 pieces))
        ⟨name, pieces.map Piece.segment⟩ =
      (pieces.mapM (Piece.written press settings rendering name)).map List.flatten := by
  refine ofSegments_eq pieces 0 fun i block plan at_i => ?_
  rw [Nat.zero_add, lookup_outcomesOf, lookup_plansFrom, at_i]
  cases plan with
  | none => rfl
  | some plan => exact congrArg some (outcome_at delivered at_i)

/-- The failures in the order of the document are those of the pieces. -/
theorem failures_inOrder
    (delivered : DeliveredAll rendering.answer (Plan.requests (plansFrom 0 pieces)) results) :
    ((plansFrom 0 pieces).filterMap fun entry =>
        (failuresOf ⟨name, pieces.map Piece.segment⟩ results).lookup entry.1) =
      pieces.flatMap (Piece.failures rendering name) := by
  refine failures_eq pieces 0 fun i piece at_i _ => ?_
  rw [Nat.zero_add]
  exact failures_at delivered at_i

/-- The images by name are those of the pieces. -/
theorem lookup_images
    (delivered : DeliveredAll rendering.answer (Plan.requests (plansFrom 0 pieces)) results)
    (single : SingleImages (pieces.flatMap (Piece.images rendering))) (image : Text) :
    (addImages [] (imagesFrom (keysOf rendering (Plan.requests (plansFrom 0 pieces))) results)).lookup image =
      (pieces.flatMap (Piece.images rendering)).lookup image := by
  rw [lookup_addImages, List.append_nil]
  refine lookup_eq_of_mem_iff (fun pair => ?_) (fun image content other mem mem' => ?_) image
  · rw [List.mem_reverse, mem_images_iff delivered]
  · rw [List.mem_reverse, mem_images_iff delivered] at mem mem'
    exact single image content other mem mem'

/-- What is made of delivered results is what the pieces come to. -/
theorem conclude_eq {Inv : Rig ε → Prop} (press : Press) (name : Text) (rig : Rig ε)
    (tells : ∀ rig request, Inv rig →
      (requestDigest settings engine request rig).1 = .ok (rendering.digest request))
    (stays : ∀ rig request, Inv rig → Inv (requestDigest settings engine request rig).2)
    (inv : Inv rig)
    (delivered : DeliveredAll rendering.answer (Plan.requests (plansFrom 0 pieces)) results)
    (single : SingleImages (pieces.flatMap (Piece.images rendering))) :
    ∃ outcome after, conclude press settings engine ⟨name, pieces.map Piece.segment⟩ (plansFrom 0 pieces)
        results rig = (outcome, after) ∧
      SameOutcome outcome (piecesMeaning press settings rendering name pieces) ∧ Inv after := by
  obtain ⟨after, inv', gathered⟩ :=
    gatherImages_eq tells stays (Plan.requests (plansFrom 0 pieces)) delivered.distinct [] inv
  have output := ofDocument_eq press settings name delivered
  unfold piecesMeaning
  cases texts : pieces.mapM (Piece.written press settings rendering name) with
  | error error =>
    rw [texts] at output
    refine ⟨.error error, after, ?_, .error error, inv'⟩
    simp only [conclude, gathered, output]
    rfl
  | ok parts =>
    rw [texts] at output
    let result : PassResult := ⟨parts.flatten,
      addImages [] (imagesFrom (keysOf rendering (Plan.requests (plansFrom 0 pieces))) results),
      (plansFrom 0 pieces).filterMap fun entry =>
        (failuresOf ⟨name, pieces.map Piece.segment⟩ results).lookup entry.1⟩
    have finished : conclude press settings engine ⟨name, pieces.map Piece.segment⟩ (plansFrom 0 pieces)
        results rig = (.ok result, after) := by
      simp only [conclude, gathered, output]
      rfl
    have same : result.Same ⟨parts.flatten, pieces.flatMap (Piece.images rendering),
        pieces.flatMap (Piece.failures rendering name)⟩ :=
      ⟨rfl, lookup_images delivered single, failures_inOrder delivered⟩
    exact ⟨_, after, finished, .ok same, inv'⟩

end Finish

/-! ## Passes in truthful sessions -/

/-- The results and digests under settings, of an engine that answers in one way. -/
def answersOf (settings : Settings) (version : Text) (root : Option Text)
    (answer : Text → RenderResult) : Rendering where
  answer request := request.answer answer settings.preamble
  digest request := request.digest version settings.preamble settings.outputFormat root

/-- A host that differs in its log only leaves a directory untouched. -/
theorem SameButLog.untouched {host other : Host} (h : SameButLog host other) (directory : Path) :
    Store.Untouched directory host other := by
  obtain ⟨log, rfl⟩ := h
  exact ⟨fun _ holds => holds, rfl⟩

/-- Hosts that differ in their logs only are so one after the other. -/
theorem SameButLog.trans {first second third : Host} (h : SameButLog first second)
    (h' : SameButLog second third) : SameButLog first third := by
  obtain ⟨log, rfl⟩ := h
  obtain ⟨log', rfl⟩ := h'
  exact ⟨log', rfl⟩

/-- Noting fences changes the log only. -/
theorem sameButLog_noteFences (segments : List Segment) (host : Host) :
    SameButLog host (noteFences segments host) := by
  unfold noteFences
  generalize segments.filterMap Segment.fence? = fences
  induction fences generalizing host with
  | nil => exact ⟨host.log, rfl⟩
  | cons fence fences ih =>
    obtain ⟨log, after_eq⟩ := ih (host.note 3 (fenceText fence))
    exact ⟨log, after_eq⟩

/-- Reading a document tells what the scan finds, and changes the log only. -/
theorem readDocument_eq (name source : Text) (host : Host) :
    ∃ after, readDocument name source host = ((match (scan source).unclosed with
        | some openFence => .error (.unterminatedFence ⟨name, openFence.line⟩ openFence.shown)
        | none => .ok ⟨name, (scan source).segments⟩), after) ∧ SameButLog host after := by
  obtain ⟨log, noted⟩ := sameButLog_noteFences (scan source).segments host
  rw [readDocument]
  cases (scan source).unclosed with
  | some openFence => exact ⟨_, rfl, log, noted⟩
  | none =>
    refine ⟨_, rfl, (noteFences (scan source).segments host).log ++
      [⟨2, documentText ⟨name, (scan source).segments⟩⟩], ?_⟩
    rw [noted]
    rfl

/-- Without an early end failures are noted and nothing else. -/
theorem onFailure_quiet (noFailFast : settings.failFast = false) (document : Document) :
    (onFailure settings document).Quiet := by
  intro block failure noted host
  exact ⟨_, 1, _, by simp only [onFailure, noFailFast]; rfl⟩

/-- The images of a request are the pages of its artifact, if it has one. -/
theorem mem_rendering_images {request : Request} {image : Text} {content : Bytes} :
    (image, content) ∈ rendering.images request ↔ ∃ artifact page,
      rendering.answer request = .artifact artifact ∧ artifact.pages[page]? = some content ∧
        image = Store.pageName (rendering.digest request) (page + 1) artifact.format := by
  unfold Rendering.images
  cases answered : rendering.answer request with
  | failure failure => simp
  | artifact artifact =>
    have named (page : Nat) : (pageNames (rendering.digest request) artifact)[page]? =
        if page < artifact.pages.length then
          some (Store.pageName (rendering.digest request) (page + 1) artifact.format) else none := by
      unfold pageNames
      rw [List.getElem?_map]
      by_cases inside : page < artifact.pages.length <;> simp [inside]
    simp only [RenderResult.artifact.injEq, exists_and_left, exists_eq_left',
      List.mem_iff_getElem?, List.getElem?_zip_eq_some, named]
    refine exists_congr fun page => ?_
    constructor
    · rintro ⟨at_page, stored⟩
      rw [if_pos (List.getElem?_eq_some_iff.mp stored).1] at at_page
      exact ⟨stored, (Option.some.inj at_page).symm⟩
    · rintro ⟨stored, rfl⟩
      exact ⟨if_pos (List.getElem?_eq_some_iff.mp stored).1, stored⟩

/-- The images of pieces are the pages of the artifacts of their requests. -/
theorem mem_pieces_images {pieces : List Piece} {image : Text} {content : Bytes} :
    (image, content) ∈ pieces.flatMap (Piece.images rendering) ↔
      ∃ request ∈ pieces.filterMap Piece.request?, ∃ artifact page,
        rendering.answer request = .artifact artifact ∧ artifact.pages[page]? = some content ∧
          image = Store.pageName (rendering.digest request) (page + 1) artifact.format := by
  simp only [List.mem_flatMap, List.mem_filterMap, Piece.images, Option.mem_toList,
    mem_rendering_images]
  constructor
  · rintro ⟨piece, mem, request, asked, page_of⟩
    exact ⟨request, ⟨piece, mem, asked⟩, page_of⟩
  · rintro ⟨request, ⟨piece, mem, asked⟩, page_of⟩
    exact ⟨piece, mem, request, asked, page_of⟩

/-- Images of requests whose results are told by their digests have one content for each name. -/
theorem singleImages_of_value {value : Text → Option RenderResult} {pieces : List Piece}
    (keys : ∀ request, Store.IsKey (rendering.digest request))
    (known : ∀ request ∈ pieces.filterMap Piece.request?,
      value (rendering.digest request) = some (rendering.answer request)) :
    SingleImages (pieces.flatMap (Piece.images rendering)) := by
  intro image content other mem mem'
  obtain ⟨request, asked, artifact, page, answered, stored, name_eq⟩ := mem_pieces_images.mp mem
  obtain ⟨request', asked', artifact', page', answered', stored', name_eq'⟩ := mem_pieces_images.mp mem'
  obtain ⟨digests, pages, -⟩ := Store.pageName_inj (keys request) (keys request')
    (name_eq.symm.trans name_eq')
  have values := (known request asked).symm.trans (digests ▸ known request' asked')
  rw [answered, answered'] at values
  obtain rfl := RenderResult.artifact.inj (Option.some.inj values)
  obtain rfl : page = page' := by omega
  exact Option.some.inj (stored.symm.trans stored')

section Truthful

variable {version tag : Text} {answer : Text → RenderResult} {value : Text → Option RenderResult}
variable {directory : Option Path} {session : Session ε}

/-- The requests of pieces are answered with their values. -/
theorem rendersAs_answers (answers : engine.Answers version answer)
    (leaves : ∀ path, directory = some path → engine.LeavesAlone path)
    (storing : Storing value tag directory) {pieces : List Piece}
    (known : ∀ request ∈ pieces.filterMap Piece.request?,
      value ((answersOf settings version engine.root answer).digest request) =
        some ((answersOf settings version engine.root answer).answer request)) :
    RendersAs settings engine (Plan.requests (plansFrom 0 pieces))
      (answersOf settings version engine.root answer).answer
      (Session.Truthful value tag directory) := by
  refine ⟨fun session truthful block request listed => ?_, fun session truthful level message =>
    truthful.note level message⟩
  rw [lookup_requests] at listed
  obtain ⟨piece, at_block, request_eq⟩ := Option.bind_eq_some_iff.mp listed
  exact truthful.renderRequest answers leaves storing
    (known request (List.mem_filterMap.mpr ⟨piece, List.mem_of_getElem? at_block, request_eq⟩))

/-- An engine of one version tells the digests. -/
theorem requestDigest_eq (answers : engine.Answers version answer) (request : Request) (rig : Rig ε) :
    (requestDigest settings engine request rig).1 =
      .ok ((answersOf settings version engine.root answer).digest request) := by
  rw [requestDigest_eq_map, answers.version_eq rig]
  rfl

/-- An engine of one version tells the digests, whatever the session is. -/
theorem digestsAs_answers (answers : engine.Answers version answer)
    (leaves : ∀ path, directory = some path → engine.LeavesAlone path) (session : Session ε) :
    DigestsAs settings engine (answersOf settings version engine.root answer).digest
      fun rig => Session.Truthful value tag directory { session with rig := rig } where
  digest rig request := requestDigest_eq answers request rig
  stays rig request truthful := by
    rw [requestDigest_eq_map]
    exact truthful.withRig _ fun path found => (leaves path found).version rig

/-- In a truthful session a pass has the result that the text means, if failures do not end it and
every block is executed and delivered. The session stays truthful. -/
theorem runWith_same_meaning {schedule : List Nat → Schedule} (complete : Schedule.Complete schedule)
    (noFailFast : settings.failFast = false) (answers : engine.Answers version answer)
    (truthful : session.Truthful value tag directory)
    (leaves : ∀ path, directory = some path → engine.LeavesAlone path)
    (storing : Storing value tag directory) {source : Text}
    (known : ∀ request ∈ requestsOf settings registry name source,
      value ((answersOf settings version engine.root answer).digest request) =
        some ((answersOf settings version engine.root answer).answer request)) :
    ∃ outcome after, runWith schedule press settings engine registry name source session =
        (outcome, after) ∧
      SameOutcome outcome
        (meaning press settings registry (answersOf settings version engine.root answer) name source) ∧
      after.Truthful value tag directory := by
  have withHost {host : Host} (log : SameButLog session.rig.host host) :
      (session.withHost host).Truthful value tag directory :=
    truthful.withRig _ fun path _ => log.untouched path
  obtain ⟨read, read_eq, read_log⟩ := readDocument_eq name source session.rig.host
  unfold runWith
  rw [read_eq, meaning]
  cases (scan source).unclosed with
  | some openFence => exact ⟨_, _, rfl, .error _, withHost read_log⟩
  | none =>
    obtain ⟨planned, planned_eq, planned_log⟩ :=
      ofFences_eq settings registry name (scan source).segments 0 read
    have log : SameButLog session.rig.host planned := read_log.trans planned_log
    have fences_eq : (⟨name, (scan source).segments⟩ : Document).fences =
        fencesFrom 0 (scan source).segments := rfl
    simp only [fences_eq, planned_eq]
    cases found : pieces settings registry name (scan source).segments with
    | error error => exact ⟨_, _, rfl, .error _, withHost log⟩
    | ok pieces =>
      have asked := known
      unfold requestsOf at asked
      rw [found] at asked
      -- all blocks are rendered, and then the results are gathered
      obtain ⟨results, rendered, noted, run, delivered, truthful'⟩ := renderRequests_eq
        (rendersAs_answers answers leaves storing asked)
        (onFailure_quiet noFailFast ⟨name, (scan source).segments⟩)
        (fun block mem => complete _ block mem) (withHost log) []
      obtain ⟨outcome, after, concluded, same, truthful''⟩ := conclude_eq press name rendered.rig
        (fun rig request _ => requestDigest_eq answers request rig)
        (digestsAs_answers answers leaves rendered).stays truthful' delivered
        (singleImages_of_value (fun _ => Store.isKey_hexDigest _) asked)
      rw [segments_of_pieces found] at concluded
      have finished := (finish_of_renderRequests (pairwise_plansFrom pieces 0) (congrArg Prod.fst run) press
        rendered.rig).trans concluded
      refine ⟨outcome, { rendered with rig := after }, ?_, same, truthful''⟩
      simp only [Except.map, run, finished]

end Truthful

end Pass

end TypstFences
