import TypstFences.Proofs.Pass.Needed
import TypstFences.Proofs.Render.Memory

/-!
# The images of a pass

The images of a pass are the pages of the artifacts of its typeset fences, under names of their digests, and
each of these fences shows its pages, in order, below its source (`PassResult.Coherent`). Which artifact a
digest has is what the cache remembers, and remains so in all that comes after (`PassResult.Coherent.mono`).
-/

set_option autoImplicit false

namespace TypstFences

variable {ε : Type} {press : Press} {settings : Settings} {registry : Registry}

/-! ## Names of images -/

namespace Pass

variable {engine : Engine ε}

/-- The names after an image was put under its name. -/
theorem mem_names_addImage {image name : Text} {content : Bytes} {images : List (Text × Bytes)} :
    image ∈ (addImage name content images).map Prod.fst ↔ image = name ∨ image ∈ images.map Prod.fst := by
  induction images with
  | nil => simp [addImage]
  | cons first images ih =>
    obtain ⟨other, old⟩ := first
    unfold addImage
    split
    · rename_i same
      simp [same]
    · rw [List.map_cons, List.mem_cons, ih, List.map_cons, List.mem_cons]
      exact or_left_comm

/-- An image after another was put under its name is that one or an older one. -/
theorem mem_of_mem_addImage {entry : Text × Bytes} {name : Text} {content : Bytes}
    {images : List (Text × Bytes)} :
    entry ∈ addImage name content images → entry = (name, content) ∨ entry ∈ images := by
  induction images with
  | nil => exact fun mem => .inl (List.mem_singleton.mp mem)
  | cons first images ih =>
    obtain ⟨other, old⟩ := first
    unfold addImage
    split
    · intro mem
      exact (List.mem_cons.mp mem).imp_right fun later => List.mem_cons_of_mem _ later
    · intro mem
      rcases List.mem_cons.mp mem with rfl | later
      · exact .inr List.mem_cons_self
      · exact (ih later).imp_right fun later => List.mem_cons_of_mem _ later

/-- An image after others were put under their names is one of these or an older one. -/
theorem mem_of_mem_addImages {entry : Text × Bytes} {more : List (Text × Bytes)} :
    ∀ {images}, entry ∈ addImages images more → entry ∈ images ∨ entry ∈ more := by
  induction more with
  | nil => exact fun mem => .inl mem
  | cons image more ih =>
    intro images mem
    rcases ih mem with before | later
    · rcases mem_of_mem_addImage before with rfl | old
      · exact .inr List.mem_cons_self
      · exact .inl old
    · exact .inr (List.mem_cons_of_mem _ later)

/-- The names after images were put under theirs. -/
theorem mem_names_addImages {image : Text} {more : List (Text × Bytes)} :
    ∀ {images}, image ∈ (addImages images more).map Prod.fst ↔
      image ∈ images.map Prod.fst ∨ image ∈ more.map Prod.fst := by
  induction more with
  | nil => simp [addImages]
  | cons first more ih =>
    intro images
    have step : addImages images (first :: more) = addImages (addImage first.1 first.2 images) more := rfl
    rw [step, ih, mem_names_addImage, List.map_cons, List.mem_cons]
    tauto

/-- An image that is put under its name is the only one there. -/
theorem nodup_addImage {name : Text} {content : Bytes} {images : List (Text × Bytes)}
    (distinct : (images.map Prod.fst).Nodup) : ((addImage name content images).map Prod.fst).Nodup := by
  induction images with
  | nil => simp [addImage]
  | cons first images ih =>
    obtain ⟨other, old⟩ := first
    rw [List.map_cons, List.nodup_cons] at distinct
    unfold addImage
    split
    · rename_i same
      exact List.nodup_cons.mpr ⟨same ▸ distinct.1, distinct.2⟩
    · rename_i differ
      refine List.nodup_cons.mpr ⟨?_, ih distinct.2⟩
      rw [mem_names_addImage]
      exact not_or.mpr ⟨differ, distinct.1⟩

/-- So are all images that are put under their names. -/
theorem nodup_addImages {more : List (Text × Bytes)} :
    ∀ {images}, (images.map Prod.fst).Nodup → ((addImages images more).map Prod.fst).Nodup := by
  induction more with
  | nil => exact fun distinct => distinct
  | cons image more ih => exact fun distinct => ih (nodup_addImage distinct)

/-- Images that are gathered have names of their own. -/
theorem nodup_gatherImages {requests : List (Nat × Request)} (results : List (Nat × RenderResult)) :
    ∀ {images rig names gathered after},
      gatherImages settings engine requests results images rig = (.ok (names, gathered), after) →
        (images.map Prod.fst).Nodup → (gathered.map Prod.fst).Nodup := by
  induction results with
  | nil =>
    intro images rig names gathered after made distinct
    obtain ⟨-, rfl⟩ := Prod.mk.inj (Except.ok.inj (Prod.mk.inj made).1)
    exact distinct
  | cons entry results ih =>
    intro images rig names gathered after made distinct
    obtain ⟨index, artifact | failure⟩ := entry
    · rw [gatherImages] at made
      split at made
      · exact absurd (Prod.mk.inj made).1 (by simp)
      · simp only at made
        split at made
        · exact absurd (Prod.mk.inj made).1 (by simp)
        · rename_i others
          obtain ⟨-, rfl⟩ := Prod.mk.inj (Except.ok.inj (Prod.mk.inj made).1)
          exact ih others (nodup_addImages distinct)
    · exact ih made distinct

/-- The images of a pass have names of their own. -/
theorem nodup_images_of_conclude {document : Document} {plans : List (Nat × Plan)}
    {results : List (Nat × RenderResult)} {rig : Rig ε} {result : PassResult}
    (h : (conclude press settings engine document plans results rig).1 = .ok result) :
    (result.artifacts.map Prod.fst).Nodup := by
  unfold conclude at h
  split at h
  · exact absurd h (by simp)
  · rename_i gathered
    split at h
    · exact absurd h (by simp)
    · rw [← Except.ok.inj h]
      exact nodup_gatherImages results gathered List.nodup_nil

/-! ## Embedded images -/

end Pass

/-- Whether an element is the template filled with the path of the image of a page. -/
def Replacement.Shows (address : Nat → Template.Address) (settings : Settings) (page : Text × Nat)
    (element : Text) : Prop :=
  Template.fill (address page.2) [(pathName, .string (imagePath settings.imageDir page.1))]
    settings.embedTemplate = .ok element

/-- The elements for images show the pages, which are numbered. -/
theorem Replacement.imageElements_eq_ok {address : Nat → Template.Address} {names : List Text} :
    ∀ {page : Nat} {elements : List Text}, imageElements address settings page names = .ok elements →
      List.Forall₂ (Shows address settings) (names.zipIdx page) elements := by
  induction names with
  | nil =>
    intro page elements made
    obtain rfl := Except.ok.inj made
    exact .nil
  | cons name names ih =>
    intro page elements made
    unfold imageElements at made
    simp only at made
    split at made
    · exact absurd made (by simp)
    · rename_i element filled
      split at made
      · rename_i rest others
        obtain rfl := Except.ok.inj made
        exact .cons filled (ih others)
      · exact absurd made (by simp)

/-- What is displayed of a typeset fence with a marker for hidden lines. -/
def Fence.displayed (marker : Text) (fence : Fence) : Text :=
  (HiddenLines.views marker (Text.dedent fence.indent fence.body)).display

/-- Whether a text embeds images in order, each by the template, below the source that is displayed of a
fence. -/
def Fence.Embeds (press : Press) (settings : Settings) (registry : Registry) (fence : Fence)
    (images : List Text) (part : Text) : Prop :=
  ∃ directive source elements, Directive.read registry fence.info = .ok directive ∧
    Replacement.sourceElements press.highlighter settings
      (fence.displayed (directive.marker settings.hidelines)) = .ok source ∧
    List.Forall₂ (Replacement.Shows (press.address fence.line) settings) (images.zipIdx 1) elements ∧
    part = Text.indent fence.indent (Text.joinWith ['\n'] (source ++ elements) ++ ['\n', '\n'])

/-- What is displayed of a block that is to be rendered. -/
theorem Plan.display_of_render {directive : Directive} {fence : Fence} {request : Request} {display : Text}
    (planned : ofDirective? settings registry directive fence = some (.render request display)) :
    display = fence.displayed (directive.marker settings.hidelines) := by
  unfold ofDirective? at planned
  split at planned
  · exact absurd planned (by simp)
  · exact absurd planned (by simp)
  · exact (Plan.render.inj (Option.some.inj planned)).2.symm
  · exact (Plan.render.inj (Option.some.inj planned)).2.symm

/-- A typeset fence whose request has an artifact embeds its pages. -/
theorem Fence.Typesets.embeds {fence : Fence} {request : Request} {text name part : Text} {piece : Piece}
    {rendering : Rendering} {artifact : Artifact}
    (typesets : fence.Typesets settings registry request text)
    (made : Piece.ofSegment settings registry name (.fence fence) = .ok piece)
    (written : piece.written press settings rendering name = .ok part)
    (answered : rendering.answer request = .artifact artifact) :
    fence.Embeds press settings registry (Pass.pageNames (rendering.digest request) artifact) part := by
  obtain rfl := typesets.assembled
  obtain ⟨directive, display, read, planned⟩ := Fence.typesets_iff.mp typesets
  obtain rfl := Plan.display_of_render planned
  unfold Piece.ofSegment at made
  simp only [read, planned] at made
  obtain rfl := Except.ok.inj made
  simp only [Piece.written, Option.map_some, Option.getD_some, Rendering.outcome, answered,
    Replacement.ofFence, Replacement.embedding] at written
  cases shown : Replacement.sourceElements press.highlighter settings
      (fence.displayed (directive.marker settings.hidelines)) with
  | error error => exact absurd written (by simp [shown])
  | ok source =>
    cases embedded : Replacement.imageElements (press.address fence.line) settings 1
        (Pass.pageNames (rendering.digest request) artifact) with
    | error error => exact absurd written (by simp [shown, embedded])
    | ok elements =>
      simp only [shown, embedded] at written
      exact ⟨directive, source, elements, read, shown, Replacement.imageElements_eq_ok embedded,
        (Except.ok.inj written).symm⟩

/-! ## Coherent results -/

/-- Whether a part of a document is written so for a segment: a typeset fence with an artifact embeds its
pages under the names of the digest. -/
def PassCall.Embeds (call : PassCall ε) (known : Text → Option RenderResult) (segment : Segment)
    (part : Text) : Prop :=
  ∀ fence request text artifact, segment = .fence fence →
    fence.Typesets call.settings call.registry request text →
    known (call.digest request) = some (.artifact artifact) →
      fence.Embeds call.press call.settings call.registry (Pass.pageNames (call.digest request) artifact) part

/-- Whether the images of a result are those of the typeset fences of its document, where some results are
known by their digests: every such fence has a result, the images are the pages of the artifacts among
these, each under the name made of the digest, the number of the page and the format, and each fence with
an artifact embeds its pages in order. -/
structure PassResult.Coherent (call : PassCall ε) (known : Text → Option RenderResult)
    (result : PassResult) : Prop where
  answered : ∀ request text, call.Typesets request text → known (call.digest request) ≠ none
  distinct : (result.artifacts.map Prod.fst).Nodup
  images : ∀ image content, (image, content) ∈ result.artifacts ↔
    ∃ request text artifact page, call.Typesets request text ∧
      known (call.digest request) = some (.artifact artifact) ∧
      artifact.pages[page]? = some content ∧
      image = Store.pageName (call.digest request) (page + 1) artifact.format
  embedded : ∃ parts : List Text, result.output = parts.flatten ∧
    List.Forall₂ (call.Embeds known) (scan call.source).segments parts

namespace PassResult.Coherent

variable {call : PassCall ε} {result : PassResult} {before after : Cache}

/-- A result is coherent with all that is known later. -/
theorem mono (h : result.Coherent call before.entry?) (grows : before.Grows after) :
    result.Coherent call after.entry? := by
  -- what is known of a typeset fence was known before
  have same {request : Request} {text : Text} (typesets : call.Typesets request text) :
      after.entry? (call.digest request) = before.entry? (call.digest request) := by
    obtain ⟨answer, known⟩ := Option.ne_none_iff_exists'.mp (h.answered request text typesets)
    rw [known, grows _ _ known]
  obtain ⟨parts, output, each⟩ := h.embedded
  refine ⟨fun request text typesets => ?_, h.distinct, fun image content => ?_, parts, output, ?_⟩
  · rw [same typesets]
    exact h.answered request text typesets
  · rw [h.images]
    refine exists_congr fun request => exists_congr fun text => exists_congr fun artifact =>
      exists_congr fun page => and_congr_right fun typesets => ?_
    rw [same typesets]
  · have listed := (List.forall₂_and_left _ _).mpr ⟨fun _ mem => mem, each⟩
    apply listed.imp
    rintro segment part ⟨mem, embeds⟩ fence request text artifact rfl typesets known
    rw [same ⟨fence, mem, typesets⟩] at known
    exact embeds fence request text artifact rfl typesets known

end PassResult.Coherent

namespace Pass

variable {engine : Engine ε} {name version : Text} {steady : ε → Prop} {found : List Piece}
variable {session : Session ε}

/-- The parts of a document that pieces are written as stand for its segments. -/
theorem forall₂_of_written {rendering : Rendering} {Writes : Segment → Text → Prop}
    {segments : List Segment} :
    ∀ {found parts}, pieces settings registry name segments = .ok found →
      found.mapM (Piece.written press settings rendering name) = .ok parts →
      (∀ segment ∈ segments, ∀ piece part, Piece.ofSegment settings registry name segment = .ok piece →
        piece.written press settings rendering name = .ok part → Writes segment part) →
        List.Forall₂ Writes segments parts := by
  induction segments with
  | nil =>
    intro found parts made written _
    obtain rfl := Except.ok.inj made
    obtain rfl := Except.ok.inj written
    exact .nil
  | cons segment segments ih =>
    intro found parts made written writes
    obtain ⟨piece, rest, first, others, rfl⟩ := pieces_cons_ok.mp made
    obtain ⟨part, texts, part_eq, texts_eq, rfl⟩ := mapM_cons_ok.mp written
    refine .cons (writes segment List.mem_cons_self piece part first part_eq) ?_
    exact ih others texts_eq fun other mem => writes other (List.mem_cons_of_mem _ mem)

/-- When pieces are rendered, what was remembered is remembered, and what is returned is what the pieces come
to with the results that are remembered then. -/
theorem renderPieces_remembered {schedule : List Nat → Schedule}
    (complete : Schedule.Complete schedule) (stays : engine.Steady version steady)
    (ready : engine.Ready version steady session.rig) {outcome : Except PassError PassResult}
    {after : Session ε}
    (run : renderPieces schedule press settings engine name found session = (outcome, after)) :
    session.cache.Grows after.cache ∧ ∀ result, outcome = .ok result →
      (result.artifacts.map Prod.fst).Nodup ∧
      ∃ rendering : Rendering, rendering.digest = digestUnder settings version engine.root ∧
        (∀ request ∈ found.filterMap Piece.request?,
          after.cache.entry? (rendering.digest request) = some (rendering.answer request)) ∧
        SameOutcome (.ok result) (piecesMeaning press settings rendering name found) := by
  simp only [renderPieces] at run
  cases rendered : renderRequests settings engine (Plan.requests (plansFrom 0 found))
      (onFailure settings ⟨name, found.map Piece.segment⟩)
      (schedule ((Plan.requests (plansFrom 0 found)).map Prod.fst)) [] session with
  | mk ended between =>
    obtain ⟨grows, ready', delivers⟩ := renderRequests_remembered stays
      (onFailure_sparesFiles settings ⟨name, found.map Piece.segment⟩)
      (fun block mem => complete _ block mem) ready rendered
    rw [rendered] at run
    cases ended with
    | error error =>
      obtain ⟨rfl, rfl⟩ := Prod.mk.inj run
      exact ⟨grows, fun result returned => absurd returned (by simp)⟩
    | ok told =>
      obtain ⟨results, noted⟩ := told
      obtain ⟨delivered, answered⟩ := delivers results noted rfl
      let rendering : Rendering :=
        ⟨between.cache.recalled (digestUnder settings version engine.root),
          digestUnder settings version engine.root⟩
      have values : ∀ request ∈ found.filterMap Piece.request?,
          between.cache.entry? (rendering.digest request) = some (rendering.answer request) := by
        intro request mem
        obtain ⟨i, asked⟩ := exists_lookup_requests mem
        obtain ⟨answer, entry⟩ := Option.ne_none_iff_exists'.mp (answered i request asked)
        exact entry.trans (congrArg some (Cache.recalled_eq entry).symm)
      obtain ⟨conclusion, rig, concluded, same, -⟩ := conclude_eq press name between.rig
        (fun rig request ready => (ready.requestDigest settings request).1)
        (fun rig request ready => stays.ready (ready.requestDigest settings request).2) ready'
        delivered (singleImages_of_value (fun _ => Store.isKey_hexDigest _) values)
      simp only [concluded] at run
      obtain ⟨rfl, rfl⟩ := Prod.mk.inj run
      refine ⟨grows, ?_⟩
      rintro result rfl
      exact ⟨nodup_images_of_conclude (congrArg Prod.fst concluded), rendering, rfl, values, same⟩

end Pass

/-- What the pieces of a document come to is coherent with the results of their requests. -/
theorem PassResult.coherent_of_meaning {call : PassCall ε} {result : PassResult} {found : List Piece}
    {rendering : Rendering} {known : Text → Option RenderResult}
    (closed : (scan call.source).unclosed = none)
    (made : Pass.pieces call.settings call.registry call.name (scan call.source).segments = .ok found)
    (digest_eq : rendering.digest = call.digest)
    (values : ∀ request ∈ found.filterMap Piece.request?,
      known (rendering.digest request) = some (rendering.answer request))
    (distinct : (result.artifacts.map Prod.fst).Nodup)
    (same : SameOutcome (.ok result)
      (Pass.piecesMeaning call.press call.settings rendering call.name found)) :
    result.Coherent call known := by
  have typeset_iff (request : Request) : request ∈ found.filterMap Piece.request? ↔
      ∃ text, call.Typesets request text := by
    rw [Pass.mem_requests_iff closed made request]
    constructor
    · rintro ⟨fence, mem, typesets⟩
      exact ⟨_, fence, mem, typesets⟩
    · rintro ⟨text, fence, mem, typesets⟩
      obtain rfl := typesets.assembled
      exact ⟨fence, mem, typesets⟩
  have answer_eq {request : Request} {text : Text} (typesets : call.Typesets request text) :
      known (call.digest request) = some (rendering.answer request) := by
    rw [← digest_eq]
    exact values request ((typeset_iff request).mpr ⟨text, typesets⟩)
  have single : Pass.SingleImages (found.flatMap (Piece.images rendering)) := by
    refine Pass.singleImages_of_value (fun request => ?_) values
    rw [digest_eq]
    exact Store.isKey_hexDigest _
  unfold Pass.piecesMeaning at same
  cases written : found.mapM (Piece.written call.press call.settings rendering call.name) with
  | error error =>
    rw [written] at same
    cases same
  | ok parts =>
    rw [written] at same
    cases same with
    | ok same =>
      refine ⟨fun request text typesets => ?_, distinct, fun image content => ?_, parts, same.output, ?_⟩
      · rw [answer_eq typesets]
        exact Option.some_ne_none _
      · -- the results agree in what they find under a name, and each name stands there once
        have listed : (image, content) ∈ result.artifacts ↔
            (image, content) ∈ found.flatMap (Piece.images rendering) := by
          rw [← lookup_eq_some_iff (single image), ← same.artifacts image]
          exact ⟨lookup_of_mem distinct, mem_of_lookup⟩
        rw [listed, Pass.mem_pieces_images, digest_eq]
        constructor
        · rintro ⟨request, mem, artifact, page, answered, stored, named⟩
          obtain ⟨text, typesets⟩ := (typeset_iff request).mp mem
          exact ⟨request, text, artifact, page, typesets, by rw [answer_eq typesets, answered], stored,
            named⟩
        · rintro ⟨request, text, artifact, page, typesets, entry, stored, named⟩
          rw [answer_eq typesets] at entry
          exact ⟨request, (typeset_iff request).mpr ⟨text, typesets⟩, artifact, page,
            Option.some.inj entry, stored, named⟩
      · refine Pass.forall₂_of_written made written fun segment mem piece part piece_eq part_eq => ?_
        rintro fence request text artifact rfl typesets entry
        rw [answer_eq ⟨fence, mem, typesets⟩] at entry
        rw [← digest_eq]
        exact typesets.embeds piece_eq part_eq (Option.some.inj entry)

/-- A pass keeps what the cache remembers, and if it returns, its result is coherent with what the cache
remembers then. -/
theorem PassCall.run_coherent (call : PassCall ε) (complete : Schedule.Complete call.schedule)
    {session : Session ε} (told : call.engine.OfVersion call.version session.rig) :
    session.cache.Grows (call.run session).2.cache ∧
      ∀ result, (call.run session).1 = .ok result →
        result.Coherent call (call.run session).2.cache.entry? := by
  obtain ⟨host, log, run⟩ := Pass.runWith_eq call.schedule call.press call.settings call.engine
    call.registry call.name call.source session
  unfold PassCall.run
  rw [run]
  cases closed : (scan call.source).unclosed with
  | some openFence => exact ⟨.refl _, fun result returned => absurd returned (by simp)⟩
  | none =>
    cases made : Pass.pieces call.settings call.registry call.name (scan call.source).segments with
    | error error => exact ⟨.refl _, fun result returned => absurd returned (by simp)⟩
    | ok found =>
      obtain ⟨steady, stays, ready⟩ := told
      have ready' : call.engine.Ready call.version steady (session.withHost host).rig :=
        ready.sameFiles log.sameFiles
      simp only
      cases rendered : Pass.renderPieces call.schedule call.press call.settings call.engine call.name found
          (session.withHost host) with
      | mk outcome after =>
        obtain ⟨grows, returns⟩ := Pass.renderPieces_remembered complete stays ready' rendered
        refine ⟨grows, ?_⟩
        rintro result rfl
        obtain ⟨distinct, rendering, digest_eq, values, same⟩ := returns result rfl
        exact PassResult.coherent_of_meaning closed made digest_eq values distinct same

end TypstFences
