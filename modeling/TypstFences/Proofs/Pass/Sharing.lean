import TypstFences.Proofs.Cache.Interruption
import TypstFences.Proofs.Files.Images
import TypstFences.Proofs.Pass.Coherence

/-!
# Passes that share a cache

Passes take turns with a cache, each with settings, a document and an engine of its own (`Turn`). The result
of a digest is settled when the first of them comes to it, and is the same for all that follow. So the names
of images tell their bytes, in one result and in all of them, and the images of all results can be written
into one directory in any order (`shared_cache_names_images`).

This needs engines that keep their version during a pass, since a fence is rendered under the digest that is
told before, and named by the one that is told after; and formats without slashes, since names with slashes
may lead to one file (`moody_and_stray_names`).
-/

set_option autoImplicit false

namespace TypstFences

/-! ## Turns -/

/-- A pass whose turn it is with a cache, and what its engine runs on. -/
structure Turn where
  State : Type
  call : PassCall State
  rig : Rig State

namespace Turn

/-- The pass with a cache, and the cache after it. -/
def run (turn : Turn) (cache : Cache) : Except PassError PassResult × Cache :=
  let done := turn.call.run ⟨cache, turn.rig⟩
  (done.1, done.2.cache)

/-- What the passes come to that take their turns with a cache, and the cache after them. -/
def runAll : List Turn → Cache → List (Turn × Except PassError PassResult) × Cache
  | [], cache => ([], cache)
  | turn :: turns, cache =>
    let (outcome, cache) := turn.run cache
    let (outcomes, cache) := runAll turns cache
    ((turn, outcome) :: outcomes, cache)

/-- Whether a pass delivers every block, and its engine is of one version while it runs. -/
structure Proper (turn : Turn) : Prop where
  complete : Schedule.Complete turn.call.schedule
  told : turn.call.engine.OfVersion turn.call.version turn.rig

/-- Whether a pass returns a result when some passes take their turns with a cache. -/
def Returns (turns : List Turn) (cache : Cache) (turn : Turn) (result : PassResult) : Prop :=
  (turn, .ok result) ∈ (runAll turns cache).1

/-- Two turns. -/
theorem runAll_pair (first second : Turn) (cache : Cache) :
    runAll [first, second] cache =
      ([(first, (first.run cache).1), (second, (second.run (first.run cache).2).1)],
        (second.run (first.run cache).2).2) := rfl

/-- One turn. -/
theorem runAll_single (turn : Turn) (cache : Cache) :
    runAll [turn] cache = ([(turn, (turn.run cache).1)], (turn.run cache).2) := rfl

/-- In a turn the cache forgets nothing, and its result is coherent with what it remembers. -/
theorem run_coherent {turn : Turn} (proper : turn.Proper) (cache : Cache) :
    cache.Grows (turn.run cache).2 ∧ ∀ result, (turn.run cache).1 = .ok result →
      result.Coherent turn.call (Cache.entry? (turn.run cache).2) := by
  have told : turn.call.engine.OfVersion turn.call.version
    (⟨cache, turn.rig⟩ : Session turn.State).rig := proper.told
  exact turn.call.run_coherent proper.complete told

/-- While passes take their turns the cache forgets nothing, and every result is coherent with what it
remembers in the end. -/
theorem runAll_coherent {turns : List Turn} (proper : ∀ turn ∈ turns, turn.Proper) :
    ∀ cache : Cache, cache.Grows (runAll turns cache).2 ∧
      ∀ turn result, Returns turns cache turn result →
        result.Coherent turn.call (Cache.entry? (runAll turns cache).2) := by
  induction turns with
  | nil => exact fun cache => ⟨.refl cache, fun _ _ listed => absurd listed List.not_mem_nil⟩
  | cons first turns ih =>
    intro cache
    obtain ⟨grows, coherent⟩ := run_coherent (proper first List.mem_cons_self) cache
    obtain ⟨grows', others⟩ := ih (fun turn mem => proper turn (List.mem_cons_of_mem _ mem))
      (first.run cache).2
    refine ⟨grows.trans grows', fun turn result listed => ?_⟩
    rcases List.mem_cons.mp listed with now | later
    · obtain ⟨rfl, outcome⟩ := Prod.mk.inj now
      exact (coherent result outcome.symm).mono grows'
    · exact others turn result later

end Turn

/-! ## Names of images in all results -/

namespace PassResult

variable {ε ζ : Type} {call : PassCall ε} {other : PassCall ζ} {known : Text → Option RenderResult}
variable {result more : PassResult} {image : Text} {content bytes : Bytes}

/-- Images of one name in results that are coherent with the same have the same bytes. -/
theorem Coherent.single (h : result.Coherent call known) (h' : more.Coherent other known)
    (mem : (image, content) ∈ result.artifacts) (mem' : (image, bytes) ∈ more.artifacts) :
    content = bytes := by
  obtain ⟨request, -, artifact, page, -, known_eq, stored, name_eq⟩ := (h.images image content).mp mem
  obtain ⟨request', -, artifact', page', -, known_eq', stored', name_eq'⟩ :=
    (h'.images image bytes).mp mem'
  obtain ⟨digests, pages, -⟩ := Store.pageName_inj (Store.isKey_hexDigest _) (Store.isKey_hexDigest _)
    (name_eq.symm.trans name_eq')
  have same : known (call.digest request) = known (other.digest request') := congrArg known digests
  rw [known_eq, known_eq'] at same
  obtain rfl := RenderResult.artifact.inj (Option.some.inj same)
  obtain rfl : page = page' := by omega
  exact Option.some.inj (stored.symm.trans stored')

/-- Whether the names of the images of a result have no slashes. -/
def Flat (result : PassResult) : Prop := ∀ image ∈ result.artifacts, '/' ∉ image.1

/-- The images of a flat result have single names. -/
theorem Coherent.isName (h : result.Coherent call known) (flat : result.Flat) :
    ∀ image ∈ result.artifacts, Path.IsName image.1 := by
  rintro ⟨image, content⟩ mem
  obtain ⟨request, -, artifact, page, -, -, -, rfl⟩ := (h.images image content).mp mem
  refine Store.pageName_isName (Store.isKey_hexDigest _) (page + 1) ?_
  have noSlash := flat _ mem
  intro slash
  exact noSlash (by simp [Store.pageName, slash])

end PassResult

/-- When passes take their turns with a cache, with engines that keep their versions, the images of every
result that is returned are the pages of its typeset fences, named by their digests and embedded in order, and
images of the same name have the same bytes in all these results. Hence images with names without slashes may
be written into one directory in any order: those of a result that are there, and all of them after they were
written without a fault, are there with their bytes whichever results are written after them. -/
theorem shared_cache_names_images (turns : List Turn) (proper : ∀ turn ∈ turns, turn.Proper)
    (cache : Cache) :
    (∀ turn result, Turn.Returns turns cache turn result →
      result.Coherent turn.call (Cache.entry? (Turn.runAll turns cache).2)) ∧
    (∀ turn result other more, Turn.Returns turns cache turn result →
      Turn.Returns turns cache other more → ∀ image content bytes,
        (image, content) ∈ result.artifacts → (image, bytes) ∈ more.artifacts → content = bytes) ∧
    ∀ (directory : Path) (written : List PassResult) (result : PassResult) (host : Host),
      (∀ more ∈ result :: written, more.Flat ∧ ∃ turn, Turn.Returns turns cache turn more) →
        (∀ image content, (image, content) ∈ result.artifacts →
          host.content (directory.child image) = .ok content →
            (host.fillAll directory (written.map PassResult.artifacts)).content
              (directory.child image) = .ok content) ∧
        ((host.fillDirectory directory result.artifacts).1 = .ok () →
          ∀ image content, (image, content) ∈ result.artifacts →
            ((host.fillDirectory directory result.artifacts).2.fillAll directory
              (written.map PassResult.artifacts)).content (directory.child image) = .ok content) := by
  obtain ⟨-, coherent⟩ := Turn.runAll_coherent proper cache
  have single (turn : Turn) (result : PassResult) (other : Turn) (more : PassResult)
      (returned : Turn.Returns turns cache turn result) (returned' : Turn.Returns turns cache other more)
      (image : Text) (content bytes : Bytes) :
      (image, content) ∈ result.artifacts → (image, bytes) ∈ more.artifacts → content = bytes :=
    (coherent turn result returned).single (coherent other more returned')
  refine ⟨coherent, single, fun directory written result host listed => ?_⟩
  obtain ⟨⟨flat, turn, returned⟩, others⟩ := List.forall_mem_cons.mp listed
  have isName := (coherent turn result returned).isName flat
  have keeps {image : Text} {content : Bytes} (mem : (image, content) ∈ result.artifacts) {host : Host}
      (there : host.content (directory.child image) = .ok content) :
      (host.fillAll directory (written.map PassResult.artifacts)).content (directory.child image) =
        .ok content := by
    refine Host.fillAll_keeps (isName _ mem) (fun images listed => ?_) (fun images listed => ?_) there
    · obtain ⟨more, more_mem, rfl⟩ := List.mem_map.mp listed
      obtain ⟨flat', other, returned'⟩ := others more more_mem
      exact (coherent other more returned').isName flat'
    · obtain ⟨more, more_mem, rfl⟩ := List.mem_map.mp listed
      obtain ⟨-, other, returned'⟩ := others more more_mem
      exact fun bytes mem' =>
        (single turn result other more returned returned' image content bytes mem mem').symm
  refine ⟨fun image content mem there => keeps mem there, fun done image content mem => ?_⟩
  exact keeps mem (Host.fillDirectory_writes isName
    (fun image content bytes => single turn result turn result returned returned image content bytes) done
    image content mem)

/-! ## Turns on a bare host -/

/-- A pass over one block that embeds nothing but paths, with an engine that makes one artifact of
everything. -/
def pathCall (artifact : Artifact) : PassCall Unit :=
  { oneBlockCall artifact with settings := pathSettings }

/-- The turn of this pass. -/
def oneBlockTurn (artifact : Artifact) : Turn := ⟨Unit, pathCall artifact, bareRig⟩

/-- The turn is as it should be. -/
theorem oneBlockTurn_proper (artifact : Artifact) : (oneBlockTurn artifact).Proper where
  complete := Schedule.inOrder_complete
  told := ⟨fun _ => True, ⟨fun _ _ => rfl, fun _ _ => trivial, fun _ _ _ => trivial⟩,
    fun _ _ => ⟨rfl, trivial⟩⟩

/-- The block is typeset. -/
theorem pathCall_typesets (artifact : Artifact) :
    ∃ text, (pathCall artifact).Typesets ⟨"x\n".toList, true⟩ text := by
  have there : .fence ⟨"```typ\n".toList, "x\n".toList, "```\n".toList, ⟨[], 3, "typ".toList⟩, 1⟩ ∈
      (scan oneBlock).segments := by decide
  have read : Directive.read Registry.typst "typ".toList = .ok ⟨"typ".toList, []⟩ := by decide
  have planned : Plan.ofDirective? pathSettings Registry.typst ⟨"typ".toList, []⟩
      ⟨"```typ\n".toList, "x\n".toList, "```\n".toList, ⟨[], 3, "typ".toList⟩, 1⟩ =
        some (.render ⟨"x\n".toList, true⟩ "x\n".toList) := by decide
  exact ⟨_, _, there, Fence.typesets_iff.mpr ⟨_, _, read, planned⟩⟩

/-- The artifact that is made does not change the digest. -/
theorem pathCall_digest (artifact other : Artifact) (request : Request) :
    (pathCall artifact).digest request = (pathCall other).digest request := rfl

/-- The images that a pass comes to. -/
def imagesOf : Except PassError PassResult → List (Text × Bytes)
  | .ok result => result.artifacts
  | .error _ => []

/-- The images of a pass that has a result. -/
theorem imagesOf_of_hasResult {outcome : Except PassError PassResult} (returned : hasResult outcome = true) :
    ∃ result, outcome = .ok result ∧ imagesOf outcome = result.artifacts := by
  obtain ⟨result, rfl⟩ := ok_of_hasResult returned
  exact ⟨result, rfl, rfl⟩

/-- When the engines of two passes over one block make different artifacts, the images of the last one are
the pages of the first one too, and both can be written into one directory. -/
theorem first_pages_for_both :
    ∃ result more,
      Turn.Returns [oneBlockTurn Store.twoPages, oneBlockTurn onePage] (Cache.new none)
        (oneBlockTurn Store.twoPages) result ∧
      Turn.Returns [oneBlockTurn Store.twoPages, oneBlockTurn onePage] (Cache.new none)
        (oneBlockTurn onePage) more ∧
      ∀ page content, Store.twoPages.pages[page]? = some content → ∃ image,
        image = Store.pageName ((pathCall onePage).digest ⟨"x\n".toList, true⟩) (page + 1)
          "svg".toList ∧
        (image, content) ∈ result.artifacts ∧ (image, content) ∈ more.artifacts ∧
        ((bareRig.host.fillDirectory (Path.ofText cacheName) result.artifacts).2.fillAll
          (Path.ofText cacheName) [more.artifacts]).content ((Path.ofText cacheName).child image) =
            .ok content := by
  have proper : ∀ turn ∈ [oneBlockTurn Store.twoPages, oneBlockTurn onePage], turn.Proper := by
    simp only [List.forall_mem_cons, List.not_mem_nil, false_implies, implies_true, and_true]
    exact ⟨oneBlockTurn_proper Store.twoPages, oneBlockTurn_proper onePage⟩
  obtain ⟨coherent, -, keeps⟩ := shared_cache_names_images _ proper (Cache.new none)
  unfold Turn.Returns at coherent keeps ⊢
  rw [Turn.runAll_pair] at coherent keeps ⊢
  have checked : (hasResult ((oneBlockTurn Store.twoPages).run (Cache.new none)).1 = true ∧
      hasResult ((oneBlockTurn onePage).run
        ((oneBlockTurn Store.twoPages).run (Cache.new none)).2).1 = true) ∧
      ((∀ image ∈ imagesOf ((oneBlockTurn Store.twoPages).run (Cache.new none)).1, '/' ∉ image.1) ∧
        ∀ image ∈ imagesOf ((oneBlockTurn onePage).run
          ((oneBlockTurn Store.twoPages).run (Cache.new none)).2).1, '/' ∉ image.1) ∧
      (bareRig.host.fillDirectory (Path.ofText cacheName)
        (imagesOf ((oneBlockTurn Store.twoPages).run (Cache.new none)).1)).1 = .ok () ∧
      Cache.entry? ((oneBlockTurn onePage).run
        ((oneBlockTurn Store.twoPages).run (Cache.new none)).2).2
          ((pathCall onePage).digest ⟨"x\n".toList, true⟩) = some (.artifact Store.twoPages) := by
    decide +kernel
  -- what the passes come to is not looked at again
  generalize (oneBlockTurn Store.twoPages).run (Cache.new none) = first at coherent keeps checked ⊢
  generalize (oneBlockTurn onePage).run first.2 = second at coherent keeps checked ⊢
  obtain ⟨⟨returned, returned'⟩, ⟨flat, flat'⟩, filled, known⟩ := checked
  obtain ⟨result, result_eq, images_eq⟩ := imagesOf_of_hasResult returned
  obtain ⟨more, more_eq, images_eq'⟩ := imagesOf_of_hasResult returned'
  rw [images_eq] at flat filled
  rw [images_eq'] at flat'
  rw [result_eq, more_eq] at coherent keeps ⊢
  refine ⟨result, more, by simp, by simp, fun page content stored => ⟨_, rfl, ?_⟩⟩
  have listed (artifact : Artifact) {result : PassResult}
      (h : result.Coherent (pathCall artifact) (Cache.entry? second.2)) :
      (Store.pageName ((pathCall onePage).digest ⟨"x\n".toList, true⟩) (page + 1) "svg".toList,
        content) ∈ result.artifacts := by
    obtain ⟨text, typesets⟩ := pathCall_typesets artifact
    rw [h.images]
    refine ⟨_, text, Store.twoPages, page, typesets, ?_, stored, ?_⟩
    · rw [pathCall_digest artifact onePage, known]
    · rw [pathCall_digest artifact onePage]
      rfl
  have mem := listed Store.twoPages (coherent (oneBlockTurn Store.twoPages) result (by simp))
  refine ⟨mem, listed onePage (coherent (oneBlockTurn onePage) more (by simp)), ?_⟩
  refine (keeps (Path.ofText cacheName) [more] result bareRig.host ?_).2 filled _ _ mem
  rw [List.forall_mem_cons, List.forall_mem_cons]
  exact ⟨⟨flat, oneBlockTurn Store.twoPages, by simp⟩, ⟨flat', oneBlockTurn onePage, by simp⟩, by simp⟩

/-- An engine that tells the other one of two versions whenever it is asked. -/
def moodyEngine : Engine Bool where
  root := none
  version := fun rig =>
    (.ok (if rig.state then "1".toList else "2".toList), { rig with state := !rig.state })
  compile := fun _ rig => (.finished (.artifact onePage), rig)

/-- The turn of a pass over one block with such an engine. -/
def moodyTurn : Turn where
  State := Bool
  call := ⟨Schedule.inOrder, barePress, pathSettings, moodyEngine, "1".toList, Registry.typst, "d.md".toList,
    oneBlock⟩
  rig := ⟨true, [], bareRig.host⟩

/-- The turn of a pass over the block with an engine of the second version. -/
def secondTurn : Turn where
  State := Unit
  call := ⟨Schedule.inOrder, barePress, pathSettings,
    Engine.pure "2".toList none fun _ => .artifact Store.twoPages, "2".toList, Registry.typst,
    "d.md".toList, oneBlock⟩
  rig := bareRig

/-- Two pages in a format that leads to one name. -/
def strayPages : Artifact := ⟨[[7, 8], [9]], "svg/../z.svg".toList⟩

/-- A way to a directory through directories that have the names of the pages of the block. -/
def strayDirectory : Path :=
  Path.ofText ("img/".toList ++
    Store.pageName ((pathCall strayPages).digest ⟨"x\n".toList, true⟩) 1 "svg".toList ++
    "/../".toList ++
    Store.pageName ((pathCall strayPages).digest ⟨"x\n".toList, true⟩) 2 "svg".toList ++
    "/..".toList)

/-- When an engine tells a block and its image different versions, the image has a name that is that of an
image with other bytes in the next result. And images of one result in a format with slashes are written
over each other in a directory where their names lead to one file. -/
theorem moody_and_stray_names :
    (∃ result more image content bytes,
      Turn.Returns [moodyTurn, secondTurn] (Cache.new none) moodyTurn result ∧
      Turn.Returns [moodyTurn, secondTurn] (Cache.new none) secondTurn more ∧
      (image, content) ∈ result.artifacts ∧ (image, bytes) ∈ more.artifacts ∧ content ≠ bytes) ∧
    (oneBlockTurn strayPages).Proper ∧
      ∃ result image content bytes,
        Turn.Returns [oneBlockTurn strayPages] (Cache.new none) (oneBlockTurn strayPages) result ∧
        (image, content) ∈ result.artifacts ∧
        (bareRig.host.fillDirectory strayDirectory result.artifacts).1 = .ok () ∧
        (bareRig.host.fillDirectory strayDirectory result.artifacts).2.content
          (strayDirectory.child image) = .ok bytes ∧ content ≠ bytes := by
  have moody : (hasResult (moodyTurn.run (Cache.new none)).1 = true ∧
      hasResult (secondTurn.run (moodyTurn.run (Cache.new none)).2).1 = true) ∧
      ∃ image ∈ imagesOf (moodyTurn.run (Cache.new none)).1,
        ∃ other ∈ imagesOf (secondTurn.run (moodyTurn.run (Cache.new none)).2).1,
          image.1 = other.1 ∧ image.2 ≠ other.2 := by
    decide +kernel
  have stray : hasResult ((oneBlockTurn strayPages).run (Cache.new none)).1 = true ∧
      (bareRig.host.fillDirectory strayDirectory
        (imagesOf ((oneBlockTurn strayPages).run (Cache.new none)).1)).1 = .ok () ∧
      ∃ image ∈ imagesOf ((oneBlockTurn strayPages).run (Cache.new none)).1, image.2 = [7, 8] ∧
        (bareRig.host.fillDirectory strayDirectory
          (imagesOf ((oneBlockTurn strayPages).run (Cache.new none)).1)).2.content
            (strayDirectory.child image.1) = .ok [9] := by
    decide +kernel
  unfold Turn.Returns
  rw [Turn.runAll_pair, Turn.runAll_single]
  constructor
  · generalize moodyTurn.run (Cache.new none) = first at moody ⊢
    generalize secondTurn.run first.2 = second at moody ⊢
    obtain ⟨⟨returned, returned'⟩, ⟨image, content⟩, mem, ⟨other, bytes⟩, mem', same, distinct⟩ := moody
    obtain ⟨result, result_eq, images_eq⟩ := imagesOf_of_hasResult returned
    obtain ⟨more, more_eq, images_eq'⟩ := imagesOf_of_hasResult returned'
    obtain rfl : image = other := same
    rw [images_eq] at mem
    rw [images_eq'] at mem'
    rw [result_eq, more_eq]
    exact ⟨result, more, image, content, bytes, by simp, by simp, mem, mem', distinct⟩
  · refine ⟨oneBlockTurn_proper strayPages, ?_⟩
    generalize (oneBlockTurn strayPages).run (Cache.new none) = done at stray ⊢
    obtain ⟨returned, filled, ⟨image, content⟩, mem, content_eq, there⟩ := stray
    obtain ⟨result, result_eq, images_eq⟩ := imagesOf_of_hasResult returned
    obtain rfl : content = [7, 8] := content_eq
    rw [images_eq] at mem filled there
    rw [result_eq]
    exact ⟨result, image, [7, 8], [9], by simp, mem, filled, there, by simp⟩

end TypstFences
