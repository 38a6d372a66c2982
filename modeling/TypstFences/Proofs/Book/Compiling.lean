import TypstFences.Proofs.Book.Visiting
import TypstFences.Proofs.Pass.Sequence
import TypstFences.Proofs.Settings.Override

/-!
# The chapters of a book are compiled

What a chapter comes to is foretold at the start of a visit, as if it were the only one, under the settings
for its directory (`Outset.outcome`). One chapter after the other comes to this, with all of them sharing a
cache and those of one directory an engine, if what is made and written for a chapter keeps out of the names
that the cache has for the blocks of the others (`Outset.Orderly`). The run ends with the first chapter that
has no result, or because the file system refuses a file of the visit (`Outset.runStops_comesTo`).
-/

set_option autoImplicit false

namespace TypstFences.Book

variable {ε : Type}

/-! ## Chapters -/

/-- What is compiled of a chapter: its content, under its name in messages, with its directory for the engine
and the images. -/
structure Chapter where
  directory : Path
  name : Text
  content : Text

/-- What is compiled of a chapter with some fields; fields of the wrong shape count as missing. -/
def Chapter.ofFields (source : Path) (fields : Fields) : Chapter where
  directory := (chapterDirectory source (.object fields)).toOption.getD source
  name := chapterName (.object fields)
  content := (chapterContent (.object fields)).toOption.getD []

/-- Whether the fields of a chapter have the right shape. -/
structure Fields.Proper (source : Path) (fields : Fields) : Prop where
  directory : chapterDirectory source (.object fields) = .ok (Chapter.ofFields source fields).directory
  content : chapterContent (.object fields) = .ok (Chapter.ofFields source fields).content

/-- What is known of a visit at its start: what stays the same in it, the version and the answers of the
engines, and the world. -/
structure Outset (ε : Type) where
  shop : Shop ε
  version : Text
  answer : Answer
  world : World ε

/-- The settings for the chapters of a directory: it is the root of the engine, unless one is set. -/
def Shop.settingsIn (shop : Shop ε) (directory : Path) : Settings :=
  match shop.settings.engineRoot with
  | some _ => shop.settings
  | none => { shop.settings with engineRoot := some directory.text }

/-- The session of a world, with an engine as it is made. -/
def Shop.session (shop : Shop ε) (world : World ε) : Session ε :=
  ⟨world.cache, ⟨shop.maker.state, [], world.host⟩⟩

namespace Outset

variable {validator : Validator} {outset : Outset ε} {chapter : Chapter} {chapters all : List Chapter}
variable {world : World ε}

/-- The pass over a chapter, with objects where they stand on an empty host. -/
def call (outset : Outset ε) (chapter : Chapter) : PassCall ε where
  schedule := Schedule.inOrder
  press := outset.shop.presses.at default
  settings := outset.shop.settingsIn chapter.directory
  engine := outset.shop.maker.make (outset.shop.settingsIn chapter.directory) outset.world.host.here
  version := outset.version
  registry := Registry.typst
  name := chapter.name
  source := chapter.content

/-- The session at the start of the visit. -/
def start (outset : Outset ε) : Session ε := outset.shop.session outset.world

/-- What a chapter comes to. -/
def outcome (outset : Outset ε) (chapter : Chapter) : Except PassError PassResult :=
  (outset.call chapter).foretold outset.answer outset.start

/-- The directory of the images beside a chapter. -/
def imageDirectory (outset : Outset ε) (chapter : Chapter) : Path :=
  chapter.directory.child outset.shop.settings.imageDir

/-- The edits that the images of a chapter are written by. -/
def Writes (outset : Outset ε) (chapter : Chapter) (edit : Edit) : Prop :=
  ∃ result, outset.outcome chapter = .ok result ∧ result.artifacts ≠ [] ∧
    match edit with
    | .directory place => (outset.imageDirectory chapter).Passes outset.world.host.here place
    | .file place content => Host.Writes outset.world.host.here
        (Host.filesIn (outset.imageDirectory chapter) result.artifacts) (.file place content)
    | .removal _ => False

/-- Whether what is made and written for chapters keeps out of the names that the cache has for blocks: no
name with a slash is given to the directory of the cache, none that belongs to a block is made on the way to a
chapter, and none is written with the images of a chapter that belongs to a block of a later chapter alone. -/
structure Tidy (outset : Outset ε) (path : Path) (chapters : List Chapter) : Prop where
  made : ∀ chapter ∈ chapters, ∀ name, chapter.directory.Passes outset.world.host.here
    (path.resolve outset.world.host.here ++ [name]) →
      '/' ∉ name ∧ ∀ key, keysOf (chapters.map outset.call) key → ¬Store.Concerns key name
  clean : ∀ chapter ∈ chapters, ∀ edit, outset.Writes chapter edit → ∀ name,
    edit.place = path.resolve outset.world.host.here ++ [name] → '/' ∉ name
  free : chapters.Pairwise fun first second => ∀ edit, outset.Writes first edit → ∀ name,
    edit.place = path.resolve outset.world.host.here ++ [name] →
      ∀ key, (outset.call second).keys key → ¬(outset.call first).keys key → ¬Store.Concerns key name

/-- What is tidy for some chapters is so for the later ones. -/
theorem Tidy.tail {path : Path} (h : outset.Tidy path (chapter :: chapters)) : outset.Tidy path chapters where
  made other mem name passes :=
    have made := h.made other (List.mem_cons_of_mem _ mem) name passes
    ⟨made.1, fun key ⟨call, listed, asked⟩ => made.2 key ⟨call, List.mem_cons_of_mem _ listed, asked⟩⟩
  clean other mem := h.clean other (List.mem_cons_of_mem _ mem)
  free := (List.pairwise_cons.mp h.free).2

/-- What is assumed of a visit: the settings are valid in sound surroundings, and what blocks come to can be
written and does not show where objects stand; the engines for the chapters answer as they should and change
no files; different payloads have different digests; and the directory of the cache is clear and is kept
tidy. -/
structure Orderly (validator : Validator) (outset : Outset ε) (chapters : List Chapter) : Prop where
  sound : outset.shop.ambient.Sound validator
  valid : outset.shop.settings.Valid validator
  embeds : outset.shop.settings.Embeds outset.shop.presses.highlighter
  steady : outset.shop.settings.Steady
  answers : ∀ chapter ∈ chapters, (outset.call chapter).engine.Answers outset.version
    ((outset.call chapter).answerTo outset.answer)
  spares : ∀ chapter ∈ chapters, (outset.call chapter).engine.SparesFiles
  noCollisions : NoCollisions (chapters.map outset.call)
  clear : ∀ path, outset.world.cache.directory = some path →
    Store.Clear path (keysOf (chapters.map outset.call)) outset.world.host
  tidy : ∀ path, outset.world.cache.directory = some path → outset.Tidy path chapters

/-- The pass over a chapter of an orderly visit is in order. -/
theorem Orderly.inOrder (h : outset.Orderly validator chapters) (mem : chapter ∈ chapters) :
    (outset.call chapter).InOrder outset.answer := by
  refine ⟨rfl, h.answers chapter mem, h.spares chapter mem, ?_⟩
  show (outset.shop.settingsIn chapter.directory).Embeds outset.shop.presses.highlighter
  unfold Shop.settingsIn
  split
  · exact h.embeds
  · exact ⟨h.embeds.template, h.embeds.style⟩

/-- What it comes to does not show where objects stand. -/
theorem Orderly.steadyCall (h : outset.Orderly validator chapters) (chapter : Chapter) :
    (outset.call chapter).settings.Steady := by
  show (outset.shop.settingsIn chapter.directory).Steady
  unfold Shop.settingsIn
  split
  · exact h.steady
  · exact h.steady

/-! ## The files of a visit -/

/-- The chapters that a visit comes to: all of them, or those up to the first one without a result. -/
def reached (outset : Outset ε) : List Chapter → List Chapter
  | [] => []
  | chapter :: chapters =>
    match outset.outcome chapter with
    | .ok _ => chapter :: outset.reached chapters
    | .error _ => [chapter]

/-- A visit comes to no chapters but those that it is for. -/
theorem reached_subset (outset : Outset ε) (chapters : List Chapter) :
    outset.reached chapters ⊆ chapters := by
  induction chapters with
  | nil => exact List.Subset.refl _
  | cons chapter chapters ih =>
    rw [reached]
    cases outset.outcome chapter with
    | ok result => exact List.cons_subset_cons _ ih
    | error error => exact List.cons_subset_cons _ (List.nil_subset _)

/-- A visit always comes to its first chapter. -/
theorem mem_reached (outset : Outset ε) (chapter : Chapter) (chapters : List Chapter) :
    chapter ∈ outset.reached (chapter :: chapters) := by
  rw [reached]
  cases outset.outcome chapter <;> exact List.mem_cons_self

/-- The edits of a visit that comes to some chapters: directories on the way to them are made, and the
artifacts of their blocks are saved and their images written. -/
def Edits (outset : Outset ε) (chapters : List Chapter) (edit : Edit) : Prop :=
  ∃ chapter ∈ chapters,
    (∃ place, edit = .directory place ∧ chapter.directory.Passes outset.world.host.here place) ∨
      outset.start.Saves (valueOf outset.answer [outset.call chapter]) (outset.call chapter).keys edit ∨
      outset.Writes chapter edit

/-- Whether the file system refuses a file to a visit that comes to some chapters: after some of the edits of
the visit, the directory of one of them cannot be made, an artifact of one of its blocks cannot be looked for
or kept in the directory of the cache, or its images cannot be written. -/
inductive Refuses (outset : Outset ε) (chapters : List Chapter) (fault : FileError) : Prop
  | directory {chapter : Chapter} {host : Host} (listed : chapter ∈ chapters)
      (edited : Host.Edited (outset.Edits chapters) outset.world.host host)
      (refused : (host.ensureDirectories chapter.directory).1 = .error fault) :
      Refuses outset chapters fault
  | artifact {chapter : Chapter} {between : Session ε} (listed : chapter ∈ chapters)
      (directory : between.cache.directory = outset.world.cache.directory)
      (edited : Host.Edited (outset.Edits chapters) outset.world.host between.rig.host)
      (refuses : between.Refuses (valueOf outset.answer [outset.call chapter]) (outset.call chapter).keys
        fault) : Refuses outset chapters fault
  | images {chapter : Chapter} {result : PassResult} {host : Host} (listed : chapter ∈ chapters)
      (outcome : outset.outcome chapter = .ok result) (nonempty : result.artifacts ≠ [])
      (edited : Host.Edited (outset.Edits chapters) outset.world.host host)
      (refused : (host.fillDirectory (outset.imageDirectory chapter) result.artifacts).1 = .error fault) :
      Refuses outset chapters fault

/-! ## Benches -/

/-- Whether all benches of a world have the settings for their directories. -/
def Fits (shop : Shop ε) (world : World ε) : Prop :=
  ∀ bench ∈ world.benches, bench.settings = shop.settingsIn bench.directory

/-- The settings for a directory come of those of the shop by a change. -/
theorem override_rootEntries {shop : Shop ε} (sound : shop.ambient.Sound validator)
    (valid : shop.settings.Valid validator) (directory : Path) :
    Settings.override shop.ambient shop.settings (rootEntries shop directory) =
      .ok (shop.settingsIn directory) := by
  unfold rootEntries Shop.settingsIn
  cases shop.settings.engineRoot with
  | some root => rfl
  | none => exact Settings.override_engineRoot sound valid directory.text

/-- There is a bench for every directory, with the settings for it. -/
theorem benchFor_eq {shop : Shop ε} (sound : shop.ambient.Sound validator)
    (valid : shop.settings.Valid validator) (fits : Fits shop world) (directory : Path) :
    ∃ bench after, benchFor shop directory world = (.ok bench, after) ∧ bench.directory = directory ∧
      bench.settings = shop.settingsIn directory ∧ after.cache = world.cache ∧ after.host = world.host ∧
      after.failures = world.failures ∧ Fits shop after := by
  unfold benchFor
  cases found : world.benches.find? fun bench => bench.directory == directory with
  | some bench =>
    have same : bench.directory = directory := by simpa using List.find?_some found
    exact ⟨bench, world, rfl, same, same ▸ fits bench (List.mem_of_find?_eq_some found), rfl, rfl, rfl, fits⟩
  | none =>
    simp only [World.override, override_rootEntries sound valid directory]
    refine ⟨_, _, rfl, rfl, rfl, rfl, rfl, rfl, fun bench mem => ?_⟩
    rcases List.mem_append.mp mem with old | new
    · exact fits bench old
    · obtain rfl := List.mem_singleton.mp new
      rfl

/-- Benches still have the settings for their directories when one is used. -/
theorem fits_replaceBench {shop : Shop ε} {bench : Bench ε} (fits : Fits shop world)
    (settings : bench.settings = shop.settingsIn bench.directory) :
    ∀ other ∈ replaceBench bench world.benches, other.settings = shop.settingsIn other.directory := by
  intro other mem
  obtain ⟨old, listed, rfl⟩ := List.mem_map.mp mem
  split
  · exact settings
  · exact fits old listed

/-! ## One chapter -/

/-- An operation on the files of a world is refused, or done. -/
theorem World.change_cases (world : World ε) (operation : Host → Except FileError Unit × Host) :
    (∃ fault changed, world.change operation = (.error (.pass (.refusedFile fault)), changed) ∧
        (operation world.host).1 = .error fault) ∨
      ∃ host, operation world.host = (.ok (), host) ∧
        world.change operation = (.ok (), { world with host := host }) := by
  unfold World.change
  generalize operation world.host = done
  obtain ⟨outcome, host⟩ := done
  cases outcome with
  | error fault => exact .inl ⟨fault, _, rfl, rfl⟩
  | ok => exact .inr ⟨host, rfl, rfl⟩

/-- Whether a visit can come to chapters in a world, among all that it comes to: the benches are in order, no
files were edited but those of the visit and nothing was forgotten, and what was foretold for the chapters is
still expected. -/
structure Ready (outset : Outset ε) (all chapters : List Chapter) (world : World ε) : Prop where
  fits : Fits outset.shop world
  among : outset.reached chapters ⊆ all
  edited : Host.Edited (outset.Edits all) outset.world.host world.host
  kept : ∀ key, outset.world.cache.entry? key ≠ none → world.cache.entry? key ≠ none
  noCollisions : NoCollisions (chapters.map outset.call)
  tidy : ∀ path, outset.world.cache.directory = some path → outset.Tidy path chapters
  expects : Session.Expects (valueOf outset.answer (chapters.map outset.call)) outset.start
    (outset.shop.session world)

/-- The world with the failures of a chapter. -/
def tell (world : World ε) (result : PassResult) : World ε :=
  { world with failures := world.failures ++ result.failures }

/-- A chapter of the right shape is compiled in these steps. -/
theorem compileChapter_eq {shop : Shop ε} {fields : Fields} (proper : fields.Proper shop.source)
    (world : World ε) :
    compileChapter shop (.object fields) world =
      match world.change fun host =>
        host.ensureDirectories (Chapter.ofFields shop.source fields).directory with
      | (.error fault, world) => (.error fault, world)
      | (.ok (), world) =>
        match benchFor shop (Chapter.ofFields shop.source fields).directory world with
        | (.error fault, world) => (.error fault, world)
        | (.ok bench, world) =>
          match passAt shop bench (Chapter.ofFields shop.source fields).name
              (Chapter.ofFields shop.source fields).content world with
          | (.error error, world) => (.error (.pass error), world)
          | (.ok result, world) =>
            match writeImages shop (Chapter.ofFields shop.source fields).directory result
                (tell world result) with
            | (.ok (), world) => (.ok result.output, world)
            | (.error fault, world) => (.error fault, world) := by
  unfold compileChapter
  rw [proper.directory]
  simp only [proper.content]
  rfl

/-- The directory of a chapter is made, unless the file system refuses it, and the chapters are still to come
to what was foretold. -/
theorem Ready.made (ready : outset.Ready all (chapter :: chapters) world) :
    (∃ fault changed, world.change (fun host => host.ensureDirectories chapter.directory) =
        (.error (.pass (.refusedFile fault)), changed) ∧ outset.Refuses all fault) ∨
      ∃ host, world.change (fun host => host.ensureDirectories chapter.directory) =
          (.ok (), { world with host := host }) ∧
        outset.Ready all (chapter :: chapters) { world with host := host } := by
  have listed : chapter ∈ all := ready.among (mem_reached outset chapter chapters)
  rcases World.change_cases world (fun host => host.ensureDirectories chapter.directory) with
    ⟨fault, changed, ended, refused⟩ | ⟨host, done, changed⟩
  · exact .inl ⟨fault, changed, ended, .directory listed ready.edited refused⟩
  · have edited : Host.Edited (fun edit => ∃ place, edit = .directory place ∧
        chapter.directory.Passes world.host.here place) world.host
          (world.host.ensureDirectories chapter.directory).2 :=
      world.host.edited_ensureDirectories fun place passes => ⟨place, rfl, passes⟩
    rw [done] at edited
    have here_eq : world.host.here = outset.world.host.here := ready.expects.here
    refine .inr ⟨host, changed, ready.fits, ready.among, ready.edited.trans (edited.mono ?_), ready.kept,
      ready.noCollisions, ready.tidy, ?_⟩
    · rintro edit ⟨place, rfl, passes⟩
      rw [here_eq] at passes
      exact ⟨chapter, listed, .inl ⟨place, rfl, passes⟩⟩
    refine ready.expects.edited (fun key => isKey_of_valueOf) edited fun path used edit made name same => ?_
    obtain ⟨place, rfl, passes⟩ := made
    have used' : outset.world.cache.directory = some path := ready.expects.directory.symm.trans used
    obtain rfl : place = path.resolve world.host.here ++ [name] := same
    rw [here_eq] at passes
    obtain ⟨clean, free⟩ := (ready.tidy path used').made chapter List.mem_cons_self name passes
    exact ⟨clean, fun key opened => free key (keysOf_of_valueOf opened.1)⟩

/-- Images are written by edits that were foretold. -/
theorem edited_writeImages {result : PassResult} (outcome : outset.outcome chapter = .ok result)
    (here : world.host.here = outset.world.host.here) :
    (∃ fault changed, writeImages outset.shop chapter.directory result world =
        (.error (.pass (.refusedFile fault)), changed) ∧ result.artifacts ≠ [] ∧
          (world.host.fillDirectory (outset.imageDirectory chapter) result.artifacts).1 = .error fault) ∨
      ∃ host, writeImages outset.shop chapter.directory result world = (.ok (), { world with host := host }) ∧
        Host.Edited (outset.Writes chapter) world.host host := by
  unfold writeImages
  split
  · exact .inr ⟨world.host, rfl, .refl _⟩
  · rename_i some_artifacts
    have nonempty : result.artifacts ≠ [] := fun none => some_artifacts (by rw [none]; rfl)
    rcases World.change_cases world (fun host => host.fillDirectory (chapter.directory.child
      outset.shop.settings.imageDir) result.artifacts) with
    ⟨fault, changed, ended, refused⟩ | ⟨host, done, changed⟩
    · exact .inl ⟨fault, changed, ended, nonempty, refused⟩
    · refine .inr ⟨host, changed, ?_⟩
      have edited : Host.Edited (outset.Writes chapter) world.host
          (world.host.fillDirectory (outset.imageDirectory chapter) result.artifacts).2 := by
        refine world.host.edited_fillDirectory (fun place passes => ⟨result, outcome, nonempty, ?_⟩)
          fun image mem => ⟨result, outcome, nonempty, ?_⟩
        · rw [here] at passes
          exact passes
        · exact ⟨_, Host.mem_filesIn mem, by rw [here]⟩
      rw [imageDirectory, done] at edited
      exact edited

/-- The session of a world at a bench. -/
def sessionAt (bench : Bench ε) (world : World ε) : Session ε :=
  ⟨world.cache, ⟨bench.state, bench.submitted, world.host⟩⟩

/-- The world after a pass at a bench, with what the pass leaves. -/
def leave (bench : Bench ε) (world : World ε) (session : Session ε) : World ε :=
  { world with
    benches := replaceBench { bench with state := session.rig.state, submitted := session.rig.submitted }
      world.benches
    cache := session.cache
    host := session.rig.host }

/-- The pass over a chapter with objects where they stand in a world. -/
def callIn (outset : Outset ε) (world : World ε) (chapter : Chapter) : PassCall ε :=
  (outset.call chapter).again (outset.call chapter).schedule (outset.shop.presses.address world.host)

/-- A chapter is passed over at the bench for its directory as in a call. -/
theorem passAt_eq {bench : Bench ε} (settings : bench.settings = outset.shop.settingsIn chapter.directory)
    (here : world.host.here = outset.world.host.here) :
    passAt outset.shop bench chapter.name chapter.content world =
      (((outset.callIn world chapter).run (sessionAt bench world)).1,
        leave bench world ((outset.callIn world chapter).run (sessionAt bench world)).2) := by
  unfold passAt leave
  rw [settings, here]
  rfl

/-- What a pass at a bench saves could have been saved at the start. -/
theorem Ready.saves {bench : Bench ε} {edit : Edit} (ready : outset.Ready all chapters world)
    (saves : (sessionAt bench world).Saves (valueOf outset.answer [outset.call chapter])
      (outset.call chapter).keys edit) :
    outset.start.Saves (valueOf outset.answer [outset.call chapter]) (outset.call chapter).keys edit := by
  obtain ⟨path, key, artifact, used, asked, absent, known, saved⟩ := saves
  have here_eq : world.host.here = outset.world.host.here := ready.expects.here
  have tag_eq : world.host.tag = outset.world.host.tag := ready.expects.tag
  have saved : Store.Saves path world.host.tag key artifact world.host.here edit := saved
  rw [here_eq, tag_eq] at saved
  refine ⟨path, key, artifact, ready.expects.directory.symm.trans used, asked, ?_, known, saved⟩
  by_contra there
  exact ready.kept key there absent

/-- The files that a visit was to edit are all that a pass edits. -/
theorem Ready.advanced {bench : Bench ε} {done : Session ε}
    (ready : outset.Ready all (chapter :: chapters) world)
    (advances : Session.Advances (valueOf outset.answer [outset.call chapter]) (outset.call chapter).keys
      (sessionAt bench world) done) :
    Host.Edited (outset.Edits all) outset.world.host done.rig.host :=
  ready.edited.trans (advances.edited.mono fun _ saves =>
    ⟨chapter, ready.among (mem_reached outset chapter chapters), .inr (.inl (ready.saves saves))⟩)

/-- The chapters that follow are still to come to what was foretold, when one is passed over and its images
are written. -/
theorem Ready.next {bench : Bench ε} {result : PassResult} {done : Session ε} {host : Host}
    {failures : List BlockFailure} (ready : outset.Ready all (chapter :: chapters) world)
    (settings : bench.settings = outset.shop.settingsIn bench.directory)
    (outcome : outset.outcome chapter = .ok result)
    (follows : Session.Follows outset.answer (chapters.map outset.call) (outset.call chapter) outset.start
      (sessionAt bench world) done)
    (edited : Host.Edited (outset.Writes chapter) done.rig.host host) :
    outset.Ready all chapters { leave bench world done with host := host, failures := failures } := by
  have among : outset.reached chapters ⊆ all := by
    refine List.Subset.trans ?_ ready.among
    rw [reached, outcome]
    exact List.subset_cons_self _ _
  have wrote : Host.Edited (outset.Edits all) done.rig.host host := edited.mono fun _ writes =>
    ⟨chapter, ready.among (mem_reached outset chapter chapters), .inr (.inr writes)⟩
  refine ⟨fits_replaceBench ready.fits settings, among, (ready.advanced follows.advances).trans wrote,
    fun key there => follows.advances.kept key (ready.kept key there), ready.noCollisions.tail,
    fun path used => (ready.tidy path used).tail, ?_⟩
  have expects : Session.Expects (valueOf outset.answer (chapters.map outset.call)) outset.start
      (done.withHost host) := by
    refine follows.written ⟨result, outcome⟩ edited fun path used edit writes name same => ?_
    have tidy := ready.tidy path used
    refine ⟨tidy.clean chapter List.mem_cons_self edit writes name same, fun key asked unasked => ?_⟩
    obtain ⟨call, among, asked⟩ := asked
    obtain ⟨other, listed, rfl⟩ := List.mem_map.mp among
    exact (List.pairwise_cons.mp tidy.free).1 other listed edit writes name same key asked unasked
  exact expects.sameFiles rfl rfl (.refl _)

/-- A chapter comes to what was foretold, and so are the others still to do, unless the file system refuses a
file of the visit. -/
theorem compileChapter_cases {fields : Fields}
    (sound : outset.shop.ambient.Sound validator) (valid : outset.shop.settings.Valid validator)
    (inOrder : (outset.call (Chapter.ofFields outset.shop.source fields)).InOrder outset.answer)
    (steady : (outset.call (Chapter.ofFields outset.shop.source fields)).settings.Steady)
    (proper : fields.Proper outset.shop.source)
    (ready : outset.Ready all (Chapter.ofFields outset.shop.source fields :: chapters) world) :
    (∃ fault changed, compileChapter outset.shop (.object fields) world =
        (.error (.pass (.refusedFile fault)), changed) ∧ outset.Refuses all fault) ∨
      match outset.outcome (Chapter.ofFields outset.shop.source fields) with
      | .error error => ∃ after,
          compileChapter outset.shop (.object fields) world = (.error (.pass error), after)
      | .ok result => ∃ after,
          compileChapter outset.shop (.object fields) world = (.ok result.output, after) ∧
          after.failures = world.failures ++ result.failures ∧ outset.Ready all chapters after := by
  rw [compileChapter_eq proper]
  generalize Chapter.ofFields outset.shop.source fields = chapter at inOrder steady ready ⊢
  have listed : chapter ∈ all := ready.among (mem_reached outset chapter chapters)
  rcases ready.made with ⟨fault, changed, ended, refuses⟩ | ⟨made, changed, ready⟩
  · exact .inl ⟨fault, changed, by rw [ended], refuses⟩
  rw [changed]
  simp only
  obtain ⟨bench, between, found, directory, settings, cache_eq, host_eq, failures_eq, fits⟩ :=
    benchFor_eq sound valid ready.fits chapter.directory
  rw [found]
  simp only
  have here_eq : between.host.here = outset.world.host.here := by
    rw [host_eq]
    exact ready.expects.here
  have ready : outset.Ready all (chapter :: chapters) between := by
    refine ⟨fits, ready.among, host_eq ▸ ready.edited, cache_eq ▸ ready.kept, ready.noCollisions, ready.tidy,
      ready.expects.sameFiles ?_ ?_ ?_⟩
    · exact congrArg Cache.directory cache_eq
    · exact congrArg Cache.entries cache_eq
    · show Store.SameFiles _ between.host
      rw [host_eq]
      exact .refl _
  have started : Session.Expects (valueOf outset.answer ((chapter :: chapters).map outset.call)) outset.start
      (sessionAt bench between) := ready.expects.sameFiles rfl rfl (.refl _)
  have first := PassCall.run_first inOrder steady ready.noCollisions started
    (outset.shop.presses.address between.host)
  rw [passAt_eq settings here_eq, callIn]
  generalize ((outset.call chapter).again _ _).run (sessionAt bench between) = ran at first ⊢
  obtain ⟨returned, done⟩ := ran
  rcases first with ⟨fault, refused, refuses⟩ | ⟨outcome_eq, follows⟩
  · obtain rfl : returned = _ := refused
    have directory : (sessionAt bench between).cache.directory = outset.world.cache.directory :=
      ready.expects.directory
    exact .inl ⟨fault, _, rfl, .artifact listed directory ready.edited refuses⟩
  obtain rfl : returned = outset.outcome chapter := outcome_eq
  cases outcome_eq : outset.outcome chapter with
  | error error => exact .inr ⟨_, rfl⟩
  | ok result =>
    simp only
    have here_eq' : (tell (leave bench between done) result).host.here = outset.world.host.here :=
      follows.expects.here
    rcases edited_writeImages outcome_eq here_eq' with
      ⟨fault, changed, ended, nonempty, refused⟩ | ⟨host, written, edited⟩
    · exact .inl ⟨fault, changed, by rw [ended],
        .images listed outcome_eq nonempty (ready.advanced follows.advances) refused⟩
    · refine .inr ⟨{ tell (leave bench between done) result with host := host }, by rw [written], ?_, ?_⟩
      · exact congrArg (· ++ result.failures) failures_eq
      · exact ready.next (directory ▸ settings) outcome_eq follows edited

/-! ## All chapters -/

/-- The error of a chapter, if it has one. -/
def errorOf? (outset : Outset ε) (chapter : Chapter) : Option PassError :=
  match outset.outcome chapter with
  | .ok _ => none
  | .error error => some error

/-- What a chapter is to contain. -/
def outputOf (outset : Outset ε) (chapter : Chapter) : Text :=
  match outset.outcome chapter with
  | .ok result => result.output
  | .error _ => []

/-- The failures of a chapter. -/
def failuresOf (outset : Outset ε) (chapter : Chapter) : List BlockFailure :=
  match outset.outcome chapter with
  | .ok result => result.failures
  | .error _ => []

/-- Whether a run over chapters in a world, or a visit to them, comes to what was foretold: it ends with the
error of the first chapter that has one, or returns what all of them come to, with their failures told; or the
file system refuses a file of a visit that comes to all of some chapters. -/
def ComesTo {α : Type} (outset : Outset ε) (all chapters : List Chapter) (world : World ε) (wanted : α)
    (run : Except Fault α × World ε) : Prop :=
  (∃ fault changed, run = (.error (.pass (.refusedFile fault)), changed) ∧ outset.Refuses all fault) ∨
    match chapters.findSome? outset.errorOf? with
    | some error => ∃ after, run = (.error (.pass error), after)
    | none => ∃ after, run = (.ok wanted, after) ∧
        after.failures = world.failures ++ chapters.flatMap outset.failuresOf

/-- A run over chapters comes to what was foretold. -/
theorem runStops_comesTo (orderly : outset.Orderly validator chapters) {listed : List Fields}
    (among : listed.map (Chapter.ofFields outset.shop.source) ⊆ chapters)
    (proper : ∀ fields ∈ listed, fields.Proper outset.shop.source) :
    ∀ {world : World ε}, outset.Ready all (listed.map (Chapter.ofFields outset.shop.source)) world →
      outset.ComesTo all (listed.map (Chapter.ofFields outset.shop.source)) world
        (listed.map fun fields => outset.outputOf (Chapter.ofFields outset.shop.source fields))
        (runStops outset.shop (listed.map .chapter) world) := by
  induction listed with
  | nil => exact fun _ => .inr ⟨_, rfl, (List.append_nil _).symm⟩
  | cons fields listed ih =>
    intro world ready
    rw [List.map_cons, List.map_cons, List.map_cons, runStops]
    rw [List.map_cons, List.cons_subset] at among
    rcases compileChapter_cases orderly.sound orderly.valid (orderly.inOrder among.1)
      (orderly.steadyCall _) (proper fields List.mem_cons_self) ready with
      ⟨fault, changed, ended, refuses⟩ | goes
    · exact .inl ⟨fault, changed, by rw [ended], refuses⟩
    cases outcome_eq : outset.outcome (Chapter.ofFields outset.shop.source fields) with
    | error error =>
      rw [outcome_eq] at goes
      obtain ⟨after, compiled⟩ := goes
      have first : outset.errorOf? (Chapter.ofFields outset.shop.source fields) = some error := by
        rw [errorOf?, outcome_eq]
      refine .inr ?_
      rw [List.findSome?_cons, first, compiled]
      exact ⟨after, rfl⟩
    | ok result =>
      rw [outcome_eq] at goes
      obtain ⟨between, compiled, failures_eq, ready'⟩ := goes
      have none_first : outset.errorOf? (Chapter.ofFields outset.shop.source fields) = none := by
        rw [errorOf?, outcome_eq]
      have output_eq : outset.outputOf (Chapter.ofFields outset.shop.source fields) = result.output := by
        rw [outputOf, outcome_eq]
      have told_eq : outset.failuresOf (Chapter.ofFields outset.shop.source fields) = result.failures := by
        rw [failuresOf, outcome_eq]
      rw [compiled]
      simp only
      rcases ih among.2 (fun other mem => proper other (List.mem_cons_of_mem _ mem)) ready' with
        ⟨fault, changed, ended, refuses⟩ | goes
      · exact .inl ⟨fault, changed, by rw [ended], refuses⟩
      refine .inr ?_
      rw [List.findSome?_cons, none_first]
      simp only
      cases others : (listed.map (Chapter.ofFields outset.shop.source)).findSome? outset.errorOf? with
      | some error =>
        rw [others] at goes
        obtain ⟨after, ran⟩ := goes
        exact ⟨after, by rw [ran]⟩
      | none =>
        rw [others] at goes
        obtain ⟨after, ran, told⟩ := goes
        refine ⟨after, by rw [ran, output_eq], ?_⟩
        rw [told, failures_eq, List.flatMap_cons, told_eq, List.append_assoc]

/-- At its start a visit can come to all its chapters. -/
theorem Orderly.ready (orderly : outset.Orderly validator chapters) (new : outset.world.benches = []) :
    outset.Ready (outset.reached chapters) chapters outset.world := by
  refine ⟨fun bench mem => ?_, List.Subset.refl _, .refl _, fun _ there => there, orderly.noCollisions,
    orderly.tidy, .refl fun path used => ?_⟩
  · rw [new] at mem
    exact absurd mem List.not_mem_nil
  · exact (orderly.clear path used).mono fun _ opened => keysOf_of_valueOf opened.1

/-- What is foretold for a chapter is what a pass over it alone comes to at the start, wherever objects stand,
unless the file system refuses a file of the cache. -/
theorem Orderly.alone (orderly : outset.Orderly validator chapters) (new : outset.world.benches = [])
    (mem : chapter ∈ chapters) (world : World ε) :
    (∃ fault, ((outset.callIn world chapter).run outset.start).1 = .error (.refusedFile fault) ∧
        outset.start.Refuses (valueOf outset.answer [outset.call chapter]) (outset.call chapter).keys
          fault) ∨
      ((outset.callIn world chapter).run outset.start).1 = outset.outcome chapter := by
  have listed : [outset.call chapter] ⊆ chapters.map outset.call :=
    List.cons_subset.mpr ⟨List.mem_map_of_mem mem, List.nil_subset _⟩
  have noCollisions : NoCollisions [outset.call chapter] := fun first first_mem second second_mem =>
    orderly.noCollisions first (listed first_mem) second (listed second_mem)
  have started : Session.Expects (valueOf outset.answer [outset.call chapter]) outset.start outset.start :=
    (orderly.ready new).expects.mono fun _ _ => valueOf_mono orderly.noCollisions listed
  exact (PassCall.run_first (orderly.inOrder mem) (orderly.steadyCall chapter) noCollisions started
    (outset.shop.presses.address world.host)).imp_right And.left

end Outset

/-! ## The whole book -/

/-- Whether a book has the right shape: a visit comes to nothing but chapters, and these have it too. -/
def IsProper (source : Path) (book : Json) : Prop :=
  ∀ stop ∈ bookStops book, ∃ fields, stop = .chapter fields ∧ fields.Proper source

/-- The chapters of a book in the order of a visit. -/
def bookChapters (source : Path) (book : Json) : List Chapter :=
  (chaptersOf (bookStops book)).map (Chapter.ofFields source)

/-- A book with what its chapters come to in their places. -/
def Outset.bookOf (outset : Outset ε) (book : Json) : Json :=
  bookWithContents (fun fields => outset.outputOf (Chapter.ofFields outset.shop.source fields)) book

/-- A visit that comes to nothing but chapters comes to those of it. -/
theorem chaptersOf_of_chapters {source : Path} {stops : List Stop}
    (proper : ∀ stop ∈ stops, ∃ fields, stop = .chapter fields ∧ fields.Proper source) :
    stops = (chaptersOf stops).map .chapter ∧ ∀ fields ∈ chaptersOf stops, fields.Proper source := by
  induction stops with
  | nil => exact ⟨rfl, fun _ mem => absurd mem List.not_mem_nil⟩
  | cons stop stops ih =>
    obtain ⟨fields, rfl, first⟩ := proper stop List.mem_cons_self
    obtain ⟨same, others⟩ := ih fun other mem => proper other (List.mem_cons_of_mem _ mem)
    refine ⟨congrArg (Stop.chapter fields :: ·) same, fun other mem => ?_⟩
    rcases List.mem_cons.mp mem with rfl | later
    · exact first
    · exact others other later

/-- What the run over the stops of a visit comes to, the visit comes to with the contents in their places. -/
theorem Outset.ComesTo.visited {outset : Outset ε} {α : Type} {all chapters : List Chapter} {world : World ε}
    {stops : List Stop} {filled : (Fields → Text) → α} {content : Fields → Text}
    {ran : Except Fault (List Text) × World ε} {visit : Except Fault α × World ε}
    (h : outset.ComesTo all chapters world ((chaptersOf stops).map content) ran)
    (visited : Visited stops filled ran visit) :
    outset.ComesTo all chapters world (filled content) visit := by
  unfold ComesTo at h ⊢
  cases visited with
  | broken fault after =>
    rcases h with ⟨refused, changed, ended, refuses⟩ | goes
    · exact .inl ⟨refused, changed,
        by rw [Except.error.inj (Prod.mk.inj ended).1, (Prod.mk.inj ended).2], refuses⟩
    · refine .inr ?_
      cases first : chapters.findSome? outset.errorOf? with
      | some error =>
        rw [first] at goes
        obtain ⟨last, ended⟩ := goes
        exact ⟨last, by rw [Except.error.inj (Prod.mk.inj ended).1, (Prod.mk.inj ended).2]⟩
      | none =>
        rw [first] at goes
        obtain ⟨last, ended, -⟩ := goes
        exact absurd (Prod.mk.inj ended).1 (by simp)
  | done contents value after same =>
    rcases h with ⟨refused, changed, ended, -⟩ | goes
    · exact absurd (Prod.mk.inj ended).1 (by simp)
    · refine .inr ?_
      cases first : chapters.findSome? outset.errorOf? with
      | some error =>
        rw [first] at goes
        obtain ⟨last, ended⟩ := goes
        exact absurd (Prod.mk.inj ended).1 (by simp)
      | none =>
        rw [first] at goes
        obtain ⟨last, ended, told⟩ := goes
        obtain ⟨listed, rfl⟩ := Prod.mk.inj ended
        exact ⟨after, by rw [same content (Except.ok.inj listed)], told⟩

/-- A visit to a book comes to what was foretold for its chapters. -/
theorem visitBook_comesTo {validator : Validator} {outset : Outset ε} {book : Json}
    (proper : IsProper outset.shop.source book)
    (orderly : outset.Orderly validator (bookChapters outset.shop.source book))
    (new : outset.world.benches = []) :
    outset.ComesTo (outset.reached (bookChapters outset.shop.source book))
      (bookChapters outset.shop.source book) outset.world (outset.bookOf book)
      (visitBook outset.shop book outset.world) := by
  obtain ⟨stops_eq, chapters⟩ := chaptersOf_of_chapters proper
  have ran := Outset.runStops_comesTo orderly (List.Subset.refl _) chapters (orderly.ready new)
  rw [← stops_eq] at ran
  exact ran.visited (visited_visitBook outset.shop book outset.world)

end TypstFences.Book
