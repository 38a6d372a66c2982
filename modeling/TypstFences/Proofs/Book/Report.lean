import TypstFences.Book.Program
import TypstFences.Proofs.Book.Compiling
import TypstFences.Proofs.Pass.FailFast
import TypstFences.Proofs.Pass.Needed
import TypstFences.Proofs.Settings.Surroundings

/-!
# What a call for a book leaves

A call with a context and a book ends with status one and prints nothing if the settings in the context are
refused. Else the chapters are compiled under these settings, each under those for its directory, and the call
ends with status zero and prints the book with the new contents if every chapter has a result without
failures; if not, with status one, and nothing is printed (`book_is_compiled_once`). Only where the file
system refuses a file of the visit, the call is broken and has no status (`directory_refused`).
-/

set_option autoImplicit false

namespace TypstFences.Book

variable {ε : Type}

/-! ## Settings of a call -/

/-- The directory of fonts beside the sources, if there is one and none is set. -/
def fontsBeside (settings : Settings) (source : Path) (host : Host) : Except FileError (Option Text) :=
  match settings.fontPath with
  | some _ => .ok none
  | none =>
    match host.probeDirectory (source.child "fonts".toList) with
    | .error fault => .error fault
    | .ok false => .ok none
    | .ok true => .ok (some (source.child "fonts".toList).text)

/-- The settings with a directory of fonts, if there is one. -/
def fitted (settings : Settings) : Option Text → Settings
  | none => settings
  | some fonts => { settings with fontPath := some fonts }

/-- What the reader is warned of when a directory of fonts is set. -/
def fontWarnings (ambient : Ambient) : Option Text → List Text
  | none => []
  | some fonts => Settings.warnings ambient [(Field.name .fontPath, .string fonts)]

/-- Valid settings take the directory of fonts. -/
theorem withFonts_eq {validator : Validator} {ambient : Ambient} {settings : Settings}
    (sound : ambient.Sound validator) (valid : settings.Valid validator) (source : Path) (world : World ε) :
    withFonts ambient settings source world =
      match fontsBeside settings source world.host with
      | .error fault => (.error (.pass (.refusedFile fault)), world)
      | .ok fonts => (.ok (fitted settings fonts),
          { world with warnings := world.warnings ++ fontWarnings ambient fonts }) := by
  have same : ({ world with warnings := world.warnings ++ [] } : World ε) = world := by
    rw [List.append_nil]
  unfold withFonts fontsBeside
  cases settings.fontPath with
  | some fonts => simp only [fontWarnings, fitted, same]
  | none =>
    simp only
    cases world.host.probeDirectory (source.child "fonts".toList) with
    | error fault => rfl
    | ok found =>
      cases found with
      | false => simp only [fontWarnings, fitted, same]
      | true =>
        have accepted := Settings.override_fontPath sound valid (source.child "fonts".toList).text
        simp only [World.override, accepted]
        rfl

/-! ## Reports -/

namespace Outset

variable {validator : Validator} {outset : Outset ε} {chapters : List Chapter} {book : Json}

/-- Whether every chapter has a result without failures. -/
def AllTypeset (outset : Outset ε) (chapters : List Chapter) : Prop :=
  ∀ chapter ∈ chapters, ∃ result, outset.outcome chapter = .ok result ∧ result.failures = []

/-- What a call reports on a visit to chapters: with status zero the book, if all of them were typeset, and
nothing with status one if not; unless it is broken as the file system refuses a file of the visit. -/
def Reports (outset : Outset ε) (chapters : List Chapter) (book : Json) (visit : Except Fault Json × World ε)
    (report : Report ε) : Prop :=
  (∃ fault changed, visit = (.error (.pass (.refusedFile fault)), changed) ∧
      outset.Refuses (outset.reached chapters) fault ∧
      report.ending = .error (.pass (.refusedFile fault)) ∧ report.printed = none) ∨
    (outset.AllTypeset chapters ∧ report.ending = .ok 0 ∧ report.printed = some (book.write Json.spaced)) ∨
    (¬outset.AllTypeset chapters ∧ report.ending = .ok 1 ∧ report.printed = none)

/-- All chapters are typeset if none of them has an error or a failure. -/
theorem allTypeset_iff : outset.AllTypeset chapters ↔
    chapters.findSome? outset.errorOf? = none ∧ chapters.flatMap outset.failuresOf = [] := by
  rw [List.findSome?_eq_none_iff, List.flatMap_eq_nil_iff]
  refine ⟨fun all => ⟨fun chapter mem => ?_, fun chapter mem => ?_⟩,
    fun ⟨no_error, no_failure⟩ chapter mem => ?_⟩
  · obtain ⟨result, outcome_eq, -⟩ := all chapter mem
    rw [errorOf?, outcome_eq]
  · obtain ⟨result, outcome_eq, failures_eq⟩ := all chapter mem
    rw [failuresOf, outcome_eq]
    exact failures_eq
  · have no_error := no_error chapter mem
    have no_failure := no_failure chapter mem
    unfold errorOf? at no_error
    unfold failuresOf at no_failure
    cases outcome_eq : outset.outcome chapter with
    | error error =>
      rw [outcome_eq] at no_error
      exact absurd no_error (by simp)
    | ok result =>
      rw [outcome_eq] at no_failure
      exact ⟨result, rfl, no_failure⟩

/-- An error of a chapter is one that is told to its author. -/
theorem isDocumentError_of_errorOf? (orderly : outset.Orderly validator chapters) {error : PassError}
    (found : chapters.findSome? outset.errorOf? = some error) : error.isDocumentError = true := by
  obtain ⟨chapter, mem, known⟩ := List.exists_of_findSome?_eq_some found
  unfold errorOf? at known
  cases outcome_eq : outset.outcome chapter with
  | ok result =>
    rw [outcome_eq] at known
    exact absurd known (by simp)
  | error other =>
    rw [outcome_eq] at known
    obtain rfl : other = error := Option.some.inj known
    exact Pass.isDocumentError_of_foretold (orderly.inOrder mem).embeds outcome_eq

/-- The report on a visit that comes to what was foretold. -/
theorem process_reports {wanted : Json} (orderly : outset.Orderly validator chapters)
    (comes : outset.ComesTo (outset.reached chapters) chapters outset.world wanted
      (visitBook outset.shop book outset.world)) (new : outset.world.failures = []) :
    outset.Reports chapters wanted (visitBook outset.shop book outset.world)
      (process outset.shop book outset.world) := by
  unfold process
  generalize visitBook outset.shop book outset.world = visited at comes ⊢
  rcases comes with ⟨fault, changed, rfl, refuses⟩ | goes
  · exact .inl ⟨fault, changed, rfl, refuses, rfl, rfl⟩
  · refine .inr ?_
    rw [allTypeset_iff]
    cases first : chapters.findSome? outset.errorOf? with
    | some error =>
      rw [first] at goes
      obtain ⟨after, rfl⟩ := goes
      simp only [isDocumentError_of_errorOf? orderly first, if_true]
      exact .inr ⟨fun told => absurd told.1 (by simp), rfl, rfl⟩
    | none =>
      rw [first] at goes
      obtain ⟨after, rfl, told⟩ := goes
      rw [new, List.nil_append] at told
      simp only [told]
      by_cases failed : chapters.flatMap outset.failuresOf = []
      · rw [failed]
        exact .inl ⟨⟨trivial, rfl⟩, rfl, rfl⟩
      · rw [if_neg (by rwa [List.isEmpty_iff])]
        exact .inr ⟨fun told => failed told.2, rfl, rfl⟩

/-- The outset of a call with entries in its context and with a directory of fonts: nothing is compiled yet.
-/
def ofCall (ambient : Ambient) (entries : List (Text × Json)) (chosen : Settings) (fonts : Option Text)
    (source : Path) (presses : Presses) (maker : Maker ε) (version : Text) (answer : Answer) (host : Host) :
    Outset ε where
  shop := ⟨ambient, fitted chosen fonts, source, presses, maker⟩
  version := version
  answer := answer
  world := ⟨[], Cache.new (fitted chosen fonts).cacheDir, host, [],
    Settings.warnings ambient entries ++ fontWarnings ambient fonts⟩

end Outset

/-! ## Calls -/

section Call

variable {validator : Validator} {ambient : Ambient} {base chosen : Settings} {context book : Json}
variable {entries : List (Text × Json)}
variable {source : Path} {words : List Text} {input : Text}

/-- A call whose settings are refused ends with status one. -/
theorem run_of_refused (presses : Presses) (maker : Maker ε) (host : Host) (sound : ambient.Sound validator)
    (asked : askedOutput? words = none) (handed : Json.read input = .ok (.list [context, book]))
    (table : tableOf context = .ok entries)
    {error : SettingsError} (refused : Settings.override ambient base entries = .error error) :
    (run ambient base presses maker words input host).ending = .ok 1 ∧
      (run ambient base presses maker words input host).printed = none := by
  obtain ⟨problems, rfl⟩ := Settings.invalid_of_override sound.loads refused
  unfold run
  simp only [asked, handed, cutPair, runPair, table, World.override, refused]
  exact ⟨rfl, rfl⟩

/-- A call whose settings are accepted visits the book from its outset. -/
theorem run_of_accepted (presses : Presses) (maker : Maker ε) (host : Host)
    (sound : ambient.Sound validator) (valid : base.Valid validator)
    (asked : askedOutput? words = none) (handed : Json.read input = .ok (.list [context, book]))
    (table : tableOf context = .ok entries) (located : sourceDirectory context = .ok source)
    (accepted : Settings.override ambient base entries = .ok chosen) (version : Text) (answer : Answer) :
    ∃ changed, run ambient base presses maker words input host =
      match fontsBeside chosen source host with
      | .error fault => broken (.pass (.refusedFile fault)) changed
      | .ok fonts => process ⟨ambient, fitted chosen fonts, source, presses, maker⟩ book
          (Outset.ofCall ambient entries chosen fonts source presses maker version answer host).world := by
  unfold run
  simp only [asked, handed, cutPair, runPair, table, World.override, accepted, located,
    withFonts_eq sound (Settings.valid_of_override sound.loads.lawful valid accepted)]
  have host_eq : (startWorld host : World ε).host = host := rfl
  rw [host_eq]
  refine ⟨{ (startWorld host : World ε) with warnings := Settings.warnings ambient entries }, ?_⟩
  cases fontsBeside chosen source host <;> rfl

/-- Every visit to a book comes to its chapters one after the other, in the order of the book, and changes
nothing but their contents. A call with a context and a book whose settings are refused ends with status one.
If they are accepted, the visit comes to what is foretold for each chapter under the settings for its
directory, which is what the chapter comes to alone, or ends with the first one without a result; and the call
reports the book with what was foretold with status zero, or else ends with status one. Only where the file
system refuses a file of the visit, both are broken. -/
theorem book_is_compiled_once (presses : Presses) (maker : Maker ε) (host : Host) (words : List Text)
    (sound : ambient.Sound validator) (valid : base.Valid validator) (asked : askedOutput? words = none)
    (handed : Json.read input = .ok (.list [context, book])) (table : tableOf context = .ok entries)
    (located : sourceDirectory context = .ok source) (proper : IsProper source book) :
    (∀ (shop : Shop ε) world, Visited (bookStops book) (bookWithContents · book)
        (runStops shop (bookStops book) world) (visitBook shop book world)) ∧
      (∀ error, Settings.override ambient base entries = .error error →
        (run ambient base presses maker words input host).ending = .ok 1 ∧
          (run ambient base presses maker words input host).printed = none) ∧
      ∀ chosen, Settings.override ambient base entries = .ok chosen →
        (∀ fault, fontsBeside chosen source host = .error fault →
          (run ambient base presses maker words input host).ending = .error (.pass (.refusedFile fault))) ∧
        ∀ fonts, fontsBeside chosen source host = .ok fonts → ∀ version answer outset,
          outset = Outset.ofCall ambient entries chosen fonts source presses maker version answer host →
          outset.Orderly validator (bookChapters source book) →
            outset.ComesTo (outset.reached (bookChapters source book)) (bookChapters source book)
              outset.world (outset.bookOf book) (visitBook outset.shop book outset.world) ∧
            (∀ chapter ∈ bookChapters source book, ∀ world : World ε,
              (∃ fault, ((outset.callIn world chapter).run outset.start).1 = .error (.refusedFile fault) ∧
                  outset.start.Refuses (valueOf outset.answer [outset.call chapter])
                    (outset.call chapter).keys fault) ∨
                ((outset.callIn world chapter).run outset.start).1 = outset.outcome chapter) ∧
            outset.Reports (bookChapters source book) (outset.bookOf book)
              (visitBook outset.shop book outset.world)
              (run ambient base presses maker words input host) := by
  refine ⟨fun shop world => visited_visitBook shop book world,
    fun error refused => run_of_refused presses maker host sound asked handed table refused,
    fun chosen accepted => ⟨?_, ?_⟩⟩
  · intro fault refused
    obtain ⟨changed, run_eq⟩ :=
      run_of_accepted presses maker host sound valid asked handed table located accepted []
        fun _ _ _ _ => default
    rw [run_eq, refused]
    rfl
  · rintro fonts beside version answer outset rfl orderly
    have comes := visitBook_comesTo proper orderly rfl
    obtain ⟨changed, run_eq⟩ :=
      run_of_accepted presses maker host sound valid asked handed table located accepted version answer
    refine ⟨comes, fun chapter mem => orderly.alone rfl mem, ?_⟩
    rw [run_eq, beside]
    exact Outset.process_reports orderly comes rfl

end Call

/-! ## Two books -/

/-- Engines that make one page of every block. -/
def pageMaker : Maker Unit :=
  ⟨fun settings _ => Engine.pure "1".toList settings.engineRoot fun _ => .artifact onePage, ()⟩

/-- The default settings with a root for the engine. -/
def rooted : Settings := { Settings.default with engineRoot := some ".".toList }

/-- The text that a context in which nothing is set is handed over by, with a book. -/
def handed (book : Json) : Text := (Json.list [.object [], book]).write Json.spaced

/-- A chapter with a line of text. -/
def innerChapter : Fields :=
  [("path".toList, .string "b/c.md".toList), ("content".toList, .string "y\n".toList)]

/-- A chapter with a block, above the one with a line of text. -/
def outerChapter : Fields :=
  [("path".toList, .string "a.md".toList), ("content".toList, .string "```typ\nx\n```\n".toList),
    ("sub_items".toList, .list [.object [("Chapter".toList, .object innerChapter)]])]

/-- A book of these chapters and a separator. -/
def twoChapters : Json :=
  .object [("sections".toList, .list [.object [("Chapter".toList, .object outerChapter)],
    .string "Separator".toList])]

/-- The outset of a call with this book on a bare host. -/
def twoOutset : Outset Unit :=
  .ofCall Ambient.none [] rooted none (Path.ofText "src".toList) barePresses pageMaker "1".toList
    (fun _ _ _ _ => .artifact onePage) bareRig.host

/-- A visit comes to the two chapters, the upper one first. -/
theorem twoChapters_stops : bookStops twoChapters = [.chapter outerChapter, .chapter innerChapter] := by
  have inside : stops (.object [("Chapter".toList, .object innerChapter)]) = [.chapter innerChapter] := by
    have chapter : Json.lookup chapterKey [("Chapter".toList, .object innerChapter)] =
        some (.object innerChapter) := rfl
    have below : Json.lookup childrenKey innerChapter = none := rfl
    simp only [stops_object, chapter, stopsBelow_eq, below]
  have first : stops (.object [("Chapter".toList, .object outerChapter)]) =
      [.chapter outerChapter, .chapter innerChapter] := by
    have chapter : Json.lookup chapterKey [("Chapter".toList, .object outerChapter)] =
        some (.object outerChapter) := rfl
    have below : Json.lookup childrenKey outerChapter =
        some (.list [.object [("Chapter".toList, .object innerChapter)]]) := rfl
    simp only [stops_object, chapter, stopsBelow_eq, below, stopsAll, inside, List.append_nil]
  have last : stops (.string "Separator".toList) = [] := by
    rw [stops.eq_2 _ fun _ same => Json.noConfusion same]
    exact if_pos (by decide)
  show stopsAll [.object [("Chapter".toList, .object outerChapter)], .string "Separator".toList] = _
  simp only [stopsAll, first, last, List.append_nil]

/-- The book has the right shape. -/
theorem twoChapters_proper : IsProper (Path.ofText "src".toList) twoChapters := by
  unfold IsProper
  rw [twoChapters_stops]
  simp only [List.forall_mem_cons, List.not_mem_nil, false_imp_iff, implies_true, and_true]
  exact ⟨⟨outerChapter, rfl, ⟨rfl, rfl⟩⟩, ⟨innerChapter, rfl, ⟨rfl, rfl⟩⟩⟩

/-- The settings with a root are valid. -/
theorem rooted_valid : rooted.Valid .checks :=
  Settings.valid_of_override Surroundings.none_loads.lawful Settings.default_valid
    (Settings.override_engineRoot Surroundings.none_sound Settings.default_valid ".".toList)

/-- The chapters that are compiled are these two. -/
theorem twoChapters_chapters : bookChapters (Path.ofText "src".toList) twoChapters =
    [Chapter.ofFields (Path.ofText "src".toList) outerChapter,
      Chapter.ofFields (Path.ofText "src".toList) innerChapter] := by
  rw [bookChapters, twoChapters_stops]
  rfl

/-- There is one block, so that no payloads collide. -/
theorem twoChapters_noCollisions :
    NoCollisions ((bookChapters (Path.ofText "src".toList) twoChapters).map twoOutset.call) := by
  have outer : (twoOutset.call (Chapter.ofFields (Path.ofText "src".toList) outerChapter)).requests =
      [⟨"x\n".toList, true⟩] := by decide
  have inner : (twoOutset.call (Chapter.ofFields (Path.ofText "src".toList) innerChapter)).requests = [] := by
    decide
  rw [twoChapters_chapters]
  intro first mem second mem' request asked request' asked' _
  simp only [List.map_cons, List.map_nil, List.mem_cons, List.not_mem_nil, or_false] at mem mem'
  rcases mem with rfl | rfl
  · rcases mem' with rfl | rfl
    · rw [outer, List.mem_singleton] at asked asked'
      rw [asked, asked']
    · rw [inner] at asked'
      exact absurd asked' List.not_mem_nil
  · rw [inner] at asked
    exact absurd asked List.not_mem_nil

/-- All that is assumed of a visit holds of that to the book. -/
theorem twoChapters_orderly :
    twoOutset.Orderly .checks (bookChapters (Path.ofText "src".toList) twoChapters) := by
  have settings : twoOutset.shop.settings = rooted := rfl
  have unkept (path : Path) : twoOutset.world.cache.directory ≠ some path := by
    show none ≠ some path
    simp
  refine ⟨Surroundings.none_sound, ?_, ?_, ?_, fun _ _ => ⟨fun _ => rfl, fun _ _ => rfl⟩,
    fun _ _ => Engine.pure_sparesFiles _ _ _, twoChapters_noCollisions,
    fun path used => absurd used (unkept path), fun path used => absurd used (unkept path)⟩
  · rw [settings]
    exact rooted_valid
  · have images : rooted.imageDir = Settings.default.imageDir := rfl
    have template : rooted.embedTemplate = Settings.default.embedTemplate := by simp only [rooted]
    rw [settings]
    refine ⟨fun address name => ?_, default_embeds.style⟩
    rw [images, template]
    exact default_embeds.template address name
  · rw [settings]
    exact Settings.steady_of_defaultTemplate (by simp only [rooted, Settings.default_embedTemplate])

/-- The run over the two chapters ends without failures. -/
theorem twoChapters_ran :
    (match runStops twoOutset.shop [.chapter outerChapter, .chapter innerChapter] twoOutset.world with
      | (.ok _, after) => after.failures.isEmpty
      | (.error _, _) => false) = true := by
  decide +kernel

/-- The book is printed with what its chapters come to. -/
theorem twoChapters_printed :
    ∃ after,
      visitBook twoOutset.shop twoChapters twoOutset.world = (.ok (twoOutset.bookOf twoChapters), after) ∧
      (run Ambient.none rooted barePresses pageMaker [] (handed twoChapters) bareRig.host).ending = .ok 0 ∧
      (run Ambient.none rooted barePresses pageMaker [] (handed twoChapters) bareRig.host).printed =
        some ((twoOutset.bookOf twoChapters).write Json.spaced) := by
  have handed_eq : Json.read (handed twoChapters) = .ok (.list [.object [], twoChapters]) := by cbv
  have located : sourceDirectory (.object []) = .ok (Path.ofText "src".toList) := by decide +kernel
  have beside : fontsBeside rooted (Path.ofText "src".toList) bareRig.host = .ok none := by decide +kernel
  obtain ⟨visits, -, accepted⟩ := book_is_compiled_once barePresses pageMaker bareRig.host []
    Surroundings.none_sound rooted_valid rfl handed_eq rfl located twoChapters_proper
  obtain ⟨comes, -, reports⟩ := (accepted rooted rfl).2 none beside "1".toList
    (fun _ _ _ _ => .artifact onePage) twoOutset rfl twoChapters_orderly
  have visited := visits twoOutset.shop twoOutset.world
  have ran := twoChapters_ran
  rw [twoChapters_stops] at visited
  generalize runStops twoOutset.shop _ twoOutset.world = run at visited ran
  generalize visitBook twoOutset.shop twoChapters twoOutset.world = visit at visited comes reports ⊢
  cases visited with
  | broken fault after => exact absurd ran (by simp)
  | done contents value after same =>
    have quiet : after.failures = [] := List.isEmpty_iff.mp ran
    rcases comes with ⟨fault, changed, ended, -⟩ | goes
    · exact absurd (Prod.mk.inj ended).1 (by simp)
    cases first : (bookChapters (Path.ofText "src".toList) twoChapters).findSome? twoOutset.errorOf? with
    | some error =>
      rw [first] at goes
      obtain ⟨last, ended⟩ := goes
      exact absurd (Prod.mk.inj ended).1 (by simp)
    | none =>
      rw [first] at goes
      obtain ⟨last, ended, told⟩ := goes
      obtain ⟨value_eq, rfl⟩ := Prod.mk.inj ended
      obtain rfl := Except.ok.inj value_eq
      rw [quiet] at told
      have typeset := Outset.allTypeset_iff.mpr ⟨first, told.symm⟩
      rcases reports with ⟨fault, changed, ended, -⟩ | ⟨-, ending, printed⟩ | ⟨failed, -⟩
      · exact absurd (Prod.mk.inj ended).1 (by simp)
      · exact ⟨after, rfl, ending, printed⟩
      · exact absurd typeset failed

/-- A chapter with a line of text in a directory. -/
def deepChapter : Fields :=
  [("path".toList, .string "a/b.md".toList), ("content".toList, .string "y\n".toList)]

/-- A book of this chapter alone. -/
def deepBook : Json :=
  .object [("sections".toList, .list [.object [("Chapter".toList, .object deepChapter)]])]

/-- A bare host with a file in place of that directory. -/
def blockedHost : Host :=
  bareRig.host.withFiles
    ((FileTree.empty.put ["src".toList] .directory).put ["src".toList, "a".toList] (.file []))

/-- The outset of a call with this book on this host. -/
def deepOutset : Outset Unit :=
  .ofCall Ambient.none [] Settings.default none (Path.ofText "src".toList) barePresses pageMaker "1".toList
    (fun _ _ _ _ => .artifact onePage) blockedHost

/-- A visit comes to this chapter. -/
theorem deepBook_stops : bookStops deepBook = [.chapter deepChapter] := by
  have chapter : Json.lookup chapterKey [("Chapter".toList, .object deepChapter)] =
      some (.object deepChapter) := rfl
  have below : Json.lookup childrenKey deepChapter = none := rfl
  show stopsAll [.object [("Chapter".toList, .object deepChapter)]] = _
  simp only [stopsAll, stops_object, chapter, stopsBelow_eq, below, List.append_nil]

/-- The settings are valid, and the book has the right shape, but the directory of its chapter is refused as
there is a file in its place: the call does not end with a status. -/
theorem directory_refused :
    Settings.override Ambient.none Settings.default [] = .ok Settings.default ∧
      IsProper (Path.ofText "src".toList) deepBook ∧
      (run Ambient.none Settings.default barePresses pageMaker [] (handed deepBook) blockedHost).ending =
        .error (.pass (.refusedFile ⟨.alreadyExists, "src/a".toList⟩)) := by
  have accepted : Settings.override Ambient.none Settings.default [] = .ok Settings.default := rfl
  have handed_eq : Json.read (handed deepBook) = .ok (.list [.object [], deepBook]) := by cbv
  have located : sourceDirectory (.object []) = .ok (Path.ofText "src".toList) := by decide +kernel
  have beside : fontsBeside Settings.default (Path.ofText "src".toList) blockedHost = .ok none := by
    decide +kernel
  refine ⟨accepted, ?_, ?_⟩
  · unfold IsProper
    rw [deepBook_stops]
    exact List.forall_mem_singleton.mpr ⟨deepChapter, rfl, ⟨rfl, rfl⟩⟩
  · obtain ⟨changed, run_eq⟩ := run_of_accepted barePresses pageMaker blockedHost Surroundings.none_sound
      Settings.default_valid (rfl : askedOutput? [] = none) handed_eq rfl located accepted "1".toList
      fun _ _ _ _ => .artifact onePage
    rw [run_eq, beside]
    have visited := visited_visitBook deepOutset.shop deepBook deepOutset.world
    have ran : (runStops deepOutset.shop [.chapter deepChapter] deepOutset.world).1 =
        .error (.pass (.refusedFile ⟨.alreadyExists, "src/a".toList⟩)) := by decide +kernel
    show (process deepOutset.shop deepBook deepOutset.world).ending = _
    unfold process
    rw [deepBook_stops] at visited
    generalize runStops deepOutset.shop _ deepOutset.world = run at visited ran
    generalize visitBook deepOutset.shop deepBook deepOutset.world = visit at visited ⊢
    cases visited with
    | broken fault after =>
      obtain rfl := Except.error.inj ran
      rfl
    | done contents value after same => exact absurd ran (by simp)

end TypstFences.Book
