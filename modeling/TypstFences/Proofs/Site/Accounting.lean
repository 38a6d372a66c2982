import TypstFences.Proofs.Site.Halting
import TypstFences.Proofs.Text.Order

/-!
# Every document of a run is accounted for

A run over documents that keep apart ends with a state in which each of them is either among the results, with
its files written, or has one message among the errors and is not written (`Job.Accounted`). What it comes to
is what it comes to in a run of its own, and results, errors and failures stand in the order of the documents.
A run that is to end with the first failure has the results of the documents in front of the first one with an
error or a failure, and writes no others (`Job.Halted`, `documents_are_accounted_for`). Or the file system
refuses a file to the run (`Job.Refuses`). All of this is wrong where one document is written over another one
that is still to be read (`output_over_document`).
-/

set_option autoImplicit false

namespace TypstFences

namespace Site

variable {ε : Type}

/-! ## The order of documents -/

/-- The documents that are found stand in the order of their paths. -/
theorem pairwise_le_discover {state found : State} {world after : World ε}
    (done : discover state world = (.ok found, after)) :
    found.sources.Pairwise fun first second => first.le second = true := by
  unfold discover at done
  split at done
  · exact absurd (Prod.mk.inj done).1 (by simp)
  · split at done
    · exact absurd (Prod.mk.inj done).1 (by simp)
    · simp only at done
      split at done
      · exact absurd (Prod.mk.inj done).1 (by simp)
      · rename_i input input_eq glob glob_eq paths selected
        split at done
        · exact absurd (Prod.mk.inj done).1 (by simp)
        · rw [← Except.ok.inj (Prod.mk.inj done).1]
          refine List.Pairwise.filter _ ?_
          unfold Glob.select at selected
          split at selected
          · split at selected
            · rw [← Except.ok.inj selected]
              exact List.pairwise_mergeSort Path.le_trans Path.le_total _
            · exact absurd selected (by simp)
          · rw [← Except.ok.inj selected]
            exact .nil

/-! ## All runs -/

/-- The run is reported with status one if and only if there is an error or a failure. -/
theorem report_stops (state : State) (world : World ε) :
    (report state world).1 = .error (.stopped 1) ↔ state.errors ≠ [] ∨ state.failures ≠ [] := by
  unfold report
  cases state.errors <;> cases state.failures <;> simp

/-- Without an error or a failure, a run is reported with success. -/
theorem report_succeeds {state : State} (errors : state.errors = []) (failures : state.failures = [])
    (world : World ε) : (report state world).1 = .ok state := by
  unfold report
  rw [errors, failures]
  rfl

/-- The state of a run over the documents at some paths. -/
def State.over (state : State) (paths : List Path) : State := { state with sources := paths }

/-- The state of a run with some settings. -/
def State.under (state : State) (settings : Settings) : State := { state with settings := some settings }

/-- Documents are compiled by the engine that is made for the settings. -/
theorem compile_eq (presses : Presses) {makeEngine : Settings → Place → Except FileError (Engine ε)}
    {settings : Settings}
    {engine : Engine ε} {input : Path} (state : State) {world : World ε}
    (chosen : state.settings = some settings) (directory : state.input = some input)
    (made : makeEngine settings world.host.here = .ok engine) :
    compile presses makeEngine state world =
      compileAll presses settings engine input state.sources state (Cache.new settings.cacheDir) world := by
  unfold compile
  rw [chosen, directory]
  simp only [made]

section Runs

variable {job : Job ε} {answer : Answer} {world : World ε} {sources : List Source}
variable {makeEngine : Settings → Place → Except FileError (Engine ε)}

/-- A run with the settings of a job accounts for documents that keep apart. -/
theorem Job.accounted_of_compile (isolated : job.Isolated answer world sources)
    (vacant : job.Vacant answer world sources) (noFailFast : job.settings.failFast = false)
    (made : makeEngine job.settings world.host.here = .ok job.engine) (state : State)
    (input : state.input = some job.input) (output : state.output = some job.output)
    (chosen : state.settings = some job.settings) (listed : state.sources = sources.map Source.path)
    (new : state.results = []) :
    Job.EndsIn (compile job.presses makeEngine state world)
      (job.Refuses answer world sources (job.start world)) (job.Accounted answer world sources state) := by
  rw [compile_eq job.presses state chosen input made, listed]
  exact Job.accounted_of_runsTo isolated noFailFast vacant new (isolated.runsTo output)

/-- With the first failure as its end, the run accounts for the documents in front of it. -/
theorem Job.halted_of_compile (isolated : job.Isolated answer world sources)
    (vacant : job.failingFast.Vacant answer world sources) (noFailFast : job.settings.failFast = false)
    (made : makeEngine (job.settings.failingFast true) world.host.here = .ok job.engine) (state : State)
    (input : state.input = some job.input) (output : state.output = some job.output)
    (chosen : state.settings = some (job.settings.failingFast true))
    (listed : state.sources = sources.map Source.path) (new : state.results = []) :
    Job.EndsIn (compile job.presses makeEngine state world)
      (job.failingFast.Refuses answer world
        (sources.take ((job.before answer world sources).length + 1)) (job.start world))
      (job.Halted answer world sources state) := by
  rw [compile_eq job.presses state chosen input made, listed]
  exact Job.halted_of_runsTo isolated noFailFast vacant new
    ((isolated.failingFast noFailFast).runsTo output)

/-- The documents that are found stand in the order of their paths. If they keep apart, the run over them
accounts for all of them in this order, and the run over one of them alone accounts for that one with the same
result and the same files. If the first failure is to end it, the run has the results of the documents in
front of the first one with an error or a failure, writes these and no others, and has at most one error. Each
of these runs may instead end with a file that the file system refuses it. A run is reported with status one
if and only if there is an error or a failure. -/
theorem documents_are_accounted_for (isolated : job.Isolated answer world sources)
    (vacant : job.Vacant answer world sources) (vacant' : job.failingFast.Vacant answer world sources)
    (noFailFast : job.settings.failFast = false)
    (made : ∀ flag, makeEngine (job.settings.failingFast flag) world.host.here = .ok job.engine)
    (state : State) (input : state.input = some job.input) (output : state.output = some job.output)
    (chosen : state.settings = some job.settings) (listed : state.sources = sources.map Source.path)
    (new : state.results = []) :
    (∀ earlier (start : World ε), discover earlier start = (.ok state, world) →
        state.sources.Pairwise fun first second => first.le second = true) ∧
      Job.EndsIn (compile job.presses makeEngine state world)
        (job.Refuses answer world sources (job.start world))
        (job.Accounted answer world sources state) ∧
      (∀ source ∈ sources, Job.EndsIn (compile job.presses makeEngine (state.over [source.path]) world)
        (job.Refuses answer world [source] (job.start world))
        (job.Accounted answer world [source] (state.over [source.path]))) ∧
      Job.EndsIn (compile job.presses makeEngine (state.under (job.settings.failingFast true)) world)
        (job.failingFast.Refuses answer world
          (sources.take ((job.before answer world sources).length + 1)) (job.start world))
        (job.Halted answer world sources (state.under (job.settings.failingFast true))) ∧
      ∀ final (after : World ε),
        ((report final after).1 = .error (.stopped 1) ↔ final.errors ≠ [] ∨ final.failures ≠ []) ∧
        ((report final after).1 = .ok final ↔ final.errors = [] ∧ final.failures = []) := by
  have made' : makeEngine job.settings world.host.here = .ok job.engine := by
    have settings_eq : job.settings.failingFast false = job.settings := by
      rw [Settings.failingFast, ← noFailFast]
    rw [← made false, settings_eq]
  refine ⟨fun _ _ done => pairwise_le_discover done, ?_, fun source mem => ?_, ?_, fun final after => ?_⟩
  · exact Job.accounted_of_compile isolated vacant noFailFast made' state input output chosen listed new
  · have alone : [source].Sublist sources := List.singleton_sublist.mpr mem
    exact Job.accounted_of_compile (isolated.sublist alone) (vacant.sublist noFailFast alone) noFailFast made'
      (state.over [source.path]) input output chosen rfl new
  · exact Job.halted_of_compile isolated vacant' noFailFast (made true)
      (state.under (job.settings.failingFast true)) input output rfl listed new
  · refine ⟨report_stops final after, ?_⟩
    by_cases told : final.errors = [] ∧ final.failures = []
    · exact iff_of_true (report_succeeds told.1 told.2 after) told
    · rw [not_and_or] at told
      have stops := (report_stops final after).mpr told
      refine iff_of_false (fun ended => ?_) (not_and_or.mpr told)
      exact absurd (stops.symm.trans ended) (by simp)

end Runs

/-! ## Three pages and an image -/

/-- A document of text, one whose fence stays open, and one with a block that is typeset. -/
def threePages : List Source :=
  [⟨Path.ofText "in/a.md".toList, Path.ofText "a.md".toList, "a\n".toList⟩,
    ⟨Path.ofText "in/b.md".toList, Path.ofText "b.md".toList, "```typ\n".toList⟩,
    ⟨Path.ofText "in/c.md".toList, Path.ofText "c.md".toList, "```typ\nx\n```\n".toList⟩]

/-- What the documents are compiled with: the default settings, and an engine that makes one page of a block.
-/
def threeJob : Job Unit :=
  ⟨barePresses, Settings.default, (bareCall onePage []).engine, "1".toList, Path.ofText "in".toList,
    Path.ofText "out".toList⟩

/-- What the engine answers to all of them. -/
def threeAnswers : Answer := fun _ _ _ _ => .artifact onePage

/-- The state of a run over them. -/
def threeState : State :=
  { siteState with settings := some Settings.default, sources := threePages.map Source.path }

/-- The engine is made for all settings. -/
def makeThree : Settings → Place → Except FileError (Engine Unit) := fun _ _ => .ok threeJob.engine

/-- Only the last document has a request. -/
theorem threePages_requests : (threePages.map threeJob.call).map PassCall.requests =
    [[], [], [⟨"x\n".toList, true⟩]] := by decide

/-- Its payload collides with no other. -/
theorem threePages_noCollisions : NoCollisions (threePages.map threeJob.call) := by
  intro first mem second mem' request asked request' asked' _
  have asks {call : PassCall Unit} (mem : call ∈ threePages.map threeJob.call) {request : Request}
      (asked : request ∈ call.requests) : request = ⟨"x\n".toList, true⟩ := by
    have listed := List.mem_map_of_mem (f := PassCall.requests) mem
    rw [threePages_requests] at listed
    generalize call.requests = requests at listed asked
    simp only [List.mem_cons, List.not_mem_nil, or_false] at listed
    rcases listed with rfl | rfl | rfl
    · exact absurd asked List.not_mem_nil
    · exact absurd asked List.not_mem_nil
    · exact List.mem_singleton.mp asked
  obtain ⟨source, -, rfl⟩ := List.mem_map.mp mem
  obtain ⟨source', -, rfl⟩ := List.mem_map.mp mem'
  rw [asks mem asked, asks mem' asked']
  rfl

/-- The documents are where they are said to be. -/
theorem threePages_found : ∀ source ∈ threePages, source.Found threeJob.input
    (siteWorld threePages).host := by
  have relative : ∀ source ∈ threePages,
      Path.relativeTo? threeJob.input source.path = some source.relative := by decide
  have content : ∀ source ∈ threePages,
      (siteWorld threePages).host.content source.path = .ok source.content := by decide
  exact fun source mem => found_of_content (relative source mem) (content source mem)

/-- Where the documents and the image of the last one are written, without the name of the image. -/
theorem threePages_places : threePages.map (fun source =>
      (threeJob.files threeAnswers (siteWorld threePages) source).map fun file => (file.1.resolve []).take 2) =
    [[["out".toList, "a.md".toList]], [],
      [["out".toList, "c.md".toList], ["out".toList, "typst-img".toList]]] := by
  decide +kernel

/-- Every file that is written is in one of three places. -/
theorem mem_threePages_places {source : Source} (mem : source ∈ threePages) {file : Path × Bytes}
    (among : file ∈ threeJob.files threeAnswers (siteWorld threePages) source) :
    (file.1.resolve []).take 2 ∈
      [["out".toList, "a.md".toList], ["out".toList, "c.md".toList], ["out".toList, "typst-img".toList]] := by
  have listed := List.mem_flatten.mpr ⟨_, List.mem_map_of_mem (f := fun source =>
    (threeJob.files threeAnswers (siteWorld threePages) source).map fun file =>
    (file.1.resolve []).take 2) mem,
    List.mem_map_of_mem among⟩
  rw [threePages_places] at listed
  exact listed

/-- The documents keep apart. -/
theorem threePages_isolated : threeJob.Isolated threeAnswers (siteWorld threePages) threePages := by
  refine .of_noCache rfl ⟨fun _ => rfl, fun _ _ => rfl⟩ (Engine.pure_sparesFiles _ _ _) default_embeds
    Settings.steady_default threePages_noCollisions threePages_found (by decide) ?_ ?_
  · have places : ((threePages.flatMap (threeJob.files threeAnswers (siteWorld threePages))).map
        fun file => (file.1.resolve []).take 2).Nodup := by
      rw [List.map_flatMap, List.flatMap_def, threePages_places]
      decide
    exact fun file mem other mem' same => congrArg Prod.snd
      (List.inj_on_of_nodup_map places mem mem' (congrArg (List.take 2) same))
  · have apart : ∀ source ∈ threePages, (source.path.resolve []).take 2 ∉
        [["out".toList, "a.md".toList], ["out".toList, "c.md".toList],
          ["out".toList, "typst-img".toList]] := by decide
    exact List.pairwise_of_forall_mem_list fun first mem second mem' file among same =>
      apart second mem' (congrArg (List.take 2) same ▸ mem_threePages_places mem among)

/-- The first and the last document are written, and the first one alone if the first failure is to end the
run. -/
theorem threePages_written :
    threeJob.written threeAnswers (siteWorld threePages) threePages = [threePages[0], threePages[2]] ∧
      threeJob.failingFast.written threeAnswers (siteWorld threePages) threePages = [threePages[0]] ∧
      threeJob.failingFast.reached threeAnswers (siteWorld threePages) threePages =
        [threePages[0], threePages[1]] := by
  decide +kernel

/-- Nothing is in the place of the document that is not written. -/
theorem threePages_vacant : threeJob.Vacant threeAnswers (siteWorld threePages) threePages := by
  refine .of_noCache rfl fun source mem unwritten other reached file among same => ?_
  have apart : ∀ source ∈ threePages, source ∉ [threePages[0], threePages[2]] →
      ((threeJob.target source).resolve []).take 2 ∉
        [["out".toList, "a.md".toList], ["out".toList, "c.md".toList],
          ["out".toList, "typst-img".toList]] := by decide
  rw [threePages_written.1] at unwritten
  refine apart source mem unwritten (congrArg (List.take 2) same ▸ mem_threePages_places ?_ among)
  exact Job.reached_subset threeAnswers threeJob (siteWorld threePages) threePages reached

/-- Nor is anything in the places of the two that are not written if the first failure is to end the run. -/
theorem threePages_vacant_failingFast :
    threeJob.failingFast.Vacant threeAnswers (siteWorld threePages) threePages := by
  refine .of_noCache rfl fun source mem unwritten other reached file among same => ?_
  have apart : ∀ source ∈ threePages, source ∉ [threePages[0]] →
      ((threeJob.target source).resolve []).take 2 ≠ ["out".toList, "a.md".toList] := by decide
  have first : other = threePages[0] := by
    have before : other ∈ threeJob.before threeAnswers (siteWorld threePages) threePages :=
      Job.mem_before_of_failingFast rfl reached among
    rw [← Job.written_failingFast rfl, threePages_written.2.1] at before
    exact List.mem_singleton.mp before
  rw [threePages_written.2.1] at unwritten
  have place : (file.1.resolve []).take 2 = ["out".toList, "a.md".toList] := by
    have places := threePages_places
    simp only [threePages, List.map_cons, List.map_nil, List.cons.injEq, and_true] at places
    have listed := List.mem_map_of_mem (f := fun file : Path × Bytes => (file.1.resolve []).take 2)
      (Job.files_of_failingFast rfl among)
    rw [first] at listed
    exact List.mem_singleton.mp (places.1 ▸ listed)
  exact apart source mem unwritten ((congrArg (List.take 2) same).symm.trans place)

/-- The documents are accounted for. There is an error, and the run is reported with status one. With the
first failure as its end, the run has the first result alone. -/
theorem threePages_accounted :
    (∃ final after, compile barePresses makeThree threeState (siteWorld threePages) = (.ok final, after) ∧
      threeJob.Accounted threeAnswers (siteWorld threePages) threePages threeState final after ∧
      (report final after).1 = .error (.stopped 1)) ∧
    ∃ final after, compile barePresses makeThree (threeState.under (Settings.default.failingFast true))
        (siteWorld threePages) = (.ok final, after) ∧
      threeJob.Halted threeAnswers (siteWorld threePages) threePages
        (threeState.under (Settings.default.failingFast true)) final after ∧
      final.results.map Prod.fst = ["a.md".toList] ∧ final.errors.length = 1 := by
  have made : ∀ flag, makeThree (threeJob.settings.failingFast flag) (siteWorld threePages).host.here =
      .ok threeJob.engine := fun _ => rfl
  obtain ⟨-, all, -, first, reported⟩ := documents_are_accounted_for threePages_isolated
    threePages_vacant threePages_vacant_failingFast rfl made threeState rfl rfl rfl rfl rfl
  constructor
  · obtain ⟨fault, changed, refused, -⟩ | ⟨final, after, run, accounted⟩ := all
    · have returned : (compile barePresses makeThree threeState (siteWorld threePages)).1.toBool = true := by
        decide +kernel
      have ended : compile barePresses makeThree threeState (siteWorld threePages) = _ := refused
      rw [ended] at returned
      exact absurd returned (by simp [Except.toBool])
    · refine ⟨final, after, run, accounted, (reported final after).1.mpr (.inl ?_)⟩
      rw [accounted.told]
      decide +kernel
  · have settings_eq : threeJob.settings = Settings.default := rfl
    rw [settings_eq] at first
    obtain ⟨fault, changed, refused, -⟩ | ⟨final, after, run, halted⟩ := first
    · have returned : (compile barePresses makeThree (threeState.under (Settings.default.failingFast true))
          (siteWorld threePages)).1.toBool = true := by
        decide +kernel
      have ended : compile barePresses makeThree (threeState.under (Settings.default.failingFast true))
        (siteWorld threePages) = _ := refused
      rw [ended] at returned
      exact absurd returned (by simp [Except.toBool])
    · refine ⟨final, after, run, halted, ?_, ?_⟩
      · rw [halted.told]
        decide +kernel
      · rw [halted.told]
        decide +kernel

/-- Two documents of one name, one of them in the directory that is written to, which is below the other one.
-/
def nestedPages : List Source :=
  [⟨Path.ofText "in/a.md".toList, Path.ofText "a.md".toList, "a\n".toList⟩,
    ⟨Path.ofText "in/out/a.md".toList, Path.ofText "out/a.md".toList, "b\n".toList⟩]

/-- The state of a run over them. -/
def nestedState : State :=
  { State.ofOptions default (Path.ofText "in".toList) (Path.ofText "in/out".toList) with
    pattern := .string "**/*.md".toList
    settings := some Settings.default }

/-- The world with these documents. -/
def nestedWorld : World Unit :=
  ⟨{ bareRig with host := { hostOf nestedPages with
    files := (hostOf nestedPages).files.put ["in".toList, "out".toList] .directory } }, []⟩

/-- The run over some of them. -/
def nestedRun (sources : List Source) : Except End State × World Unit :=
  compile barePresses makeThree (nestedState.over (sources.map Source.path)) nestedWorld

/-- The pattern for all documents. -/
def anyDocument : Glob := ⟨[.directories, .pattern [.many, .char '.', .char 'm', .char 'd']], false⟩

/-- The documents that are discovered, with those in the output directory among them. -/
theorem nestedPages_selected :
    anyDocument.select nestedWorld.host.files nestedWorld.host.here (Path.ofText "in".toList) =
      .ok (nestedPages.map Source.path) := by
  have directory : nestedWorld.host.files.isDirectory nestedWorld.host.here (Path.ofText "in".toList) =
      true := by decide
  have found : Glob.selectFrom nestedWorld.host.files nestedWorld.host.here anyDocument.directoriesOnly
      anyDocument.parts (Path.ofText "in".toList) = .ok (nestedPages.map Source.path) := by decide
  have once : (nestedPages.map Source.path).eraseDups = nestedPages.map Source.path := by decide
  have sorted : (nestedPages.map Source.path).Pairwise fun first second => first.le second = true := by
    decide
  unfold Glob.select
  rw [if_pos directory, found]
  simp only [once, List.mergeSort_of_pairwise sorted]

/-- The state with these documents. -/
theorem nestedPages_found : (discover nestedState nestedWorld).1 =
    .ok (nestedState.over (nestedPages.map Source.path)) := by
  have directory : nestedState.input = some (Path.ofText "in".toList) := rfl
  have pattern : patternOf nestedState.pattern = .ok anyDocument := by decide
  have files : (nestedPages.map Source.path).filter nestedWorld.host.isFile =
      nestedPages.map Source.path := by decide
  unfold discover
  rw [directory, pattern]
  simp only [nestedPages_selected, files]
  rfl

/-- Both documents are found, and the run over both has a result for each. The first one is written over the
second one before that is read, so that the text of the first one is written for the second one. In a run of
its own, that is written with its own text. -/
theorem output_over_document :
    (discover nestedState nestedWorld).1 = .ok (nestedState.over (nestedPages.map Source.path)) ∧
      (nestedRun nestedPages).1.toOption.map (fun final => final.results.map Prod.fst) =
        some ["a.md".toList, "out/a.md".toList] ∧
      (nestedRun nestedPages).2.host.content (Path.ofText "in/out/out/a.md".toList) =
        .ok (Text.encodeUtf8 "a\n".toList) ∧
      (nestedRun (nestedPages.drop 1)).1.toBool = true ∧
      (nestedRun (nestedPages.drop 1)).2.host.content (Path.ofText "in/out/out/a.md".toList) =
        .ok (Text.encodeUtf8 "b\n".toList) ∧
      Text.encodeUtf8 "a\n".toList ≠ Text.encodeUtf8 "b\n".toList :=
  ⟨nestedPages_found, by decide +kernel, by decide +kernel, by decide +kernel, by decide +kernel,
    by decide +kernel⟩

end Site

end TypstFences
