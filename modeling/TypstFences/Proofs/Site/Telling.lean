import TypstFences.Proofs.Site.Foreign
import TypstFences.Proofs.Site.Isolation

/-!
# What a run tells and writes

A run over documents that keep apart tells a result or an error of each document that it reaches
(`Job.foldl_told`) and writes no file but those of documents with results (`Job.WritesOnly`). If failures do
not end it, it reaches all documents: each is either among the results, with its files written, or has one
message among the errors and is not written (`Job.Accounted`, `Job.accounted_of_runsTo`). Or the file system
refuses a file to the run (`Job.EndsIn`).
-/

set_option autoImplicit false

namespace TypstFences

namespace Site

variable {ε : Type}

namespace Job

variable {job : Job ε} {answer : Answer} {world : World ε} {source : Source} {sources : List Source}
variable {state : State}

/-! ## What a run tells of documents -/

/-- The result of a document under its name, if it has one. -/
def resultOf (answer : Answer) (job : Job ε) (world : World ε) (source : Source) :
    Option (Text × PassResult) :=
  match job.outcome answer world source with
  | .ok result => some (source.relative.text, result)
  | .error _ => none

/-- The message of the error of a document, if it has one. -/
def errorOf (answer : Answer) (job : Job ε) (world : World ε) (source : Source) : Option Text :=
  match job.outcome answer world source with
  | .ok _ => none
  | .error error => some error.message

/-- What is reported of the failures of a document. -/
def failuresOf (answer : Answer) (job : Job ε) (world : World ε) (source : Source) : List Reported :=
  match job.outcome answer world source with
  | .ok result => result.failures.map .block
  | .error _ => []

/-- The state with results, errors and failures told. -/
def tell (state : State) (results : List (Text × PassResult)) (errors : List Text)
    (failures : List Reported) : State :=
  { state with
    results := state.results ++ results
    errors := state.errors ++ errors
    failures := state.failures ++ failures }

/-- The documents that a run writes: those that it reaches and that have a result. -/
def written (answer : Answer) (job : Job ε) (world : World ε) (sources : List Source) : List Source :=
  (job.reached answer world sources).filter fun source => (job.outcome answer world source).toBool

/-- Whether no file of a run is in the place of a document that is not written. -/
def Vacant (answer : Answer) (job : Job ε) (world : World ε) (sources : List Source) : Prop :=
  ∀ source ∈ sources, source ∉ job.written answer world sources →
    ∀ other ∈ job.reached answer world sources,
    (∀ file ∈ job.files answer world other,
      file.1.resolve world.host.here ≠ (job.target source).resolve world.host.here) ∧
    ∀ key place, job.KeepsAt answer world other key place →
      place ≠ (job.target source).resolve world.host.here

/-- Whether the files at a place are as they were before a run. -/
def SameAt (world after : World ε) (place : Place) : Prop :=
  ∀ content, after.host.files.node? place = some (.file content) ↔
    world.host.files.node? place = some (.file content)

/-- Whether a run writes no file but those of some documents, and those that artifacts of some documents are
kept in. -/
def WritesOnly (answer : Answer) (job : Job ε) (world after : World ε) (written reached : List Source) :
    Prop :=
  ∀ place, (∀ source ∈ written, ∀ file ∈ job.files answer world source,
      file.1.resolve world.host.here ≠ place) →
    (∀ source ∈ reached, ∀ key, ¬job.KeepsAt answer world source key place) → SameAt world after place

/-- Whether all documents of a run are accounted for at its end. Each has its result told and its files
written, or its error is one about its structure and is told, and no file is written in its place. No other
file is written. -/
structure Accounted (answer : Answer) (job : Job ε) (world : World ε) (sources : List Source)
    (state final : State) (after : World ε) : Prop where
  told : final = tell state (sources.filterMap (job.resultOf answer world))
    (sources.filterMap (job.errorOf answer world)) (sources.flatMap (job.failuresOf answer world))
  written : ∀ source ∈ sources, ∀ result, job.outcome answer world source = .ok result →
    ∀ file ∈ filesOf job.settings (job.target source) result,
      after.host.files.HasFile world.host.here file.1 file.2
  unwritten : ∀ source ∈ sources, ∀ error, job.outcome answer world source = .error error →
    error.isStructural = true ∧ SameAt world after ((job.target source).resolve world.host.here)
  elsewhere : job.WritesOnly answer world after sources sources

/-- Whether a run ends in some way, or with a file that the file system refuses it. -/
def EndsIn (run : Except End State × World ε) (refused : FileError → Prop)
    (wanted : State → World ε → Prop) : Prop :=
  (∃ fault changed, run = (.error (.broken (.refusedFile fault)), changed) ∧ refused fault) ∨
    ∃ final after, run = (.ok final, after) ∧ wanted final after

/-! ## Runs that go on -/

/-- A run that goes on reaches all its documents. -/
theorem reached_of_noFailFast (noFailFast : job.settings.failFast = false) (sources : List Source) :
    job.reached answer world sources = sources := by
  induction sources with
  | nil => rfl
  | cons source sources ih =>
    rw [reached, ih]
    cases job.outcome answer world source with
    | ok result => rfl
    | error error => simp [noFailFast]

/-- An error is told. -/
theorem told_of_error {error : PassError} (outcome_eq : job.outcome answer world source = .error error) :
    job.told answer world state source = tell state [] [error.message] [] := by
  rw [told, outcome_eq]
  simp only [State.withError, tell, List.append_nil]

/-- A result is told with its failures. -/
theorem told_of_result {result : PassResult} (outcome_eq : job.outcome answer world source = .ok result)
    (new : source.relative.text ∉ state.results.map Prod.fst) :
    job.told answer world state source =
      tell state [(source.relative.text, result)] [] (result.failures.map .block) := by
  have put_eq : Named.put source.relative.text result state.results =
      state.results ++ [(source.relative.text, result)] := Named.put_of_absent result new
  rw [told, outcome_eq]
  simp only [State.withResult, put_eq, tell, List.append_nil]

/-- What is told in two steps can be told in one. -/
theorem tell_tell (results results' : List (Text × PassResult)) (errors errors' : List Text)
    (failures failures' : List Reported) :
    tell (tell state results errors failures) results' errors' failures' =
      tell state (results ++ results') (errors ++ errors') (failures ++ failures') := by
  simp only [tell, List.append_assoc]

/-- Documents whose names are new to a state are new to it with the result of another one. -/
theorem new_of_nodup {result : PassResult} {errors : List Text} {failures : List Reported}
    (names : ((source :: sources).map fun source => source.relative.text).Nodup)
    (new : ∀ other ∈ source :: sources, other.relative.text ∉ state.results.map Prod.fst) :
    ∀ other ∈ sources, other.relative.text ∉
      (tell state [(source.relative.text, result)] errors failures).results.map Prod.fst := by
  intro other mem
  rw [List.map_cons, List.nodup_cons] at names
  have differ : other.relative.text ≠ source.relative.text := fun same =>
    names.1 (same ▸ List.mem_map_of_mem mem)
  simp [tell, differ, new other (List.mem_cons_of_mem _ mem)]

/-- The results, errors and failures of documents are told in their order. -/
theorem foldl_told {sources : List Source} (names : (sources.map fun source => source.relative.text).Nodup) :
    ∀ {state : State}, (∀ source ∈ sources, source.relative.text ∉ state.results.map Prod.fst) →
      sources.foldl (job.told answer world) state =
        tell state (sources.filterMap (job.resultOf answer world))
          (sources.filterMap (job.errorOf answer world)) (sources.flatMap (job.failuresOf answer world)) := by
  induction sources with
  | nil =>
    intro state _
    simp [tell]
  | cons source sources ih =>
    intro state new
    have rest := (List.nodup_cons.mp (List.map_cons ▸ names)).2
    cases outcome_eq : job.outcome answer world source with
    | error error =>
      rw [List.foldl_cons, told_of_error outcome_eq, ih rest, tell_tell]
      · simp [resultOf, errorOf, failuresOf, outcome_eq]
      · simpa [tell] using fun other mem => new other (List.mem_cons_of_mem _ mem)
    | ok result =>
      rw [List.foldl_cons, told_of_result outcome_eq (new source List.mem_cons_self),
        ih rest (new_of_nodup names new), tell_tell]
      simp [resultOf, errorOf, failuresOf, outcome_eq]

/-- A document without a result is not written. -/
theorem notMem_written_of_error {error : PassError}
    (outcome_eq : job.outcome answer world source = .error error) :
    source ∉ job.written answer world sources := by
  intro mem
  have has_result := (List.mem_filter.mp mem).2
  rw [outcome_eq] at has_result
  exact absurd has_result (by simp [Except.toBool])

/-- A run writes no files but those of the documents that it reaches, and those that their artifacts are kept
in. -/
theorem writesOnly_of_edited (isolated : job.Isolated answer world sources) {after : World ε}
    (edited : Host.Edited (job.RunEdits answer world (job.reached answer world sources) (job.start world))
      world.host after.host) :
    job.WritesOnly answer world after (job.reached answer world sources)
      (job.reached answer world sources) := by
  intro place unwritten unkept content
  refine edited.files.file_iff fun edit edits same => ?_
  rcases edits.cases isolated.expects with ⟨place, rfl⟩ | ⟨other, listed, key, -, keeps⟩ |
    ⟨other, listed, file, among, rfl⟩
  · exact congrArg Edit.directory same
  · exact absurd (same ▸ keeps) (unkept other listed key)
  · exact absurd same (unwritten other listed file among)

/-- A run over documents that keep apart accounts for all of them. -/
theorem accounted_of_runsTo (isolated : job.Isolated answer world sources)
    (noFailFast : job.settings.failFast = false) (vacant : job.Vacant answer world sources)
    (new : state.results = []) {run : Except End State × World ε}
    (runs : job.RunsTo answer world sources state (job.start world) run) :
    EndsIn run (job.Refuses answer world sources (job.start world))
      (job.Accounted answer world sources state) := by
  have writes_only {after : World ε} (edited : Host.Edited
      (job.RunEdits answer world (job.reached answer world sources) (job.start world)) world.host
        after.host) : job.WritesOnly answer world after (job.reached answer world sources)
          (job.reached answer world sources) := writesOnly_of_edited isolated edited
  unfold RunsTo at runs
  unfold Vacant at vacant
  rw [reached_of_noFailFast noFailFast] at runs vacant writes_only
  rcases runs with refused | ⟨after, ran, edited, files⟩
  · exact .inl refused
  have elsewhere := writes_only edited
  refine .inr ⟨_, after, ran, foldl_told isolated.names (by simp [new]), ?_, ?_, elsewhere⟩
  · intro source mem result outcome_eq file among
    refine files source mem file ?_
    rw [Job.files, outcome_eq]
    exact among
  · intro source mem error outcome_eq
    refine ⟨Pass.isStructural_of_foretold isolated.embeds noFailFast outcome_eq, elsewhere _ ?_ ?_⟩
    · exact fun other listed => (vacant source mem (notMem_written_of_error outcome_eq) other listed).1
    · exact fun other listed key keeps =>
        (vacant source mem (notMem_written_of_error outcome_eq) other listed).2 key _ keeps rfl

/-- Without a directory for the cache, documents keep apart if no file of one is where a later one is read. -/
theorem Isolated.of_noCache (noCache : job.settings.cacheDir = none)
    (answers : job.engine.Answers job.version (answer job.version job.engine.root job.settings.outputFormat))
    (spares : job.engine.SparesFiles) (embeds : job.settings.Embeds job.presses.highlighter)
    (steady : job.settings.Steady) (noCollisions : NoCollisions (sources.map job.call))
    (found : ∀ source ∈ sources, source.Found job.input world.host)
    (names : (sources.map fun source => source.relative.text).Nodup)
    (single : Host.Single world.host.here (sources.flatMap (job.files answer world)))
    (unwritten : sources.Pairwise fun first second => ∀ file ∈ job.files answer world first,
      file.1.resolve world.host.here ≠ second.path.resolve world.host.here) :
    job.Isolated answer world sources := by
  have unused (path : Path) : job.cachePath ≠ some path := by
    rw [cachePath, noCache]
    exact Option.some_ne_none path |>.symm
  have nowhere (source : Source) (key : Text) (place : Place) :
      ¬job.KeepsAt answer world source key place := by
    rintro ⟨path, _, _, used, _⟩
    exact unused path used
  exact ⟨answers, spares, embeds, steady, noCollisions, found, names,
    fun path used => absurd used (unused path),
    fun _ _ path used => absurd used (unused path), single, unwritten.imp fun unwritten =>
      ⟨unwritten, fun key place keeps => absurd keeps (nowhere _ key place),
        fun _ _ key _ => nowhere _ key _, fun path used => absurd used (unused path)⟩⟩

/-- Without a directory for the cache, the places of documents that are not written are free if no file of a
document that the run reaches is there. -/
theorem Vacant.of_noCache (noCache : job.settings.cacheDir = none)
    (free : ∀ source ∈ sources, source ∉ job.written answer world sources →
      ∀ other ∈ job.reached answer world sources, ∀ file ∈ job.files answer world other,
        file.1.resolve world.host.here ≠ (job.target source).resolve world.host.here) :
    job.Vacant answer world sources := by
  refine fun source mem unwritten other reached => ⟨free source mem unwritten other reached, ?_⟩
  rintro key place ⟨path, _, _, used, _⟩
  rw [cachePath, noCache] at used
  exact absurd used (Option.some_ne_none path).symm

/-- The places of documents that are not written are free in each run over some of them that goes on. -/
theorem Vacant.sublist (h : job.Vacant answer world sources) (noFailFast : job.settings.failFast = false)
    {fewer : List Source} (among : fewer.Sublist sources) : job.Vacant answer world fewer := by
  unfold Vacant written at h ⊢
  rw [reached_of_noFailFast noFailFast] at h ⊢
  intro source mem unwritten other mem'
  refine h source (among.subset mem) (fun written => unwritten ?_) other (among.subset mem')
  exact List.mem_filter.mpr ⟨mem, (List.mem_filter.mp written).2⟩

end Job

end Site

end TypstFences
