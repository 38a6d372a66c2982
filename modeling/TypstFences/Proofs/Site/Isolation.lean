import TypstFences.Proofs.Pass.Sequence
import TypstFences.Proofs.Site.Writing

/-!
# Documents of one run

The documents of a run share a cache and the file system. What each comes to is foretold at the start, as if
it were the only one (`Job.outcome`). If their files keep apart from each other and from the files of the
cache (`Job.Apart`), a run that is not refused a file comes to just that with one document after the other,
and all that it wrote is there at its end (`compileAll_isolated`). A run that is to end with the first failure
goes as far as the first document that has no result.
-/

set_option autoImplicit false

namespace TypstFences.Site

variable {ε : Type}

/-- What the documents of a run are compiled with, and where they are found and written. -/
structure Job (ε : Type) where
  presses : Presses
  settings : Settings
  engine : Engine ε
  version : Text
  input : Path
  output : Path

namespace Job

variable {job : Job ε} {answer : Answer} {world : World ε} {source : Source} {sources : List Source}

/-! ## What documents come to -/

/-- The pass over a document, with objects where they stand on an empty host. -/
def call (job : Job ε) (source : Source) : PassCall ε where
  schedule := Schedule.inOrder
  press := job.presses.at default
  settings := job.settings
  engine := job.engine
  version := job.version
  registry := Registry.typst
  name := source.relative.text
  source := source.text

/-- The path of the directory of the cache. -/
def cachePath (job : Job ε) : Option Path := (Cache.new job.settings.cacheDir).directory

/-- The session at the start of a run. -/
def start (job : Job ε) (world : World ε) : Session ε := ⟨Cache.new job.settings.cacheDir, world.rig⟩

/-- The path that a document is written to. -/
def target (job : Job ε) (source : Source) : Path := job.output.join source.relative

/-- What a document comes to in a world. -/
def outcome (answer : Answer) (job : Job ε) (world : World ε) (source : Source) :
    Except PassError PassResult :=
  (job.call source).foretold answer (job.start world)

/-- The files that are written for a document. -/
def files (answer : Answer) (job : Job ε) (world : World ε) (source : Source) : List (Path × Bytes) :=
  match job.outcome answer world source with
  | .ok result => filesOf job.settings (job.target source) result
  | .error _ => []

/-- The edits that a document is written by. -/
def Writes (answer : Answer) (job : Job ε) (world : World ε) (source : Source) (edit : Edit) : Prop :=
  ∃ result, job.outcome answer world source = .ok result ∧
    WriteEdits job.settings (job.target source) result world.host.here edit

/-- Whether a place is one of a file that an artifact is saved by, under a key that a document asks for. -/
def KeepsAt (answer : Answer) (job : Job ε) (world : World ε) (source : Source) (key : Text)
    (place : Place) : Prop :=
  ∃ path request artifact, job.cachePath = some path ∧ request ∈ (job.call source).requests ∧
    ((job.call source).rendering answer).digest request = key ∧
    ((job.call source).rendering answer).answer request = .artifact artifact ∧
    place ∈ Store.places path world.host.tag key artifact world.host.here

/-- The state of a run after one more document. -/
def told (answer : Answer) (job : Job ε) (world : World ε) (state : State) (source : Source) : State :=
  match job.outcome answer world source with
  | .ok result => state.withResult source.relative.text result
  | .error error => state.withError error

/-- The documents that a run comes to: all of them, or those up to the first one without a result. -/
def reached (answer : Answer) (job : Job ε) (world : World ε) : List Source → List Source
  | [] => []
  | source :: sources =>
    match job.outcome answer world source with
    | .ok _ => source :: job.reached answer world sources
    | .error _ =>
      if job.settings.failFast then [source] else source :: job.reached answer world sources

/-! ## Documents that keep apart -/

/-- Whether the files of a document keep apart from a document that is compiled later. -/
structure Apart (answer : Answer) (job : Job ε) (world : World ε) (first second : Source) : Prop where
  unwritten : ∀ file ∈ job.files answer world first,
    file.1.resolve world.host.here ≠ second.path.resolve world.host.here
  unsaved : ∀ key place, job.KeepsAt answer world first key place →
    place ≠ second.path.resolve world.host.here
  kept : ∀ file ∈ job.files answer world first, ∀ key, ¬(job.call first).keys key →
    ¬job.KeepsAt answer world second key (file.1.resolve world.host.here)
  free : ∀ path, job.cachePath = some path → ∀ edit, job.Writes answer world first edit →
    ∀ name, edit.place = path.resolve world.host.here ++ [name] →
      ∀ key, (job.call second).keys key → ¬(job.call first).keys key → ¬Store.Concerns key name

/-- Whether a document gives the directory of the cache no name with a slash. -/
def Clean (answer : Answer) (job : Job ε) (world : World ε) (source : Source) : Prop :=
  ∀ path, job.cachePath = some path → ∀ edit, job.Writes answer world source edit →
    ∀ name, edit.place = path.resolve world.host.here ++ [name] → '/' ∉ name

/-- What is assumed of the documents of a run: the engine answers as it should and changes no files, what
blocks come to can be written and does not show where objects stand, and different payloads have different
digests. The documents are where they are said to be and have different names, and the directory of the cache
is clear. No two files that are written in one place have a different content, and the documents keep apart.
-/
structure Isolated (answer : Answer) (job : Job ε) (world : World ε) (sources : List Source) : Prop where
  answers : job.engine.Answers job.version (answer job.version job.engine.root job.settings.outputFormat)
  spares : job.engine.SparesFiles
  embeds : job.settings.Embeds job.presses.highlighter
  steady : job.settings.Steady
  noCollisions : NoCollisions (sources.map job.call)
  found : ∀ source ∈ sources, source.Found job.input world.host
  names : (sources.map fun source => source.relative.text).Nodup
  clear : ∀ path, job.cachePath = some path →
    Store.Clear path (keysOf (sources.map job.call)) world.host
  clean : ∀ source ∈ sources, job.Clean answer world source
  single : Host.Single world.host.here (sources.flatMap (job.files answer world))
  apart : sources.Pairwise (job.Apart answer world)

/-! ## The files of a run -/

/-- The edits of a run over documents in a session: those that the artifacts of one of them are saved by, and
those that one of them is written by. -/
def RunEdits (answer : Answer) (job : Job ε) (world : World ε) (sources : List Source) (session : Session ε)
    (edit : Edit) : Prop :=
  ∃ source ∈ sources, session.Saves (valueOf answer [job.call source]) (job.call source).keys edit ∨
    job.Writes answer world source edit

/-- Whether the file system refuses a file to a run over documents: after some of the edits of the run, an
artifact of one of them cannot be looked for or kept in the directory of the cache, or a file of its result
cannot be written. -/
inductive Refuses (answer : Answer) (job : Job ε) (world : World ε) (sources : List Source)
    (session : Session ε) (fault : FileError) : Prop
  | artifact {source : Source} {between : Session ε} (listed : source ∈ sources)
      (directory : between.cache.directory = job.cachePath)
      (edited : Host.Edited (job.RunEdits answer world sources session) session.rig.host between.rig.host)
      (refuses : between.Refuses (valueOf answer [job.call source]) (job.call source).keys fault) :
      Refuses answer job world sources session fault
  | result {source : Source} {result : PassResult} {host : Host} (listed : source ∈ sources)
      (outcome : job.outcome answer world source = .ok result)
      (edited : Host.Edited (job.RunEdits answer world sources session) session.rig.host host)
      (refuses : WriteRefused job.settings (job.target source) result host fault) :
      Refuses answer job world sources session fault

/-- A document is written by directories and by its files. -/
theorem writes_place {edit : Edit} (writes : job.Writes answer world source edit) :
    (∃ place, edit = .directory place) ∨
      ∃ file ∈ job.files answer world source, edit = .file (file.1.resolve world.host.here) file.2 := by
  obtain ⟨result, outcome, edits⟩ := writes
  cases edit with
  | directory place => exact .inl ⟨place, rfl⟩
  | file place content =>
    obtain ⟨file, mem, same⟩ := edits
    refine .inr ⟨file, ?_, same⟩
    unfold files
    rw [outcome]
    exact mem
  | removal place => exact absurd edits not_false

/-- What a document saves in a session is saved under a key that nothing was remembered for. -/
theorem keepsAt_of_saves {session : Session ε} {edit : Edit}
    (h : Session.Expects (valueOf answer (sources.map job.call)) (job.start world) session)
    (saves : session.Saves (valueOf answer [job.call source]) (job.call source).keys edit) :
    (∃ place, edit = .directory place) ∨
      ∃ key, session.cache.entry? key = none ∧ job.KeepsAt answer world source key edit.place := by
  obtain ⟨path, key, artifact, used, -, absent, known, saved⟩ := saves
  obtain ⟨call, mem, request, asked, digest, answered⟩ := expected_of_valueOf known
  obtain rfl := List.mem_singleton.mp mem
  rw [h.tag, h.here] at saved
  have keeps (there : edit.place ∈ Store.places path world.host.tag key artifact world.host.here) :
      job.KeepsAt answer world source key edit.place :=
    ⟨path, request, artifact, h.directory.symm.trans used, asked, digest, answered, there⟩
  cases edit with
  | directory place => exact .inl ⟨place, rfl⟩
  | file place content => exact .inr ⟨key, absent, keeps saved⟩
  | removal place => exact .inr ⟨key, absent, keeps saved⟩

/-- A document is still found after a pass over one that keeps apart from it. -/
theorem found_of_advances {session after : Session ε} {input : Path} {other : Source}
    (h : Session.Expects (valueOf answer (sources.map job.call)) (job.start world) session)
    (advances : Session.Advances (valueOf answer [job.call source]) (job.call source).keys session after)
    (apart : job.Apart answer world source other) (found : other.Found input session.rig.host) :
    other.Found input after.rig.host := by
  refine found.edited advances.edited fun edit saves same => ?_
  rcases keepsAt_of_saves h saves with ⟨place, rfl⟩ | ⟨key, -, keeps⟩
  · exact .inl (congrArg Edit.directory same)
  · rw [h.here] at same
    exact absurd same (apart.unsaved key _ keeps)

/-- A document is still found when one is written that keeps apart from it. -/
theorem found_of_writes {host after : Host} {input : Path} {other : Source}
    (here_eq : host.here = world.host.here)
    (edited : Host.Edited (job.Writes answer world source) host after)
    (apart : job.Apart answer world source other) (found : other.Found input host) :
    other.Found input after := by
  refine found.edited edited fun edit writes same => ?_
  rcases writes_place writes with ⟨place, rfl⟩ | ⟨file, mem, rfl⟩
  · exact .inl (congrArg Edit.directory same)
  · rw [here_eq] at same
    exact absurd same (apart.unwritten file mem)

/-- A run makes directories, saves under keys that nothing was remembered for, and writes the files of its
documents. -/
theorem RunEdits.cases {session : Session ε} {edit : Edit} {all : List Source}
    (h : Session.Expects (valueOf answer (all.map job.call)) (job.start world) session)
    (edits : job.RunEdits answer world sources session edit) :
    (∃ place, edit = .directory place) ∨
      (∃ source ∈ sources, ∃ key, session.cache.entry? key = none ∧
        job.KeepsAt answer world source key edit.place) ∨
      ∃ source ∈ sources, ∃ file ∈ job.files answer world source,
        edit = .file (file.1.resolve world.host.here) file.2 := by
  obtain ⟨source, listed, saves | writes⟩ := edits
  · rcases keepsAt_of_saves h saves with directory | keeps
    · exact .inl directory
    · exact .inr (.inl ⟨source, listed, keeps⟩)
  · rcases writes_place writes with directory | file
    · exact .inl directory
    · exact .inr (.inr ⟨source, listed, file⟩)

/-- The files of a document stay while others are compiled and written, once all is remembered that it asked
for. -/
theorem files_stay {session : Session ε} {after : Host} {later : List Source} (among : later ⊆ sources)
    (h : Session.Expects (valueOf answer (sources.map job.call)) (job.start world) session)
    (remembered : ∀ key, (job.call source).keys key → session.cache.entry? key ≠ none)
    (single : Host.Single world.host.here ((source :: sources).flatMap (job.files answer world)))
    (apart : ∀ other ∈ sources, job.Apart answer world source other)
    (edited : Host.Edited (job.RunEdits answer world later session) session.rig.host after)
    {file : Path × Bytes} (mem : file ∈ job.files answer world source)
    (there : session.rig.host.files.HasFile world.host.here file.1 file.2) :
    after.files.HasFile world.host.here file.1 file.2 := by
  refine edited.files.hasFile there fun edit edits same => ?_
  rcases edits.cases h with ⟨place, rfl⟩ | ⟨other, listed, key, absent, keeps⟩ |
    ⟨other, listed, file', mem', rfl⟩
  · exact .inl (congrArg Edit.directory same)
  · rw [same] at keeps
    exact absurd keeps
      ((apart other (among listed)).kept file mem key fun asked => remembered key asked absent)
  · have place_eq : file'.1.resolve world.host.here = file.1.resolve world.host.here := same
    have content_eq := single file'
      (List.mem_flatMap.mpr ⟨other, List.mem_cons_of_mem _ (among listed), mem'⟩)
      file (List.mem_flatMap.mpr ⟨source, List.mem_cons_self, mem⟩) place_eq
    rw [place_eq, content_eq]
    exact .inr rfl

/-- What is saved and written for the later documents of a run is among the edits of the whole run. -/
theorem RunEdits.cons {session after : Session ε} {edit : Edit}
    (directory : after.cache.directory = session.cache.directory)
    (kept : ∀ key, session.cache.entry? key ≠ none → after.cache.entry? key ≠ none)
    (here : after.rig.host.here = session.rig.host.here) (tag : after.rig.host.tag = session.rig.host.tag)
    (edits : job.RunEdits answer world sources after edit) :
    job.RunEdits answer world (source :: sources) session edit := by
  obtain ⟨other, listed, ⟨path, key, artifact, used, asked, absent, known, saved⟩ | writes⟩ := edits
  · rw [here, tag] at saved
    refine ⟨other, List.mem_cons_of_mem _ listed, .inl ⟨path, key, artifact, directory ▸ used, asked, ?_,
      known, saved⟩⟩
    by_contra there
    exact kept key there absent
  · exact ⟨other, List.mem_cons_of_mem _ listed, .inr writes⟩

/-- What is refused to the later documents of a run is refused to the whole run. -/
theorem Refuses.cons {session after : Session ε} {fault : FileError}
    (edited : Host.Edited (job.RunEdits answer world (source :: sources) session) session.rig.host
      after.rig.host)
    (directory : after.cache.directory = session.cache.directory)
    (kept : ∀ key, session.cache.entry? key ≠ none → after.cache.entry? key ≠ none)
    (refuses : job.Refuses answer world sources after fault) :
    job.Refuses answer world (source :: sources) session fault := by
  have among (edit : Edit) (edits : job.RunEdits answer world sources after edit) :
      job.RunEdits answer world (source :: sources) session edit :=
    edits.cons directory kept edited.here edited.tag
  cases refuses with
  | artifact listed used edited' refuses =>
    exact .artifact (List.mem_cons_of_mem _ listed) used (edited.trans (edited'.mono among)) refuses
  | result listed outcome edited' refuses =>
    exact .result (List.mem_cons_of_mem _ listed) outcome (edited.trans (edited'.mono among)) refuses

/-! ## The run -/

/-- Whether a session is ready for documents that keep apart: they are found, and what was foretold for them
at the start is still expected. -/
structure Ready (answer : Answer) (job : Job ε) (world : World ε) (sources : List Source) (state : State)
    (session : Session ε) : Prop where
  directory : state.output = some job.output
  noCollisions : NoCollisions (sources.map job.call)
  found : ∀ source ∈ sources, source.Found job.input session.rig.host
  clean : ∀ source ∈ sources, job.Clean answer world source
  single : Host.Single world.host.here (sources.flatMap (job.files answer world))
  apart : sources.Pairwise (job.Apart answer world)
  expects : Session.Expects (valueOf answer (sources.map job.call)) (job.start world) session

/-- Whether a run over documents comes to what is foretold for each that it reaches, with all that it wrote in
its place and nothing else changed, unless the file system refuses it a file. -/
def RunsTo (answer : Answer) (job : Job ε) (world : World ε) (sources : List Source) (state : State)
    (session : Session ε) (run : Except End State × World ε) : Prop :=
  (∃ fault changed, run = (.error (.broken (.refusedFile fault)), changed) ∧
      job.Refuses answer world (job.reached answer world sources) session fault) ∨
    ∃ after, run = (.ok ((job.reached answer world sources).foldl (job.told answer world) state), after) ∧
      Host.Edited (job.RunEdits answer world (job.reached answer world sources) session) session.rig.host
        after.host ∧
      ∀ source ∈ job.reached answer world sources, ∀ file ∈ job.files answer world source,
        after.host.files.HasFile world.host.here file.1 file.2

/-- The documents that a run reaches are among its documents. -/
theorem reached_subset (answer : Answer) (job : Job ε) (world : World ε) (sources : List Source) :
    job.reached answer world sources ⊆ sources := by
  induction sources with
  | nil => exact List.Subset.refl _
  | cons source sources ih =>
    unfold reached
    cases job.outcome answer world source with
    | ok result => exact List.cons_subset_cons source ih
    | error error =>
      simp only
      split
      · exact List.cons_subset_cons source (List.nil_subset sources)
      · exact List.cons_subset_cons source ih

/-- A session is ready for the later documents of a run after the first one. -/
theorem Ready.tail {state' : State} {session after : Session ε} {state : State}
    (h : job.Ready answer world (source :: sources) state session)
    (directory : state'.output = some job.output)
    (found : ∀ other ∈ sources, other.Found job.input after.rig.host)
    (expects : Session.Expects (valueOf answer (sources.map job.call)) (job.start world) after) :
    job.Ready answer world sources state' after where
  directory := directory
  noCollisions := h.noCollisions.tail
  found := found
  clean other mem := h.clean other (List.mem_cons_of_mem _ mem)
  single file mem other mem' :=
    h.single file (List.mem_append_right _ mem) other (List.mem_append_right _ mem')
  apart := (List.pairwise_cons.mp h.apart).2
  expects := expects

section Step

variable {state : State} {session noted after : Session ε} {run : Except End State × World ε}

/-- What a pass saves is among the edits of the run. -/
theorem edited_of_advances (world : World ε) (same : Store.SameFiles session.rig.host noted.rig.host)
    (cache : noted.cache = session.cache) (listed : source ∈ sources)
    (advances : Session.Advances (valueOf answer [job.call source]) (job.call source).keys noted after) :
    Host.Edited (job.RunEdits answer world sources session) session.rig.host after.rig.host := by
  refine (Host.Edited.of_sameFiles same).trans
    (advances.edited.mono fun edit saves => ⟨source, listed, .inl ?_⟩)
  obtain ⟨path, key, artifact, used, asked, absent, known, saved⟩ := saves
  rw [same.here, same.tag] at saved
  rw [cache] at used absent
  exact ⟨path, key, artifact, used, asked, absent, known, saved⟩

/-- A run always reaches its first document. -/
theorem mem_reached (answer : Answer) (job : Job ε) (world : World ε) (source : Source)
    (sources : List Source) : source ∈ job.reached answer world (source :: sources) := by
  unfold reached
  cases job.outcome answer world source with
  | ok result => exact List.mem_cons_self
  | error error =>
    simp only
    split <;> exact List.mem_cons_self

/-- A run goes on behind a document as it goes on with the others. -/
theorem RunsTo.cons {state' : State} {between : Session ε}
    (h : job.Ready answer world (source :: sources) state session)
    (reached : job.reached answer world (source :: sources) = source :: job.reached answer world sources)
    (told : job.told answer world state source = state')
    (edited : Host.Edited (job.RunEdits answer world (job.reached answer world (source :: sources)) session)
      session.rig.host between.rig.host)
    (directory : between.cache.directory = session.cache.directory)
    (kept : ∀ key, session.cache.entry? key ≠ none → between.cache.entry? key ≠ none)
    (files : ∀ after, Host.Edited (job.RunEdits answer world (job.reached answer world sources) between)
        between.rig.host after →
      ∀ file ∈ job.files answer world source, after.files.HasFile world.host.here file.1 file.2)
    (rest : job.RunsTo answer world sources state' between run) :
    job.RunsTo answer world (source :: sources) state session run := by
  rcases rest with ⟨fault, changed, refused, refuses⟩ | ⟨final, ran, edited', files'⟩
  · rw [reached] at edited
    refine .inl ⟨fault, changed, refused, ?_⟩
    rw [reached]
    exact refuses.cons edited directory kept
  · refine .inr ⟨final, ?_, edited.trans (edited'.mono fun edit edits => ?_), fun other mem => ?_⟩
    · rw [ran, reached, List.foldl_cons, told]
    · rw [reached]
      exact edits.cons directory kept edited.here edited.tag
    · rw [reached] at mem
      rcases List.mem_cons.mp mem with rfl | later
      · exact files final.host edited'
      · exact files' other later

/-- Whether the pass over the first document of a run has left a session in which the others are found and
come to what was foretold. -/
structure Passed (answer : Answer) (job : Job ε) (world : World ε) (source : Source) (sources : List Source)
    (session after : Session ε) : Prop where
  edited : Host.Edited (job.RunEdits answer world (job.reached answer world (source :: sources)) session)
    session.rig.host after.rig.host
  found : ∀ other ∈ sources, other.Found job.input after.rig.host
  expects : Session.Expects (valueOf answer (sources.map job.call)) (job.start world) after
  directory : after.cache.directory = session.cache.directory
  kept : ∀ key, session.cache.entry? key ≠ none → after.cache.entry? key ≠ none

/-- The pass over the first document leaves a session for the others. -/
theorem Ready.passed (h : job.Ready answer world (source :: sources) state session)
    (same : Store.SameFiles session.rig.host noted.rig.host) (cache : noted.cache = session.cache)
    (follows : Session.Follows answer (sources.map job.call) (job.call source) (job.start world) noted
      after) :
    job.Passed answer world source sources session after := by
  have expects := h.expects.sameFiles (congrArg Cache.directory cache) (congrArg Cache.entries cache) same
  refine ⟨edited_of_advances world same cache (mem_reached answer job world source sources)
    follows.advances, fun other mem => ?_, follows.expects, cache ▸ follows.advances.directory,
    cache ▸ follows.advances.kept⟩
  refine found_of_advances expects follows.advances ((List.pairwise_cons.mp h.apart).1 other mem)
    ⟨(h.found other (List.mem_cons_of_mem _ mem)).relative, ?_⟩
  rw [same.files, same.here]
  exact (h.found other (List.mem_cons_of_mem _ mem)).file

/-- A run ends with a document without a result, or goes on with the others. -/
theorem runsTo_of_error (h : job.Ready answer world (source :: sources) state session)
    (passed : job.Passed answer world source sources session after) {error : PassError}
    (outcome_eq : job.outcome answer world source = .error error) (complaints : List Complaint)
    (next : job.Ready answer world sources (state.withError error) after →
      job.RunsTo answer world sources (state.withError error) after run) :
    job.RunsTo answer world (source :: sources) state session
      (if job.settings.failFast then (.ok (state.withError error), ⟨after.rig, complaints⟩) else run) := by
  have no_files : job.files answer world source = [] := by
    rw [files, outcome_eq]
  have told_eq : job.told answer world state source = state.withError error := by
    rw [told, outcome_eq]
  by_cases failFast : job.settings.failFast = true
  · have reached_eq : job.reached answer world (source :: sources) = [source] := by
      rw [reached, outcome_eq, if_pos failFast]
    rw [if_pos failFast]
    refine .inr ⟨⟨after.rig, complaints⟩, ?_, passed.edited, fun other mem file among => ?_⟩
    · rw [reached_eq, List.foldl_cons, told_eq, List.foldl_nil]
    · rw [reached_eq, List.mem_singleton] at mem
      rw [mem, no_files] at among
      exact absurd among List.not_mem_nil
  · have reached_eq : job.reached answer world (source :: sources) =
        source :: job.reached answer world sources := by
      rw [reached, outcome_eq, if_neg failFast]
    rw [if_neg failFast]
    refine RunsTo.cons h reached_eq told_eq passed.edited passed.directory passed.kept ?_
      (next (h.tail h.directory passed.found passed.expects))
    rw [no_files]
    exact fun _ _ _ mem => absurd mem List.not_mem_nil

/-- A run goes on with the others when the result of a document is written. -/
theorem runsTo_of_result (h : job.Ready answer world (source :: sources) state session)
    (passed : job.Passed answer world source sources session after) {result : PassResult}
    (outcome_eq : job.outcome answer world source = .ok result)
    (remembered : ∀ key, (job.call source).keys key → after.cache.entry? key ≠ none) (host : Host)
    (writes : Host.Edited (job.Writes answer world source) after.rig.host host)
    (there : ∀ file ∈ job.files answer world source, host.files.HasFile world.host.here file.1 file.2)
    (next : job.Ready answer world sources (state.withResult source.relative.text result)
        (after.withHost host) →
      job.RunsTo answer world sources (state.withResult source.relative.text result) (after.withHost host)
        run) :
    job.RunsTo answer world (source :: sources) state session run := by
  have apart := (List.pairwise_cons.mp h.apart).1
  have told_eq : job.told answer world state source = state.withResult source.relative.text result := by
    rw [told, outcome_eq]
  have reached_eq : job.reached answer world (source :: sources) =
      source :: job.reached answer world sources := by
    rw [reached, outcome_eq]
  have found : ∀ other ∈ sources, other.Found job.input host := fun other mem =>
    found_of_writes passed.expects.here writes (apart other mem) (passed.found other mem)
  have expects : Session.Expects (valueOf answer (sources.map job.call)) (job.start world)
      (after.withHost host) := by
    refine passed.expects.edited (fun key => isKey_of_valueOf) writes fun path used edit mem name same => ?_
    have used' : job.cachePath = some path := passed.expects.directory.symm.trans used
    rw [passed.expects.here] at same
    refine ⟨h.clean source List.mem_cons_self path used' edit mem name same, fun key opened => ?_⟩
    obtain ⟨call, among, asked⟩ := keysOf_of_valueOf opened.1
    obtain ⟨other, listed, rfl⟩ := List.mem_map.mp among
    exact (apart other listed).free path used' edit mem name same key asked fun asked =>
      remembered key asked opened.2
  have directory : (state.withResult source.relative.text result).output = some job.output := h.directory
  have edited : Host.Edited
      (job.RunEdits answer world (job.reached answer world (source :: sources)) session) session.rig.host
      (after.withHost host).rig.host :=
    passed.edited.trans (writes.mono fun edit edits =>
      ⟨source, mem_reached answer job world source sources, .inr edits⟩)
  exact RunsTo.cons h reached_eq told_eq edited passed.directory passed.kept
    (fun final edited' file mem => files_stay (reached_subset answer job world sources) expects remembered
      h.single apart edited' mem (there file mem))
    (next (h.tail directory found expects))

end Step

/-- A run over documents that keep apart comes to what is foretold for each that it reaches, one after the
other, unless the file system refuses a file. -/
theorem compileAll_isolated
    (answers : job.engine.Answers job.version (answer job.version job.engine.root job.settings.outputFormat))
    (spares : job.engine.SparesFiles) (embeds : job.settings.Embeds job.presses.highlighter)
    (steady : job.settings.Steady) (complaints : List Complaint) {sources : List Source} :
    ∀ {state : State} {session : Session ε}, job.Ready answer world sources state session →
      job.RunsTo answer world sources state session
        (compileAll job.presses job.settings job.engine job.input (sources.map Source.path) state session.cache
          ⟨session.rig, complaints⟩) := by
  induction sources with
  | nil => exact fun _ => .inr ⟨_, rfl, .refl _, fun _ mem => absurd mem List.not_mem_nil⟩
  | cons source sources ih =>
    intro state session ready
    let noted : Session ε := ⟨session.cache, (World.processing ⟨session.rig, complaints⟩ source).rig⟩
    have same : Store.SameFiles session.rig.host noted.rig.host := .note _ _ _
    have expects : Session.Expects (valueOf answer ((source :: sources).map job.call)) (job.start world)
        noted := ready.expects.sameFiles rfl rfl same
    have inOrder : (job.call source).InOrder answer := ⟨rfl, answers, spares, embeds⟩
    have first := PassCall.run_first inOrder steady ready.noCollisions expects
      (job.presses.address noted.rig.host)
    rw [List.map_cons, compileAll_cons job.presses job.settings job.engine (sources.map Source.path) state
      session.cache (ready.found source List.mem_cons_self)]
    generalize done_eq : Pass.run _ job.settings job.engine Registry.typst source.relative.text source.text
      _ = done
    have ran : ((job.call source).again Schedule.inOrder (job.presses.address noted.rig.host)).run noted =
        done := done_eq
    have schedule_eq : (job.call source).schedule = Schedule.inOrder := rfl
    rw [schedule_eq, ran] at first
    obtain ⟨returned, after⟩ := done
    rcases first with ⟨fault, refused, refuses⟩ | ⟨outcome, follows⟩
    · obtain rfl : returned = _ := refused
      have directory : noted.cache.directory = job.cachePath := expects.directory
      exact .inl ⟨fault, _, rfl, .artifact (mem_reached answer job world source sources) directory
        (.of_sameFiles same) refuses⟩
    obtain rfl : returned = job.outcome answer world source := outcome
    have passed : job.Passed answer world source sources session after := ready.passed same rfl follows
    cases outcome_eq : job.outcome answer world source with
    | error error =>
      simp only [Pass.isDocumentError_of_foretold embeds outcome_eq, Bool.not_true, Bool.false_eq_true,
        if_false]
      exact runsTo_of_error ready passed outcome_eq complaints ih
    | ok result =>
      have here_eq : after.rig.host.here = world.host.here := passed.expects.here
      have files_eq : job.files answer world source =
          filesOf job.settings (job.output.join source.relative) result := by
        rw [files, outcome_eq]
        rfl
      have alone : Host.Single after.rig.host.here
          (filesOf job.settings (job.output.join source.relative) result) := by
        rw [here_eq, ← files_eq]
        exact fun file mem other mem' => ready.single file (List.mem_append_left _ mem) other
          (List.mem_append_left _ mem')
      have cases : (∃ fault changed, writeResult job.settings (job.output.join source.relative) result
          (World.withSession ⟨session.rig, complaints⟩ after) =
            (.error (.broken (.refusedFile fault)), changed) ∧
              WriteRefused job.settings (job.target source) result after.rig.host fault) ∨
          ∃ host, _ ∧ Host.Edited _ _ host ∧ _ :=
        writeResult_cases alone
      simp only [ready.directory]
      rcases cases with ⟨fault, changed, refused, refuses⟩ | ⟨host, written, edited, there⟩
      · exact .inl ⟨fault, changed, by rw [refused], .result
          (mem_reached answer job world source sources) outcome_eq passed.edited refuses⟩
      · rw [written]
        refine runsTo_of_result ready passed outcome_eq (follows.remembered ⟨result, outcome_eq⟩) host ?_ ?_ ih
        · refine edited.mono fun edit edits => ⟨result, outcome_eq, ?_⟩
          rw [← here_eq]
          exact edits
        · rw [files_eq, ← here_eq]
          exact there

/-- At the start of a run all is as expected. -/
theorem Isolated.expects (h : job.Isolated answer world sources) :
    Session.Expects (valueOf answer (sources.map job.call)) (job.start world) (job.start world) :=
  .refl fun path used => (h.clear path used).mono fun _ opened => keysOf_of_valueOf opened.1

/-- A run over documents that keep apart comes to what is foretold, unless the file system refuses a file. -/
theorem Isolated.runsTo (h : job.Isolated answer world sources) {state : State}
    (directory : state.output = some job.output) :
    job.RunsTo answer world sources state (job.start world)
      (compileAll job.presses job.settings job.engine job.input (sources.map Source.path) state
        (Cache.new job.settings.cacheDir) world) :=
  compileAll_isolated h.answers h.spares h.embeds h.steady world.complaints
    ⟨directory, h.noCollisions, h.found, h.clean, h.single, h.apart, h.expects⟩

/-- Documents keep apart in each run over some of them. -/
theorem Isolated.sublist (h : job.Isolated answer world sources) {fewer : List Source}
    (among : fewer.Sublist sources) : job.Isolated answer world fewer where
  answers := h.answers
  spares := h.spares
  embeds := h.embeds
  steady := h.steady
  noCollisions first mem second mem' :=
    h.noCollisions first ((among.map job.call).subset mem) second ((among.map job.call).subset mem')
  found source mem := h.found source (among.subset mem)
  names := h.names.sublist (among.map _)
  clear path used := (h.clear path used).mono fun _ ⟨call, mem, asked⟩ =>
    ⟨call, (among.map job.call).subset mem, asked⟩
  clean source mem := h.clean source (among.subset mem)
  single file mem other mem' := h.single file ((among.flatMap _).subset mem) other
    ((among.flatMap _).subset mem')
  apart := h.apart.sublist among

end Job

end TypstFences.Site
