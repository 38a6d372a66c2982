import TypstFences.Engine.Typst
import TypstFences.Proofs.Files.Places

/-!
# What a run leaves

The program is run on a file that holds the source (`Ran`). While it runs, it writes files, and what counts
is what it wrote at a place last (`lastWritten`). The private directory and the file with the source are new
before the run, if the surroundings are as they should be (`Ready`), and gone after it: apart from the files
that the program wrote elsewhere all is as it was (`leaves_of_ran`), also where the source cannot be put
down (`leaves_of_unplaced`) and where the arguments are such that no program can be run with them
(`leaves_of_unstarted`).
-/

set_option autoImplicit false

namespace TypstFences.Typst

variable {ρ : Type}

/-! ## Files that a program writes -/

section Written

variable {host after : Host} {here place : Place} {written : List (Path × Bytes)}

/-- The content that was written at a place last, if a file was written there. -/
def lastWritten (here : Place) (written : List (Path × Bytes)) (place : Place) : Option Bytes :=
  (written.reverse.map fun file => (file.1.resolve here, file.2)).lookup place

/-- What a first file comes to be is what is written later in its place, or else its own content. -/
theorem lastWritten_cons (path : Path) (content : Bytes) :
    lastWritten here ((path, content) :: written) place =
      (lastWritten here written place).or (if place = path.resolve here then some content else none) := by
  unfold lastWritten
  rw [List.reverse_cons, List.map_append, List.lookup_append, List.map_singleton]
  by_cases same : place = path.resolve here
  · rw [if_pos same, same, List.lookup_cons_self]
  · rw [if_neg same, lookup_cons_of_ne _ _ same, List.lookup_nil]

/-- Whether a host comes of another one by writing files, one after the other. -/
structure Wrote (written : List (Path × Bytes)) (host after : Host) : Prop where
  here : after.here = host.here
  scratch : after.scratch = host.scratch
  same : host.files.SameDirectories after.files
  node? : ∀ place, after.files.node? place =
    ((lastWritten host.here written place).map .file).or (host.files.node? place)

/-- Files that are written one after the other are there with what was written last. -/
theorem wrote_of_addWritten :
    ∀ {host : Host}, addWritten written host = (.ok (), after) → Wrote written host after := by
  induction written with
  | nil =>
    intro host done
    obtain rfl := (Prod.mk.inj done).2
    exact ⟨rfl, rfl, .refl _, fun _ => rfl⟩
  | cons file written ih =>
    intro host done
    obtain ⟨path, content⟩ := file
    unfold addWritten Host.write at done
    rcases Host.change_cases host (FileTree.write · host.here path content) with
      ⟨error, refused⟩ | ⟨files, changed, made⟩
    · simp [refused] at done
    · simp only [made] at done
      have others := ih done
      unfold FileTree.write at changed
      split at changed
      · exact absurd changed (by simp)
      · rename_i target admitted
        obtain rfl := Except.ok.inj changed
        obtain ⟨way, free⟩ := FileTree.placeForFile_iff.mp admitted
        have target_eq := FileTree.resolve_of_walk way
        refine ⟨others.here, others.scratch,
          (FileTree.sameDirectories_put free content).trans others.same, fun place => ?_⟩
        have first : (host.withFiles (host.files.put target (.file content))).files.node? place =
            if place = target then some (.file content) else host.files.node? place :=
          FileTree.node?_put _ _ _ (FileTree.ne_nil_of_node? free)
        rw [others.node? place, first, lastWritten_cons, target_eq]
        show ((lastWritten host.here written place).map Node.file).or _ = _
        -- a file that is written there later counts, and else the one that is written now
        cases lastWritten host.here written place with
        | some later => rfl
        | none =>
          split
          · rfl
          · rfl

end Written

/-! ## The surroundings of a run -/

/-- What the surroundings of a run are like: the private directory is new and can be made, and no name on the
way to a file has a NUL character in it. -/
structure Ready (config : Config) (host : Host) : Prop where
  root : config.rootFault? = none
  here : Path.IsPlain host.here
  tag : '\x00' ∉ host.tag
  way : host.files.walk [] (Path.ofPlace host.scratch) = .ok host.scratch
  free : ∀ place, host.scratch <+: place → host.files.node? place = none

/-- The name of a source in a root is plain, if the tag has no NUL character. -/
theorem isPlain_hiddenName {tag : Text} (clean : '\x00' ∉ tag) : Path.IsPlain [hiddenName tag] := by
  apply Path.isPlain_singleton
  · unfold hiddenName
    rw [List.mem_append, List.mem_append, not_or, not_or]
    exact ⟨⟨by decide, clean⟩, by decide⟩
  · unfold hiddenName
    intro same
    have length := congrArg List.length same
    have long : ".typfence-".toList.length = 10 := by decide
    have short : Path.parentName.length = 2 := rfl
    rw [List.length_append, List.length_append, long, short] at length
    omega

/-- The name of a source in the private directory is plain. -/
theorem isPlain_sourceName : Path.IsPlain [sourceName] := by
  apply Path.isPlain_singleton
  · unfold sourceName
    decide
  · unfold sourceName
    decide

section Ready

variable {config : Config} {host : Host} (ready : Ready config host)
include ready

/-- The private directory is not the root of all files. -/
theorem Ready.scratch_ne_nil : host.scratch ≠ [] := by
  intro root
  have nothing := ready.free host.scratch (List.prefix_refl _)
  rw [root] at nothing
  exact absurd nothing (by simp [FileTree.node?])

/-- The path of the private directory is plain. -/
theorem Ready.isPlain_scratch : Path.IsPlain host.scratch := by
  have clean : ∀ name ∈ (Path.ofPlace host.scratch).names, '\x00' ∉ name := by
    have none_any := FileTree.names_clean_of_walk ready.way
    simpa [List.any_eq_false] using none_any
  rw [← FileTree.resolve_of_walk ready.way]
  exact Path.isPlain_resolve (fun name mem => absurd mem List.not_mem_nil) clean

/-- The path of a source is plain. -/
theorem Ready.isPlain_sourcePlace : Path.IsPlain (sourcePlace config host) := by
  unfold sourcePlace
  split
  · rename_i root found
    obtain ⟨text, given, rfl⟩ := Option.map_eq_some_iff.mp found
    have clean : '\x00' ∉ text := by
      intro mem
      obtain ⟨asked, -⟩ := Option.filter_eq_some_iff.mp given
      have fault := ready.root
      rw [Config.rootFault?, asked] at fault
      simp [mem] at fault
    have rootPlain := Path.isPlain_resolve ready.here (Path.notMem_names_ofText clean)
    exact rootPlain.append (isPlain_hiddenName ready.tag)
  · exact ready.isPlain_scratch.append isPlain_sourceName

/-- When the private directory is made, nothing else changes. -/
theorem Ready.node?_openScratch (place : Place) : (openScratch host).files.node? place =
    if place = host.scratch then some .directory else host.files.node? place :=
  FileTree.node?_put _ _ _ ready.scratch_ne_nil

/-- There is nothing in the private directory at first. -/
theorem Ready.node?_below (name : Text) (names : List Text) :
    (openScratch host).files.node? (host.scratch ++ name :: names) = none := by
  have below : host.scratch ++ name :: names ≠ host.scratch := by simp
  rw [ready.node?_openScratch, if_neg below, ready.free _ (List.prefix_append _ _)]

/-- Elsewhere all is as it was. -/
theorem Ready.node?_outside {place : Place} (outside : ¬host.scratch <+: place) :
    (openScratch host).files.node? place = host.files.node? place := by
  have differ : place ≠ host.scratch := by
    rintro rfl
    exact outside (List.prefix_refl _)
  rw [ready.node?_openScratch, if_neg differ]

/-- All that was there is there when the private directory is, and the way to it. -/
theorem Ready.kept_openScratch : FileTree.DirectoriesKept host.files (openScratch host).files := by
  intro place there
  rw [ready.node?_openScratch]
  split
  · rfl
  · exact there

/-- Without the private directory all is as it was, if all that was changed is in it. -/
theorem Ready.node?_closeScratch (left : Host) (scratch : left.scratch = host.scratch) (place : Place) :
    (closeScratch left).files.node? place =
      if host.scratch <+: place then none else left.files.node? place := by
  have inside : left.scratch ≠ [] := by
    rw [scratch]
    exact ready.scratch_ne_nil
  rw [← scratch]
  exact FileTree.node?_removeAll inside

end Ready

/-! ## The source -/

section Source

variable {files changed : FileTree} {place : Place} {content : Bytes} {error : FileError}

/-- A new file is put down at its place, where nothing was. -/
theorem addFile_eq_ok (plain : Path.IsPlain place) (added : addFile files place content = .ok changed) :
    files.walk [] (Path.ofPlace place) = .ok place ∧ files.node? place = none ∧
      changed = files.put place (.file content) := by
  unfold addFile at added
  split at added
  · exact absurd added (by simp)
  · rename_i target way
    have target_eq : target = place :=
      (FileTree.resolve_of_walk way).symm.trans (Path.resolve_ofPlace plain)
    rw [target_eq] at added way
    split at added
    · exact absurd added (by simp)
    · rename_i free
      exact ⟨way, free, (Except.ok.inj added).symm⟩

/-- A file at a plain path is never refused for a NUL character. -/
theorem fault_of_addFile (plain : Path.IsPlain place)
    (unplaced : addFile files place content = .error error) :
    error.fault ≠ .nulCharacter := by
  unfold addFile at unplaced
  split at unplaced
  · rename_i fault way
    rw [← Except.error.inj unplaced]
    rintro rfl
    exact FileTree.walk_ne_nulCharacter (fun name mem => (plain name mem).1) way
  · split at unplaced
    · rw [← Except.error.inj unplaced]
      simp
    · exact absurd unplaced (by simp)

end Source

section Run

variable (config : Config) (run : Runner ρ) (source : Text) (rig : Rig (State ρ)) (host : Host)

/-- The files with the source that is to be compiled, unless it cannot be put down. -/
def putSource : Except FileError FileTree :=
  addFile (openScratch host).files (sourcePlace config host) (Text.encodeUtf8 source)

/-- The name of the file with the source. -/
def sourceFile : Text := (Path.ofPlace (sourcePlace config host)).name

/-- The arguments that the program is run with. -/
def commandLine : List Text :=
  config.command host.here (Path.ofPlace (sourcePlace config host)) (template config host)

/-- What is run for a compilation. -/
def invocation (files : FileTree) : Invocation :=
  ⟨commandLine config host, config.timeout, some (Path.ofPlace host.scratch), files⟩

/-- The host when the program is started. -/
def started (files : FileTree) : Host :=
  ((openScratch host).withFiles files).note 3
    ("Running ".toList ++ Text.joinWith [' '] (commandLine config host))

/-- Whether the program cannot be run on a source that was put down, with the error that its arguments
give. -/
def Unstarted (error : PassError) : Prop :=
  (∃ files, putSource config source rig.host = .ok files) ∧
    argumentFault? (commandLine config rig.host) = some error

/-- Whether the program is run on a source, how its run comes out, and which host it leaves, without the
source but with the private directory still. -/
def Ran (outcome : Outcome) (left : Host) : Prop :=
  ∃ files written, putSource config source rig.host = .ok files ∧
    argumentFault? (commandLine config rig.host) = none ∧
    (run (invocation config rig.host files) rig.state.runner).1 = outcome ∧
    addWritten outcome.written (started config rig.host files) = (.ok (), written) ∧
    left = written.withFiles (written.files.remove (sourcePlace config rig.host))

/-- Whether the files that the program writes are such as the file system lets it write. -/
def WritesFiles : Prop :=
  ∀ files, putSource config source rig.host = .ok files →
    (addWritten (run (invocation config rig.host files) rig.state.runner).1.written
      (started config rig.host files)).1 = .ok ()

variable {config run source rig host}

/-- The program is run, or the source cannot be put down, or no program can be run with the arguments. -/
theorem unplaced_or_unstarted_or_ran (able : WritesFiles config run source rig) :
    (∃ error, putSource config source rig.host = .error error) ∨
      (∃ error, Unstarted config source rig error) ∨
      ∃ outcome left, Ran config run source rig outcome left := by
  cases put : putSource config source rig.host with
  | error error => exact .inl ⟨error, rfl⟩
  | ok files =>
    cases fault : argumentFault? (commandLine config rig.host) with
    | some error => exact .inr (.inl ⟨error, ⟨files, put⟩, fault⟩)
    | none => exact .inr (.inr ⟨_, _, files, _, put, fault, rfl, Prod.ext (able files put) rfl, rfl⟩)

/-- A source cannot be put down below a root that is no directory. -/
theorem unplaced_of_no_root (ready : Ready config host) {root : Place}
    (rooted : config.rootPlace? host.here = some root)
    (missing : (openScratch host).files.node? root ≠ some .directory) :
    ∃ error, putSource config source host = .error error := by
  cases put : putSource config source host with
  | error error => exact ⟨error, rfl⟩
  | ok files =>
    have way := (addFile_eq_ok ready.isPlain_sourcePlace put).1
    have place_eq : sourcePlace config host = root ++ [hiddenName host.tag] := by
      rw [sourcePlace, rooted]
    have notParent : hiddenName host.tag ≠ Path.parentName :=
      (isPlain_hiddenName ready.tag _ (List.mem_singleton_self _)).2
    rw [place_eq] at way
    have entry_way : (openScratch host).files.walk [] ((Path.ofPlace root).entry (hiddenName host.tag)) =
        .ok (root ++ [hiddenName host.tag]) := way
    obtain ⟨found, -, directory, found_eq⟩ := FileTree.walk_of_entry notParent entry_way
    rw [← List.append_cancel_right found_eq] at directory
    exact absurd directory missing

/-- A compilation whose source cannot be put down ends with the refusal. -/
theorem compile_of_unplaced {error : FileError} (unplaced : putSource config source rig.host = .error error) :
    compile config run source rig =
      (refused config error, { rig with host := closeScratch (openScratch rig.host) }) := by
  have added : addFile (openScratch rig.host).files (sourcePlace config (openScratch rig.host))
      (Text.encodeUtf8 source) = .error error := unplaced
  unfold compile
  simp only [added]

/-- A compilation with a faulty argument ends before the program is started. -/
theorem compile_of_unstarted {files : FileTree} (put : putSource config source rig.host = .ok files)
    {error : PassError} (fault : argumentFault? (commandLine config rig.host) = some error) :
    compile config run source rig =
      let started := started config rig.host files
      let left := started.withFiles (started.files.remove (sourcePlace config rig.host))
      (.crashed error, { rig with host := closeScratch left }) := by
  have added : addFile (openScratch rig.host).files (sourcePlace config (openScratch rig.host))
      (Text.encodeUtf8 source) = .ok files := put
  have refused : argumentFault? (config.command (openScratch rig.host).here
      (Path.ofPlace (sourcePlace config (openScratch rig.host))) (template config (openScratch rig.host))) =
        some error := fault
  unfold compile
  simp only [added, refused]
  rfl

/-- A compilation without a faulty argument runs the program. -/
theorem compile_of_placed {files : FileTree} (put : putSource config source rig.host = .ok files)
    (faultless : argumentFault? (commandLine config rig.host) = none) :
    compile config run source rig =
      let (outcome, runner) := run (invocation config rig.host files) rig.state.runner
      let (wrote, written) := addWritten outcome.written (started config rig.host files)
      let left := written.withFiles (written.files.remove (sourcePlace config rig.host))
      let (reply, after) := replyAfter config (sourceFile config rig.host) wrote outcome.ending left
      (reply, { rig with state := { rig.state with runner := runner }, host := closeScratch after }) := by
  have added : addFile (openScratch rig.host).files (sourcePlace config (openScratch rig.host))
      (Text.encodeUtf8 source) = .ok files := put
  have accepted : argumentFault? (config.command (openScratch rig.host).here
      (Path.ofPlace (sourcePlace config (openScratch rig.host))) (template config (openScratch rig.host))) =
        none := faultless
  unfold compile
  simp only [added, accepted]
  rfl

/-- When the files of a run are written, its ending decides the reply. -/
theorem replyAfter_ok (file : Text) (ending : Ending) (left : Host) :
    replyAfter config file (.ok ()) ending left = replyOf config file ending left := by
  cases ending with
  | timedOut => rfl
  | notStarted reason => rfl
  | exited status output errors => rfl

/-- What a compilation comes to is decided by how the program ended and by the files that it left. -/
theorem compile_of_ran {outcome : Outcome} {left : Host} (ran : Ran config run source rig outcome left) :
    (compile config run source rig).1 = (replyOf config (sourceFile config rig.host) outcome.ending left).1 ∧
      (compile config run source rig).2.host =
        closeScratch (replyOf config (sourceFile config rig.host) outcome.ending left).2 := by
  obtain ⟨files, written, put, faultless, rfl, wrote, rfl⟩ := ran
  rw [compile_of_placed put faultless]
  simp only [wrote, replyAfter_ok, and_self]

/-! ## What is left -/

/-- What a host is like that a run leaves: the private directory is there and all that was written, and the
source is gone. -/
structure Left (config : Config) (host : Host) (written : List (Path × Bytes)) (left : Host) : Prop where
  here : left.here = host.here
  scratch : left.scratch = host.scratch
  same : (openScratch host).files.SameDirectories left.files
  node? : ∀ place, left.files.node? place =
    if place = sourcePlace config host then none
    else ((lastWritten host.here written place).map .file).or ((openScratch host).files.node? place)

/-- Nothing is at the place of a source that can be put down. -/
theorem free_of_placed (ready : Ready config host) {files : FileTree}
    (put : putSource config source host = .ok files) :
    (openScratch host).files.node? (sourcePlace config host) = none :=
  (addFile_eq_ok ready.isPlain_sourcePlace put).2.1

/-- What is left when files were written beside the source and the source was removed. -/
theorem left_of_wrote (ready : Ready config rig.host) {files : FileTree}
    (put : putSource config source rig.host = .ok files) {changes : List (Path × Bytes)} {written : Host}
    (wrote : Wrote changes (started config rig.host files) written) :
    Left config rig.host changes
      (written.withFiles (written.files.remove (sourcePlace config rig.host))) := by
  obtain ⟨-, free, rfl⟩ := addFile_eq_ok ready.isPlain_sourcePlace put
  have absent : (openScratch rig.host).files.node? (sourcePlace config rig.host) ≠ some .directory := by
    rw [free]
    simp
  have inside := FileTree.ne_nil_of_node? absent
  have same : (openScratch rig.host).files.SameDirectories written.files :=
    (FileTree.sameDirectories_put absent _).trans wrote.same
  refine ⟨wrote.here, wrote.scratch,
    same.trans (FileTree.sameDirectories_remove ((same _).not.mpr absent)), fun place => ?_⟩
  show (written.files.remove (sourcePlace config rig.host)).node? place = _
  rw [FileTree.node?_remove _ _ inside]
  split
  · rfl
  · rename_i elsewhere
    rw [wrote.node? place]
    show Option.or _ (((openScratch rig.host).files.put (sourcePlace config rig.host) _).node? place) = _
    rw [FileTree.node?_put _ _ _ inside, if_neg elsewhere]
    rfl

/-- A run leaves the files of the host, the source and what the program wrote. -/
theorem left_of_ran (ready : Ready config rig.host) {outcome : Outcome} {left : Host}
    (ran : Ran config run source rig outcome left) : Left config rig.host outcome.written left := by
  obtain ⟨files, written, put, -, rfl, done, rfl⟩ := ran
  exact left_of_wrote ready put (wrote_of_addWritten done)

/-- Whether the files of a host are those of another one and those that were written, but in the private
directory and in the place of the source all is as it was. -/
def Leaves (config : Config) (host : Host) (written : List (Path × Bytes)) (after : Host) : Prop :=
  ∀ place, after.files.node? place =
    if host.scratch <+: place ∨ place = sourcePlace config host then host.files.node? place
    else ((lastWritten host.here written place).map .file).or (host.files.node? place)

/-- Whether there is in the private directory what was written there, but not the source. -/
def Holds (config : Config) (host : Host) (written : List (Path × Bytes)) (left : Host) : Prop :=
  ∀ name names, left.files.node? (host.scratch ++ name :: names) =
    if host.scratch ++ name :: names = sourcePlace config host then none
    else (lastWritten host.here written (host.scratch ++ name :: names)).map .file

/-- A run leaves what the program wrote. -/
theorem holds_of_ran (ready : Ready config rig.host) {outcome : Outcome} {left : Host}
    (ran : Ran config run source rig outcome left) : Holds config rig.host outcome.written left := by
  intro name names
  rw [(left_of_ran ready ran).node?, ready.node?_below, Option.or_none]

/-- A source that cannot be put down leaves all as it was. -/
theorem leaves_of_unplaced (ready : Ready config rig.host) {error : FileError}
    (unplaced : putSource config source rig.host = .error error) :
    Leaves config rig.host [] (compile config run source rig).2.host := by
  intro place
  rw [compile_of_unplaced unplaced]
  show (closeScratch (openScratch rig.host)).files.node? place = _
  rw [ready.node?_closeScratch (openScratch rig.host) rfl]
  split
  · rename_i within
    rw [if_pos (.inl within), ready.free place within]
  · rename_i outside
    rw [ready.node?_outside outside]
    split
    · rfl
    · rfl

/-- A reply changes no files. -/
theorem replyOf_host (config : Config) (file : Text) (ending : Ending) (left : Host) :
    (replyOf config file ending left).2.files = left.files ∧
      (replyOf config file ending left).2.scratch = left.scratch := by
  unfold replyOf noteWarnings
  cases ending with
  | timedOut => exact ⟨rfl, rfl⟩
  | notStarted reason => exact ⟨rfl, rfl⟩
  | exited status output errors =>
    simp only
    split
    · split
      · exact ⟨rfl, rfl⟩
      · exact ⟨rfl, rfl⟩
    · split
      · exact ⟨rfl, rfl⟩
      · exact ⟨rfl, rfl⟩

/-- When the private directory is closed too, what is left is what was there and what was written. -/
theorem leaves_of_left (ready : Ready config host) {written : List (Path × Bytes)} {left after : Host}
    (is_left : Left config host written left) {files : FileTree}
    (put : putSource config source host = .ok files) (files_eq : after.files = left.files)
    (scratch_eq : after.scratch = left.scratch) : Leaves config host written (closeScratch after) := by
  intro place
  rw [ready.node?_closeScratch _ (scratch_eq.trans is_left.scratch), files_eq, is_left.node?]
  by_cases within : host.scratch <+: place
  · rw [if_pos within, if_pos (.inl within), ready.free place within]
  · rw [if_neg within, ready.node?_outside within]
    by_cases source_place : place = sourcePlace config host
    · -- nothing was there, as the source was put down there
      have free := free_of_placed ready put
      rw [← source_place, ready.node?_outside within] at free
      rw [if_pos source_place, if_pos (.inr source_place), free]
    · rw [if_neg source_place, if_neg (not_or.mpr ⟨within, source_place⟩)]

/-- A source that was put down for nothing is taken away again. -/
theorem leaves_of_unstarted (ready : Ready config rig.host) {error : PassError}
    (unstarted : Unstarted config source rig error) :
    (compile config run source rig).1 = .crashed error ∧
      Leaves config rig.host [] (compile config run source rig).2.host := by
  obtain ⟨⟨files, put⟩, fault⟩ := unstarted
  rw [compile_of_unstarted put fault]
  have nothing : Wrote [] (started config rig.host files) (started config rig.host files) :=
    ⟨rfl, rfl, .refl _, fun _ => rfl⟩
  exact ⟨rfl, leaves_of_left ready (left_of_wrote ready put nothing) put rfl rfl⟩

/-- A run leaves what was there and what it wrote. -/
theorem leaves_of_ran (ready : Ready config rig.host) {outcome : Outcome} {left : Host}
    (ran : Ran config run source rig outcome left) :
    Leaves config rig.host outcome.written (compile config run source rig).2.host := by
  obtain ⟨files_eq, scratch_eq⟩ := replyOf_host config (sourceFile config rig.host) outcome.ending left
  have is_left := left_of_ran ready ran
  rw [(compile_of_ran ran).2]
  obtain ⟨files, -, put, -⟩ := ran
  exact leaves_of_left ready is_left put files_eq scratch_eq

end Run

end TypstFences.Typst
