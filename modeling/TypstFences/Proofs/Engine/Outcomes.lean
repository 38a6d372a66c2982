import TypstFences.Proofs.Cache.Loading
import TypstFences.Proofs.Engine.Diagnostic
import TypstFences.Proofs.Engine.Run
import TypstFences.Proofs.Text.Blank
import TypstFences.Proofs.Text.Bytes

/-!
# How a compilation comes out

What a compilation comes to is told by how its run ends (`Comes`). A run that is abandoned is a timeout; one
that never starts is a failure of the engine, and so is a source that cannot be put down. A status that is
not zero is a failure to compile with a diagnostic, and with the line that it refers to. Otherwise there are
the pages in the private directory, from the first up to the one before the first that is missing, and a
failure of the engine if there are none. Whatever happens, the files are afterwards those that there were
and those that the program wrote (`outcomes_are_classified`). There are three exceptions: a line number may
have too many digits to be read (`longReference_unread`), the name of a page may be too long to look for it,
and no program can be run with a NUL character in its arguments.
-/

set_option autoImplicit false

namespace TypstFences.Typst

variable {ρ : Type} {config : Config} {run : Runner ρ} {source : Text} {rig : Rig (State ρ)}
variable {host left : Host}

/-! ## Pages -/

/-- The path of the file of a page. -/
def pageAt (config : Config) (host : Host) (page : Nat) : Path := pagePath config host (Text.ofNat page)

/-- The name of the file of a page of a format. -/
def pageFile (format : Text) (page : Nat) : Text := "page-".toList ++ Text.ofNat page ++ '.' :: format

/-- The name of the file of a page. -/
theorem pageFile_eq (format : Text) (page : Nat) :
    pageFile format page = "page-".toList ++ (Text.ofNat page ++ '.' :: format) :=
  List.append_assoc _ _ _

/-- The files of different pages have different names. -/
theorem pageFile_injective (format : Text) : Function.Injective (pageFile format) := by
  intro page other same
  rw [pageFile_eq, pageFile_eq] at same
  have numbers := (Text.append_cons_inj (Text.notMem_ofNat (by decide) page)
    (Text.notMem_ofNat (by decide) other) (List.append_cancel_left same)).1
  exact Text.ofNat_inj numbers

/-- The name of the file of a page is a single name, if the format has no slash. -/
theorem isName_pageFile {format : Text} (noSlash : '/' ∉ format) (page : Nat) :
    Path.IsName (pageFile format page) := by
  have begins : ∃ rest, pageFile format page = 'p' :: rest := ⟨_, rfl⟩
  have front : '/' ∉ "page-".toList := by decide
  have number : '/' ∉ Text.ofNat page := Text.notMem_ofNat (by decide) page
  have slash : '/' ∉ pageFile format page := by
    rw [pageFile_eq, List.mem_append, List.mem_append, List.mem_cons, not_or, not_or, not_or]
    exact ⟨front, number, by decide, noSlash⟩
  obtain ⟨rest, name_eq⟩ := begins
  rw [name_eq] at slash ⊢
  exact ⟨by simp, slash, by simp, by simp [Path.parentName]⟩

/-- The path to a page goes through a name in the private directory, and ends there unless there is a slash
in the format. -/
theorem pageAt_shape (config : Config) : ∃ first more, '/' ∉ first ∧ ∀ host page,
    pageAt config host page = ⟨.root, host.scratch ++ pageFile first page :: more⟩ := by
  obtain ⟨first, more, noSlash, shape⟩ := Path.child_suffixed config.format
  exact ⟨first, more, noSlash, fun host page =>
    shape (Path.ofPlace host.scratch) _ (isName_pageFile noSlash page)⟩

/-- Whether the pages in the private directory, from the first up to the one before the first that is
missing, have certain contents. -/
def ArePages (config : Config) (left : Host) (contents : List Bytes) : Prop :=
  left.files.Numbered left.here (pageAt config left) 1 contents ∧
    left.files.probe left.here (pageAt config left (1 + contents.length)) = .ok none

section Left

variable {written : List (Path × Bytes)} (ready : Ready config host) (is_left : Left config host written left)
include ready is_left

/-- The private directory is found by its path after a run. -/
theorem Left.way : left.files.walk left.here (Path.ofPlace left.scratch) = .ok left.scratch := by
  have before : host.files.walk left.here (Path.ofPlace host.scratch) = .ok host.scratch := ready.way
  rw [is_left.scratch]
  exact FileTree.walk_of_kept is_left.same.kept (FileTree.walk_of_kept ready.kept_openScratch before)

/-- The private directory is there after a run. -/
theorem Left.directory : left.files.node? left.scratch = some .directory := by
  rw [is_left.scratch]
  apply is_left.same.kept
  rw [ready.node?_openScratch, if_pos rfl]

/-- There are no directories in the private directory. -/
theorem Left.noDirectory (name : Text) : left.files.node? (left.scratch ++ [name]) ≠ some .directory := by
  rw [is_left.scratch, ne_eq, is_left.same, ready.node?_below name []]
  simp

/-- A page that is there is a file in the private directory. -/
theorem Left.file_of_probe {first : Text} {more : List Text} (noSlash : '/' ∉ first) {page : Nat}
    {node : Node}
    (shape : pageAt config left page = ⟨.root, left.scratch ++ pageFile first page :: more⟩)
    (found : left.files.probe left.here (pageAt config left page) = .ok (some node)) :
    (∃ content, left.files.HasFile left.here (pageAt config left page) content) ∧
      left.files.node? (left.scratch ++ [pageFile first page]) ≠ none := by
  obtain ⟨place, way, there⟩ := FileTree.probe_eq_some found
  have notParent := (isName_pageFile noSlash page).notParent
  have free := is_left.noDirectory ready (pageFile first page)
  -- with a slash in the format, the way would lead through a directory
  have ends : more = [] := by
    by_contra on
    rw [shape] at way
    exact free (FileTree.directory_of_walk (is_left.way ready) (is_left.directory ready) notParent on way)
  subst ends
  rw [shape] at way ⊢
  have entry_way : left.files.walk left.here ((Path.ofPlace left.scratch).entry (pageFile first page)) =
      .ok place := way
  obtain ⟨scratch, scratch_way, -, rfl⟩ := FileTree.walk_of_entry notParent entry_way
  obtain rfl : scratch = left.scratch := Except.ok.inj (scratch_way.symm.trans (is_left.way ready))
  rw [there] at free
  refine ⟨?_, by rw [there]; simp⟩
  cases node with
  | directory => exact absurd rfl free
  | file content => exact ⟨content, _, way, there⟩

/-- The pages are collected up to the first that is missing, or that may not be looked for. -/
theorem Left.collect_cases :
    (∃ contents, ArePages config left contents ∧ collect config left =
      if contents = [] then .finished (.failure (noPages config))
      else .finished (.artifact ⟨contents, config.format⟩)) ∨
    ∃ contents error, left.files.Numbered left.here (pageAt config left) 1 contents ∧
      left.files.probe left.here (pageAt config left (1 + contents.length)) = .error error ∧
      collect config left = .crashed (.refusedFile error) := by
  obtain ⟨first, more, noSlash, shape⟩ := pageAt_shape config
  have files : ∀ page node, left.files.probe left.here (pageAt config left page) = .ok (some node) →
      (∃ content, left.files.HasFile left.here (pageAt config left page) content) ∧
        left.files.node? (left.scratch ++ [pageFile first page]) ≠ none :=
    fun page _ found => is_left.file_of_probe ready noSlash (shape left page) found
  have missing := FileTree.exists_missing (pageFile_injective first) fun page node found =>
    (files page node found).2
  obtain ⟨contents, numbered, ends⟩ := FileTree.pagesFrom_cases
    (fun page node found => (files page node found).1) (left.files.nodes.length + 1) 1 missing
  have pages_eq : left.files.pages left.here (fun page => pagePath config left (Text.ofNat page)) =
      left.files.pagesFrom left.here (pageAt config left) (left.files.nodes.length + 1) 1 := rfl
  rcases ends with ⟨absent, read⟩ | ⟨error, refused, unread⟩
  · refine .inl ⟨contents, ⟨numbered, absent⟩, ?_⟩
    rw [collect, pages_eq, read]
    cases contents with
    | nil => rfl
    | cons content contents => rfl
  · refine .inr ⟨contents, error, numbered, refused, ?_⟩
    rw [collect, pages_eq, unread]

end Left

/-! ## Endings -/

/-- What the end of a run comes to, where the source was in a file of some name, and what the run left in the
private directory is there still. -/
inductive Comes (config : Config) (file : Text) (left : Host) : Ending → Reply → Prop
  | timedOut : Comes config file left .timedOut (.timedOut ⟨config.timeout, []⟩)
  | notStarted (reason diagnostic : Text) :
      Comes config file left (.notStarted reason) (.finished (.failure ⟨diagnostic, engineKind, none⟩))
  | rejected {status : Int} {output errors : Bytes} {diagnostic : Text} (nonzero : status ≠ 0)
      (few : ∀ digits ∈ Diagnostic.digits? file (Text.decodeUtf8Lossy errors),
        digits.length ≤ Text.longestNumeral)
      (told : diagnostic ≠ []) :
      Comes config file left (.exited status output errors) (.finished (.failure
        ⟨diagnostic, compileKind, (Diagnostic.line? file (Text.decodeUtf8Lossy errors)).map Int.ofNat⟩))
  | unreadable {status : Int} {output errors : Bytes} {digits : Text} (nonzero : status ≠ 0)
      (found : Diagnostic.digits? file (Text.decodeUtf8Lossy errors) = some digits)
      (many : Text.longestNumeral < digits.length) :
      Comes config file left (.exited status output errors) (.crashed .unreadableLine)
  | pages {output errors : Bytes} {contents : List Bytes} (nonempty : contents ≠ [])
      (all : ArePages config left contents) :
      Comes config file left (.exited 0 output errors) (.finished (.artifact ⟨contents, config.format⟩))
  | noPages {output errors : Bytes} (diagnostic : Text) (missing : ArePages config left []) :
      Comes config file left (.exited 0 output errors) (.finished (.failure ⟨diagnostic, engineKind, none⟩))
  | refusedPage {output errors : Bytes} {contents : List Bytes} {error : FileError}
      (before : left.files.Numbered left.here (pageAt config left) 1 contents)
      (refused : left.files.probe left.here (pageAt config left (1 + contents.length)) = .error error)
      (long : error.fault = .nameTooLong) :
      Comes config file left (.exited 0 output errors) (.crashed (.refusedFile error))

/-- Whether a run ends with a status that is not zero and with a line number that can be read, if any. -/
def Rejects (file : Text) (ending : Ending) : Prop :=
  ∃ status output errors, ending = .exited status output errors ∧ status ≠ 0 ∧
    ∀ digits ∈ Diagnostic.digits? file (Text.decodeUtf8Lossy errors), digits.length ≤ Text.longestNumeral

/-- The diagnostic of a rejected source is never empty. -/
theorem diagnostic_rejected_ne_nil (config : Config) (status : Int) (errors : Text) (line : Option Nat) :
    (rejected config status errors line).diagnostic ≠ [] := by
  unfold rejected
  simp only
  split
  · simp
  · rename_i marked
    exact Text.trim_ne_nil (by simpa using marked)

/-- The reply is what the end of the run comes to. -/
theorem comes_of_left {written : List (Path × Bytes)} (ready : Ready config host)
    (is_left : Left config host written left) (file : Text) (ending : Ending) :
    Comes config file left ending (replyOf config file ending left).1 := by
  cases ending with
  | timedOut => exact .timedOut
  | notStarted reason => exact .notStarted reason _
  | exited status output errors =>
    unfold replyOf
    simp only
    split
    · rename_i zero
      subst zero
      rcases is_left.collect_cases ready with
        ⟨contents, all, reply⟩ | ⟨contents, error, before, refused, reply⟩
      · simp only [reply]
        split
        · rename_i nothing
          subst nothing
          exact .noPages _ all
        · rename_i nonempty
          exact .pages nonempty all
      · simp only [reply]
        exact .refusedPage before refused (FileTree.fault_of_probe refused)
    · rename_i nonzero
      by_cases few : ∀ digits ∈ Diagnostic.digits? file (Text.decodeUtf8Lossy errors),
          digits.length ≤ Text.longestNumeral
      · rw [Diagnostic.readLine_eq_ok few]
        exact .rejected nonzero few (diagnostic_rejected_ne_nil config status _ none)
      · simp only [not_forall, Nat.not_le] at few
        obtain ⟨digits, found, many⟩ := few
        rw [Diagnostic.readLine_eq_error found many]
        exact .unreadable nonzero found many

/-! ## What a reply tells of the run -/

section Comes

variable {file : Text} {ending : Ending} {reply : Reply} (comes : Comes config file left ending reply)
include comes

/-- A compilation times out if and only if the program does. -/
theorem Comes.timedOut_iff : (∃ timeout, reply = .timedOut timeout) ↔ ending = .timedOut := by
  cases comes with
  | timedOut => exact ⟨fun _ => rfl, fun _ => ⟨_, rfl⟩⟩
  | _ => simp

/-- A source fails to compile if and only if the program rejects it. -/
theorem Comes.rejects_iff :
    (∃ failure, reply = .finished (.failure failure) ∧ failure.kind = compileKind) ↔ Rejects file ending := by
  have kinds : engineKind ≠ compileKind := by decide
  cases comes with
  | timedOut => simp [Rejects]
  | notStarted reason diagnostic => simp [Rejects, kinds]
  | rejected nonzero few told => exact ⟨fun _ => ⟨_, _, _, rfl, nonzero, few⟩, fun _ => ⟨_, rfl, rfl⟩⟩
  | unreadable nonzero found many =>
    refine ⟨fun ⟨_, same, _⟩ => absurd same (by simp), ?_⟩
    rintro ⟨status, output, errors, same, -, few⟩
    obtain ⟨-, -, rfl⟩ := Ending.exited.inj same
    exact absurd (few _ found) (Nat.not_le.mpr many)
  | pages nonempty all => simp [Rejects]
  | noPages diagnostic missing => simp [Rejects, kinds]
  | refusedPage before refused long => simp [Rejects]

/-- An artifact has a page. -/
theorem Comes.pages_ne_nil (artifact : Artifact) (same : reply = .finished (.artifact artifact)) :
    artifact.pages ≠ [] := by
  cases comes with
  | pages nonempty all =>
    obtain rfl := RenderResult.artifact.inj (Reply.finished.inj same)
    exact nonempty
  | _ => simp at same

end Comes

/-- A compilation comes to what the ending of the program and its files say. -/
theorem comes_of_ran (ready : Ready config rig.host) {outcome : Outcome}
    (ran : Ran config run source rig outcome left) :
    Comes config (sourceFile config rig.host) left outcome.ending (compile config run source rig).1 := by
  rw [(compile_of_ran ran).1]
  exact comes_of_left ready (left_of_ran ready ran) _ _

/-- A source that cannot be put down is a failure of the engine. -/
theorem failure_of_unplaced (ready : Ready config rig.host) {error : FileError}
    (unplaced : putSource config source rig.host = .error error) :
    ∃ diagnostic, (compile config run source rig).1 =
      .finished (.failure ⟨diagnostic, engineKind, none⟩) := by
  have looked := fault_of_addFile ready.isPlain_sourcePlace unplaced
  rw [compile_of_unplaced unplaced, refused, if_neg looked]
  exact ⟨_, rfl⟩

/-- What is said of a reply, but not of a failure of the engine or of an error, is said because of how the run
ended. -/
theorem reply_iff_ending (ready : Ready config rig.host) (able : WritesFiles config run source rig)
    {tells : Reply → Prop} {ends : Ending → Prop}
    (silent : ∀ diagnostic, ¬tells (.finished (.failure ⟨diagnostic, engineKind, none⟩)))
    (mute : ∀ error, ¬tells (.crashed error))
    (because : ∀ left ending reply, Comes config (sourceFile config rig.host) left ending reply →
      (tells reply ↔ ends ending)) :
    tells (compile config run source rig).1 ↔
      ∃ outcome left, Ran config run source rig outcome left ∧ ends outcome.ending := by
  constructor
  · intro told
    rcases unplaced_or_unstarted_or_ran able with
      ⟨error, unplaced⟩ | ⟨error, unstarted⟩ | ⟨outcome, left, ran⟩
    · obtain ⟨diagnostic, failed⟩ := failure_of_unplaced ready unplaced
      exact absurd (failed ▸ told) (silent diagnostic)
    · rw [(leaves_of_unstarted ready unstarted).1] at told
      exact absurd told (mute error)
    · exact ⟨outcome, left, ran, (because _ _ _ (comes_of_ran ready ran)).mp told⟩
  · rintro ⟨outcome, left, ran, ended⟩
    exact (because _ _ _ (comes_of_ran ready ran)).mpr ended

variable (config run source rig) in
/-- A compilation comes out as the run of the program ends, and leaves the files that there were and those
that the program wrote. A source that cannot be put down, as below a root that is no directory, is a failure
of the engine, and arguments that no program can be run with, having a NUL character in them, give an error.
A run that is abandoned is a timeout, and only such a run is; a status that is not zero is a failure to
compile, and nothing else is, if the line that the diagnostic refers to can be read; and an artifact has
pages. -/
theorem outcomes_are_classified (ready : Ready config rig.host) (able : WritesFiles config run source rig) :
    (((∃ error, putSource config source rig.host = .error error) ∧
        (∃ diagnostic, (compile config run source rig).1 =
          .finished (.failure ⟨diagnostic, engineKind, none⟩)) ∧
        Leaves config rig.host [] (compile config run source rig).2.host) ∨
      (∃ error, Unstarted config source rig error ∧ (compile config run source rig).1 = .crashed error ∧
        Leaves config rig.host [] (compile config run source rig).2.host) ∨
      ∃ outcome left, Ran config run source rig outcome left ∧ Holds config rig.host outcome.written left ∧
        Comes config (sourceFile config rig.host) left outcome.ending (compile config run source rig).1 ∧
        Leaves config rig.host outcome.written (compile config run source rig).2.host) ∧
    (∀ root, config.rootPlace? rig.host.here = some root →
      (openScratch rig.host).files.node? root ≠ some .directory →
        ∃ error, putSource config source rig.host = .error error) ∧
    ((∃ timeout, (compile config run source rig).1 = .timedOut timeout) ↔
      ∃ outcome left, Ran config run source rig outcome left ∧ outcome.ending = .timedOut) ∧
    ((∃ failure, (compile config run source rig).1 = .finished (.failure failure) ∧
        failure.kind = compileKind) ↔
      ∃ outcome left, Ran config run source rig outcome left ∧
        Rejects (sourceFile config rig.host) outcome.ending) ∧
    ∀ artifact, (compile config run source rig).1 = .finished (.artifact artifact) → artifact.pages ≠ [] := by
  refine ⟨?_, fun root rooted missing => unplaced_of_no_root ready rooted missing, ?_, ?_, ?_⟩
  · rcases unplaced_or_unstarted_or_ran able with
      ⟨error, unplaced⟩ | ⟨error, unstarted⟩ | ⟨outcome, left, ran⟩
    · exact .inl ⟨⟨error, unplaced⟩, failure_of_unplaced ready unplaced, leaves_of_unplaced ready unplaced⟩
    · exact .inr (.inl ⟨error, unstarted, leaves_of_unstarted ready unstarted⟩)
    · exact .inr (.inr
        ⟨outcome, left, ran, holds_of_ran ready ran, comes_of_ran ready ran, leaves_of_ran ready ran⟩)
  · exact reply_iff_ending ready able (fun _ => by simp) (fun _ => by simp)
      fun _ _ _ comes => comes.timedOut_iff
  · have kinds : engineKind ≠ compileKind := by decide
    exact reply_iff_ending ready able (fun _ => by simp [kinds]) (fun _ => by simp)
      fun _ _ _ comes => comes.rejects_iff
  · intro artifact made
    rcases unplaced_or_unstarted_or_ran able with
      ⟨error, unplaced⟩ | ⟨error, unstarted⟩ | ⟨outcome, left, ran⟩
    · obtain ⟨diagnostic, failed⟩ := failure_of_unplaced ready unplaced
      exact absurd (failed.symm.trans made) (by simp)
    · exact absurd ((leaves_of_unstarted ready unstarted).1.symm.trans made) (by simp)
    · exact (comes_of_ran ready ran).pages_ne_nil artifact made

/-- The program with its defaults. -/
def plainConfig : Config where
  executable := "typst".toList
  arguments := []
  root := none
  fontPath := none
  timeout := .finite false 60 0
  format := "svg".toList

/-- The program with a root. -/
def rootedConfig : Config := { plainConfig with root := some ['/', 'r'] }

/-- A rig in a host with the directory that is the root, and with room for a private directory. -/
def workRig : Rig (State Unit) where
  state := ⟨none, ()⟩
  submitted := []
  host := ⟨⟨[([['r']], .directory)]⟩, [], [['w']], ['1'], []⟩

/-- A host with a working directory is ready, if the root of the engine is clean. -/
theorem ready_workRig (clean : config.rootFault? = none) : Ready config workRig.host where
  root := clean
  here := fun name mem => absurd mem List.not_mem_nil
  tag := by decide
  way := by rfl
  free := by
    rintro place ⟨names, rfl⟩
    rfl

/-- What a program writes that leaves out the second page, and has a log in the root. -/
def gapFiles : List (Path × Bytes) :=
  [(⟨.root, [['w'], "page-1.svg".toList]⟩, [1]), (⟨.root, [['r'], "log".toList]⟩, [2]),
    (⟨.root, [['w'], "page-3.svg".toList]⟩, [3])]

/-- What runs this program. -/
def gapRun : Runner Unit := fun _ state => (⟨gapFiles, .exited 0 [] []⟩, state)

/-- A run that leaves out the second page comes to the first one, and cleans up. -/
theorem gapRun_classified :
    Ready rootedConfig workRig.host ∧ WritesFiles rootedConfig gapRun ['x'] workRig ∧
      (compile rootedConfig gapRun ['x'] workRig).1 = .finished (.artifact ⟨[[1]], "svg".toList⟩) ∧
      (∃ left, Ran rootedConfig gapRun ['x'] workRig ⟨gapFiles, .exited 0 [] []⟩ left ∧
        ArePages rootedConfig left [[1]]) ∧
      let files := (compile rootedConfig gapRun ['x'] workRig).2.host.files
      files.node? [['r'], "log".toList] = some (.file [2]) ∧
        files.node? [['r'], hiddenName ['1']] = none ∧ files.node? [['w'], "page-3.svg".toList] = none := by
  have ready : Ready rootedConfig workRig.host := ready_workRig rfl
  have able : WritesFiles rootedConfig gapRun ['x'] workRig := by
    intro files put
    cases put
    rfl
  have reply : (compile rootedConfig gapRun ['x'] workRig).1 =
      .finished (.artifact ⟨[[1]], "svg".toList⟩) := by decide
  obtain ⟨course, -⟩ := outcomes_are_classified rootedConfig gapRun ['x'] workRig ready able
  rcases course with
    ⟨⟨error, unplaced⟩, -⟩ | ⟨error, unstarted, -⟩ | ⟨outcome, left, ran, -, comes, leaves⟩
  · cases unplaced
  · have faultless : argumentFault? (commandLine rootedConfig workRig.host) = none := by decide
    exact absurd (faultless.symm.trans unstarted.2) (by simp)
  · have outcome_eq : outcome = ⟨gapFiles, .exited 0 [] []⟩ := by
      obtain ⟨_, _, -, -, same, -⟩ := ran
      exact same.symm
    subst outcome_eq
    rw [reply] at comes
    cases comes with
    | pages nonempty all => exact ⟨ready, able, reply, ⟨left, ran, all⟩, leaves _, leaves _, leaves _⟩

/-! ## A line number that cannot be read -/

/-- A line number with one digit more than are read, all but the last of them zeros. -/
def longNumeral : Text := List.replicate Text.longestNumeral '0' ++ ['4']

/-- A diagnostic that refers to a line by this number. -/
def longReference : Text := sourceName ++ ':' :: (longNumeral ++ [':', '1'])

/-- What runs a program that rejects every source with this diagnostic. -/
def longRun : Runner Unit := fun _ state => (⟨[], .exited 1 [] (Text.ascii longReference)⟩, state)

/-- A line number with too many digits is not read. -/
theorem readLine_longReference :
    Diagnostic.readLine sourceName longReference = .error .unreadableLine := by
  have digits : ∀ c ∈ longNumeral, Text.isDigit c = true := by
    intro c mem
    rcases List.mem_append.mp mem with zero | last
    · rw [List.eq_of_mem_replicate zero]
      decide
    · rw [List.mem_singleton.mp last]
      decide
  have reads : Diagnostic.Reads sourceName longReference longNumeral :=
    ⟨by simp [longNumeral], digits, '1', [], by decide, rfl⟩
  have found : Diagnostic.digits? sourceName longReference = some longNumeral :=
    Diagnostic.digits?_eq_some.mpr
      ⟨[], ⟨by simp, longReference, rfl, reads⟩, fun earlier _ _ => Nat.zero_le earlier.length⟩
  apply Diagnostic.readLine_eq_error found
  rw [longNumeral, List.length_append, List.length_replicate]
  exact Nat.lt_succ_self _

/-- The reference to this line is plain ASCII text. -/
theorem ascii_longReference : ∀ c ∈ longReference, c.toNat ≤ 0x7f := by
  have name : ∀ c ∈ sourceName, c.toNat ≤ 0x7f := by
    have all : (sourceName.all fun c => c.toNat ≤ 0x7f) = true := by decide
    simpa using all
  have marks : ∀ c ∈ [':', '0', '4', '1'], c.toNat ≤ 0x7f := by simp
  have others : ∀ c ∈ ':' :: (longNumeral ++ [':', '1']), c ∈ [':', '0', '4', '1'] := by
    intro c mem
    simp only [longNumeral, List.mem_cons, List.mem_append, List.mem_replicate, List.not_mem_nil] at mem ⊢
    grind
  intro c mem
  rcases List.mem_append.mp mem with first | later
  · exact name c first
  · exact marks c (others c later)

/-- A program may exit with a status that is not zero and come to no failure. -/
theorem longReference_unread :
    ¬∀ (config : Config) (run : Runner Unit) (source : Text) (rig : Rig (State Unit)),
      Ready config rig.host → WritesFiles config run source rig →
      ∀ outcome left status output errors, Ran config run source rig outcome left →
        outcome.ending = .exited status output errors → status ≠ 0 →
          ∃ failure, (compile config run source rig).1 = .finished (.failure failure) ∧
            failure.kind = compileKind := by
  intro all
  have able : WritesFiles plainConfig longRun ['x'] workRig := fun _ _ => rfl
  rcases unplaced_or_unstarted_or_ran able with
    ⟨error, unplaced⟩ | ⟨error, unstarted⟩ | ⟨outcome, left, ran⟩
  · cases unplaced
  · have faultless : argumentFault? (commandLine plainConfig workRig.host) = none := by decide
    exact absurd (faultless.symm.trans unstarted.2) (by simp)
  · have outcome_eq : outcome = ⟨[], .exited 1 [] (Text.ascii longReference)⟩ := by
      obtain ⟨_, _, -, -, same, -⟩ := ran
      exact same.symm
    subst outcome_eq
    have name : sourceFile plainConfig workRig.host = sourceName := rfl
    have crashed : (compile plainConfig longRun ['x'] workRig).1 = .crashed .unreadableLine := by
      rw [(compile_of_ran ran).1, name]
      simp only [replyOf, Text.decodeUtf8Lossy_ascii ascii_longReference, readLine_longReference]
      rfl
    obtain ⟨failure, failed, -⟩ := all plainConfig longRun ['x'] workRig (ready_workRig rfl) able _ left 1 []
      (Text.ascii longReference) ran rfl (by decide)
    exact absurd (crashed.symm.trans failed) (by simp)

end TypstFences.Typst
