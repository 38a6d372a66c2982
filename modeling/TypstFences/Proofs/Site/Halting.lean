import TypstFences.Proofs.Site.Telling

/-!
# Runs that end with the first failure

A run that is to end with the first failure comes to what the run that goes on comes to, up to the first
document with an error or a failure (`Job.foldl_told_failingFast`). It has the results of the documents in
front of that one, writes these, and writes neither the others nor their images (`Job.Halted`,
`Job.halted_of_runsTo`).
-/

set_option autoImplicit false

namespace TypstFences

namespace Site

variable {ε : Type}

namespace Job

variable {job : Job ε} {answer : Answer} {world : World ε} {source : Source} {sources : List Source}
variable {state : State}

/-- Why a run that is to end with the first failure ends with a document: for its error, or for its first
failure. -/
def endOf? (answer : Answer) (job : Job ε) (world : World ε) (source : Source) : Option PassError :=
  match job.outcome answer world source with
  | .ok result => result.failures.head?.map fun failure => .renderFailure [failure]
  | .error error => some error

/-- The documents in front of the first one that a run ends with. -/
def before (answer : Answer) (job : Job ε) (world : World ε) (sources : List Source) : List Source :=
  sources.takeWhile fun source => (job.endOf? answer world source).isNone

/-- Whether a run that is to end with the first failure has accounted for the documents in front of it. These
are written, and the others are not. No other file is written, be it an output or an image of the document
that the run ends with or of a later one. -/
structure Halted (answer : Answer) (job : Job ε) (world : World ε) (sources : List Source)
    (state final : State) (after : World ε) : Prop where
  told : final = tell state ((job.before answer world sources).filterMap (job.resultOf answer world))
    ((sources.findSome? (job.endOf? answer world)).map PassError.message).toList []
  written : ∀ source ∈ job.before answer world sources, ∀ result,
    job.outcome answer world source = .ok result →
      ∀ file ∈ filesOf job.settings (job.target source) result,
        after.host.files.HasFile world.host.here file.1 file.2
  unwritten : ∀ source ∈ sources, source ∉ job.before answer world sources →
    SameAt world after ((job.target source).resolve world.host.here)
  elsewhere : job.WritesOnly answer world after (job.before answer world sources)
    (sources.take ((job.before answer world sources).length + 1))

/-- What the documents are compiled with if the first failure is to end the run. -/
def failingFast (job : Job ε) : Job ε := { job with settings := job.settings.failingFast true }

/-- It asks for the same. -/
theorem requests_failingFast (source : Source) :
    (job.failingFast.call source).requests = (job.call source).requests := by
  show Pass.requestsOf (job.settings.failingFast true) Registry.typst source.relative.text source.text = _
  unfold Pass.requestsOf
  rw [Pass.pieces_failingFast]
  rfl

/-- It asks for the same keys. -/
theorem keys_failingFast (source : Source) (key : Text) :
    (job.failingFast.call source).keys key ↔ (job.call source).keys key := by
  unfold PassCall.keys
  rw [requests_failingFast]
  rfl

/-- A document comes to its result, or to its first failure. -/
theorem outcome_failingFast (noFailFast : job.settings.failFast = false) (source : Source) :
    job.failingFast.outcome answer world source =
      (job.outcome answer world source).bind Pass.halted := by
  have settings_eq : job.settings.failingFast false = job.settings := by
    rw [Settings.failingFast, ← noFailFast]
  have foretold_eq : job.failingFast.outcome answer world source =
      (Pass.foretold (job.call source).press (job.settings.failingFast false) Registry.typst
        ((job.call source).expected answer (job.start world)) source.relative.text source.text).bind
          Pass.halted := Pass.foretold_failingFast
  rw [foretold_eq, settings_eq]
  rfl

/-- A document that has a result then has it also if the run goes on. -/
theorem outcome_of_failingFast (noFailFast : job.settings.failFast = false) {result : PassResult}
    (outcome_eq : job.failingFast.outcome answer world source = .ok result) :
    job.outcome answer world source = .ok result := by
  rw [outcome_failingFast noFailFast] at outcome_eq
  cases known : job.outcome answer world source with
  | error error => exact absurd (known ▸ outcome_eq) (by simp [Except.bind])
  | ok returned =>
    rw [known] at outcome_eq
    have halted_eq : Pass.halted returned = .ok result := outcome_eq
    unfold Pass.halted at halted_eq
    split at halted_eq
    · exact congrArg Except.ok (Except.ok.inj halted_eq)
    · exact absurd halted_eq (by simp)

/-- The files of its result are written then. -/
theorem files_of_failingFast (noFailFast : job.settings.failFast = false) {file : Path × Bytes}
    (mem : file ∈ job.failingFast.files answer world source) : file ∈ job.files answer world source := by
  unfold files at mem ⊢
  cases outcome_eq : job.failingFast.outcome answer world source with
  | error error =>
    rw [outcome_eq] at mem
    exact absurd mem List.not_mem_nil
  | ok result =>
    rw [outcome_eq] at mem
    rw [outcome_of_failingFast noFailFast outcome_eq]
    exact mem

/-- The edits that it is written by are made then. -/
theorem writes_of_failingFast (noFailFast : job.settings.failFast = false) {edit : Edit}
    (writes : job.failingFast.Writes answer world source edit) : job.Writes answer world source edit := by
  obtain ⟨result, outcome_eq, edits⟩ := writes
  exact ⟨result, outcome_of_failingFast noFailFast outcome_eq, edits⟩

/-- Artifacts are kept in the same places. -/
theorem keepsAt_failingFast (source : Source) (key : Text) (place : Place) :
    job.failingFast.KeepsAt answer world source key place ↔ job.KeepsAt answer world source key place := by
  unfold KeepsAt
  rw [requests_failingFast]
  rfl

/-- Documents that keep apart do so when the first failure is to end the run. -/
theorem Isolated.failingFast (h : job.Isolated answer world sources)
    (noFailFast : job.settings.failFast = false) : job.failingFast.Isolated answer world sources := by
  have keys_eq : keysOf (sources.map job.failingFast.call) = keysOf (sources.map job.call) := by
    funext key
    refine propext ⟨?_, ?_⟩
    · rintro ⟨call, mem, asked⟩
      obtain ⟨source, listed, rfl⟩ := List.mem_map.mp mem
      exact ⟨_, List.mem_map_of_mem listed, (keys_failingFast source key).mp asked⟩
    · rintro ⟨call, mem, asked⟩
      obtain ⟨source, listed, rfl⟩ := List.mem_map.mp mem
      exact ⟨_, List.mem_map_of_mem listed, (keys_failingFast source key).mpr asked⟩
  have files_sub : ∀ file ∈ sources.flatMap (job.failingFast.files answer world),
      file ∈ sources.flatMap (job.files answer world) := by
    intro file mem
    obtain ⟨source, listed, among⟩ := List.mem_flatMap.mp mem
    exact List.mem_flatMap.mpr ⟨source, listed, files_of_failingFast noFailFast among⟩
  refine ⟨h.answers, h.spares, ⟨h.embeds.template, h.embeds.style⟩, h.steady, ?_, h.found, h.names, ?_, ?_,
    ?_, ?_⟩
  · intro call mem call' mem' request asked request' asked'
    obtain ⟨source, listed, rfl⟩ := List.mem_map.mp mem
    obtain ⟨source', listed', rfl⟩ := List.mem_map.mp mem'
    rw [requests_failingFast] at asked asked'
    exact h.noCollisions _ (List.mem_map_of_mem listed) _ (List.mem_map_of_mem listed') request asked
      request' asked'
  · intro path used
    rw [keys_eq]
    exact h.clear path used
  · exact fun source mem path used edit writes =>
      h.clean source mem path used edit (writes_of_failingFast noFailFast writes)
  · exact fun file mem other mem' => h.single file (files_sub file mem) other (files_sub other mem')
  · refine h.apart.imp fun {first second} apart => ⟨?_, ?_, ?_, ?_⟩
    · exact fun file mem => apart.unwritten file (files_of_failingFast noFailFast mem)
    · exact fun key place keeps => apart.unsaved key place ((keepsAt_failingFast _ _ _).mp keeps)
    · intro file mem key unasked keeps
      rw [keys_failingFast] at unasked
      exact apart.kept file (files_of_failingFast noFailFast mem) key unasked
        ((keepsAt_failingFast _ _ _).mp keeps)
    · intro path used edit writes name same key asked unasked
      rw [keys_failingFast] at asked unasked
      exact apart.free path used edit (writes_of_failingFast noFailFast writes) name same key asked unasked

/-- A run that is to end with the first failure ends with a document, or has its result, without failures. -/
theorem outcome_failingFast_cases (answer : Answer) (world : World ε)
    (noFailFast : job.settings.failFast = false) (source : Source) :
    (∃ error, job.endOf? answer world source = some error ∧
        job.failingFast.outcome answer world source = .error error) ∨
      ∃ result, job.endOf? answer world source = none ∧ result.failures = [] ∧
        job.outcome answer world source = .ok result ∧
        job.failingFast.outcome answer world source = .ok result := by
  rw [outcome_failingFast noFailFast, endOf?]
  cases job.outcome answer world source with
  | error error => exact .inl ⟨error, rfl, rfl⟩
  | ok result =>
    cases failures_eq : result.failures with
    | nil =>
      refine .inr ⟨result, ?_, failures_eq, rfl, ?_⟩
      · simp only [failures_eq, List.head?_nil, Option.map_none]
      · simp only [Except.bind, Pass.halted, failures_eq]
    | cons failure others =>
      refine .inl ⟨.renderFailure [failure], ?_, ?_⟩
      · simp only [failures_eq, List.head?_cons, Option.map_some]
      · simp only [Except.bind, Pass.halted, failures_eq]

/-- The results of the documents in front of the end are told, and the message of the end. -/
theorem foldl_told_failingFast (noFailFast : job.settings.failFast = false) {sources : List Source}
    (names : (sources.map fun source => source.relative.text).Nodup) :
    ∀ {state : State}, (∀ source ∈ sources, source.relative.text ∉ state.results.map Prod.fst) →
      (job.failingFast.reached answer world sources).foldl (job.failingFast.told answer world) state =
        tell state ((job.before answer world sources).filterMap (job.resultOf answer world))
          ((sources.findSome? (job.endOf? answer world)).map PassError.message).toList [] := by
  induction sources with
  | nil =>
    intro state _
    simp [tell, before, reached]
  | cons source sources ih =>
    intro state new
    have rest := (List.nodup_cons.mp (List.map_cons ▸ names)).2
    rcases outcome_failingFast_cases answer world noFailFast source with ⟨error, ends, outcome_eq⟩ |
      ⟨result, goes, none_failed, result_eq, outcome_eq⟩
    · have reached_eq : job.failingFast.reached answer world (source :: sources) = [source] := by
        rw [reached, outcome_eq]
        rfl
      rw [reached_eq, List.foldl_cons, List.foldl_nil, told_of_error outcome_eq]
      simp [before, ends]
    · have reached_eq : job.failingFast.reached answer world (source :: sources) =
          source :: job.failingFast.reached answer world sources := by
        rw [reached, outcome_eq]
      rw [reached_eq, List.foldl_cons, told_of_result outcome_eq (new source List.mem_cons_self),
        ih rest (new_of_nodup names new), tell_tell, none_failed]
      simp [before, goes, resultOf, result_eq]

/-- The run reaches the documents in front of the end, and the one that it ends with. -/
theorem reached_failingFast (noFailFast : job.settings.failFast = false) (sources : List Source) :
    job.failingFast.reached answer world sources =
      sources.take ((job.before answer world sources).length + 1) := by
  induction sources with
  | nil => rfl
  | cons source sources ih =>
    rcases outcome_failingFast_cases answer world noFailFast source with ⟨error, ends, outcome_eq⟩ |
      ⟨result, goes, -, -, outcome_eq⟩
    · rw [reached, outcome_eq]
      simp [before, ends, failingFast, Settings.failingFast]
    · rw [reached, outcome_eq, ih]
      simp [before, goes]

/-- It writes the documents in front of the end. -/
theorem written_failingFast (noFailFast : job.settings.failFast = false) (sources : List Source) :
    job.failingFast.written answer world sources = job.before answer world sources := by
  induction sources with
  | nil => rfl
  | cons source sources ih =>
    unfold written at ih ⊢
    rcases outcome_failingFast_cases answer world noFailFast source with ⟨error, ends, outcome_eq⟩ |
      ⟨result, goes, -, -, outcome_eq⟩
    · rw [reached, outcome_eq]
      simp [before, ends, failingFast, Settings.failingFast, Except.toBool]
      exact congrArg Except.toBool outcome_eq
    · rw [reached, outcome_eq]
      simp only
      rw [List.filter_cons_of_pos (by rw [outcome_eq]; rfl), ih]
      simp [before, goes]

/-- A file that it writes is one of a document in front of the end. -/
theorem mem_before_of_failingFast (noFailFast : job.settings.failFast = false) {file : Path × Bytes}
    (reached : source ∈ job.failingFast.reached answer world sources)
    (mem : file ∈ job.failingFast.files answer world source) :
    source ∈ job.before answer world sources := by
  rw [← written_failingFast noFailFast]
  refine List.mem_filter.mpr ⟨reached, ?_⟩
  unfold files at mem
  cases outcome_eq : job.failingFast.outcome answer world source with
  | ok result => rfl
  | error error =>
    rw [outcome_eq] at mem
    exact absurd mem List.not_mem_nil

/-- The run reaches each document in front of the end, and writes the files that it has if the run goes on. -/
theorem mem_reached_of_before (noFailFast : job.settings.failFast = false) {sources : List Source}
    (mem : source ∈ job.before answer world sources) :
    source ∈ job.failingFast.reached answer world sources ∧
      job.failingFast.files answer world source = job.files answer world source := by
  induction sources with
  | nil => exact absurd mem List.not_mem_nil
  | cons first sources ih =>
    rcases outcome_failingFast_cases answer world noFailFast first with ⟨error, ends, -⟩ |
      ⟨result, goes, -, result_eq, outcome_eq⟩
    · exact absurd mem (by simp [before, ends])
    · have reached_eq : job.failingFast.reached answer world (first :: sources) =
          first :: job.failingFast.reached answer world sources := by
        rw [reached, outcome_eq]
      rw [before, List.takeWhile_cons, goes] at mem
      rw [reached_eq, List.mem_cons]
      rcases List.mem_cons.mp mem with rfl | later
      · refine ⟨.inl rfl, ?_⟩
        rw [files, files, outcome_eq, result_eq]
        rfl
      · exact ⟨.inr (ih later).1, (ih later).2⟩

/-- A run that is to end with the first failure writes no files but those of the documents in front of it, and
those that artifacts are kept in. -/
theorem writesOnly_failingFast (isolated : job.Isolated answer world sources)
    (noFailFast : job.settings.failFast = false) {after : World ε}
    (edited : Host.Edited (job.failingFast.RunEdits answer world
      (job.failingFast.reached answer world sources) (job.start world)) world.host after.host) :
    job.WritesOnly answer world after (job.before answer world sources)
      (sources.take ((job.before answer world sources).length + 1)) := by
  intro place unwritten unkept
  refine writesOnly_of_edited (isolated.failingFast noFailFast) edited place ?_ ?_
  · exact fun source reached file mem => unwritten source
      (mem_before_of_failingFast noFailFast reached mem) file (files_of_failingFast noFailFast mem)
  · intro source reached key keeps
    rw [reached_failingFast noFailFast] at reached
    exact unkept source reached key ((keepsAt_failingFast source key place).mp keeps)

/-- A run that is to end with the first failure accounts for the documents in front of it. -/
theorem halted_of_runsTo (isolated : job.Isolated answer world sources)
    (noFailFast : job.settings.failFast = false) (vacant : job.failingFast.Vacant answer world sources)
    (new : state.results = []) {run : Except End State × World ε}
    (runs : job.failingFast.RunsTo answer world sources state (job.start world) run) :
    EndsIn run (job.failingFast.Refuses answer world
        (sources.take ((job.before answer world sources).length + 1)) (job.start world))
      (job.Halted answer world sources state) := by
  rcases runs with ⟨fault, changed, ended, refused⟩ | ⟨after, ran, edited, files⟩
  · rw [reached_failingFast noFailFast] at refused
    exact .inl ⟨fault, changed, ended, refused⟩
  have writes_only := writesOnly_of_edited (isolated.failingFast noFailFast) edited
  refine .inr ⟨_, after, ran, foldl_told_failingFast noFailFast isolated.names (by simp [new]), ?_, ?_,
    writesOnly_failingFast isolated noFailFast edited⟩
  · intro source mem result outcome_eq file among
    obtain ⟨reached, files_eq⟩ := mem_reached_of_before noFailFast mem
    refine files source reached file ?_
    rw [files_eq, Job.files, outcome_eq]
    exact among
  · intro source mem later
    rw [← written_failingFast noFailFast] at later
    exact writes_only _ (fun other reached => (vacant source mem later other reached).1)
      fun other reached key keeps => (vacant source mem later other reached).2 key _ keeps rfl

end Job

end Site

end TypstFences
