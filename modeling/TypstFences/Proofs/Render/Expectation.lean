import TypstFences.Proofs.Cache.Edits
import TypstFences.Proofs.Render.Replies

/-!
# Expected results

What a session gives for a key can be expected from its start: what is remembered there, else what is loaded
there, else what is computed (`Session.expected?`). Giving results for keys one by one does not change what is
expected for any key (`renderRequest_expected`), and neither do edits of files, as long as they keep away from
the names of keys that nothing is remembered for yet (`Session.Expects.edited`). Here passes may have been
made in between, and files written, while nothing is said of what is refused: a result that is given is the
expected one.
-/

set_option autoImplicit false

namespace TypstFences

variable {ε : Type}

namespace Session

variable {start session after : Session ε} {key other : Text} {computed result : RenderResult}
variable {value : Text → Option RenderResult} {wanted : Text → Prop} {edits : Edit → Prop}

/-! ## What is expected for a key -/

/-- The result to be expected for a key, where `computed` is what a computation gives: what is remembered,
else what is in the directory, else what is computed. There is none where the directory cannot be read. -/
def expected? (session : Session ε) (key : Text) (computed : RenderResult) : Option RenderResult :=
  match session.cache.entry? key with
  | some result => some result
  | none =>
    match (session.cache.load key session.rig.host).1 with
    | .error _ => none
    | .ok found => some ((found.map RenderResult.artifact).getD computed)

/-- What is remembered is expected. -/
theorem expected?_of_entry (remembered : session.cache.entry? key = some result)
    (computed : RenderResult) : session.expected? key computed = some result := by
  unfold expected?
  rw [remembered]

/-- Without a remembered result, what is loaded is expected, and else what is computed. -/
theorem expected?_of_load {found : Option Artifact} (absent : session.cache.entry? key = none)
    (loaded : (session.cache.load key session.rig.host).1 = .ok found) (computed : RenderResult) :
    session.expected? key computed = some ((found.map RenderResult.artifact).getD computed) := by
  unfold expected?
  rw [absent, loaded]

/-- Without a remembered result, what is expected depends on what is loaded. -/
theorem load_of_expected? (absent : session.cache.entry? key = none)
    (expected : session.expected? key computed = some result) :
    ∃ found, (session.cache.load key session.rig.host).1 = .ok found ∧
      (found.map RenderResult.artifact).getD computed = result := by
  unfold expected? at expected
  rw [absent] at expected
  simp only at expected
  split at expected
  · exact absurd expected (by simp)
  · rename_i found loaded
    exact ⟨found, loaded, Option.some.inj expected⟩

/-- Whether a key is one of those with a value, and nothing is remembered for it. -/
def Open (value : Text → Option RenderResult) (session : Session ε) (key : Text) : Prop :=
  value key ≠ none ∧ session.cache.entry? key = none

/-- Whether the directory of a session is clear of the keys that are open. -/
def Clear (value : Text → Option RenderResult) (session : Session ε) : Prop :=
  ∀ path, session.cache.directory = some path → Store.Clear path (session.Open value) session.rig.host

/-- Whether a session that goes back to a start expects what was expected then, for keys with values that
are computed for them. -/
structure Expects (value : Text → Option RenderResult) (start session : Session ε) : Prop where
  directory : session.cache.directory = start.cache.directory
  here : session.rig.host.here = start.rig.host.here
  tag : session.rig.host.tag = start.rig.host.tag
  clear : session.Clear value
  same : ∀ key computed result, value key = some computed →
    session.expected? key computed = some result → start.expected? key computed = some result

/-- The edits that artifacts of some keys are saved by, which are computed and not remembered yet. -/
def Saves (value : Text → Option RenderResult) (wanted : Text → Prop) (session : Session ε)
    (edit : Edit) : Prop :=
  ∃ path key artifact, session.cache.directory = some path ∧ wanted key ∧
    session.cache.entry? key = none ∧ value key = some (.artifact artifact) ∧
      Store.Saves path session.rig.host.tag key artifact session.rig.host.here edit

/-- Whether a session comes of another one by giving results: nothing is forgotten, and no files are edited
but those that artifacts of some keys are saved by. -/
structure Advances (value : Text → Option RenderResult) (wanted : Text → Prop)
    (session after : Session ε) : Prop where
  directory : after.cache.directory = session.cache.directory
  kept : ∀ key, session.cache.entry? key ≠ none → after.cache.entry? key ≠ none
  edited : Host.Edited (session.Saves value wanted) session.rig.host after.rig.host

/-- Whether the file system refuses a file of the cache of a session: after some of the edits that artifacts
are saved by, the artifact of a wanted key cannot be looked for, or the one that is computed for it cannot be
saved. -/
inductive Refuses (value : Text → Option RenderResult) (wanted : Text → Prop) (session : Session ε)
    (fault : FileError) : Prop
  | unread {path : Path} {key : Text} {host : Host} (used : session.cache.directory = some path)
      (edited : Host.Edited (session.Saves value wanted) session.rig.host host) (asked : wanted key)
      (refused : (Store.load path key host).1 = .error (.refusedFile fault)) :
      Refuses value wanted session fault
  | unkept {path : Path} {key : Text} {artifact : Artifact} {host : Host}
      (used : session.cache.directory = some path)
      (edited : Host.Edited (session.Saves value wanted) session.rig.host host) (asked : wanted key)
      (known : value key = some (.artifact artifact))
      (refused : (Store.save path key artifact host).1 = .error fault) : Refuses value wanted session fault

/-- What is saved for fewer values and keys is saved for more. -/
theorem Saves.mono {fewer : Text → Option RenderResult} {more : Text → Prop} {edit : Edit}
    (h : session.Saves fewer wanted edit)
    (among : ∀ key result, wanted key → fewer key = some result → value key = some result)
    (among' : ∀ key, wanted key → more key) : session.Saves value more edit := by
  obtain ⟨path, key, artifact, used, mem, absent, known, saved⟩ := h
  exact ⟨path, key, artifact, used, among' key mem, absent, among key _ mem known, saved⟩

namespace Advances

/-- A session whose files stay the same advances, if it forgets nothing. -/
theorem of_sameFiles (cache : after.cache.directory = session.cache.directory)
    (kept : ∀ key, session.cache.entry? key ≠ none → after.cache.entry? key ≠ none)
    (files : Store.SameFiles session.rig.host after.rig.host) : Advances value wanted session after :=
  ⟨cache, kept, .of_sameFiles files⟩

/-- A session advances to itself. -/
theorem refl (session : Session ε) : Advances value wanted session session :=
  .of_sameFiles rfl (fun _ there => there) (.refl _)

/-- What is saved later could have been saved before. -/
theorem saves (h : Advances value wanted session after) {edit : Edit}
    (saves : after.Saves value wanted edit) : session.Saves value wanted edit := by
  obtain ⟨path, key, artifact, used, mem, absent, known, saved⟩ := saves
  refine ⟨path, key, artifact, h.directory ▸ used, mem, ?_, known, ?_⟩
  · by_contra there
    exact h.kept key there absent
  · rwa [h.edited.here, h.edited.tag] at saved

/-- A session advances by steps. -/
theorem trans {between : Session ε} (h : Advances value wanted session between)
    (h' : Advances value wanted between after) : Advances value wanted session after :=
  ⟨h'.directory.trans h.directory, fun key there => h'.kept key (h.kept key there),
    h.edited.trans (h'.edited.mono fun _ saves => h.saves saves)⟩

/-- A session that advances for fewer values and keys does so for more. -/
theorem mono {fewer : Text → Option RenderResult} {more : Text → Prop}
    (h : Advances fewer wanted session after)
    (among : ∀ key result, wanted key → fewer key = some result → value key = some result)
    (among' : ∀ key, wanted key → more key) : Advances value more session after :=
  ⟨h.directory, h.kept, h.edited.mono fun _ saves => saves.mono among among'⟩

end Advances

/-- A file that is refused later is one of those that are refused. -/
theorem Refuses.of_advances {fault : FileError} (advances : Advances value wanted session after)
    (h : after.Refuses value wanted fault) : session.Refuses value wanted fault := by
  rcases h with ⟨used, edited, asked, refused⟩ | ⟨used, edited, asked, known, refused⟩
  · exact .unread (advances.directory ▸ used)
      (advances.edited.trans (edited.mono fun _ saves => advances.saves saves)) asked refused
  · exact .unkept (advances.directory ▸ used)
      (advances.edited.trans (edited.mono fun _ saves => advances.saves saves)) asked known refused

/-- A file that is refused for some keys and values is refused for more of them. -/
theorem Refuses.mono {fewer : Text → Option RenderResult} {more : Text → Prop} {fault : FileError}
    (h : session.Refuses fewer wanted fault)
    (among : ∀ key result, wanted key → fewer key = some result → value key = some result)
    (among' : ∀ key, wanted key → more key) : session.Refuses value more fault := by
  rcases h with ⟨used, edited, asked, refused⟩ | ⟨used, edited, asked, known, refused⟩
  · exact .unread used (edited.mono fun _ saves => saves.mono among among') (among' _ asked) refused
  · exact .unkept used (edited.mono fun _ saves => saves.mono among among') (among' _ asked)
      (among _ _ asked known) refused

namespace Expects

/-- At the start everything is as expected. -/
theorem refl (clear : start.Clear value) : Expects value start start :=
  ⟨rfl, rfl, rfl, clear, fun _ _ _ _ expected => expected⟩

/-- What is expected for keys is expected for fewer keys. -/
theorem mono {fewer : Text → Option RenderResult} (h : Expects value start session)
    (among : ∀ key result, fewer key = some result → value key = some result) :
    Expects fewer start session := by
  refine ⟨h.directory, h.here, h.tag, fun path used => ?_, fun key computed result known =>
    h.same key computed result (among key computed known)⟩
  refine (h.clear path used).mono fun key opened => ⟨?_, opened.2⟩
  obtain ⟨result, known⟩ := Option.ne_none_iff_exists'.mp opened.1
  rw [among key result known]
  simp

/-- Files that stay the same leave everything as it was expected. -/
theorem sameFiles (h : Expects value start session)
    (directory : after.cache.directory = session.cache.directory)
    (entries : after.cache.entries = session.cache.entries)
    (files : Store.SameFiles session.rig.host after.rig.host) : Expects value start after := by
  have entry (key : Text) : after.cache.entry? key = session.cache.entry? key := by
    rw [Cache.entry?, entries, Cache.entry?]
  have opened : after.Open value = session.Open value := by
    funext key
    rw [Open, entry, Open]
  refine ⟨directory.trans h.directory, files.here.trans h.here, files.tag.trans h.tag, ?_, ?_⟩
  · intro path used
    rw [opened]
    exact (h.clear path (directory ▸ used)).sameFiles files
  · intro key computed result known expected
    have alike : Alike key session after := alike_of_sameFiles directory (entry key) files
    refine h.same key computed result known ?_
    unfold expected? at expected ⊢
    rwa [alike.entry, alike.load] at expected

/-- A result that is expected may be remembered, if the files of other open keys are left as they are. -/
theorem remember (h : Expects value start session) (absent : session.cache.entry? key = none)
    (known : value key = some computed) (expected : session.expected? key computed = some result)
    (directory : after.cache.directory = session.cache.directory)
    (entries : after.cache.entries = session.cache.entries ++ [(key, result)])
    (here : after.rig.host.here = session.rig.host.here) (tag : after.rig.host.tag = session.rig.host.tag)
    (clear : after.Clear value)
    (loads : ∀ other, session.Open value other → other ≠ key →
      (after.cache.load other after.rig.host).1 = (session.cache.load other session.rig.host).1) :
    Expects value start after := by
  have entry (other : Text) : after.cache.entry? other =
      if other = key then some result else session.cache.entry? other := by
    rw [Cache.entry?, entries]
    exact lookup_concat result absent
  refine ⟨directory.trans h.directory, here.trans h.here, tag.trans h.tag, clear, ?_⟩
  intro other computed' result' known' expected'
  by_cases same : other = key
  · subst same
    obtain rfl := Option.some.inj (known.symm.trans known')
    rw [expected?_of_entry (by rw [entry, if_pos rfl])] at expected'
    obtain rfl := Option.some.inj expected'
    exact h.same other computed result known expected
  · refine h.same other computed' result' known' ?_
    have entry_eq : after.cache.entry? other = session.cache.entry? other := by
      rw [entry, if_neg same]
    cases remembered : session.cache.entry? other with
    | some found =>
      rw [expected?_of_entry (entry_eq.trans remembered)] at expected'
      rw [expected?_of_entry remembered, expected']
    | none =>
      unfold expected? at expected' ⊢
      rw [remembered]
      rwa [entry_eq, remembered, loads other ⟨by rw [known']; simp, remembered⟩ same] at expected'

/-- Edits change nothing that is expected, if none of them gives the directory a name with a slash or a name
of a key that is open. -/
theorem edited {host : Host} (h : Expects value start session)
    (isKey : ∀ key, value key ≠ none → Store.IsKey key)
    (edited : Host.Edited edits session.rig.host host)
    (apart : ∀ path, session.cache.directory = some path → ∀ edit, edits edit → ∀ name,
      edit.place = path.resolve session.rig.host.here ++ [name] →
        '/' ∉ name ∧ ∀ key, session.Open value key → ¬Store.Concerns key name) :
    Expects value start (session.withHost host) := by
  refine ⟨h.directory, edited.here.trans h.here, edited.tag.trans h.tag, ?_, ?_⟩
  · intro path used
    exact (h.clear path used).edited edited (apart path used)
  · intro key computed result known expected
    refine h.same key computed result known ?_
    have cache_eq : (session.withHost host).cache = session.cache := rfl
    cases remembered : session.cache.entry? key with
    | some found =>
      have remembered' := remembered
      rw [← cache_eq] at remembered'
      rw [expected?_of_entry remembered'] at expected
      rw [expected?_of_entry remembered, expected]
    | none =>
      have opened : session.Open value key := ⟨by rw [known]; simp, remembered⟩
      have absent := remembered
      rw [← cache_eq] at absent
      obtain ⟨found, loaded, rfl⟩ := load_of_expected? absent expected
      rw [cache_eq] at loaded
      refine expected?_of_load remembered ?_ computed
      cases used : session.cache.directory with
      | none =>
        rw [Cache.load_of_none _ _ used] at loaded ⊢
        exact loaded
      | some path =>
        rw [Cache.load_of_some _ _ used] at loaded ⊢
        exact Store.load_of_edited (isKey key opened.1) (h.clear path used) opened edited
          (apart path used) loaded

end Expects

end Session

/-! ## Giving what is expected -/

/-- Whether a session has given the expected result for a key. -/
structure Session.GivesExpected (value : Text → Option RenderResult) (start session : Session ε)
    (key : Text) (computed : RenderResult) (result : RenderResult) (after : Session ε) : Prop where
  expected : start.expected? key computed = some result
  expects : Expects value start after
  advances : Advances value (· = key) session after
  entry : after.cache.entry? key = some result

namespace Session

variable {start session after : Session ε} {key : Text} {computed result : RenderResult}
variable {value : Text → Option RenderResult} {computation : Computation ε}

/-- What is remembered stays remembered when more is. -/
theorem kept_of_entries {more : List (Text × RenderResult)}
    (entries : after.cache.entries = session.cache.entries ++ more) (other : Text)
    (there : session.cache.entry? other ≠ none) : after.cache.entry? other ≠ none := by
  rw [Cache.entry?, entries, List.lookup_append]
  obtain ⟨found, known⟩ := Option.ne_none_iff_exists'.mp there
  rw [show session.cache.entries.lookup other = some found from known]
  simp

/-- Files that stay the same while an expected result is remembered leave everything as it was expected. -/
theorem GivesExpected.of_sameFiles (h : Expects value start session)
    (absent : session.cache.entry? key = none) (known : value key = some computed)
    (expected : session.expected? key computed = some result)
    (directory : after.cache.directory = session.cache.directory)
    (entries : after.cache.entries = session.cache.entries ++ [(key, result)])
    (files : Store.SameFiles session.rig.host after.rig.host) :
    GivesExpected value start session key computed result after := by
  have clear : after.Clear value := by
    intro path used
    refine ((h.clear path (directory ▸ used)).sameFiles files).mono fun other opened => ⟨opened.1, ?_⟩
    by_contra there
    exact kept_of_entries entries other there opened.2
  refine ⟨h.same key computed result known expected, ?_,
    .of_sameFiles directory (kept_of_entries entries) files, ?_⟩
  · refine h.remember absent known expected directory entries files.here files.tag clear
      fun other _ _ => ?_
    cases used : session.cache.directory with
    | none => rw [Cache.load_of_none _ _ used, Cache.load_of_none _ _ (directory.trans used)]
    | some path =>
      rw [Cache.load_of_some _ _ used, Cache.load_of_some _ _ (directory.trans used)]
      exact files.load path other
  · rw [Cache.entry?, entries]
    exact (lookup_concat result absent).trans (if_pos rfl)

/-- An artifact that is computed and saved is the expected one, and leaves everything else as it was
expected. -/
theorem GivesExpected.of_save {path : Path} {artifact : Artifact} {rig : Rig ε}
    (isKey : ∀ key, value key ≠ none → Store.IsKey key) (h : Expects value start session)
    (absent : session.cache.entry? key = none) (known : value key = some (.artifact artifact))
    (used : session.cache.directory = some path)
    (nothing : (session.cache.load key session.rig.host).1 = .ok none)
    (files : Store.SameFiles session.rig.host rig.host) {saved : Host}
    (done : Store.save path key artifact rig.host = (.ok (), saved))
    (directory : after.cache.directory = session.cache.directory)
    (entries : after.cache.entries = session.cache.entries ++ [(key, .artifact artifact)])
    (host_eq : after.rig.host = saved) :
    GivesExpected value start session key (.artifact artifact) (.artifact artifact) after := by
  subst host_eq
  have opened : session.Open value key := ⟨by rw [known]; simp, absent⟩
  have clear := (h.clear path used).sameFiles files
  have expected := expected?_of_load absent nothing (.artifact artifact)
  rw [Cache.load_of_some _ _ used] at nothing
  have nothing' := (files.load path key).trans nothing
  obtain ⟨-, loads⟩ := Store.save_others (isKey key opened.1) opened clear.tidy nothing' done
  obtain ⟨made, place, after_files, -, saved_eq, -, there, -⟩ :=
    Store.save_cases (isKey key opened.1) opened clear.tidy nothing' done
  have edited := Store.edited_save path key artifact rig.host
  rw [done, files.here, files.tag] at edited
  refine ⟨h.same key _ _ known expected, ?_, ⟨directory, kept_of_entries entries, ?_⟩, ?_⟩
  · refine h.remember absent known expected directory entries (edited.here.trans files.here)
      (edited.tag.trans files.tag) (fun path' used' => ?_) fun other opened' differ => ?_
    · obtain rfl := Option.some.inj (used.symm.trans (directory ▸ used'))
      have there' : Store.ThereAt path after.rig.host.files after.rig.host.here place := by
        rw [saved_eq]
        exact there
      refine Store.Clear.of_thereAt there' fun name passes => ?_
      · rw [edited.here] at passes
        exact clear.names name (.inr passes)
    · rw [Cache.load_of_some _ _ used, Cache.load_of_some _ _ (directory.trans used)]
      exact (loads other (isKey other opened'.1) opened' differ).1.trans (files.load path other)
  · exact (Host.Edited.of_sameFiles files).trans (edited.mono fun edit saves =>
      ⟨path, key, artifact, used, rfl, absent, known, saves⟩)
  · rw [Cache.entry?, entries]
    exact (lookup_concat _ absent).trans (if_pos rfl)

/-- A session gives the result that is expected, or an error of the file system. -/
theorem result_expected (gives : computation.Gives computed)
    (isKey : ∀ key, value key ≠ none → Store.IsKey key) (h : Expects value start session)
    (known : value key = some computed) :
    (∃ fault, (session.result key computation).1 = .error (.refusedFile fault) ∧
        session.Refuses value (· = key) fault) ∨
      ∃ result, (session.result key computation).1 = .ok result ∧
        GivesExpected value start session key computed result (session.result key computation).2 := by
  have hk := isKey key (by rw [known]; simp)
  have files (host : Host) {outcome : Except PassError (Option Artifact)}
      (loaded : session.cache.load key session.rig.host = (outcome, host)) :
      Store.SameFiles session.rig.host host := by
    have same : Store.SameFiles session.rig.host (session.cache.load key session.rig.host).2 := by
      unfold Cache.load
      split
      · exact .refl session.rig.host
      · exact Store.sameFiles_load _ key session.rig.host
    rwa [loaded] at same
  have retrieval := result_retrieval session key computation
  generalize session.result key computation = done at retrieval ⊢
  cases retrieval with
  | @remembered result entry =>
    have same : Store.SameFiles session.rig.host session.rig.host := .refl _
    exact .inr ⟨result, rfl, h.same key computed result known (expected?_of_entry entry computed),
      h.sameFiles rfl rfl same, .of_sameFiles rfl (fun _ there => there) same, entry⟩
  | @failed error host absent loaded =>
    have failed := congrArg Prod.fst loaded
    unfold Cache.load at failed
    split at failed
    · exact absurd failed (by simp)
    · rename_i path used
      obtain ⟨fault, rfl⟩ := Store.refused_of_load hk failed
      exact .inl ⟨fault, rfl, .unread used (.refl _) rfl failed⟩
  | @found artifact host absent loaded =>
    exact .inr ⟨_, rfl, .of_sameFiles h absent known
      (expected?_of_load absent (congrArg Prod.fst loaded) computed) rfl rfl (files host loaded)⟩
  | @computed host absent loaded =>
    have nothing := congrArg Prod.fst loaded
    have outcome := gives.outcome (session.withHost host).rig
    have same := (files host loaded).trans (gives.files (session.withHost host).rig)
    simp only [compute]
    generalize computation (session.withHost host).rig = done at outcome same ⊢
    obtain ⟨computed', rig⟩ := done
    obtain rfl : computed' = .ok computed := outcome
    cases computed with
    | failure failure =>
      exact .inr ⟨_, rfl, .of_sameFiles h absent known (expected?_of_load absent nothing _) rfl rfl same⟩
    | artifact artifact =>
      have same_save : Cache.save (session.withHost host).cache.countMiss key artifact rig.host =
          session.cache.save key artifact rig.host := rfl
      simp only [keep, same_save]
      cases used : session.cache.directory with
      | none =>
        rw [Cache.save_of_none _ _ _ used]
        exact .inr ⟨_, rfl, .of_sameFiles h absent known (expected?_of_load absent nothing _) rfl rfl same⟩
      | some path =>
        rw [Cache.save_of_some _ _ _ used]
        cases saved : Store.save path key artifact rig.host with
        | mk outcome host' =>
          cases outcome with
          | error fault =>
            exact .inl ⟨fault, rfl, .unkept used (.of_sameFiles same) rfl known (congrArg Prod.fst saved)⟩
          | ok => exact .inr ⟨_, rfl, .of_save isKey h absent known used nothing same saved rfl rfl rfl⟩

end Session

/-- A request has the result that is expected, or an error of the file system. -/
theorem renderRequest_expected {settings : Settings} {engine : Engine ε} {version : Text}
    {answer : Text → RenderResult} (answers : engine.Answers version answer) (spares : engine.SparesFiles)
    {value : Text → Option RenderResult} (isKey : ∀ key, value key ≠ none → Store.IsKey key)
    {start session : Session ε} (h : Session.Expects value start session) {request : Request}
    (known : value (digestUnder settings version engine.root request) =
      some (request.answer answer settings.preamble)) :
    (∃ fault, (renderRequest settings engine request session).1 = .error (.refusedFile fault) ∧
        session.Refuses value (· = digestUnder settings version engine.root request) fault) ∨
      ∃ result, (renderRequest settings engine request session).1 = .ok result ∧
        Session.GivesExpected value start session (digestUnder settings version engine.root request)
          (request.answer answer settings.preamble) result
          (renderRequest settings engine request session).2 := by
  have gives : Computation.Gives (submit settings engine request)
      (request.answer answer settings.preamble) := by
    refine ⟨fun rig => by rw [submit_eq answers], fun rig => ?_⟩
    rw [submit_eq answers]
    exact spares.compile (request.assembled settings.preamble)
      (rig.submit (request.assembled settings.preamble))
  have told := answers.version_eq session.rig
  have files := spares.version session.rig
  rcases renderRequest_cases settings engine request session with
    ⟨error, rig, untold, -⟩ | ⟨version', rig, told', rendered⟩
  · rw [untold] at told
    exact absurd told (by simp)
  rw [told'] at told files
  obtain rfl := Except.ok.inj told
  rw [rendered]
  have begun : Session.Expects value start { session with rig := rig } := h.sameFiles rfl rfl files
  have moved : Session.Advances value
      (· = digestUnder settings version' engine.root request) session { session with rig := rig } :=
    .of_sameFiles rfl (fun _ there => there) files
  rcases Session.result_expected gives isKey begun known with ⟨fault, refused, refuses⟩ |
    ⟨result, done, given⟩
  · exact .inl ⟨fault, refused, .of_advances moved refuses⟩
  · exact .inr ⟨result, done, given.expected, given.expects, moved.trans given.advances, given.entry⟩

end TypstFences
