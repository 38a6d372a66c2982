import TypstFences.Proofs.Cache.Layers
import TypstFences.Proofs.Cache.Saving
import TypstFences.Proofs.Render.Progress
import TypstFences.Proofs.Render.Truth

/-!
# The order of requests makes no difference

Which result a session is going to give for a key can be told beforehand (`foreseen?`), and giving one
result changes none that is foreseen for another key (`result_foreseen`). So along a schedule every
request has the result that was foreseen at its start (`Agrees`), in whichever order requests are
executed and delivered. If none is foreseen for some request, because its artifact cannot be read or
kept, no schedule that delivers every block comes to an end without an error
(`foreseen_of_renderRequests`); else every such schedule delivers what was foreseen
(`rendersAs_foreseen`).
-/

set_option autoImplicit false

namespace TypstFences

variable {ε : Type}

/-- Whether a computation has a result, whatever the rig is, and changes no files. -/
structure Computation.Gives (computation : Computation ε) (computed : RenderResult) : Prop where
  outcome : ∀ rig, (computation rig).1 = .ok computed
  files : ∀ rig, Store.SameFiles rig.host (computation rig).2.host

/-- Whether an engine changes no files. -/
structure Engine.SparesFiles (engine : Engine ε) : Prop where
  version : ∀ rig, Store.SameFiles rig.host (engine.version rig).2.host
  compile : ∀ source rig, Store.SameFiles rig.host (engine.compile source rig).2.host

/-- Whether the files stay the same when a failure is delivered. -/
def OnFailure.SparesFiles {σ : Type} (onFailure : OnFailure σ) : Prop :=
  ∀ block failure noted host, Store.SameFiles host (onFailure block failure noted host).2.2

/-- What is quiet about failures spares files. -/
theorem OnFailure.Quiet.sparesFiles {σ : Type} {onFailure : OnFailure σ} (quiet : onFailure.Quiet) :
    onFailure.SparesFiles := by
  intro block failure noted host
  obtain ⟨after, level, message, quietly⟩ := quiet block failure noted host
  rw [quietly]
  exact .note host level message

namespace Cache

variable {cache : Cache} {path : Path} (key : Text) (artifact : Artifact) (host : Host)

/-- Without a directory nothing is found. -/
theorem load_of_none (used : cache.directory = none) : cache.load key host = (.ok none, host) := by
  unfold load
  rw [used]

/-- With a directory artifacts are looked for there. -/
theorem load_of_some (used : cache.directory = some path) :
    cache.load key host = Store.load path key host := by
  unfold load
  rw [used]

/-- Without a directory nothing is saved. -/
theorem save_of_none (used : cache.directory = none) :
    cache.save key artifact host = (.ok (), host) := by
  unfold save
  rw [used]

/-- With a directory artifacts are saved there. -/
theorem save_of_some (used : cache.directory = some path) :
    cache.save key artifact host = Store.save path key artifact host := by
  unfold save
  rw [used]

end Cache

namespace Session

variable {session after : Session ε} {key other : Text} {computed result : RenderResult}
variable {computation : Computation ε} {keys : Text → Prop}

/-! ## What is foreseen for a key -/

/-- The result that a session is going to give for a key, if there is to be one, where `computed` is
what a computation gives: what is remembered, else what is in the directory, else what is computed,
if it can be kept there. -/
def foreseen? (session : Session ε) (key : Text) (computed : RenderResult) : Option RenderResult :=
  match session.cache.entry? key with
  | some result => some result
  | none =>
    match (session.cache.load key session.rig.host).1, computed with
    | .error _, _ => none
    | .ok (some artifact), _ => some (.artifact artifact)
    | .ok none, .failure failure => some (.failure failure)
    | .ok none, .artifact artifact =>
      if (session.cache.save key artifact session.rig.host).1 = .ok () then some (.artifact artifact)
      else none

/-- Without a directory there is always a result. -/
theorem foreseen?_ne_none (used : session.cache.directory = none) (key : Text)
    (computed : RenderResult) : session.foreseen? key computed ≠ none := by
  unfold foreseen?
  cases session.cache.entry? key with
  | some result => simp
  | none =>
    rw [Cache.load_of_none _ _ used]
    cases computed with
    | failure failure => simp
    | artifact artifact => simp [Cache.save_of_none _ _ _ used]

/-- Whether two sessions find the same for a key, remembered or in the directory, and can keep the same
artifacts for it. -/
structure Alike (key : Text) (session after : Session ε) : Prop where
  entry : after.cache.entry? key = session.cache.entry? key
  load : (after.cache.load key after.rig.host).1 = (session.cache.load key session.rig.host).1
  save : ∀ artifact, (after.cache.save key artifact after.rig.host).1 = .ok () ↔
    (session.cache.save key artifact session.rig.host).1 = .ok ()

/-- The same is foreseen in sessions that are alike. -/
theorem Alike.foreseen (h : Alike key session after) (computed : RenderResult) :
    after.foreseen? key computed = session.foreseen? key computed := by
  unfold foreseen?
  rw [h.entry, h.load]
  simp only [h.save]

/-- Sessions with the same directory, the same files, and the same result remembered are alike. -/
theorem alike_of_sameFiles (directory : after.cache.directory = session.cache.directory)
    (entry : after.cache.entry? key = session.cache.entry? key)
    (files : Store.SameFiles session.rig.host after.rig.host) : Alike key session after := by
  cases used : session.cache.directory with
  | none =>
    have used' := directory.trans used
    exact ⟨entry, by rw [Cache.load_of_none _ _ used, Cache.load_of_none _ _ used'],
      fun artifact => by rw [Cache.save_of_none _ _ _ used, Cache.save_of_none _ _ _ used']⟩
  | some path =>
    have used' := directory.trans used
    refine ⟨entry, ?_, fun artifact => ?_⟩
    · rw [Cache.load_of_some _ _ used, Cache.load_of_some _ _ used']
      exact files.load path key
    · rw [Cache.save_of_some _ _ _ used, Cache.save_of_some _ _ _ used']
      exact files.saves

/-- Whether the directory of a session, if it has one, is there, or is empty of certain keys when it is
made. -/
def Tidy (keys : Text → Prop) (session : Session ε) : Prop :=
  ∀ path, session.cache.directory = some path → Store.Tidy path keys session.rig.host

/-- A session stays tidy where its files stay the same. -/
theorem Tidy.sameFiles (h : session.Tidy keys)
    (directory : after.cache.directory = session.cache.directory)
    (files : Store.SameFiles session.rig.host after.rig.host) : after.Tidy keys :=
  fun path used => (h path (directory ▸ used)).sameFiles files

/-! ## Giving a result -/

/-- A result is remembered under its key, and all else as before. -/
theorem entry?_remember (session : Session ε) (result : RenderResult)
    (absent : session.cache.entry? key = none) (other : Text) :
    (session.remember key result).cache.entry? other =
      if other = key then some result else session.cache.entry? other :=
  lookup_concat result absent

/-- Whether a host has the files of a session, or those after an artifact was saved under a key for which
nothing was found before. -/
def SavedAtMost (key : Text) (session : Session ε) (host : Host) : Prop :=
  Store.SameFiles session.rig.host host ∨
  ∃ path artifact, session.cache.directory = some path ∧
    (Store.load path key session.rig.host).1 = .ok none ∧
    (Store.save path key artifact session.rig.host).1 = .ok () ∧
    Store.SameFiles (Store.save path key artifact session.rig.host).2 host

/-- Whether a session comes of another by giving a result for a key: the result is remembered, and at
most an artifact was saved. -/
structure Given (key : Text) (result : RenderResult) (session after : Session ε) : Prop where
  directory : after.cache.directory = session.cache.directory
  entry : after.cache.entry? key = some result
  others : ∀ other, other ≠ key → after.cache.entry? other = session.cache.entry? other
  files : session.SavedAtMost key after.rig.host

/-- What was given in a session with another rig was given, if the rig has the same files. -/
theorem Given.of_withRig {rig : Rig ε} (h : Given key result { session with rig := rig } after)
    (files : Store.SameFiles session.rig.host rig.host) : Given key result session after := by
  refine ⟨h.directory, h.entry, h.others, ?_⟩
  rcases h.files with same | ⟨path, artifact, used, nothing, saves, same⟩
  · exact .inl (files.trans same)
  · have saved := files.saves.mp saves
    exact .inr ⟨path, artifact, used, (files.load path key).symm.trans nothing, saved,
      (files.save saved).trans same⟩

/-- A result is given by remembering it, if at most it was saved. -/
theorem given_remember (after : Session ε) (absent : session.cache.entry? key = none)
    (directory : after.cache.directory = session.cache.directory)
    (entries : after.cache.entries = session.cache.entries)
    (files : session.SavedAtMost key after.rig.host) (result : RenderResult) :
    Given key result session (after.remember key result) := by
  have same (other : Text) : after.cache.entry? other = session.cache.entry? other := by
    rw [Cache.entry?, entries, Cache.entry?]
  have lookup := entry?_remember after result ((same key).trans absent)
  exact ⟨directory, by rw [lookup, if_pos rfl],
    fun other differ => by rw [lookup, if_neg differ, same], files⟩

/-- What comes of asking a session for the result of a key: the one that is foreseen is given, and if
none is, an error of the file system ends the asking. -/
inductive Fulfils (key : Text) (session : Session ε) :
    Option RenderResult → Except PassError RenderResult × Session ε → Prop
  | given {result : RenderResult} {after : Session ε} (h : Given key result session after) :
      Fulfils key session (some result) (.ok result, after)
  | refused {after : Session ε} (error : FileError) :
      Fulfils key session none (.error (.refusedFile error), after)

/-- What is fulfilled from another rig is fulfilled if this one is alike. -/
theorem Fulfils.of_withRig {rig : Rig ε} {foreseen : Option RenderResult}
    {done : Except PassError RenderResult × Session ε}
    (h : Fulfils key { session with rig := rig } foreseen done)
    (files : Store.SameFiles session.rig.host rig.host) : Fulfils key session foreseen done := by
  cases h with
  | given h => exact .given (h.of_withRig files)
  | refused error => exact .refused error

/-- A computed artifact is given if it can be kept. -/
theorem keep_foreseen (artifact : Artifact) (absent : session.cache.entry? key = none)
    (nothing : (session.cache.load key session.rig.host).1 = .ok none) (rig : Rig ε)
    (files : Store.SameFiles session.rig.host rig.host) :
    Fulfils key session
      (if (session.cache.save key artifact session.rig.host).1 = .ok () then some (.artifact artifact)
        else none)
      (keep key (.artifact artifact) ⟨session.cache.countMiss, rig⟩) := by
  have same_save : session.cache.countMiss.save key artifact rig.host =
      session.cache.save key artifact rig.host := rfl
  simp only [keep, same_save]
  cases used : session.cache.directory with
  | none =>
    simp only [Cache.save_of_none _ _ _ used, if_true]
    exact .given (given_remember ⟨session.cache.countMiss, rig⟩ absent rfl rfl (.inl files) _)
  | some path =>
    rw [Cache.load_of_some _ _ used] at nothing
    simp only [Cache.save_of_some _ _ _ used]
    by_cases saved : (Store.save path key artifact session.rig.host).1 = .ok ()
    · rw [if_pos saved]
      have same := files.save saved
      have saved' := files.saves.mpr saved
      generalize Store.save path key artifact rig.host = done at same saved' ⊢
      obtain ⟨outcome, host⟩ := done
      obtain rfl : outcome = .ok () := saved'
      exact .given (given_remember ((Session.mk session.cache.countMiss rig).withHost host) absent
        rfl rfl (.inr ⟨path, artifact, used, nothing, saved, same⟩) _)
    · rw [if_neg saved]
      have refused := files.saves.not.mpr saved
      generalize Store.save path key artifact rig.host = done at refused ⊢
      obtain ⟨outcome, host⟩ := done
      cases outcome with
      | ok => exact absurd rfl refused
      | error error => exact .refused error

/-- A session gives the result that is foreseen. -/
theorem result_foreseen (gives : computation.Gives computed) (session : Session ε)
    (hk : Store.IsKey key) :
    Fulfils key session (session.foreseen? key computed) (session.result key computation) := by
  unfold foreseen? Session.result
  cases remembered : session.cache.entry? key with
  | some result =>
    exact .given ⟨rfl, remembered, fun _ _ => rfl, .inl (.refl session.rig.host)⟩
  | none =>
    have files : Store.SameFiles session.rig.host (session.cache.load key session.rig.host).2 := by
      unfold Cache.load
      split
      · exact .refl session.rig.host
      · exact Store.sameFiles_load _ key session.rig.host
    cases loaded : session.cache.load key session.rig.host with
    | mk outcome host =>
      rw [loaded] at files
      rcases outcome with error | (- | artifact)
      · have failed : (session.cache.load key session.rig.host).1 = .error error := by rw [loaded]
        unfold Cache.load at failed
        split at failed
        · exact absurd failed (by simp)
        · obtain ⟨refused, rfl⟩ := Store.refused_of_load hk failed
          exact .refused refused
      · -- the computation has its result, and an artifact is saved
        have outcome := gives.outcome (session.withHost host).rig
        have same := files.trans (gives.files (session.withHost host).rig)
        simp only [compute]
        generalize computation (session.withHost host).rig = done at outcome same ⊢
        obtain ⟨computed', rig⟩ := done
        obtain rfl : computed' = .ok computed := outcome
        cases computed with
        | failure failure =>
          exact .given (given_remember ⟨session.cache.countMiss, rig⟩ remembered rfl rfl
            (.inl same) _)
        | artifact artifact => exact keep_foreseen artifact remembered (by rw [loaded]) rig same
      · exact .given (given_remember ⟨session.cache.countHit, (session.withHost host).rig⟩
          remembered rfl rfl (.inl files) _)

/-- What is remembered is foreseen. -/
theorem foreseen?_of_entry (remembered : session.cache.entry? key = some result)
    (computed : RenderResult) : session.foreseen? key computed = some result := by
  unfold foreseen?
  rw [remembered]

/-- Giving a result for a key makes no difference for other keys. -/
theorem Given.others_alike (h : Given key result session after)
    (isKey : ∀ other, keys other → Store.IsKey other) (wanted : keys key) (tidy : session.Tidy keys) :
    after.Tidy keys ∧ ∀ other, keys other → other ≠ key → Alike other session after := by
  rcases h.files with same | ⟨path, artifact, used, nothing, saves, same⟩
  · exact ⟨tidy.sameFiles h.directory same, fun other _ differ =>
      alike_of_sameFiles h.directory (h.others other differ) same⟩
  · have done : Store.save path key artifact session.rig.host =
        (.ok (), (Store.save path key artifact session.rig.host).2) := Prod.ext saves rfl
    obtain ⟨tidy', others⟩ := Store.save_others (isKey key wanted) wanted (tidy path used) nothing done
    refine ⟨fun path' used' => ?_, fun other other_wanted differ => ?_⟩
    · obtain rfl := Option.some.inj (used.symm.trans (h.directory ▸ used'))
      exact tidy'.sameFiles same
    · obtain ⟨load, save⟩ := others other (isKey other other_wanted) other_wanted differ
      have used' := h.directory.trans used
      refine ⟨h.others other differ, ?_, fun artifact => ?_⟩
      · rw [Cache.load_of_some _ _ used, Cache.load_of_some _ _ used']
        exact (same.load path other).trans load
      · rw [Cache.save_of_some _ _ _ used, Cache.save_of_some _ _ _ used']
        exact same.saves.trans (save artifact)

end Session

/-! ## Requests -/

/-- The digest of a request under settings, for an engine with a version and a root. -/
def digestUnder (settings : Settings) (version : Text) (root : Option Text) (request : Request) : Text :=
  request.digest version settings.preamble settings.outputFormat root

/-- What is assumed of rendering: each request has a digest and a result that would be computed, and is
given what is foreseen for the digest. -/
structure GivesForeseen (settings : Settings) (engine : Engine ε) (digest : Request → Text)
    (answer : Request → RenderResult) : Prop where
  isKey : ∀ request, Store.IsKey (digest request)
  render : ∀ (session : Session ε) request,
    session.Fulfils (digest request) (session.foreseen? (digest request) (answer request))
      (renderRequest settings engine request session)

/-- An engine that answers and changes no files gives what is foreseen. -/
theorem givesForeseen_of_answers (settings : Settings) {engine : Engine ε} {version : Text}
    {answer : Text → RenderResult} (answers : engine.Answers version answer)
    (spares : engine.SparesFiles) :
    GivesForeseen settings engine
      (digestUnder settings version engine.root)
      (fun request => request.answer answer settings.preamble) where
  isKey request := Store.isKey_hexDigest _
  render session request := by
    have gives : Computation.Gives (submit settings engine request)
        (request.answer answer settings.preamble) := by
      refine ⟨fun rig => by rw [submit_eq answers], fun rig => ?_⟩
      rw [submit_eq answers]
      exact spares.compile (request.assembled settings.preamble)
        (rig.submit (request.assembled settings.preamble))
    have told := answers.version_eq session.rig
    have files := spares.version session.rig
    unfold renderRequest requestDigest
    generalize engine.version session.rig = asked at told files ⊢
    obtain ⟨version', rig⟩ := asked
    obtain rfl : version' = .ok version := told
    have alike : Session.Alike (digestUnder settings version engine.root request) session
        { session with rig := rig } := Session.alike_of_sameFiles rfl rfl files
    have hk : Store.IsKey (digestUnder settings version engine.root request) :=
      Store.isKey_hexDigest _
    have result := Session.result_foreseen gives { session with rig := rig } hk
    rw [alike.foreseen] at result
    exact result.of_withRig files

/-- Whether the rendering of a request ends in no error but one of the file system. -/
def EndsRefused (settings : Settings) (engine : Engine ε) : Prop :=
  ∀ (session : Session ε) request error,
    (renderRequest settings engine request session).1 = .error error →
      ∃ refused, error = .refusedFile refused

/-- Where what is foreseen is given, a request without a result is refused a file. -/
theorem GivesForeseen.endsRefused {settings : Settings} {engine : Engine ε} {digest : Request → Text}
    {answer : Request → RenderResult} (gives : GivesForeseen settings engine digest answer) :
    EndsRefused settings engine := by
  intro session request error failed
  have rendered := gives.render session request
  generalize session.foreseen? (digest request) (answer request) = known at rendered
  generalize renderRequest settings engine request session = rendering at rendered failed
  cases rendered with
  | given => exact absurd failed (by simp)
  | refused refused => exact ⟨refused, (Except.error.inj failed).symm⟩

/-- Whether a request is rendered to a result where no directory is used. -/
def SucceedsUnkept (settings : Settings) (engine : Engine ε) : Prop :=
  ∀ (session : Session ε) request, session.cache.directory = none →
    (∃ result, (renderRequest settings engine request session).1 = .ok result) ∧
      (renderRequest settings engine request session).2.cache.directory = none

/-- Where what is foreseen is given, a request has a result if nothing is kept on disk. -/
theorem GivesForeseen.succeedsUnkept {settings : Settings} {engine : Engine ε}
    {digest : Request → Text} {answer : Request → RenderResult}
    (gives : GivesForeseen settings engine digest answer) : SucceedsUnkept settings engine := by
  intro session request used
  obtain ⟨result, foreseen⟩ := Option.ne_none_iff_exists'.mp
    (Session.foreseen?_ne_none used (digest request) (answer request))
  have rendered := gives.render session request
  rw [foreseen] at rendered
  generalize renderRequest settings engine request session = rendering at rendered ⊢
  cases rendered with
  | given given => exact ⟨⟨result, rfl⟩, given.directory.trans used⟩

section Requests

variable {settings : Settings} {engine : Engine ε} {digest : Request → Text}
variable {answer : Request → RenderResult} {requests : List (Nat × Request)}
variable {σ : Type} {start session after : Session ε} {onFailure : OnFailure σ} {noted : σ}

/-- Whether a key is the digest of one of some requests. -/
def Asked (digest : Request → Text) (asked : List Request) (key : Text) : Prop :=
  ∃ request ∈ asked, digest request = key

/-- Whether the same result would be computed for all of some requests with the same digest. -/
def SingleAnswers (digest : Request → Text) (answer : Request → RenderResult) (asked : List Request) :
    Prop :=
  ∀ request ∈ asked, ∀ other ∈ asked, digest request = digest other → answer request = answer other

/-- Whether the same is foreseen for requests in a session as was at the start. -/
structure Session.Agrees (digest : Request → Text) (answer : Request → RenderResult)
    (asked : List Request) (start session : Session ε) : Prop where
  tidy : session.Tidy (Asked digest asked)
  same : ∀ request ∈ asked, session.foreseen? (digest request) (answer request) =
    start.foreseen? (digest request) (answer request)

namespace Session.Agrees

variable {asked : List Request}

/-- Sessions still agree where the cache and the files stay the same. -/
theorem sameFiles (h : Agrees digest answer asked start session)
    (directory : after.cache.directory = session.cache.directory)
    (entries : after.cache.entries = session.cache.entries)
    (files : Store.SameFiles session.rig.host after.rig.host) :
    Agrees digest answer asked start after := by
  refine ⟨h.tidy.sameFiles directory files, fun request mem => ?_⟩
  have alike : Alike (digest request) session after :=
    alike_of_sameFiles directory (by rw [Cache.entry?, entries, Cache.entry?]) files
  rw [alike.foreseen, h.same request mem]

/-- Giving the result of a request changes nothing that is foreseen. -/
theorem given {request : Request} {result : RenderResult}
    (h : Agrees digest answer asked start session) (isKey : ∀ request, Store.IsKey (digest request))
    (single : SingleAnswers digest answer asked) (mem : request ∈ asked)
    (foreseen : session.foreseen? (digest request) (answer request) = some result)
    (given : Given (digest request) result session after) : Agrees digest answer asked start after := by
  have keys_isKey : ∀ key, Asked digest asked key → Store.IsKey key := by
    rintro _ ⟨request, -, rfl⟩
    exact isKey request
  obtain ⟨tidy, others⟩ := given.others_alike keys_isKey ⟨request, mem, rfl⟩ h.tidy
  refine ⟨tidy, fun other mem' => ?_⟩
  rw [← h.same other mem']
  by_cases same : digest other = digest request
  · rw [same, single other mem' request mem same, foreseen, foreseen?_of_entry given.entry]
  · exact (others _ ⟨other, mem', rfl⟩ same).foreseen _

end Session.Agrees

/-! ## Schedules -/

namespace Collection

variable {collection : Collection ε σ}

/-- Whether the outcome of some block so far is an error, or all outcomes so far were foreseen at the
start, and the same is foreseen now as then. -/
def FailedOrForeseen (digest : Request → Text) (answer : Request → RenderResult)
    (requests : List (Nat × Request)) (start : Session ε) (collection : Collection ε σ) : Prop :=
  (∃ block error, collection.executed.lookup block = some (.error error)) ∨
  start.Agrees digest answer (requests.map Prod.snd) collection.session ∧
    ∀ block outcome, collection.executed.lookup block = some outcome →
      ∃ request, requests.lookup block = some request ∧
        start.foreseen? (digest request) (answer request) ≠ none

/-- A collection has failed or holds what is foreseen when a block is executed. -/
theorem FailedOrForeseen.execute (h : collection.FailedOrForeseen digest answer requests start)
    (gives : GivesForeseen settings engine digest answer)
    (single : SingleAnswers digest answer (requests.map Prod.snd)) (block : Nat) :
    (collection.execute settings engine requests block).FailedOrForeseen digest answer requests
      start := by
  rcases execute_cases settings engine requests collection block with ⟨-, done⟩ |
    ⟨request, asked, absent, done⟩
  · rwa [done]
  · rw [done]
    rcases h with ⟨other, error, failed⟩ | ⟨agrees, foreseen⟩
    · refine .inl ⟨other, error, ?_⟩
      have differ : other ≠ block := by
        rintro rfl
        exact absurd (absent.symm.trans failed) (by simp)
      rw [lookup_addOutcome absent, if_neg differ, failed]
    · have rendered := gives.render collection.session request
      have listed := List.mem_map_of_mem (f := Prod.snd) (mem_of_lookup asked)
      generalize found : collection.session.foreseen? (digest request) (answer request) = known
        at rendered
      generalize outcome : renderRequest settings engine request collection.session = rendering
        at rendered
      cases rendered with
      | @given result after given =>
        refine .inr ⟨?_, fun other told executed => ?_⟩
        · rw [addOutcome, outcome]
          exact agrees.given gives.isKey single listed found given
        · rw [lookup_addOutcome absent] at executed
          split at executed
          · rename_i same
            have seen := (agrees.same request listed).symm.trans found
            exact ⟨request, same ▸ asked, by rw [seen]; simp⟩
          · exact foreseen other told executed
      | refused error =>
        exact .inl ⟨block, _, by rw [lookup_addOutcome absent, if_pos rfl, outcome]⟩

/-- A delivery changes no files. -/
theorem session_deliver (spares : onFailure.SparesFiles) (collection : Collection ε σ) (block : Nat) :
    ∃ host, Store.SameFiles collection.session.rig.host host ∧
      (collection.deliver onFailure block).2.session = collection.session.withHost host := by
  have same := Store.SameFiles.refl collection.session.rig.host
  rcases deliver_cases onFailure collection block with ⟨-, done⟩ | ⟨_, -, -, done⟩ |
    ⟨failure, _, _, host, -, -, told, done⟩ | ⟨_, -, -, done⟩
  · exact ⟨_, same, by rw [done]; rfl⟩
  · exact ⟨_, same, by rw [done]; rfl⟩
  · have spared := spares block failure collection.noted collection.session.rig.host
    rw [told] at spared
    exact ⟨host, spared, by rw [done]; rfl⟩
  · exact ⟨_, same, by rw [done]; rfl⟩

/-- A collection has failed or holds what is foreseen when a block is delivered. -/
theorem FailedOrForeseen.deliver (h : collection.FailedOrForeseen digest answer requests start)
    (quiet : onFailure.Quiet) (block : Nat) :
    (collection.deliver onFailure block).2.FailedOrForeseen digest answer requests start := by
  rcases h with ⟨other, error, failed⟩ | ⟨agrees, foreseen⟩
  · exact .inl ⟨other, error, by rw [executed_deliver, failed]⟩
  · obtain ⟨host, files, session_eq⟩ := session_deliver quiet.sparesFiles collection block
    refine .inr ⟨?_, by rw [executed_deliver]; exact foreseen⟩
    rw [session_eq]
    exact agrees.sameFiles rfl rfl files

/-- Whether all errors so far are errors of the file system. -/
def RefusedOnly (collection : Collection ε σ) : Prop :=
  ∀ block error, collection.executed.lookup block = some (.error error) →
    ∃ refused, error = .refusedFile refused

/-- A collection fails with refused files alone when a block is executed. -/
theorem RefusedOnly.execute (h : collection.RefusedOnly) (ends : EndsRefused settings engine)
    (block : Nat) : (collection.execute settings engine requests block).RefusedOnly := by
  rcases execute_cases settings engine requests collection block with ⟨-, done⟩ |
    ⟨request, asked, absent, done⟩
  · rwa [done]
  · intro other error failed
    rw [done, lookup_addOutcome absent] at failed
    split at failed
    · exact ends collection.session request error (Option.some.inj failed)
    · exact h other error failed

/-- Whether the session has no directory, and no execution has ended in an error. -/
structure Unrefused (collection : Collection ε σ) : Prop where
  directory : collection.session.cache.directory = none
  executed : ∀ block error, collection.executed.lookup block ≠ some (.error error)

/-- Nothing is refused when a block is executed and nothing is kept on disk. -/
theorem Unrefused.execute (h : collection.Unrefused) (succeeds : SucceedsUnkept settings engine)
    (block : Nat) : (collection.execute settings engine requests block).Unrefused := by
  rcases execute_cases settings engine requests collection block with ⟨-, done⟩ |
    ⟨request, asked, absent, done⟩
  · rwa [done]
  · obtain ⟨⟨result, given⟩, directory⟩ := succeeds collection.session request h.directory
    rw [done]
    refine ⟨directory, fun other error failed => ?_⟩
    rw [lookup_addOutcome absent, given] at failed
    split at failed
    · exact absurd (Option.some.inj failed) (by simp)
    · exact h.executed other error failed

/-- Nothing is refused when a block is delivered. -/
theorem Unrefused.deliver (h : collection.Unrefused) (onFailure : OnFailure σ) (block : Nat) :
    (collection.deliver onFailure block).2.Unrefused := by
  refine ⟨?_, by rw [executed_deliver]; exact h.executed⟩
  rcases deliver_cases onFailure collection block with ⟨-, done⟩ | ⟨_, -, -, done⟩ |
    ⟨_, _, _, _, -, -, -, done⟩ | ⟨_, -, -, done⟩ <;>
    rw [done] <;> exact h.directory

/-- A delivery that ends in an error tells that of an execution. -/
theorem executed_of_deliver_error {error : PassError} {block : Nat} (quiet : onFailure.Quiet)
    (ended : (collection.deliver onFailure block).1 = .error error) :
    collection.executed.lookup block = some (.error error) := by
  rcases deliver_cases onFailure collection block with ⟨-, done⟩ | ⟨_, -, -, done⟩ |
    ⟨failure, _, _, _, -, -, noted, done⟩ | ⟨told, executed, -, done⟩
  · exact absurd (done ▸ ended) (by simp)
  · exact absurd (done ▸ ended) (by simp)
  · obtain ⟨_, level, message, quietly⟩ :=
      quiet block failure collection.noted collection.session.rig.host
    obtain ⟨rfl, -⟩ := Prod.mk.inj (noted.symm.trans quietly)
    exact absurd (done ▸ ended) (by simp)
  · rw [done] at ended
    rw [executed, Except.error.inj ended]

end Collection

/-- A rendering ends in no error but one of the file system. -/
theorem refused_of_renderRequests {schedule : Schedule} {error : PassError}
    (ends : EndsRefused settings engine) (quiet : onFailure.Quiet)
    (failed : (renderRequests settings engine requests onFailure schedule noted session).1 =
      .error error) : ∃ refused, error = .refusedFile refused := by
  have nothing (session : Session ε) : (Collection.start noted session).RefusedOnly :=
    fun _ _ found => absurd found (by simp [Collection.start])
  obtain ⟨-, -, -, -, errors⟩ := renderRequests_keeps onFailure schedule
    (fun (collection : Collection ε σ) block (inv : collection.RefusedOnly) => inv.execute ends block)
    (fun collection block inv other error found => by
      rw [Collection.executed_deliver] at found
      exact inv other error found)
    (nothing session) (nothing _)
  -- the delivery that ended it told the error of an execution
  obtain ⟨before, block, inv, ended⟩ := errors error failed
  exact inv block error (Collection.executed_of_deliver_error quiet ended)

/-- Without a directory a rendering ends in no error. -/
theorem ok_of_renderRequests {schedule : Schedule} (succeeds : SucceedsUnkept settings engine)
    (quiet : onFailure.Quiet) (used : session.cache.directory = none) (error : PassError) :
    (renderRequests settings engine requests onFailure schedule noted session).1 ≠ .error error := by
  intro failed
  have nothing {session : Session ε} (used : session.cache.directory = none) :
      (Collection.start noted session).Unrefused :=
    ⟨used, fun _ _ found => absurd found (by simp [Collection.start])⟩
  obtain ⟨-, -, -, -, errors⟩ := renderRequests_keeps onFailure schedule
    (fun (collection : Collection ε σ) block (inv : collection.Unrefused) => inv.execute succeeds block)
    (fun collection block inv => inv.deliver onFailure block)
    (nothing used) (nothing used)
  obtain ⟨before, block, inv, ended⟩ := errors error failed
  exact inv.executed block error (Collection.executed_of_deliver_error quiet ended)

/-- If a schedule that delivers every block comes to an end without an error, a result was foreseen for
every request. -/
theorem foreseen_of_renderRequests {schedule : Schedule} {results : List (Nat × RenderResult)} {told : σ}
    (gives : GivesForeseen settings engine digest answer)
    (single : SingleAnswers digest answer (requests.map Prod.snd)) (quiet : onFailure.Quiet)
    (complete : ∀ block ∈ requests.map Prod.fst,
      [Event.execute block, .deliver block].Sublist schedule)
    (agrees : start.Agrees digest answer (requests.map Prod.snd) session)
    (done : (renderRequests settings engine requests onFailure schedule noted session).1 =
      .ok (results, told))
    {block : Nat} {request : Request} (asked : requests.lookup block = some request) :
    start.foreseen? (digest request) (answer request) ≠ none := by
  have delivered (other : Nat) (request' : Request) (asked' : requests.lookup other = some request') :
      results.lookup other ≠ none :=
    renderRequests_delivers settings engine requests onFailure schedule noted told session results other done
      (by rw [asked']; simp) (complete other (List.mem_map_of_mem (mem_of_lookup asked')))
  have nothing {session : Session ε}
      (agrees : start.Agrees digest answer (requests.map Prod.snd) session) :
      (Collection.start noted session).Orderly requests ∧
        (Collection.start noted session).FailedOrForeseen digest answer requests start :=
    ⟨Collection.orderly_start noted session,
      .inr ⟨agrees, fun _ _ found => absurd found (by simp [Collection.start])⟩⟩
  obtain ⟨collection, ⟨orderly, failed⟩, -, same, -⟩ := renderRequests_keeps onFailure schedule
    (fun (collection : Collection ε σ) block (inv : collection.Orderly requests ∧
        collection.FailedOrForeseen digest answer requests start) =>
      ⟨inv.1.execute settings engine block, inv.2.execute gives single block⟩)
    (fun _ block inv => ⟨inv.1.deliver onFailure block, inv.2.deliver quiet block⟩)
    (nothing agrees) (nothing (agrees.sameFiles rfl rfl (.note _ _ _)))
  obtain ⟨rfl, -⟩ := same results told done
  -- every block is delivered, so no outcome is an error
  rcases failed with ⟨other, error, failed⟩ | ⟨-, foreseen⟩
  · obtain ⟨request', asked'⟩ := orderly.asked other _ failed
    obtain ⟨result, found⟩ := Option.ne_none_iff_exists'.mp (delivered other request' asked')
    exact absurd (failed.symm.trans (orderly.executed other result found)) (by simp)
  · obtain ⟨result, found⟩ := Option.ne_none_iff_exists'.mp (delivered block request asked)
    obtain ⟨request', asked', seen⟩ := foreseen block _ (orderly.executed block result found)
    obtain rfl := Option.some.inj (asked.symm.trans asked')
    exact seen

/-- If a result is foreseen for every request, each request has this result in every order. -/
theorem rendersAs_foreseen (gives : GivesForeseen settings engine digest answer)
    (single : SingleAnswers digest answer (requests.map Prod.snd))
    (all : ∀ request ∈ requests.map Prod.snd,
      start.foreseen? (digest request) (answer request) ≠ none) :
    RendersAs settings engine requests
      (fun request => (start.foreseen? (digest request) (answer request)).getD default)
      (Session.Agrees digest answer (requests.map Prod.snd) start) where
  render session agrees block request asked := by
    have listed := List.mem_map_of_mem (f := Prod.snd) (mem_of_lookup asked)
    obtain ⟨result, seen⟩ := Option.ne_none_iff_exists'.mp (all request listed)
    have found := (agrees.same request listed).trans seen
    have rendered := gives.render session request
    rw [found] at rendered
    generalize renderRequest settings engine request session = rendering at rendered ⊢
    cases rendered with
    | given given =>
      rw [seen]
      exact ⟨rfl, agrees.given gives.isKey single listed found given⟩
  note session agrees level message := agrees.sameFiles rfl rfl (.note session.rig.host level message)

end Requests

end TypstFences
