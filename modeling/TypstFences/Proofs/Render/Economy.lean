import TypstFences.Proofs.Render.Independence
import TypstFences.Proofs.Render.Origin

/-!
# What a rendering submits

A source is submitted when its key lacks a result: nothing is remembered for the key and nothing is in the
directory (`Session.Lacks`). Giving a result for one key changes nothing of what another key lacks, so it
can be told at the start of a rendering which keys are going to be computed. The rendering keeps a ledger
(`Session.Ledger`): the requests submitted so far have different keys, and these are the keys that lacked a
result at the start and have one by now. No assumption is made about what the engine answers, only that it
answers every time, is of one version, and changes nothing in the directory of the cache.
-/

set_option autoImplicit false

namespace TypstFences

variable {ε : Type}

/-! ## Engines that finish -/

namespace Store

/-- Whether a changed host holds the same in a directory under some keys, and the directory is as tidy as
before. -/
structure FindsSame (directory : Path) (keys : Text → Prop) (host changed : Host) : Prop where
  load : ∀ key, keys key → (load directory key changed).1 = (load directory key host).1
  tidy : Tidy directory keys host → Tidy directory keys changed

variable {directory : Path} {keys : Text → Prop} {host between changed : Host}

/-- What is found stays the same where the files do. -/
theorem SameFiles.findsSame (h : SameFiles host changed) : FindsSame directory keys host changed :=
  ⟨fun key _ => h.load directory key, fun tidy => tidy.sameFiles h⟩

/-- What is found stays the same through two changes. -/
theorem FindsSame.trans (h : FindsSame directory keys host between)
    (h' : FindsSame directory keys between changed) : FindsSame directory keys host changed :=
  ⟨fun key wanted => (h'.load key wanted).trans (h.load key wanted), fun tidy => h'.tidy (h.tidy tidy)⟩

end Store

/-- Whether an engine leaves alone what is found in a directory under some keys. -/
structure Engine.LeavesFound (engine : Engine ε) (directory : Path) (keys : Text → Prop) : Prop where
  version : ∀ rig, Store.FindsSame directory keys rig.host (engine.version rig).2.host
  compile : ∀ source rig, Store.FindsSame directory keys rig.host (engine.compile source rig).2.host

/-- Whether an engine is of one version, answers every source, in time and without a crash, and submits
nothing itself. -/
structure Engine.Finishes (engine : Engine ε) (version : Text) : Prop where
  version_eq : ∀ rig, (engine.version rig).1 = .ok version
  finishes : ∀ source rig, ∃ result, (engine.compile source rig).1 = .finished result
  asked : ∀ rig, (engine.version rig).2.submitted = rig.submitted
  compiled : ∀ source rig, (engine.compile source rig).2.submitted = rig.submitted

/-- An engine that changes no files leaves what is found under any keys. -/
theorem Engine.SparesFiles.leavesFound {engine : Engine ε} (h : engine.SparesFiles) (directory : Path)
    (keys : Text → Prop) : engine.LeavesFound directory keys :=
  ⟨fun rig => (h.version rig).findsSame, fun source rig => (h.compile source rig).findsSame⟩

namespace Session

variable {session after : Session ε} {key : Text} {result : RenderResult} {keys : Text → Prop}

/-! ## Gaining a result -/

/-- Whether a session has no result for a key, remembered or in the directory. -/
def Lacks (session : Session ε) (key : Text) : Prop :=
  session.cache.entry? key = none ∧ (session.cache.load key session.rig.host).1 = .ok none

/-- Whether a change of the host of a session leaves alone what is in its directory under some keys. -/
def FindsSame (keys : Text → Prop) (session : Session ε) (changed : Host) : Prop :=
  ∀ path, session.cache.directory = some path → Store.FindsSame path keys session.rig.host changed

/-- What is loaded for a key stays the same where what is found does. -/
theorem FindsSame.load (after : Session ε) (h : session.FindsSame keys after.rig.host)
    (directory : after.cache.directory = session.cache.directory) {other : Text} (wanted : keys other) :
    (after.cache.load other after.rig.host).1 = (session.cache.load other session.rig.host).1 := by
  cases used : session.cache.directory with
  | none =>
    rw [Cache.load_of_none _ _ used, Cache.load_of_none _ _ (directory.trans used)]
  | some path =>
    rw [Cache.load_of_some _ _ used, Cache.load_of_some _ _ (directory.trans used)]
    exact (h path used).load other wanted

/-- A session stays tidy where what is found stays the same. -/
theorem FindsSame.tidy (after : Session ε) (h : session.FindsSame keys after.rig.host)
    (directory : after.cache.directory = session.cache.directory) (tidy : session.Tidy keys) :
    after.Tidy keys := by
  intro path used
  exact (h path (directory ▸ used)).tidy (tidy path (directory ▸ used))

/-- Whether a session has come of another by gaining at most a result for a key: no other is remembered
now, and nothing that is found under another key has changed. -/
structure Gains (keys : Text → Prop) (key : Text) (session after : Session ε) : Prop where
  directory : after.cache.directory = session.cache.directory
  entry : ∀ other, after.cache.entry? other ≠ none ↔ other = key ∨ session.cache.entry? other ≠ none
  load : ∀ other, keys other → other ≠ key →
    (after.cache.load other after.rig.host).1 = (session.cache.load other session.rig.host).1
  tidy : after.Tidy keys

/-- What is remembered depends on the entries of the cache. -/
theorem entry?_of_entries (entries : after.cache.entries = session.cache.entries) (other : Text) :
    after.cache.entry? other = session.cache.entry? other := by
  unfold Cache.entry?
  rw [entries]

/-- A result that is remembered is one more that is. -/
theorem entry?_ne_none_remember (absent : session.cache.entry? key = none)
    (entries : after.cache.entries = session.cache.entries) (result : RenderResult) (other : Text) :
    (after.remember key result).cache.entry? other ≠ none ↔
      other = key ∨ session.cache.entry? other ≠ none := by
  rw [entry?_remember after result ((entry?_of_entries entries key).trans absent) other,
    entry?_of_entries entries]
  by_cases same : other = key <;> simp [same]

/-- A session gains the key of a result that is remembered. -/
theorem gains_remember (after : Session ε) (tidy : session.Tidy keys)
    (absent : session.cache.entry? key = none)
    (directory : after.cache.directory = session.cache.directory)
    (entries : after.cache.entries = session.cache.entries)
    (finds : session.FindsSame keys after.rig.host) (result : RenderResult) :
    Gains keys key session (after.remember key result) where
  directory := directory
  entry := entry?_ne_none_remember absent entries result
  load _ wanted _ := finds.load after directory wanted
  tidy := finds.tidy after directory tidy

/-- Saving an artifact under a key for which nothing is there changes nothing under another key. -/
theorem gains_save (after : Session ε) {path : Path} {artifact : Artifact} {saved : Host}
    (isKey : ∀ other, keys other → Store.IsKey other) (wanted : keys key) (tidy : session.Tidy keys)
    (absent : session.cache.entry? key = none) (used : session.cache.directory = some path)
    (directory : after.cache.directory = session.cache.directory)
    (entries : after.cache.entries = session.cache.entries)
    (finds : session.FindsSame keys after.rig.host)
    (nothing : (session.cache.load key session.rig.host).1 = .ok none)
    (done : Store.save path key artifact after.rig.host = (.ok (), saved)) (result : RenderResult) :
    Gains keys key session ((after.withHost saved).remember key result) := by
  have nothing' : (Store.load path key after.rig.host).1 = .ok none := by
    have same := finds.load after directory wanted
    rw [nothing, Cache.load_of_some _ _ (directory.trans used)] at same
    exact same
  have tidy_after : Store.Tidy path keys after.rig.host := finds.tidy after directory tidy
    path (directory.trans used)
  obtain ⟨tidy_saved, others⟩ := Store.save_others (isKey key wanted) wanted tidy_after nothing' done
  refine ⟨directory, entry?_ne_none_remember absent entries result, ?_, ?_⟩
  · intro other other_wanted differ
    have spared := (others other (isKey other other_wanted) other_wanted differ).1
    rw [← finds.load after directory other_wanted, Cache.load_of_some _ _ (directory.trans used)]
    exact (congrArg Prod.fst (Cache.load_of_some other saved (directory.trans used))).trans spared
  · intro path' used'
    obtain rfl : path = path' := Option.some.inj ((directory.trans used).symm.trans used')
    exact tidy_saved

/-- What comes of asking a session for the result of a key, where a computation submits a source: an
error ends the asking, or a result is given and the session has gained it, and the source was submitted if
and only if the session lacked a result. -/
def Economical (keys : Text → Prop) (key source : Text) (session : Session ε)
    (done : Except PassError RenderResult × Session ε) : Prop :=
  (∃ error, done.1 = .error error) ∨
  (∃ result, done.1 = .ok result) ∧ Gains keys key session done.2 ∧
    (¬ session.Lacks key ∧ done.2.rig.submitted = session.rig.submitted ∨
      session.Lacks key ∧ done.2.rig.submitted = session.rig.submitted ++ [source])

/-- What was asked of a session with another rig was asked of the session, if the rig has submitted the same
and nothing that is found has changed. -/
theorem Economical.of_withRig {rig : Rig ε} {source : Text}
    {done : Except PassError RenderResult × Session ε}
    (h : Economical keys key source { session with rig := rig } done) (wanted : keys key)
    (submitted : rig.submitted = session.rig.submitted) (finds : session.FindsSame keys rig.host) :
    session.Economical keys key source done := by
  have same {other : Text} (other_wanted : keys other) :
      (session.cache.load other rig.host).1 = (session.cache.load other session.rig.host).1 :=
    FindsSame.load { session with rig := rig } finds rfl other_wanted
  rcases h with ended | ⟨given, gains, ledger⟩
  · exact .inl ended
  · refine .inr ⟨given, ⟨gains.directory, gains.entry, ?_, gains.tidy⟩, ?_⟩
    · intro other other_wanted differ
      exact (gains.load other other_wanted differ).trans (same other_wanted)
    · unfold Lacks at ledger ⊢
      simp only [same wanted, submitted] at ledger
      exact ledger

/-- A result that was computed and is kept is economical: the source was submitted, and the key is gained. -/
theorem keep_economical {source : Text} {rig : Rig ε}
    (isKey : ∀ other, keys other → Store.IsKey other) (wanted : keys key) (tidy : session.Tidy keys)
    (lacks : session.Lacks key) (finds : session.FindsSame keys rig.host)
    (submitted : rig.submitted = session.rig.submitted ++ [source]) (result : RenderResult) :
    session.Economical keys key source (keep key result ⟨session.cache.countMiss, rig⟩) := by
  -- without a file to be saved the result is remembered
  have remembered : session.Economical keys key source
      (.ok result, (Session.mk session.cache.countMiss rig).remember key result) :=
    .inr ⟨⟨result, rfl⟩, gains_remember ⟨session.cache.countMiss, rig⟩ tidy lacks.1 rfl rfl finds
      result, .inr ⟨lacks, submitted⟩⟩
  cases result with
  | failure failure => exact remembered
  | artifact artifact =>
    have saving : session.cache.countMiss.save key artifact rig.host =
        session.cache.save key artifact rig.host := rfl
    unfold keep
    simp only [saving]
    cases used : session.cache.directory with
    | none =>
      simp only [Cache.save_of_none _ _ _ used]
      exact remembered
    | some path =>
      simp only [Cache.save_of_some _ _ _ used]
      cases done : Store.save path key artifact rig.host with
      | mk kept saved =>
        cases kept with
        | error fault => exact .inl ⟨_, rfl⟩
        | ok =>
          exact .inr ⟨⟨_, rfl⟩, gains_save ⟨session.cache.countMiss, rig⟩ isKey wanted tidy lacks.1
            used rfl rfl finds lacks.2 done _, .inr ⟨lacks, submitted⟩⟩

/-- A result is economical: it is taken from the cache, or it is computed and kept. -/
theorem result_economical {computation : Rig ε → Except PassError RenderResult × Rig ε} {source : Text}
    (isKey : ∀ other, keys other → Store.IsKey other) (wanted : keys key) (tidy : session.Tidy keys)
    (computes : ∀ rig, ∃ result, (computation rig).1 = .ok result)
    (submits : ∀ rig, (computation rig).2.submitted = rig.submitted ++ [source])
    (finds : ∀ path, session.cache.directory = some path →
      ∀ rig, Store.FindsSame path keys rig.host (computation rig).2.host) :
    session.Economical keys key source (session.result key computation) := by
  have loading {outcome : Except PassError (Option Artifact)} {host : Host}
      (loaded : session.cache.load key session.rig.host = (outcome, host)) :
      session.FindsSame keys host := by
    intro path used
    rw [Cache.load_of_some _ _ used] at loaded
    obtain rfl : (Store.load path key session.rig.host).2 = host := congrArg Prod.snd loaded
    exact (Store.sameFiles_load path key session.rig.host).findsSame
  have retrieval := result_retrieval session key computation
  generalize session.result key computation = done at retrieval ⊢
  cases retrieval with
  | @remembered result entry =>
    have found : ¬ session.Lacks key := fun lacks => absurd (entry.symm.trans lacks.1) (by simp)
    refine .inr ⟨⟨result, rfl⟩, ⟨rfl, ?_, fun _ _ _ => rfl, tidy⟩, .inl ⟨found, rfl⟩⟩
    intro other
    refine ⟨.inr, ?_⟩
    rintro (rfl | known)
    · exact (congrArg (· ≠ none) entry).mpr (by simp)
    · exact known
  | failed absent loaded => exact .inl ⟨_, rfl⟩
  | @found artifact host absent loaded =>
    have found : ¬ session.Lacks key := by
      rintro ⟨-, nothing⟩
      rw [loaded] at nothing
      exact absurd nothing (by simp)
    exact .inr ⟨⟨_, rfl⟩, gains_remember ⟨session.cache.countHit, (session.withHost host).rig⟩ tidy
      absent rfl rfl (loading loaded) _, .inl ⟨found, rfl⟩⟩
  | @computed host absent loaded =>
    have lacks : session.Lacks key := ⟨absent, by rw [loaded]⟩
    let asked : Rig ε := (session.withHost host).rig
    obtain ⟨computed, outcome⟩ := computes asked
    have given : (session.withHost host).compute key computation =
        keep key computed ⟨session.cache.countMiss, (computation asked).2⟩ := by
      unfold compute
      generalize computation asked = done at outcome
      obtain ⟨told, rig⟩ := done
      obtain rfl : told = .ok computed := outcome
      rfl
    rw [given]
    exact keep_economical isKey wanted tidy lacks
      (fun path used => (loading loaded path used).trans (finds path used asked)) (submits asked)
      computed

/-- What comes of asking for a result in any case: an error is one of the file system, and there is none
where no directory is used, and the source was submitted at most. -/
structure Frugal (source : Text) (session : Session ε)
    (done : Except PassError RenderResult × Session ε) : Prop where
  refuses : ∀ error, done.1 = .error error → ∃ fault, error = .refusedFile fault
  unkept : session.cache.directory = none →
    (∃ result, done.1 = .ok result) ∧ done.2.cache.directory = none
  submitted : done.2.rig.submitted = session.rig.submitted ∨
    done.2.rig.submitted = session.rig.submitted ++ [source]

/-- A session that gives a result is frugal, if at most the source is submitted. -/
theorem Frugal.of_given {source : Text} {done : Except PassError RenderResult × Session ε}
    (given : ∃ result, done.1 = .ok result)
    (directory : done.2.cache.directory = session.cache.directory)
    (submitted : done.2.rig.submitted = session.rig.submitted ∨
      done.2.rig.submitted = session.rig.submitted ++ [source]) : session.Frugal source done where
  refuses error ended := by
    obtain ⟨result, given⟩ := given
    exact absurd (given.symm.trans ended) (by simp)
  unkept unused := ⟨given, directory.trans unused⟩
  submitted := submitted

/-- Keeping a result is frugal, be its files refused or not. -/
theorem keep_frugal {source : Text} (before session : Session ε)
    (directory : session.cache.directory = before.cache.directory)
    (submitted : session.rig.submitted = before.rig.submitted ++ [source]) (result : RenderResult) :
    before.Frugal source (keep key result session) := by
  cases result with
  | failure failure => exact .of_given ⟨_, rfl⟩ directory (.inr submitted)
  | artifact artifact =>
    rw [keep]
    cases saving : session.cache.save key artifact session.rig.host with
    | mk outcome host =>
      cases outcome with
      | ok => exact .of_given ⟨_, rfl⟩ directory (.inr submitted)
      | error fault =>
        refine ⟨fun _ ended => ⟨fault, (Except.error.inj ended).symm⟩, fun unused => ?_, .inr submitted⟩
        rw [Cache.save_of_none _ _ _ (directory.trans unused)] at saving
        exact absurd (congrArg Prod.fst saving) (by simp)

/-- A result is frugal, be it given or refused: at most the source is submitted. -/
theorem result_frugal {computation : Rig ε → Except PassError RenderResult × Rig ε} {source : Text}
    (isKey : Store.IsKey key) (computes : ∀ rig, ∃ result, (computation rig).1 = .ok result)
    (submits : ∀ rig, (computation rig).2.submitted = rig.submitted ++ [source]) :
    session.Frugal source (session.result key computation) := by
  have retrieval := result_retrieval session key computation
  generalize session.result key computation = done at retrieval ⊢
  cases retrieval with
  | remembered entry => exact .of_given ⟨_, rfl⟩ rfl (.inl rfl)
  | found absent loaded => exact .of_given ⟨_, rfl⟩ rfl (.inl rfl)
  | @failed error host absent loaded =>
    have failed := congrArg Prod.fst loaded
    unfold Cache.load at failed
    split at failed
    · exact absurd failed (by simp)
    · rename_i used
      obtain ⟨fault, rfl⟩ := Store.refused_of_load isKey failed
      refine ⟨fun other ended => ⟨fault, (Except.error.inj ended).symm⟩, fun unused => ?_, .inl rfl⟩
      exact absurd (used.symm.trans unused) (by simp)
  | @computed host absent loaded =>
    have submitted := submits (session.withHost host).rig
    obtain ⟨result, outcome⟩ := computes (session.withHost host).rig
    unfold compute
    generalize computation (session.withHost host).rig = done at submitted outcome
    obtain ⟨told, rig⟩ := done
    obtain rfl : told = .ok result := outcome
    exact keep_frugal session ⟨session.cache.countMiss, rig⟩ rfl submitted result

end Session

/-! ## The ledger of a rendering -/

section Requests

variable {settings : Settings} {engine : Engine ε} {version : Text} {digest : Request → Text}
variable {asked newly : List Request} {start session after : Session ε} {request : Request}
variable {σ : Type} {requests : List (Nat × Request)} {onFailure : OnFailure σ}

/-- What is assumed of rendering: a session is asked frugally for the result of a request, and
economically if it is tidy. -/
structure RendersEconomically (settings : Settings) (engine : Engine ε) (digest : Request → Text)
    (asked : List Request) (directory : Option Path) : Prop where
  frugal : ∀ (session : Session ε) request,
    session.Frugal (request.assembled settings.preamble) (renderRequest settings engine request session)
  render : ∀ session : Session ε, session.cache.directory = directory →
    session.Tidy (Asked digest asked) → ∀ request ∈ asked,
      session.Economical (Asked digest asked) (digest request) (request.assembled settings.preamble)
        (renderRequest settings engine request session)

/-- An engine that finishes and leaves alone what is found in the directory renders economically. -/
theorem rendersEconomically_of_finishes (settings : Settings) (finishes : engine.Finishes version)
    (asked : List Request) {directory : Option Path}
    (leaves : ∀ path, directory = some path →
      engine.LeavesFound path (Asked (digestUnder settings version engine.root) asked)) :
    RendersEconomically settings engine (digestUnder settings version engine.root) asked
      directory := by
  have once (request : Request) (rig : Rig ε) : ∃ result, submit settings engine request rig =
      (.ok result, (engine.compile (request.assembled settings.preamble)
        (rig.submit (request.assembled settings.preamble))).2) := by
    obtain ⟨result, reply⟩ := finishes.finishes (request.assembled settings.preamble)
      (rig.submit (request.assembled settings.preamble))
    exact ⟨_, submit_of_finished reply⟩
  have computes (request : Request) (rig : Rig ε) :
      ∃ result, (submit settings engine request rig).1 = .ok result := by
    obtain ⟨result, done⟩ := once request rig
    exact ⟨result, by rw [done]⟩
  have submits (request : Request) (rig : Rig ε) : (submit settings engine request rig).2.submitted =
      rig.submitted ++ [request.assembled settings.preamble] := by
    obtain ⟨result, done⟩ := once request rig
    rw [done, finishes.compiled]
    rfl
  constructor
  · intro session request
    have told := finishes.version_eq session.rig
    have unsubmitted := finishes.asked session.rig
    unfold renderRequest requestDigest
    generalize engine.version session.rig = done at told unsubmitted ⊢
    obtain ⟨version', rig⟩ := done
    obtain rfl : version' = .ok version := told
    obtain ⟨refuses, unkept, submitted⟩ : Session.Frugal (request.assembled settings.preamble)
        { session with rig := rig } _ :=
      Session.result_frugal (Store.isKey_hexDigest _) (computes request) (submits request)
    rw [show rig.submitted = session.rig.submitted from unsubmitted] at submitted
    exact ⟨refuses, unkept, submitted⟩
  · intro session used tidy request mem
    have isKey : ∀ other, Asked (digestUnder settings version engine.root) asked other →
        Store.IsKey other := by
      rintro _ ⟨other, -, rfl⟩
      exact Store.isKey_hexDigest _
    -- asking for the version changes nothing that matters
    have told := finishes.version_eq session.rig
    have unsubmitted := finishes.asked session.rig
    have finds : session.FindsSame (Asked (digestUnder settings version engine.root) asked)
        (engine.version session.rig).2.host :=
      fun path found => (leaves path (used ▸ found)).version session.rig
    unfold renderRequest requestDigest
    generalize engine.version session.rig = done at told unsubmitted finds ⊢
    obtain ⟨version', rig⟩ := done
    obtain rfl : version' = .ok version := told
    refine Session.Economical.of_withRig ?_ ⟨request, mem, rfl⟩ unsubmitted finds
    have tidy' := Session.FindsSame.tidy { session with rig := rig } finds rfl tidy
    refine Session.result_economical isKey ⟨request, mem, rfl⟩ tidy' (computes request)
      (submits request) ?_
    intro path found rig
    obtain ⟨result, done⟩ := once request rig
    have compiled := (leaves path (used ▸ found)).compile (request.assembled settings.preamble)
      (rig.submit (request.assembled settings.preamble))
    rw [done]
    exact compiled

/-- What a rendering has submitted since its start: requests with different keys, and their keys are those
that lacked a result at the start and have one now. Where none is remembered, the same is found as at the
start. -/
structure Session.Ledger (settings : Settings) (digest : Request → Text) (asked : List Request)
    (start : Session ε) (newly : List Request) (session : Session ε) : Prop where
  directory : session.cache.directory = start.cache.directory
  submitted : session.rig.submitted =
    start.rig.submitted ++ newly.map (Request.assembled settings.preamble)
  among : newly ⊆ asked
  distinct : (newly.map digest).Nodup
  once : ∀ key, key ∈ newly.map digest ↔
    start.Lacks key ∧ Asked digest asked key ∧ session.cache.entry? key ≠ none
  unread : ∀ key, Asked digest asked key → session.cache.entry? key = none →
    start.cache.entry? key = none ∧
      (session.cache.load key session.rig.host).1 = (start.cache.load key start.rig.host).1
  tidy : session.Tidy (Asked digest asked)

namespace Session.Ledger

/-- At the start nothing is new. -/
theorem nothing (tidy : session.Tidy (Asked digest asked)) :
    session.Ledger settings digest asked [] session where
  directory := rfl
  submitted := (List.append_nil _).symm
  among := List.nil_subset _
  distinct := List.nodup_nil
  once key := by
    constructor
    · exact fun mem => absurd mem List.not_mem_nil
    · rintro ⟨lacks, -, known⟩
      exact absurd lacks.1 known
  unread _ _ absent := ⟨absent, rfl⟩
  tidy := tidy

/-- The ledger stays true where the cache, the submissions and the files stay the same. -/
theorem sameFiles (h : start.Ledger settings digest asked newly session)
    (cache : after.cache = session.cache) (submitted : after.rig.submitted = session.rig.submitted)
    (files : Store.SameFiles session.rig.host after.rig.host) :
    start.Ledger settings digest asked newly after where
  directory := by rw [cache, h.directory]
  submitted := submitted.trans h.submitted
  among := h.among
  distinct := h.distinct
  once := by
    rw [cache]
    exact h.once
  unread key wanted absent := by
    rw [cache] at absent
    obtain ⟨absent', found⟩ := h.unread key wanted absent
    have finds : session.FindsSame (Asked digest asked) after.rig.host :=
      fun _ _ => files.findsSame
    exact ⟨absent', (finds.load after (by rw [cache]) wanted).trans found⟩
  tidy := h.tidy.sameFiles (by rw [cache]) files

/-- The ledger stays true when a key is gained, with one more new request if it was lacking. -/
theorem gains (h : start.Ledger settings digest asked newly session) (mem : request ∈ asked)
    (gains : session.Gains (Asked digest asked) (digest request) after)
    (ledger : ¬ session.Lacks (digest request) ∧ after.rig.submitted = session.rig.submitted ∨
      session.Lacks (digest request) ∧
        after.rig.submitted = session.rig.submitted ++ [request.assembled settings.preamble]) :
    ∃ newly', start.Ledger settings digest asked newly' after := by
  -- what is submitted now is the request or nothing, by whether the key lacks a result
  obtain ⟨further, once, mem_further, submitted⟩ : ∃ further : List Request,
      (further.map digest).Nodup ∧
      (∀ other, other ∈ further ↔ other = request ∧ session.Lacks (digest request)) ∧
      after.rig.submitted =
        session.rig.submitted ++ further.map (Request.assembled settings.preamble) := by
    rcases ledger with ⟨found, submitted⟩ | ⟨lacks, submitted⟩
    · exact ⟨[], List.nodup_nil, by simp [found], by simpa using submitted⟩
    · exact ⟨[request], List.nodup_singleton _, by simp [lacks], submitted⟩
  have keys_further (key : Text) :
      key ∈ further.map digest ↔ key = digest request ∧ session.Lacks key := by
    simp only [List.mem_map, mem_further]
    constructor
    · rintro ⟨_, ⟨rfl, lacks⟩, rfl⟩
      exact ⟨rfl, lacks⟩
    · rintro ⟨rfl, lacks⟩
      exact ⟨request, ⟨rfl, lacks⟩, rfl⟩
  -- where nothing is remembered yet, a key lacks what it lacked at the start
  have lacks_iff {key : Text} (wanted : Asked digest asked key)
      (absent : session.cache.entry? key = none) : session.Lacks key ↔ start.Lacks key := by
    obtain ⟨absent', found⟩ := h.unread key wanted absent
    unfold Lacks
    rw [found]
    exact and_congr_left' (iff_of_true absent absent')
  refine ⟨newly ++ further, gains.directory.trans h.directory, ?_, ?_, ?_, ?_, ?_, gains.tidy⟩
  · rw [submitted, h.submitted, List.map_append, List.append_assoc]
  · refine List.append_subset.mpr ⟨h.among, ?_⟩
    intro other other_mem
    obtain ⟨rfl, -⟩ := (mem_further other).mp other_mem
    exact mem
  · rw [List.map_append, List.nodup_append]
    refine ⟨h.distinct, once, ?_⟩
    rintro key before _ later rfl
    obtain ⟨-, -, known⟩ := (h.once key).mp before
    exact known ((keys_further key).mp later).2.1
  · intro key
    rw [List.map_append, List.mem_append, h.once, keys_further, gains.entry]
    constructor
    · rintro (⟨lacks, wanted, known⟩ | ⟨rfl, lacks⟩)
      · exact ⟨lacks, wanted, .inr known⟩
      · have wanted : Asked digest asked (digest request) := ⟨request, mem, rfl⟩
        exact ⟨(lacks_iff wanted lacks.1).mp lacks, wanted, .inl rfl⟩
    · rintro ⟨lacks, wanted, gained⟩
      by_cases known : session.cache.entry? key = none
      · have here : key = digest request := gained.resolve_right (not_not_intro known)
        exact .inr ⟨here, (lacks_iff wanted known).mpr lacks⟩
      · exact .inl ⟨lacks, wanted, known⟩
  · intro key wanted absent
    have absent' : ¬ (key = digest request ∨ session.cache.entry? key ≠ none) :=
      fun gained => (gains.entry key).mpr gained absent
    obtain ⟨differ, nothing⟩ := not_or.mp absent'
    obtain ⟨unread, found⟩ := h.unread key wanted (not_not.mp nothing)
    exact ⟨unread, (gains.load key wanted differ).trans found⟩

end Session.Ledger

/-- What a rendering has submitted when all requests have results: requests with different keys, and their
keys are those that lacked a result at the start. -/
structure Session.Settled (settings : Settings) (digest : Request → Text) (asked : List Request)
    (start : Session ε) (newly : List Request) (session : Session ε) : Prop where
  submitted : session.rig.submitted =
    start.rig.submitted ++ newly.map (Request.assembled settings.preamble)
  among : newly ⊆ asked
  distinct : (newly.map digest).Nodup
  once : ∀ key, key ∈ newly.map digest ↔ start.Lacks key ∧ Asked digest asked key
  remembered : ∀ key, Asked digest asked key → session.cache.entry? key ≠ none

/-- Requests are settled when all of their digests are remembered. -/
theorem Session.Ledger.settled (h : start.Ledger settings digest asked newly session)
    (remembered : ∀ key, Asked digest asked key → session.cache.entry? key ≠ none) :
    start.Settled settings digest asked newly session where
  submitted := h.submitted
  among := h.among
  distinct := h.distinct
  once key := by
    rw [h.once]
    constructor
    · rintro ⟨lacks, wanted, -⟩
      exact ⟨lacks, wanted⟩
    · rintro ⟨lacks, wanted⟩
      exact ⟨lacks, wanted, remembered key wanted⟩
  remembered := remembered

/-! ## Schedules -/

namespace Collection

variable {collection : Collection ε σ}

/-- The accounts of a collection that is rendered from a start: only sources of requests were submitted,
and as long as no execution has ended in an error there is a ledger, and what was executed is remembered. -/
structure Accounts (settings : Settings) (digest : Request → Text) (requests : List (Nat × Request))
    (start : Session ε) (collection : Collection ε σ) : Prop where
  submitted : ∃ made ⊆ requests.map Prod.snd, collection.session.rig.submitted =
    start.rig.submitted ++ made.map (Request.assembled settings.preamble)
  ledger : (∀ block error, collection.executed.lookup block ≠ some (.error error)) →
    ∃ newly, start.Ledger settings digest (requests.map Prod.snd) newly collection.session ∧
      ∀ block request, requests.lookup block = some request →
        collection.executed.lookup block ≠ none →
          collection.session.cache.entry? (digest request) ≠ none

/-- The accounts stay true when the outcome of a block is added. -/
theorem Accounts.addOutcome (h : collection.Accounts settings digest requests start)
    (renders : RendersEconomically settings engine digest (requests.map Prod.snd)
      start.cache.directory) {block : Nat} (asked : requests.lookup block = some request)
    (absent : collection.executed.lookup block = none) :
    (collection.addOutcome settings engine block request).Accounts settings digest requests start := by
  have mem : request ∈ requests.map Prod.snd := List.mem_map.mpr ⟨_, mem_of_lookup asked, rfl⟩
  constructor
  · obtain ⟨made, among, submitted⟩ := h.submitted
    rcases (renders.frugal collection.session request).submitted with same | more
    · exact ⟨made, among, same.trans submitted⟩
    · refine ⟨made ++ [request], ?_, ?_⟩
      · exact List.append_subset.mpr ⟨among, List.cons_subset.mpr ⟨mem, List.nil_subset _⟩⟩
      · rw [List.map_append, ← List.append_assoc, ← submitted]
        exact more
  · intro unfailed
    have lookup (other : Nat) :
        (collection.addOutcome settings engine block request).executed.lookup other =
          if other = block then some (renderRequest settings engine request collection.session).1
          else collection.executed.lookup other := lookup_addOutcome absent other
    have unfailed' : ∀ other error, collection.executed.lookup other ≠ some (.error error) := by
      intro other error failed
      have differ : other ≠ block := by
        rintro rfl
        exact absurd (absent.symm.trans failed) (by simp)
      apply unfailed other error
      rw [lookup, if_neg differ, failed]
    obtain ⟨newly, ledger, remembered⟩ := h.ledger unfailed'
    rcases renders.render collection.session ledger.directory ledger.tidy request mem with
      ⟨error, ended⟩ | ⟨-, gains, either⟩
    · exact absurd (by rw [lookup, if_pos rfl, ended]) (unfailed block error)
    · obtain ⟨newly', ledger'⟩ := ledger.gains mem gains either
      refine ⟨newly', ledger', ?_⟩
      intro other request' asked' executed
      apply (gains.entry _).mpr
      by_cases same : other = block
      · subst same
        obtain rfl := Option.some.inj (asked.symm.trans asked')
        exact .inl rfl
      · rw [lookup, if_neg same] at executed
        exact .inr (remembered other request' asked' executed)

/-- The accounts stay true when a block is executed. -/
theorem Accounts.execute (h : collection.Accounts settings digest requests start)
    (renders : RendersEconomically settings engine digest (requests.map Prod.snd)
      start.cache.directory) (block : Nat) :
    (collection.execute settings engine requests block).Accounts settings digest requests start := by
  rcases execute_cases settings engine requests collection block with ⟨-, done⟩ |
    ⟨request, asked, absent, done⟩
  · rwa [done]
  · rw [done]
    exact h.addOutcome renders asked absent

/-- The accounts stay true when a block is delivered. -/
theorem Accounts.deliver (h : collection.Accounts settings digest requests start)
    (quiet : onFailure.Quiet) (block : Nat) :
    (collection.deliver onFailure block).2.Accounts settings digest requests start := by
  obtain ⟨host, files, session_eq⟩ := session_deliver quiet.sparesFiles collection block
  refine ⟨by rw [session_eq]; exact h.submitted, ?_⟩
  rw [executed_deliver, session_eq]
  intro unfailed
  obtain ⟨newly, ledger, remembered⟩ := h.ledger unfailed
  exact ⟨newly, ledger.sameFiles rfl rfl files, remembered⟩

end Collection

/-- A rendering submits sources of its requests only, and ends in no error but one of the file system. If
it ends in none and every block is scheduled, its requests are settled. -/
theorem renderRequests_accounts {schedule : Schedule}
    (renders : RendersEconomically settings engine digest (requests.map Prod.snd)
      start.cache.directory) (quiet : onFailure.Quiet)
    (complete : ∀ block ∈ requests.map Prod.fst,
      [Event.execute block, .deliver block].Sublist schedule)
    (listed : ∀ request ∈ requests.map Prod.snd, ∃ block, requests.lookup block = some request)
    (begun : start.Ledger settings digest (requests.map Prod.snd) [] session) (noted : σ) :
    (∃ made ⊆ requests.map Prod.snd,
      (renderRequests settings engine requests onFailure schedule noted session).2.rig.submitted =
        start.rig.submitted ++ made.map (Request.assembled settings.preamble)) ∧
    (∀ error, (renderRequests settings engine requests onFailure schedule noted session).1 = .error error →
      ∃ fault, error = .refusedFile fault) ∧
    ∀ results told,
      (renderRequests settings engine requests onFailure schedule noted session).1 = .ok (results, told) →
      ∃ newly, start.Settled settings digest (requests.map Prod.snd) newly
        (renderRequests settings engine requests onFailure schedule noted session).2 := by
  have first {session : Session ε}
      (begun : start.Ledger settings digest (requests.map Prod.snd) [] session) :
      (Collection.start noted session).Accounts settings digest requests start := by
    refine ⟨⟨[], List.nil_subset _, begun.submitted⟩, fun _ => ⟨[], begun, ?_⟩⟩
    exact fun _ _ _ executed => absurd rfl executed
  obtain ⟨collection, ⟨orderly, accounts⟩, session_eq, results_eq, -⟩ := renderRequests_keeps onFailure
    schedule
    (fun (collection : Collection ε σ) block (inv : collection.Orderly requests ∧
        collection.Accounts settings digest requests start) =>
      ⟨inv.1.execute settings engine block, inv.2.execute renders block⟩)
    (fun _ block inv => ⟨inv.1.deliver onFailure block, inv.2.deliver quiet block⟩)
    ⟨Collection.orderly_start noted session, first begun⟩
    ⟨Collection.orderly_start noted _, first (begun.sameFiles rfl rfl (.note session.rig.host _ _))⟩
  refine ⟨?_, ?_, ?_⟩
  · rw [session_eq]
    exact accounts.submitted
  · intro error failed
    exact refused_of_renderRequests (fun session request => (renders.frugal session request).refuses)
      quiet failed
  · intro results told done
    have executed {block : Nat} {request : Request} (asked : requests.lookup block = some request) :
        ∃ result, collection.executed.lookup block = some (.ok result) := by
      have delivered := renderRequests_delivers settings engine requests onFailure schedule noted told session
        results block done (by simp [asked])
        (complete block (List.mem_map.mpr ⟨_, mem_of_lookup asked, rfl⟩))
      rw [(results_eq results told done).1] at delivered
      obtain ⟨result, there⟩ := Option.ne_none_iff_exists'.mp delivered
      exact ⟨result, orderly.executed block result there⟩
    obtain ⟨newly, ledger, remembered⟩ := accounts.ledger (by
      intro block error failed
      obtain ⟨request, asked⟩ := orderly.asked block _ failed
      obtain ⟨result, done⟩ := executed asked
      exact absurd (failed.symm.trans done) (by simp))
    rw [session_eq]
    refine ⟨newly, ledger.settled ?_⟩
    rintro _ ⟨request, mem, rfl⟩
    obtain ⟨block, asked⟩ := listed request mem
    obtain ⟨result, done⟩ := executed asked
    exact remembered block request asked (by simp [done])

/-! ## Rendering what is remembered -/

/-- Nothing is submitted for a request that is remembered, and nothing is forgotten. -/
theorem renderRequest_remembered (settings : Settings) (finishes : engine.Finishes version)
    (there : session.cache.entry? (digestUnder settings version engine.root request) ≠ none) :
    (renderRequest settings engine request session).2.rig.submitted = session.rig.submitted ∧
      (renderRequest settings engine request session).2.cache.entries = session.cache.entries := by
  have told := finishes.version_eq session.rig
  have unsubmitted := finishes.asked session.rig
  obtain ⟨result, entry⟩ := Option.ne_none_iff_exists'.mp there
  unfold renderRequest requestDigest
  generalize engine.version session.rig = done at told unsubmitted ⊢
  obtain ⟨version', rig⟩ := done
  obtain rfl : version' = .ok version := told
  have retrieved : ({ session with rig := rig } : Session ε).result
      (digestUnder settings version engine.root request) (submit settings engine request) =
        (.ok result, { session with cache := session.cache.countHit, rig := rig }) := by
    simp only [Session.result, entry]
  unfold digestUnder at retrieved
  simp only [retrieved]
  exact ⟨unsubmitted, rfl⟩

/-- Whether results for some keys are remembered, and nothing was submitted since a start. -/
structure Session.Recalls (keys : Text → Prop) (start session : Session ε) : Prop where
  submitted : session.rig.submitted = start.rig.submitted
  remembered : ∀ key, keys key → session.cache.entry? key ≠ none

/-- All is still recalled when a block is executed. -/
theorem Session.Recalls.execute {collection : Collection ε σ} (finishes : engine.Finishes version)
    (h : start.Recalls (Asked (digestUnder settings version engine.root) (requests.map Prod.snd))
      collection.session) (block : Nat) :
    start.Recalls (Asked (digestUnder settings version engine.root) (requests.map Prod.snd))
      (collection.execute settings engine requests block).session := by
  rcases Collection.execute_cases settings engine requests collection block with ⟨-, done⟩ |
    ⟨request, asked, -, done⟩
  · rwa [done]
  · have mem : request ∈ requests.map Prod.snd := List.mem_map.mpr ⟨_, mem_of_lookup asked, rfl⟩
    obtain ⟨submitted, entries⟩ := renderRequest_remembered settings finishes
      (h.remembered _ ⟨request, mem, rfl⟩)
    rw [done]
    refine ⟨submitted.trans h.submitted, ?_⟩
    intro key wanted
    exact (Session.entry?_of_entries entries key).trans_ne (h.remembered key wanted)

/-- All is still recalled when a block is delivered. -/
theorem Session.Recalls.deliver {keys : Text → Prop} {collection : Collection ε σ}
    (h : start.Recalls keys collection.session) (spares : onFailure.SparesFiles) (block : Nat) :
    start.Recalls keys (collection.deliver onFailure block).2.session := by
  obtain ⟨host, -, session_eq⟩ := Collection.session_deliver spares collection block
  rw [session_eq]
  exact ⟨h.submitted, h.remembered⟩

/-- A rendering of requests whose results are remembered submits nothing. -/
theorem renderRequests_recalls (finishes : engine.Finishes version) (spares : onFailure.SparesFiles)
    (schedule : Schedule)
    (recalls : start.Recalls (Asked (digestUnder settings version engine.root)
      (requests.map Prod.snd)) session) (noted : σ) :
    (renderRequests settings engine requests onFailure schedule noted session).2.rig.submitted =
      start.rig.submitted := by
  let Keeps (collection : Collection ε σ) : Prop := start.Recalls
    (Asked (digestUnder settings version engine.root) (requests.map Prod.snd)) collection.session
  have executes (collection : Collection ε σ) (block : Nat) (inv : Keeps collection) :
      Keeps (collection.execute settings engine requests block) := inv.execute finishes block
  have delivers (collection : Collection ε σ) (block : Nat) (inv : Keeps collection) :
      Keeps (collection.deliver onFailure block).2 := inv.deliver spares block
  have start : Keeps (Collection.start noted session) := recalls
  obtain ⟨collection, inv, session_eq, -, -⟩ := renderRequests_keeps onFailure schedule executes delivers
    start ⟨recalls.submitted, recalls.remembered⟩
  rw [session_eq]
  exact inv.submitted

end Requests

end TypstFences
