import TypstFences.Proofs.Cache.Loading
import TypstFences.Proofs.Render.Progress

/-!
# Where failures come from

A failure that is told is one that an engine told of a source, or that of a source it was given up
with (`Engine.Fails`), with its line told in the block (`Failure.inBlock`). It is remembered under the
key of its request, and what is remembered stays (`Session.result_cases`). So if all failures that are
remembered have an origin, those of a rendering have one too (`Collection.Traced`).
-/

set_option autoImplicit false

namespace TypstFences

variable {ε σ : Type} {settings : Settings} {engine : Engine ε} {request : Request} {source : Text}

/-! ## Failures of an engine -/

/-- Whether an engine can fail so on a source: by its own reply, or by not finishing in time. -/
inductive Engine.Fails (engine : Engine ε) (source : Text) : Failure → Prop
  | told {failure : Failure} (rig : Rig ε)
      (reply : (engine.compile source rig).1 = .finished (.failure failure)) :
      Fails engine source failure
  | late {timeout : Timeout} (rig : Rig ε)
      (reply : (engine.compile source rig).1 = .timedOut timeout) :
      Fails engine source ⟨timeout.message, timeoutKind, none⟩

/-- A failure with its line told in the block below some lines. -/
def Failure.inBlock (above : Nat) (failure : Failure) : Failure :=
  { failure with line := failure.line.map (Submission.blockLine above) }

/-- Whether an engine can tell a version. -/
def Engine.HasVersion (engine : Engine ε) (version : Text) : Prop :=
  ∃ rig, (engine.version rig).1 = .ok version

/-- Whether an error is one that the engine gives itself: it crashes on a source with it, or does not tell its
version. -/
def Engine.Raises (engine : Engine ε) (error : PassError) : Prop :=
  (∃ source rig, (engine.compile source rig).1 = .crashed error) ∨
    ∃ rig, (engine.version rig).1 = .error error

/-- Whether an error can end the rendering of a block: it is about the files of the cache, or one that
the engine gives. -/
def Engine.Breaks (engine : Engine ε) (error : PassError) : Prop :=
  (∃ fault, error = .refusedFile fault) ∨ (∃ fault, error = .badPattern fault) ∨ engine.Raises error

/-- Whether an engine accounts for what came of a source with some lines above the block. -/
structure Engine.Explains (engine : Engine ε) (source : Text) (above : Nat)
    (outcome : Except PassError RenderResult) : Prop where
  failure : ∀ failure, outcome = .ok (.failure failure) →
    ∃ told, engine.Fails source told ∧ failure = told.inBlock above
  error : ∀ error, outcome = .error error → engine.Breaks error

/-- What attempts come to is explained by the engine, by induction on how many are left. -/
theorem Submission.attempts_explained (above more : Nat) :
    ∀ attempt rig, engine.Explains source above (attempts engine source above more attempt rig).1 := by
  -- only a source that is given up is submitted again
  have attempt_of {more attempt : Nat} {rig : Rig ε} {reply : Reply} {rig' : Rig ε}
      (done : engine.compile source (rig.submit source) = (reply, rig'))
      (again : ∀ timeout, reply = .timedOut timeout →
        engine.Explains source above (attempts engine source above more attempt rig).1) :
      engine.Explains source above (attempts engine source above more attempt rig).1 := by
    have replied := congrArg Prod.fst done
    cases reply with
    | finished result =>
      have outcome : (attempts engine source above more attempt rig).1 =
          .ok (relocate above result) := by
        cases more <;> simp only [attempts, done]
      rw [outcome]
      refine ⟨fun failure same => ?_, fun error same => absurd same (by simp)⟩
      cases result with
      | artifact artifact => exact absurd (Except.ok.inj same) (by simp [relocate])
      | failure told =>
        exact ⟨told, .told _ replied, (RenderResult.failure.inj (Except.ok.inj same)).symm⟩
    | crashed error =>
      have outcome : (attempts engine source above more attempt rig).1 = .error error := by
        cases more <;> simp only [attempts, done]
      rw [outcome]
      refine ⟨fun failure same => absurd same (by simp), fun other same => ?_⟩
      obtain rfl := Except.error.inj same
      exact .inr (.inr (.inl ⟨source, _, replied⟩))
    | timedOut timeout => exact again timeout rfl
  induction more with
  | zero =>
    intro attempt rig
    cases done : engine.compile source (rig.submit source) with
    | mk reply rig' =>
      refine attempt_of done fun timeout late => ?_
      subst late
      have outcome : (attempts engine source above 0 attempt rig).1 = .ok (exhausted timeout) := by
        simp only [attempts, done]
      rw [outcome]
      refine ⟨fun failure same => ⟨_, .late _ (congrArg Prod.fst done), ?_⟩,
        fun error same => absurd same (by simp)⟩
      exact (RenderResult.failure.inj (Except.ok.inj same)).symm
  | succ more ih =>
    intro attempt rig
    cases done : engine.compile source (rig.submit source) with
    | mk reply rig' =>
      refine attempt_of done fun timeout late => ?_
      subst late
      have outcome : (attempts engine source above (more + 1) attempt rig).1 =
          (attempts engine source above more (attempt + 1)
            (rig'.note 2 (retryText attempt (attempt + (more + 1))))).1 := by
        rw [attempts, done]
      rw [outcome]
      exact ih (attempt + 1) _

/-- What comes of a submission is accounted for by the engine. -/
theorem submit_explained (rig : Rig ε) :
    engine.Explains (request.assembled settings.preamble) (request.preambleLines settings.preamble)
      (submit settings engine request rig).1 :=
  Submission.attempts_explained _ _ 1 rig

/-! ## What is remembered -/

namespace Session

variable {session : Session ε} {key : Text}
variable {computation : Rig ε → Except PassError RenderResult × Rig ε}

/-- Loading an artifact fails for the files or the pattern only. -/
theorem load_error {cache : Cache} {host after : Host} {error : PassError}
    (h : cache.load key host = (.error error, after)) :
    (∃ fault, error = .refusedFile fault) ∨ ∃ fault, error = .badPattern fault := by
  have failed := congrArg Prod.fst h
  unfold Cache.load at failed
  split at failed
  · exact absurd failed (by simp)
  · rcases Store.load_error failed with refused | ⟨fault, -, pattern⟩
    · exact .inl refused
    · exact .inr ⟨fault, pattern⟩

/-- A result is kept and remembered, unless the files refuse it. -/
theorem keep_cases (key : Text) (result : RenderResult) (session : Session ε) :
    (∃ fault, (keep key result session).1 = .error (.refusedFile fault) ∧
      (keep key result session).2.cache.entries = session.cache.entries) ∨
    (keep key result session).1 = .ok result ∧
      (keep key result session).2.cache.entries = session.cache.entries ++ [(key, result)] := by
  cases result with
  | failure failure => exact .inr ⟨rfl, rfl⟩
  | artifact artifact =>
    rw [keep]
    cases session.cache.save key artifact session.rig.host with
    | mk outcome host =>
      cases outcome with
      | ok => exact .inr ⟨rfl, rfl⟩
      | error fault => exact .inl ⟨fault, rfl, rfl⟩

/-- What asking a session for the result of a key does: the result is remembered, or it is looked for in
the directory, where loading fails, finds an artifact, or finds nothing, so that it is computed. -/
inductive Retrieval (key : Text) (computation : Rig ε → Except PassError RenderResult × Rig ε)
    (session : Session ε) : Except PassError RenderResult × Session ε → Prop
  | remembered {result : RenderResult} (entry : session.cache.entry? key = some result) :
      Retrieval key computation session (.ok result, { session with cache := session.cache.countHit })
  | failed {error : PassError} {host : Host} (absent : session.cache.entry? key = none)
      (loaded : session.cache.load key session.rig.host = (.error error, host)) :
      Retrieval key computation session (.error error, session.withHost host)
  | found {artifact : Artifact} {host : Host} (absent : session.cache.entry? key = none)
      (loaded : session.cache.load key session.rig.host = (.ok (some artifact), host)) :
      Retrieval key computation session (.ok (.artifact artifact),
        (Session.mk session.cache.countHit (session.withHost host).rig).remember key
          (.artifact artifact))
  | computed {host : Host} (absent : session.cache.entry? key = none)
      (loaded : session.cache.load key session.rig.host = (.ok none, host)) :
      Retrieval key computation session ((session.withHost host).compute key computation)

/-- A result is retrieved from the memory, from the directory, or by computing it. -/
theorem result_retrieval (session : Session ε) (key : Text)
    (computation : Rig ε → Except PassError RenderResult × Rig ε) :
    Retrieval key computation session (session.result key computation) := by
  unfold Session.result
  cases remembered : session.cache.entry? key with
  | some result => exact .remembered remembered
  | none =>
    cases loaded : session.cache.load key session.rig.host with
    | mk outcome host =>
      rcases outcome with error | (- | artifact)
      · exact .failed remembered loaded
      · exact .computed remembered loaded
      · exact .found remembered loaded

/-- What comes of asking for a result: it is remembered, or an error ends the asking, or it is
remembered now, a failure only if the computation gave it. -/
theorem result_cases (session : Session ε) (key : Text)
    (computation : Rig ε → Except PassError RenderResult × Rig ε) :
    (∃ result, session.cache.entry? key = some result ∧
      (session.result key computation).1 = .ok result ∧
      (session.result key computation).2.cache.entries = session.cache.entries) ∨
    (∃ error, session.cache.entry? key = none ∧ (session.result key computation).1 = .error error ∧
      (session.result key computation).2.cache.entries = session.cache.entries ∧
      ((∃ fault, error = .refusedFile fault) ∨ (∃ fault, error = .badPattern fault) ∨
        ∃ rig, (computation rig).1 = .error error)) ∨
    ∃ result, session.cache.entry? key = none ∧ (session.result key computation).1 = .ok result ∧
      (session.result key computation).2.cache.entries = session.cache.entries ++ [(key, result)] ∧
      ∀ failure, result = .failure failure → ∃ rig, (computation rig).1 = .ok (.failure failure) := by
  have retrieval := result_retrieval session key computation
  generalize session.result key computation = done at retrieval ⊢
  cases retrieval with
  | remembered entry => exact .inl ⟨_, entry, rfl, rfl⟩
  | @failed error _ absent loaded =>
    refine .inr (.inl ⟨error, absent, rfl, rfl, ?_⟩)
    exact (load_error loaded).imp_right .inl
  | found absent loaded => exact .inr (.inr ⟨_, absent, rfl, rfl, fun _ same => absurd same (by simp)⟩)
  | @computed host absent loaded =>
    refine .inr ?_
    unfold compute
    cases computed : computation (session.withHost host).rig with
    | mk outcome rig =>
      cases outcome with
      | error error =>
        exact .inl ⟨error, absent, rfl, rfl, .inr (.inr ⟨_, congrArg Prod.fst computed⟩)⟩
      | ok result =>
        simp only
        rcases keep_cases key result ⟨(session.withHost host).cache.countMiss, rig⟩ with
          ⟨fault, ends, entries⟩ | ⟨ends, entries⟩
        · exact .inl ⟨_, absent, ends, entries, .inl ⟨fault, rfl⟩⟩
        · refine .inr ⟨result, absent, ends, entries, ?_⟩
          rintro failure rfl
          exact ⟨_, congrArg Prod.fst computed⟩

/-- Whether every failure that is remembered has an origin, told by its key. -/
def Traced (origin : Text → Failure → Prop) (session : Session ε) : Prop :=
  ∀ key failure, session.cache.entry? key = some (.failure failure) → origin key failure

/-- What a rendering of a request does to what is remembered: it adds the result it gives, if this is
not there, and a failure that it adds is one of the engine. -/
structure Remembers (settings : Settings) (engine : Engine ε) (request : Request) (before : Session ε)
    (outcome : Except PassError RenderResult) (after : Session ε) : Prop where
  grows : ∀ key result, before.cache.entry? key = some result → after.cache.entry? key = some result
  given : ∀ result, outcome = .ok result → ∃ version, (engine.version before.rig).1 = .ok version ∧
    after.cache.entry? (requestKey settings engine request version) = some result
  breaks : ∀ error, outcome = .error error → engine.Breaks error
  added : ∀ key failure, after.cache.entry? key = some (.failure failure) →
    before.cache.entry? key = some (.failure failure) ∨
      ∃ version, engine.HasVersion version ∧ key = requestKey settings engine request version ∧
        ∃ told, engine.Fails (request.assembled settings.preamble) told ∧
          failure = told.inBlock (request.preambleLines settings.preamble)

/-- What is rendered for a request is remembered under the digest that the engine told. -/
theorem renderRequest_remembers (settings : Settings) (engine : Engine ε) (request : Request)
    (session : Session ε) :
    Remembers settings engine request session (renderRequest settings engine request session).1
      (renderRequest settings engine request session).2 := by
  rcases renderRequest_cases settings engine request session with
    ⟨error, rig, untold, rendered⟩ | ⟨version, rig, told, rendered⟩
  · -- without a version nothing is asked of the cache
    rw [rendered]
    refine ⟨fun key result known => known, fun result given => absurd given (by simp), fun other ended => ?_,
      fun key failure known => .inl known⟩
    obtain rfl := Except.error.inj ended
    exact .inr (.inr (.inr ⟨session.rig, congrArg Prod.fst untold⟩))
  have version_eq : (engine.version session.rig).1 = .ok version := congrArg Prod.fst told
  let asked : Session ε := { session with rig := rig }
  rw [rendered]
  rcases result_cases asked (requestKey settings engine request version) (submit settings engine request)
    with ⟨found, there, ends, entries⟩ | ⟨fault, absent, ends, entries, reason⟩ |
      ⟨found, absent, ends, entries, computed⟩
  · -- the result is remembered already
    have same (key : Text) : (asked.result (requestKey settings engine request version)
        (submit settings engine request)).2.cache.entry? key = session.cache.entry? key := by
      rw [Cache.entry?, entries]
      rfl
    refine ⟨fun key result known => (same key).trans known, fun result given => ?_,
      fun error ended => absurd (ends.symm.trans ended) (by simp), fun key failure known =>
        .inl ((same key).symm.trans known)⟩
    refine ⟨version, version_eq, ?_⟩
    rw [same, ← Except.ok.inj (ends.symm.trans given)]
    exact there
  · have same (key : Text) : (asked.result (requestKey settings engine request version)
        (submit settings engine request)).2.cache.entry? key = session.cache.entry? key := by
      rw [Cache.entry?, entries]
      rfl
    refine ⟨fun key result known => (same key).trans known,
      fun result given => absurd (ends.symm.trans given) (by simp), fun error ended => ?_,
      fun key failure known => .inl ((same key).symm.trans known)⟩
    obtain rfl := Except.error.inj (ends.symm.trans ended)
    rcases reason with refused | pattern | ⟨rig, crashed⟩
    · exact .inl refused
    · exact .inr (.inl pattern)
    · exact (submit_explained rig).error _ crashed
  · have added (key : Text) : (asked.result (requestKey settings engine request version)
        (submit settings engine request)).2.cache.entry? key =
          if key = requestKey settings engine request version then some found
          else session.cache.entry? key := by
      rw [Cache.entry?, entries]
      exact lookup_concat found absent
    refine ⟨fun key result known => ?_, fun result given => ?_,
      fun error ended => absurd (ends.symm.trans ended) (by simp), fun key failure known => ?_⟩
    · have differ : key ≠ requestKey settings engine request version := by
        rintro rfl
        exact absurd (absent.symm.trans known) (by simp)
      rw [added, if_neg differ, known]
    · exact ⟨version, version_eq, by rw [added, if_pos rfl, ← Except.ok.inj (ends.symm.trans given)]⟩
    · rw [added] at known
      split at known
      · rename_i same
        obtain ⟨rig, failed⟩ := computed failure (Option.some.inj known)
        exact .inr ⟨version, ⟨_, version_eq⟩, same, (submit_explained rig).failure failure failed⟩
      · exact .inl known

end Session

/-! ## Renderings -/

namespace Collection

variable {requests : List (Nat × Request)} {onFailure : OnFailure σ} {collection : Collection ε σ}
variable {origin : Text → Failure → Prop}

/-- Whether a collection is orderly, all its results are remembered under the keys of their requests,
all errors are of the engine or the cache, and every failure that is remembered has an origin. -/
structure Traced (settings : Settings) (engine : Engine ε) (requests : List (Nat × Request))
    (origin : Text → Failure → Prop) (collection : Collection ε σ) : Prop where
  orderly : Orderly requests collection
  remembered : ∀ block result, collection.executed.lookup block = some (.ok result) →
    ∃ request version, requests.lookup block = some request ∧ engine.HasVersion version ∧
      collection.session.cache.entry? (requestKey settings engine request version) = some result
  breaks : ∀ block error, collection.executed.lookup block = some (.error error) →
    engine.Breaks error
  session : collection.session.Traced origin

/-- At the start nothing was rendered, so only what the session remembers has to have an origin. -/
theorem traced_start (noted : σ) {session : Session ε} (traced : session.Traced origin) :
    Traced settings engine requests origin (start noted session) :=
  ⟨orderly_start noted session, fun _ _ listed => absurd listed (by simp [start]),
    fun _ _ listed => absurd listed (by simp [start]), traced⟩

/-- Whether the failures of an engine on requests are origins. -/
def Covers (settings : Settings) (engine : Engine ε) (requests : List (Nat × Request))
    (origin : Text → Failure → Prop) : Prop :=
  ∀ block request version told, requests.lookup block = some request → engine.HasVersion version →
    engine.Fails (request.assembled settings.preamble) told →
      origin (requestKey settings engine request version)
        (told.inBlock (request.preambleLines settings.preamble))

/-- Results are traced to their origins when a block is executed. -/
theorem Traced.execute (h : Traced settings engine requests origin collection)
    (covers : Covers settings engine requests origin) (block : Nat) :
    Traced settings engine requests origin (collection.execute settings engine requests block) := by
  have orderly := h.orderly.execute settings engine block
  rcases execute_cases settings engine requests collection block with ⟨-, done⟩ |
    ⟨request, asked, absent, done⟩
  · rwa [done]
  · rw [done] at orderly ⊢
    have remembers := Session.renderRequest_remembers settings engine request collection.session
    refine ⟨orderly, fun other result found => ?_, fun other error found => ?_,
      fun key failure known => ?_⟩
    · rw [addOutcome, lookup_concat _ absent] at found
      split at found
      · rename_i same
        obtain ⟨version, told, known⟩ := remembers.given result (Option.some.inj found)
        exact ⟨request, version, same ▸ asked, ⟨_, told⟩, known⟩
      · obtain ⟨asking, version, asked', told, known⟩ := h.remembered other result found
        exact ⟨asking, version, asked', told, remembers.grows _ _ known⟩
    · rw [addOutcome, lookup_concat _ absent] at found
      split at found
      · exact remembers.breaks error (Option.some.inj found)
      · exact h.breaks other error found
    · rcases remembers.added key failure known with before | ⟨version, tells, rfl, told, fails, rfl⟩
      · exact h.session key failure before
      · exact covers block request version told asked tells fails

/-- Results are traced to their origins when a block is delivered. -/
theorem Traced.deliver (h : Traced settings engine requests origin collection) (block : Nat) :
    Traced settings engine requests origin (collection.deliver onFailure block).2 := by
  have orderly := h.orderly.deliver onFailure block
  rcases deliver_cases onFailure collection block with ⟨-, done⟩ | ⟨artifact, -, -, done⟩ |
    ⟨failure, outcome, noted, host, -, -, -, done⟩ | ⟨error, -, -, done⟩
  all_goals
    rw [done] at orderly ⊢
    exact ⟨orderly, h.remembered, h.breaks, h.session⟩

end Collection

end TypstFences
