import TypstFences.Proofs.Render.Independence
import TypstFences.Proofs.Render.Origin

/-!
# Engines that do not crash

An engine that tells a version and comes to an end with every source, be it that it is given up with it, may
do anything else in between. A session still gives a result for each request then, unless the file system
refuses a file (`Engine.Replies.endsRefused`), which it does not where no directory is used
(`Engine.Replies.succeedsUnkept`).
-/

set_option autoImplicit false

namespace TypstFences

variable {ε : Type} {engine : Engine ε}

/-- Whether an engine tells a version, and has a result for every source or is given up with it, whatever its
state. -/
structure Engine.Replies (engine : Engine ε) : Prop where
  tells : ∀ rig, ∃ version, (engine.version rig).1 = .ok version
  compiles : ∀ source rig error, (engine.compile source rig).1 ≠ .crashed error

namespace Engine.Replies

/-- It does not fail to tell its version. -/
theorem version_ne_error (replies : engine.Replies) (rig : Rig ε) (error : PassError) :
    (engine.version rig).1 ≠ .error error := by
  obtain ⟨version, told⟩ := replies.tells rig
  rw [told]
  simp

/-- It tells a digest for each request. -/
theorem digests (replies : engine.Replies) (settings : Settings) (request : Request) (rig : Rig ε) :
    ∃ key, (requestDigest settings engine request rig).1 = .ok key := by
  obtain ⟨version, told⟩ := replies.tells rig
  rw [requestDigest_eq_map, told]
  exact ⟨_, rfl⟩

/-- The rendering of a request asks a session for the result of the key that the engine tells. -/
theorem retrieval (replies : engine.Replies) (settings : Settings) (request : Request)
    (session : Session ε) : ∃ version rig, engine.version session.rig = (.ok version, rig) ∧
      Session.Retrieval (requestKey settings engine request version) (submit settings engine request)
        { session with rig := rig } (renderRequest settings engine request session) := by
  rcases renderRequest_cases settings engine request session with
    ⟨error, rig, untold, -⟩ | ⟨version, rig, told, rendered⟩
  · exact absurd (congrArg Prod.fst untold) (replies.version_ne_error session.rig error)
  · rw [rendered]
    exact ⟨version, rig, told, Session.result_retrieval _ _ _⟩

/-- The attempts at a source end with a result. -/
theorem attempts_ok (replies : engine.Replies) (source : Text) (above more : Nat) :
    ∀ attempt rig, ∃ result,
      (Submission.attempts engine source above more attempt rig).1 = .ok result := by
  induction more with
  | zero =>
    intro attempt rig
    have replied := replies.compiles source (rig.submit source)
    unfold Submission.attempts
    generalize engine.compile source (rig.submit source) = done at replied ⊢
    obtain ⟨result | timeout | error, after⟩ := done
    · exact ⟨_, rfl⟩
    · exact ⟨_, rfl⟩
    · exact absurd rfl (replied error)
  | succ more ih =>
    intro attempt rig
    have replied := replies.compiles source (rig.submit source)
    unfold Submission.attempts
    generalize engine.compile source (rig.submit source) = done at replied ⊢
    obtain ⟨result | timeout | error, after⟩ := done
    · exact ⟨_, rfl⟩
    · exact ih (attempt + 1) _
    · exact absurd rfl (replied error)

/-- A result that is neither remembered nor found is computed, and then kept or refused. -/
theorem compute_cases (replies : engine.Replies) (settings : Settings) (key : Text)
    (request : Request) (session : Session ε) :
    ∃ result rig, session.compute key (submit settings engine request) =
      Session.keep key result ⟨session.cache.countMiss, rig⟩ := by
  obtain ⟨result, computed⟩ := replies.attempts_ok (request.assembled settings.preamble)
    (request.preambleLines settings.preamble) settings.timeoutRetries 1 session.rig
  refine ⟨result, (submit settings engine request session.rig).2, ?_⟩
  have submitted : submit settings engine request session.rig =
      (.ok result, (submit settings engine request session.rig).2) := Prod.ext computed rfl
  rw [Session.compute, submitted]

/-- The rendering of a request ends in no error but one of the file system. -/
theorem endsRefused (replies : engine.Replies) (settings : Settings) :
    EndsRefused settings engine := by
  intro session request error failed
  obtain ⟨version, asked, -, retrieval⟩ := replies.retrieval settings request session
  generalize renderRequest settings engine request session = done at retrieval failed
  cases retrieval with
  | remembered => exact absurd failed (by simp)
  | found => exact absurd failed (by simp)
  | failed absent loaded =>
    obtain rfl := Except.error.inj failed
    have load_failed := congrArg Prod.fst loaded
    unfold Cache.load at load_failed
    split at load_failed
    · exact absurd load_failed (by simp)
    · exact Store.refused_of_load (Store.isKey_hexDigest _) load_failed
  | @computed host absent loaded =>
    let found : Session ε := Session.withHost { session with rig := asked } host
    obtain ⟨result, rig, computed⟩ := replies.compute_cases settings
      (requestKey settings engine request version) request found
    rw [computed] at failed
    rcases Session.keep_cases (requestKey settings engine request version) result
      ⟨found.cache.countMiss, rig⟩ with ⟨fault, refused, -⟩ | ⟨kept, -⟩
    · exact ⟨fault, (Except.error.inj (refused.symm.trans failed)).symm⟩
    · exact absurd (kept.symm.trans failed) (by simp)

/-- Without a directory it ends in none. -/
theorem succeedsUnkept (replies : engine.Replies) (settings : Settings) :
    SucceedsUnkept settings engine := by
  intro session request unused
  obtain ⟨version, asked, -, retrieval⟩ := replies.retrieval settings request session
  generalize renderRequest settings engine request session = done at retrieval ⊢
  cases retrieval with
  | remembered => exact ⟨⟨_, rfl⟩, unused⟩
  | found => exact ⟨⟨_, rfl⟩, unused⟩
  | failed absent loaded =>
    rw [Cache.load_of_none _ _ unused] at loaded
    exact absurd (congrArg Prod.fst loaded) (by simp)
  | @computed host absent loaded =>
    let found : Session ε := Session.withHost { session with rig := asked } host
    obtain ⟨result, rig, computed⟩ := replies.compute_cases settings
      (requestKey settings engine request version) request found
    rw [computed]
    cases result with
    | failure failure => exact ⟨⟨_, rfl⟩, unused⟩
    | artifact artifact =>
      have saved : found.cache.countMiss.save
          (requestKey settings engine request version) artifact rig.host = (.ok (), rig.host) :=
        Cache.save_of_none _ _ _ unused
      simp only [Session.keep, saved]
      exact ⟨⟨_, rfl⟩, unused⟩

end Engine.Replies

end TypstFences
