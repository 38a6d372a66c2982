import TypstFences.Proofs.Cache.Directory
import TypstFences.Proofs.Render.Delivery

/-!
# Truthful sessions

Results have values by their keys. A session is truthful if whatever its cache remembers or keeps in
its directory for a key with a value is that value. Asking such a session for the result of a
request gives the value of its key, if the engine would compute it, and leaves a truthful session
(`Truthful.renderRequest`); so what was done before makes no difference. A new cache is truthful
(`truthful_new`).
-/

set_option autoImplicit false

namespace TypstFences

variable {ε : Type}

/-! ## Engines that answer in one way -/

/-- Whether an engine is of one version and answers every source in one way, in time and without a
crash. -/
structure Engine.Answers (engine : Engine ε) (version : Text) (answer : Text → RenderResult) :
    Prop where
  version_eq : ∀ rig, (engine.version rig).1 = .ok version
  compile_eq : ∀ source rig, (engine.compile source rig).1 = .finished (answer source)

/-- Whether an engine leaves a directory alone. -/
structure Engine.LeavesAlone (engine : Engine ε) (directory : Path) : Prop where
  version : ∀ rig, Store.Untouched directory rig.host (engine.version rig).2.host
  compile : ∀ source rig, Store.Untouched directory rig.host (engine.compile source rig).2.host

/-- The answer to a request: that to its assembled source, with the line of a failure told in the
block. -/
def Request.answer (answer : Text → RenderResult) (preamble : Text) (request : Request) :
    RenderResult :=
  Submission.relocate (request.preambleLines preamble) (answer (request.assembled preamble))

/-- A source that is finished at the first attempt is submitted once. -/
theorem submit_of_finished {settings : Settings} {engine : Engine ε} {request : Request} {rig : Rig ε}
    {result : RenderResult}
    (reply : (engine.compile (request.assembled settings.preamble)
      (rig.submit (request.assembled settings.preamble))).1 = .finished result) :
    submit settings engine request rig =
      (.ok (Submission.relocate (request.preambleLines settings.preamble) result),
        (engine.compile (request.assembled settings.preamble)
          (rig.submit (request.assembled settings.preamble))).2) := by
  generalize done : engine.compile (request.assembled settings.preamble)
    (rig.submit (request.assembled settings.preamble)) = compiled at reply ⊢
  obtain ⟨finished, after⟩ := compiled
  obtain rfl : finished = .finished result := reply
  unfold submit
  cases settings.timeoutRetries with
  | zero => simp only [Submission.attempts, done]
  | succ more => simp only [Submission.attempts, done]

/-- An engine that answers finishes at the first attempt. -/
theorem submit_eq {settings : Settings} {engine : Engine ε} {version : Text}
    {answer : Text → RenderResult} (answers : engine.Answers version answer) (request : Request)
    (rig : Rig ε) :
    submit settings engine request rig =
      (.ok (request.answer answer settings.preamble),
        (engine.compile (request.assembled settings.preamble)
          (rig.submit (request.assembled settings.preamble))).2) :=
  submit_of_finished (answers.compile_eq _ _)

/-! ## Values -/

/-- Whether a directory, if there is one, holds artifacts and nothing else, and what it has for keys
with a value is their value. Temporary files there are named with a tag. -/
def DiskTruthful (value : Text → Option RenderResult) (tag : Text) (directory : Option Path)
    (host : Host) : Prop :=
  ∀ path, directory = some path → host.tag = tag ∧ ∃ disk, Store.Holds path disk host ∧
    ∀ key artifact expected, disk key = some artifact → value key = some expected →
      expected = .artifact artifact

/-- Whether the artifacts among values can be kept in a directory, if there is one: they can be read
back, and the file system admits their files. -/
def Storing (value : Text → Option RenderResult) (tag : Text) (directory : Option Path) : Prop :=
  ∀ path, directory = some path → ∀ key artifact, value key = some (.artifact artifact) →
    artifact.IsPlain ∧ Store.refusal? path tag key artifact = none

/-- Whether a change leaves a directory alone, if there is one. -/
def LeavesAlone (directory : Option Path) (before after : Host) : Prop :=
  ∀ path, directory = some path → Store.Untouched path before after

/-- A directory that is left alone is as truthful as before. -/
theorem DiskTruthful.of_leavesAlone {value : Text → Option RenderResult} {tag : Text}
    {directory : Option Path} {before after : Host} (h : DiskTruthful value tag directory before)
    (leaves : LeavesAlone directory before after) : DiskTruthful value tag directory after := by
  intro path found
  obtain ⟨tag_eq, disk, holds, values⟩ := h path found
  have untouched := leaves path found
  exact ⟨untouched.tag.trans tag_eq, disk, untouched.holds _ holds, values⟩

/-- Whether all that a session knows of keys with a value is their value, be it remembered or in a
directory, which its cache uses or not. -/
structure Session.Truthful (value : Text → Option RenderResult) (tag : Text)
    (directory : Option Path) (session : Session ε) : Prop where
  memory : ∀ key result expected, session.cache.entry? key = some result →
    value key = some expected → result = expected
  uses : ∀ path, session.cache.directory = some path → directory = some path
  disk : DiskTruthful value tag directory session.rig.host

namespace Session

variable {value : Text → Option RenderResult} {tag key : Text} {directory : Option Path}
variable {session : Session ε} {expected : RenderResult}
variable {computation : Rig ε → Except PassError RenderResult × Rig ε}

/-- A session with a new cache that uses the directory or none is truthful, if the directory is. -/
theorem truthful_new {cache : Cache} (new : cache.entries = [])
    (uses : ∀ path, cache.directory = some path → directory = some path) {rig : Rig ε}
    (disk : DiskTruthful value tag directory rig.host) :
    Truthful value tag directory (⟨cache, rig⟩ : Session ε) :=
  ⟨fun _ _ _ found => absurd found (by simp [Cache.entry?, new]), uses, disk⟩

namespace Truthful

/-- Counting does not change what a session knows. -/
theorem count (h : Truthful value tag directory session) (hits misses : Nat) :
    Truthful value tag directory
      { session with cache := { session.cache with hits := hits, misses := misses } } :=
  ⟨h.memory, h.uses, h.disk⟩

/-- A rig with a host that leaves the directory alone keeps a session truthful. -/
theorem withRig (h : Truthful value tag directory session) (rig : Rig ε)
    (leaves : LeavesAlone directory session.rig.host rig.host) :
    Truthful value tag directory { session with rig := rig } :=
  ⟨h.memory, h.uses, h.disk.of_leavesAlone leaves⟩

/-- A note keeps a session truthful. -/
theorem note (h : Truthful value tag directory session) (level : Int) (message : Text) :
    Truthful value tag directory (session.withHost (session.rig.host.note level message)) :=
  h.withRig { session.rig with host := session.rig.host.note level message }
    fun path _ => Store.untouched_note path session.rig.host level message

/-- Remembering the value of a key keeps a session truthful. -/
theorem remember (h : Truthful value tag directory session) (known : value key = some expected) :
    Truthful value tag directory (session.remember key expected) := by
  refine ⟨fun other found value_found listed values => ?_, h.uses, h.disk⟩
  have listed' : (session.cache.entry? other).or ([(key, expected)].lookup other) = some found := by
    rw [← listed]
    exact List.lookup_append.symm
  rcases Option.or_eq_some_iff.mp listed' with old | ⟨-, new⟩
  · exact h.memory other found value_found old values
  · obtain ⟨rfl, rfl⟩ : other = key ∧ found = expected := by
      simpa using mem_of_lookup new
    rw [known] at values
    exact Option.some.inj values

/-- Keeping the value of a key that the directory has not gives the value. -/
theorem keep (h : Truthful value tag directory session) (hk : Store.IsKey key)
    (known : value key = some expected) (storing : Storing value tag directory)
    (absent : ∀ path, session.cache.directory = some path → session.rig.host.tag = tag ∧
      ∃ disk, Store.Holds path disk session.rig.host ∧ disk key = none ∧
        ∀ other artifact value_found, disk other = some artifact →
          value other = some value_found → value_found = .artifact artifact) :
    (Session.keep key expected session).1 = .ok expected ∧
      Truthful value tag directory (Session.keep key expected session).2 := by
  rcases expected with artifact | failure
  · rw [Session.keep, Cache.save]
    cases used : session.cache.directory with
    | none => exact ⟨rfl, h.remember known⟩
    | some path =>
      obtain ⟨tag_eq, disk, holds, not_kept, values⟩ := absent path used
      obtain ⟨plain, accepted⟩ := storing path (h.uses path used) key artifact known
      rw [← tag_eq] at accepted
      obtain ⟨files, saved, holds'⟩ := Store.save_eq holds hk plain not_kept accepted
      simp only [saved]
      have stored : Truthful value tag directory
          (session.withHost (session.rig.host.withFiles files)) := by
        refine ⟨h.memory, h.uses, fun other found => ?_⟩
        obtain rfl : path = other := Option.some.inj ((h.uses path used).symm.trans found)
        refine ⟨tag_eq, _, holds', fun other kept value_found listed value_eq => ?_⟩
        by_cases same : other = key
        · subst same
          rw [Function.update_self] at listed
          rw [known] at value_eq
          rw [← Option.some.inj value_eq, Option.some.inj listed]
        · rw [Function.update_of_ne same] at listed
          exact values other kept value_found listed value_eq
      exact ⟨trivial, stored.remember known⟩
  · exact ⟨rfl, h.remember known⟩

/-- A truthful session gives the value of a key, if the computation would. -/
theorem result (h : Truthful value tag directory session) (hk : Store.IsKey key)
    (known : value key = some expected) (storing : Storing value tag directory)
    (computes : (computation session.rig).1 = .ok expected)
    (leaves : LeavesAlone directory session.rig.host (computation session.rig).2.host) :
    (session.result key computation).1 = .ok expected ∧
      Truthful value tag directory (session.result key computation).2 := by
  unfold Session.result
  split
  · rename_i found remembered
    rw [h.memory key found expected remembered known]
    exact ⟨rfl, h.count _ _⟩
  · -- the computation runs if the directory does not have the artifact either
    have runs (absent : ∀ path, session.cache.directory = some path → session.rig.host.tag = tag ∧
        ∃ disk, Store.Holds path disk session.rig.host ∧ disk key = none ∧
          ∀ other artifact value_found, disk other = some artifact →
            value other = some value_found → value_found = .artifact artifact) :
        (session.compute key computation).1 = .ok expected ∧
          Truthful value tag directory (session.compute key computation).2 := by
      have after : Truthful value tag directory
          ⟨session.cache.countMiss, (computation session.rig).2⟩ := (h.withRig _ leaves).count _ _
      have kept := after.keep hk known storing fun path used => by
        obtain ⟨tag_eq, disk, holds, rest⟩ := absent path used
        have untouched := leaves path (h.uses path used)
        exact ⟨untouched.tag.trans tag_eq, disk, untouched.holds _ holds, rest⟩
      unfold Session.compute
      generalize computation session.rig = done at computes kept ⊢
      obtain ⟨outcome, rig⟩ := done
      obtain rfl : outcome = .ok expected := computes
      exact kept
    rw [Cache.load]
    cases used : session.cache.directory with
    | none => exact runs fun path found => absurd (used.symm.trans found) (by simp)
    | some path =>
      obtain ⟨tag_eq, disk, holds, values⟩ := h.disk path (h.uses path used)
      cases kept : disk key with
      | none =>
        simp only [Store.load_none holds hk kept]
        refine runs fun other found => ?_
        obtain rfl : path = other := Option.some.inj (used.symm.trans found)
        exact ⟨tag_eq, disk, holds, kept, values⟩
      | some artifact =>
        obtain ⟨message, loaded⟩ := Store.load_some holds kept
        simp only [loaded]
        obtain rfl := values key artifact expected kept known
        exact ⟨rfl, ((h.note 3 message).count _ _).remember known⟩

/-- A truthful session gives the answer to a request, if it is the value of its key. -/
theorem renderRequest {settings : Settings} {engine : Engine ε} {version : Text}
    {answer : Text → RenderResult} {request : Request}
    (h : Truthful value tag directory session) (answers : engine.Answers version answer)
    (leaves : ∀ path, directory = some path → engine.LeavesAlone path)
    (storing : Storing value tag directory)
    (known : value (request.digest version settings.preamble settings.outputFormat engine.root) =
      some (request.answer answer settings.preamble)) :
    (renderRequest settings engine request session).1 =
        .ok (request.answer answer settings.preamble) ∧
      Truthful value tag directory (TypstFences.renderRequest settings engine request session).2 := by
  have asked : Truthful value tag directory { session with rig := (engine.version session.rig).2 } :=
    h.withRig _ fun path found => (leaves path found).version session.rig
  have digest_eq := answers.version_eq session.rig
  unfold TypstFences.renderRequest requestDigest
  generalize engine.version session.rig = told at asked digest_eq ⊢
  obtain ⟨version', rig⟩ := told
  obtain rfl : version' = .ok version := digest_eq
  refine asked.result (Store.isKey_hexDigest _) known storing ?_ fun path found => ?_
  · rw [submit_eq answers]
  · rw [submit_eq answers]
    exact (leaves path found).compile (request.assembled settings.preamble)
      (rig.submit (request.assembled settings.preamble))

end Truthful

end Session

end TypstFences
