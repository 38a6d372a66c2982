import TypstFences.Proofs.Pass.Evaluation
import TypstFences.Proofs.Render.Payload

/-!
# Passes and what they are given

A pass is given its settings, an engine, tags and a named text (`PassCall`), and runs in a session.
If the engine answers as a function of its version, its root, the output format and the source, the
result of a request is a function of the payload of which its digest is taken, and the results that
occur have values by their digests (`valueOf`). In a session that knows nothing false of its
requests a pass has the result that its text means, and leaves such a session (`TrueTo.run`).
-/

set_option autoImplicit false

namespace TypstFences

variable {ε : Type}

/-! ## Passes -/

/-- All that a pass is given besides a session: the order of its events, what the document is written back
with, the settings, an engine and the version that it tells, the tags, and a named text. -/
structure PassCall (ε : Type) where
  schedule : List Nat → Schedule
  press : Press
  settings : Settings
  engine : Engine ε
  version : Text
  registry : Registry
  name : Text
  source : Text

/-- What engines answer: a function of the version, the root, the output format and the source. -/
abbrev Answer := Text → Option Text → Text → Text → RenderResult

namespace PassCall

/-- The pass in a session. -/
def run (call : PassCall ε) (session : Session ε) : Except PassError PassResult × Session ε :=
  Pass.runWith call.schedule call.press call.settings call.engine call.registry call.name call.source session

/-- The requests of the pass. -/
def requests (call : PassCall ε) : List Request :=
  Pass.requestsOf call.settings call.registry call.name call.source

/-- The answer of the engine to a source. -/
def answerTo (answer : Answer) (call : PassCall ε) : Text → RenderResult :=
  answer call.version call.engine.root call.settings.outputFormat

/-- The results and the digests of requests. -/
def rendering (answer : Answer) (call : PassCall ε) : Rendering :=
  Pass.answersOf call.settings call.version call.engine.root (call.answerTo answer)

/-- What the text of the pass means. -/
def meaning (answer : Answer) (call : PassCall ε) : Except PassError PassResult :=
  Pass.meaning call.press call.settings call.registry (call.rendering answer) call.name call.source

/-- The payload of a request, of which its digest is taken. -/
def payload (call : PassCall ε) (request : Request) : Bytes :=
  request.payloadBytes call.version call.settings.preamble call.settings.outputFormat call.engine.root

/-- The pass once more, with its events in another order and objects in other places. -/
def again (call : PassCall ε) (order : List Nat → Schedule) (address : Nat → Nat → Template.Address) :
    PassCall ε :=
  { call with schedule := order, press := ⟨call.press.highlighter, address⟩ }

/-- If the template shows no places in memory, the text of a pass means the same once more. -/
theorem meaning_again (call : PassCall ε) (steady : call.settings.Steady) (answer : Answer)
    (order : List Nat → Schedule) (address : Nat → Nat → Template.Address) :
    (call.again order address).meaning answer = call.meaning answer := by
  refine Pass.meaning_steady steady ?_ call.registry (call.rendering answer) call.name call.source
  rfl

/-- Nor does it matter to the pass itself then where objects stand. -/
theorem run_again (call : PassCall ε) (steady : call.settings.Steady) (order : List Nat → Schedule)
    (address address' : Nat → Nat → Template.Address) :
    (call.again order address).run = (call.again order address').run := by
  funext session
  refine Pass.runWith_steady steady ?_ order call.engine call.registry call.name call.source session
  rfl

/-- Whether a pass delivers every block, does not end at the first failure, and has an engine that
answers as it should. -/
structure Proper (answer : Answer) (call : PassCall ε) : Prop where
  complete : Schedule.Complete call.schedule
  noFailFast : call.settings.failFast = false
  answers : call.engine.Answers call.version (call.answerTo answer)

/-- Whether the artifacts of a pass can be kept in a directory: they can be read back, and the file
system admits their files. -/
def Keepable (answer : Answer) (directory : Path) (tag : Text) (call : PassCall ε) : Prop :=
  ∀ request ∈ call.requests, ∀ artifact,
    (call.rendering answer).answer request = .artifact artifact →
      artifact.IsPlain ∧
        Store.refusal? directory tag ((call.rendering answer).digest request) artifact = none

/-- Whether payloads that occur in two passes are the same if their digests are. -/
def NoCollision (first second : PassCall ε) : Prop :=
  ∀ request ∈ first.requests, ∀ request' ∈ second.requests,
    Sha256.hexDigest (first.payload request) = Sha256.hexDigest (second.payload request') →
      first.payload request = second.payload request'

/-- Two requests with different digests do not collide. -/
theorem noCollision_of_pair {call : PassCall ε} {first last : Request}
    (requests_eq : call.requests = [first, last])
    (differ : Sha256.hexDigest (call.payload first) ≠ Sha256.hexDigest (call.payload last)) :
    call.NoCollision call := by
  intro request mem request' mem' same
  rw [requests_eq] at mem mem'
  simp only [List.mem_cons, List.not_mem_nil, or_false] at mem mem'
  rcases mem with rfl | rfl <;> rcases mem' with rfl | rfl
  · rfl
  · exact absurd same differ
  · exact absurd same.symm differ
  · rfl

/-- The result of a request is a function of its payload. -/
theorem answer_eq_of_payload {answer : Answer} {first second : PassCall ε}
    {request request' : Request} (same : first.payload request = second.payload request') :
    (first.rendering answer).answer request = (second.rendering answer).answer request' := by
  obtain ⟨versions, formats, roots, rfl, preambles⟩ := Request.payloadBytes_inj same
  show request.answer (first.answerTo answer) first.settings.preamble =
    request.answer (second.answerTo answer) second.settings.preamble
  rw [Request.answer, Request.answer, answerTo, answerTo, versions, formats, roots,
    Request.assembled_eq preambles, Request.preambleLines_eq preambles]

end PassCall

/-! ## The values of digests -/

/-- Whether a result is that of a request with some digest in one of some passes. -/
def Expected (answer : Answer) (calls : List (PassCall ε)) (key : Text) (result : RenderResult) : Prop :=
  ∃ call ∈ calls, ∃ request ∈ call.requests,
    (call.rendering answer).digest request = key ∧ (call.rendering answer).answer request = result

open Classical in
/-- The result of the requests with a digest in some passes. -/
noncomputable def valueOf (answer : Answer) (calls : List (PassCall ε)) (key : Text) :
    Option RenderResult :=
  if h : ∃ result, Expected answer calls key result then some h.choose else none

section Values

variable {answer : Answer} {calls : List (PassCall ε)} {key : Text} {result other : RenderResult}

/-- Without collisions there is one result for each digest. -/
theorem Expected.unique (noCollision : ∀ first ∈ calls, ∀ second ∈ calls, first.NoCollision second)
    (h : Expected answer calls key result) (h' : Expected answer calls key other) : result = other := by
  obtain ⟨first, first_mem, request, asked, digest, rfl⟩ := h
  obtain ⟨second, second_mem, request', asked', digest', rfl⟩ := h'
  exact PassCall.answer_eq_of_payload
    (noCollision first first_mem second second_mem request asked request' asked'
      (digest.trans digest'.symm))

/-- The value of a digest is a result of a request with the digest. -/
theorem expected_of_valueOf (h : valueOf answer calls key = some result) :
    Expected answer calls key result := by
  unfold valueOf at h
  split at h
  · rename_i found
    rw [← Option.some.inj h]
    exact found.choose_spec
  · exact absurd h (by simp)

/-- Without collisions the result of a request is the value of its digest. -/
theorem valueOf_eq (noCollision : ∀ first ∈ calls, ∀ second ∈ calls, first.NoCollision second)
    (h : Expected answer calls key result) : valueOf answer calls key = some result := by
  have found : ∃ result, Expected answer calls key result := ⟨result, h⟩
  unfold valueOf
  rw [dif_pos found]
  exact congrArg some (Expected.unique noCollision found.choose_spec h)

/-- Artifacts that are values can be kept, if those of all passes can. -/
theorem storing_valueOf {directory : Path} {tag : Text}
    (keepable : ∀ call ∈ calls, call.Keepable answer directory tag) :
    Storing (valueOf answer calls) tag (some directory) := by
  intro path same key artifact known
  obtain rfl := Option.some.inj same
  obtain ⟨call, mem, request, asked, rfl, answered⟩ := expected_of_valueOf known
  exact keepable call mem request asked artifact answered

end Values

/-- Without collisions no two images of a pass have the same name. -/
theorem PassCall.singleImages {call : PassCall ε} (answer : Answer)
    (noCollision : call.NoCollision call) (pieces : List Piece)
    (found : Pass.pieces call.settings call.registry call.name (scan call.source).segments =
      .ok pieces) :
    Pass.SingleImages (pieces.flatMap (Piece.images (call.rendering answer))) := by
  have requests_eq : call.requests = pieces.filterMap Piece.request? := by
    unfold PassCall.requests Pass.requestsOf
    rw [found]
  have alone : ∀ first ∈ [call], ∀ second ∈ [call], first.NoCollision second := by
    simp only [List.mem_singleton, forall_eq]
    exact noCollision
  have known : ∀ request ∈ pieces.filterMap Piece.request?,
      valueOf answer [call] ((call.rendering answer).digest request) =
        some ((call.rendering answer).answer request) := by
    intro request asked
    rw [← requests_eq] at asked
    exact valueOf_eq alone ⟨call, List.mem_cons_self, request, asked, rfl, rfl⟩
  exact Pass.singleImages_of_value (fun _ => Store.isKey_hexDigest _) known

/-! ## Sessions that know nothing false -/

namespace Session

variable {answer : Answer} {calls : List (PassCall ε)} {call : PassCall ε} {session : Session ε}

/-- Whether what a session knows of the requests of passes is true: what its cache remembers, and
what it keeps in its directory, if it has one. The engines leave this directory alone, and the
artifacts of the passes can be kept there. -/
structure TrueTo (answer : Answer) (calls : List (PassCall ε)) (session : Session ε) : Prop where
  memory : ∀ call ∈ calls, ∀ request ∈ call.requests, ∀ result,
    session.cache.entry? ((call.rendering answer).digest request) = some result →
      result = (call.rendering answer).answer request
  disk : ∀ path, session.cache.directory = some path → ∃ disk, Store.Holds path disk session.rig.host ∧
    ∀ call ∈ calls, ∀ request ∈ call.requests, ∀ artifact,
      disk ((call.rendering answer).digest request) = some artifact →
        (call.rendering answer).answer request = .artifact artifact
  keepable : ∀ path, session.cache.directory = some path →
    ∀ call ∈ calls, call.Keepable answer path session.rig.host.tag
  leaves : ∀ path, session.cache.directory = some path →
    ∀ call ∈ calls, call.engine.LeavesAlone path

namespace TrueTo

/-- A new cache that keeps nothing on disk knows nothing false. -/
theorem new (answer : Answer) (calls : List (PassCall ε)) (rig : Rig ε) :
    TrueTo answer calls ⟨Cache.new none, rig⟩ where
  memory _ _ _ _ _ found := absurd found (by simp [Cache.entry?, Cache.new])
  disk _ used := absurd used (by simp [Cache.new])
  keepable _ used := absurd used (by simp [Cache.new])
  leaves _ used := absurd used (by simp [Cache.new])

/-- What is true of passes is true of some of them. -/
theorem mono (h : session.TrueTo answer calls) {fewer : List (PassCall ε)} (among : fewer ⊆ calls) :
    session.TrueTo answer fewer where
  memory call mem := h.memory call (among mem)
  disk path used := by
    obtain ⟨disk, holds, kept⟩ := h.disk path used
    exact ⟨disk, holds, fun call mem => kept call (among mem)⟩
  keepable path used call mem := h.keepable path used call (among mem)
  leaves path used call mem := h.leaves path used call (among mem)

/-- All that such a session knows of digests of the passes are the values of these. -/
theorem truthful (h : session.TrueTo answer calls) :
    session.Truthful (valueOf answer calls) session.rig.host.tag session.cache.directory := by
  refine ⟨fun key result expected found known => ?_, fun _ used => used, fun path used => ?_⟩
  · obtain ⟨call, mem, request, asked, rfl, rfl⟩ := expected_of_valueOf known
    exact h.memory call mem request asked result found
  · obtain ⟨disk, holds, kept⟩ := h.disk path used
    refine ⟨rfl, disk, holds, fun key artifact expected found known => ?_⟩
    obtain ⟨call, mem, request, asked, rfl, rfl⟩ := expected_of_valueOf known
    exact kept call mem request asked artifact found

/-- A pass in such a session has the result that its text means, and leaves such a session. -/
theorem run (h : session.TrueTo answer calls) (mem : call ∈ calls) (proper : call.Proper answer)
    (noCollision : ∀ first ∈ calls, ∀ second ∈ calls, first.NoCollision second) :
    SameOutcome (call.run session).1 (call.meaning answer) ∧
      (call.run session).2.TrueTo answer calls := by
  have value {other : PassCall ε} (mem : other ∈ calls) {request : Request}
      (asked : request ∈ other.requests) :
      valueOf answer calls ((other.rendering answer).digest request) =
        some ((other.rendering answer).answer request) :=
    valueOf_eq noCollision ⟨other, mem, request, asked, rfl, rfl⟩
  have storing : Storing (valueOf answer calls) session.rig.host.tag session.cache.directory :=
    fun path used => storing_valueOf (h.keepable path used) path rfl
  obtain ⟨outcome, after, run, same, truthful⟩ := Pass.runWith_same_meaning proper.complete
    proper.noFailFast proper.answers h.truthful (fun path used => h.leaves path used call mem) storing
    fun request asked => value mem asked
  unfold PassCall.run
  rw [run]
  refine ⟨same, fun other mem request asked result found =>
    truthful.memory _ _ _ found (value mem asked), fun path used => ?_, fun path used => ?_,
    fun path used => h.leaves path (truthful.uses path used)⟩
  · obtain ⟨-, disk, holds, kept⟩ := truthful.disk path (truthful.uses path used)
    exact ⟨disk, holds, fun other mem request asked artifact found =>
      kept _ _ _ found (value mem asked)⟩
  · obtain ⟨tag, -⟩ := truthful.disk path (truthful.uses path used)
    rw [tag]
    exact h.keepable path (truthful.uses path used)

/-- In a session that knows nothing false of it a pass has the result that its text means. -/
theorem run_same_meaning (h : session.TrueTo answer [call]) (proper : call.Proper answer)
    (noCollision : call.NoCollision call) :
    SameOutcome (call.run session).1 (call.meaning answer) := by
  have alone : ∀ first ∈ [call], ∀ second ∈ [call], first.NoCollision second := by
    simp only [List.mem_singleton, forall_eq]
    exact noCollision
  exact (h.run List.mem_cons_self proper alone).1

end TrueTo

end Session

/-! ## Passes on a bare host -/

/-- Whether a pass has a result. -/
def hasResult : Except PassError PassResult → Bool
  | .ok _ => true
  | .error _ => false

/-- A pass that has a result came to one. -/
theorem ok_of_hasResult {outcome : Except PassError PassResult} (returned : hasResult outcome = true) :
    ∃ result, outcome = .ok result := by
  cases outcome with
  | ok result => exact ⟨result, rfl⟩
  | error error => exact absurd returned (by simp [hasResult])

/-- What shows sources as plain text, where all objects stand in one place. -/
def barePress : Press := ⟨.plain, fun _ _ _ => "0x0".toList⟩

/-- The same for every document of a run. -/
def barePresses : Presses := ⟨.plain, fun _ => barePress.address⟩

/-- A pass with the default settings, with an engine that makes one artifact of everything. -/
def bareCall (artifact : Artifact) (source : Text) : PassCall Unit where
  schedule := Schedule.inOrder
  press := barePress
  settings := Settings.default
  engine := Engine.pure "1".toList none fun _ => .artifact artifact
  version := "1".toList
  registry := Registry.typst
  name := "d.md".toList
  source := source

/-- Such a pass is as it should be. -/
theorem bareCall_proper (artifact : Artifact) (source : Text) :
    (bareCall artifact source).Proper fun _ _ _ _ => .artifact artifact where
  complete := Schedule.inOrder_complete
  noFailFast := rfl
  answers := ⟨fun _ => rfl, fun _ _ => rfl⟩

/-- Its engine touches no files. -/
theorem bareCall_leaves (artifact : Artifact) (source : Text) (directory : Path) :
    (bareCall artifact source).engine.LeavesAlone directory :=
  ⟨fun _ => ⟨fun _ h => h, rfl⟩, fun _ _ => ⟨fun _ h => h, rfl⟩⟩

end TypstFences
