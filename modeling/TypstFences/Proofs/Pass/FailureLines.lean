import TypstFences.Proofs.Pass.Told
import TypstFences.Proofs.Pass.Transparency

/-!
# Failures are told at their lines

The line that an engine tells of an assembled source is told in the block, and the block in the
document. What is told is that line of the document, if the failure is one of this block or of one
with the same payload, be it in this pass or in an earlier one that shared a cache with it
(`failure_lines_point_at_document`). This rests on the lines that the engine receives being those of the
document (`Fence.KeepsLines`), and on every failure that is remembered along a history having its
origin in a pass (`History.Traced.run`).
-/

set_option autoImplicit false

namespace TypstFences

variable {ε : Type}

/-! ## Lines of a block -/

/-- Whether the lines of a fence are those of the document and of what is submitted for it: its last
line closes it, and each line of the body is, dedented and without its marker, the line of what is
submitted that is as far below the preamble. -/
structure Fence.KeepsLines (source : Text) (fence : Fence) (marker preamble : Text)
    (request : Request) : Prop where
  closing : (Text.lines source)[fence.lastLine - 1]? = some fence.closer
  body : ∀ j, 1 ≤ j → j ≤ (Text.lines fence.body).length →
    ∃ line, Text.lineAt? source (fence.line + j) = some line ∧
      Text.lineAt? (request.assembled preamble) (request.preambleLines preamble + j) =
        some (HiddenLines.compiledLine marker (Text.dropIndent fence.indent.length line))

/-- Whether a line of a document is where a failure on what is submitted for a fence belongs: the line
of the fence if the failure has none, the line that is as far below the fence as that of the failure
below the preamble, or the first below the fence for a line of the preamble. For a line of what is
submitted it is one of the body or the last line of the fence. -/
structure Fence.Marks (fence : Fence) (preamble : Text) (request : Request) (failure : Failure)
    (line : Int) : Prop where
  unlined : failure.line = none → line = fence.line
  below : ∀ k, failure.line = some k → request.preambleLines preamble < k →
    line = fence.line + (k - request.preambleLines preamble)
  above : ∀ k, failure.line = some k → k ≤ request.preambleLines preamble → line = fence.line + 1
  within : ∀ k, failure.line = some k → 1 ≤ k → k ≤ Text.lineCount (request.assembled preamble) →
    fence.line + 1 ≤ line ∧ line ≤ fence.lastLine

namespace Fence.Asks

variable {settings : Settings} {registry : Registry} {source marker : Text} {fence : Fence}
variable {request : Request}

/-- The lines of a fence that asks for something are those of the document and of what is submitted. -/
theorem keepsLines (h : Asks settings registry source fence marker request) (clean : '\n' ∉ marker)
    (preamble : Text) : fence.KeepsLines source marker preamble request := by
  obtain ⟨front, body, back, stands⟩ := scan_stands h.closed h.mem
  exact ⟨stands.lines_lastLine, fun j first last => h.lineAt?_assembled clean preamble first last⟩

/-- A failure told in the block, and then in the document, is told where it belongs. -/
theorem marks (h : Asks settings registry source fence marker request) (clean : '\n' ∉ marker)
    (name preamble : Text) (failure : Failure) :
    fence.Marks preamble request failure
      (Pass.locate name fence (failure.inBlock (request.preambleLines preamble))).location.line := by
  have lineless (none_told : failure.line = none) :
      (Pass.locate name fence (failure.inBlock (request.preambleLines preamble))).location.line =
        fence.line := by
    simp [Pass.locate, Failure.inBlock, none_told]
  have lined (k : Int) (told : failure.line = some k) :
      (Pass.locate name fence (failure.inBlock (request.preambleLines preamble))).location.line =
        fence.line + max (k - request.preambleLines preamble) 1 := by
    simp [Pass.locate, Failure.inBlock, told, Submission.blockLine]
  refine ⟨lineless, fun k told below => ?_, fun k told above => ?_, fun k told first last => ?_⟩
  · rw [lined k told]
    omega
  · rw [lined k told]
    omega
  · rw [lined k told]
    rw [h.lineCount_assembled clean preamble] at last
    rw [Fence.lastLine]
    omega

end Fence.Asks

/-! ## Failures of a history -/

namespace PassCall

/-- The payload of a request when the engine tells a version. -/
def payloadAt (call : PassCall ε) (version : Text) (request : Request) : Bytes :=
  request.payloadBytes version call.settings.preamble call.settings.outputFormat call.engine.root

/-- Whether a failure of the engine of a pass on a request of the pass gives one that is remembered
under a key. -/
structure Origin (call : PassCall ε) (request : Request) (failure : Failure) (key : Text)
    (told : Failure) : Prop where
  asked : request ∈ call.requests
  fails : call.engine.Fails (request.assembled call.settings.preamble) failure
  keyed : ∃ version, call.engine.HasVersion version ∧
    Sha256.hexDigest (call.payloadAt version request) = key
  told : told = failure.inBlock (request.preambleLines call.settings.preamble)

/-- Whether a pass tells a failure: it returns and lists the failure, or it ends with it, in an error
that is not one of its engine. -/
inductive Reports (call : PassCall ε) (session : Session ε) (told : BlockFailure) : Prop
  | listed (result : PassResult) (returns : (call.run session).1 = .ok result)
      (mem : told ∈ result.failures)
  | raised (failures : List BlockFailure)
      (ends : (call.run session).1 = .error (.renderFailure failures))
      (own : ¬call.engine.Raises (.renderFailure failures))
      (mem : told ∈ failures)

/-- Whether a failure is that of a block of a pass, and has its origin in an engine that failed on a
block with the same digest in one of some passes. If the payload is the same too, so is what was
submitted, and the failure is told at the line of the document where it belongs. -/
def Accounts (call : PassCall ε) (calls : List (PassCall ε)) (told : BlockFailure) : Prop :=
  ∃ (fence : Fence) (marker : Text) (request : Request) (now : Text),
    fence.Asks call.settings call.registry call.source marker request ∧
    call.engine.HasVersion now ∧ told.location.document = call.name ∧
    ∃ other ∈ calls, ∃ block ∈ other.requests, ∃ (before : Text) (failure : Failure),
      other.engine.HasVersion before ∧
      other.engine.Fails (block.assembled other.settings.preamble) failure ∧
      told.diagnostic = failure.diagnostic ∧ told.kind = failure.kind ∧
      Sha256.hexDigest (other.payloadAt before block) =
        Sha256.hexDigest (call.payloadAt now request) ∧
      (other.payloadAt before block = call.payloadAt now request →
        block.assembled other.settings.preamble = request.assembled call.settings.preamble ∧
        ('\n' ∉ marker → fence.Marks call.settings.preamble request failure told.location.line))

end PassCall

/-- Whether a failure has its origin in one of some passes. -/
def Remembered (calls : List (PassCall ε)) (key : Text) (told : Failure) : Prop :=
  ∃ call ∈ calls, ∃ request failure, call.Origin request failure key told

/-- A pass among some tells failures with an origin in one of them. -/
theorem PassCall.tells {calls : List (PassCall ε)} {call : PassCall ε} {session : Session ε}
    (mem : call ∈ calls) (traced : session.Traced (Remembered calls)) :
    Pass.Tells call.schedule call.settings call.engine call.registry call.name call.source
      (Remembered calls) (call.run session).1 (call.run session).2 :=
  Pass.runWith_tells call.schedule (fun request asked version _ has fails =>
    ⟨call, mem, request, _, asked, fails, ⟨version, has, rfl⟩, rfl⟩) traced

namespace History

/-- Whether all failures that the caches of a history remember have an origin. -/
def Traced (origin : Text → Failure → Prop) (history : History ε) : Prop :=
  ∀ cache, (history.session cache).Traced origin

variable {calls : List (PassCall ε)} {history : History ε}

/-- Whatever happens, all failures that are remembered have an origin. -/
theorem Traced.next {act : Act ε} (h : history.Traced (Remembered calls)) (name : Text)
    (among : ∀ call, act.call? = some call → call ∈ calls) :
    (history.next name act).Traced (Remembered calls) := by
  intro cache
  cases act with
  | compile used call =>
    have after := (PassCall.tells (among call rfl) (h used)).traced
    by_cases same : cache = used
    · subst same
      rwa [session_compile_self]
    · rw [session_compile_of_ne name call same]
      exact h cache
  | «open» opened onDisk =>
    by_cases same : cache = opened
    · subst same
      rw [session_open_self]
      exact fun key failure found => absurd found (by simp [Cache.entry?, Cache.new])
    · rw [session_open_of_ne name onDisk same]
      exact h cache

/-- Along a run all failures that are remembered have an origin. -/
theorem Traced.run {acts : List (Act ε)} (name : Text)
    (among : ∀ call ∈ acts.filterMap Act.call?, call ∈ calls) :
    ∀ {history : History ε}, history.Traced (Remembered calls) →
      (history.run name acts).Traced (Remembered calls) := by
  induction acts with
  | nil => exact fun h => h
  | cons act acts ih =>
    intro history h
    refine ih (fun call mem => among call ?_) (h.next name fun call found => among call ?_)
    · rw [List.filterMap_cons]
      cases act.call? with
      | none => exact mem
      | some first => exact List.mem_cons_of_mem first mem
    · rw [List.filterMap_cons, found]
      exact List.mem_cons_self

end History

/-- Every pass of a history, with any engine and any of the caches, tells the failures of its blocks at
their lines: the lines that are submitted for a block are those of the document, each failure that is
told is accounted for by this pass or an earlier one, and a pass that returns tells every failure that
is remembered for one of its blocks. -/
theorem failure_lines_point_at_document (directory : Text) (rig : Rig ε) (acts : List (Act ε))
    (cache : Nat) (call : PassCall ε) :
    (∀ (fence : Fence) marker request,
      fence.Asks call.settings call.registry call.source marker request → '\n' ∉ marker →
        fence.KeepsLines call.source marker call.settings.preamble request) ∧
    (∀ told, call.Reports (((History.start rig).run directory acts).session cache) told →
      call.Accounts (call :: acts.filterMap Act.call?) told) ∧
    (Schedule.Complete call.schedule → ∀ result,
      (call.run (((History.start rig).run directory acts).session cache)).1 = .ok result →
        ∀ (fence : Fence) marker request,
          fence.Asks call.settings call.registry call.source marker request →
            ∃ now known, call.engine.HasVersion now ∧
              (call.run (((History.start rig).run directory acts).session cache)).2.cache.entry?
                (Sha256.hexDigest (call.payloadAt now request)) = some known ∧
              ∀ failure, known = .failure failure →
                Pass.locate call.name fence failure ∈ result.failures) := by
  have traced : ((History.start rig).run directory acts).Traced
      (Remembered (call :: acts.filterMap Act.call?)) :=
    History.Traced.run directory (fun other mem => List.mem_cons_of_mem call mem)
      fun cache key failure found => absurd found (by simp [History.session, History.start,
        Cache.entry?, Cache.new])
  have tells := PassCall.tells List.mem_cons_self (traced cache)
  refine ⟨fun fence marker request asks clean => asks.keepsLines clean _, fun told reports => ?_,
    tells.complete⟩
  have told_of : Pass.TellsOf call.settings call.engine call.registry call.name call.source
      (Remembered (call :: acts.filterMap Act.call?)) told := by
    cases reports with
    | listed result returns mem => exact tells.listed result returns told mem
    | raised failures ends own mem => exact tells.raised failures ends own told mem
  obtain ⟨fence, marker, request, now, failure, asks, has, ⟨other, among, block, raw, origin⟩, rfl⟩ :=
    told_of
  obtain ⟨asked, fails, ⟨before, had, keyed⟩, rfl⟩ := origin
  refine ⟨fence, marker, request, now, asks, has, rfl, other, among, block, asked, before, raw, had,
    fails, rfl, rfl, keyed, fun same => ?_⟩
  obtain ⟨-, -, -, rfl, preambles⟩ := Request.payloadBytes_inj same
  refine ⟨Request.assembled_eq preambles, fun clean => ?_⟩
  rw [Request.preambleLines_eq preambles]
  exact asks.marks clean call.name call.settings.preamble raw

/-- A pass over two indented blocks of the same two lines, with two lines above each, and an engine that
fails at the fourth line of everything. -/
def twiceFailing : PassCall Unit where
  schedule := Schedule.inOrder
  press := barePress
  settings := { Settings.default with preamble := "a\nb".toList }
  engine := Engine.pure "1".toList none fun _ => .failure ⟨"bad".toList, compileKind, some 4⟩
  version := "1".toList
  registry := Registry.typst
  name := "d.md".toList
  source := "  ```typ\n  x\n  y\n  ```\n\n\t```typ\n\tx\n\ty\n\t```\n".toList

/-- When the pass is repeated with its cache, nothing is submitted, and the failure of the second block
is told at its own second line. -/
theorem repeated_failure_at_second_line :
    (twiceFailing.run
      (((History.start bareRig).run [] [.compile 0 twiceFailing]).session 0)).2.rig.submitted.length =
        1 ∧
    twiceFailing.Reports (((History.start bareRig).run [] [.compile 0 twiceFailing]).session 0)
      ⟨⟨"d.md".toList, 8⟩, "bad".toList, compileKind⟩ ∧
    twiceFailing.Accounts [twiceFailing, twiceFailing]
      ⟨⟨"d.md".toList, 8⟩, "bad".toList, compileKind⟩ := by
  have told : (twiceFailing.run (((History.start bareRig).run []
      [.compile 0 twiceFailing]).session 0)).1.toOption.map PassResult.failures =
        some [⟨⟨"d.md".toList, 3⟩, "bad".toList, compileKind⟩,
          ⟨⟨"d.md".toList, 8⟩, "bad".toList, compileKind⟩] := by
    rw [PassCall.run, (Pass.runWith_eq_planned ..).2]
    decide +kernel
  have reports : twiceFailing.Reports
      (((History.start bareRig).run [] [.compile 0 twiceFailing]).session 0)
      ⟨⟨"d.md".toList, 8⟩, "bad".toList, compileKind⟩ := by
    generalize returned : (twiceFailing.run
      (((History.start bareRig).run [] [.compile 0 twiceFailing]).session 0)).1 = outcome at told
    cases outcome with
    | error error => exact absurd told (by simp [Except.toOption])
    | ok result =>
      refine .listed result returned ?_
      rw [Option.some.inj told]
      simp
  exact ⟨by decide +kernel, reports, (failure_lines_point_at_document [] bareRig
    [.compile 0 twiceFailing] 0 twiceFailing).2.1 _ reports⟩

end TypstFences
