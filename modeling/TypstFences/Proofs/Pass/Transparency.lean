import TypstFences.Proofs.Cache.Layers
import TypstFences.Proofs.Pass.Call

/-!
# Caches make no difference

Passes share caches, and caches share a directory. If every engine answers as one function of its
version, its root, the output format and the source, all sessions stay truthful along a history of
passes (`History.Truthful.next`), and each pass has the result that it would have alone, with a new
cache that keeps nothing on disk (`cached_pass_as_alone`), also when objects stand elsewhere then, if
its template does not show where.

The file system must admit the files of the artifacts: a pass that makes one with a very long format
succeeds alone, and ends in an error when the artifact is to be kept (`longFormat_not_transparent`).
-/

set_option autoImplicit false

namespace TypstFences

variable {ε : Type}

/-! ## Histories -/

/-- Caches by number, and the rig on which all passes run. -/
structure History (ε : Type) where
  caches : Nat → Cache
  rig : Rig ε

/-- What happens in a history: a pass with one of the caches, or a new cache in the place of one, on
the common directory or on none. -/
inductive Act (ε : Type) where
  | compile (cache : Nat) (call : PassCall ε)
  | open (cache : Nat) (onDisk : Bool)

/-- The pass that happens. -/
def Act.call? : Act ε → Option (PassCall ε)
  | .compile _ call => some call
  | .open _ _ => none

namespace History

/-- The session of a cache. -/
def session (history : History ε) (cache : Nat) : Session ε := ⟨history.caches cache, history.rig⟩

/-- The start of a history on a rig: all caches are new, and none uses the directory. -/
def start (rig : Rig ε) : History ε := ⟨fun _ => Cache.new none, rig⟩

/-- The history with one thing more, where `name` is the directory. -/
def next (name : Text) (history : History ε) : Act ε → History ε
  | .compile cache call =>
    let after := (call.run (history.session cache)).2
    ⟨Function.update history.caches cache after.cache, after.rig⟩
  | .open cache onDisk =>
    ⟨Function.update history.caches cache (Cache.new (if onDisk then some name else none)),
      history.rig⟩

/-- The history after some acts. -/
def run (name : Text) (acts : List (Act ε)) (history : History ε) : History ε :=
  acts.foldl (next name) history

/-- Whether the sessions of all caches are truthful about a directory. -/
def Truthful (value : Text → Option RenderResult) (tag : Text) (directory : Path)
    (history : History ε) : Prop :=
  ∀ cache, (history.session cache).Truthful value tag (some directory)

variable {answer : Answer} {calls : List (PassCall ε)} {name tag : Text} {history : History ε}
variable {value : Text → Option RenderResult}

/-- The session of the cache of a pass after it. -/
theorem session_compile_self (name : Text) (call : PassCall ε) (cache : Nat) :
    (history.next name (.compile cache call)).session cache = (call.run (history.session cache)).2 := by
  simp [session, next]

/-- The session of another cache after a pass. -/
theorem session_compile_of_ne {cache used : Nat} (name : Text) (call : PassCall ε)
    (differ : cache ≠ used) :
    (history.next name (.compile used call)).session cache =
      ⟨history.caches cache, (call.run (history.session used)).2.rig⟩ := by
  simp [session, next, differ]

/-- The session of a new cache. -/
theorem session_open_self (name : Text) (cache : Nat) (onDisk : Bool) :
    (history.next name (.open cache onDisk)).session cache =
      ⟨Cache.new (if onDisk then some name else none), history.rig⟩ := by
  simp [session, next]

/-- The session of another cache after one was opened. -/
theorem session_open_of_ne {cache opened : Nat} (name : Text) (onDisk : Bool)
    (differ : cache ≠ opened) :
    (history.next name (.open opened onDisk)).session cache = history.session cache := by
  simp [session, next, differ]

/-- A new cache on the directory or on none uses no other. -/
theorem uses_new (onDisk : Bool) (path : Path)
    (used : (Cache.new (if onDisk then some name else none)).directory = some path) :
    some (Path.ofText name) = some path := by
  cases onDisk with
  | false => exact absurd used (by simp [Cache.new])
  | true =>
    by_cases named : name = []
    · exact absurd used (by simp [Cache.new, Option.filter, named])
    · rw [← used]
      simp [Cache.new, Option.filter, named]

/-- A pass in a truthful history has the result that its text means, and leaves a truthful session. -/
theorem Truthful.compile {call : PassCall ε} (h : history.Truthful value tag (Path.ofText name))
    (proper : call.Proper answer) (leaves : call.engine.LeavesAlone (Path.ofText name))
    (storing : Storing value tag (some (Path.ofText name)))
    (known : ∀ request ∈ call.requests, value ((call.rendering answer).digest request) =
      some ((call.rendering answer).answer request)) (cache : Nat) :
    SameOutcome (call.run (history.session cache)).1 (call.meaning answer) ∧
      (call.run (history.session cache)).2.Truthful value tag (some (Path.ofText name)) := by
  obtain ⟨outcome, after, run, same, truthful⟩ := Pass.runWith_same_meaning proper.complete
    proper.noFailFast proper.answers (h cache)
    (fun path same => Option.some.inj same ▸ leaves) storing known
  unfold PassCall.run
  rw [run]
  exact ⟨same, truthful⟩

/-- A history stays truthful. -/
theorem Truthful.next {act : Act ε} (h : history.Truthful value tag (Path.ofText name))
    (storing : Storing value tag (some (Path.ofText name)))
    (proper : ∀ call, act.call? = some call → call.Proper answer ∧
      call.engine.LeavesAlone (Path.ofText name) ∧ ∀ request ∈ call.requests,
        value ((call.rendering answer).digest request) =
          some ((call.rendering answer).answer request)) :
    (history.next name act).Truthful value tag (Path.ofText name) := by
  intro cache
  cases act with
  | compile used call =>
    obtain ⟨proper, leaves, known⟩ := proper call rfl
    obtain ⟨-, after⟩ := h.compile proper leaves storing known used
    by_cases same : cache = used
    · subst same
      rwa [session_compile_self]
    · rw [session_compile_of_ne name call same]
      exact ⟨(h cache).memory, (h cache).uses, after.disk⟩
  | «open» opened onDisk =>
    by_cases same : cache = opened
    · subst same
      rw [session_open_self]
      exact Session.truthful_new rfl (uses_new onDisk) (h cache).disk
    · rw [session_open_of_ne name onDisk same]
      exact h cache

/-- A history stays truthful along a run. -/
theorem Truthful.run {acts : List (Act ε)} (storing : Storing value tag (some (Path.ofText name)))
    (proper : ∀ call ∈ acts.filterMap Act.call?, call.Proper answer ∧
      call.engine.LeavesAlone (Path.ofText name) ∧ ∀ request ∈ call.requests,
        value ((call.rendering answer).digest request) =
          some ((call.rendering answer).answer request)) :
    ∀ {history : History ε}, history.Truthful value tag (Path.ofText name) →
      (history.run name acts).Truthful value tag (Path.ofText name) := by
  induction acts with
  | nil => exact fun h => h
  | cons act acts ih =>
    intro history h
    refine ih (fun call mem => proper call ?_) (h.next storing fun call found => proper call ?_)
    · rw [List.filterMap_cons]
      cases act.call? with
      | none => exact mem
      | some first => exact List.mem_cons_of_mem first mem
    · rw [List.filterMap_cons, found]
      exact List.mem_cons_self

end History

/-- Every pass of a history, with any of the caches, has the result that it has alone with a new
cache that keeps nothing on disk, if the directory was empty at first and is left alone by the
engines, these answer in one way, the artifacts can be kept, the template of the pass shows no
places in memory, and the payloads that occur have different digests. -/
theorem cached_pass_as_alone (answer : Answer) (name : Text) (rig : Rig ε)
    (empty : Store.Holds (Path.ofText name) Store.emptyDisk rig.host) (acts : List (Act ε))
    (cache : Nat) (call : PassCall ε)
    (proper : ∀ other ∈ call :: acts.filterMap Act.call?, other.Proper answer)
    (leaves : ∀ other ∈ call :: acts.filterMap Act.call?, other.engine.LeavesAlone (Path.ofText name))
    (keepable : ∀ other ∈ call :: acts.filterMap Act.call?,
      other.Keepable answer (Path.ofText name) rig.host.tag)
    (noCollision : ∀ first ∈ call :: acts.filterMap Act.call?,
      ∀ second ∈ call :: acts.filterMap Act.call?, first.NoCollision second)
    (steady : call.settings.Steady) (schedule : List Nat → Schedule)
    (complete : Schedule.Complete schedule) (address : Nat → Nat → Template.Address) (alone : Rig ε) :
    SameOutcome (call.run (((History.start rig).run name acts).session cache)).1
      ((call.again schedule address).run ⟨Cache.new none, alone⟩).1 := by
  let calls := call :: acts.filterMap Act.call?
  let value := valueOf answer calls
  have known : ∀ other ∈ calls, ∀ request ∈ other.requests,
      value ((other.rendering answer).digest request) =
        some ((other.rendering answer).answer request) := fun other mem request asked =>
    valueOf_eq noCollision ⟨other, mem, request, asked, rfl, rfl⟩
  have storing : Storing value rig.host.tag (some (Path.ofText name)) := storing_valueOf keepable
  -- the history from its start to the pass
  have at_start : (History.start rig).Truthful value rig.host.tag (Path.ofText name) := by
    refine fun cache => Session.truthful_new rfl (fun path used => absurd used (by simp [History.start,
      Cache.new])) fun path same => ?_
    obtain rfl := Option.some.inj same
    exact ⟨rfl, _, empty, fun key artifact _ found => absurd found (by simp [Store.emptyDisk])⟩
  have there := History.Truthful.run storing (fun other mem =>
    ⟨proper other (List.mem_cons_of_mem call mem), leaves other (List.mem_cons_of_mem call mem),
      known other (List.mem_cons_of_mem call mem)⟩) at_start
  have first : call ∈ calls := List.mem_cons_self
  obtain ⟨shared, -⟩ := there.compile (proper call first) (leaves call first) storing
    (known call first) cache
  -- the pass alone
  have new := Session.TrueTo.new answer [call.again schedule address] alone
  have same := new.run_same_meaning
    ⟨complete, (proper call first).noFailFast, (proper call first).answers⟩
    (noCollision call first call first)
  rw [call.meaning_again steady] at same
  exact shared.trans same.symm

/-! ## One block on a bare host -/

/-- A document with one block. -/
def oneBlock : Text := "```typ\nx\n```\n".toList

/-- A pass over one block, with an engine that makes one artifact of everything. -/
def oneBlockCall (artifact : Artifact) : PassCall Unit := bareCall artifact oneBlock

/-- The one request of the block. -/
theorem oneBlockCall_requests (artifact : Artifact) :
    (oneBlockCall artifact).requests = [⟨"x\n".toList, true⟩] := by
  show Pass.requestsOf Settings.default Registry.typst "d.md".toList oneBlock = _
  decide +kernel

/-- The payload of the one request does not collide with itself. -/
theorem oneBlockCall_noCollision (artifact : Artifact) :
    (oneBlockCall artifact).NoCollision (oneBlockCall artifact) := by
  intro request mem request' mem' _
  rw [oneBlockCall_requests, List.mem_singleton] at mem mem'
  rw [mem, mem']

/-- A page that an earlier pass kept in the directory is found by a new cache, and the pass has the
result that it has alone. -/
theorem page_found_as_alone :
    SameOutcome
      ((oneBlockCall onePage).run (((History.start bareRig).run cacheName
        [.open 0 true, .compile 0 (oneBlockCall onePage), .open 1 true]).session 1)).1
      ((oneBlockCall onePage).run ⟨Cache.new none, bareRig⟩).1 := by
  refine cached_pass_as_alone (fun _ _ _ _ => .artifact onePage) cacheName bareRig bareRig_holds
    [.open 0 true, .compile 0 (oneBlockCall onePage), .open 1 true] 1 (oneBlockCall onePage)
    ?_ ?_ ?_ ?_ Settings.steady_default Schedule.inOrder Schedule.inOrder_complete barePress.address
    bareRig
  all_goals simp only [List.filterMap_cons, Act.call?, List.filterMap_nil, List.mem_cons,
    List.not_mem_nil, or_false, or_self, forall_eq]
  · exact bareCall_proper onePage oneBlock
  · exact bareCall_leaves onePage oneBlock (Path.ofText cacheName)
  · intro request mem artifact answered
    rw [oneBlockCall_requests, List.mem_singleton] at mem
    subst mem
    obtain rfl : onePage = artifact := RenderResult.artifact.inj answered
    exact ⟨onePage_isPlain, by decide +kernel⟩
  · exact oneBlockCall_noCollision onePage

/-- With an engine that makes pages in a format with a name of three hundred characters, a pass has
a result alone, and none with a cache that is to keep the pages. -/
theorem longFormat_not_transparent :
    Store.Holds (Path.ofText cacheName) Store.emptyDisk bareRig.host ∧
      (oneBlockCall longFormat).Proper (fun _ _ _ _ => .artifact longFormat) ∧
      (oneBlockCall longFormat).engine.LeavesAlone (Path.ofText cacheName) ∧
      longFormat.IsPlain ∧ (oneBlockCall longFormat).NoCollision (oneBlockCall longFormat) ∧
      ¬SameOutcome
        ((oneBlockCall longFormat).run (((History.start bareRig).run cacheName
          [.open 0 true]).session 0)).1
        ((oneBlockCall longFormat).run ⟨Cache.new none, bareRig⟩).1 := by
  refine ⟨bareRig_holds, bareCall_proper longFormat oneBlock,
    bareCall_leaves longFormat oneBlock _, ⟨by decide, by decide, by decide, by decide⟩,
    oneBlockCall_noCollision longFormat, fun same => ?_⟩
  have both : ∀ {first second : Except PassError PassResult}, SameOutcome first second →
      hasResult first = hasResult second := by
    rintro _ _ (_ | _) <;> rfl
  have kept : hasResult ((oneBlockCall longFormat).run (((History.start bareRig).run cacheName
      [.open 0 true]).session 0)).1 = false := by decide +kernel
  have alone : hasResult ((oneBlockCall longFormat).run ⟨Cache.new none, bareRig⟩).1 = true := by
    decide +kernel
  rw [both same, alone] at kept
  exact absurd kept (by decide)

end TypstFences
