import Mathlib.Data.Set.Card
import TypstFences.Cache.Basic
import TypstFences.Proofs.Association
import TypstFences.Proofs.Cache.Directory

/-!
# The cache as a map of two layers

What a cache with a directory remembers is one map, what lies in the directory is another, which
survives when a new cache is opened on the directory (`Layers`). One use of the cache answers as the
two maps do and leaves a cache for the maps after it (`Refines.result`, `Refines.reopen`); so does a
run of uses (`Refines.run`). Hence the answer at every point of a run is that of the two maps
(`session_answers_as_layers`).

An artifact of which the file system refuses the files is kept in neither layer, and asking for it
ends in the error of the file system (`longFormat_not_kept`).
-/

set_option autoImplicit false

namespace TypstFences

variable {ε : Type}

/-- Whether two rigs have done the same work: the engine is in the same state, and the same sources
were submitted to it. -/
def Rig.SameWork (rig other : Rig ε) : Prop :=
  rig.state = other.state ∧ rig.submitted = other.submitted

/-- What computes a result. -/
abbrev Computation (ε : Type) := Rig ε → Except PassError RenderResult × Rig ε

/-! ## Two maps -/

/-- The results remembered and the artifacts in the directory, and how often a result was found and
had to be computed since the cache was opened. -/
structure Layers where
  memory : Text → Option RenderResult
  disk : Text → Option Artifact
  hits : Nat
  misses : Nat

namespace Layers

/-- Nothing remembered and nothing in the directory. -/
def empty : Layers := ⟨fun _ => none, Store.emptyDisk, 0, 0⟩

/-- What is found for a key without a computation. -/
def known? (layers : Layers) (key : Text) : Option RenderResult :=
  (layers.memory key).or ((layers.disk key).map .artifact)

/-- The layers with a result remembered. -/
def remember (layers : Layers) (key : Text) (result : RenderResult) : Layers :=
  { layers with memory := Function.update layers.memory key (some result) }

/-- The layers with an artifact in the directory. -/
def keep (layers : Layers) (key : Text) (artifact : Artifact) : Layers :=
  { layers with disk := Function.update layers.disk key (some artifact) }

/-- The layers with one more result found. -/
def countHit (layers : Layers) : Layers := { layers with hits := layers.hits + 1 }

/-- The layers with one more result computed. -/
def countMiss (layers : Layers) : Layers := { layers with misses := layers.misses + 1 }

/-- What becomes of the outcome of a computation: an error leaves both layers alone, a failure goes
to memory, an artifact goes to both layers, unless the file system refuses it. -/
def store (refusal? : Text → Artifact → Option FileError) (key : Text)
    (outcome : Except PassError RenderResult) (layers : Layers) :
    Except PassError RenderResult × Layers :=
  match outcome with
  | .error error => (.error error, layers)
  | .ok (.failure failure) => (.ok (.failure failure), layers.remember key (.failure failure))
  | .ok (.artifact artifact) =>
    match refusal? key artifact with
    | none => (.ok (.artifact artifact), (layers.keep key artifact).remember key (.artifact artifact))
    | some error => (.error (.refusedFile error), layers)

/-- The answer for a key, given the outcome that a computation would have: what is remembered; else
what is in the directory, which is then remembered; else the outcome. -/
def get (refusal? : Text → Artifact → Option FileError) (key : Text)
    (outcome : Except PassError RenderResult) (layers : Layers) :
    Except PassError RenderResult × Layers :=
  match layers.memory key with
  | some result => (.ok result, layers.countHit)
  | none =>
    match layers.disk key with
    | some artifact => (.ok (.artifact artifact), layers.countHit.remember key (.artifact artifact))
    | none => layers.countMiss.store refusal? key outcome

/-- The layers after a new cache was opened: what was remembered is gone. -/
def reopen (layers : Layers) : Layers := ⟨fun _ => none, layers.disk, 0, 0⟩

variable {layers : Layers} {key other : Text} {refusal? : Text → Artifact → Option FileError}
variable {outcome : Except PassError RenderResult}

/-- An outcome that is stored under a key changes nothing for another key. -/
theorem store_other (differ : other ≠ key) :
    (layers.store refusal? key outcome).2.memory other = layers.memory other ∧
      (layers.store refusal? key outcome).2.disk other = layers.disk other := by
  rcases outcome with error | artifact | failure
  · exact ⟨rfl, rfl⟩
  · rw [store]
    cases refusal? key artifact with
    | none => exact ⟨Function.update_of_ne differ _ _, Function.update_of_ne differ _ _⟩
    | some error => exact ⟨rfl, rfl⟩
  · exact ⟨Function.update_of_ne differ _ _, rfl⟩

/-- An answer for a key changes nothing for another key. -/
theorem get_other (refusal? : Text → Artifact → Option FileError)
    (outcome : Except PassError RenderResult) (differ : other ≠ key) :
    (layers.get refusal? key outcome).2.memory other = layers.memory other ∧
      (layers.get refusal? key outcome).2.disk other = layers.disk other := by
  unfold get
  split
  · exact ⟨rfl, rfl⟩
  · split
    · exact ⟨Function.update_of_ne differ _ _, rfl⟩
    · exact layers.countMiss.store_other differ

/-- An answer depends on what both layers have for the key. -/
theorem get_fst_congr {others : Layers} (memory : layers.memory key = others.memory key)
    (disk : layers.disk key = others.disk key) :
    (layers.get refusal? key outcome).1 = (others.get refusal? key outcome).1 := by
  rw [get, get, memory, disk]
  split
  · rfl
  · split
    · rfl
    · rcases outcome with error | artifact | failure
      · rfl
      · rw [store, store]
        cases refusal? key artifact <;> rfl
      · rfl

/-- What is stored does not count. -/
theorem store_counts : (layers.store refusal? key outcome).2.hits = layers.hits ∧
    (layers.store refusal? key outcome).2.misses = layers.misses := by
  rcases outcome with error | artifact | failure
  · exact ⟨rfl, rfl⟩
  · rw [store]
    cases refusal? key artifact <;> exact ⟨rfl, rfl⟩
  · exact ⟨rfl, rfl⟩

/-- Every answer counts once. -/
theorem get_counts : (layers.get refusal? key outcome).2.hits +
    (layers.get refusal? key outcome).2.misses = layers.hits + layers.misses + 1 := by
  unfold get
  split
  · simp only [countHit]
    omega
  · split
    · simp only [countHit, remember]
      omega
    · rw [store_counts.1, store_counts.2]
      simp only [countMiss]
      omega

end Layers

/-! ## Uses of a cache -/

/-- One use of the cache of a directory: a result is asked for, or a new cache is opened. -/
inductive CacheUse (ε : Type) where
  | get (key : Text) (computation : Computation ε)
  | reopen

/-- Whether a computation makes artifacts that can be read back, and leaves a directory alone. -/
structure Computation.Fair (directory : Path) (computation : Computation ε) : Prop where
  plain : ∀ rig artifact, (computation rig).1 = .ok (.artifact artifact) → artifact.IsPlain
  leaves : ∀ rig, Store.Untouched directory rig.host (computation rig).2.host

namespace CacheUse

/-- Whether a use is one of a key and a fair computation. -/
def Fair (directory : Path) : CacheUse ε → Prop
  | .get key computation => Store.IsKey key ∧ computation.Fair directory
  | .reopen => True

/-- The session after a use of the cache of the directory called `name`. -/
def next (name : Text) (session : Session ε) : CacheUse ε → Session ε
  | .get key computation => (session.result key computation).2
  | .reopen => { session with cache := Cache.new (some name) }

/-- The session after uses. -/
def run (name : Text) (uses : List (CacheUse ε)) (session : Session ε) : Session ε :=
  uses.foldl (next name) session

/-- The layers after a use in a session; the outcome of a computation is the one it has there. -/
def nextLayers (refusal? : Text → Artifact → Option FileError) (session : Session ε)
    (layers : Layers) : CacheUse ε → Layers
  | .get key computation => (layers.get refusal? key (computation session.rig).1).2
  | .reopen => layers.reopen

/-- The layers after uses. -/
def runLayers (refusal? : Text → Artifact → Option FileError) (name : Text) :
    List (CacheUse ε) → Session ε → Layers → Layers
  | [], _, layers => layers
  | use :: uses, session, layers =>
    runLayers refusal? name uses (use.next name session) (use.nextLayers refusal? session layers)

/-- The number of results asked for since the cache was opened, after a use. -/
def countLookup (count : Nat) : CacheUse ε → Nat
  | .get _ _ => count + 1
  | .reopen => 0

/-- The number of results asked for since the cache was opened, after uses. -/
def lookups (uses : List (CacheUse ε)) : Nat := uses.foldl countLookup 0

/-- The counts of the layers are the number of results asked for. -/
theorem runLayers_counts {refusal? : Text → Artifact → Option FileError} {name : Text}
    (uses : List (CacheUse ε)) :
    ∀ (session : Session ε) (layers : Layers),
      (runLayers refusal? name uses session layers).hits +
        (runLayers refusal? name uses session layers).misses =
          uses.foldl countLookup (layers.hits + layers.misses) := by
  induction uses with
  | nil => exact fun _ _ => rfl
  | cons use uses ih =>
    intro session layers
    unfold runLayers
    rw [ih, List.foldl_cons]
    cases use with
    | get key computation => rw [nextLayers, Layers.get_counts, countLookup]
    | reopen => rfl

end CacheUse

/-! ## The refinement -/

/-- Whether a session goes with layers: its cache remembers what memory has, its directory holds
what the disk has, and the counts are the same. -/
structure Refines (directory : Path) (tag : Text) (layers : Layers) (session : Session ε) : Prop where
  directory_eq : session.cache.directory = some directory
  memory : ∀ key, session.cache.entry? key = layers.memory key
  distinct : (session.cache.entries.map Prod.fst).Nodup
  disk : Store.Holds directory layers.disk session.rig.host
  hits : session.cache.hits = layers.hits
  misses : session.cache.misses = layers.misses
  tag_eq : session.rig.host.tag = tag

namespace Refines

variable {directory : Path} {tag key : Text} {layers : Layers} {session : Session ε}
variable {computation : Computation ε}

/-- A result that is remembered in a session goes to memory. -/
theorem remember (h : Refines directory tag layers session) (result : RenderResult)
    (absent : layers.memory key = none) :
    Refines directory tag (layers.remember key result) (session.remember key result) where
  directory_eq := h.directory_eq
  memory := by
    intro other
    show (session.cache.entries ++ [(key, result)]).lookup other =
      Function.update layers.memory key (some result) other
    rw [lookup_concat result ((h.memory key).trans absent), Function.update_apply, ← h.memory]
    rfl
  distinct := nodup_concat result h.distinct ((h.memory key).trans absent)
  disk := h.disk
  hits := h.hits
  misses := h.misses
  tag_eq := h.tag_eq

/-- What a computed outcome comes to. -/
theorem compute (h : Refines directory tag layers session) (hk : Store.IsKey key)
    (fair : computation.Fair directory) (not_remembered : layers.memory key = none)
    (not_kept : layers.disk key = none) :
    (session.compute key computation).1 =
        (layers.countMiss.store (Store.refusal? directory tag) key (computation session.rig).1).1 ∧
      Refines directory tag
        (layers.countMiss.store (Store.refusal? directory tag) key (computation session.rig).1).2
        (session.compute key computation).2 ∧
      (session.compute key computation).2.rig.SameWork (computation session.rig).2 := by
  have leaves := (fair.leaves session.rig).holds _ h.disk
  have tag_eq := (fair.leaves session.rig).tag.trans h.tag_eq
  have plain := fair.plain session.rig
  unfold Session.compute
  generalize computation session.rig = done at leaves tag_eq plain ⊢
  obtain ⟨outcome, rig⟩ := done
  -- the session when the computation has ended and nothing is stored yet
  have counted : Refines directory tag layers.countMiss ⟨session.cache.countMiss, rig⟩ :=
    ⟨h.directory_eq, h.memory, h.distinct, leaves, h.hits, congrArg (· + 1) h.misses, tag_eq⟩
  rcases outcome with error | artifact | failure
  · exact ⟨rfl, counted, rfl, rfl⟩
  · have plain := plain artifact rfl
    have saving : session.cache.countMiss.save key artifact rig.host =
        Store.save directory key artifact rig.host := by
      unfold Cache.save
      rw [show session.cache.countMiss.directory = some directory from h.directory_eq]
    simp only [Session.keep, saving, Layers.store]
    cases refused : Store.refusal? directory tag key artifact with
    | none =>
      rw [← tag_eq] at refused
      obtain ⟨files, saved, holds⟩ := Store.save_eq leaves hk plain not_kept refused
      rw [saved]
      have kept : Refines directory tag (layers.countMiss.keep key artifact)
          ⟨session.cache.countMiss, { rig with host := rig.host.withFiles files }⟩ :=
        ⟨h.directory_eq, h.memory, h.distinct, holds, h.hits, congrArg (· + 1) h.misses, tag_eq⟩
      exact ⟨rfl, kept.remember _ not_remembered, rfl, rfl⟩
    | some error =>
      rw [← tag_eq] at refused
      obtain ⟨files, saved, holds⟩ := Store.save_refused leaves hk plain refused
      rw [saved]
      exact ⟨rfl, ⟨h.directory_eq, h.memory, h.distinct, holds, h.hits, congrArg (· + 1) h.misses,
        tag_eq⟩, rfl, rfl⟩
  · exact ⟨rfl, counted.remember _ not_remembered, rfl, rfl⟩

/-- What asking for a result comes to: the answer of the layers, and a session that goes with the
layers after it. The computation has run if neither layer knows the key, else nothing has. -/
theorem result (h : Refines directory tag layers session) (hk : Store.IsKey key)
    (fair : computation.Fair directory) :
    (session.result key computation).1 =
        (layers.get (Store.refusal? directory tag) key (computation session.rig).1).1 ∧
      Refines directory tag
        (layers.get (Store.refusal? directory tag) key (computation session.rig).1).2
        (session.result key computation).2 ∧
      (session.result key computation).2.rig.SameWork
        (if (layers.known? key).isSome then session.rig else (computation session.rig).2) := by
  unfold Session.result
  rw [h.memory, Layers.get, Layers.known?]
  cases remembered : layers.memory key with
  | some result =>
    exact ⟨rfl, ⟨h.directory_eq, h.memory, h.distinct, h.disk, congrArg (· + 1) h.hits, h.misses,
      h.tag_eq⟩, rfl, rfl⟩
  | none =>
    have loading : session.cache.load key session.rig.host =
        Store.load directory key session.rig.host := by
      unfold Cache.load
      rw [h.directory_eq]
    simp only [loading]
    cases kept : layers.disk key with
    | some artifact =>
      obtain ⟨message, loaded⟩ := Store.load_some h.disk kept
      rw [loaded]
      have noted : Refines directory tag layers.countHit
          ⟨session.cache.countHit, { session.rig with host := session.rig.host.note 3 message }⟩ :=
        ⟨h.directory_eq, h.memory, h.distinct, h.disk, congrArg (· + 1) h.hits,
          h.misses, h.tag_eq⟩
      exact ⟨rfl, noted.remember _ remembered, rfl, rfl⟩
    | none =>
      rw [Store.load_none h.disk hk kept]
      exact h.compute hk fair remembered kept

/-- A new cache on the directory goes with layers of which the memory is gone. -/
theorem reopen {name : Text} (h : Refines (Path.ofText name) tag layers session) (named : name ≠ []) :
    Refines (Path.ofText name) tag layers.reopen { session with cache := Cache.new (some name) } where
  directory_eq := by simp [Cache.new, Option.filter, named]
  memory := fun _ => rfl
  distinct := List.nodup_nil
  disk := h.disk
  hits := rfl
  misses := rfl
  tag_eq := h.tag_eq

/-- A session goes with the layers along a run of uses. -/
theorem run {name : Text} (named : name ≠ []) {uses : List (CacheUse ε)}
    (fair : ∀ use ∈ uses, use.Fair (Path.ofText name)) :
    ∀ {session : Session ε} {layers : Layers}, Refines (Path.ofText name) tag layers session →
      Refines (Path.ofText name) tag
        (CacheUse.runLayers (Store.refusal? (Path.ofText name) tag) name uses session layers)
        (CacheUse.run name uses session) := by
  induction uses with
  | nil => exact fun h => h
  | cons use uses ih =>
    intro session layers h
    have first := fair use (by simp)
    apply ih (fun other mem => fair other (List.mem_cons_of_mem use mem))
    cases use with
    | get key computation => exact (h.result first.1 first.2).2.1
    | reopen => exact h.reopen named

/-- The results that are remembered are as many as the keys that memory has. -/
theorem length_entries (h : Refines directory tag layers session) :
    session.cache.entries.length = Set.ncard {key | layers.memory key ≠ none} := by
  have keys : {key | layers.memory key ≠ none} =
      ((session.cache.entries.map Prod.fst).toFinset : Set Text) := by
    ext key
    rw [Set.mem_ofPred_eq, List.coe_toFinset, Set.mem_ofPred_eq, ← h.memory, Cache.entry?]
    constructor
    · intro present
      obtain ⟨result, found⟩ := Option.ne_none_iff_exists'.mp present
      exact List.mem_map_of_mem (mem_of_lookup found)
    · exact fun mem absent => notMem_of_lookup_eq_none absent mem
  rw [keys, Set.ncard_coe_finset, List.toFinset_card_of_nodup h.distinct, List.length_map]

end Refines

/-- How a session answers for a key, seen from layers: with their answer, and without running the
computation if one of them knows the key. -/
structure AnswersAs (refusal? : Text → Artifact → Option FileError) (layers : Layers)
    (session : Session ε) (key : Text) (computation : Computation ε) : Prop where
  answer : (session.result key computation).1 =
    (layers.get refusal? key (computation session.rig).1).1
  known : layers.known? key ≠ none →
    (session.result key computation).2.rig.SameWork session.rig
  unknown : layers.known? key = none →
    (session.result key computation).2.rig.SameWork (computation session.rig).2

/-- At every point of a run of uses of a cache on a directory that is empty at first, the cache
answers for every key as the two layers do. It remembers as many results as there are keys in
memory, counts what the layers count, every result asked for once, and an answer for a key does not
change the answer for another. -/
theorem session_answers_as_layers (name : Text) (named : name ≠ []) (rig : Rig ε)
    (empty : Store.Holds (Path.ofText name) Store.emptyDisk rig.host) (uses : List (CacheUse ε))
    (fair_uses : ∀ use ∈ uses, use.Fair (Path.ofText name)) (key : Text) (hk : Store.IsKey key)
    (computation : Computation ε) (fair : computation.Fair (Path.ofText name)) :
    let refusal? := Store.refusal? (Path.ofText name) rig.host.tag
    let session := CacheUse.run name uses ⟨Cache.new (some name), rig⟩
    let layers := CacheUse.runLayers refusal? name uses ⟨Cache.new (some name), rig⟩ Layers.empty
    AnswersAs refusal? layers session key computation ∧
      session.cache.entries.length = Set.ncard {key | layers.memory key ≠ none} ∧
      session.cache.hits = layers.hits ∧ session.cache.misses = layers.misses ∧
      session.cache.hits + session.cache.misses = CacheUse.lookups uses ∧
      ∀ other, other ≠ key → Store.IsKey other → ∀ question : Computation ε,
        question.Fair (Path.ofText name) →
        (question (session.result key computation).2.rig).1 = (question session.rig).1 →
          ((session.result key computation).2.result other question).1 =
            (session.result other question).1 := by
  intro refusal? session layers
  have start : Refines (Path.ofText name) rig.host.tag Layers.empty
      (⟨Cache.new (some name), rig⟩ : Session ε) :=
    ⟨by simp [Cache.new, Option.filter, named], fun _ => rfl, List.nodup_nil, empty, rfl, rfl, rfl⟩
  have there : Refines (Path.ofText name) rig.host.tag layers session := start.run named fair_uses
  obtain ⟨answer, after, work⟩ := there.result hk fair
  refine ⟨⟨answer, fun known => ?_, fun unknown => ?_⟩, there.length_entries, there.hits, there.misses,
    ?_, ?_⟩
  · rwa [if_pos (Option.isSome_iff_ne_none.mpr known)] at work
  · rwa [if_neg (by simp [unknown])] at work
  · rw [there.hits, there.misses]
    exact CacheUse.runLayers_counts uses _ _
  · intro other differ other_key question question_fair same_outcome
    obtain ⟨memory, disk⟩ := layers.get_other refusal? (computation session.rig).1 differ
    rw [(after.result other_key question_fair).1, (there.result other_key question_fair).1,
      same_outcome]
    exact Layers.get_fst_congr memory disk

/-! ## On a bare host -/

/-- A computation that has one outcome and leaves everything alone. -/
def Computation.always (outcome : Except PassError RenderResult) : Computation ε :=
  fun rig => (outcome, rig)

/-- A computation with one outcome is fair, if an artifact that it makes can be read back. -/
theorem Computation.always_fair {directory : Path} {outcome : Except PassError RenderResult}
    (plain : ∀ artifact, outcome = .ok (.artifact artifact) → artifact.IsPlain) :
    (Computation.always outcome : Computation ε).Fair directory :=
  ⟨fun _ artifact h => plain artifact h, fun _ => ⟨fun _ h => h, rfl⟩⟩

/-- A rig on a host without files. -/
def bareRig : Rig Unit := ⟨(), [], ⟨FileTree.empty, [], [], ['1'], []⟩⟩

/-- A name for the directory of a cache. -/
def cacheName : Text := "cache".toList

/-- A missing directory at the root holds no artifact. -/
theorem bareRig_holds : Store.Holds (Path.ofText cacheName) Store.emptyDisk bareRig.host := by
  refine .inr ⟨rfl, by decide, ⟨[([cacheName], .directory)]⟩, [cacheName], by decide, ?_, ?_⟩
  · exact fun key artifact found => absurd found (by simp [Store.emptyDisk])
  · refine ⟨fun _ => none, ⟨by decide, by decide, fun name => ?_⟩, fun name bytes => ?_⟩
    · simp [FileTree.node?]
    · simp [Store.IsPage, Store.emptyDisk]

/-- A key. -/
def someKey : Text := List.replicate 64 'a'

/-- A key it is. -/
theorem someKey_isKey : Store.IsKey someKey where
  length := by decide
  digits c mem := by
    rw [List.eq_of_mem_replicate mem]
    decide

/-- A page in a format with a usual name. -/
def onePage : Artifact := ⟨[[7]], "svg".toList⟩

/-- The artifact of a page can be read back. -/
theorem onePage_isPlain : onePage.IsPlain := ⟨by decide, by decide, by decide, by decide⟩

/-- An artifact that was made before a new cache was opened is found, and the computation that would
fail is not asked. -/
theorem artifact_found_after_reopening :
    ((CacheUse.run cacheName
      [.get someKey (Computation.always (.ok (.artifact onePage))), .reopen]
      ⟨Cache.new (some cacheName), bareRig⟩).result someKey
        (Computation.always (.error .unreadableLine))).1 =
        .ok (.artifact onePage) := by
  have fair_make : (Computation.always (.ok (.artifact onePage)) : Computation Unit).Fair
      (Path.ofText cacheName) := Computation.always_fair fun artifact same => by
    obtain rfl := RenderResult.artifact.inj (Except.ok.inj same)
    exact onePage_isPlain
  have fair_fail : (Computation.always (.error .unreadableLine) : Computation Unit).Fair
      (Path.ofText cacheName) := Computation.always_fair fun artifact same => absurd same (by simp)
  have answer := (session_answers_as_layers cacheName (by decide) bareRig bareRig_holds
    [.get someKey (Computation.always (.ok (.artifact onePage))), .reopen]
    (by simp [CacheUse.Fair, someKey_isKey, fair_make]) someKey someKey_isKey
    (Computation.always (.error .unreadableLine)) fair_fail).1.answer
  rw [answer]
  decide +kernel

/-- A page in a format with a name of three hundred characters. -/
def longFormat : Artifact := ⟨[[7]], List.replicate 300 'x'⟩

/-- Without regard to the file system an artifact would be the answer for its key and go to both
layers. One in a format with a very long name is not: the answer is the error of the file system,
and nothing is remembered. -/
theorem longFormat_not_kept :
    Store.IsKey someKey ∧ longFormat.IsPlain ∧
      ((⟨Cache.new (some cacheName), bareRig⟩ : Session Unit).result someKey
        (Computation.always (.ok (.artifact longFormat)))).1 ≠
          (Layers.empty.get (fun _ _ => none) someKey (.ok (.artifact longFormat))).1 ∧
      ((⟨Cache.new (some cacheName), bareRig⟩ : Session Unit).result someKey
        (Computation.always (.ok (.artifact longFormat)))).2.cache.entry? someKey = none := by
  refine ⟨someKey_isKey, ⟨by decide, by decide, by decide, by decide⟩, ?_, ?_⟩ <;> decide +kernel

end TypstFences
