import TypstFences.Proofs.Cache.Callers
import TypstFences.Proofs.Cache.Layers

/-!
# One owner for a key

However many callers ask a cache at the same time, at most one of them is at work on a key, and at most
one ever publishes a result for it; all who return a result for the key return this one (`single_flight`).
The invariant is that the entries are those of the owners at work and of those that have published a
result (`Consistent`). When an owner has removed its entry and not yet told its waiters of the error,
another may be at work on the key: the waiters still hear of the first one, since it was that one's
outcome they found (`third_caller_in_between`).
-/

set_option autoImplicit false

namespace TypstFences

variable {ε κ : Type} {keys : κ → Text} {shared after : SharedCache ε κ} {caller : κ}

/-- Whether the entries are those of the owners at work and of those that have published a result, and
whoever waits or has waited found the entry of an owner for its own key. -/
structure Consistent (keys : κ → Text) (shared : SharedCache ε κ) : Prop where
  entry : ∀ key caller, shared.owners.lookup key = some caller ↔
    keys caller = key ∧ (shared.stage caller).holds = true
  distinct : (shared.owners.map Prod.fst).Nodup
  waiting : ∀ caller owner, shared.stage caller = .waiting owner →
    keys owner = keys caller ∧ (shared.stage owner).owns = true
  received : ∀ caller owner outcome, shared.stage caller = .received owner outcome →
    keys owner = keys caller ∧ shared.stage owner = .finished outcome

namespace Consistent

/-- A new cache is consistent. -/
theorem new (keys : κ → Text) (directory : Option Text) (rig : Rig ε) :
    Consistent keys (SharedCache.new directory rig) where
  entry key caller := by simp [SharedCache.new, Stage.holds, Stage.works, Stage.published?]
  distinct := List.nodup_nil
  waiting caller owner waits := absurd waits (by simp [SharedCache.new])
  received caller owner outcome received := absurd received (by simp [SharedCache.new])

/-- The owner for a key is the only one with an entry. -/
theorem unique (h : Consistent keys shared) {other : κ} (same : keys caller = keys other)
    (holds : (shared.stage caller).holds = true) (holds' : (shared.stage other).holds = true) :
    caller = other := by
  have found := (h.entry (keys other) caller).mpr ⟨same, holds⟩
  have found' := (h.entry (keys other) other).mpr ⟨rfl, holds'⟩
  exact Option.some.inj (found.symm.trans found')

/-- A result that was returned is that of an owner for the key, and the entry is that owner's. -/
theorem owner_of_returned (h : Consistent keys shared) {result : RenderResult}
    (returned : (shared.stage caller).outcome? = some (.ok result)) :
    ∃ owner, shared.stage owner = .finished (.ok result) ∧
      shared.owners.lookup (keys caller) = some owner := by
  have entry_of {owner : κ} (same : keys owner = keys caller)
      (finished : shared.stage owner = .finished (.ok result)) :
      shared.owners.lookup (keys caller) = some owner :=
    (h.entry (keys caller) owner).mpr ⟨same, by rw [finished]; rfl⟩
  cases here : shared.stage caller with
  | finished outcome =>
    rw [here] at returned
    obtain rfl : outcome = .ok result := Option.some.inj returned
    exact ⟨caller, here, entry_of rfl here⟩
  | received owner outcome =>
    rw [here] at returned
    obtain rfl : outcome = .ok result := Option.some.inj returned
    obtain ⟨same, finished⟩ := h.received caller owner _ here
    exact ⟨owner, finished, entry_of same finished⟩
  | _ =>
    rw [here] at returned
    exact absurd returned (by simp [Stage.outcome?])

variable [DecidableEq κ]

/-! ## What a step keeps -/

/-- What is to be shown of a step: that the entries are right after it, that an owner remains one, and
that the caller that moved waits for an owner or has received what one has published, if it does. -/
theorem update (h : Consistent keys shared) {stage : Stage κ}
    (stage_eq : after.stage = Function.update shared.stage caller stage)
    (active : (shared.stage caller).outcome? = none)
    (owns : (shared.stage caller).owns = true → stage.owns = true)
    (waits : ∀ owner, stage = .waiting owner →
      keys owner = keys caller ∧ (shared.stage owner).owns = true)
    (receives : ∀ owner outcome, stage = .received owner outcome →
      keys owner = keys caller ∧ shared.stage owner = .finished outcome)
    (entry : ∀ key other, after.owners.lookup key = some other ↔
      keys other = key ∧ (after.stage other).holds = true)
    (distinct : (after.owners.map Prod.fst).Nodup) : Consistent keys after := by
  have owns_after {owner : κ} (owned : (shared.stage owner).owns = true) :
      (after.stage owner).owns = true := by
    rw [stage_eq]
    by_cases same : owner = caller
    · rw [same, Function.update_self]
      exact owns (same ▸ owned)
    · rwa [Function.update_of_ne same]
  have finished_after {owner : κ} {outcome : Except PassError RenderResult}
      (finished : shared.stage owner = .finished outcome) : after.stage owner = .finished outcome := by
    have differ : owner ≠ caller := by
      rintro rfl
      exact absurd active (by rw [finished]; simp [Stage.outcome?])
    rwa [stage_eq, Function.update_of_ne differ]
  refine ⟨entry, distinct, ?_, ?_⟩
  · intro other owner waiting
    rw [stage_eq] at waiting
    by_cases same : other = caller
    · subst same
      obtain ⟨key_eq, owned⟩ := waits owner (by rwa [Function.update_self] at waiting)
      exact ⟨key_eq, owns_after owned⟩
    · obtain ⟨key_eq, owned⟩ := h.waiting other owner (by rwa [Function.update_of_ne same] at waiting)
      exact ⟨key_eq, owns_after owned⟩
  · intro other owner outcome received
    rw [stage_eq] at received
    by_cases same : other = caller
    · subst same
      obtain ⟨key_eq, finished⟩ := receives owner outcome (by rwa [Function.update_self] at received)
      exact ⟨key_eq, finished_after finished⟩
    · obtain ⟨key_eq, finished⟩ :=
        h.received other owner outcome (by rwa [Function.update_of_ne same] at received)
      exact ⟨key_eq, finished_after finished⟩

/-- The entries are right after a step that leaves them alone, if the caller has one as before. -/
theorem entry_of_same (h : Consistent keys shared) {stage : Stage κ}
    (stage_eq : after.stage = Function.update shared.stage caller stage)
    (owners_eq : after.owners = shared.owners) (holds : stage.holds = (shared.stage caller).holds)
    (key : Text) (other : κ) :
    after.owners.lookup key = some other ↔
      keys other = key ∧ (after.stage other).holds = true := by
  rw [owners_eq, h.entry, stage_eq]
  by_cases same : other = caller
  · rw [same, Function.update_self, holds]
  · rw [Function.update_of_ne same]

/-- An owner at work that goes on. -/
theorem work (h : Consistent keys shared) {stage : Stage κ}
    (stage_eq : after.stage = Function.update shared.stage caller stage)
    (owners_eq : after.owners = shared.owners) (works : (shared.stage caller).works = true)
    (holds : stage.holds = true) : Consistent keys after := by
  have here : (shared.stage caller).holds = true := by rw [Stage.holds, works, Bool.true_or]
  have owns := Stage.owns_of_holds holds
  refine h.update stage_eq (Stage.outcome?_of_works works) (fun _ => owns) ?_ ?_
    (h.entry_of_same stage_eq owners_eq (holds.trans here.symm)) (owners_eq ▸ h.distinct)
  · rintro owner rfl
    exact absurd owns (by simp [Stage.owns])
  · rintro owner outcome rfl
    exact absurd owns (by simp [Stage.owns])

/-- A caller that finds no entry makes one of its own. -/
theorem install (h : Consistent keys shared) (asks : shared.stage caller = .asking)
    (absent : shared.owners.lookup (keys caller) = none) :
    Consistent keys ((shared.enter (keys caller) caller).move caller .loading) := by
  -- nobody else has an entry for this key, or it would have been found
  have nobody : ∀ other, keys other = keys caller → (shared.stage other).holds = false := by
    intro other same
    cases holds : (shared.stage other).holds with
    | false => rfl
    | true =>
      have found := (h.entry (keys caller) other).mpr ⟨same, holds⟩
      exact absurd (absent.symm.trans found) (by simp)
  refine h.update rfl (by rw [asks]; rfl) (by rw [asks]; simp [Stage.owns]) (by simp) (by simp) ?_
    (nodup_concat caller h.distinct absent)
  intro key other
  rw [SharedCache.owners_move, SharedCache.lookup_enter shared _ caller absent,
    SharedCache.stage_move, SharedCache.stage_enter]
  by_cases key_eq : key = keys caller
  · rw [if_pos key_eq, key_eq]
    by_cases same : other = caller
    · simp [same, Stage.holds, Stage.works]
    · rw [Function.update_of_ne same]
      constructor
      · exact fun found => absurd (Option.some.inj found).symm same
      · rintro ⟨keys_eq, holds⟩
        exact absurd holds (by simp [nobody other keys_eq])
  · rw [if_neg key_eq, h.entry]
    by_cases same : other = caller
    · simp [same, Ne.symm key_eq]
    · rw [Function.update_of_ne same]

/-- A caller that finds an entry waits for its owner. -/
theorem join (h : Consistent keys shared) {owner : κ} (asks : shared.stage caller = .asking)
    (found : shared.owners.lookup (keys caller) = some owner) :
    Consistent keys (shared.countHit.move caller (.waiting owner)) := by
  obtain ⟨key_eq, holds⟩ := (h.entry (keys caller) owner).mp found
  refine h.update rfl (by rw [asks]; rfl) (by rw [asks]; simp [Stage.owns]) ?_ (by simp)
    (h.entry_of_same rfl rfl (by rw [asks]; rfl)) h.distinct
  rintro other same
  obtain rfl := Stage.waiting.inj same
  exact ⟨key_eq, Stage.owns_of_holds holds⟩

/-- An owner that failed removes an entry: its own, so that none is left for its key. -/
theorem remove (h : Consistent keys shared) {error : PassError}
    (failed : shared.stage caller = .failing error) :
    Consistent keys ((shared.leave (keys caller)).move caller (.removed error)) := by
  have holds : (shared.stage caller).holds = true := by rw [failed]; rfl
  refine h.update rfl (by rw [failed]; rfl) (fun _ => rfl) (by simp) (by simp) ?_
    (h.distinct.sublist (List.filter_sublist.map Prod.fst))
  intro key other
  rw [SharedCache.owners_move, SharedCache.lookup_leave, SharedCache.stage_move,
    SharedCache.stage_leave]
  by_cases key_eq : key = keys caller
  · rw [if_pos key_eq, key_eq]
    by_cases same : other = caller
    · simp [same, Stage.holds, Stage.works, Stage.published?]
    · rw [Function.update_of_ne same]
      constructor
      · exact fun found => absurd found (by simp)
      · rintro ⟨keys_eq, holds'⟩
        exact absurd (h.unique keys_eq holds' holds) same
  · rw [if_neg key_eq, h.entry]
    by_cases same : other = caller
    · simp [same, Ne.symm key_eq]
    · rw [Function.update_of_ne same]

/-- A caller that had no entry and gets none, when it is done. -/
theorem done (h : Consistent keys shared) {stage : Stage κ}
    (active : (shared.stage caller).outcome? = none) (holds : (shared.stage caller).holds = false)
    (holds' : stage.holds = false) (owns : (shared.stage caller).owns = true → stage.owns = true)
    (waits : ∀ owner, stage ≠ .waiting owner)
    (receives : ∀ owner outcome, stage = .received owner outcome →
      keys owner = keys caller ∧ shared.stage owner = .finished outcome) :
    Consistent keys (shared.move caller stage) :=
  h.update rfl active owns (fun owner same => absurd same (waits owner)) receives
    (h.entry_of_same rfl rfl (holds'.trans holds.symm)) h.distinct

/-- A step of any caller keeps a cache consistent. -/
theorem step (h : Consistent keys shared) (step : Step keys shared caller after) :
    Consistent keys after := by
  cases step with
  | install asks absent => exact h.install asks absent
  | join asks found => exact h.join asks found
  | load begins =>
    refine h.work rfl rfl (by rw [begins]; rfl) ?_
    rcases (shared.session.cache.load (keys caller) shared.rig.host).1 with error | (- | artifact) <;>
      rfl
  | countHit found => exact h.work rfl rfl (by rw [found]; rfl) rfl
  | countMiss nothing => exact h.work rfl rfl (by rw [nothing]; rfl) rfl
  | compute outcome rig computes =>
    refine h.work rfl rfl (by rw [computes]; rfl) ?_
    rcases outcome with error | (artifact | failure) <;> rfl
  | @store artifact computed =>
    refine h.work rfl rfl (by rw [computed]; rfl) ?_
    rcases (shared.session.cache.save (keys caller) artifact shared.rig.host).1 with error | - <;> rfl
  | publish has => exact h.work rfl rfl (by rw [has]; rfl) rfl
  | remove failed => exact h.remove failed
  | raise failed =>
    exact h.done (by rw [failed]; rfl) (by rw [failed]; rfl) rfl (fun _ => rfl) (by simp) (by simp)
  | @receive owner outcome waits published =>
    refine h.done (by rw [waits]; rfl) (by rw [waits]; rfl) rfl (by rw [waits]; simp [Stage.owns])
      (by simp) ?_
    intro other told same
    obtain ⟨rfl, rfl⟩ := Stage.received.inj same
    exact ⟨(h.waiting caller owner waits).1, published⟩

/-- A cache stays consistent in a whole run. -/
theorem run (h : Consistent keys shared) (run : Run keys shared after) : Consistent keys after := by
  induction run with
  | refl => exact h
  | tail _ last ih =>
    obtain ⟨caller, last⟩ := last
    exact ih.step last

/-- As long as a caller is not done, someone can move. -/
theorem exists_step (h : Consistent keys shared) (active : (shared.stage caller).outcome? = none) :
    ∃ moved after, Step keys shared moved after := by
  by_cases stuck : ∃ owner, shared.stage caller = .waiting owner ∧
      ∀ outcome, shared.stage owner ≠ .finished outcome
  · -- then its owner has something to do
    obtain ⟨owner, waits, unpublished⟩ := stuck
    obtain ⟨-, owned⟩ := h.waiting caller owner waits
    have busy : (shared.stage owner).outcome? = none ∧
        ∀ other, shared.stage owner ≠ .waiting other := by
      cases here : shared.stage owner <;> simp_all [Stage.owns, Stage.outcome?]
    obtain ⟨after, step⟩ := TypstFences.exists_step keys busy.1
      fun other waits' => absurd waits' (busy.2 other)
    exact ⟨owner, after, step⟩
  · obtain ⟨after, step⟩ := TypstFences.exists_step keys active fun owner waits => by
      by_contra none
      exact stuck ⟨owner, waits, fun outcome finished => none ⟨outcome, finished⟩⟩
    exact ⟨caller, after, step⟩

end Consistent

/-! ## Single flight -/

/-- What holds at any time of callers that share a cache. -/
structure SingleFlight (keys : κ → Text) (shared : SharedCache ε κ) : Prop where
  one_owner : ∀ caller other, keys caller = keys other → (shared.stage caller).works = true →
    (shared.stage other).works = true → caller = other
  one_computation : ∀ caller other, keys caller = keys other → shared.stage caller = .computing →
    shared.stage other = .computing → caller = other
  own_entry : ∀ caller error, shared.stage caller = .failing error →
    shared.owners.lookup (keys caller) = some caller ∧
      ∀ entry ∈ shared.owners, entry.1 = keys caller → entry.2 = caller
  one_published : ∀ caller other result, keys caller = keys other →
    shared.stage caller = .finished (.ok result) → (shared.stage other).holds = true → caller = other
  same_value : ∀ caller other result result', keys caller = keys other →
    (shared.stage caller).outcome? = some (.ok result) →
    (shared.stage other).outcome? = some (.ok result') → result = result'
  heard : ∀ caller owner outcome, shared.stage caller = .received owner outcome →
    keys owner = keys caller ∧ shared.stage owner = .finished outcome
  settled : (∀ caller, shared.stage caller = .asking ∨ (shared.stage caller).outcome? ≠ none) →
    ∀ key, key ∈ shared.owners.map Prod.fst ↔
      ∃ caller result, keys caller = key ∧ (shared.stage caller).outcome? = some (.ok result)

/-- What becomes of callers later: those that are done have what they had, and those that wait for an
owner have its outcome once they have one. -/
structure Outlasts (shared later : SharedCache ε κ) : Prop where
  stays : ∀ caller outcome, (shared.stage caller).outcome? = some outcome →
    (later.stage caller).outcome? = some outcome
  waits : ∀ caller owner, shared.stage caller = .waiting owner →
    later.stage caller = .waiting owner ∨
      ∃ outcome, later.stage owner = .finished outcome ∧ later.stage caller = .received owner outcome

/-- In a consistent cache there is a single flight for each key. -/
theorem Consistent.singleFlight (h : Consistent keys shared) : SingleFlight keys shared where
  one_owner caller other same works works' :=
    h.unique same (by rw [Stage.holds, works]; rfl) (by rw [Stage.holds, works']; rfl)
  one_computation caller other same computes computes' :=
    h.unique same (by rw [computes]; rfl) (by rw [computes']; rfl)
  own_entry caller error failed := by
    have found := (h.entry (keys caller) caller).mpr ⟨rfl, by rw [failed]; rfl⟩
    refine ⟨found, ?_⟩
    rintro ⟨key, other⟩ mem rfl
    have found' := lookup_of_mem h.distinct mem
    exact Option.some.inj (found'.symm.trans found)
  one_published caller other result same finished holds :=
    h.unique same (by rw [finished]; rfl) holds
  same_value caller other result result' same returned returned' := by
    obtain ⟨owner, finished, found⟩ := h.owner_of_returned returned
    obtain ⟨owner', finished', found'⟩ := h.owner_of_returned returned'
    rw [same] at found
    obtain rfl := Option.some.inj (found.symm.trans found')
    have outcomes := Stage.finished.inj (finished.symm.trans finished')
    exact Except.ok.inj outcomes
  heard := h.received
  settled quiet key := by
    constructor
    · intro listed
      obtain ⟨⟨_, caller⟩, mem, rfl⟩ := List.mem_map.mp listed
      obtain ⟨same, holds⟩ := (h.entry _ caller).mp (lookup_of_mem h.distinct mem)
      have idle : (shared.stage caller).works = false := by
        cases works : (shared.stage caller).works with
        | false => rfl
        | true =>
          rcases quiet caller with asks | done
          · exact absurd works (by rw [asks]; simp [Stage.works])
          · exact absurd (Stage.outcome?_of_works works) done
      obtain ⟨result, finished⟩ := Stage.finished_of_holds holds idle
      exact ⟨caller, result, same, by rw [finished]; rfl⟩
    · rintro ⟨caller, result, rfl, returned⟩
      obtain ⟨owner, -, found⟩ := h.owner_of_returned returned
      exact List.mem_map.mpr ⟨_, mem_of_lookup found, rfl⟩

/-- At any time of any run of callers from a new cache, at most one caller is at work on a key and at
most one has published a result for it, an owner that failed has its own entry still, all who have
returned a result for a key have returned the same one, and who has waited has the outcome of the owner
that it found. When everyone who asked is done, the entries are those of the keys for which someone has
returned a result. No outcome changes later. -/
theorem single_flight [DecidableEq κ] (keys : κ → Text) (directory : Option Text) (rig : Rig ε)
    (run : Run keys (SharedCache.new directory rig) shared) :
    SingleFlight keys shared ∧ ∀ later, Run keys shared later → Outlasts shared later := by
  refine ⟨((Consistent.new keys directory rig).run run).singleFlight, ?_⟩
  intro later more
  constructor
  · intro caller outcome returned
    have same := more.stays (by rw [returned]; exact Option.some_ne_none outcome)
    rw [same, returned]
  · intro caller owner waiting
    exact more.waits waiting

/-- Three callers of one key. -/
def threeCallers : Fin 3 → Text := fun _ => someKey

/-- The first caller fails while the second one waits for it. The third one comes when the entry is
gone, and is at work on the key before the second one has heard of the error: it hears of this error,
and the third one returns a result. -/
theorem third_caller_in_between : ∃ between later : SharedCache Unit (Fin 3),
    Run threeCallers (SharedCache.new none bareRig) between ∧ Run threeCallers between later ∧
    between.stage 0 = .removed .unknownStyle ∧ between.stage 1 = .waiting 0 ∧
    between.stage 2 = .computing ∧ SingleFlight threeCallers between ∧
    later.stage 1 = .received 0 (.error .unknownStyle) ∧
    later.stage 2 = .finished (.ok (.failure ⟨"no".toList, compileKind, none⟩)) ∧
    SingleFlight threeCallers later ∧ later.owners = [(someKey, 2)] := by
  obtain ⟨between, first, removed, waiting, computing, entry⟩ : ∃ between : SharedCache Unit (Fin 3),
      Run threeCallers (SharedCache.new none bareRig) between ∧
      between.stage 0 = .removed .unknownStyle ∧ between.stage 1 = .waiting 0 ∧
      between.stage 2 = .computing ∧ between.owners = [(someKey, 2)] :=
    ⟨_, .head ⟨0, .install rfl rfl⟩ <| .head ⟨1, .join rfl rfl⟩ <| .head ⟨0, .load rfl⟩ <|
      .head ⟨0, .countMiss rfl⟩ <| .head ⟨0, .compute (.error .unknownStyle) bareRig rfl⟩ <|
      .head ⟨0, .remove rfl⟩ <| .head ⟨2, .install rfl rfl⟩ <| .head ⟨2, .load rfl⟩ <|
      .head ⟨2, .countMiss rfl⟩ .refl, rfl, rfl, rfl, rfl⟩
  have second : Run threeCallers between _ :=
    .head ⟨0, .raise removed⟩ <| .head ⟨1, .receive (by simpa using waiting) rfl⟩ <|
      .head ⟨2, .compute (.ok (.failure ⟨"no".toList, compileKind, none⟩)) between.rig
        (by simpa using computing)⟩ <|
      .head ⟨2, .publish rfl⟩ .refl
  exact ⟨between, _, first, second, removed, waiting, computing,
    (single_flight threeCallers none bareRig first).1, by simp, by simp,
    (single_flight threeCallers none bareRig (first.trans second)).1, by simp [entry]⟩

end TypstFences
