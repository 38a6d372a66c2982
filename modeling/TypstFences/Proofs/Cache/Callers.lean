import Mathlib.Logic.Function.Basic
import Mathlib.Logic.Relation
import TypstFences.Cache.Basic
import TypstFences.Proofs.Association

/-!
# Callers that share a cache

Many callers may ask one cache for results at the same time. The entry of a key is then made before
there is a result: it tells which caller is at work on the key, its owner, and everyone else who asks for
this key waits for the outcome of that one. An owner looks into the directory, computes what is not
there, keeps an artifact, and publishes its result; or it removes the entry, and only then tells its
waiters of the error, so that someone may already be at work on the key again.

What a caller does between two moments at which others can see the cache is one step (`Step`). Which
caller makes the next step is open, and so is what a computation comes to. No caller that is done moves
again, and one that waits for an owner receives its outcome and nothing else (`Run.stays`, `Run.waits`).
-/

set_option autoImplicit false

namespace TypstFences

/-- Where a caller is in its asking for a result. -/
inductive Stage (κ : Type) where
  | asking
  | waiting (owner : κ)
  | loading
  | loaded (artifact : Artifact)
  | absent
  | computing
  | storing (artifact : Artifact)
  | publishing (result : RenderResult)
  | failing (error : PassError)
  | removed (error : PassError)
  | finished (outcome : Except PassError RenderResult)
  | received (owner : κ) (outcome : Except PassError RenderResult)

namespace Stage

variable {κ : Type}

/-- Where an owner is when it has looked into the directory. -/
def ofLoad : Except PassError (Option Artifact) → Stage κ
  | .error error => .failing error
  | .ok (some artifact) => .loaded artifact
  | .ok none => .absent

def ofComputed : Except PassError RenderResult → Stage κ
  | .error error => .failing error
  | .ok (.artifact artifact) => .storing artifact
  | .ok (.failure failure) => .publishing (.failure failure)

def ofSave (artifact : Artifact) : Except FileError Unit → Stage κ
  | .error error => .failing (.refusedFile error)
  | .ok () => .publishing (.artifact artifact)

/-- Whether an owner is at work: it has made its entry, and has neither published a result nor removed
the entry. -/
def works : Stage κ → Bool
  | loading | loaded _ | absent | computing | storing _ | publishing _ | failing _ => true
  | _ => false

/-- The result that an owner has published. -/
def published? : Stage κ → Option RenderResult
  | finished (.ok result) => some result
  | _ => none

/-- Whether there is an entry that belongs to a caller. -/
def holds (stage : Stage κ) : Bool := stage.works || stage.published?.isSome

/-- Whether a caller is or was an owner. -/
def owns : Stage κ → Bool
  | asking | waiting _ | received .. => false
  | _ => true

/-- What a caller has returned or raised. -/
def outcome? : Stage κ → Option (Except PassError RenderResult)
  | finished outcome => some outcome
  | received _ outcome => some outcome
  | _ => none

variable {stage : Stage κ}

/-- A caller at work has no outcome yet. -/
theorem outcome?_of_works (works : stage.works = true) : stage.outcome? = none := by
  cases stage <;> simp_all [Stage.works, outcome?]

/-- A caller that holds the result owns the key. -/
theorem owns_of_holds (holds : stage.holds = true) : stage.owns = true := by
  cases stage <;> simp_all [Stage.holds, works, published?, owns]

/-- An owner that has an entry and is not at work has published a result. -/
theorem finished_of_holds (holds : stage.holds = true) (idle : stage.works = false) :
    ∃ result, stage = finished (.ok result) := by
  cases stage with
  | finished outcome =>
    cases outcome with
    | error error => exact absurd holds (by simp [Stage.holds, works, published?])
    | ok result => exact ⟨result, rfl⟩
  | _ => simp_all [Stage.holds, works, published?]

end Stage

/-- A cache that callers share: where each of them is, the owners by the keys of their entries, and what
a cache and a rig have besides. -/
structure SharedCache (ε κ : Type) where
  stage : κ → Stage κ
  owners : List (Text × κ)
  directory : Option Path
  hits : Nat
  misses : Nat
  rig : Rig ε

namespace SharedCache

variable {ε κ : Type}

/-- A new cache, which no one has asked yet. -/
def new (directory : Option Text) (rig : Rig ε) : SharedCache ε κ where
  stage := fun _ => .asking
  owners := []
  directory := (Cache.new directory).directory
  hits := 0
  misses := 0
  rig := rig

/-- The entries that have a result. -/
def entries (shared : SharedCache ε κ) : List (Text × RenderResult) :=
  shared.owners.filterMap fun entry => (shared.stage entry.2).published?.map (entry.1, ·)

/-- The session that there is for someone who looks at published results only. -/
def session (shared : SharedCache ε κ) : Session ε :=
  ⟨⟨shared.directory, shared.entries, shared.hits, shared.misses⟩, shared.rig⟩

def withHost (shared : SharedCache ε κ) (host : Host) : SharedCache ε κ :=
  { shared with rig := { shared.rig with host := host } }

def withRig (shared : SharedCache ε κ) (rig : Rig ε) : SharedCache ε κ := { shared with rig := rig }

def countHit (shared : SharedCache ε κ) : SharedCache ε κ := { shared with hits := shared.hits + 1 }

def countMiss (shared : SharedCache ε κ) : SharedCache ε κ := { shared with misses := shared.misses + 1 }

/-- The shared cache with an entry for a key. -/
def enter (shared : SharedCache ε κ) (key : Text) (caller : κ) : SharedCache ε κ :=
  { shared with owners := shared.owners ++ [(key, caller)] }

/-- The shared cache without the entry for a key, whose ever it is. -/
def leave (shared : SharedCache ε κ) (key : Text) : SharedCache ε κ :=
  { shared with owners := shared.owners.filter fun entry => entry.1 != key }

/-- The shared cache with a caller at another stage. -/
def move [DecidableEq κ] (shared : SharedCache ε κ) (caller : κ) (stage : Stage κ) :
    SharedCache ε κ :=
  { shared with stage := Function.update shared.stage caller stage }

section Fields

variable (shared : SharedCache ε κ) (host : Host) (rig : Rig ε) (key : Text) (caller : κ)

/-- A move changes the stage of one caller. -/
@[simp] theorem stage_withHost : (shared.withHost host).stage = shared.stage := rfl
@[simp] theorem stage_withRig : (shared.withRig rig).stage = shared.stage := rfl
@[simp] theorem stage_countHit : shared.countHit.stage = shared.stage := rfl
@[simp] theorem stage_countMiss : shared.countMiss.stage = shared.stage := rfl
@[simp] theorem stage_enter : (shared.enter key caller).stage = shared.stage := rfl
@[simp] theorem stage_leave : (shared.leave key).stage = shared.stage := rfl
@[simp] theorem stage_move [DecidableEq κ] (stage : Stage κ) :
    (shared.move caller stage).stage = Function.update shared.stage caller stage := rfl
/-- A move changes no owners. -/
@[simp] theorem owners_withHost : (shared.withHost host).owners = shared.owners := rfl
@[simp] theorem owners_withRig : (shared.withRig rig).owners = shared.owners := rfl
@[simp] theorem owners_countHit : shared.countHit.owners = shared.owners := rfl
@[simp] theorem owners_countMiss : shared.countMiss.owners = shared.owners := rfl
@[simp] theorem owners_move [DecidableEq κ] (stage : Stage κ) :
    (shared.move caller stage).owners = shared.owners := rfl

/-- What is found after an entry was made. -/
theorem lookup_enter (absent : shared.owners.lookup key = none) (other : Text) :
    (shared.enter key caller).owners.lookup other =
      if other = key then some caller else shared.owners.lookup other :=
  lookup_concat caller absent

/-- What is found after an entry was removed. -/
theorem lookup_leave (other : Text) :
    (shared.leave key).owners.lookup other =
      if other = key then none else shared.owners.lookup other :=
  lookup_filter_ne key other shared.owners

end Fields

end SharedCache

variable {ε κ : Type} [DecidableEq κ]

/-- The steps of a caller that has a key. A look at the entries and what follows from it are one step,
under the lock; so are a load, the counting of it, a computation of any outcome, a store, the publication
of a result, the removal of an entry, the publication of an error, and the receipt of what was
published. -/
inductive Step (keys : κ → Text) (shared : SharedCache ε κ) (caller : κ) : SharedCache ε κ → Prop
  | install (asks : shared.stage caller = .asking)
      (absent : shared.owners.lookup (keys caller) = none) :
      Step keys shared caller ((shared.enter (keys caller) caller).move caller .loading)
  | join {owner : κ} (asks : shared.stage caller = .asking)
      (found : shared.owners.lookup (keys caller) = some owner) :
      Step keys shared caller (shared.countHit.move caller (.waiting owner))
  | load (begins : shared.stage caller = .loading) :
      Step keys shared caller
        ((shared.withHost (shared.session.cache.load (keys caller) shared.rig.host).2).move caller
          (.ofLoad (shared.session.cache.load (keys caller) shared.rig.host).1))
  | countHit {artifact : Artifact} (found : shared.stage caller = .loaded artifact) :
      Step keys shared caller (shared.countHit.move caller (.publishing (.artifact artifact)))
  | countMiss (nothing : shared.stage caller = .absent) :
      Step keys shared caller (shared.countMiss.move caller .computing)
  | compute (outcome : Except PassError RenderResult) (rig : Rig ε)
      (computes : shared.stage caller = .computing) :
      Step keys shared caller ((shared.withRig rig).move caller (.ofComputed outcome))
  | store {artifact : Artifact} (computed : shared.stage caller = .storing artifact) :
      Step keys shared caller
        ((shared.withHost (shared.session.cache.save (keys caller) artifact shared.rig.host).2).move
          caller
          (.ofSave artifact (shared.session.cache.save (keys caller) artifact shared.rig.host).1))
  | publish {result : RenderResult} (has : shared.stage caller = .publishing result) :
      Step keys shared caller (shared.move caller (.finished (.ok result)))
  | remove {error : PassError} (failed : shared.stage caller = .failing error) :
      Step keys shared caller ((shared.leave (keys caller)).move caller (.removed error))
  | raise {error : PassError} (failed : shared.stage caller = .removed error) :
      Step keys shared caller (shared.move caller (.finished (.error error)))
  | receive {owner : κ} {outcome : Except PassError RenderResult}
      (waits : shared.stage caller = .waiting owner)
      (published : shared.stage owner = .finished outcome) :
      Step keys shared caller (shared.move caller (.received owner outcome))

/-- Any number of steps, of any callers. -/
def Run (keys : κ → Text) : SharedCache ε κ → SharedCache ε κ → Prop :=
  Relation.ReflTransGen fun shared after => ∃ caller, Step keys shared caller after

variable {keys : κ → Text} {shared after : SharedCache ε κ} {caller owner : κ}

/-- A step moves one caller that is not done; if it waits, then to what its owner has published. -/
theorem Step.stage_eq (step : Step keys shared caller after) :
    ∃ stage, after.stage = Function.update shared.stage caller stage ∧
      (shared.stage caller).outcome? = none ∧
      ∀ owner, shared.stage caller = .waiting owner →
        ∃ outcome, shared.stage owner = .finished outcome ∧ stage = .received owner outcome := by
  cases step with
  | @receive found outcome waits published =>
    refine ⟨_, rfl, by rw [waits]; rfl, ?_⟩
    intro owner waits'
    obtain rfl : found = owner := Stage.waiting.inj (waits.symm.trans waits')
    exact ⟨outcome, published, rfl⟩
  -- every other step begins where no one waits and no one is done
  | _ => exact ⟨_, rfl, by simp [*, Stage.outcome?], by simp [*]⟩

/-- A caller that is done stays where it is. -/
theorem Step.stays (step : Step keys shared caller after) {other : κ}
    (done : (shared.stage other).outcome? ≠ none) : after.stage other = shared.stage other := by
  obtain ⟨stage, stage_eq, active, -⟩ := step.stage_eq
  have differ : other ≠ caller := by
    rintro rfl
    exact done active
  rw [stage_eq, Function.update_of_ne differ]

/-- A caller that has finished stays finished in every step. -/
theorem Step.finished_stays (step : Step keys shared caller after)
    {outcome : Except PassError RenderResult} (finished : shared.stage owner = .finished outcome) :
    after.stage owner = .finished outcome := by
  have done : (shared.stage owner).outcome? ≠ none := by
    rw [finished]
    exact Option.some_ne_none outcome
  exact (step.stays done).trans finished

namespace Run

/-- A caller that has an outcome stays where it is in a whole run. -/
theorem stays (run : Run keys shared after) {other : κ} (done : (shared.stage other).outcome? ≠ none) :
    after.stage other = shared.stage other := by
  induction run with
  | refl => rfl
  | tail _ step ih =>
    obtain ⟨caller, step⟩ := step
    rw [← ih] at done ⊢
    exact step.stays done

/-- A caller that waits for an owner does so until it receives what this owner has published. -/
theorem waits (run : Run keys shared after) (waiting : shared.stage caller = .waiting owner) :
    after.stage caller = .waiting owner ∨
      ∃ outcome, after.stage owner = .finished outcome ∧
        after.stage caller = .received owner outcome := by
  induction run with
  | refl => exact .inl waiting
  | @tail between last _ step ih =>
    obtain ⟨moved, step⟩ := step
    rcases ih with waiting | ⟨outcome, finished, received⟩
    · obtain ⟨stage, stage_eq, -, receipt⟩ := step.stage_eq
      by_cases same : caller = moved
      · subst same
        obtain ⟨outcome, finished, rfl⟩ := receipt owner waiting
        have owner_stays := step.finished_stays finished
        exact .inr ⟨outcome, owner_stays, by rw [stage_eq, Function.update_self]⟩
      · exact .inl (by rw [stage_eq, Function.update_of_ne same, waiting])
    · have caller_stays := step.stays (by rw [received]; exact Option.some_ne_none outcome)
      exact .inr ⟨outcome, step.finished_stays finished, caller_stays.trans received⟩

end Run

/-- Whoever is not done can move, unless it waits for an owner that has not published anything. -/
theorem exists_step (keys : κ → Text) (active : (shared.stage caller).outcome? = none)
    (published : ∀ owner, shared.stage caller = .waiting owner →
      ∃ outcome, shared.stage owner = .finished outcome) :
    ∃ after, Step keys shared caller after := by
  cases here : shared.stage caller with
  | asking =>
    cases found : shared.owners.lookup (keys caller) with
    | none => exact ⟨_, .install here found⟩
    | some owner => exact ⟨_, .join here found⟩
  | waiting owner =>
    obtain ⟨outcome, finished⟩ := published owner here
    exact ⟨_, .receive here finished⟩
  | loading => exact ⟨_, .load here⟩
  | loaded artifact => exact ⟨_, .countHit here⟩
  | absent => exact ⟨_, .countMiss here⟩
  | computing => exact ⟨_, .compute (.error .unknownStyle) shared.rig here⟩
  | storing artifact => exact ⟨_, .store here⟩
  | publishing result => exact ⟨_, .publish here⟩
  | failing error => exact ⟨_, .remove here⟩
  | removed error => exact ⟨_, .raise here⟩
  | finished outcome => exact absurd active (by rw [here]; simp [Stage.outcome?])
  | received owner outcome => exact absurd active (by rw [here]; simp [Stage.outcome?])

end TypstFences
