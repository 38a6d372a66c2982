import TypstFences.Proofs.Render.Independence

/-!
# Two ways with failures

A rendering that ends with the first failure and one that goes on run in step until the first failure
is delivered (`Collection.run_inStep`). If there is none, they do the same to the end; else the first
one ends in the error about this failure, and the failure stays among the results of the other one,
whatever that one goes on to do.
-/

set_option autoImplicit false

namespace TypstFences

variable {ε σ : Type} {settings : Settings} {engine : Engine ε} {requests : List (Nat × Request)}

/-- Whether the first of two ways with failures ends the rendering with what is told of the failure, and
the second one goes on. -/
structure OnFailure.EndsWhere {σ : Type} (strict lenient : OnFailure σ) (told : Nat → Failure → PassError) :
    Prop where
  strict : ∀ block failure noted host, (strict block failure noted host).1 = .error (told block failure)
  lenient : ∀ block failure noted host, (lenient block failure noted host).1 = .ok ()

namespace Collection

variable {collection : Collection ε σ} {onFailure strict lenient : OnFailure σ} {block : Nat}
variable {told : Nat → Failure → PassError} {result : RenderResult}

/-! ## What stays delivered -/

/-- A result that was delivered is still there after a run. -/
theorem run_keeps_delivered (onFailure : OnFailure σ) (events : Schedule)
    (found : collection.delivered.lookup block = some result) :
    (collection.run settings engine requests onFailure events).2.delivered.lookup block =
      some result := by
  have executes : ∀ (c : Collection ε σ) other, c.delivered.lookup block = some result →
      (c.execute settings engine requests other).delivered.lookup block = some result := by
    intro c other kept
    rwa [delivered_execute]
  have delivers : ∀ (c : Collection ε σ) other, c.delivered.lookup block = some result →
      (c.deliver onFailure other).2.delivered.lookup block = some result := by
    intro c other kept
    rcases delivered_deliver onFailure c other with same | ⟨added, -, absent, more⟩
    · rwa [same]
    · have differ : block ≠ other := by
        rintro rfl
        exact absurd (absent.symm.trans kept) (by simp)
      rwa [more, lookup_concat _ absent, if_neg differ]
  exact (run_keeps executes delivers events found).1

/-! ## In step -/

/-- Whether no failure was delivered. -/
def NoFailure (collection : Collection ε σ) : Prop :=
  ∀ block failure, collection.delivered.lookup block ≠ some (.failure failure)

/-- An artifact that is added is no failure. -/
theorem NoFailure.addArtifact (h : collection.NoFailure) {artifact : Artifact}
    (absent : collection.delivered.lookup block = none) :
    (collection.addResult block (.artifact artifact)).NoFailure := by
  intro other failure found
  rw [lookup_addResult absent] at found
  split at found
  · exact absurd (Option.some.inj found) (by simp)
  · exact h other failure found

/-- What two runs come to that differ in what they do about failures: both to the same without any, or
the first one to the error about a failure that the second one has delivered. -/
inductive InStep (told : Nat → Failure → PassError) :
    Except PassError Unit × Collection ε σ → Except PassError Unit × Collection ε σ → Prop
  | together {done : Except PassError Unit × Collection ε σ} (quiet : done.2.NoFailure) :
      InStep told done done
  | ended {first second : Except PassError Unit × Collection ε σ} {block : Nat} {failure : Failure}
      (ends : first.1 = .error (told block failure))
      (delivered : second.2.delivered.lookup block = some (.failure failure)) :
      InStep told first second

/-- One delivery. -/
theorem deliver_inStep (ways : strict.EndsWhere lenient told) (quiet : collection.NoFailure)
    (block : Nat) :
    (collection.deliver strict block = collection.deliver lenient block ∧
      (collection.deliver lenient block).2.NoFailure) ∨
    ∃ failure after, (collection.deliver strict block).1 = .error (told block failure) ∧
      collection.deliver lenient block = (.ok (), after) ∧
      after.delivered.lookup block = some (.failure failure) := by
  rcases deliver_cases lenient collection block with ⟨idle, done⟩ | ⟨artifact, executed, absent, done⟩ |
    ⟨failure, outcome, noted, host, executed, absent, asked, done⟩ | ⟨error, executed, absent, done⟩
  · exact .inl ⟨by rw [deliver_eq_self idle, done], by rwa [done]⟩
  · exact .inl ⟨by rw [deliver_artifact executed absent, done],
      by rw [done]; exact quiet.addArtifact absent⟩
  · -- only here is asked what to do about failures
    have goes_on := ways.lenient block failure collection.noted collection.session.rig.host
    rw [asked] at goes_on
    obtain rfl : outcome = .ok () := goes_on
    refine .inr ⟨failure, _, ?_, done, (lookup_addResult absent block).trans (if_pos rfl)⟩
    rw [deliver_failure executed absent]
    exact ways.strict block failure collection.noted collection.session.rig.host
  · exact .inl ⟨by rw [deliver_error executed absent, done], by rwa [done]⟩

/-- Two runs over the same events are in step. -/
theorem run_inStep (settings : Settings) (engine : Engine ε) (requests : List (Nat × Request))
    (ways : strict.EndsWhere lenient told) (events : Schedule) :
    ∀ {collection : Collection ε σ}, collection.NoFailure →
      InStep told (collection.run settings engine requests strict events)
        (collection.run settings engine requests lenient events) := by
  induction events with
  | nil => exact fun quiet => .together quiet
  | cons event events ih =>
    intro collection quiet
    cases event with
    | execute executed =>
      rw [run_execute, run_execute]
      apply ih
      intro block failure
      rw [delivered_execute]
      exact quiet block failure
    | deliver delivered =>
      rcases deliver_inStep ways quiet delivered with ⟨same, quiet'⟩ |
        ⟨failure, after, ends, goes_on, there⟩
      · rw [Collection.run, Collection.run, Collection.step, Collection.step, same]
        cases done : collection.deliver lenient delivered with
        | mk outcome after =>
          rw [done] at quiet'
          cases outcome with
          | ok => exact ih quiet'
          | error error => exact .together quiet'
      · have ended : (collection.run settings engine requests strict (.deliver delivered :: events)).1 =
            .error (told delivered failure) := by
          cases done : collection.deliver strict delivered with
          | mk outcome after' =>
            rw [done] at ends
            obtain rfl : outcome = .error (told delivered failure) := ends
            rw [run_deliver_error events done]
        refine .ended ended ?_
        rw [run_deliver events goes_on]
        exact run_keeps_delivered lenient events there

end Collection

/-- A rendering that ends with the first failure has the results of one that goes on, if there is no
failure among them, or it ends in the error about a failure that is. -/
theorem renderRequests_inStep (settings : Settings) (engine : Engine ε)
    (requests : List (Nat × Request)) {strict lenient : OnFailure σ} {told : Nat → Failure → PassError}
    (ways : strict.EndsWhere lenient told) (schedule : Schedule) (noted : σ) (session : Session ε) :
    (renderRequests settings engine requests strict schedule noted session =
        renderRequests settings engine requests lenient schedule noted session ∧
      ∀ results noted', (renderRequests settings engine requests lenient schedule noted session).1 =
          .ok (results, noted') →
        ∀ block failure, results.lookup block ≠ some (.failure failure)) ∨
    ∃ block failure, (renderRequests settings engine requests strict schedule noted session).1 =
        .error (told block failure) ∧
      ∀ results noted', (renderRequests settings engine requests lenient schedule noted session).1 =
          .ok (results, noted') →
        results.lookup block = some (.failure failure) := by
  unfold renderRequests
  cases requests.isEmpty with
  | true =>
    refine .inl ⟨rfl, ?_⟩
    intro results after same block failure
    rw [← (Prod.mk.inj (Except.ok.inj same)).1]
    exact fun found => absurd found (by simp)
  | false =>
    simp only [Bool.false_eq_true, if_false]
    have nothing (session : Session ε) : (Collection.start noted session).NoFailure :=
      fun _ _ found => absurd found (by simp [Collection.start])
    have inStep := Collection.run_inStep settings engine requests ways schedule (nothing
      (session.withHost (session.rig.host.note 2 (renderingText settings requests))))
    generalize (Collection.start noted (session.withHost (session.rig.host.note 2
      (renderingText settings requests)))).run settings engine requests strict schedule = first
        at inStep ⊢
    generalize (Collection.start noted (session.withHost (session.rig.host.note 2
      (renderingText settings requests)))).run settings engine requests lenient schedule = second
        at inStep ⊢
    cases inStep with
    | together quiet =>
      refine .inl ⟨rfl, ?_⟩
      intro results noted' same
      obtain ⟨outcome, after⟩ := first
      cases outcome with
      | ok =>
        rw [← (Prod.mk.inj (Except.ok.inj same)).1]
        exact quiet
      | error error => exact absurd same (by simp)
    | @ended _ block failure ends delivered =>
      refine .inr ⟨block, failure, ?_, ?_⟩
      · obtain ⟨outcome, after⟩ := first
        obtain rfl : outcome = .error (told block failure) := ends
        rfl
      · intro results noted' same
        obtain ⟨outcome, after⟩ := second
        cases outcome with
        | ok =>
          rw [← (Prod.mk.inj (Except.ok.inj same)).1]
          exact delivered
        | error error => exact absurd same (by simp)

end TypstFences
