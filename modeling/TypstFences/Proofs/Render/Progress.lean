import TypstFences.Proofs.Render.Delivery

/-!
# Runs of a schedule

What holds of every run of a schedule, whatever the results are. What executions and deliveries keep is
kept by a run, and an error that ends a run comes from a delivery (`run_keeps`). Only what was executed
is delivered (`Orderly`), and a run that does not end in an error delivers every block that was pending
(`run_delivers`).
-/

set_option autoImplicit false

namespace TypstFences.Collection

variable {ε σ : Type} {settings : Settings} {engine : Engine ε} {requests : List (Nat × Request)}
variable {onFailure : OnFailure σ} {collection : Collection ε σ} {block : Nat}

/-! ## Runs -/

/-- A run goes on after a block is executed. -/
theorem run_execute (events : Schedule) :
    collection.run settings engine requests onFailure (.execute block :: events) =
      (collection.execute settings engine requests block).run settings engine requests onFailure
        events := rfl

/-- A run goes on after a block is delivered. -/
theorem run_deliver {after : Collection ε σ} (events : Schedule)
    (done : collection.deliver onFailure block = (.ok (), after)) :
    collection.run settings engine requests onFailure (.deliver block :: events) =
      after.run settings engine requests onFailure events := by
  rw [Collection.run, Collection.step, done]

/-- A run ends when a block is refused as it is delivered. -/
theorem run_deliver_error {after : Collection ε σ} {error : PassError} (events : Schedule)
    (done : collection.deliver onFailure block = (.error error, after)) :
    collection.run settings engine requests onFailure (.deliver block :: events) =
      (.error error, after) := by
  rw [Collection.run, Collection.step, done]

/-- What executions and deliveries keep holds after a run. If the run ends in an error, a delivery
ended in it. -/
theorem run_keeps {Inv : Collection ε σ → Prop}
    (executes : ∀ collection block, Inv collection →
      Inv (collection.execute settings engine requests block))
    (delivers : ∀ collection block, Inv collection → Inv (collection.deliver onFailure block).2)
    (events : Schedule) :
    ∀ {collection : Collection ε σ}, Inv collection →
      Inv (collection.run settings engine requests onFailure events).2 ∧
      ∀ error, (collection.run settings engine requests onFailure events).1 = .error error →
        ∃ before block, Inv before ∧ (before.deliver onFailure block).1 = .error error := by
  induction events with
  | nil => exact fun inv => ⟨inv, fun error ends => absurd ends (by simp [Collection.run])⟩
  | cons event events ih =>
    intro collection inv
    cases event with
    | execute block =>
      rw [run_execute]
      exact ih (executes collection block inv)
    | deliver block =>
      have kept := delivers collection block inv
      cases done : collection.deliver onFailure block with
      | mk outcome after =>
        rw [done] at kept
        cases outcome with
        | ok =>
          rw [run_deliver events done]
          exact ih kept
        | error error =>
          rw [run_deliver_error events done]
          refine ⟨kept, fun other ends => ⟨collection, block, inv, ?_⟩⟩
          rw [done]
          exact ends

/-- Whether only blocks with a request were executed, and what was delivered is what came of an
execution, one result for each block. -/
structure Orderly (requests : List (Nat × Request)) (collection : Collection ε σ) : Prop where
  asked : ∀ block outcome, collection.executed.lookup block = some outcome →
    ∃ request, requests.lookup block = some request
  executed : ∀ block result, collection.delivered.lookup block = some result →
    collection.executed.lookup block = some (.ok result)
  distinct : (collection.delivered.map Prod.fst).Nodup

/-- A new collection is orderly. -/
theorem orderly_start (noted : σ) (session : Session ε) : Orderly requests (Collection.start noted session) :=
  ⟨fun _ _ found => absurd found (by simp [Collection.start]),
    fun _ _ found => absurd found (by simp [Collection.start]), List.nodup_nil⟩

/-- A collection stays orderly when a block is executed. -/
theorem Orderly.execute (h : Orderly requests collection) (settings : Settings) (engine : Engine ε)
    (block : Nat) :
    Orderly requests (collection.execute settings engine requests block) := by
  rcases execute_cases settings engine requests collection block with ⟨-, done⟩ |
    ⟨request, asked, absent, done⟩
  · rwa [done]
  · rw [done]
    refine ⟨fun other outcome found => ?_, fun other result found => ?_, h.distinct⟩
    · rw [lookup_addOutcome absent] at found
      split at found
      · rename_i same
        exact ⟨request, same ▸ asked⟩
      · exact h.asked other outcome found
    · have before := h.executed other result found
      have differ : other ≠ block := by
        rintro rfl
        exact absurd (absent.symm.trans before) (by simp)
      rw [lookup_addOutcome absent, if_neg differ, before]

/-- A collection stays orderly when a block is delivered. -/
theorem Orderly.deliver (h : Orderly requests collection) (onFailure : OnFailure σ) (block : Nat) :
    Orderly requests (collection.deliver onFailure block).2 := by
  have executed_eq := executed_deliver onFailure collection block
  rcases delivered_deliver onFailure collection block with same | ⟨result, executed, absent, more⟩
  · exact ⟨by rw [executed_eq]; exact h.asked, by rw [executed_eq, same]; exact h.executed,
      by rw [same]; exact h.distinct⟩
  · refine ⟨by rw [executed_eq]; exact h.asked, fun other found listed => ?_, ?_⟩
    · rw [executed_eq]
      rw [more, lookup_concat _ absent] at listed
      split at listed
      · rename_i same
        rw [same, ← Option.some.inj listed]
        exact executed
      · exact h.executed other found listed
    · rw [more]
      exact nodup_concat _ h.distinct absent

/-- A run that does not end in an error delivers what was pending. -/
theorem run_delivers (settings : Settings) (engine : Engine ε) (onFailure : OnFailure σ)
    (events : Schedule) :
    ∀ (collection : Collection ε σ) {block : Nat}, requests.lookup block ≠ none →
      collection.Pending events block →
      (collection.run settings engine requests onFailure events).1 = .ok () →
      (collection.run settings engine requests onFailure events).2.delivered.lookup block ≠ none := by
  induction events with
  | nil =>
    intro collection block _ pending _
    rcases pending with both | ⟨-, later⟩ | done
    · exact absurd (List.sublist_nil.mp both) (by simp)
    · exact absurd (List.sublist_nil.mp later) (by simp)
    · exact done
  | cons event events ih =>
    intro collection block asked pending ends
    cases event with
    | execute executed =>
      rw [run_execute] at ends ⊢
      exact ih _ asked (pending.execute asked) ends
    | deliver delivered =>
      have executed_eq := executed_deliver onFailure collection delivered
      cases done : collection.deliver onFailure delivered with
      | mk outcome after =>
        rw [done] at executed_eq
        cases outcome with
        | ok =>
          obtain ⟨more, self⟩ := delivered_of_deliver done
          rw [run_deliver events done] at ends ⊢
          exact ih _ asked (pending.deliver executed_eq (more block) self) ends
        | error error =>
          rw [run_deliver_error events done] at ends
          exact absurd ends (by simp)

end TypstFences.Collection

namespace TypstFences

variable {ε σ : Type} {settings : Settings} {engine : Engine ε} {requests : List (Nat × Request)}
variable {session : Session ε} {noted : σ}

/-- What executions and deliveries keep holds of a collection at the end of a rendering. The results
are those that this collection has delivered; an error comes from a delivery. -/
theorem renderRequests_keeps {Inv : Collection ε σ → Prop} (onFailure : OnFailure σ)
    (schedule : Schedule)
    (executes : ∀ collection block, Inv collection →
      Inv (collection.execute settings engine requests block))
    (delivers : ∀ collection block, Inv collection → Inv (collection.deliver onFailure block).2)
    (start : Inv (Collection.start noted session))
    (begun : Inv (Collection.start noted (session.withHost
      (session.rig.host.note 2 (renderingText settings requests))))) :
    ∃ collection, Inv collection ∧
      (renderRequests settings engine requests onFailure schedule noted session).2 = collection.session ∧
      (∀ results noted', (renderRequests settings engine requests onFailure schedule noted session).1 =
        .ok (results, noted') → results = collection.delivered ∧ noted' = collection.noted) ∧
      ∀ error, (renderRequests settings engine requests onFailure schedule noted session).1 =
        .error error → ∃ before block, Inv before ∧ (before.deliver onFailure block).1 =
          .error error := by
  unfold renderRequests
  cases requests.isEmpty with
  | true =>
    exact ⟨_, start, rfl, fun results noted' same => Prod.mk.inj (Except.ok.inj same).symm,
      fun error ends => absurd ends (by simp)⟩
  | false =>
    obtain ⟨kept, errors⟩ := Collection.run_keeps executes delivers schedule begun
    simp only [Bool.false_eq_true, if_false]
    generalize (Collection.start noted (session.withHost
      (session.rig.host.note 2 (renderingText settings requests)))).run settings engine requests
        onFailure schedule = done at kept errors ⊢
    obtain ⟨outcome, after⟩ := done
    cases outcome with
    | ok =>
      exact ⟨after, kept, rfl, fun results noted' same => Prod.mk.inj (Except.ok.inj same).symm,
        fun error ends => absurd ends (by simp)⟩
    | error error =>
      exact ⟨after, kept, rfl, fun results noted' same => absurd same (by simp),
        fun other ends => errors other (by rw [← Except.error.inj ends])⟩

/-- The results of a rendering are those of different blocks, each of which has a request. -/
theorem orderly_of_renderRequests {onFailure : OnFailure σ} {schedule : Schedule}
    {results : List (Nat × RenderResult)} {after : σ}
    (done : (renderRequests settings engine requests onFailure schedule noted session).1 =
      .ok (results, after)) :
    (results.map Prod.fst).Nodup ∧ ∀ block result, results.lookup block = some result →
      ∃ request, requests.lookup block = some request := by
  obtain ⟨collection, orderly, -, same, -⟩ := renderRequests_keeps onFailure schedule
    (fun (collection : Collection ε σ) block (inv : collection.Orderly requests) =>
      inv.execute settings engine block)
    (fun _ block inv => inv.deliver onFailure block)
    (Collection.orderly_start noted session) (Collection.orderly_start noted _)
  obtain ⟨rfl, -⟩ := same results after done
  refine ⟨orderly.distinct, ?_⟩
  intro block result found
  exact orderly.asked block _ (orderly.executed block result found)

/-- A rendering that does not end in an error has a result for every block that the schedule executes
and then delivers. -/
theorem renderRequests_delivers (settings : Settings) (engine : Engine ε)
    (requests : List (Nat × Request)) (onFailure : OnFailure σ) (schedule : Schedule)
    (noted after : σ) (session : Session ε) (results : List (Nat × RenderResult)) (block : Nat)
    (done : (renderRequests settings engine requests onFailure schedule noted session).1 =
      .ok (results, after))
    (asked : requests.lookup block ≠ none)
    (scheduled : [Event.execute block, .deliver block].Sublist schedule) :
    results.lookup block ≠ none := by
  unfold renderRequests at done
  cases nothing : requests.isEmpty with
  | true =>
    rw [List.isEmpty_iff.mp nothing] at asked
    exact absurd rfl asked
  | false =>
    have delivered := Collection.run_delivers settings engine onFailure schedule
      (Collection.start noted (session.withHost
        (session.rig.host.note 2 (renderingText settings requests)))) asked (.inl scheduled)
    simp only [nothing, Bool.false_eq_true, if_false] at done
    generalize (Collection.start noted (session.withHost
      (session.rig.host.note 2 (renderingText settings requests)))).run settings engine requests
        onFailure schedule = ran at done delivered
    obtain ⟨outcome, after⟩ := ran
    cases outcome with
    | ok =>
      obtain ⟨rfl, -⟩ := Prod.mk.inj (Except.ok.inj done)
      exact delivered rfl
    | error error => exact absurd done (by simp)

end TypstFences
