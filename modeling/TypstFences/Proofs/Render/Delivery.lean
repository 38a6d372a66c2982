import TypstFences.Proofs.Render.Event

/-!
# Every result is delivered

If every request is answered in one way whatever was done before, the order in which requests are
executed and results delivered does not matter: once a schedule has executed and then delivered
every block with a request, there is one result for each of them, the answer to its request
(`renderRequests_eq`). The invariant of a collection (`Collection.Sound`) is kept by every event,
and a block that is still to be executed or delivered remains so until it is (`Collection.Pending`).
-/

set_option autoImplicit false

namespace TypstFences

variable {ε σ : Type}

/-- Whether results are the answers to requests, one for each. -/
structure DeliveredAll (answer : Request → RenderResult) (requests : List (Nat × Request))
    (results : List (Nat × RenderResult)) : Prop where
  lookup : ∀ block, results.lookup block = (requests.lookup block).map answer
  distinct : (results.map Prod.fst).Nodup

/-- Whether a schedule executes every block and delivers it later. -/
def Schedule.Complete (schedule : List Nat → Schedule) : Prop :=
  ∀ blocks, ∀ block ∈ blocks, [Event.execute block, .deliver block].Sublist (schedule blocks)

/-- One block after the other, all are executed and delivered. -/
theorem Schedule.inOrder_complete : Schedule.Complete Schedule.inOrder := by
  intro blocks block mem
  exact List.sublist_flatten_of_mem (List.mem_map_of_mem mem)

/-- What is assumed of rendering in sessions with some property: each request has its answer, and
the property stays. -/
structure RendersAs (settings : Settings) (engine : Engine ε) (requests : List (Nat × Request))
    (answer : Request → RenderResult) (Inv : Session ε → Prop) : Prop where
  render : ∀ session, Inv session → ∀ block request, requests.lookup block = some request →
    (renderRequest settings engine request session).1 = .ok (answer request) ∧
      Inv (renderRequest settings engine request session).2
  note : ∀ session, Inv session → ∀ level message,
    Inv (session.withHost (session.rig.host.note level message))

/-- Whether failures are noted and nothing else. -/
def OnFailure.Quiet {σ : Type} (onFailure : OnFailure σ) : Prop :=
  ∀ block failure noted host, ∃ after level message,
    onFailure block failure noted host = (.ok (), after, host.note level message)

namespace Collection

variable {settings : Settings} {engine : Engine ε} {requests : List (Nat × Request)}
variable {answer : Request → RenderResult} {Inv : Session ε → Prop} {onFailure : OnFailure σ}
variable {collection : Collection ε σ} {block : Nat} {event : Event}

/-- Whether all outcomes and results so far are answers, none is delivered twice, and the session
has the property that rendering needs. -/
structure Sound (requests : List (Nat × Request)) (answer : Request → RenderResult)
    (Inv : Session ε → Prop) (collection : Collection ε σ) : Prop where
  executed : ∀ block outcome, collection.executed.lookup block = some outcome →
    ∃ request, requests.lookup block = some request ∧ outcome = .ok (answer request)
  delivered : ∀ block result, collection.delivered.lookup block = some result →
    ∃ request, requests.lookup block = some request ∧ result = answer request
  distinct : (collection.delivered.map Prod.fst).Nodup
  session : Inv collection.session

/-- Whether a block is delivered, or is going to be executed, if it was not, and delivered. -/
def Pending (events : Schedule) (block : Nat) (collection : Collection ε σ) : Prop :=
  [Event.execute block, .deliver block].Sublist events ∨
    (collection.executed.lookup block ≠ none ∧ [Event.deliver block].Sublist events) ∨
      collection.delivered.lookup block ≠ none

/-- Executing a block keeps a collection sound. -/
theorem Sound.execute (h : Sound requests answer Inv collection)
    (renders : RendersAs settings engine requests answer Inv) (block : Nat) :
    Sound requests answer Inv (collection.execute settings engine requests block) := by
  rcases execute_cases settings engine requests collection block with ⟨-, done⟩ |
    ⟨request, asked, absent, done⟩
  · rwa [done]
  · obtain ⟨outcome_eq, kept⟩ := renders.render collection.session h.session block request asked
    rw [done]
    refine ⟨fun other outcome found => ?_, h.delivered, h.distinct, kept⟩
    rw [lookup_addOutcome absent] at found
    split at found
    · rename_i same
      rw [same]
      exact ⟨request, asked, (Option.some.inj found).symm.trans outcome_eq⟩
    · exact h.executed other outcome found

/-- The result of an executed block keeps a collection sound. -/
theorem Sound.addResult (h : Sound requests answer Inv collection) {result : RenderResult}
    (executed : collection.executed.lookup block = some (.ok result))
    (absent : collection.delivered.lookup block = none) :
    Sound requests answer Inv (collection.addResult block result) := by
  obtain ⟨request, asked, same⟩ := h.executed block _ executed
  refine ⟨h.executed, fun other found listed => ?_, nodup_concat _ h.distinct absent, h.session⟩
  rw [lookup_addResult absent] at listed
  split at listed
  · rename_i itself
    rw [itself]
    exact ⟨request, asked, (Option.some.inj listed).symm.trans (Except.ok.inj same)⟩
  · exact h.delivered other found listed

/-- A note keeps a collection sound. -/
theorem Sound.note (h : Sound requests answer Inv collection)
    (renders : RendersAs settings engine requests answer Inv) (noted : σ) (level : Int) (message : Text) :
    Sound requests answer Inv
      (collection.withNoted noted (collection.session.rig.host.note level message)) :=
  ⟨h.executed, h.delivered, h.distinct, renders.note _ h.session level message⟩

/-- Delivering a block keeps a collection sound, and ends in no error. -/
theorem Sound.deliver (h : Sound requests answer Inv collection)
    (renders : RendersAs settings engine requests answer Inv) (quiet : onFailure.Quiet) (block : Nat) :
    ∃ after, collection.deliver onFailure block = (.ok (), after) ∧ Sound requests answer Inv after := by
  rcases deliver_cases onFailure collection block with ⟨-, done⟩ | ⟨artifact, executed, absent, done⟩ |
    ⟨failure, outcome, noted, host, executed, absent, asked, done⟩ | ⟨error, executed, -, -⟩
  · exact ⟨collection, done, h⟩
  · exact ⟨_, done, h.addResult executed absent⟩
  · obtain ⟨after, level, message, quietly⟩ :=
      quiet block failure collection.noted collection.session.rig.host
    obtain ⟨rfl, rest⟩ := Prod.mk.inj (asked.symm.trans quietly)
    obtain ⟨rfl, rfl⟩ := Prod.mk.inj rest
    exact ⟨_, done, (h.addResult executed absent).note renders noted level message⟩
  · obtain ⟨request, -, same⟩ := h.executed block _ executed
    exact absurd same (by simp)

/-- What was pending is pending after the execution of a block for the events that follow. -/
theorem Pending.execute {executed : Nat} {events : Schedule} (asked : requests.lookup block ≠ none)
    (pending : collection.Pending (.execute executed :: events) block) :
    (collection.execute settings engine requests executed).Pending events block := by
  rcases pending with both | ⟨there, later⟩ | done
  · rcases List.sublist_cons_iff.mp both with both | ⟨rest, same, later⟩
    · exact .inl both
    · obtain ⟨rfl, rfl⟩ : block = executed ∧ [Event.deliver block] = rest := by
        simpa using List.cons.inj same
      exact .inr (.inl ⟨executed_execute_self asked, later⟩)
  · refine .inr (.inl ⟨executed_execute there, ?_⟩)
    rcases List.sublist_cons_iff.mp later with later | ⟨rest, same, -⟩
    · exact later
    · exact absurd same (by simp)
  · exact .inr (.inr (by rwa [delivered_execute]))

/-- What was pending is pending after the delivery of a block for the events that follow. -/
theorem Pending.deliver {after : Collection ε σ} {delivered : Nat} {events : Schedule}
    (pending : collection.Pending (.deliver delivered :: events) block)
    (executed_eq : after.executed = collection.executed)
    (more : collection.delivered.lookup block ≠ none → after.delivered.lookup block ≠ none)
    (self : collection.executed.lookup delivered ≠ none → after.delivered.lookup delivered ≠ none) :
    after.Pending events block := by
  rcases pending with both | ⟨there, later⟩ | done
  · rcases List.sublist_cons_iff.mp both with both | ⟨rest, same, -⟩
    · exact .inl both
    · exact absurd same (by simp)
  · rcases List.sublist_cons_iff.mp later with later | ⟨rest, same, -⟩
    · exact .inr (.inl ⟨by rwa [executed_eq], later⟩)
    · obtain ⟨rfl, -⟩ : block = delivered ∧ [] = rest := by
        simpa using List.cons.inj same
      exact .inr (.inr (self there))
  · exact .inr (.inr (more done))

/-- An event keeps a collection sound, and what was pending is pending for the events that follow. -/
theorem Sound.step (h : Sound requests answer Inv collection)
    (renders : RendersAs settings engine requests answer Inv) (quiet : onFailure.Quiet)
    (event : Event) (events : Schedule) :
    ∃ after, collection.step settings engine requests onFailure event = (.ok (), after) ∧
      Sound requests answer Inv after ∧
      ∀ block, requests.lookup block ≠ none → collection.Pending (event :: events) block →
        after.Pending events block := by
  cases event with
  | execute executed =>
    exact ⟨_, rfl, h.execute renders executed, fun block asked pending => pending.execute asked⟩
  | deliver delivered =>
    obtain ⟨after, run, sound⟩ := h.deliver renders quiet delivered
    have executed_eq := executed_deliver onFailure collection delivered
    rw [run] at executed_eq
    obtain ⟨more, self⟩ := delivered_of_deliver run
    exact ⟨after, run, sound, fun block _ pending => pending.deliver executed_eq (more block) self⟩

/-- Along a schedule a collection stays sound, and what was pending is delivered. -/
theorem Sound.run (renders : RendersAs settings engine requests answer Inv) (quiet : onFailure.Quiet)
    (events : Schedule) :
    ∀ {collection : Collection ε σ}, Sound requests answer Inv collection →
      ∃ after, collection.run settings engine requests onFailure events = (.ok (), after) ∧
        Sound requests answer Inv after ∧
        ∀ block, requests.lookup block ≠ none → collection.Pending events block →
          after.delivered.lookup block ≠ none := by
  induction events with
  | nil =>
    intro collection h
    refine ⟨collection, rfl, h, fun block _ pending => ?_⟩
    rcases pending with both | ⟨-, later⟩ | done
    · exact absurd (List.sublist_nil.mp both) (by simp)
    · exact absurd (List.sublist_nil.mp later) (by simp)
    · exact done
  | cons event events ih =>
    intro collection h
    obtain ⟨between, first, sound, pending⟩ := h.step renders quiet event events
    obtain ⟨after, rest, sound', delivered⟩ := ih sound
    refine ⟨after, ?_, sound', fun block asked now => delivered block asked (pending block asked now)⟩
    unfold Collection.run
    rw [first]
    exact rest

end Collection

/-- A schedule that executes and then delivers every block with a request gives all answers. -/
theorem renderRequests_eq {settings : Settings} {engine : Engine ε} {requests : List (Nat × Request)}
    {answer : Request → RenderResult} {Inv : Session ε → Prop} {onFailure : OnFailure σ}
    {schedule : Schedule} {session : Session ε}
    (renders : RendersAs settings engine requests answer Inv) (quiet : onFailure.Quiet)
    (complete : ∀ block ∈ requests.map Prod.fst,
      [Event.execute block, .deliver block].Sublist schedule)
    (start : Inv session) (noted : σ) :
    ∃ results after noted', renderRequests settings engine requests onFailure schedule noted session =
        (.ok (results, noted'), after) ∧ DeliveredAll answer requests results ∧ Inv after := by
  cases nothing : requests.isEmpty with
  | true =>
    obtain rfl := List.isEmpty_iff.mp nothing
    exact ⟨[], session, noted, rfl, ⟨fun _ => rfl, List.nodup_nil⟩, start⟩
  | false =>
    have inv := renders.note session start 2 (renderingText settings requests)
    have started : Collection.Sound requests answer Inv (Collection.start noted (session.withHost
        (session.rig.host.note 2 (renderingText settings requests)))) :=
      ⟨fun _ _ found => absurd found (by simp [Collection.start]),
        fun _ _ found => absurd found (by simp [Collection.start]), List.nodup_nil, inv⟩
    obtain ⟨after, run, sound, delivered⟩ := started.run renders quiet schedule
    refine ⟨after.delivered, after.session, after.noted, ?_, ⟨fun block => ?_, sound.distinct⟩, sound.session⟩
    · rw [renderRequests, nothing]
      simp only [Bool.false_eq_true, if_false, run]
    · cases asked : requests.lookup block with
      | none =>
        refine Option.eq_none_iff_forall_ne_some.mpr fun result found => ?_
        obtain ⟨request, listed, -⟩ := sound.delivered block result found
        rw [asked] at listed
        exact absurd listed (by simp)
      | some request =>
        have listed : block ∈ requests.map Prod.fst := List.mem_map_of_mem (mem_of_lookup asked)
        obtain ⟨result, found⟩ := Option.ne_none_iff_exists'.mp
          (delivered block (by simp [asked]) (.inl (complete block listed)))
        obtain ⟨other, listed', rfl⟩ := sound.delivered block result found
        rw [asked] at listed'
        rw [found, Option.some.inj listed']
        rfl

end TypstFences
