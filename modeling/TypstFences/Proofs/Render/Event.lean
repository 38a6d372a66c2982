import TypstFences.Proofs.Association
import TypstFences.Render.Schedule

/-!
# What an event does

The collection after an event, by one equation for each way it can go: an execution adds the outcome of
a block (`execute_eq`) or changes nothing, and a delivery adds a result, asks what to do about a failure,
or ends in an error (`deliver_artifact`, `deliver_failure`, `deliver_error`). `execute_cases` and
`deliver_cases` say that there are no other ways; what is shown to hold after events is shown by them.
-/

set_option autoImplicit false

namespace TypstFences.Collection

variable {ε σ : Type} {settings : Settings} {engine : Engine ε} {requests : List (Nat × Request)}
variable {onFailure : OnFailure σ} {collection : Collection ε σ} {block : Nat}

/-- The collection after a block was rendered by a request. -/
def addOutcome (settings : Settings) (engine : Engine ε) (collection : Collection ε σ) (block : Nat)
    (request : Request) : Collection ε σ :=
  { collection with
    executed := collection.executed ++
      [(block, (renderRequest settings engine request collection.session).1)]
    session := (renderRequest settings engine request collection.session).2 }

/-- The collection with a result delivered. -/
def addResult (collection : Collection ε σ) (block : Nat) (result : RenderResult) : Collection ε σ :=
  { collection with delivered := collection.delivered ++ [(block, result)] }

/-! ## Executions -/

section Execution

variable {request : Request}

/-- The outcome that is added for a block is found, and all others as before. -/
theorem lookup_addOutcome (absent : collection.executed.lookup block = none) (other : Nat) :
    (collection.addOutcome settings engine block request).executed.lookup other =
      if other = block then some (renderRequest settings engine request collection.session).1
      else collection.executed.lookup other :=
  lookup_concat _ absent

/-- A block with a request that was not executed is rendered. -/
theorem execute_eq (asked : requests.lookup block = some request)
    (absent : collection.executed.lookup block = none) :
    collection.execute settings engine requests block =
      collection.addOutcome settings engine block request := by
  rw [Collection.execute, asked, absent]
  rfl

/-- A block without a request changes nothing, and neither does one that was executed. -/
theorem execute_eq_self
    (idle : requests.lookup block = none ∨ collection.executed.lookup block ≠ none) :
    collection.execute settings engine requests block = collection := by
  unfold Collection.execute
  split
  · rename_i request asked absent
    rcases idle with unasked | executed
    · exact absurd (unasked.symm.trans asked) (by simp)
    · exact absurd absent executed
  · rfl

/-- Executing a block does nothing, or adds its outcome. -/
theorem execute_cases (settings : Settings) (engine : Engine ε) (requests : List (Nat × Request))
    (collection : Collection ε σ) (block : Nat) :
    ((requests.lookup block = none ∨ collection.executed.lookup block ≠ none) ∧
      collection.execute settings engine requests block = collection) ∨
    ∃ request, requests.lookup block = some request ∧ collection.executed.lookup block = none ∧
      collection.execute settings engine requests block =
        collection.addOutcome settings engine block request := by
  cases asked : requests.lookup block with
  | none => exact .inl ⟨.inl rfl, execute_eq_self (.inl asked)⟩
  | some request =>
    cases executed : collection.executed.lookup block with
    | none => exact .inr ⟨request, rfl, rfl, execute_eq asked executed⟩
    | some outcome => exact .inl ⟨.inr (by simp), execute_eq_self (.inr (by simp [executed]))⟩

/-- A block that was executed remains so. -/
theorem executed_execute {other : Nat} (there : collection.executed.lookup other ≠ none) :
    (collection.execute settings engine requests block).executed.lookup other ≠ none := by
  rcases execute_cases settings engine requests collection block with ⟨-, done⟩ |
    ⟨request, -, absent, done⟩
  · rwa [done]
  · rw [done, lookup_addOutcome absent]
    split
    · simp
    · exact there

/-- A block with a request was executed after it is. -/
theorem executed_execute_self (asked : requests.lookup block ≠ none) :
    (collection.execute settings engine requests block).executed.lookup block ≠ none := by
  rcases execute_cases settings engine requests collection block with ⟨idle, done⟩ |
    ⟨request, -, absent, done⟩
  · rw [done]
    exact idle.resolve_left asked
  · rw [done, lookup_addOutcome absent, if_pos rfl]
    simp

/-- Nothing is delivered by executing a block. -/
theorem delivered_execute :
    (collection.execute settings engine requests block).delivered = collection.delivered := by
  rcases execute_cases settings engine requests collection block with ⟨-, done⟩ | ⟨request, -, -, done⟩ <;>
    rw [done]
  rfl

/-- Nothing is noted when a block is executed. -/
theorem noted_execute :
    (collection.execute settings engine requests block).noted = collection.noted := by
  rcases execute_cases settings engine requests collection block with ⟨-, done⟩ | ⟨request, -, -, done⟩ <;>
    rw [done]
  rfl

end Execution

/-! ## Deliveries -/

section Delivery

/-- The result that is added for a block is found, and all others as before. -/
theorem lookup_addResult {result : RenderResult} (absent : collection.delivered.lookup block = none)
    (other : Nat) :
    (collection.addResult block result).delivered.lookup other =
      if other = block then some result else collection.delivered.lookup other :=
  lookup_concat _ absent

/-- What was delivered remains so when a result is added, and the block of the result is delivered. -/
theorem delivered_addResult (result : RenderResult) (absent : collection.delivered.lookup block = none) :
    (∀ other, collection.delivered.lookup other ≠ none →
        (collection.addResult block result).delivered.lookup other ≠ none) ∧
      (collection.addResult block result).delivered.lookup block ≠ none := by
  refine ⟨fun other there => ?_, by rw [lookup_addResult absent, if_pos rfl]; simp⟩
  rw [lookup_addResult absent]
  split
  · simp
  · exact there

/-- An artifact is delivered. -/
theorem deliver_artifact {artifact : Artifact}
    (executed : collection.executed.lookup block = some (.ok (.artifact artifact)))
    (absent : collection.delivered.lookup block = none) :
    collection.deliver onFailure block =
      (.ok (), collection.addResult block (.artifact artifact)) := by
  rw [Collection.deliver, executed, absent]
  rfl

/-- A failure is delivered, and what is done about it says how the delivery ends. -/
theorem deliver_failure {failure : Failure}
    (executed : collection.executed.lookup block = some (.ok (.failure failure)))
    (absent : collection.delivered.lookup block = none) :
    collection.deliver onFailure block =
      let done := onFailure block failure collection.noted collection.session.rig.host
      (done.1, (collection.addResult block (.failure failure)).withNoted done.2.1 done.2.2) := by
  rw [Collection.deliver, executed, absent]
  rfl

/-- An error of an execution is raised when it is delivered. -/
theorem deliver_error {error : PassError}
    (executed : collection.executed.lookup block = some (.error error))
    (absent : collection.delivered.lookup block = none) :
    collection.deliver onFailure block = (.error error, collection) := by
  rw [Collection.deliver, executed, absent]

/-- A block that was not executed changes nothing, and neither does one that was delivered. -/
theorem deliver_eq_self
    (idle : collection.executed.lookup block = none ∨ collection.delivered.lookup block ≠ none) :
    collection.deliver onFailure block = (.ok (), collection) := by
  unfold Collection.deliver
  split
  · rename_i result executed absent
    rcases idle with unexecuted | delivered
    · exact absurd (unexecuted.symm.trans executed) (by simp)
    · exact absurd absent delivered
  · rename_i error executed absent
    rcases idle with unexecuted | delivered
    · exact absurd (unexecuted.symm.trans executed) (by simp)
    · exact absurd absent delivered
  · rfl

/-- Delivering a block does nothing, adds its artifact, tells its failure, or ends with its error. -/
theorem deliver_cases (onFailure : OnFailure σ) (collection : Collection ε σ) (block : Nat) :
    ((collection.executed.lookup block = none ∨ collection.delivered.lookup block ≠ none) ∧
      collection.deliver onFailure block = (.ok (), collection)) ∨
    (∃ artifact, collection.executed.lookup block = some (.ok (.artifact artifact)) ∧
      collection.delivered.lookup block = none ∧ collection.deliver onFailure block =
        (.ok (), collection.addResult block (.artifact artifact))) ∨
    (∃ failure outcome noted host, collection.executed.lookup block = some (.ok (.failure failure)) ∧
      collection.delivered.lookup block = none ∧
      onFailure block failure collection.noted collection.session.rig.host = (outcome, noted, host) ∧
      collection.deliver onFailure block =
        (outcome, (collection.addResult block (.failure failure)).withNoted noted host)) ∨
    ∃ error, collection.executed.lookup block = some (.error error) ∧
      collection.delivered.lookup block = none ∧
      collection.deliver onFailure block = (.error error, collection) := by
  cases executed : collection.executed.lookup block with
  | none => exact .inl ⟨.inl rfl, deliver_eq_self (.inl executed)⟩
  | some outcome =>
    cases absent : collection.delivered.lookup block with
    | some result => exact .inl ⟨.inr (by simp), deliver_eq_self (.inr (by simp [absent]))⟩
    | none =>
      rcases outcome with error | (artifact | failure)
      · exact .inr (.inr (.inr ⟨error, rfl, rfl, deliver_error executed absent⟩))
      · exact .inr (.inl ⟨artifact, rfl, rfl, deliver_artifact executed absent⟩)
      · exact .inr (.inr (.inl ⟨failure, _, _, _, rfl, rfl, rfl, deliver_failure executed absent⟩))

/-- A delivery changes nothing that was executed. -/
theorem executed_deliver (onFailure : OnFailure σ) (collection : Collection ε σ) (block : Nat) :
    (collection.deliver onFailure block).2.executed = collection.executed := by
  rcases deliver_cases onFailure collection block with ⟨-, done⟩ | ⟨_, -, -, done⟩ |
    ⟨_, _, _, _, -, -, -, done⟩ | ⟨_, -, -, done⟩ <;> rw [done] <;> rfl

/-- A delivery delivers a result of an execution, or nothing. -/
theorem delivered_deliver (onFailure : OnFailure σ) (collection : Collection ε σ) (block : Nat) :
    (collection.deliver onFailure block).2.delivered = collection.delivered ∨
    ∃ result, collection.executed.lookup block = some (.ok result) ∧
      collection.delivered.lookup block = none ∧
      (collection.deliver onFailure block).2.delivered = collection.delivered ++ [(block, result)] := by
  rcases deliver_cases onFailure collection block with ⟨-, done⟩ | ⟨artifact, executed, absent, done⟩ |
    ⟨failure, _, _, _, executed, absent, -, done⟩ | ⟨_, -, -, done⟩
  · exact .inl (by rw [done])
  · exact .inr ⟨_, executed, absent, by rw [done]; rfl⟩
  · exact .inr ⟨_, executed, absent, by rw [done]; rfl⟩
  · exact .inl (by rw [done])

/-- What was delivered remains so, and a block that was executed is delivered, unless that ends in an
error. -/
theorem delivered_of_deliver {after : Collection ε σ}
    (done : collection.deliver onFailure block = (.ok (), after)) :
    (∀ other, collection.delivered.lookup other ≠ none → after.delivered.lookup other ≠ none) ∧
      (collection.executed.lookup block ≠ none → after.delivered.lookup block ≠ none) := by
  rcases deliver_cases onFailure collection block with ⟨idle, ends⟩ |
    ⟨artifact, -, absent, ends⟩ | ⟨failure, outcome, noted, host, -, absent, -, ends⟩ | ⟨error, -, -, ends⟩
  · obtain ⟨-, rfl⟩ := Prod.mk.inj (done.symm.trans ends)
    exact ⟨fun _ there => there, idle.resolve_left⟩
  · obtain ⟨-, rfl⟩ := Prod.mk.inj (done.symm.trans ends)
    exact (delivered_addResult _ absent).imp_right fun self _ => self
  · obtain ⟨-, rfl⟩ := Prod.mk.inj (done.symm.trans ends)
    exact (delivered_addResult (.failure failure) absent).imp_right fun self _ => self
  · exact absurd (Prod.mk.inj (done.symm.trans ends)).1 (by simp)

end Delivery

end TypstFences.Collection
