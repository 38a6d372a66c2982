import TypstFences.Render.Submission

/-!
# Schedules

Rendering many requests. The requests are independent of each other, so they may be executed in any
order, and their results may be delivered in any order after their execution. A schedule says which
order it is; the schedule in order executes and delivers one request after the other.
-/

set_option autoImplicit false

namespace TypstFences

/-- An event of a schedule: the request of a block is executed, or its result is delivered. -/
inductive Event where
  | execute (block : Nat)
  | deliver (block : Nat)
  deriving DecidableEq, Inhabited

/-- The order in which blocks are executed and delivered. -/
abbrev Schedule := List Event

/-- One block after the other. -/
def Schedule.inOrder (blocks : List Nat) : Schedule :=
  blocks.flatMap fun block => [.execute block, .deliver block]

/-- What is done when a failure is delivered: it may change what was noted of the failures before it, and an
error ends the rendering. -/
abbrev OnFailure (σ : Type) := Nat → Failure → σ → Host → Except PassError Unit × σ × Host

namespace OnFailure

/-- Nothing is done. -/
def ignore : OnFailure Unit := fun _ _ noted host => (.ok (), noted, host)

end OnFailure

/-- The outcomes of the executions so far, the results delivered so far, what was noted of the failures among
them, and the session. -/
structure Collection (ε σ : Type) where
  executed : List (Nat × Except PassError RenderResult)
  delivered : List (Nat × RenderResult)
  noted : σ
  session : Session ε

namespace Collection

variable {ε σ : Type}

/-- Nothing executed and nothing delivered. -/
def start (noted : σ) (session : Session ε) : Collection ε σ := ⟨[], [], noted, session⟩

/-- The collection after the execution of a block that has a request and was not executed before. -/
def execute (settings : Settings) (engine : Engine ε) (requests : List (Nat × Request)) (block : Nat)
    (collection : Collection ε σ) : Collection ε σ :=
  match requests.lookup block, collection.executed.lookup block with
  | some request, none =>
    let (outcome, session) := renderRequest settings engine request collection.session
    { collection with executed := collection.executed ++ [(block, outcome)], session := session }
  | _, _ => collection

/-- The collection with something else noted of failures, and with a host. -/
def withNoted (collection : Collection ε σ) (noted : σ) (host : Host) : Collection ε σ :=
  { collection with noted := noted, session := collection.session.withHost host }

/-- The collection after the delivery of a block that was executed and not delivered before. -/
def deliver (onFailure : OnFailure σ) (block : Nat) (collection : Collection ε σ) :
    Except PassError Unit × Collection ε σ :=
  match collection.executed.lookup block, collection.delivered.lookup block with
  | some (.ok result), none =>
    let collection := { collection with delivered := collection.delivered ++ [(block, result)] }
    match result with
    | .artifact _ => (.ok (), collection)
    | .failure failure =>
      let (outcome, noted, host) := onFailure block failure collection.noted collection.session.rig.host
      (outcome, collection.withNoted noted host)
  | some (.error error), none => (.error error, collection)
  | _, _ => (.ok (), collection)

/-- The collection after an event. -/
def step (settings : Settings) (engine : Engine ε) (requests : List (Nat × Request))
    (onFailure : OnFailure σ) (collection : Collection ε σ) :
    Event → Except PassError Unit × Collection ε σ
  | .execute block => (.ok (), collection.execute settings engine requests block)
  | .deliver block => collection.deliver onFailure block

/-- The collection after the events of a schedule; an error leaves out those that follow. -/
def run (settings : Settings) (engine : Engine ε) (requests : List (Nat × Request))
    (onFailure : OnFailure σ) : Schedule → Collection ε σ → Except PassError Unit × Collection ε σ
  | [], collection => (.ok (), collection)
  | event :: events, collection =>
    match collection.step settings engine requests onFailure event with
    | (.ok (), collection) => run settings engine requests onFailure events collection
    | (.error error, collection) => (.error error, collection)

end Collection

/-- The number of workers that requests are spread over; one if the settings do not say. -/
def workers (settings : Settings) : Nat := settings.maxWorkers.getD 1

/-- What is noted about the requests that are to be rendered. -/
def renderingText (settings : Settings) (requests : List (Nat × Request)) : Text :=
  "Rendering ".toList ++ Text.ofNat requests.length ++ " block(s) on ".toList ++
    Text.ofNat (min (workers settings) requests.length) ++ " worker(s)".toList

/-- The results of requests in the order of their delivery, and what was noted of the failures among them. -/
def renderRequests {ε σ : Type} (settings : Settings) (engine : Engine ε)
    (requests : List (Nat × Request)) (onFailure : OnFailure σ) (schedule : Schedule) (noted : σ)
    (session : Session ε) : Except PassError (List (Nat × RenderResult) × σ) × Session ε :=
  if requests.isEmpty then (.ok ([], noted), session)
  else
    let session := session.withHost (session.rig.host.note 2 (renderingText settings requests))
    match (Collection.start noted session).run settings engine requests onFailure schedule with
    | (.ok (), collection) => (.ok (collection.delivered, collection.noted), collection.session)
    | (.error error, collection) => (.error error, collection.session)

end TypstFences
