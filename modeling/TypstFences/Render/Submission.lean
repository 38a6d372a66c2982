import TypstFences.Cache.Basic
import TypstFences.Render.Request
import TypstFences.Settings.Field

/-!
# Submission

Asking the engine for a result. A source that is not finished in time is submitted again, up to a number
of times; a result or a crash ends the attempts. The line of a failure is told in the block, not in the
source with the preamble in front.
-/

set_option autoImplicit false

namespace TypstFences

variable {ε : Type}

namespace Submission

/-- A line of the assembled source as a line of the block; a line of the preamble counts as the first
line of the block. -/
def blockLine (preambleLines : Nat) (line : Int) : Int := max (line - preambleLines) 1

/-- A result with the line of a failure told in the block. -/
def relocate (preambleLines : Nat) : RenderResult → RenderResult
  | .artifact artifact => .artifact artifact
  | .failure failure =>
    .failure { failure with line := failure.line.map (blockLine preambleLines) }

/-- The failure of a block that was never finished in time. -/
def exhausted (timeout : Timeout) : RenderResult := .failure ⟨timeout.message, timeoutKind, none⟩

/-- What is noted about an attempt that was not finished in time. -/
def retryText (attempt attempts : Nat) : Text :=
  "Engine timed out (attempt ".toList ++ Text.ofNat attempt ++ '/' :: Text.ofNat attempts ++ [')']

/-- The attempts to have a source compiled, of which `more` are left after the one with number
`attempt`. -/
def attempts (engine : Engine ε) (source : Text) (preambleLines : Nat) :
    Nat → Nat → Rig ε → Except PassError RenderResult × Rig ε
  | more, attempt, rig =>
    match engine.compile source (rig.submit source) with
    | (.finished result, rig) => (.ok (relocate preambleLines result), rig)
    | (.crashed error, rig) => (.error error, rig)
    | (.timedOut timeout, rig) =>
      let rig := rig.note 2 (retryText attempt (attempt + more))
      match more with
      | 0 => (.ok (exhausted timeout), rig)
      | more + 1 => attempts engine source preambleLines more (attempt + 1) rig

end Submission

/-- The result of a request, computed by an engine. -/
def submit (settings : Settings) (engine : Engine ε) (request : Request) (rig : Rig ε) :
    Except PassError RenderResult × Rig ε :=
  Submission.attempts engine (request.assembled settings.preamble)
    (request.preambleLines settings.preamble) settings.timeoutRetries 1 rig

/-- The digest of a request under some settings and an engine, which is asked for its version. -/
def requestDigest (settings : Settings) (engine : Engine ε) (request : Request) (rig : Rig ε) :
    Except PassError Text × Rig ε :=
  match engine.version rig with
  | (.error error, rig) => (.error error, rig)
  | (.ok version, rig) =>
    (.ok (request.digest version settings.preamble settings.outputFormat engine.root), rig)

/-- The result of a request, found in the cache or computed. -/
def renderRequest (settings : Settings) (engine : Engine ε) (request : Request)
    (session : Session ε) : Except PassError RenderResult × Session ε :=
  match requestDigest settings engine request session.rig with
  | (.error error, rig) => (.error error, { session with rig := rig })
  | (.ok digest, rig) => Session.result digest (submit settings engine request) { session with rig := rig }

/-- The key of a request under some settings and an engine of some version. -/
def requestKey (settings : Settings) (engine : Engine ε) (request : Request) (version : Text) : Text :=
  request.digest version settings.preamble settings.outputFormat engine.root

/-- The digest is the key for the version that the engine tells. -/
theorem requestDigest_eq_map (settings : Settings) (engine : Engine ε) (request : Request) (rig : Rig ε) :
    requestDigest settings engine request rig =
      ((engine.version rig).1.map (requestKey settings engine request), (engine.version rig).2) := by
  unfold requestDigest
  rcases engine.version rig with ⟨error | version, after⟩ <;> rfl

/-- A request is rendered under its key as soon as the engine has told its version; an engine that does not
tell it ends the rendering. -/
theorem renderRequest_cases (settings : Settings) (engine : Engine ε) (request : Request)
    (session : Session ε) :
    (∃ error rig, engine.version session.rig = (.error error, rig) ∧
      renderRequest settings engine request session = (.error error, { session with rig := rig })) ∨
    ∃ version rig, engine.version session.rig = (.ok version, rig) ∧
      renderRequest settings engine request session =
        Session.result (requestKey settings engine request version) (submit settings engine request)
          { session with rig := rig } := by
  unfold renderRequest requestDigest
  cases told : engine.version session.rig with
  | mk outcome rig =>
    cases outcome with
    | error error => exact .inl ⟨error, rig, rfl, rfl⟩
    | ok version => exact .inr ⟨version, rig, rfl, rfl⟩

end TypstFences
