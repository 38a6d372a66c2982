import TypstFences.Host
import TypstFences.PassError

/-!
# Engines

A typesetting engine takes a source and replies with a result, or that it was given up, or with the error it
crashed with. It may change its own state and the host. The rig of an engine also keeps the sources that
were submitted to it, so that what an engine was asked can be stated.
-/

set_option autoImplicit false

namespace TypstFences

/-- What an engine replies to a source. -/
inductive Reply where
  | finished (result : RenderResult)
  | timedOut (timeout : Timeout)
  | crashed (error : PassError)
  deriving DecidableEq, Inhabited

/-- The state of an engine, the sources submitted to it from the first to the last, and its host. -/
structure Rig (ε : Type) where
  state : ε
  submitted : List Text
  host : Host
  deriving Inhabited

namespace Rig

variable {ε : Type}

/-- The rig with one more message in the log of its host. -/
def note (rig : Rig ε) (level : Int) (message : Text) : Rig ε :=
  { rig with host := rig.host.note level message }

/-- The rig with one more source submitted. -/
def submit (rig : Rig ε) (source : Text) : Rig ε :=
  { rig with submitted := rig.submitted ++ [source] }

end Rig

/-- An engine: the root below which it finds other files, its version, which it may fail to tell, and what it
makes of a source. -/
structure Engine (ε : Type) where
  root : Option Text
  version : Rig ε → Except PassError Text × Rig ε
  compile : Text → Rig ε → Reply × Rig ε

/-- An engine without a state that answers each source in one way. -/
def Engine.pure (version : Text) (root : Option Text) (answer : Text → RenderResult) :
    Engine Unit where
  root := root
  version := fun rig => (.ok version, rig)
  compile := fun source rig => (.finished (answer source), rig)

end TypstFences
