import TypstFences.Text.Basic
import TypstFences.Text.Blank
import TypstFences.Number.Decimal

/-!
# Render results

What comes back for a request: the pages of an artifact, or a failure with the engine's diagnostic, which is
told with its place in the document.
-/

set_option autoImplicit false

namespace TypstFences

/-- A line of a named document. -/
structure Location where
  document : Text
  line : Int
  deriving DecidableEq, Inhabited

/-- The location in words. -/
def Location.text (location : Location) : Text :=
  location.document ++ ':' :: Text.ofInt location.line

/-- Typeset pages, in order, in one output format. -/
structure Artifact where
  pages : List Bytes
  format : Text
  deriving DecidableEq, Inhabited

/-- Why a block was not typeset: the diagnostic, the kind of failure, and the line of the source that
the diagnostic points to, if it points to one. -/
structure Failure where
  diagnostic : Text
  kind : Text
  line : Option Int
  deriving DecidableEq, Inhabited

/-- The kind of a failure that the engine finds in the source. -/
def compileKind : Text := "compile".toList

/-- The kind of a failure to finish in time. -/
def timeoutKind : Text := "timeout".toList

/-- The kind of a failure of the engine itself. -/
def engineKind : Text := "engine".toList

/-- The answer to a request. -/
inductive RenderResult where
  | artifact (artifact : Artifact)
  | failure (failure : Failure)
  deriving DecidableEq, Inhabited

namespace RenderResult

/-- The artifact that a result is. -/
def artifact? : RenderResult → Option Artifact
  | .artifact found => some found
  | .failure _ => none

/-- The failure that a result is. -/
def failure? : RenderResult → Option Failure
  | .artifact _ => none
  | .failure found => some found

end RenderResult

/-- A failure with its place in a document. -/
structure BlockFailure where
  location : Location
  diagnostic : Text
  kind : Text
  deriving DecidableEq, Inhabited

/-- The failure in words: its place and kind, and below them the diagnostic. -/
def BlockFailure.text (failure : BlockFailure) : Text :=
  failure.location.text ++ " [".toList ++ failure.kind ++ "]\n".toList ++
    Text.trimEnd failure.diagnostic

/-- An engine run that was abandoned: the seconds it was given, and what else is known. -/
structure Timeout where
  seconds : Binary64
  detail : Text
  deriving DecidableEq, Inhabited

/-- The timeout in words. -/
def Timeout.message (timeout : Timeout) : Text :=
  "Engine did not finish within ".toList ++ timeout.seconds.generalText 6 ++ ['s'] ++
    if timeout.detail.isEmpty then [] else ": ".toList ++ timeout.detail

end TypstFences
