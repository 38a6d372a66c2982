import TypstFences.Files.Glob
import TypstFences.Render.Result
import TypstFences.Template.Basic
import TypstFences.Directive

/-!
# Errors of a pass

Why a pass over a document ends without a result. Errors of the document are told to its author by
their message; the others come from the engine, the files or the settings.
-/

set_option autoImplicit false

namespace TypstFences

/-- Why a pass has no result. -/
inductive PassError where
  | unterminatedFence (location : Location) (fence : Text)
  | invalidDirective (location : Location) (info : Text) (fault : AttributeFault)
  | renderFailure (failures : List BlockFailure)
  | engineCrash (message : Text)
  | undecodableVersion
  | unreadableLine
  | refusedFile (error : FileError)
  | badPattern (fault : GlobFault)
  | badTemplate (fault : TemplateFault)
  | unknownStyle
  | missingKey
  deriving DecidableEq, Inhabited

namespace PassError

/-- What is said about a fence that is not closed. -/
def unterminatedText (location : Location) (fence : Text) : Text :=
  "Unterminated fence '".toList ++ fence ++ "' opened at ".toList ++ location.text

/-- What is said about an info string that is refused for a reason. -/
def invalidText (location : Location) (info reason : Text) : Text :=
  "Invalid directive '".toList ++ info ++ "' at ".toList ++ location.text ++ ": ".toList ++ reason

/-- What is said about blocks that are not typeset. -/
def failuresText (failures : List BlockFailure) : Text :=
  Text.ofNat failures.length ++ " block(s) failed to render:\n".toList ++
    Text.joinWith ['\n'] (failures.map BlockFailure.text)

/-- The message of an error. -/
def message : PassError → Text
  | unterminatedFence location fence => unterminatedText location fence
  | invalidDirective location info fault => invalidText location info fault.message
  | renderFailure failures => failuresText failures
  | engineCrash message => message
  | undecodableVersion => "the version of the engine is no text".toList
  | unreadableLine => "the line number of a diagnostic has too many digits".toList
  | refusedFile error => error.message
  | badPattern _ => "the pattern cannot be used".toList
  | badTemplate _ => "the template cannot be filled".toList
  | unknownStyle => "the style does not exist".toList
  | missingKey => "a block is missing among those collected".toList

/-- Whether an error is about the document. -/
def isDocumentError : PassError → Bool
  | unterminatedFence .. => true
  | invalidDirective .. => true
  | renderFailure _ => true
  | _ => false

end PassError

end TypstFences
