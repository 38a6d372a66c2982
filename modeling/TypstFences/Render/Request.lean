import TypstFences.Json.Writer
import TypstFences.Text.Utf8
import TypstFences.Text.Line
import TypstFences.Digest.Sha256
import TypstFences.HiddenLines
import TypstFences.Registry

/-!
# Render requests

What is asked of the typesetting engine for one block: a source, with or without the preamble. The
digest of a request names its artifact; it is taken from a canonical JSON text of everything that the
artifact depends on, so that requests which differ in any of it have different texts.
-/

set_option autoImplicit false

namespace TypstFences

/-- The source of a block and whether the preamble belongs in front of it. -/
structure Request where
  source : Text
  usesPreamble : Bool
  deriving DecidableEq, Inhabited

namespace Request

/-- The request for a block of a behaviour that is typeset. -/
def ofViews? (behaviour : Behaviour) (views : Views) : Option Request :=
  if behaviour.renders then some ⟨views.compiled, behaviour == .renderWithPreamble⟩ else none

/-- The source that the engine receives: the block alone, or below the preamble and a line feed. -/
def assembled (preamble : Text) (request : Request) : Text :=
  if request.usesPreamble then preamble ++ '\n' :: request.source else request.source

/-- The number of lines of the assembled source in front of the block: none without the preamble, else as
many as the assembled source has line feeds more than the block. -/
def preambleLines (preamble : Text) (request : Request) : Nat :=
  if request.usesPreamble then
    Text.lineFeeds (request.assembled preamble) - Text.lineFeeds request.source
  else 0

/-- The lines in front of the block are those of the preamble and the one that ends with the line feed
below it. -/
theorem preambleLines_eq_lineFeeds (preamble : Text) (request : Request) :
    request.preambleLines preamble = if request.usesPreamble then Text.lineFeeds preamble + 1 else 0 := by
  unfold preambleLines assembled
  cases request.usesPreamble with
  | true =>
    simp only [if_true, Text.lineFeeds, List.count_append, List.count_cons, beq_self_eq_true]
    omega
  | false => rfl

/-- All that an artifact depends on, as a JSON value with its keys in order. The preamble counts only
where it is used. -/
def payload (version preamble format : Text) (root : Option Text) (request : Request) : Json :=
  .object
    [("engine".toList, .string version),
      ("format".toList, .string format),
      ("preamble".toList, .string (if request.usesPreamble then preamble else [])),
      ("root".toList, (root.map Json.string).getD .null),
      ("source".toList, .string request.source),
      ("use_preamble".toList, .bool request.usesPreamble)]

/-- The digest of a request: the key of its artifact in the cache, and the stem of its file names. -/
def digest (version preamble format : Text) (root : Option Text) (request : Request) : Text :=
  Sha256.hexDigest
    (Text.encodeUtf8 ((request.payload version preamble format root).write Json.compact))

end Request

end TypstFences
