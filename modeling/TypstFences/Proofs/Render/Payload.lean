import TypstFences.Proofs.Json.Texts
import TypstFences.Render.Request

/-!
# What a digest is taken of

The bytes of which the digest of a request is taken tell everything that its artifact depends on
(`payloadBytes_inj`): the version and the root of the engine, the format, the source, whether the
preamble is used, and the preamble if it is. Hence they tell the source that the engine receives and
how many of its lines stand in front of the block (`assembled_eq`, `preambleLines_eq`).
-/

set_option autoImplicit false

namespace TypstFences

/-- Different texts have different bytes. -/
theorem Text.encodeUtf8_inj {text other : Text} (same : encodeUtf8 text = encodeUtf8 other) :
    text = other := by
  have arrays := Array.toList_inj.mp same
  have strings : (String.ofList text).toUTF8 = (String.ofList other).toUTF8 :=
    ByteArray.ext arrays
  exact String.ofList_injective (String.toByteArray_inj.mp strings)

namespace Request

variable {version version' preamble preamble' format format' : Text} {root root' : Option Text}
variable {request request' : Request}

/-- The bytes of which the digest of a request is taken. -/
def payloadBytes (version preamble format : Text) (root : Option Text) (request : Request) : Bytes :=
  Text.encodeUtf8 ((request.payload version preamble format root).write Json.compact)

/-- The digest is that of the payload. -/
theorem digest_eq (version preamble format : Text) (root : Option Text) (request : Request) :
    request.digest version preamble format root =
      Sha256.hexDigest (request.payloadBytes version preamble format root) := rfl

/-- The preamble of a request: the one there is, where it is used. -/
def preambleText (preamble : Text) (request : Request) : Text :=
  if request.usesPreamble then preamble else []

/-- The payload tells everything that an artifact depends on. -/
theorem payloadBytes_inj (same : request.payloadBytes version preamble format root =
      request'.payloadBytes version' preamble' format' root') :
    version = version' ∧ format = format' ∧ root = root' ∧ request = request' ∧
      request.preambleText preamble = request'.preambleText preamble' := by
  have written := Text.encodeUtf8_inj same
  have simple_root (root : Option Text) : Json.IsSimple ((root.map Json.string).getD .null) := by
    cases root with
    | none => exact .null
    | some text => exact .string text
  have fields := Json.write_object_inj (by rfl)
    (by simp [simple_root, Json.IsSimple.string, Json.IsSimple.bool])
    (by simp [simple_root, Json.IsSimple.string, Json.IsSimple.bool]) written
  simp only [List.cons.injEq, Prod.mk.injEq, Json.string.injEq, Json.bool.injEq, true_and,
    and_true] at fields
  obtain ⟨versions, formats, preambles, roots, sources, uses⟩ := fields
  have roots_eq : root = root' := by
    cases root <;> cases root' <;> simp_all
  have requests_eq : request = request' := by
    cases request
    cases request'
    simp_all
  exact ⟨versions, formats, roots_eq, requests_eq, preambles⟩

/-- The source that the engine receives depends on what the payload tells. -/
theorem assembled_eq (same : request.preambleText preamble = request.preambleText preamble') :
    request.assembled preamble = request.assembled preamble' := by
  rw [assembled, assembled]
  split
  · rename_i uses
    rw [preambleText, preambleText, if_pos uses, if_pos uses] at same
    rw [same]
  · rfl

/-- The number of lines in front of the block depends on what the payload tells. -/
theorem preambleLines_eq (same : request.preambleText preamble = request.preambleText preamble') :
    request.preambleLines preamble = request.preambleLines preamble' := by
  rw [preambleLines, preambleLines]
  split
  · rename_i uses
    rw [preambleText, preambleText, if_pos uses, if_pos uses] at same
    rw [same]
  · rfl

end Request

end TypstFences
