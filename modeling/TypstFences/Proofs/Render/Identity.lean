import TypstFences.Proofs.Cache.Names
import TypstFences.Proofs.Render.Payload
import TypstFences.Render.Submission

/-!
# When two renders have one key

Two requests are the same render if their sources agree, the preamble is used by both or by neither,
and the versions, formats and roots of the engines agree; the preambles have to agree only where they
are used. The canonical texts of which the digests are taken are equal just then, for texts of any
characters: each value is written in quotes and read back, and the root that there is not is no text.
So, as long as the hash does not collide on these two texts, one key and one name of a page file stand
for one render.
-/

set_option autoImplicit false

namespace TypstFences

/-- Everything that the digest of a request is made of. -/
structure DigestInput where
  request : Request
  preamble : Text
  version : Text
  format : Text
  root : Option Text
  deriving DecidableEq

namespace DigestInput

variable {input other : DigestInput}

/-- The canonical JSON text that is hashed. -/
def text (input : DigestInput) : Text :=
  (input.request.payload input.version input.preamble input.format input.root).write Json.compact

def digest (input : DigestInput) : Text :=
  input.request.digest input.version input.preamble input.format input.root

/-- What the pipeline takes the digest of: the request, the settings, the root of the engine, and the version
that the engine tells. -/
def ofEngine {ε : Type} (settings : Settings) (engine : Engine ε) (version : Text) (request : Request) :
    DigestInput where
  request := request
  preamble := settings.preamble
  version := version
  format := settings.outputFormat
  root := engine.root

/-- Two inputs stand for one render. -/
structure SameRender (input other : DigestInput) : Prop where
  source : input.request.source = other.request.source
  usesPreamble : input.request.usesPreamble = other.request.usesPreamble
  version : input.version = other.version
  format : input.format = other.format
  root : input.root = other.root
  preamble : input.request.usesPreamble = true → input.preamble = other.preamble

/-- A digest is the hash of the bytes of its text. -/
theorem digest_eq_hash (input : DigestInput) :
    input.digest = Sha256.hexDigest (Text.encodeUtf8 input.text) := rfl

/-- The pipeline takes that digest, unless the engine does not tell its version. -/
theorem requestDigest_fst {ε : Type} (settings : Settings) (engine : Engine ε) (request : Request)
    (rig : Rig ε) :
    (requestDigest settings engine request rig).1 =
      (engine.version rig).1.map fun version => (ofEngine settings engine version request).digest := by
  rw [requestDigest_eq_map]
  rfl

/-- Inputs for the same rendering have the same request. -/
theorem SameRender.request (same : input.SameRender other) : input.request = other.request := by
  have sources := same.source
  have uses := same.usesPreamble
  cases hInput : input.request
  cases hOther : other.request
  simp_all

/-- Of one render, one text is hashed. -/
theorem SameRender.text (same : input.SameRender other) : input.text = other.text := by
  have preambles : (if input.request.usesPreamble then input.preamble else []) =
      if input.request.usesPreamble then other.preamble else [] := by
    split
    · exact same.preamble ‹_›
    · rfl
  rw [DigestInput.text, DigestInput.text, Request.payload, Request.payload, preambles, same.request,
    same.version, same.format, same.root]

/-- The text that is hashed tells the render. -/
theorem sameRender_of_text (same : input.text = other.text) : input.SameRender other := by
  obtain ⟨versions, formats, roots, requests, preambles⟩ :=
    Request.payloadBytes_inj (congrArg Text.encodeUtf8 same)
  refine ⟨congrArg Request.source requests, congrArg Request.usesPreamble requests, versions, formats,
    roots, ?_⟩
  intro uses
  -- the payload has the text of the preamble only since the block uses it
  have otherUses : other.request.usesPreamble = true := by rw [← requests]; exact uses
  rwa [Request.preambleText, Request.preambleText, if_pos uses, if_pos otherUses] at preambles

/-- Inputs have the same text if and only if they are for the same rendering. -/
theorem text_eq_iff : input.text = other.text ↔ input.SameRender other :=
  ⟨sameRender_of_text, SameRender.text⟩

/-- Where the hash does not collide on the two texts, one key is one render. -/
theorem digest_eq_iff (noCollision : input.digest = other.digest → input.text = other.text) :
    input.digest = other.digest ↔ input.SameRender other := by
  constructor
  · intro same
    exact sameRender_of_text (noCollision same)
  · intro same
    rw [digest_eq_hash, digest_eq_hash, same.text]

/-- Page files of two keys have one name only if the keys, the pages and the formats agree. -/
theorem pageName_digest_iff {page otherPage : Nat} {format otherFormat : Text} :
    Store.pageName input.digest page format = Store.pageName other.digest otherPage otherFormat ↔
      input.digest = other.digest ∧ page = otherPage ∧ format = otherFormat := by
  constructor
  · intro same
    exact Store.pageName_inj (Store.isKey_hexDigest _) (Store.isKey_hexDigest _) same
  · rintro ⟨keys, rfl, rfl⟩
    rw [keys]

/-- The preamble of a block that does not use it is not hashed. -/
theorem digest_anyPreamble (input : DigestInput) (bare : input.request.usesPreamble = false)
    (preamble : Text) :
    { input with preamble := preamble }.digest = input.digest := by
  have same : SameRender { input with preamble := preamble } input :=
    { source := rfl, usesPreamble := rfl, version := rfl, format := rfl, root := rfl
      preamble := fun uses => absurd (uses.symm.trans bare) (by decide) }
  rw [digest_eq_hash, digest_eq_hash, same.text]

/-- Two texts that are hashed are equal exactly if they stand for one render; where the hash does not
collide on them, so are the keys, and page files have one name exactly if moreover page and format
agree. The preamble does not change the key of a bare block, whatever the settings and the engine. -/
theorem key_identifies_render (input other : DigestInput) :
    (input.text = other.text ↔ input.SameRender other) ∧
    ((input.digest = other.digest → input.text = other.text) →
      (input.digest = other.digest ↔ input.SameRender other) ∧
      ∀ page otherPage format otherFormat,
        Store.pageName input.digest page format = Store.pageName other.digest otherPage otherFormat ↔
          input.SameRender other ∧ page = otherPage ∧ format = otherFormat) ∧
    (input.request.usesPreamble = false → ∀ preamble,
      { input with preamble := preamble }.digest = input.digest) := by
  refine ⟨text_eq_iff, ?_, digest_anyPreamble input⟩
  intro noCollision
  refine ⟨digest_eq_iff noCollision, ?_⟩
  intro page otherPage format otherFormat
  rw [pageName_digest_iff, digest_eq_iff noCollision]

/-- A bare block whose source has a quote and a character outside the basic plane. -/
def quotedBlock : DigestInput where
  request := ⟨['"', '\\', '😀'], false⟩
  preamble := ['#']
  version := ['1']
  format := "svg".toList
  root := none

/-- The same block under a root with the name that the absent root is written with. -/
def quotedBlockInNull : DigestInput := { quotedBlock with root := some "null".toList }

/-- The two blocks are told apart, with all that this rests on computed. -/
theorem quotedBlock_ne_inNull :
    (quotedBlock.digest = quotedBlockInNull.digest → quotedBlock.text = quotedBlockInNull.text) ∧
    quotedBlock.digest ≠ quotedBlockInNull.digest ∧
    { quotedBlock with preamble := [] }.digest = quotedBlock.digest := by
  have differ : quotedBlock.digest ≠ quotedBlockInNull.digest := by decide +kernel
  have noCollision : quotedBlock.digest = quotedBlockInNull.digest →
      quotedBlock.text = quotedBlockInNull.text := fun same => absurd same differ
  obtain ⟨-, keys, bare⟩ := key_identifies_render quotedBlock quotedBlockInNull
  refine ⟨noCollision, ?_, bare rfl []⟩
  intro same
  have roots := ((keys noCollision).1.mp same).root
  exact absurd roots (by decide)

end DigestInput

end TypstFences
