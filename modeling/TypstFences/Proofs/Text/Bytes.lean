import TypstFences.Proofs.Render.Payload
import TypstFences.Text.Line

/-!
# Texts in files

A text is stored as its bytes, and the bytes are decoded to no other text (`decodeUtf8?_eq_some`); lenient
decoding gives ASCII characters back (`decodeUtf8Lossy_ascii`). Line endings are unified when a text is
read. That is no change if there are no carriage returns in it, and only then (`unifyLineEndings_eq_self`),
so that the bytes of what was read are those of the file if and only if there are none
(`encodeUtf8_unifyLineEndings`).
-/

set_option autoImplicit false

namespace TypstFences.Text

variable {text : Text} {bytes : Bytes}

/-- Bytes are decoded to the one text that they encode. -/
theorem decodeUtf8?_eq_some : decodeUtf8? bytes = some text ↔ bytes = encodeUtf8 text := by
  unfold decodeUtf8? encodeUtf8 String.fromUTF8?
  constructor
  · intro decoded
    split at decoded
    · rename_i valid
      have same : String.fromUTF8 ⟨bytes.toArray⟩ valid = String.ofList text := by
        rw [← Option.some.inj decoded, String.ofList_toList]
      rw [← same]
      rfl
    · exact absurd decoded (by simp)
  · rintro rfl
    have bytes_eq : (⟨(String.ofList text).toUTF8.data.toList.toArray⟩ : ByteArray) =
        (String.ofList text).toByteArray := rfl
    simp only [bytes_eq]
    rw [dif_pos (String.ofList text).isValidUTF8]
    show some (String.ofList text).toList = some text
    rw [String.toList_ofList]

/-- The bytes of a text of ASCII characters. -/
def ascii (text : Text) : Bytes := text.map fun c => UInt8.ofNat c.toNat

/-- ASCII characters are decoded to themselves. -/
theorem decodeUtf8Lossy_ascii {text : Text} (all : ∀ c ∈ text, c.toNat ≤ 0x7f) :
    decodeUtf8Lossy (ascii text) = text := by
  unfold decodeUtf8Lossy ascii
  induction text with
  | nil => rfl
  | cons c text ih =>
    have small : c.toNat ≤ 0x7f := all c List.mem_cons_self
    have byte : (UInt8.ofNat c.toNat).toNat = c.toNat := by
      rw [UInt8.toNat_ofNat']
      omega
    have shown : beginUtf8 (UInt8.ofNat c.toNat).toNat = ([c], none) := by
      rw [beginUtf8, byte, if_pos small, Char.ofNat_toNat]
    rw [List.map_cons, decodeUtf8From, shown]
    simp only [ih fun d mem => all d (List.mem_cons_of_mem c mem)]
    rfl

/-- There are no carriage returns when line endings are unified. -/
theorem notMem_unifyLineEndings (text : Text) : '\r' ∉ unifyLineEndings text := by
  induction text using unifyLineEndings.induct with
  | case1 => exact List.not_mem_nil
  | case2 rest ih =>
    rw [unifyLineEndings]
    simpa using ih
  | case3 c rest alone ih =>
    rw [unifyLineEndings]
    · rw [List.mem_cons, not_or]
      refine ⟨?_, ih⟩
      split
      · decide
      · rename_i differ
        exact Ne.symm differ
    · exact alone

/-- Line endings are unified already where there is no carriage return. -/
theorem unifyLineEndings_eq_self : unifyLineEndings text = text ↔ '\r' ∉ text := by
  constructor
  · intro same
    rw [← same]
    exact notMem_unifyLineEndings text
  · intro absent
    induction text with
    | nil => rfl
    | cons c rest ih =>
      rw [List.mem_cons, not_or] at absent
      have plain : unifyLineEndings (c :: rest) =
          (if c = '\r' then '\n' else c) :: unifyLineEndings rest := by
        rw [unifyLineEndings]
        rintro _ rfl -
        exact absent.1 rfl
      rw [plain, if_neg (Ne.symm absent.1), ih absent.2]

/-- The bytes stay the same when line endings are unified, if there are no carriage returns, and only then. -/
theorem encodeUtf8_unifyLineEndings (text : Text) :
    encodeUtf8 (unifyLineEndings text) = encodeUtf8 text ↔ '\r' ∉ text :=
  ⟨fun same => unifyLineEndings_eq_self.mp (encodeUtf8_inj same), fun absent =>
    congrArg encodeUtf8 (unifyLineEndings_eq_self.mpr absent)⟩

end TypstFences.Text
