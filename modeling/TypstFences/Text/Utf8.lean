import TypstFences.Text.Basic

/-!
# UTF-8

Text as bytes and back. Strict decoding refuses bytes that are not well formed; lenient decoding puts
one replacement character for every maximal prefix of a sequence that cannot be completed.
-/

set_option autoImplicit false

namespace TypstFences.Text

/-- The UTF-8 bytes of a text. -/
def encodeUtf8 (text : Text) : Bytes := (String.ofList text).toUTF8.data.toList

/-- The text whose UTF-8 bytes are given, if they are well formed. -/
def decodeUtf8? (bytes : Bytes) : Option Text :=
  (String.fromUTF8? ⟨bytes.toArray⟩).map String.toList

/-- A sequence that has begun: how many bytes are still to come, the range the next one must lie in,
and the bits collected so far. -/
structure Utf8Sequence where
  missing : Nat
  low : Nat
  high : Nat
  bits : Nat

/-- What a first byte does: it is a character, it begins a sequence, or it is ill formed. -/
def beginUtf8 (byte : Nat) : Text × Option Utf8Sequence :=
  if byte ≤ 0x7f then ([Char.ofNat byte], none)
  else if 0xc2 ≤ byte ∧ byte ≤ 0xdf then ([], some ⟨1, 0x80, 0xbf, byte % 0x20⟩)
  else if byte = 0xe0 then ([], some ⟨2, 0xa0, 0xbf, 0⟩)
  else if byte = 0xed then ([], some ⟨2, 0x80, 0x9f, 0xd⟩)
  else if 0xe1 ≤ byte ∧ byte ≤ 0xef then ([], some ⟨2, 0x80, 0xbf, byte % 0x10⟩)
  else if byte = 0xf0 then ([], some ⟨3, 0x90, 0xbf, 0⟩)
  else if 0xf1 ≤ byte ∧ byte ≤ 0xf3 then ([], some ⟨3, 0x80, 0xbf, byte % 0x8⟩)
  else if byte = 0xf4 then ([], some ⟨3, 0x80, 0x8f, 4⟩)
  else (['\uFFFD'], none)

/-- Lenient decoding, with the sequence that the bytes so far have begun. -/
def decodeUtf8From : Option Utf8Sequence → Bytes → Text
  | none, [] => []
  | some _, [] => ['\uFFFD']
  | none, byte :: rest =>
    let (shown, begun) := beginUtf8 byte.toNat
    shown ++ decodeUtf8From begun rest
  | some sequence, byte :: rest =>
    if sequence.low ≤ byte.toNat ∧ byte.toNat ≤ sequence.high then
      let bits := sequence.bits * 0x40 + byte.toNat % 0x40
      if sequence.missing = 1 then Char.ofNat bits :: decodeUtf8From none rest
      else decodeUtf8From (some ⟨sequence.missing - 1, 0x80, 0xbf, bits⟩) rest
    else
      let (shown, begun) := beginUtf8 byte.toNat
      '\uFFFD' :: shown ++ decodeUtf8From begun rest

/-- The text of arbitrary bytes, with replacement characters for what is ill formed. -/
def decodeUtf8Lossy (bytes : Bytes) : Text := decodeUtf8From none bytes

end TypstFences.Text
