import PortableAirplay.Library.BigEndian

/-!
# RTP packets on the wire

A packet as a value whose counts fit into their fields, and its bytes: the fixed header, the
contributing sources, the extension, the payload and the padding, which ends with its own
length.
-/

set_option autoImplicit false

namespace PortableAirplay.Library

/-- An RTP packet of version 2. The extension is its profile and its words; the padding is
what stands before the byte with its length. -/
structure RtpMessage where
  marker : Bool
  payloadType : Fin 128
  sequence : UInt16
  timestamp : UInt32
  source : UInt32
  contributors : List UInt32
  extension : Option (UInt16 × List UInt32)
  payload : List UInt8
  padding : Option (List UInt8)
  contributors_le : contributors.length ≤ 15
  extension_le : ∀ e ∈ extension, e.2.length ≤ 65535
  padding_le : ∀ fill ∈ padding, fill.length ≤ 254

/-- Words one after the other. -/
def wordBytes (words : List UInt32) : List UInt8 := words.flatMap fun w => beBytes 4 w.toNat

/-- Version 2, whether there is padding and an extension, and the number of sources. -/
def rtpFirstByte (padding extension : Bool) (contributors : ℕ) : UInt8 :=
  UInt8.ofNat (0x80 + padding.toNat * 0x20 + extension.toNat * 0x10 + contributors)

/-- The marker and the payload type. -/
def rtpSecondByte (marker : Bool) (payloadType : ℕ) : UInt8 :=
  UInt8.ofNat (marker.toNat * 0x80 + payloadType)

/-- An extension: its profile, the number of its words, and these. -/
def extensionBytes : Option (UInt16 × List UInt32) → List UInt8
  | none => []
  | some (profile, words) =>
      beBytes 2 profile.toNat ++ (beBytes 2 words.length ++ wordBytes words)

/-- Padding with its length in its last byte. -/
def paddingBytes : Option (List UInt8) → List UInt8
  | none => []
  | some fill => fill ++ [UInt8.ofNat (fill.length + 1)]

namespace RtpMessage

variable (m : RtpMessage)

/-- The fixed header. -/
def headerBytes : List UInt8 :=
  [rtpFirstByte m.padding.isSome m.extension.isSome m.contributors.length,
    rtpSecondByte m.marker m.payloadType] ++
    (beBytes 2 m.sequence.toNat ++ (beBytes 4 m.timestamp.toNat ++ beBytes 4 m.source.toNat))

/-- What follows the fixed header. -/
def restBytes : List UInt8 :=
  wordBytes m.contributors ++ (extensionBytes m.extension ++ (m.payload ++ paddingBytes m.padding))

/-- The packet on the wire. -/
def bytes : List UInt8 := m.headerBytes ++ m.restBytes

@[simp] theorem headerBytes_length : m.headerBytes.length = 12 := by
  simp [headerBytes]

end RtpMessage

/-! ## Lengths -/

theorem wordBytes_cons (w : UInt32) (words : List UInt32) :
    wordBytes (w :: words) = beBytes 4 w.toNat ++ wordBytes words := List.flatMap_cons

@[simp] theorem wordBytes_length (words : List UInt32) :
    (wordBytes words).length = 4 * words.length := by
  induction words with
  | nil => rfl
  | cons w words ih =>
      rw [wordBytes_cons, List.length_append, beBytes_length, ih, List.length_cons]
      omega

/-- Every byte string of a whole number of words is one of words. -/
theorem exists_wordBytes (n : ℕ) :
    ∀ bytes : List UInt8, bytes.length = 4 * n →
      ∃ words : List UInt32, words.length = n ∧ wordBytes words = bytes := by
  induction n with
  | zero =>
      intro bytes h
      exact ⟨[], rfl, (List.eq_nil_of_length_eq_zero h).symm⟩
  | succ n ih =>
      intro bytes h
      obtain ⟨words, hlength, hwords⟩ := ih (bytes.drop 4) (by rw [List.length_drop]; omega)
      refine ⟨read32 bytes 0 :: words, by rw [List.length_cons, hlength], ?_⟩
      rw [wordBytes_cons, beBytes_read32 (by omega), hwords, List.drop_zero]
      exact List.take_append_drop 4 bytes

theorem extensionBytes_length (e : UInt16 × List UInt32) :
    (extensionBytes (some e)).length = 4 + 4 * e.2.length := by
  rw [extensionBytes, List.length_append, List.length_append, beBytes_length, beBytes_length,
    wordBytes_length]
  omega

theorem paddingBytes_length (fill : List UInt8) :
    (paddingBytes (some fill)).length = fill.length + 1 := by
  rw [paddingBytes, List.length_append, List.length_singleton]

end PortableAirplay.Library
