import PortableAirplay.Library.BigEndian

/-!
# Paired control records

The pairing context and the sealed records of `airplay/pairing.c`. A record is a
two-byte little-endian length, the ciphertext and a 16-byte tag; the length is
the associated data and the nonce is the message counter.

ChaCha20-Poly1305 is a parameter. The arguments of its two calls are values of
their own (`sealQuery`, `openQuery`), so that an assumption about the cipher can
speak about the calls that the code makes.
-/

set_option autoImplicit false

namespace PortableAirplay.Airplay

open PortableAirplay.Library

/-- `PAIR_RECORD_MAX`: plaintext bytes of one record. -/
def pairRecordMax : ℕ := 1024

/-- `SRP_BYTES`. -/
def srpBytes : ℕ := 384

/-- `srp_t`. The modulus is the same in every session. -/
structure Srp where
  v : ℕ
  b : ℕ
  salt : List UInt8
  publicKey : List UInt8
  deriving DecidableEq

/-- `pairing_t`. -/
structure Pairing where
  srp : Option Srp
  readKey : List UInt8
  writeKey : List UInt8
  sharedSecret : List UInt8
  readCounter : UInt64
  writeCounter : UInt64
  established : Bool
  deriving DecidableEq

/-- 32 zero bytes. -/
def zeroKey : List UInt8 := List.replicate 32 0

/-- `pairing_close`, and the context that a caller zero-initializes. -/
def pairingClose : Pairing := ⟨none, zeroKey, zeroKey, zeroKey, 0, 0, false⟩

/-! ## The cipher -/

/-- The arguments of a call of the cipher, less the tag. -/
structure AeadQuery where
  key : List UInt8
  nonce : List UInt8
  associated : List UInt8
  input : List UInt8
  deriving DecidableEq

/-- ChaCha20-Poly1305 with `setkey`. Encryption gives ciphertext and tag, and
decryption the plaintext; `none` is a nonzero return code. -/
structure Aead where
  encryptAndTag : AeadQuery → Option (List UInt8 × List UInt8)
  authDecrypt : AeadQuery → List UInt8 → Option (List UInt8)

/-! ## Sealing and opening -/

/-- `nonce_bytes`. -/
def nonceBytes (counter : UInt64) : List UInt8 :=
  List.replicate 4 0 ++
    (List.range 8).map fun i => (counter >>> UInt64.ofNat (i * 8)).toUInt8

/-- `record[0] = (uint8_t)size; record[1] = (uint8_t)(size >> 8)`. -/
def recordHeader (size : ℕ) : List UInt8 := [UInt8.ofNat size, UInt8.ofNat (size >>> 8)]

/-- The call of `mbedtls_chachapoly_encrypt_and_tag` in `pairing_seal`, if the
checks before it pass. -/
def sealQuery (p : Pairing) (message : List UInt8) : Option AeadQuery :=
  if !p.established || decide (message.length = 0) || decide (message.length > pairRecordMax) ||
      decide (p.writeCounter = 0xffffffffffffffff) then none
  else some ⟨p.writeKey, nonceBytes p.writeCounter, recordHeader message.length, message⟩

/-- `pairing_seal`: the record, or `none` for -1. -/
def pairingSeal (aead : Aead) (p : Pairing) (message : List UInt8) :
    Pairing × Option (List UInt8) :=
  match sealQuery p message with
  | none => (p, none)
  | some query =>
      match aead.encryptAndTag query with
      | none => (p, none)
      | some (cipher, tag) =>
          ({ p with writeCounter := p.writeCounter + 1 },
            some (recordHeader message.length ++ cipher ++ tag))

/-- `n` of `pairing_open`: the length in the first two bytes. -/
def recordLength (record : List UInt8) : ℕ :=
  (record.getD 0 0).toNat ||| (record.getD 1 0).toNat <<< 8

/-- The call of `mbedtls_chachapoly_auth_decrypt` in `pairing_open` with its tag,
if the checks before it pass. -/
def openQuery (p : Pairing) (record : List UInt8) : Option (AeadQuery × List UInt8) :=
  if !p.established || decide (record.length < 18) ||
      decide (p.readCounter = 0xffffffffffffffff) then none
  else
    let n := recordLength record
    if n = 0 ∨ n > pairRecordMax ∨ record.length ≠ n + 18 then none
    else
      some (⟨p.readKey, nonceBytes p.readCounter, record.take 2, (record.drop 2).take n⟩,
        record.drop (2 + n))

/-- `pairing_open`: the plaintext, or `none` for -1. -/
def pairingOpen (aead : Aead) (p : Pairing) (record : List UInt8) :
    Pairing × Option (List UInt8) :=
  match openQuery p record with
  | none => (p, none)
  | some (query, tag) =>
      match aead.authDecrypt query tag with
      | none => (p, none)
      | some plain => ({ p with readCounter := p.readCounter + 1 }, some plain)

/-! ## Facts about the calls -/

/-- The counter bytes are the counter, least significant byte first. -/
theorem nonceBytes_eq (counter : UInt64) :
    nonceBytes counter = List.replicate 4 0 ++ (beBytes 8 counter.toNat).reverse := by
  have hbytes : ∀ i ∈ List.range 8, (counter >>> UInt64.ofNat (i * 8)).toUInt8 =
      UInt8.ofNat (counter.toNat / 256 ^ i) := by
    intro i hi
    rw [List.mem_range] at hi
    have hshift : (UInt64.ofNat (i * 8)).toNat % 64 = 8 * i := by
      rw [UInt64.toNat_ofNat']
      omega
    apply UInt8.toNat_inj.mp
    rw [UInt64.toNat_toUInt8, UInt64.toNat_shiftRight, hshift, Nat.shiftRight_eq_div_pow,
      UInt8.toNat_ofNat', pow_mul]
    rfl
  rw [nonceBytes, beBytes_reverse, List.map_congr_left hbytes]

/-- **Distinct counters have distinct nonces.** -/
theorem nonceBytes_injective : Function.Injective nonceBytes := by
  intro x y h
  rw [nonceBytes_eq, nonceBytes_eq, List.append_cancel_left_eq, List.reverse_inj] at h
  exact UInt64.toNat_inj.mp (beBytes_inj x.toNat_lt y.toNat_lt h)

/-- The checks of `pairing_seal`. -/
theorem sealQuery_eq_some {p : Pairing} {message : List UInt8} {query : AeadQuery} :
    sealQuery p message = some query ↔
      (p.established = true ∧ 0 < message.length ∧ message.length ≤ pairRecordMax ∧
        p.writeCounter ≠ 0xffffffffffffffff) ∧
      query = ⟨p.writeKey, nonceBytes p.writeCounter, recordHeader message.length, message⟩ := by
  unfold sealQuery
  split
  · rename_i h
    simp only [Bool.or_eq_true, Bool.not_eq_true', decide_eq_true_eq] at h
    constructor
    · intro hnone
      simp at hnone
    · rintro ⟨⟨h1, h2, h3, h4⟩, -⟩
      rcases h with ((h | h) | h) | h
      · simp [h1] at h
      · omega
      · omega
      · exact absurd h h4
  · rename_i h
    simp only [Bool.or_eq_true, Bool.not_eq_true', decide_eq_true_eq, not_or] at h
    obtain ⟨⟨⟨h1, h2⟩, h3⟩, h4⟩ := h
    rw [Option.some.injEq]
    constructor
    · intro hquery
      exact ⟨⟨by simpa using h1, by omega, by omega, h4⟩, hquery.symm⟩
    · rintro ⟨-, hquery⟩
      exact hquery.symm

/-- The call of `pairing_open` reads with the reader's key and counter. -/
theorem openQuery_eq_some {p : Pairing} {record tag : List UInt8} {query : AeadQuery}
    (h : openQuery p record = some (query, tag)) :
    query.key = p.readKey ∧ query.nonce = nonceBytes p.readCounter ∧
      p.readCounter ≠ 0xffffffffffffffff := by
  unfold openQuery at h
  split at h
  · simp at h
  · rename_i hready
    simp only [Bool.or_eq_true, decide_eq_true_eq, not_or] at hready
    dsimp only at h
    split at h
    · simp at h
    · simp only [Option.some.injEq, Prod.mk.injEq] at h
      rw [← h.1]
      exact ⟨rfl, rfl, hready.2⟩

/-- What a seal can do: nothing, or one more message under the next counter. -/
theorem pairingSeal_cases (aead : Aead) (p : Pairing) (message : List UInt8) :
    pairingSeal aead p message = (p, none) ∨
      ∃ query cipher tag, sealQuery p message = some query ∧
        aead.encryptAndTag query = some (cipher, tag) ∧
        pairingSeal aead p message = ({ p with writeCounter := p.writeCounter + 1 },
          some (recordHeader message.length ++ cipher ++ tag)) := by
  unfold pairingSeal
  cases hquery : sealQuery p message with
  | none => exact Or.inl rfl
  | some query =>
      dsimp only
      cases hcipher : aead.encryptAndTag query with
      | none => exact Or.inl rfl
      | some out => exact Or.inr ⟨query, out.1, out.2, rfl, hcipher, rfl⟩

/-- What an open can do: reject and change nothing, or accept under the counter. -/
theorem pairingOpen_cases (aead : Aead) (p : Pairing) (record : List UInt8) :
    pairingOpen aead p record = (p, none) ∨
      ∃ query tag plain, openQuery p record = some (query, tag) ∧
        aead.authDecrypt query tag = some plain ∧
        pairingOpen aead p record =
          ({ p with readCounter := p.readCounter + 1 }, some plain) := by
  unfold pairingOpen
  cases hquery : openQuery p record with
  | none => exact Or.inl rfl
  | some call =>
      obtain ⟨query, tag⟩ := call
      dsimp only
      cases hplain : aead.authDecrypt query tag with
      | none => exact Or.inl rfl
      | some plain => exact Or.inr ⟨query, tag, plain, rfl, hplain, rfl⟩

end PortableAirplay.Airplay
