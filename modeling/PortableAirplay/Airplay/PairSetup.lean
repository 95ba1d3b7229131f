import PortableAirplay.Airplay.Pairing
import PortableAirplay.Platform.Net

/-!
# Transient pair-setup

The TLV8 messages and the SRP exchange of `airplay/pairing.c`. The hash, the key
derivation and the group are parameters; the random numbers of a session and a
failing primitive are inputs.
-/

set_option autoImplicit false

namespace PortableAirplay.Airplay

open PortableAirplay.Library
open PortableAirplay.Platform

/-! ## TLV8 -/

/-- The loop of `tlv_get`, with the bytes collected, whether the type has been
found, and the type and size of the previous fragment. At most `fuel`
fragments. -/
def tlvLoop (type : UInt8) (capacity : ℕ) :
    ℕ → List UInt8 → Bool → Option (UInt8 × UInt8) → List UInt8 → Option (List UInt8)
  | 0, _, _, _, _ => none
  | fuel + 1, used, found, previous, input =>
      match input with
      | [] => if found then some used else none
      | [_] => none
      | t :: n :: rest =>
          -- the fragment is cut off
          if n.toNat > rest.length then none
          else if t = type then
            -- a value goes on only in the fragment right after a full one
            if (found = true ∧ previous ≠ some (type, 255)) ∨ n.toNat > capacity - used.length then
              none
            else
              tlvLoop type capacity fuel (used ++ rest.take n.toNat) true (some (t, n))
                (rest.drop n.toNat)
          else tlvLoop type capacity fuel used found (some (t, n)) (rest.drop n.toNat)

/-- `tlv_get`: the value, `none` for -1. -/
def tlvGet (input : List UInt8) (type : UInt8) (capacity : ℕ) : Option (List UInt8) :=
  tlvLoop type capacity (input.length + 1) [] false none input

/-- The loop of `tlv_put`. At most `fuel` fragments. -/
def tlvFragments (capacity : ℕ) (type : UInt8) :
    ℕ → List UInt8 → List UInt8 → Option (List UInt8)
  | 0, _, _ => none
  | fuel + 1, out, data =>
      let n := min data.length 255
      -- type, size and the bytes must fit
      if out.length > capacity ∨ n + 2 > capacity - out.length then none
      else
        -- an empty value still has one fragment
        let out := out ++ type :: UInt8.ofNat n :: data.take n
        let rest := data.drop n
        if rest = [] then some out else tlvFragments capacity type fuel out rest

/-- `tlv_put`: the extended output, `none` for -1. -/
def tlvPut (capacity : ℕ) (out : List UInt8) (type : UInt8) (data : List UInt8) :
    Option (List UInt8) :=
  tlvFragments capacity type (data.length + 1) out data

/-! ## SRP -/

/-- What the exchange takes from the crypto library: SHA-512, HKDF with SHA-512
(salt, key and info) and the 3072-bit prime in network order. -/
structure SrpPrimitives where
  sha512 : List UInt8 → List UInt8
  hkdf : List UInt8 → List UInt8 → List UInt8 → List UInt8
  prime : List UInt8

/-- The environment of one message: whether the memory pool is ready, the salt and
the secret drawn for a new session (`none` when a primitive fails), and whether
the primitives of a verification succeed. -/
structure PairSetupIo where
  memoryReady : Bool
  random : Option (List UInt8 × List UInt8)
  verifies : Bool

/-- `minimal`: leading zeros are dropped, but for one byte. -/
def minimal : List UInt8 → List UInt8
  | 0 :: b :: rest => minimal (b :: rest)
  | data => data

/-- The bytes of a number without leading zeros. -/
def mpiBytes (n : ℕ) : List UInt8 :=
  (beBytes srpBytes n).dropWhile (· = 0)

/-- The numbers of a session with the given salt and secret. -/
def srpSession (c : SrpPrimitives) (salt random : List UInt8) : Srp :=
  let n := beNat c.prime
  let b := beNat random
  let x := beNat (c.sha512 (salt ++ c.sha512 (ascii "Pair-Setup:3939")))
  let v := 5 ^ x % n
  let k := beNat (c.sha512 (c.prime ++ List.replicate (srpBytes - 1) 0 ++ [5]))
  ⟨v, b, salt, beBytes srpBytes ((5 ^ b % n + k * v) % n)⟩

/-- `begin`: the context with a new session, `none` for a failure. -/
def pairBegin (c : SrpPrimitives) (io : PairSetupIo) : Option Pairing :=
  match io.random with
  | none => none
  | some (salt, random) => some { pairingClose with srp := some (srpSession c salt random) }

/-- The hash of the shared secret, or `none` where `verify` gives up. -/
def srpKey (c : SrpPrimitives) (s : Srp) (a : List UInt8) : Option (List UInt8) :=
  let n := beNat c.prime
  let padded := List.replicate (srpBytes - a.length) 0 ++ a
  let u := beNat (c.sha512 (padded ++ s.publicKey))
  let secret := (s.v ^ u % n * beNat a % n) ^ s.b % n
  -- a zero here would give the key away
  if beNat a % n = 0 ∨ u = 0 ∨ secret = 0 then none else some (c.sha512 (mpiBytes secret))

/-- `expected`: the proof that the sender must give. -/
def srpProof (c : SrpPrimitives) (s : Srp) (a key : List UInt8) : List UInt8 :=
  let padded := List.replicate (srpBytes - a.length) 0 ++ a
  let hn := List.zipWith (· ^^^ ·) (c.sha512 c.prime) (c.sha512 [5])
  c.sha512 (hn ++ c.sha512 (ascii "Pair-Setup") ++ minimal s.salt ++ minimal padded ++
    minimal s.publicKey ++ key)

/-- `verify`: the established context and the answer, `none` for -1. -/
def pairVerify (c : SrpPrimitives) (io : PairSetupIo) (p : Pairing) (a proof : List UInt8) :
    Option (Pairing × List UInt8) :=
  match p.srp with
  | none => none
  | some s =>
      if a = [] ∨ a.length > srpBytes ∨ io.verifies = false then none
      else
        match srpKey c s a with
        | none => none
        | some key =>
            if srpProof c s a key ≠ proof then none
            else
              let padded := List.replicate (srpBytes - a.length) 0 ++ a
              some
                ({ p with
                    -- what this side writes is what the controller reads
                    writeKey := c.hkdf (ascii "Control-Salt") key
                      (ascii "Control-Read-Encryption-Key")
                    readKey := c.hkdf (ascii "Control-Salt") key
                      (ascii "Control-Write-Encryption-Key")
                    sharedSecret := key.take 32
                    established := true },
                  c.sha512 (minimal padded ++ proof ++ key))

/-! ## Messages -/

/-- The checks of a state-1 message. -/
def wantsTransient (input : List UInt8) : Bool :=
  match tlvGet input 0 1, tlvGet input 0x13 1 with
  | some [method], some [flags] => method == 0 && flags &&& 0x10 != 0
  | _, _ => false

/-- The branch for state 1: the context and the answer, `none` for an error. -/
def pairStart (c : SrpPrimitives) (io : PairSetupIo) (input : List UInt8) (capacity : ℕ) :
    Option (Pairing × List UInt8) :=
  if wantsTransient input = false then none
  else do
    let p ← pairBegin c io
    let s ← p.srp
    let out ← tlvPut capacity [] 6 [2]
    let out ← tlvPut capacity out 2 s.salt
    let out ← tlvPut capacity out 3 s.publicKey
    some (p, out)

/-- The branch for state 3. The session is consumed. -/
def pairFinish (c : SrpPrimitives) (io : PairSetupIo) (p : Pairing) (input : List UInt8)
    (capacity : ℕ) : Option (Pairing × List UInt8) := do
  let a ← tlvGet input 3 srpBytes
  let proof ← tlvGet input 4 64
  if proof.length ≠ 64 then none
  else
    let (p, answer) ← pairVerify c io p a proof
    let out ← tlvPut capacity [] 6 [4]
    let out ← tlvPut capacity out 4 answer
    some ({ p with srp := none }, out)

/-- The error answer to a message with the given state. -/
def pairError (state : UInt8) (capacity : ℕ) : Option (List UInt8) := do
  -- the state that would have answered the message, and error 2
  let out ← tlvPut capacity [] 6 [if state = 3 then 4 else 2]
  tlvPut capacity out 7 [2]

/-- `pairing_setup`: the context and the answer, `none` for -1. -/
def pairingSetup (c : SrpPrimitives) (io : PairSetupIo) (p : Pairing) (input : List UInt8)
    (capacity : ℕ) : Pairing × Option (List UInt8) :=
  if io.memoryReady = false ∨ capacity < 6 then (p, none)
  else
    match tlvGet input 6 1 with
    | some [state] =>
        -- an established pairing is not opened again
        if p.established then (p, none)
        else
          let answer :=
            if state = 1 then pairStart c io input capacity
            else if state = 3 then pairFinish c io p input capacity
            else none
          match answer with
          | some (p, out) => (p, some out)
          -- any failure closes the pairing, before the error is written
          | none => (pairingClose, pairError state capacity)
    | _ => (p, none)

/-! ## Facts about the exchange -/

/-- An established context answers no further message and does not change. -/
theorem pairingSetup_of_established (c : SrpPrimitives) (io : PairSetupIo) {p : Pairing}
    (input : List UInt8) (capacity : ℕ) (hbefore : p.established = true) :
    pairingSetup c io p input capacity = (p, none) := by
  rw [pairingSetup]
  by_cases hready : io.memoryReady = false ∨ capacity < 6
  · rw [if_pos hready]
  · rw [if_neg hready]
    split
    · rw [if_pos hbefore]
    · rfl

theorem tlvFragments_length (capacity : ℕ) (type : UInt8) (fuel : ℕ) :
    ∀ out data reply : List UInt8, tlvFragments capacity type fuel out data = some reply →
      reply.length ≤ capacity := by
  induction fuel with
  | zero =>
      intro out data reply h
      exact absurd h (by simp [tlvFragments])
  | succ fuel ih =>
      intro out data reply h
      rw [tlvFragments] at h
      split at h
      · exact absurd h (by simp)
      · rename_i hroom
        dsimp only at h
        split at h
        · rw [Option.some.injEq] at h
          rw [not_or, Nat.not_lt, Nat.not_lt] at hroom
          have htake : (data.take (min data.length 255)).length ≤ min data.length 255 :=
            List.length_take_le _ _
          rw [← h, List.length_append, List.length_cons, List.length_cons]
          omega
        · exact ih _ _ _ h

theorem tlvPut_length {capacity : ℕ} {out : List UInt8} {type : UInt8} {data reply : List UInt8}
    (h : tlvPut capacity out type data = some reply) : reply.length ≤ capacity :=
  tlvFragments_length capacity type _ out data reply h

/-- **The answer fits its buffer.** -/
theorem pairingSetup_length (c : SrpPrimitives) (io : PairSetupIo) (p : Pairing)
    (input : List UInt8) (capacity : ℕ) {reply : List UInt8}
    (h : (pairingSetup c io p input capacity).2 = some reply) : reply.length ≤ capacity := by
  -- each branch ends with a `tlv_put`, which checks the room
  have hstart : ∀ r, pairStart c io input capacity = some r → r.2.length ≤ capacity := by
    intro r hr
    rw [pairStart] at hr
    split at hr
    · exact absurd hr (by simp)
    · simp only [Option.bind_eq_bind, Option.bind_eq_some_iff, Option.some.injEq] at hr
      obtain ⟨q, -, s, -, first, -, second, -, out, hout, rfl⟩ := hr
      exact tlvPut_length hout
  have hfinish : ∀ r, pairFinish c io p input capacity = some r → r.2.length ≤ capacity := by
    intro r hr
    simp only [pairFinish, Option.bind_eq_bind, Option.bind_eq_some_iff] at hr
    obtain ⟨a, -, proof, -, hr⟩ := hr
    split at hr
    · exact absurd hr (by simp)
    · simp only [Option.bind_eq_some_iff, Option.some.injEq] at hr
      obtain ⟨q, -, first, -, out, hout, rfl⟩ := hr
      exact tlvPut_length hout
  have herror : ∀ state r, pairError state capacity = some r → r.length ≤ capacity := by
    intro state r hr
    simp only [pairError, Option.bind_eq_bind, Option.bind_eq_some_iff] at hr
    obtain ⟨first, -, hout⟩ := hr
    exact tlvPut_length hout
  rw [pairingSetup] at h
  split at h
  · exact absurd h (by simp)
  · split at h
    · rename_i state _
      split at h
      · exact absurd h (by simp)
      · dsimp only at h
        generalize hanswer : (if state = 1 then pairStart c io input capacity
          else if state = 3 then pairFinish c io p input capacity else none) = answer at h
        cases answer with
        -- the error is written over the answer that failed
        | none => exact herror state reply h
        | some r =>
            rw [Option.some.injEq] at h
            rw [← h]
            split at hanswer
            · exact hstart r hanswer
            · split at hanswer
              · exact hfinish r hanswer
              · exact absurd hanswer (by simp)
    · exact absurd h (by simp)

end PortableAirplay.Airplay
