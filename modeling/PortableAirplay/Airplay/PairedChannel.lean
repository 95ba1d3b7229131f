import PortableAirplay.Airplay.Pairing
import PortableAirplay.Library.Execution
import PortableAirplay.Platform.Net
import Mathlib.Data.List.Nodup

/-!
# The paired control channel

One direction of a paired connection: a sender that seals messages and a
receiver that opens whatever records an adversary hands it, in any order. The
state remembers the encryptions made under the sender's key, so that the ideal
cipher can be stated: a decryption succeeds only on one of them (`Authentic`).

`paired_channel_in_order` is the result: what the receiver accepts is a
prefix of what was sealed.
-/

set_option autoImplicit false

namespace PortableAirplay.Airplay

open PortableAirplay.Library
open PortableAirplay.Platform

/-! ## The two parties -/

/-- A successful encryption: the call, the ciphertext and the tag. -/
structure Encryption where
  query : AeadQuery
  cipher : List UInt8
  tag : List UInt8

/-- The two ends of one direction, and the encryptions made so far. -/
structure Channel where
  sender : Pairing
  receiver : Pairing
  encrypted : List Encryption

/-- A step: the sender seals a message, or the adversary delivers some bytes. -/
inductive ChannelInput where
  | sending (message : List UInt8)
  | delivery (record : List UInt8)

/-- What a step returned. -/
inductive ChannelEvent where
  | sealed (message : List UInt8) (record : Option (List UInt8))
  | opened (record : List UInt8) (plain : Option (List UInt8))

/-- The encryption that `pairing_seal` makes, if it succeeds. -/
def sealEncryption (aead : Aead) (p : Pairing) (message : List UInt8) : Option Encryption :=
  match sealQuery p message with
  | none => none
  | some query =>
      (aead.encryptAndTag query).map fun out => ⟨query, out.1, out.2⟩

/-- The channel with an adversary in the middle. -/
def channelMachine (aead : Aead) : Machine Channel ChannelInput ChannelEvent where
  step ch
    | .sending message =>
        let r := pairingSeal aead ch.sender message
        (⟨r.1, ch.receiver, ch.encrypted ++ (sealEncryption aead ch.sender message).toList⟩,
          .sealed message r.2)
    | .delivery record =>
        let r := pairingOpen aead ch.receiver record
        (⟨ch.sender, r.1, ch.encrypted⟩, .opened record r.2)

/-- **The ideal cipher**: a call of the decryption succeeds only on the output of
an encryption already made under the same key, nonce and associated data, and
returns its plaintext. -/
def Authentic (aead : Aead) (ch : Channel) : ChannelInput → Prop
  | .sending _ => True
  | .delivery record =>
      ∀ query tag plain, openQuery ch.receiver record = some (query, tag) →
        aead.authDecrypt query tag = some plain →
        ∃ e ∈ ch.encrypted, e.query.key = query.key ∧ e.query.nonce = query.nonce ∧
          e.query.associated = query.associated ∧ e.query.input = plain ∧
          e.cipher = query.input ∧ e.tag = tag

/-- The call that an opening makes decides whether it is authentic. -/
instance decidableAuthentic (aead : Aead) (ch : Channel) :
    ∀ input, Decidable (Authentic aead ch input)
  | .sending _ => isTrue trivial
  | .delivery record =>
      match hquery : openQuery ch.receiver record with
      | none => isTrue fun query tag plain h _ => by simp [hquery] at h
      | some (query, tag) =>
          match hplain : aead.authDecrypt query tag with
          | none => isTrue fun query' tag' plain h hp => by
              rw [hquery, Option.some.injEq, Prod.mk.injEq] at h
              rw [← h.1, ← h.2, hplain] at hp
              simp at hp
          | some plain =>
              decidable_of_iff
                (∃ e ∈ ch.encrypted, e.query.key = query.key ∧ e.query.nonce = query.nonce ∧
                  e.query.associated = query.associated ∧ e.query.input = plain ∧
                  e.cipher = query.input ∧ e.tag = tag)
                ⟨fun hmade query' tag' plain' h hp => by
                  rw [hquery, Option.some.injEq, Prod.mk.injEq] at h
                  rw [← h.1, ← h.2, hplain, Option.some.injEq] at hp
                  rw [← h.1, ← h.2, ← hp]
                  exact hmade,
                fun h => h query tag plain hquery hplain⟩

/-- The two ends share a key and start at zero. -/
structure Paired (ch : Channel) : Prop where
  senderReady : ch.sender.established = true
  receiverReady : ch.receiver.established = true
  sameKey : ch.sender.writeKey = ch.receiver.readKey
  writeZero : ch.sender.writeCounter = 0
  readZero : ch.receiver.readCounter = 0
  fresh : ch.encrypted = []

/-- The messages whose seal succeeded. -/
def sealedMessages : List ChannelEvent → List (List UInt8)
  | [] => []
  | .sealed message (some _) :: log => message :: sealedMessages log
  | .sealed _ none :: log => sealedMessages log
  | .opened _ _ :: log => sealedMessages log

/-- The plaintexts that were accepted. -/
def acceptedMessages : List ChannelEvent → List (List UInt8)
  | [] => []
  | .opened _ (some plain) :: log => plain :: acceptedMessages log
  | .opened _ none :: log => acceptedMessages log
  | .sealed _ _ :: log => acceptedMessages log

theorem sealedMessages_append (xs ys : List ChannelEvent) :
    sealedMessages (xs ++ ys) = sealedMessages xs ++ sealedMessages ys := by
  induction xs with
  | nil => rfl
  | cons e xs ih =>
      cases e with
      | sealed message record =>
          cases record with
          | none => exact ih
          | some r => simp only [List.cons_append, sealedMessages, ih]
      | opened record plain => exact ih

theorem acceptedMessages_append (xs ys : List ChannelEvent) :
    acceptedMessages (xs ++ ys) = acceptedMessages xs ++ acceptedMessages ys := by
  induction xs with
  | nil => rfl
  | cons e xs ih =>
      cases e with
      | sealed message record => exact ih
      | opened record plain =>
          cases plain with
          | none => exact ih
          | some p => simp only [List.cons_append, acceptedMessages, ih]

/-! ## The invariant -/

/-- The sender's counter counts the encryptions, the `i`-th of which has nonce
`i` and plaintext the `i`-th sealed message; the receiver's counter counts the
accepted messages, the first so many of the sealed ones. -/
structure Lockstep (ch : Channel) (log : List ChannelEvent) : Prop where
  plaintexts : ch.encrypted.map (fun e => e.query.input) = sealedMessages log
  nonces : ch.encrypted.map (fun e => e.query.nonce) =
    (List.range ch.encrypted.length).map fun i => nonceBytes (UInt64.ofNat i)
  written : ch.sender.writeCounter.toNat = ch.encrypted.length
  read : ch.receiver.readCounter.toNat = (acceptedMessages log).length
  accepted : acceptedMessages log = (sealedMessages log).take (acceptedMessages log).length

/-- A counter below the guard does not wrap. -/
theorem toNat_counter_succ {counter : UInt64} (h : counter ≠ 0xffffffffffffffff) :
    (counter + 1).toNat = counter.toNat + 1 := by
  have hlt := counter.toNat_lt
  have hne : counter.toNat ≠ 2 ^ 64 - 1 := by
    intro heq
    exact h (UInt64.toNat_inj.mp heq)
  rw [UInt64.toNat_add]
  show (counter.toNat + 1) % 2 ^ 64 = counter.toNat + 1
  omega

/-- The `i`-th nonce belongs to the `i`-th plaintext. -/
theorem Lockstep.plaintext_of_nonce {ch : Channel} {log : List ChannelEvent}
    (h : Lockstep ch log) {e : Encryption} (he : e ∈ ch.encrypted) {counter : UInt64}
    (hnonce : e.query.nonce = nonceBytes counter) :
    (sealedMessages log)[counter.toNat]? = some e.query.input := by
  obtain ⟨i, hi, rfl⟩ := List.mem_iff_getElem.mp he
  have hlen := ch.sender.writeCounter.toNat_lt
  have hith : ch.encrypted[i].query.nonce = nonceBytes (UInt64.ofNat i) := by
    have hget := congrArg (fun l => l[i]?) h.nonces
    simpa [hi] using hget
  have hcounter : counter = UInt64.ofNat i := by
    apply nonceBytes_injective
    rw [← hnonce, hith]
  have hindex : counter.toNat = i := by
    rw [hcounter, UInt64.toNat_ofNat']
    have := h.written
    omega
  rw [hindex, ← h.plaintexts]
  simp [hi]

theorem Lockstep.sending {aead : Aead} {ch : Channel} {log : List ChannelEvent}
    (h : Lockstep ch log) (message : List UInt8) :
    Lockstep ((channelMachine aead).step ch (.sending message)).1
      (log ++ [((channelMachine aead).step ch (.sending message)).2]) := by
  rcases pairingSeal_cases aead ch.sender message with hfail |
    ⟨query, cipher, tag, hquery, hcipher, hok⟩
  · -- a seal that fails sends nothing
    have hnone : sealEncryption aead ch.sender message = none := by
      unfold sealEncryption
      unfold pairingSeal at hfail
      cases hquery : sealQuery ch.sender message with
      | none => rfl
      | some query =>
          cases hcipher : aead.encryptAndTag query with
          | none => simp [hcipher]
          | some out => simp [hquery, hcipher] at hfail
    simp only [channelMachine, hfail, hnone, Option.toList_none, List.append_nil]
    have hsealed : sealedMessages (log ++ [.sealed message none]) = sealedMessages log := by
      rw [sealedMessages_append, sealedMessages, sealedMessages, List.append_nil]
    have haccepted : acceptedMessages (log ++ [.sealed message none]) = acceptedMessages log := by
      rw [acceptedMessages_append, acceptedMessages, acceptedMessages, List.append_nil]
    exact ⟨by rw [hsealed]; exact h.plaintexts, h.nonces, h.written,
      by rw [haccepted]; exact h.read, by rw [haccepted, hsealed]; exact h.accepted⟩
  · have hsome : sealEncryption aead ch.sender message = some ⟨query, cipher, tag⟩ := by
      unfold sealEncryption
      rw [hquery]
      dsimp only
      rw [hcipher]
      rfl
    -- the record takes the counter, which the guard keeps from wrapping
    obtain ⟨⟨-, -, -, hguard⟩, hargs⟩ := sealQuery_eq_some.mp hquery
    simp only [channelMachine, hok, hsome, Option.toList_some]
    generalize recordHeader message.length ++ cipher ++ tag = record
    have hsealed : sealedMessages (log ++ [.sealed message (some record)]) =
        sealedMessages log ++ [message] := by
      rw [sealedMessages_append, sealedMessages, sealedMessages]
    have haccepted : acceptedMessages (log ++ [.sealed message (some record)]) =
        acceptedMessages log := by
      rw [acceptedMessages_append, acceptedMessages, acceptedMessages, List.append_nil]
    have hcounter : UInt64.ofNat ch.encrypted.length = ch.sender.writeCounter := by
      rw [← h.written, UInt64.ofNat_toNat]
    have hcount : (acceptedMessages log).length ≤ (sealedMessages log).length := by
      have hlen := congrArg List.length h.accepted
      rw [List.length_take] at hlen
      omega
    constructor
    · rw [hsealed, List.map_append, h.plaintexts, List.map_singleton, hargs]
    · rw [List.map_append, h.nonces, List.length_append, List.length_singleton,
        List.range_succ, List.map_append, List.map_singleton, List.map_singleton, hcounter, hargs]
    · rw [toNat_counter_succ hguard, h.written, List.length_append, List.length_singleton]
    · rw [haccepted]
      exact h.read
    · rw [haccepted, hsealed, List.take_append_of_le_length hcount]
      exact h.accepted

theorem Lockstep.delivery {aead : Aead} {ch : Channel} {log : List ChannelEvent}
    (h : Lockstep ch log) {record : List UInt8} (hideal : Authentic aead ch (.delivery record)) :
    Lockstep ((channelMachine aead).step ch (.delivery record)).1
      (log ++ [((channelMachine aead).step ch (.delivery record)).2]) := by
  have hsealed : ∀ plain, sealedMessages (log ++ [.opened record plain]) = sealedMessages log := by
    intro plain
    rw [sealedMessages_append, sealedMessages, sealedMessages, List.append_nil]
  rcases pairingOpen_cases aead ch.receiver record with hfail |
    ⟨query, tag, plain, hquery, hplain, hok⟩
  · simp only [channelMachine, hfail]
    have haccepted : acceptedMessages (log ++ [.opened record none]) = acceptedMessages log := by
      rw [acceptedMessages_append, acceptedMessages, acceptedMessages, List.append_nil]
    exact ⟨by rw [hsealed]; exact h.plaintexts, h.nonces, h.written,
      by rw [haccepted]; exact h.read, by rw [haccepted, hsealed]; exact h.accepted⟩
  · simp only [channelMachine, hok]
    obtain ⟨-, hnonce, hguard⟩ := openQuery_eq_some hquery
    obtain ⟨e, he, -, henonce, -, hinput, -, -⟩ := hideal query tag plain hquery hplain
    -- the accepted record is the encryption whose number is the read counter
    have hnext := h.plaintext_of_nonce he (henonce.trans hnonce)
    rw [hinput, h.read] at hnext
    have haccepted : acceptedMessages (log ++ [.opened record (some plain)]) =
        acceptedMessages log ++ [plain] := by
      rw [acceptedMessages_append, acceptedMessages, acceptedMessages]
    constructor
    · rw [hsealed]
      exact h.plaintexts
    · exact h.nonces
    · exact h.written
    · rw [haccepted, toNat_counter_succ hguard, h.read, List.length_append, List.length_singleton]
    · rw [haccepted, hsealed, List.length_append, List.length_singleton, List.take_add_one, hnext,
        ← h.accepted]
      rfl

theorem Lockstep.step {aead : Aead} {ch : Channel} {log : List ChannelEvent}
    (h : Lockstep ch log) {input : ChannelInput} (hideal : Authentic aead ch input) :
    Lockstep ((channelMachine aead).step ch input).1
      (log ++ [((channelMachine aead).step ch input).2]) := by
  cases input with
  | sending message => exact h.sending message
  | delivery record => exact h.delivery hideal

theorem lockstep_start {ch : Channel} (h : Paired ch) : Lockstep ch [] := by
  constructor
  · rw [h.fresh]
    rfl
  · rw [h.fresh]
    rfl
  · rw [h.fresh, h.writeZero]
    rfl
  · rw [h.readZero]
    rfl
  · rfl

/-- The encryptions of a run have pairwise distinct nonces. -/
theorem Lockstep.nonces_nodup {ch : Channel} {log : List ChannelEvent} (h : Lockstep ch log) :
    (ch.encrypted.map fun e => e.query.nonce).Nodup := by
  have hlen := ch.sender.writeCounter.toNat_lt
  have hwritten := h.written
  rw [h.nonces]
  refine List.Nodup.map_on ?_ List.nodup_range
  intro i hi j hj hij
  rw [List.mem_range] at hi hj
  have hnat := congrArg UInt64.toNat (nonceBytes_injective hij)
  rw [UInt64.toNat_ofNat', UInt64.toNat_ofNat'] at hnat
  omega

/-- **The paired channel delivers a prefix.** Whatever records the adversary
delivers, the accepted plaintexts are a prefix of the sealed messages, in order;
a rejected record leaves the receiver as it was, and so its read counter; and the
successful seals used pairwise distinct nonces, one for each sealed message. -/
theorem paired_channel_in_order (aead : Aead) (ch : Channel) (hpaired : Paired ch)
    (inputs : List ChannelInput) (hideal : (channelMachine aead).Guarded (Authentic aead) ch inputs) :
    let r := (channelMachine aead).run ch inputs
    acceptedMessages r.2 <+: sealedMessages r.2 ∧
      (∀ record, (pairingOpen aead r.1.receiver record).2 = none →
        (pairingOpen aead r.1.receiver record).1 = r.1.receiver) ∧
      r.1.encrypted.map (fun e => e.query.input) = sealedMessages r.2 ∧
      (r.1.encrypted.map fun e => e.query.nonce).Nodup := by
  have h := (channelMachine aead).run_guarded_invariant Lockstep
    (fun s log i (h : Lockstep s log) hi => h.step hi) inputs ch [] (lockstep_start hpaired) hideal
  rw [List.nil_append] at h
  refine ⟨?_, ?_, h.plaintexts, h.nonces_nodup⟩
  · rw [h.accepted]
    exact List.take_prefix _ _
  · intro record hnone
    rcases pairingOpen_cases aead ((channelMachine aead).run ch inputs).1.receiver record with
      hfail | ⟨query, tag, plain, -, -, hok⟩
    · rw [hfail]
    · rw [hok] at hnone
      simp at hnone

/-! ## A replayed record -/

/-- The control request of the record test, sealed there under the key `00..1f`
and counter zero. -/
def optionsRequest : List UInt8 := ascii "OPTIONS * RTSP/1.0\r\n\r\n"

/-- Ciphertext and tag of that record. -/
def optionsSealed : List UInt8 × List UInt8 :=
  ([0x57, 0xe8, 0x16, 0x78, 0xe2, 0xa8, 0xf5, 0xf1, 0x39, 0x41, 0x0e, 0x35, 0xfc, 0x13, 0x61, 0x16,
    0xd6, 0x81, 0xfe, 0xff, 0xec, 0xa7],
   [0xcf, 0xb0, 0x90, 0xfa, 0xa6, 0xfb, 0x8d, 0x99, 0xac, 0xe0, 0x65, 0x59, 0x1b, 0x18, 0xa2, 0xcd])

/-- The call that made it. -/
def optionsQuery : AeadQuery :=
  ⟨(List.range 32).map UInt8.ofNat, nonceBytes 0, recordHeader 22, optionsRequest⟩

/-- The cipher on the calls around that record: it is the only valid one. -/
def testAead : Aead where
  encryptAndTag query := if query = optionsQuery then some optionsSealed else none
  authDecrypt query tag :=
    if query = { optionsQuery with input := optionsSealed.1 } ∧ tag = optionsSealed.2 then
      some optionsRequest
    else none

/-- Two ends with that key. -/
def testChannel : Channel :=
  ⟨{ pairingClose with established := true, writeKey := optionsQuery.key },
    { pairingClose with established := true, readKey := optionsQuery.key }, []⟩

/-- The record of that request. -/
def optionsRecord : List UInt8 := recordHeader 22 ++ optionsSealed.1 ++ optionsSealed.2

/-- A truncated copy, the record, and the record again. -/
def replayed : List ChannelInput :=
  [.sending optionsRequest, .delivery (optionsRecord.take 39), .delivery optionsRecord,
    .delivery optionsRecord]

theorem paired_channel_replay :
    Paired testChannel ∧
      acceptedMessages ((channelMachine testAead).run testChannel replayed).2 = [optionsRequest] ∧
      acceptedMessages ((channelMachine testAead).run testChannel replayed).2 <+:
        sealedMessages ((channelMachine testAead).run testChannel replayed).2 :=
  have hpaired : Paired testChannel := ⟨rfl, rfl, rfl, rfl, rfl, rfl⟩
  ⟨hpaired, by decide,
    (paired_channel_in_order testAead testChannel hpaired replayed (by decide)).1⟩

end PortableAirplay.Airplay
