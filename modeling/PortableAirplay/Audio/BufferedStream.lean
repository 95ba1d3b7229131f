import PortableAirplay.Audio.BufferedAudio
import PortableAirplay.Library.Execution
import PortableAirplay.Library.Framing

/-!
# What the buffered transport delivers

The bytes of a connection are cut into records by their two-byte inclusive
length (`recordFraming`). A run of polls and seeks is compared with its
timeline: the seeks and the completed records in the order in which they happen.

A seek replaces the boundary of an earlier seek that was not reached, so
`delivered` drops, in each stretch of records between two seeks, the records up
to the first one beyond the boundary that opened the stretch.
`deliveredUnlessAny` is the reading in which every seek keeps its own boundary;
the transport does not follow it (`seekBack_delivers`).
-/

set_option autoImplicit false

namespace PortableAirplay.Audio

open PortableAirplay.Library
open PortableAirplay.Platform
open PortableAirplay.Protocol

/-! ## Records of a stream -/

/-- The record at the start of a stream, by its inclusive length. -/
def parseRecord (stream : List UInt8) : Verdict (List UInt8) :=
  if stream.length < 2 then .incomplete
  else
    let need := beNat (stream.take 2)
    if need < 38 ∨ need > rtpBufferSize + 2 then .reject
    else if stream.length < need then .incomplete
    else .accept (stream.take need) need

theorem parseRecord_of_long {stream : List UInt8} (h : 2 ≤ stream.length) (t : List UInt8) :
    (stream ++ t).take 2 = stream.take 2 := List.take_append_of_le_length h

section Verdicts

variable {stream : List UInt8} (hlong : 2 ≤ stream.length)

include hlong

/-- A length that no record has. -/
theorem parseRecord_malformed
    (hbad : beNat (stream.take 2) < 38 ∨ beNat (stream.take 2) > rtpBufferSize + 2) :
    parseRecord stream = .reject := by
  rw [parseRecord, if_neg (by omega)]
  exact if_pos hbad

/-- A record of which bytes are missing. -/
theorem parseRecord_short
    (hgood : ¬(beNat (stream.take 2) < 38 ∨ beNat (stream.take 2) > rtpBufferSize + 2))
    (hshort : stream.length < beNat (stream.take 2)) : parseRecord stream = .incomplete := by
  rw [parseRecord, if_neg (by omega)]
  dsimp only
  rw [if_neg hgood, if_pos hshort]

/-- A record that is there. -/
theorem parseRecord_whole
    (hgood : ¬(beNat (stream.take 2) < 38 ∨ beNat (stream.take 2) > rtpBufferSize + 2))
    (hfull : ¬stream.length < beNat (stream.take 2)) :
    parseRecord stream =
      .accept (stream.take (beNat (stream.take 2))) (beNat (stream.take 2)) := by
  rw [parseRecord, if_neg (by omega)]
  dsimp only
  rw [if_neg hgood, if_neg hfull]

end Verdicts

/-- **What is accepted**: a length that records have, and the bytes that it counts. -/
theorem parseRecord_accept {stream record : List UInt8} {n : ℕ}
    (h : parseRecord stream = .accept record n) :
    n = beNat (stream.take 2) ∧ 38 ≤ n ∧ n ≤ rtpBufferSize + 2 ∧ n ≤ stream.length ∧
      record = stream.take n := by
  rw [parseRecord] at h
  split at h
  · contradiction
  · dsimp only at h
    split at h
    · contradiction
    · split at h
      · contradiction
      · rw [Verdict.accept.injEq] at h
        obtain ⟨rfl, rfl⟩ := h
        exact ⟨rfl, by omega, by omega, by omega, rfl⟩

/-- What is rejected has a length that no record has. -/
theorem parseRecord_reject {stream : List UInt8} (h : parseRecord stream = .reject) :
    2 ≤ stream.length ∧
      (beNat (stream.take 2) < 38 ∨ beNat (stream.take 2) > rtpBufferSize + 2) := by
  rw [parseRecord] at h
  split at h
  · contradiction
  · dsimp only at h
    split at h
    · rename_i hlong hbad
      exact ⟨by omega, hbad⟩
    · split at h
      · contradiction
      · contradiction

/-- Records as a framing rule. -/
def recordFraming : Framing UInt8 (List UInt8) where
  parse := parseRecord
  size_pos := by
    intro s f n h
    obtain ⟨-, hleast, -⟩ := parseRecord_accept h
    omega
  size_le := by
    intro s f n h
    exact (parseRecord_accept h).2.2.2.1
  accept_append := by
    intro s f n h t
    obtain ⟨hn, hleast, hmost, hfull, hrecord⟩ := parseRecord_accept h
    have hlong : 2 ≤ s.length := by omega
    have hlen : (s ++ t).length = s.length + t.length := List.length_append
    -- the bytes that follow change neither the length nor the record
    have hsame := parseRecord_of_long hlong t
    rw [parseRecord_whole (by omega) (by rw [hsame]; omega) (by rw [hsame]; omega), hsame, ← hn,
      List.take_append_of_le_length hfull, hrecord]
  reject_append := by
    intro s h t
    obtain ⟨hlong, hbad⟩ := parseRecord_reject h
    have hlen : (s ++ t).length = s.length + t.length := List.length_append
    apply parseRecord_malformed (by omega)
    rw [parseRecord_of_long hlong]
    exact hbad

/-- The 24-bit wire sequence of a record. -/
def wireSequence (record : List UInt8) : ℕ := beNat ((record.drop 3).take 3)

/-- The packet a record carries: the low 16 sequence bits, timestamp, SSRC and
payload. -/
def wirePacket (record : List UInt8) : RtpPacket where
  header :=
    { RtpHeader.zero with
      version := 2
      payloadType := 96
      sequence := UInt16.ofNat (wireSequence record)
      timestamp := UInt32.ofNat (beNat ((record.drop 6).take 4))
      ssrc := UInt32.ofNat (beNat ((record.drop 10).take 4)) }
  payload := record.drop 14

/-- The record lies 1 to `0x7fffff` ahead of the boundary, modulo `2 ^ 24`. -/
def beyond (boundary : UInt32) (record : List UInt8) : Bool :=
  let ahead := ((wireSequence record : ℤ) - boundary.toNat) % 2 ^ 24
  decide (1 ≤ ahead ∧ ahead ≤ 0x7fffff)

/-! ## Timelines -/

/-- A seek, or a completed record. -/
inductive Timeline where
  | flush (boundary : UInt32)
  | record (data : List UInt8)

/-- The records before the first seek, and those after each seek with its
boundary. -/
def stretches : List Timeline → List (List UInt8) × List (UInt32 × List (List UInt8))
  | [] => ([], [])
  | .record r :: rest =>
      let s := stretches rest
      (r :: s.1, s.2)
  | .flush boundary :: rest =>
      let s := stretches rest
      ([], (boundary, s.1) :: s.2)

/-- The records that are passed on: all before the first seek, and after a seek
those from the first one beyond its boundary on. -/
def delivered (timeline : List Timeline) : List (List UInt8) :=
  (stretches timeline).1 ++
    (stretches timeline).2.flatMap fun s => s.2.dropWhile fun r => !beyond s.1 r

/-- The records that would be passed on if each seek held back the records up to
the first one beyond its own boundary, other seeks notwithstanding. -/
def deliveredUnlessAny : List UInt32 → List Timeline → List (List UInt8)
  | _, [] => []
  | boundaries, .flush boundary :: rest => deliveredUnlessAny (boundaries ++ [boundary]) rest
  | boundaries, .record r :: rest =>
      let unreached := boundaries.filter fun boundary => !beyond boundary r
      if unreached = [] then r :: deliveredUnlessAny unreached rest
      else deliveredUnlessAny unreached rest

/-- The boundary still in force after a timeline. -/
def boundaryAfter : Option UInt32 → List Timeline → Option UInt32
  | pending, [] => pending
  | _, .flush boundary :: rest => boundaryAfter (some boundary) rest
  | none, .record _ :: rest => boundaryAfter none rest
  | some boundary, .record r :: rest =>
      boundaryAfter (if beyond boundary r then none else some boundary) rest

/-- The records passed on when a boundary is in force at the start. -/
def deliveredFrom (pending : Option UInt32) (timeline : List Timeline) : List (List UInt8) :=
  match pending with
  | none => delivered timeline
  | some boundary => delivered (.flush boundary :: timeline)

theorem deliveredFrom_flush (pending : Option UInt32) (boundary : UInt32)
    (rest : List Timeline) :
    deliveredFrom pending (.flush boundary :: rest) = deliveredFrom (some boundary) rest := by
  cases pending with
  | none => rfl
  | some b => simp [deliveredFrom, delivered, stretches]

theorem deliveredFrom_record_none (r : List UInt8) (rest : List Timeline) :
    deliveredFrom none (.record r :: rest) = r :: deliveredFrom none rest := rfl

theorem deliveredFrom_record_some (boundary : UInt32) (r : List UInt8) (rest : List Timeline) :
    deliveredFrom (some boundary) (.record r :: rest) =
      if beyond boundary r then r :: deliveredFrom none rest
      else deliveredFrom (some boundary) rest := by
  by_cases hb : beyond boundary r = true
  · simp [deliveredFrom, delivered, stretches, hb]
  · simp [deliveredFrom, delivered, stretches, hb]

/-- Delivery goes on from the boundary in force. -/
theorem deliveredFrom_append (xs ys : List Timeline) : ∀ pending : Option UInt32,
    deliveredFrom pending (xs ++ ys) =
      deliveredFrom pending xs ++ deliveredFrom (boundaryAfter pending xs) ys := by
  induction xs with
  | nil =>
      intro pending
      cases pending with
      | none => rfl
      | some b => rfl
  | cons e xs ih =>
      intro pending
      cases e with
      | flush b =>
          rw [List.cons_append, deliveredFrom_flush, ih, deliveredFrom_flush]
          cases pending <;> rfl
      | record r =>
          cases pending with
          | none =>
              rw [List.cons_append, deliveredFrom_record_none, ih, deliveredFrom_record_none]
              rfl
          | some b =>
              rw [List.cons_append, deliveredFrom_record_some, deliveredFrom_record_some]
              unfold boundaryAfter
              split
              · rw [ih, List.cons_append]
              · rw [ih]

theorem boundaryAfter_append (xs ys : List Timeline) : ∀ pending : Option UInt32,
    boundaryAfter pending (xs ++ ys) = boundaryAfter (boundaryAfter pending xs) ys := by
  induction xs with
  | nil => exact fun _ => rfl
  | cons e xs ih =>
      intro pending
      cases e with
      | flush b =>
          cases pending with
          | none => exact ih _
          | some c => exact ih _
      | record r =>
          cases pending with
          | none => exact ih _
          | some c => exact ih _

end PortableAirplay.Audio
