import PortableAirplay.Sync.NtpSync

/-!
# The timing exchange

A request of `ntp_sync_request`, the answer of `ntp_sync_reply` at the peer and
the check of `ntp_sync_process_packet` on its return. The requester matches the
originate timestamp of a reply with the transmit timestamp of its request, while
the responder copies the originate timestamp of the request, which is zero. So
the two agree only where the transmit timestamp is zero as well
(`ntp_exchange_agrees_iff`).
-/

set_option autoImplicit false

namespace PortableAirplay.Sync

open PortableAirplay.Library

/-- The clock readings of one exchange and the control packets that arrive while
the reply is under way. The peer reads its own clock. -/
structure Exchange where
  sent : UInt64
  received : UInt64
  answered : UInt64
  arrived : UInt64
  controls : List (List UInt8 × UInt32)

/-- The peer's clock is `offset` ahead, the delays are as given, the network
round trip is below 499 ms and the processing below `2 ^ 31` seconds. -/
structure Exchange.Timely (x : Exchange) (offset : ℤ) (outbound processing inbound : ℕ) :
    Prop where
  received_eq : (x.received.toNat : ℤ) = x.sent.toNat + outbound + offset
  answered_eq : x.answered.toNat = x.received.toNat + processing
  arrived_eq : x.arrived.toNat = x.sent.toNat + outbound + processing + inbound
  round_trip : outbound + inbound < 499000
  processing_lt : processing < 2 ^ 31 * 1000000

/-- The state in which the reply is processed. -/
def Exchange.waiting (x : Exchange) (sync : NtpSync) : NtpSync :=
  x.controls.foldl (fun s c => (ntpSyncControl s c.1 c.2).1) (ntpSyncRequest sync x.sent).1

/-- The exchange goes through: the reply carries the transmit timestamp of the
request, is accepted, and leaves the requester synchronized. -/
def Exchange.Agrees (x : Exchange) (sync : NtpSync) : Prop :=
  ∃ request reply, (ntpSyncRequest sync x.sent).2 = some request ∧
    ntpSyncReply request x.received x.answered = some reply ∧
    readTime reply 8 = readTime request 24 ∧
    (ntpSyncProcessPacket (x.waiting sync) reply x.arrived).2 = 0 ∧
    (ntpSyncProcessPacket (x.waiting sync) reply x.arrived).1.synchronized = true

instance (x : Exchange) (sync : NtpSync) : Decidable (x.Agrees sync) :=
  match hrequest : (ntpSyncRequest sync x.sent).2 with
  | none => isFalse fun ⟨_, _, h, _⟩ => by simp [hrequest] at h
  | some request =>
      match hreply : ntpSyncReply request x.received x.answered with
      | none => isFalse fun ⟨request', _, h, h', _⟩ => by
          rw [hrequest, Option.some.injEq] at h
          rw [← h, hreply] at h'
          simp at h'
      | some reply =>
          decidable_of_iff
            (readTime reply 8 = readTime request 24 ∧
              (ntpSyncProcessPacket (x.waiting sync) reply x.arrived).2 = 0 ∧
              (ntpSyncProcessPacket (x.waiting sync) reply x.arrived).1.synchronized = true)
            ⟨fun h => ⟨request, reply, hrequest, hreply, h⟩,
            fun ⟨request', reply', h, h', hagree⟩ => by
              rw [hrequest, Option.some.injEq] at h
              rw [← h, hreply, Option.some.injEq] at h'
              rw [h, h']
              exact hagree⟩

/-- The request was sent at the start of an NTP era, and the peer's two readings
are less than `2 ^ 31` NTP seconds apart. -/
def Exchange.AtEraStart (x : Exchange) : Prop :=
  x.sent.toNat % 1000000 = 0 ∧ (x.sent.toNat / 1000000 + 2208988800) % 2 ^ 32 = 0 ∧
    x.answered.toNat / 1000000 - x.received.toNat / 1000000 < 2 ^ 31

/-! ## The packets -/

/-- The request packet with transmit timestamp `t`. -/
def requestPacket (t : NtpTimestamp) : List UInt8 :=
  [0x80, 0xd2, 0, 7] ++ List.replicate 20 0 ++ writeTime t

theorem ntpSyncRequest_due {sync : NtpSync} {now : UInt64} {request : List UInt8}
    (h : (ntpSyncRequest sync now).2 = some request) :
    request = requestPacket (fromUs now) ∧
      (ntpSyncRequest sync now).1.requestTime = fromUs now ∧
      (ntpSyncRequest sync now).1.requestLocalUs = now ∧
      (ntpSyncRequest sync now).1.requestPending = true := by
  unfold ntpSyncRequest at h ⊢
  split at h
  · simp at h
  · rename_i hdue
    rw [if_neg hdue]
    simp only [Option.some.injEq] at h
    exact ⟨h.symm, rfl, rfl, rfl⟩

theorem readTime_requestPacket (t : NtpTimestamp) : readTime (requestPacket t) 24 = t := by
  have h := readTime_writeTime ([0x80, 0xd2, 0, 7] ++ List.replicate 20 0) (i := 24) rfl t []
  rwa [List.append_nil] at h

/-- The reply to such a request: its originate timestamp is zero. -/
def replyPacket (received answered : UInt64) : List UInt8 :=
  [0x80, 0xd3, 0, 7] ++ List.replicate 12 0 ++ writeTime (fromUs received) ++
    writeTime (fromUs answered)

theorem ntpSyncReply_requestPacket (t : NtpTimestamp) (received answered : UInt64) :
    ntpSyncReply (requestPacket t) received answered = some (replyPacket received answered) := by
  have hlen : (requestPacket t).length = 32 := by simp [requestPacket]
  have hzero : byteAt (requestPacket t) 0 = 0x80 := rfl
  have hone : byteAt (requestPacket t) 1 = 0xd2 := rfl
  have htwo : byteAt (requestPacket t) 2 = 0 := rfl
  have hthree : byteAt (requestPacket t) 3 = 7 := rfl
  have horigin : ((requestPacket t).drop 8).take 8 = List.replicate 8 0 := rfl
  have hheader : ¬((requestPacket t).length < ntpPacketSize ∨
      byteAt (requestPacket t) 0 >>> 6 ≠ 2 ∨ byteAt (requestPacket t) 1 &&& 0x7f ≠ 0x52) := by
    rw [hlen, hzero, hone]
    decide
  rw [ntpSyncReply, if_neg hheader, htwo, hthree, horigin]
  rfl

/-- The reply passes the checks of its header. -/
theorem replyPacket_header (received answered : UInt64) :
    ¬((replyPacket received answered).length < ntpPacketSize ∨
      byteAt (replyPacket received answered) 0 >>> 6 ≠ 2 ∨
      byteAt (replyPacket received answered) 1 &&& 0x7f ≠ 0x53) := by
  have hlen : (replyPacket received answered).length = 32 := by simp [replyPacket]
  have hzero : byteAt (replyPacket received answered) 0 = 0x80 := rfl
  have hone : byteAt (replyPacket received answered) 1 = 0xd3 := rfl
  rw [hlen, hzero, hone]
  decide

theorem readTime_replyPacket (received answered : UInt64) :
    readTime (replyPacket received answered) 8 = ⟨0, 0⟩ ∧
      readTime (replyPacket received answered) 16 = fromUs received ∧
      readTime (replyPacket received answered) 24 = fromUs answered := by
  have hzero : List.replicate 12 (0 : UInt8) = List.replicate 4 0 ++ writeTime ⟨0, 0⟩ := by decide
  have horigin := readTime_writeTime ([0x80, 0xd3, 0, 7] ++ List.replicate 4 0) (i := 8) rfl
    ⟨0, 0⟩ (writeTime (fromUs received) ++ writeTime (fromUs answered))
  have hreceive := readTime_writeTime ([0x80, 0xd3, 0, 7] ++ List.replicate 12 0) (i := 16) rfl
    (fromUs received) (writeTime (fromUs answered))
  have htransmit := readTime_writeTime
    ([0x80, 0xd3, 0, 7] ++ List.replicate 12 0 ++ writeTime (fromUs received)) (i := 24) rfl
    (fromUs answered) []
  rw [List.append_nil] at htransmit
  refine ⟨?_, hreceive, htransmit⟩
  rw [replyPacket, hzero]
  simpa only [List.append_assoc] using horigin

/-! ## The check -/

/-- Control packets leave the request as it is. -/
theorem ntpSyncControl_request (sync : NtpSync) (data : List UInt8) (rate : UInt32) :
    (ntpSyncControl sync data rate).1.requestTime = sync.requestTime ∧
      (ntpSyncControl sync data rate).1.requestLocalUs = sync.requestLocalUs ∧
      (ntpSyncControl sync data rate).1.requestPending = sync.requestPending := by
  unfold ntpSyncControl
  split
  · exact ⟨rfl, rfl, rfl⟩
  · dsimp only
    split
    · exact ⟨rfl, rfl, rfl⟩
    · exact ⟨rfl, rfl, rfl⟩

theorem controls_request (controls : List (List UInt8 × UInt32)) (sync : NtpSync) :
    (controls.foldl (fun s c => (ntpSyncControl s c.1 c.2).1) sync).requestTime =
        sync.requestTime ∧
      (controls.foldl (fun s c => (ntpSyncControl s c.1 c.2).1) sync).requestLocalUs =
        sync.requestLocalUs ∧
      (controls.foldl (fun s c => (ntpSyncControl s c.1 c.2).1) sync).requestPending =
        sync.requestPending := by
  induction controls generalizing sync with
  | nil => exact ⟨rfl, rfl, rfl⟩
  | cons c controls ih =>
      obtain ⟨h1, h2, h3⟩ := ntpSyncControl_request sync c.1 c.2
      obtain ⟨h1', h2', h3'⟩ := ih (ntpSyncControl sync c.1 c.2).1
      exact ⟨h1'.trans h1, h2'.trans h2, h3'.trans h3⟩

/-- **What the check asks of a reply** to the pending request. -/
theorem ntpSyncProcessPacket_reply {sync : NtpSync} (hpending : sync.requestPending = true)
    (received answered arrived : UInt64) :
    ((ntpSyncProcessPacket sync (replyPacket received answered) arrived).2 = 0 ∧
        (ntpSyncProcessPacket sync (replyPacket received answered) arrived).1.synchronized =
          true) ↔
      sync.requestTime = ⟨0, 0⟩ ∧ 0 ≤ ntpSyncDiffUs (fromUs received) (fromUs answered) ∧
        -2 ≤ (arrived - sync.requestLocalUs).toInt64.toInt -
          ntpSyncDiffUs (fromUs received) (fromUs answered) ∧
        (arrived - sync.requestLocalUs).toInt64.toInt -
          ntpSyncDiffUs (fromUs received) (fromUs answered) ≤ 500000 := by
  obtain ⟨horigin, hreceive, htransmit⟩ := readTime_replyPacket received answered
  have hheader : ¬((replyPacket received answered).length < ntpPacketSize ∨
      byteAt (replyPacket received answered) 0 >>> 6 ≠ 2 ∨
      byteAt (replyPacket received answered) 1 &&& 0x7f ≠ 0x53 ∨ sync.requestPending = false) := by
    have hrest := replyPacket_header received answered
    rintro (h | h | h | h)
    · exact hrest (Or.inl h)
    · exact hrest (Or.inr (Or.inl h))
    · exact hrest (Or.inr (Or.inr h))
    · rw [hpending] at h
      exact absurd h (by decide)
  unfold ntpSyncProcessPacket
  rw [if_neg hheader, horigin, hreceive, htransmit]
  dsimp only
  -- the origin of the reply is zero
  by_cases hmatch : sync.requestTime = ⟨0, 0⟩
  · rw [if_neg (by rw [hmatch]; simp)]
    by_cases hrtt : ntpSyncDiffUs (fromUs received) (fromUs answered) < 0 ∨
        (arrived - sync.requestLocalUs).toInt64.toInt -
          ntpSyncDiffUs (fromUs received) (fromUs answered) < -2 ∨
        (arrived - sync.requestLocalUs).toInt64.toInt -
          ntpSyncDiffUs (fromUs received) (fromUs answered) > 500000
    · rw [if_pos hrtt]
      constructor
      · rintro ⟨h, -⟩
        exact absurd h (by norm_num)
      · rintro ⟨-, h1, h2, h3⟩
        omega
    · rw [if_neg hrtt]
      constructor
      · intro _
        exact ⟨hmatch, by omega, by omega, by omega⟩
      · intro _
        generalize (if (arrived - sync.requestLocalUs).toInt64.toInt -
          ntpSyncDiffUs (fromUs received) (fromUs answered) < 0 then 0 else
          (arrived - sync.requestLocalUs).toInt64.toInt -
            ntpSyncDiffUs (fromUs received) (fromUs answered)) = rtt
        -- a sample that is not kept leaves the clock synchronized
        by_cases hbetter : sync.synchronized = false ∨ rtt ≤ sync.rttUs + 500 ∨
            arrived - sync.bestSampleUs > 10000000
        · rw [if_pos hbetter]
          exact ⟨rfl, rfl⟩
        · rw [if_neg hbetter]
          rw [not_or] at hbetter
          exact ⟨rfl, by simpa using hbetter.1⟩
  · have hdiffers : (0 : UInt32) ≠ sync.requestTime.seconds ∨
        (0 : UInt32) ≠ sync.requestTime.fraction := by
      by_contra hsame
      rw [not_or, not_not, not_not] at hsame
      apply hmatch
      calc sync.requestTime = ⟨sync.requestTime.seconds, sync.requestTime.fraction⟩ := rfl
        _ = ⟨0, 0⟩ := by rw [← hsame.1, ← hsame.2]
    rw [if_pos hdiffers]
    constructor
    · rintro ⟨h, -⟩
      exact absurd h (by norm_num)
    · rintro ⟨h, -⟩
      exact absurd h hmatch

/-- **The exchange goes through exactly at the start of an NTP era.** -/
theorem ntp_exchange_agrees_iff (sync : NtpSync) (x : Exchange) (offset : ℤ)
    (outbound processing inbound : ℕ) (hbuilt : (ntpSyncRequest sync x.sent).2.isSome = true)
    (htimely : x.Timely offset outbound processing inbound) :
    x.Agrees sync ↔ x.AtEraStart := by
  obtain ⟨request, hrequest⟩ := Option.isSome_iff_exists.mp hbuilt
  obtain ⟨hpacket, htime, hlocal, hpending⟩ := ntpSyncRequest_due hrequest
  obtain ⟨htime', hlocal', hpending'⟩ := controls_request x.controls (ntpSyncRequest sync x.sent).1
  have hcheck := ntpSyncProcessPacket_reply
    (show (x.waiting sync).requestPending = true from hpending'.trans hpending) x.received
      x.answered x.arrived
  have hsent : (x.waiting sync).requestTime = fromUs x.sent := htime'.trans htime
  have hstart : (x.waiting sync).requestLocalUs = x.sent := hlocal'.trans hlocal
  rw [hsent, hstart, fromUs_eq_zero] at hcheck
  have horigin : readTime (replyPacket x.received x.answered) 8 = readTime request 24 ↔
      fromUs x.sent = ⟨0, 0⟩ := by
    rw [(readTime_replyPacket x.received x.answered).1, hpacket, readTime_requestPacket]
    exact eq_comm
  -- the request is there, so its reply is the one modelled
  have hagrees : x.Agrees sync ↔
      readTime (replyPacket x.received x.answered) 8 = readTime request 24 ∧
        (ntpSyncProcessPacket (x.waiting sync) (replyPacket x.received x.answered)
          x.arrived).2 = 0 ∧
        (ntpSyncProcessPacket (x.waiting sync) (replyPacket x.received x.answered)
          x.arrived).1.synchronized = true := by
    constructor
    · rintro ⟨request', reply, hr, hreply, h⟩
      rw [hrequest, Option.some.injEq] at hr
      rw [← hr, hpacket, ntpSyncReply_requestPacket, Option.some.injEq] at hreply
      rw [hr, hreply]
      exact h
    · intro h
      exact ⟨request, _, hrequest, by rw [hpacket, ntpSyncReply_requestPacket], h⟩
  rw [hagrees, horigin, fromUs_eq_zero, hcheck]
  -- the elapsed local time is the sum of the delays
  have helapsed : (x.arrived - x.sent).toInt64.toInt = outbound + processing + inbound := by
    have hsum := htimely.arrived_eq
    have hrt := htimely.round_trip
    have hpr := htimely.processing_lt
    have hdiff : (x.arrived - x.sent).toNat = outbound + processing + inbound := by
      rw [UInt64.toNat_sub_of_le _ _ (by rw [UInt64.le_iff_toNat_le]; omega)]
      omega
    rw [toInt64_of_lt (by omega), hdiff]
    push_cast
    ring
  have hanswered := htimely.answered_eq
  have hround := htimely.round_trip
  have hprocessing := htimely.processing_lt
  unfold Exchange.AtEraStart
  -- stamps further apart have a difference that wraps
  by_cases hclose : x.answered.toNat / 1000000 - x.received.toNat / 1000000 < 2 ^ 31
  · obtain ⟨hnonneg, hupper, hlower⟩ := ntpSyncDiffUs_fromUs
      (show x.received.toNat ≤ x.answered.toNat by omega) hclose
    constructor
    · rintro ⟨⟨h1, h2⟩, -⟩
      exact ⟨h1, h2, hclose⟩
    · rintro ⟨h1, h2, -⟩
      exact ⟨⟨h1, h2⟩, ⟨h1, h2⟩, hnonneg, by omega, by omega⟩
  · have hwrapped := ntpSyncDiffUs_fromUs_wrapped (a := x.received) (b := x.answered) (by omega)
    constructor
    · rintro ⟨-, -, hnonneg, -⟩
      omega
    · rintro ⟨-, -, h⟩
      exact absurd h hclose

/-- A request at the clock of the timing test, 1 ms each way. -/
def testExchange : Exchange :=
  ⟨1700000000000000, 1700000005001000, 1700000005001000, 1700000000002000, []⟩

/-- The exchange of the timing test, answered by the receiver itself. -/
theorem ntp_exchange_rejected :
    (ntpSyncRequest ntpSyncInit testExchange.sent).2.isSome = true ∧
      testExchange.Timely 5000000 1000 0 1000 ∧ ¬testExchange.Agrees ntpSyncInit :=
  ⟨by decide, ⟨by decide, by decide, by decide, by decide, by decide⟩, by decide⟩

/-- A request sent when the seconds of the NTP clock are zero. -/
def eraExchange : Exchange :=
  ⟨2085978496000000, 2085978501001000, 2085978501001000, 2085978496002000, []⟩

theorem ntp_exchange_era : eraExchange.Agrees ntpSyncInit :=
  (ntp_exchange_agrees_iff ntpSyncInit eraExchange 5000000 1000 0 1000 (by decide)
    ⟨by decide, by decide, by decide, by decide, by decide⟩).mpr
    ⟨by decide, by decide, by decide⟩

end PortableAirplay.Sync
