import PortableAirplay.Library.BigEndian
import PortableAirplay.Library.SerialNumber

/-!
# The RAOP clock

`sync/ntp_sync.c`: the timing exchange, the RTP/NTP anchor and the mapping of an
RTP timestamp to local time. The monotonic clock `os_time_us` is an argument,
one for each call. Signed 64-bit values are integers, with C's division, which
truncates; the casts from unsigned values wrap as in the source.
-/

set_option autoImplicit false

namespace PortableAirplay.Sync

open PortableAirplay.Library

/-- `ntp_timestamp_t`. -/
structure NtpTimestamp where
  seconds : UInt32
  fraction : UInt32
  deriving DecidableEq, Repr

/-- `ntp_sync_t`. -/
structure NtpSync where
  clockOffsetUs : ℤ
  rttUs : ℤ
  rtpBase : UInt32
  latencyFrames : UInt32
  ntpBase : NtpTimestamp
  requestTime : NtpTimestamp
  requestLocalUs : UInt64
  nextRequestUs : UInt64
  bestSampleUs : UInt64
  requests : UInt32
  samples : UInt32
  synchronized : Bool
  anchorValid : Bool
  requestPending : Bool
  deriving DecidableEq, Repr

/-- `ntp_sync_init`. -/
def ntpSyncInit : NtpSync := ⟨0, 0, 0, 0, ⟨0, 0⟩, ⟨0, 0⟩, 0, 0, 0, 0, 0, false, false, false⟩

/-- `NTP_PACKET_SIZE`. -/
def ntpPacketSize : ℕ := 32

/-- `read_time` at offset `i`. -/
def readTime (data : List UInt8) (i : ℕ) : NtpTimestamp := ⟨read32 data i, read32 data (i + 4)⟩

/-- `write_time`. -/
def writeTime (t : NtpTimestamp) : List UInt8 := write32 t.seconds ++ write32 t.fraction

/-- `from_us`: the microsecond clock as NTP time. -/
def fromUs (us : UInt64) : NtpTimestamp :=
  ⟨(us / 1000000 + 2208988800).toUInt32, (us % 1000000 * 4294967296 / 1000000).toUInt32⟩

/-- `ntp_sync_diff_us`: signed modular seconds also handle the era rollover. -/
def ntpSyncDiffUs (a b : NtpTimestamp) : ℤ :=
  (b.seconds - a.seconds).toInt32.toInt * 1000000 +
    (((b.fraction.toNat : ℤ) - a.fraction.toNat) * 1000000).tdiv 4294967296

/-- `ntp_sync_request`: the packet, or `none` when no request is due. -/
def ntpSyncRequest (sync : NtpSync) (now : UInt64) : NtpSync × Option (List UInt8) :=
  if now < sync.nextRequestUs then (sync, none)
  else
    let requestTime := fromUs now
    let requests := sync.requests + 1
    ({ sync with
        requestLocalUs := now
        requestTime := requestTime
        requestPending := true
        requests := requests
        nextRequestUs := now + (if requests ≤ 4 then 250000 else 2000000) },
      some ([0x80, 0xd2, 0, 7] ++ List.replicate 20 0 ++ writeTime requestTime))

/-- `ntp_sync_process_packet`: 0 for an accepted reply, -1 otherwise. -/
def ntpSyncProcessPacket (sync : NtpSync) (data : List UInt8) (now : UInt64) : NtpSync × ℤ :=
  if data.length < ntpPacketSize ∨ byteAt data 0 >>> 6 ≠ 2 ∨ byteAt data 1 &&& 0x7f ≠ 0x53 ∨
      sync.requestPending = false then (sync, -1)
  else
    -- the reply must echo the time of the request that is outstanding
    let origin := readTime data 8
    if origin.seconds ≠ sync.requestTime.seconds ∨ origin.fraction ≠ sync.requestTime.fraction then
      (sync, -1)
    else
      let receive := readTime data 16
      let transmit := readTime data 24
      -- the time at the peer does not count towards the round trip
      let processing := ntpSyncDiffUs receive transmit
      let rtt := (now - sync.requestLocalUs).toInt64.toInt - processing
      if processing < 0 ∨ rtt < -2 ∨ rtt > 500000 then (sync, -1)
      else
        -- -1 and -2 come from rounding, and count as no delay
        let rtt := if rtt < 0 then 0 else rtt
        let offset :=
          (ntpSyncDiffUs origin receive + ntpSyncDiffUs (fromUs now) transmit).tdiv 2
        let sync := { sync with requestPending := false, samples := sync.samples + 1 }
        -- the offset moves for a shorter round trip, or once the best one is ten seconds old
        if sync.synchronized = false ∨ rtt ≤ sync.rttUs + 500 ∨
            now - sync.bestSampleUs > 10000000 then
          ({ sync with
              clockOffsetUs := offset, rttUs := rtt, bestSampleUs := now, synchronized := true }, 0)
        else (sync, 0)

/-- `ntp_sync_reply`, which reads the clock twice: the reply, or `none` for -1. -/
def ntpSyncReply (request : List UInt8) (received sent : UInt64) : Option (List UInt8) :=
  if request.length < ntpPacketSize ∨ byteAt request 0 >>> 6 ≠ 2 ∨
      byteAt request 1 &&& 0x7f ≠ 0x52 then none
  else
    some ([0x80, 0xd3, byteAt request 2, byteAt request 3] ++ List.replicate 4 0 ++
      (request.drop 8).take 8 ++ writeTime (fromUs received) ++ writeTime (fromUs sent))

/-- `ntp_sync_control`: binds an RTP timestamp to the sender's timeline. -/
def ntpSyncControl (sync : NtpSync) (data : List UInt8) (rate : UInt32) : NtpSync × ℤ :=
  if data.length < 20 ∨ byteAt data 0 >>> 6 ≠ 2 ∨ byteAt data 1 &&& 0x7f ≠ 0x54 ∨ rate = 0 then
    (sync, -1)
  else
    let playing := read32 data 4
    let sending := read32 data 16
    let latency := sending - playing
    -- more than ten seconds ahead is no latency
    if latency.toNat > rate.toNat * 10 then (sync, -1)
    else
      ({ sync with
          rtpBase := playing
          ntpBase := readTime data 8
          latencyFrames := latency
          anchorValid := true }, 0)

/-- `ntp_sync_rtp_to_ntp`. -/
def ntpSyncRtpToNtp (sync : NtpSync) (timestamp rate : UInt32) (now : UInt64) : NtpTimestamp :=
  if sync.anchorValid = false ∨ rate = 0 then fromUs now
  else
    let delta := ((timestamp - sync.rtpBase).toInt32.toInt * 1000000).tdiv rate.toNat
    let seconds := delta.tdiv 1000000
    let fraction := sync.ntpBase.fraction.toNat + (delta.tmod 1000000 * 4294967296).tdiv 1000000
    let low := if fraction < 0 then (fraction + 4294967296, seconds - 1) else (fraction, seconds)
    let high := if low.1 ≥ 4294967296 then (low.1 - 4294967296, low.2 + 1) else low
    ⟨sync.ntpBase.seconds + UInt32.ofInt high.2, UInt32.ofInt high.1⟩

/-- `ntp_sync_deadline`: the local time of an RTP timestamp, or `none` for -1. -/
def ntpSyncDeadline (sync : NtpSync) (timestamp rate : UInt32) (now : UInt64) : Option UInt64 :=
  if sync.synchronized = false ∨ sync.anchorValid = false ∨ rate = 0 then none
  else
    let remote := ntpSyncRtpToNtp sync timestamp rate now
    let delta := ntpSyncDiffUs (fromUs now) remote - sync.clockOffsetUs
    some (UInt64.ofInt (now.toInt64.toInt + delta))

/-! ## Timestamps -/

@[simp] theorem writeTime_length (t : NtpTimestamp) : (writeTime t).length = 8 := rfl

theorem readTime_writeTime (xs : List UInt8) {i : ℕ} (h : xs.length = i) (t : NtpTimestamp)
    (ys : List UInt8) : readTime (xs ++ writeTime t ++ ys) i = t := by
  have hseconds := read32_write32 xs h t.seconds (write32 t.fraction ++ ys)
  have hfraction := read32_write32 (xs ++ write32 t.seconds)
    (show (xs ++ write32 t.seconds).length = i + 4 by rw [List.length_append, h, write32_length])
    t.fraction ys
  unfold readTime writeTime
  simp only [List.append_assoc] at hseconds hfraction ⊢
  rw [hseconds, hfraction]

theorem toNat_fromUs_seconds (us : UInt64) :
    (fromUs us).seconds.toNat = (us.toNat / 1000000 + 2208988800) % 2 ^ 32 := by
  have hus := us.toNat_lt
  rw [fromUs, UInt64.toNat_toUInt32, UInt64.toNat_add, UInt64.toNat_div]
  simp only [UInt64.reduceToNat]
  omega

theorem toNat_fromUs_fraction (us : UInt64) :
    (fromUs us).fraction.toNat = us.toNat % 1000000 * 4294967296 / 1000000 := by
  have hlow : us.toNat % 1000000 < 1000000 := Nat.mod_lt _ (by omega)
  rw [fromUs, UInt64.toNat_toUInt32, UInt64.toNat_div, UInt64.toNat_mul, UInt64.toNat_mod]
  simp only [UInt64.reduceToNat]
  generalize us.toNat % 1000000 = low at hlow ⊢
  rw [Nat.mod_eq_of_lt (by omega : low * 4294967296 < 2 ^ 64)]
  omega

/-- The instant of the NTP epoch rollover is the only one with timestamp zero in
its era. -/
theorem fromUs_eq_zero (us : UInt64) :
    fromUs us = ⟨0, 0⟩ ↔
      us.toNat % 1000000 = 0 ∧ (us.toNat / 1000000 + 2208988800) % 2 ^ 32 = 0 := by
  have hseconds := toNat_fromUs_seconds us
  have hfraction := toNat_fromUs_fraction us
  constructor
  · intro h
    rw [h] at hseconds hfraction
    have hs : (0 : UInt32).toNat = 0 := rfl
    rw [hs] at hseconds hfraction
    omega
  · rintro ⟨hf, hs⟩
    rw [hs] at hseconds
    rw [hf] at hfraction
    have hs' : (fromUs us).seconds = 0 := UInt32.toNat_inj.mp hseconds
    have hf' : (fromUs us).fraction = 0 := UInt32.toNat_inj.mp hfraction
    calc fromUs us = ⟨(fromUs us).seconds, (fromUs us).fraction⟩ := rfl
      _ = ⟨0, 0⟩ := by rw [hs', hf']

/-- The seconds are the whole seconds of the reading as a 32-bit serial number. -/
theorem fromUs_seconds_serial (us : UInt64) :
    (fromUs us).seconds.toBitVec = serial 32 ((us.toNat / 1000000 : ℕ) + 2208988800) := by
  apply BitVec.eq_of_toNat_eq
  rw [serial, BitVec.toNat_ofInt, UInt32.toNat_toBitVec, toNat_fromUs_seconds]
  omega

theorem fromUs_seconds_sub {a b : UInt64} (hle : a.toNat ≤ b.toNat)
    (hclose : b.toNat / 1000000 - a.toNat / 1000000 < 2 ^ 31) :
    ((fromUs b).seconds - (fromUs a).seconds).toInt32.toInt =
      (b.toNat / 1000000 : ℕ) - (a.toNat / 1000000 : ℕ) := by
  show ((fromUs b).seconds.toBitVec - (fromUs a).seconds.toBitVec).toInt = _
  rw [fromUs_seconds_serial, fromUs_seconds_serial, toInt_serial_sub]
  · omega
  · omega
  · norm_num
    omega

/-- C's division by the number of fraction units is at most one off the floor. -/
theorem tdiv_era (x : ℤ) :
    x.tdiv 4294967296 ≤ x / 4294967296 + 1 ∧ x / 4294967296 ≤ x.tdiv 4294967296 ∧
      (0 ≤ x → x.tdiv 4294967296 = x / 4294967296) := by
  rcases le_or_gt 0 x with hpos | hneg
  · rw [Int.tdiv_eq_ediv_of_nonneg hpos]
    omega
  · have hflip : x.tdiv 4294967296 = -((-x) / 4294967296) := by
      rw [← Int.tdiv_eq_ediv_of_nonneg (by omega : 0 ≤ -x), Int.neg_tdiv, neg_neg]
    omega

/-- **Differences of clock readings.** When the seconds are less than `2 ^ 31`
apart the difference of two timestamps is that of the readings to a microsecond,
and not negative when the readings are in order. -/
theorem ntpSyncDiffUs_fromUs {a b : UInt64} (hle : a.toNat ≤ b.toNat)
    (hclose : b.toNat / 1000000 - a.toNat / 1000000 < 2 ^ 31) :
    0 ≤ ntpSyncDiffUs (fromUs a) (fromUs b) ∧
      ntpSyncDiffUs (fromUs a) (fromUs b) ≤ b.toNat - a.toNat + 1 ∧
      (b.toNat : ℤ) - a.toNat - 1 ≤ ntpSyncDiffUs (fromUs a) (fromUs b) := by
  have hseconds := fromUs_seconds_sub hle hclose
  have ha := toNat_fromUs_fraction a
  have hb := toNat_fromUs_fraction b
  unfold ntpSyncDiffUs
  rw [hseconds, ha, hb]
  generalize hx : (((b.toNat % 1000000 * 4294967296 / 1000000 : ℕ) : ℤ) -
    (a.toNat % 1000000 * 4294967296 / 1000000 : ℕ)) * 1000000 = x
  -- the two roundings of the fractions are each below one microsecond
  have htrunc := tdiv_era x
  omega

/-- Readings whose seconds are exactly `2 ^ 31` apart look as if they were in the
other order. -/
theorem ntpSyncDiffUs_fromUs_wrapped {a b : UInt64}
    (hfar : b.toNat / 1000000 = a.toNat / 1000000 + 2 ^ 31) :
    ntpSyncDiffUs (fromUs a) (fromUs b) < 0 := by
  have hseconds : ((fromUs b).seconds - (fromUs a).seconds).toInt32.toInt = -2 ^ 31 := by
    have hserial : serial 32 ((b.toNat / 1000000 : ℕ) + 2208988800) =
        serial 32 (((a.toNat / 1000000 : ℕ) : ℤ) + 2208988800 - 2 ^ 31) := by
      apply BitVec.eq_of_toNat_eq
      rw [serial, serial, BitVec.toNat_ofInt, BitVec.toNat_ofInt]
      omega
    show ((fromUs b).seconds.toBitVec - (fromUs a).seconds.toBitVec).toInt = _
    rw [fromUs_seconds_serial, fromUs_seconds_serial, hserial, toInt_serial_sub]
    · omega
    · norm_num
    · norm_num
  have hb := toNat_fromUs_fraction b
  unfold ntpSyncDiffUs
  rw [hseconds, hb]
  generalize hx : (((b.toNat % 1000000 * 4294967296 / 1000000 : ℕ) : ℤ) -
    (fromUs a).fraction.toNat) * 1000000 = x
  have htrunc := tdiv_era x
  omega

end PortableAirplay.Sync
