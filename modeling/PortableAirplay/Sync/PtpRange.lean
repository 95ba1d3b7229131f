import PortableAirplay.Library.Rounding
import PortableAirplay.Library.SerialNumber
import PortableAirplay.Sync.PtpRejected

/-!
# The range of PTP times

The signed 64-bit values of `ptp_sync_packet` and `ptp_sync_deadline`, listed beside the
functions in the order of the source; an unsigned time that is cast is listed with its
unsigned value. The seconds of a sender time are checked before it is turned into
microseconds, so the microseconds may carry it past the range, and two sender times may
be too far apart for their difference.

`PacketFits` and `DeadlineFits` say exactly when that does not happen, in every state
that a run of packets that fit leads to (`ptp_values_in_range`). They hold of every run
whose sender times lie in one window of almost `2 ^ 62` microseconds.
-/

set_option autoImplicit false

namespace PortableAirplay.Sync

open PortableAirplay.Library
open PortableAirplay.Platform

/-- A signed 64-bit number. -/
def InInt64 (x : ℤ) : Prop := -9223372036854775808 ≤ x ∧ x < 9223372036854775808

/-! ## The values -/

/-- The time of a message in microseconds. -/
def senderTimeUs (data : List UInt8) : ℤ :=
  (ptpField data 34 6).toNat * 1000000 + ((ptpField data 40 4).toUInt32.toNat / 1000 : ℕ)

/-- The correction of a message in microseconds. -/
def messageCorrection (data : List UInt8) : ℤ := (ptpField data 8 8).toInt64.toInt.tdiv 65536000

/-- The offset that a sample gives. -/
def ptpOffset (p : PtpSync) (data : List UInt8) (correction : ℤ) : ℤ :=
  senderTimeUs data + correction - p.syncReceivedUs.toNat

/-- The present offset is kept, up to smoothing. -/
def Smooths (p : PtpSync) (offset : ℤ) (now : UInt64) : Prop :=
  ¬ (p.ready = false ∨ now - p.updatedUs > 2000000 ∨ offset > p.offsetUs)

instance (p : PtpSync) (offset : ℤ) (now : UInt64) : Decidable (Smooths p offset now) :=
  inferInstanceAs (Decidable (¬ _))

/-- The offset after a sample. -/
def keptOffset (p : PtpSync) (offset : ℤ) (now : UInt64) : ℤ :=
  if p.ready = false ∨ now - p.updatedUs > 2000000 ∨ offset > p.offsetUs then offset
  else p.offsetUs + (offset - p.offsetUs).tdiv 64

/-- The values of the end of `ptp_sync_packet`. -/
def sampleValues (p : PtpSync) (data : List UInt8) (correction : ℤ) (now : UInt64) : List ℤ :=
  if BadTimestamp data then []
  else
    let offset := ptpOffset p data correction
    [senderTimeUs data, senderTimeUs data + correction, p.syncReceivedUs.toNat, offset] ++
      if Smooths p offset now then
        [offset - p.offsetUs, p.offsetUs + (offset - p.offsetUs).tdiv 64]
      else []

/-- The values of `ptp_sync_packet`. -/
def packetValues (p : PtpSync) (data : List UInt8) (now : UInt64) : List ℤ :=
  if data.length < 44 ∨ byteAt data 1 &&& 15 ≠ 2 then []
  else
    let length := (ptpField data 2 2).toNat
    if length < 44 ∨ length > data.length then []
    else
      let type := byteAt data 0 &&& 15
      let clock := ptpField data 20 8
      if (type ≠ 0 ∧ type ≠ 8) ∨ p.clockId = 0 ∨ clock ≠ p.clockId then []
      else
        let seq := (ptpField data 30 2).toUInt16
        let correction := messageCorrection data
        let source := (data.drop 20).take 10
        correction ::
          if type = 0 then
            if byteAt data 6 &&& 2 ≠ 0 then []
            else sampleValues (p.record data now) data correction now
          else if p.pending = false ∨ seq ≠ p.sequence ∨ byteAt data 4 ≠ p.domain ∨
              p.sourcePort ≠ source ∨ now - p.syncReceivedUs > 1000000 then []
          else
            (correction + p.syncCorrection) ::
              sampleValues p data (correction + p.syncCorrection) now

/-- The values of `ptp_sync_deadline`. -/
def deadlineValues (p : PtpSync) (a : AirplayAnchor) (timestamp rate latency : UInt32)
    (now : UInt64) : List ℤ :=
  if p.ready = false ∨ a.valid = false ∨ a.playing = false ∨ rate = 0 ∨ a.clockId ≠ p.clockId ∨
      (now ≥ p.updatedUs ∧ now - p.updatedUs > 5000000) then []
  else
    let delta := (timestamp - a.rtpTime).toInt32.toInt + latency.toNat
    [delta, a.networkUs.toNat, a.networkUs.toNat - p.offsetUs, delta * 1000000,
      a.networkUs.toNat - p.offsetUs + (delta * 1000000).tdiv rate.toNat]

/-! ## The conditions -/

/-- A sample fits: its sender time is in range, also after the correction, and not more
than `2 ^ 63` microseconds behind the present estimate, if that is recent. -/
structure SampleFits (p : PtpSync) (data : List UInt8) (correction : ℤ) (now : UInt64) : Prop where
  sender : senderTimeUs data + max correction 0 < 9223372036854775808
  behind : p.ready = true → now - p.updatedUs ≤ 2000000 →
    p.offsetUs + p.syncReceivedUs.toNat ≤ senderTimeUs data + correction + 9223372036854775808

/-- A packet fits, if it gives no sample or one that fits. -/
structure PacketFits (p : PtpSync) (data : List UInt8) (now : UInt64) : Prop where
  oneStep : Records p data → byteAt data 6 &&& 2 = 0 → ¬ BadTimestamp data →
    SampleFits (p.record data now) data (messageCorrection data) now
  followUp : Follows p data now → ¬ BadTimestamp data →
    SampleFits p data (messageCorrection data + p.syncCorrection) now

/-- The microseconds of the frames between the anchor and a deadline. -/
def frameUs (a : AirplayAnchor) (timestamp rate latency : UInt32) : ℤ :=
  (((timestamp - a.rtpTime).toInt32.toInt + latency.toNat) * 1000000).tdiv rate.toNat

/-- A deadline fits, if none is computed or its network time is in range and, with the
frames added, not too far from the present offset. -/
structure DeadlineFits (p : PtpSync) (a : AirplayAnchor) (timestamp rate latency : UInt32)
    (now : UInt64) : Prop where
  fits : ¬ (p.ready = false ∨ a.valid = false ∨ a.playing = false ∨ rate = 0 ∨
      a.clockId ≠ p.clockId ∨ (now ≥ p.updatedUs ∧ now - p.updatedUs > 5000000)) →
    a.networkUs.toNat < 9223372036854775808 ∧
      a.networkUs.toNat + max (frameUs a timestamp rate latency) 0 <
        p.offsetUs + 9223372036854775808 ∧
      p.offsetUs ≤ a.networkUs.toNat + frameUs a timestamp rate latency + 9223372036854775808

/-- What bounds the state of the clock while local times are below `2 ^ 62`. -/
structure PtpBounds (p : PtpSync) : Prop where
  received : p.syncReceivedUs.toNat < 4611686018427387904
  correction : |p.syncCorrection| ≤ 140737488356
  offsetLow : -4611686018427387904 - 281474976712 ≤ p.offsetUs
  offsetHigh : p.offsetUs < 9223372036854775808

/-! ## One packet -/

theorem messageCorrection_le (data : List UInt8) : |messageCorrection data| ≤ 140737488356 := by
  have hlow := (ptpField data 8 8).toInt64.le_toInt
  have hhigh := (ptpField data 8 8).toInt64.toInt_lt
  have hsplit := Int.tmod_add_tdiv_mul (ptpField data 8 8).toInt64.toInt 65536000
  have hrest := abs_tmod_lt (ptpField data 8 8).toInt64.toInt (show (0 : ℤ) < 65536000 by norm_num)
  rw [messageCorrection]
  generalize (ptpField data 8 8).toInt64.toInt = field at hlow hhigh hsplit hrest ⊢
  generalize field.tdiv 65536000 = quotient at hsplit ⊢
  rw [abs_lt] at hrest
  rw [abs_le]
  omega

theorem senderTimeUs_bounds {data : List UInt8} (h : ¬ BadTimestamp data) :
    0 ≤ senderTimeUs data ∧ senderTimeUs data < 9223372036856000000 := by
  rw [BadTimestamp, not_or] at h
  obtain ⟨hns, hsec⟩ := h
  have hns' : (ptpField data 40 4).toUInt32.toNat < 1000000000 := UInt32.not_le.mp hns
  have hsec' : (ptpField data 34 6).toNat ≤ 9223372036854 := UInt64.not_lt.mp hsec
  rw [senderTimeUs]
  omega

/-- The conversion of the source does not wrap as an unsigned number. -/
theorem senderTime_toNat {data : List UInt8} (h : ¬ BadTimestamp data) :
    ((ptpField data 34 6 * 1000000 +
      ((ptpField data 40 4).toUInt32 / 1000).toUInt64).toNat : ℤ) = senderTimeUs data := by
  have hbounds := senderTimeUs_bounds h
  rw [senderTimeUs] at hbounds ⊢
  rw [UInt64.toNat_add, UInt64.toNat_mul, UInt32.toNat_toUInt64, UInt32.toNat_div]
  simp only [UInt64.reduceToNat, UInt32.reduceToNat]
  omega

/-- **A sample without overflow** sets the offset to that of the exact times. -/
theorem ptpSample_exact {p : PtpSync} {data : List UInt8} (hgood : ¬ BadTimestamp data)
    (hreceived : p.syncReceivedUs.toNat < 4611686018427387904)
    (hsender : senderTimeUs data < 9223372036854775808) (correction : ℤ) (now : UInt64) :
    ptpSample p data correction now =
      (p.sampled (keptOffset p (ptpOffset p data correction) now) now, 1) := by
  have htime := senderTime_toNat hgood
  have hcast : (ptpField data 34 6 * 1000000 +
      ((ptpField data 40 4).toUInt32 / 1000).toUInt64).toInt64.toInt = senderTimeUs data := by
    rw [toInt64_of_lt (by omega)]
    exact htime
  have hgood' : ¬ ((ptpField data 40 4).toUInt32 ≥ 1000000000 ∨
      ptpField data 34 6 > 0x7fffffffffffffff / 1000000) := hgood
  rw [ptpSample]
  dsimp only
  rw [if_neg hgood', hcast, toInt64_of_lt (by omega)]
  rfl

/-- Smoothing stays between the two offsets. -/
theorem keptOffset_between (p : PtpSync) (offset : ℤ) (now : UInt64) :
    keptOffset p offset now = offset ∨
      (p.ready = true ∧ offset ≤ keptOffset p offset now ∧
        keptOffset p offset now ≤ p.offsetUs) := by
  rw [keptOffset]
  split
  · exact Or.inl rfl
  · rename_i hsmooth
    rw [not_or, not_or, Bool.not_eq_false] at hsmooth
    obtain ⟨hready, -, hle⟩ := hsmooth
    have hsplit := Int.tmod_add_tdiv_mul (offset - p.offsetUs) 64
    have hrest := abs_tmod_lt (offset - p.offsetUs) (show (0 : ℤ) < 64 by norm_num)
    generalize (offset - p.offsetUs).tdiv 64 = part at hsplit ⊢
    rw [abs_lt] at hrest
    exact Or.inr ⟨hready, by omega, by omega⟩

/-- **The values of a sample are in range** exactly if it fits. -/
theorem sampleValues_inRange {p : PtpSync} {data : List UInt8} {correction : ℤ}
    (hreceived : p.syncReceivedUs.toNat < 4611686018427387904)
    (hcorrection : |correction| ≤ 281474976712)
    (hlow : -4611686018427387904 - 281474976712 ≤ p.offsetUs)
    (hhigh : p.offsetUs < 9223372036854775808) (now : UInt64) :
    (∀ v ∈ sampleValues p data correction now, InInt64 v) ↔
      (¬ BadTimestamp data → SampleFits p data correction now) := by
  rw [sampleValues]
  by_cases hbad : BadTimestamp data
  · rw [if_pos hbad]
    exact ⟨fun _ hgood => absurd hbad hgood, fun _ v hv => absurd hv List.not_mem_nil⟩
  · obtain ⟨hnonneg, -⟩ := senderTimeUs_bounds hbad
    rw [if_neg hbad, abs_le] at *
    have hoffset : ptpOffset p data correction =
        senderTimeUs data + correction - p.syncReceivedUs.toNat := rfl
    generalize ptpOffset p data correction = offset at hoffset ⊢
    constructor
    · intro h hgood
      have hsender : InInt64 (senderTimeUs data) := h _ (by simp)
      have hsum : InInt64 (senderTimeUs data + correction) := h _ (by simp)
      refine ⟨?_, fun hready hrecent => ?_⟩
      · have hsender' := hsender.2
        have hsum' := hsum.2
        omega
      · by_cases hsmooth : Smooths p offset now
        · have hstep : InInt64 (offset - p.offsetUs) := h _ (by simp [hsmooth])
          have hstep' := hstep.1
          omega
        · -- an offset that is not smoothed is larger than the present one
          have hlarger : offset > p.offsetUs := by
            rw [Smooths, not_not] at hsmooth
            rcases hsmooth with hnot | hold | hlarger
            · exact Bool.noConfusion (hready.symm.trans hnot)
            · exact absurd hrecent (UInt64.not_le.mpr hold)
            · exact hlarger
          omega
    · intro h
      obtain ⟨hsender, hbehind⟩ := h hbad
      intro v hv
      rw [List.mem_append] at hv
      -- the sums of the offset, then those of the smoothing
      rcases hv with hv | hv
      · simp only [List.mem_cons, List.not_mem_nil, or_false] at hv
        rcases hv with rfl | rfl | rfl | rfl
        · exact ⟨by omega, by omega⟩
        · exact ⟨by omega, by omega⟩
        · exact ⟨by omega, by omega⟩
        · exact ⟨by omega, by omega⟩
      · by_cases hsmooth : Smooths p offset now
        · rw [if_pos hsmooth] at hv
          have hnot := hsmooth
          rw [Smooths, not_or, not_or, Bool.not_eq_false] at hnot
          obtain ⟨hready, hrecent, hle⟩ := hnot
          have hnear := hbehind hready (UInt64.not_lt.mp hrecent)
          have hsplit := Int.tmod_add_tdiv_mul (offset - p.offsetUs) 64
          have hrest := abs_tmod_lt (offset - p.offsetUs) (show (0 : ℤ) < 64 by norm_num)
          generalize (offset - p.offsetUs).tdiv 64 = part at hsplit hv
          rw [abs_lt] at hrest
          simp only [List.mem_cons, List.not_mem_nil, or_false] at hv
          rcases hv with rfl | rfl
          · exact ⟨by omega, by omega⟩
          · exact ⟨by omega, by omega⟩
        · rw [if_neg hsmooth] at hv
          exact absurd hv List.not_mem_nil

/-- The values of a packet: of the sample that it gives, if any, and its corrections. -/
theorem packetValues_cases (p : PtpSync) (data : List UInt8) (now : UInt64) :
    (Records p data ∧ packetValues p data now = messageCorrection data ::
        if byteAt data 6 &&& 2 ≠ 0 then []
        else sampleValues (p.record data now) data (messageCorrection data) now) ∨
      (Follows p data now ∧ packetValues p data now =
        messageCorrection data :: (messageCorrection data + p.syncCorrection) ::
          sampleValues p data (messageCorrection data + p.syncCorrection) now) ∨
      (¬ Records p data ∧ ¬ Follows p data now ∧
        ∀ v ∈ packetValues p data now, v = messageCorrection data) := by
  rw [packetValues]
  cases ptpGuards p data now with
  | short hshort =>
      rw [if_pos hshort]
      exact Or.inr (Or.inr ⟨fun h => h.1.1 hshort, fun h => h.selected.1 hshort,
        fun v hv => absurd hv List.not_mem_nil⟩)
  | cut hlong hcut =>
      rw [if_neg hlong]
      dsimp only
      rw [if_pos hcut]
      exact Or.inr (Or.inr ⟨fun h => h.1.2.1 hcut, fun h => h.selected.2.1 hcut,
        fun v hv => absurd hv List.not_mem_nil⟩)
  | other hlong hwhole hother =>
      rw [if_neg hlong]
      dsimp only
      rw [if_neg hwhole, if_pos hother]
      exact Or.inr (Or.inr ⟨fun h => h.not_other hother, fun h => h.not_other hother,
        fun v hv => absurd hv List.not_mem_nil⟩)
  | sync hrecords =>
      rw [if_neg hrecords.1.1]
      dsimp only
      rw [if_neg hrecords.1.2.1, if_neg hrecords.not_other, if_pos hrecords.2]
      exact Or.inl ⟨hrecords, rfl⟩
  | stale hselected htype hclock hstale =>
      have hsync : ¬ byteAt data 0 &&& 15 = 0 := by
        rw [htype]
        decide
      rw [if_neg hselected.1]
      dsimp only
      rw [if_neg hselected.2.1, if_neg hclock, if_neg hsync, if_pos hstale]
      -- the correction was computed before the packet was found stale
      exact Or.inr (Or.inr ⟨fun h => hsync h.2, fun h => h.not_stale hstale,
        fun v hv => List.mem_singleton.mp hv⟩)
  | followUp hfollows =>
      have hsync : ¬ byteAt data 0 &&& 15 = 0 := by
        rw [hfollows.type]
        decide
      rw [if_neg hfollows.selected.1]
      dsimp only
      rw [if_neg hfollows.selected.2.1, if_neg hfollows.not_other, if_neg hsync,
        if_neg hfollows.not_stale]
      exact Or.inr (Or.inl ⟨hfollows, rfl⟩)

theorem PtpBounds.record {p : PtpSync} (h : PtpBounds p) (data : List UInt8) {now : UInt64}
    (hnow : now.toNat < 4611686018427387904) : PtpBounds (p.record data now) :=
  ⟨hnow, messageCorrection_le data, h.offsetLow, h.offsetHigh⟩

theorem followCorrection_le {p : PtpSync} (h : PtpBounds p) (data : List UInt8) :
    |messageCorrection data + p.syncCorrection| ≤ 281474976712 := by
  have hfirst := messageCorrection_le data
  have hsecond := h.correction
  rw [abs_le] at hfirst hsecond ⊢
  omega

theorem correction_inInt64 {x : ℤ} (h : |x| ≤ 281474976712) : InInt64 x := by
  rw [abs_le] at h
  exact ⟨by omega, by omega⟩

/-- **The values of a packet are in range** exactly if it fits. -/
theorem packetValues_inRange {p : PtpSync} (h : PtpBounds p) (data : List UInt8) {now : UInt64}
    (hnow : now.toNat < 4611686018427387904) :
    (∀ v ∈ packetValues p data now, InInt64 v) ↔ PacketFits p data now := by
  have hcorrection := messageCorrection_le data
  have hown : InInt64 (messageCorrection data) := correction_inInt64 (by omega)
  rcases packetValues_cases p data now with ⟨hrecords, hvalues⟩ | ⟨hfollows, hvalues⟩ |
    ⟨hrecords, hfollows, hvalues⟩
  · rw [hvalues, List.forall_mem_cons]
    by_cases htwo : byteAt data 6 &&& 2 ≠ 0
    · rw [if_pos htwo]
      exact ⟨fun _ => ⟨fun _ hone => absurd hone htwo,
        fun hfollows => absurd hrecords hfollows.not_records⟩,
        fun _ => ⟨hown, fun v hv => absurd hv List.not_mem_nil⟩⟩
    · rw [if_neg htwo]
      have hrecorded := h.record data hnow
      have hsample := @sampleValues_inRange (p.record data now) data
        (messageCorrection data) hrecorded.received (by omega)
        hrecorded.offsetLow hrecorded.offsetHigh now
      rw [hsample]
      exact ⟨fun hin => ⟨fun _ _ => hin.2,
        fun hfollows => absurd hrecords hfollows.not_records⟩,
        fun hfits => ⟨hown, hfits.oneStep hrecords (not_not.mp htwo)⟩⟩
  · have hsum := followCorrection_le h data
    rw [hvalues, List.forall_mem_cons, List.forall_mem_cons,
      sampleValues_inRange h.received hsum h.offsetLow h.offsetHigh now]
    exact ⟨fun hin => ⟨fun hrecords => absurd hrecords hfollows.not_records,
      fun _ => hin.2.2⟩, fun hfits => ⟨hown, correction_inInt64 hsum, hfits.followUp hfollows⟩⟩
  · refine ⟨fun _ => ⟨fun h => absurd h hrecords, fun h => absurd h hfollows⟩, fun _ v hv => ?_⟩
    rw [hvalues v hv]
    exact hown

/-- A sample that fits leaves the offset in its bounds. -/
theorem ptpSample_bounds {p : PtpSync} (h : PtpBounds p) {data : List UInt8} {correction : ℤ}
    (hcorrection : |correction| ≤ 281474976712) {now : UInt64}
    (hfits : ¬ BadTimestamp data → SampleFits p data correction now) :
    PtpBounds (ptpSample p data correction now).1 := by
  by_cases hbad : BadTimestamp data
  · rw [ptpSample_bad hbad]
    exact h
  · obtain ⟨hsender, -⟩ := hfits hbad
    obtain ⟨hnonneg, -⟩ := senderTimeUs_bounds hbad
    have hreceived := h.received
    have hlow := h.offsetLow
    have hhigh := h.offsetHigh
    rw [ptpSample_exact hbad hreceived (by omega)]
    have hbetween := keptOffset_between p (ptpOffset p data correction) now
    have hoffset : ptpOffset p data correction =
        senderTimeUs data + correction - p.syncReceivedUs.toNat := rfl
    rw [abs_le] at hcorrection
    refine ⟨hreceived, h.correction, ?_, ?_⟩
    · show _ ≤ keptOffset p (ptpOffset p data correction) now
      omega
    · show keptOffset p (ptpOffset p data correction) now < _
      omega

theorem ptpSyncPacket_bounds {p : PtpSync} (h : PtpBounds p) {data : List UInt8} {now : UInt64}
    (hnow : now.toNat < 4611686018427387904) (hfits : PacketFits p data now) :
    PtpBounds (ptpSyncPacket p data now).1 := by
  have hrecorded := h.record data hnow
  have hcorrection := messageCorrection_le data
  rcases ptpSyncPacket_shape p data now with ⟨hrecords, hshape⟩ | ⟨hfollows, hshape⟩ |
    ⟨-, -, r, -, hshape⟩
  · rw [hshape]
    by_cases htwo : byteAt data 6 &&& 2 ≠ 0
    · rw [if_pos htwo]
      exact hrecorded
    · rw [if_neg htwo]
      exact ptpSample_bounds hrecorded (hcorrection.trans (by norm_num))
        (hfits.oneStep hrecords (not_not.mp htwo))
  · rw [hshape]
    exact ptpSample_bounds h (followCorrection_le h data) (hfits.followUp hfollows)
  · rw [hshape]
    exact h

/-! ## Deadlines -/

theorem frameUs_le (a : AirplayAnchor) (timestamp latency : UInt32) {rate : UInt32}
    (hrate : rate ≠ 0) : |frameUs a timestamp rate latency| < 9007199254740992 := by
  have hlow := (timestamp - a.rtpTime).toInt32.le_toInt
  have hhigh := (timestamp - a.rtpTime).toInt32.toInt_lt
  have hlatency := latency.toNat_lt
  have hpos : 0 < rate.toNat := by
    have hne : rate.toNat ≠ 0 := fun h => hrate (UInt32.toNat_inj.mp h)
    omega
  have hquotient := Int.natAbs_tdiv_le_natAbs
    (((timestamp - a.rtpTime).toInt32.toInt + latency.toNat) * 1000000) rate.toNat
  rw [frameUs]
  generalize (timestamp - a.rtpTime).toInt32.toInt = distance at hlow hhigh hquotient ⊢
  generalize ((distance + latency.toNat) * 1000000).tdiv rate.toNat = frames at hquotient ⊢
  rw [abs_lt]
  omega

/-- **The values of a deadline are in range** exactly if it fits. -/
theorem deadlineValues_inRange {p : PtpSync} (h : PtpBounds p) (a : AirplayAnchor)
    (timestamp rate latency : UInt32) (now : UInt64) :
    (∀ v ∈ deadlineValues p a timestamp rate latency now, InInt64 v) ↔
      DeadlineFits p a timestamp rate latency now := by
  have hoffsetLow := h.offsetLow
  have hoffsetHigh := h.offsetHigh
  rw [deadlineValues]
  by_cases hnone : p.ready = false ∨ a.valid = false ∨ a.playing = false ∨ rate = 0 ∨
      a.clockId ≠ p.clockId ∨ (now ≥ p.updatedUs ∧ now - p.updatedUs > 5000000)
  · rw [if_pos hnone]
    exact ⟨fun _ => ⟨fun h => absurd hnone h⟩, fun _ v hv => absurd hv List.not_mem_nil⟩
  · rw [if_neg hnone]
    dsimp only
    have hframes := @frameUs_le a timestamp latency rate
      (fun hrate => hnone (Or.inr (Or.inr (Or.inr (Or.inl hrate)))))
    have hlow := (timestamp - a.rtpTime).toInt32.le_toInt
    have hhigh := (timestamp - a.rtpTime).toInt32.toInt_lt
    have hlatency := latency.toNat_lt
    have hframe : (((timestamp - a.rtpTime).toInt32.toInt + latency.toNat) * 1000000).tdiv
        rate.toNat = frameUs a timestamp rate latency := rfl
    rw [hframe]
    -- the frames are bounded as a whole
    generalize hname : frameUs a timestamp rate latency = frames at hframes ⊢
    rw [abs_lt] at hframes
    constructor
    · intro hin
      refine ⟨fun _ => ?_⟩
      rw [hname]
      have hnetwork : InInt64 a.networkUs.toNat := hin _ (by simp)
      have hdistance : InInt64 (a.networkUs.toNat - p.offsetUs) := hin _ (by simp)
      have hsum : InInt64 (a.networkUs.toNat - p.offsetUs + frames) := hin _ (by simp)
      obtain ⟨-, hnetwork⟩ := hnetwork
      obtain ⟨-, hdistance⟩ := hdistance
      obtain ⟨hsumLow, hsumHigh⟩ := hsum
      exact ⟨by omega, by omega, by omega⟩
    · rintro ⟨hfits⟩
      obtain ⟨hnetwork, hahead, hbehind⟩ := hfits hnone
      rw [hname] at hahead hbehind
      intro v hv
      simp only [List.mem_cons, List.not_mem_nil, or_false] at hv
      rcases hv with rfl | rfl | rfl | rfl | rfl
      · exact ⟨by omega, by omega⟩
      · exact ⟨by omega, by omega⟩
      · exact ⟨by omega, by omega⟩
      · exact ⟨by omega, by omega⟩
      · exact ⟨by omega, by omega⟩

/-! ## Runs -/

/-- The condition for a call. -/
def CallFits (p : PtpSync) : PtpCall → Prop
  | .setClock _ => True
  | .packet data now => now.toNat < 4611686018427387904 ∧ PacketFits p data now

theorem PtpBounds.setClock {p : PtpSync} (h : PtpBounds p) (clockId : UInt64) :
    PtpBounds (ptpSyncSetClock p clockId) := by
  by_cases hsame : clockId = p.clockId
  · rw [hsame, ptpSyncSetClock_same]
    exact h
  · rw [ptpSyncSetClock_other hsame]
    exact ⟨h.received, h.correction, h.offsetLow, h.offsetHigh⟩

theorem ptpSyncInit_bounds : PtpBounds ptpSyncInit := ⟨by decide, by decide, by decide, by decide⟩

/-- **A run of calls that fit keeps the clock in its bounds.** -/
theorem ptpRun_bounds (calls : List PtpCall)
    (h : ptpMachine.Guarded CallFits ptpSyncInit calls) : PtpBounds (ptpRun calls) := by
  refine ptpMachine.run_guarded PtpBounds ?_ calls ptpSyncInit ptpSyncInit_bounds h
  intro p call hbounds hfits
  cases call with
  | setClock clockId => exact hbounds.setClock clockId
  | packet data now => exact ptpSyncPacket_bounds hbounds hfits.1 hfits.2

/-! ## Sender times in one window -/

section Window

variable {lo hi : ℤ}

/-- The window is narrower than `2 ^ 62` microseconds, and ends before the range does. -/
structure IsWindow (lo hi : ℤ) : Prop where
  width : hi - lo ≤ 4611686018427387904 - 18014398509481984
  last : hi < 9223372036854775808 - 1099511627776

/-- A packet that gives a sample has its sender time in the window. -/
structure PacketWithin (lo hi : ℤ) (p : PtpSync) (data : List UInt8) (now : UInt64) : Prop where
  oneStep : Records p data → byteAt data 6 &&& 2 = 0 → ¬ BadTimestamp data →
    lo ≤ senderTimeUs data ∧ senderTimeUs data ≤ hi
  followUp : Follows p data now → ¬ BadTimestamp data →
    lo ≤ senderTimeUs data ∧ senderTimeUs data ≤ hi

/-- The condition for a call. -/
def CallWithin (lo hi : ℤ) (p : PtpSync) : PtpCall → Prop
  | .setClock _ => True
  | .packet data now => now.toNat < 4611686018427387904 ∧ PacketWithin lo hi p data now

/-- What the offset is while the sender times are in the window. -/
structure WindowBounds (lo hi : ℤ) (p : PtpSync) : Prop where
  bounds : PtpBounds p
  offset : p.ready = true → lo - 281474976712 - 4611686018427387904 ≤ p.offsetUs ∧
    p.offsetUs ≤ hi + 281474976712

theorem sample_within (hwindow : IsWindow lo hi) {p : PtpSync} (h : WindowBounds lo hi p)
    {data : List UInt8} {correction : ℤ} (hcorrection : |correction| ≤ 281474976712)
    (hwithin : ¬ BadTimestamp data → lo ≤ senderTimeUs data ∧ senderTimeUs data ≤ hi)
    (now : UInt64) :
    (¬ BadTimestamp data → SampleFits p data correction now) ∧
      WindowBounds lo hi (ptpSample p data correction now).1 := by
  obtain ⟨hwidth, hlast⟩ := hwindow
  have hreceived := h.bounds.received
  have hcorrection' := abs_le.mp hcorrection
  have hfits : ¬ BadTimestamp data → SampleFits p data correction now := by
    intro hgood
    obtain ⟨hlow, hhigh⟩ := hwithin hgood
    refine ⟨by omega, fun hready _ => ?_⟩
    obtain ⟨-, hoffset⟩ := h.offset hready
    omega
  refine ⟨hfits, ptpSample_bounds h.bounds hcorrection hfits, ?_⟩
  by_cases hbad : BadTimestamp data
  · rw [ptpSample_bad hbad]
    exact h.offset
  · obtain ⟨hlow, hhigh⟩ := hwithin hbad
    rw [ptpSample_exact hbad hreceived (by omega)]
    intro _
    have hoffset : ptpOffset p data correction =
        senderTimeUs data + correction - p.syncReceivedUs.toNat := rfl
    show _ ≤ keptOffset p (ptpOffset p data correction) now ∧
      keptOffset p (ptpOffset p data correction) now ≤ _
    rcases keptOffset_between p (ptpOffset p data correction) now with hnew | ⟨hready, hle, hge⟩
    · rw [hnew]
      exact ⟨by omega, by omega⟩
    · have hpresent := h.offset hready
      exact ⟨by omega, by omega⟩

theorem WindowBounds.record {p : PtpSync} (h : WindowBounds lo hi p) (data : List UInt8)
    {now : UInt64} (hnow : now.toNat < 4611686018427387904) :
    WindowBounds lo hi (p.record data now) := ⟨h.bounds.record data hnow, h.offset⟩

/-- A packet with its sender time in the window fits, and the offset stays. -/
theorem packet_within (hwindow : IsWindow lo hi) {p : PtpSync} (h : WindowBounds lo hi p)
    {data : List UInt8} {now : UInt64} (hnow : now.toNat < 4611686018427387904)
    (hwithin : PacketWithin lo hi p data now) :
    PacketFits p data now ∧ WindowBounds lo hi (ptpSyncPacket p data now).1 := by
  have hown : |messageCorrection data| ≤ 281474976712 :=
    (messageCorrection_le data).trans (by norm_num)
  have hrecorded := h.record data hnow
  refine ⟨⟨fun hrecords hone => ?_, fun hfollows => ?_⟩, ?_⟩
  · exact (sample_within hwindow hrecorded hown (hwithin.oneStep hrecords hone) now).1
  · exact (sample_within hwindow h (followCorrection_le h.bounds data)
      (hwithin.followUp hfollows) now).1
  · rcases ptpSyncPacket_shape p data now with ⟨hrecords, hshape⟩ | ⟨hfollows, hshape⟩ |
      ⟨-, -, r, -, hshape⟩
    · rw [hshape]
      by_cases htwo : byteAt data 6 &&& 2 ≠ 0
      · rw [if_pos htwo]
        exact hrecorded
      · rw [if_neg htwo]
        exact (sample_within hwindow hrecorded hown
          (hwithin.oneStep hrecords (not_not.mp htwo)) now).2
    · rw [hshape]
      exact (sample_within hwindow h (followCorrection_le h.bounds data)
        (hwithin.followUp hfollows) now).2
    · rw [hshape]
      exact h

theorem WindowBounds.setClock {p : PtpSync} (h : WindowBounds lo hi p) (clockId : UInt64) :
    WindowBounds lo hi (ptpSyncSetClock p clockId) := by
  refine ⟨h.bounds.setClock clockId, ?_⟩
  by_cases hsame : clockId = p.clockId
  · rw [hsame, ptpSyncSetClock_same]
    exact h.offset
  · rw [ptpSyncSetClock_other hsame]
    exact fun hready => absurd hready Bool.false_ne_true

/-- **A run with its sender times in one window fits.** -/
theorem run_within (hwindow : IsWindow lo hi) (calls : List PtpCall) :
    ∀ p, WindowBounds lo hi p → ptpMachine.Guarded (CallWithin lo hi) p calls →
      ptpMachine.Guarded CallFits p calls ∧ WindowBounds lo hi (ptpMachine.run p calls).1 := by
  induction calls with
  | nil => exact fun p h _ => ⟨trivial, h⟩
  | cons call calls ih =>
      intro p h hguard
      rw [Machine.guarded_cons] at hguard
      obtain ⟨hcall, hrest⟩ := hguard
      rw [Machine.guarded_cons, Machine.run_cons]
      cases call with
      | setClock clockId =>
          obtain ⟨hfits, hend⟩ := ih _ (h.setClock clockId) hrest
          exact ⟨⟨trivial, hfits⟩, hend⟩
      | packet data now =>
          obtain ⟨hfit, hnext⟩ := packet_within hwindow h hcall.1 hcall.2
          obtain ⟨hfits, hend⟩ := ih _ hnext hrest
          exact ⟨⟨⟨hcall.1, hfit⟩, hfits⟩, hend⟩

/-- An anchor in the window gives deadlines that fit. -/
theorem deadline_within (hwindow : IsWindow lo hi) {p : PtpSync} (h : WindowBounds lo hi p)
    {a : AirplayAnchor} (hlow : lo ≤ a.networkUs.toNat) (hhigh : a.networkUs.toNat ≤ hi)
    (timestamp rate latency : UInt32) (now : UInt64) :
    DeadlineFits p a timestamp rate latency now := by
  obtain ⟨hwidth, hlast⟩ := hwindow
  refine ⟨fun hcomputed => ?_⟩
  have hready : p.ready = true := by
    by_contra hnot
    exact hcomputed (Or.inl (Bool.not_eq_true _ ▸ hnot))
  have hframes := @frameUs_le a timestamp latency rate
    (fun hrate => hcomputed (Or.inr (Or.inr (Or.inr (Or.inl hrate)))))
  obtain ⟨hoffsetLow, hoffsetHigh⟩ := h.offset hready
  generalize frameUs a timestamp rate latency = frames at hframes ⊢
  rw [abs_lt] at hframes
  exact ⟨by omega, by omega, by omega⟩

end Window

/-- **PTP arithmetic stays in the signed 64-bit range** exactly as long as packets and
deadlines fit, in every state of a run of calls that fit. A run whose sender times lie in
one window is such a run, and the deadlines of anchors in the window fit. -/
theorem ptp_values_in_range (calls : List PtpCall) :
    (ptpMachine.Guarded CallFits ptpSyncInit calls →
      (∀ (data : List UInt8) (now : UInt64), now.toNat < 4611686018427387904 →
        ((∀ v ∈ packetValues (ptpRun calls) data now, InInt64 v) ↔
          PacketFits (ptpRun calls) data now)) ∧
      ∀ (a : AirplayAnchor) (timestamp rate latency : UInt32) (now : UInt64),
        ((∀ v ∈ deadlineValues (ptpRun calls) a timestamp rate latency now, InInt64 v) ↔
          DeadlineFits (ptpRun calls) a timestamp rate latency now)) ∧
    ∀ lo hi : ℤ, IsWindow lo hi → ptpMachine.Guarded (CallWithin lo hi) ptpSyncInit calls →
      ptpMachine.Guarded CallFits ptpSyncInit calls ∧
      (∀ (data : List UInt8) (now : UInt64), now.toNat < 4611686018427387904 →
        PacketWithin lo hi (ptpRun calls) data now → PacketFits (ptpRun calls) data now) ∧
      ∀ (a : AirplayAnchor) (timestamp rate latency : UInt32) (now : UInt64),
        lo ≤ a.networkUs.toNat → a.networkUs.toNat ≤ hi →
          DeadlineFits (ptpRun calls) a timestamp rate latency now := by
  constructor
  · intro hfits
    have hbounds := ptpRun_bounds calls hfits
    exact ⟨fun data now hnow => packetValues_inRange hbounds data hnow,
      fun a timestamp rate latency now => deadlineValues_inRange hbounds a timestamp rate latency now⟩
  · intro lo hi hwindow hwithin
    have hinit : WindowBounds lo hi ptpSyncInit :=
      ⟨ptpSyncInit_bounds, fun hready => absurd hready Bool.false_ne_true⟩
    obtain ⟨hfits, hbounds⟩ := run_within hwindow calls ptpSyncInit hinit hwithin
    exact ⟨hfits, fun data now hnow hpacket => (packet_within hwindow hbounds hnow hpacket).1,
      fun a timestamp rate latency now hlow hhigh =>
        deadline_within hwindow hbounds hlow hhigh timestamp rate latency now⟩

/-- A one-step Sync of clock 1 with the largest seconds that are admitted, and almost a
second more. -/
def lateSync : List UInt8 :=
  [0, 2, 0, 44] ++ List.replicate 23 0 ++ [1] ++ List.replicate 6 0 ++
    [0x08, 0x63, 0x7b, 0xd0, 0x5a, 0xf6, 0x3b, 0x9a, 0xc9, 0xff]

/-- Its time is cast to a negative one. -/
theorem ptp_value_out_of_range :
    ¬ ∀ (calls : List PtpCall) (data : List UInt8) (now : UInt64),
      (∀ time ∈ arrivalTimes calls, time.toNat < 4611686018427387904) →
      now.toNat < 4611686018427387904 →
      ∀ v ∈ packetValues (ptpRun calls) data now, InInt64 v := by
  intro hclaim
  have hin := hclaim [.setClock 1] lateSync 5 (fun time h => absurd h List.not_mem_nil) (by decide)
    9223372036854999999 (by decide)
  exact absurd hin.2 (by decide)

end PortableAirplay.Sync
