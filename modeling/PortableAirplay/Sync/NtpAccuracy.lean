import PortableAirplay.Library.Rounding
import PortableAirplay.Sync.NtpExchange
import Mathlib.Tactic.NormNum

/-!
# Accuracy of the RAOP clock

NTP times are read as instants: integers that count units of the fraction and do not
wrap. `ntpAt` is the timestamp of an instant. The difference of two timestamps is that
of the instants to a microsecond as long as their whole seconds are less than `2 ^ 31`
apart (`SecondsClose`), in whatever eras they fall. Two results rest on it: the
deadline of an RTP timestamp (`ntp_deadline_accurate`) and the offset of an exchange
(`ntp_offset_accurate`).
-/

set_option autoImplicit false

namespace PortableAirplay.Sync

open PortableAirplay.Library

/-! ## Instants -/

/-- The timestamp of an instant. -/
def ntpAt (u : ℤ) : NtpTimestamp :=
  ⟨UInt32.ofInt (u / 4294967296), UInt32.ofInt (u % 4294967296)⟩

/-- The instant of a timestamp in the first era. -/
def ntpInstant (t : NtpTimestamp) : ℤ := t.seconds.toNat * 4294967296 + t.fraction.toNat

/-- The instant of a reading of the microsecond clock, cut to a unit. -/
def clockInstant (us : ℤ) : ℤ := 2208988800 * 4294967296 + us * 4294967296 / 1000000

/-- The whole seconds of `v` less those of `u` are a signed 32-bit number. -/
def SecondsClose (u v : ℤ) : Prop :=
  -2 ^ 31 ≤ v / 4294967296 - u / 4294967296 ∧ v / 4294967296 - u / 4294967296 < 2 ^ 31

/-- `ntp_sync_diff_us` on instants. -/
def instantDiffUs (u v : ℤ) : ℤ :=
  (v / 4294967296 - u / 4294967296) * 1000000 +
    ((v % 4294967296 - u % 4294967296) * 1000000).tdiv 4294967296

theorem toNat_ofInt32 (x : ℤ) : ((UInt32.ofInt x).toNat : ℤ) = x % 4294967296 := by
  have hcast : (UInt32.ofInt x).toNat = (x % 2 ^ 32).toNat % 2 ^ 32 := UInt32.toNat_ofNat'
  rw [hcast]
  omega

theorem ofInt32_serial (x : ℤ) : (UInt32.ofInt x).toBitVec = serial 32 x := by
  have hcast := toNat_ofInt32 x
  apply BitVec.eq_of_toNat_eq
  rw [serial, BitVec.toNat_ofInt, UInt32.toNat_toBitVec]
  omega

/-- Eras are not told apart. -/
theorem ntpAt_era (u k : ℤ) : ntpAt (u + k * 4294967296 * 4294967296) = ntpAt u := by
  have hseconds : (u + k * 4294967296 * 4294967296) / 4294967296 =
      u / 4294967296 + k * 4294967296 := by omega
  have hfraction : (u + k * 4294967296 * 4294967296) % 4294967296 = u % 4294967296 := by omega
  have hwrap : UInt32.ofInt (k * 4294967296) = 0 := by
    rw [UInt32.ofInt]
    have hzero : (k * 4294967296 % 2 ^ 32).toNat = 0 := by omega
    rw [hzero]
    rfl
  rw [ntpAt, hseconds, hfraction, UInt32.ofInt_add, hwrap, UInt32.add_zero]
  rfl

theorem ntpAt_split (s : ℤ) {f : ℤ} (hnonneg : 0 ≤ f) (hlt : f < 4294967296) :
    ntpAt (s * 4294967296 + f) = ⟨UInt32.ofInt s, UInt32.ofInt f⟩ := by
  have hseconds : (s * 4294967296 + f) / 4294967296 = s := by omega
  have hfraction : (s * 4294967296 + f) % 4294967296 = f := by omega
  rw [ntpAt, hseconds, hfraction]

/-- The timestamp of an instant stands for it, but for whole eras. -/
theorem ntpInstant_ntpAt (u : ℤ) :
    ∃ eras : ℤ, ntpInstant (ntpAt u) + eras * 4294967296 * 4294967296 = u := by
  have hfraction : ((ntpAt u).fraction.toNat : ℤ) = u % 4294967296 % 4294967296 := toNat_ofInt32 _
  have hseconds : ((ntpAt u).seconds.toNat : ℤ) = u / 4294967296 % 4294967296 := toNat_ofInt32 _
  refine ⟨u / 4294967296 / 4294967296, ?_⟩
  rw [ntpInstant, hseconds, hfraction]
  omega

/-- **The microsecond clock as NTP time.** -/
theorem fromUs_eq (us : UInt64) : fromUs us = ntpAt (clockInstant us.toNat) := by
  have hseconds := toNat_fromUs_seconds us
  have hfraction := toNat_fromUs_fraction us
  have hsplit : clockInstant us.toNat =
      ((us.toNat / 1000000 : ℕ) + 2208988800 : ℤ) * 4294967296 +
        (us.toNat % 1000000 * 4294967296 / 1000000 : ℕ) := by
    rw [clockInstant]
    omega
  rw [hsplit, ntpAt_split _ (by omega) (by omega)]
  have hs : (fromUs us).seconds = UInt32.ofInt ((us.toNat / 1000000 : ℕ) + 2208988800 : ℤ) := by
    have hcast := toNat_ofInt32 ((us.toNat / 1000000 : ℕ) + 2208988800 : ℤ)
    apply UInt32.toNat_inj.mp
    omega
  have hf : (fromUs us).fraction =
      UInt32.ofInt ((us.toNat % 1000000 * 4294967296 / 1000000 : ℕ) : ℤ) := by
    have hcast := toNat_ofInt32 ((us.toNat % 1000000 * 4294967296 / 1000000 : ℕ) : ℤ)
    apply UInt32.toNat_inj.mp
    omega
  calc fromUs us = ⟨(fromUs us).seconds, (fromUs us).fraction⟩ := rfl
    _ = _ := by rw [hs, hf]

/-- **Differences of timestamps are differences of instants.** -/
theorem ntpSyncDiffUs_ntpAt {u v : ℤ} (h : SecondsClose u v) :
    ntpSyncDiffUs (ntpAt u) (ntpAt v) = instantDiffUs u v := by
  obtain ⟨hlow, hhigh⟩ := h
  have hseconds : ((ntpAt v).seconds - (ntpAt u).seconds).toInt32.toInt =
      v / 4294967296 - u / 4294967296 := by
    show ((UInt32.ofInt (v / 4294967296)).toBitVec -
      (UInt32.ofInt (u / 4294967296)).toBitVec).toInt = _
    rw [ofInt32_serial, ofInt32_serial, toInt_serial_sub]
    · norm_num
      omega
    · norm_num
      omega
  have hfraction : ∀ w : ℤ, ((ntpAt w).fraction.toNat : ℤ) = w % 4294967296 := by
    intro w
    have hcast : ((ntpAt w).fraction.toNat : ℤ) = w % 4294967296 % 4294967296 := toNat_ofInt32 _
    rw [hcast, Int.emod_emod]
  rw [ntpSyncDiffUs, hseconds, hfraction, hfraction]
  rfl

/-- The difference is off by less than a microsecond. -/
theorem instantDiffUs_error (u v : ℤ) :
    |((instantDiffUs u v : ℤ) : ℚ) - ((v : ℚ) - u) * 1000000 / 4294967296| < 1 := by
  have herror := abs_tdiv_sub_lt_one ((v % 4294967296 - u % 4294967296) * 1000000)
    (show (0 : ℤ) < 4294967296 by norm_num)
  have hv : (v : ℚ) = (v / 4294967296 : ℤ) * 4294967296 + (v % 4294967296 : ℤ) := by
    exact_mod_cast (Int.ediv_mul_add_emod v 4294967296).symm
  have hu : (u : ℚ) = (u / 4294967296 : ℤ) * 4294967296 + (u % 4294967296 : ℤ) := by
    exact_mod_cast (Int.ediv_mul_add_emod u 4294967296).symm
  have hsame : ((instantDiffUs u v : ℤ) : ℚ) - ((v : ℚ) - u) * 1000000 / 4294967296 =
      ((((v % 4294967296 - u % 4294967296) * 1000000).tdiv 4294967296 : ℤ) : ℚ) -
        (((v % 4294967296 - u % 4294967296) * 1000000 : ℤ) : ℚ) / (4294967296 : ℤ) := by
    rw [instantDiffUs, hv, hu]
    push_cast
    ring
  rw [hsame]
  exact herror

/-- The two cases of C's division by the units of a second. -/
theorem tdiv_units (x : ℤ) :
    (0 ≤ x ∧ x.tdiv 4294967296 = x / 4294967296) ∨
      (x < 0 ∧ x.tdiv 4294967296 = -((-x) / 4294967296)) := by
  rcases le_or_gt 0 x with hpos | hneg
  · exact Or.inl ⟨hpos, Int.tdiv_eq_ediv_of_nonneg hpos⟩
  · refine Or.inr ⟨hneg, ?_⟩
    rw [← Int.tdiv_eq_ediv_of_nonneg (by omega : 0 ≤ -x), Int.neg_tdiv, neg_neg]

/-- A later instant is not nearer, also where the sign of the fractions' difference or
the second changes. -/
theorem instantDiffUs_mono (u : ℤ) {v w : ℤ} (h : v ≤ w) :
    instantDiffUs u v ≤ instantDiffUs u w := by
  have hseconds : v / 4294967296 ≤ w / 4294967296 := Int.ediv_le_ediv (by norm_num) h
  unfold instantDiffUs
  have hv := tdiv_units ((v % 4294967296 - u % 4294967296) * 1000000)
  have hw := tdiv_units ((w % 4294967296 - u % 4294967296) * 1000000)
  rcases hv with ⟨hv, hv'⟩ | ⟨hv, hv'⟩ <;> rcases hw with ⟨hw, hw'⟩ | ⟨hw, hw'⟩
  · rw [hv', hw']
    omega
  · rw [hv', hw']
    omega
  · rw [hv', hw']
    omega
  · rw [hv', hw']
    omega

/-- A reading is cut by less than one unit of the fraction. -/
theorem clockInstant_error (us : ℤ) :
    (clockInstant us : ℚ) ≤ (us / 1000000 + 2208988800) * 4294967296 ∧
      ((us : ℚ) / 1000000 + 2208988800) * 4294967296 < clockInstant us + 1 := by
  have hlow : us * 4294967296 / 1000000 * 1000000 ≤ us * 4294967296 := by omega
  have hhigh : us * 4294967296 < us * 4294967296 / 1000000 * 1000000 + 1000000 := by omega
  have hlow' : ((us * 4294967296 / 1000000 : ℤ) : ℚ) * 1000000 ≤ us * 4294967296 := by
    exact_mod_cast hlow
  have hhigh' : (us : ℚ) * 4294967296 < (us * 4294967296 / 1000000 : ℤ) * 1000000 + 1000000 := by
    exact_mod_cast hhigh
  rw [clockInstant]
  push_cast
  constructor
  · linarith
  · linarith

/-! ## The deadline of an RTP timestamp -/

/-- The signed distance of a timestamp from the anchor's. -/
def rtpDistance (sync : NtpSync) (timestamp : UInt32) : ℤ :=
  (timestamp - sync.rtpBase).toInt32.toInt

/-- The instant of the anchor, if it falls in the given era. -/
def anchorInstant (sync : NtpSync) (era : ℤ) : ℤ :=
  ntpInstant sync.ntpBase + era * 4294967296 * 4294967296

/-- The instant of an RTP timestamp: whole microseconds from the anchor, cut to a unit. -/
def rtpInstant (sync : NtpSync) (timestamp rate : UInt32) (era : ℤ) : ℤ :=
  anchorInstant sync era +
    ((rtpDistance sync timestamp * 1000000).tdiv rate.toNat * 4294967296).tdiv 1000000

/-- The seconds at which an RTP timestamp is due. -/
def exactInstant (sync : NtpSync) (timestamp rate : UInt32) (era : ℤ) : ℚ :=
  anchorInstant sync era / 4294967296 + rtpDistance sync timestamp / rate.toNat

/-- The local time of the anchor: its NTP time less the offset of the clocks. -/
def anchorLocalUs (sync : NtpSync) (era : ℤ) : ℚ :=
  ((anchorInstant sync era : ℚ) / 4294967296 - 2208988800) * 1000000 - sync.clockOffsetUs

/-- The local time at which an RTP timestamp is due. -/
def exactLocalUs (sync : NtpSync) (timestamp rate : UInt32) (era : ℤ) : ℚ :=
  anchorLocalUs sync era + rtpDistance sync timestamp * 1000000 / rate.toNat

/-- The local time that `ntp_sync_deadline` computes, before the cast to an unsigned
number. -/
def ntpLocalUs (sync : NtpSync) (timestamp rate : UInt32) (now : UInt64) : ℤ :=
  now.toNat + (ntpSyncDiffUs (fromUs now) (ntpSyncRtpToNtp sync timestamp rate now) -
    sync.clockOffsetUs)

section Deadline

variable {sync : NtpSync} {rate : UInt32}

/-- The carry and the borrow of `ntp_sync_rtp_to_ntp` move whole seconds only. -/
theorem ntpAt_carried (base : NtpTimestamp) (seconds part : ℤ) (hpart : |part| < 4294967296) :
    let fraction := base.fraction.toNat + part
    let low := if fraction < 0 then (fraction + 4294967296, seconds - 1) else (fraction, seconds)
    let high := if low.1 ≥ 4294967296 then (low.1 - 4294967296, low.2 + 1) else low
    (⟨base.seconds + UInt32.ofInt high.2, UInt32.ofInt high.1⟩ : NtpTimestamp) =
      ntpAt (ntpInstant base + (seconds * 4294967296 + part)) := by
  intro fraction low high
  have hbase := base.fraction.toNat_lt
  rw [abs_lt] at hpart
  -- carrying and borrowing change the pair, not the sum
  have hsum : high.2 * 4294967296 + high.1 = seconds * 4294967296 + fraction ∧
      0 ≤ high.1 ∧ high.1 < 4294967296 := by
    show (if low.1 ≥ 4294967296 then (low.1 - 4294967296, low.2 + 1) else low).2 * 4294967296 +
      (if low.1 ≥ 4294967296 then (low.1 - 4294967296, low.2 + 1) else low).1 = _ ∧
      0 ≤ (if low.1 ≥ 4294967296 then (low.1 - 4294967296, low.2 + 1) else low).1 ∧
      (if low.1 ≥ 4294967296 then (low.1 - 4294967296, low.2 + 1) else low).1 < _
    have hlow : low.2 * 4294967296 + low.1 = seconds * 4294967296 + fraction ∧ 0 ≤ low.1 ∧
        low.1 < 2 * 4294967296 := by
      show (if fraction < 0 then (fraction + 4294967296, seconds - 1)
        else (fraction, seconds)).2 * 4294967296 + (if fraction < 0 then
          (fraction + 4294967296, seconds - 1) else (fraction, seconds)).1 = _ ∧
        0 ≤ (if fraction < 0 then (fraction + 4294967296, seconds - 1)
          else (fraction, seconds)).1 ∧ (if fraction < 0 then (fraction + 4294967296, seconds - 1)
          else (fraction, seconds)).1 < _
      have hfraction : fraction = base.fraction.toNat + part := rfl
      split
      · dsimp only
        omega
      · dsimp only
        omega
    split
    · dsimp only
      omega
    · omega
  obtain ⟨hsum, hnonneg, hlt⟩ := hsum
  have hinstant : ntpInstant base + (seconds * 4294967296 + part) =
      (base.seconds.toNat + high.2) * 4294967296 + high.1 := by
    have hfraction : fraction = base.fraction.toNat + part := rfl
    rw [ntpInstant]
    omega
  have hseconds : UInt32.ofInt (base.seconds.toNat : ℤ) = base.seconds := by
    have hcast := toNat_ofInt32 (base.seconds.toNat : ℤ)
    have hlt := base.seconds.toNat_lt
    apply UInt32.toNat_inj.mp
    omega
  rw [hinstant, ntpAt_split _ hnonneg hlt, UInt32.ofInt_add, hseconds]

/-- **The NTP time of an RTP timestamp** is that of its instant. -/
theorem ntpSyncRtpToNtp_eq (hanchor : sync.anchorValid = true) (hrate : rate ≠ 0)
    (timestamp : UInt32) (now : UInt64) (era : ℤ) :
    ntpSyncRtpToNtp sync timestamp rate now = ntpAt (rtpInstant sync timestamp rate era) := by
  have hvalid : ¬ (sync.anchorValid = false ∨ rate = 0) := by
    rintro (h | h)
    · exact Bool.noConfusion (hanchor.symm.trans h)
    · exact hrate h
  have hpart : |(((rtpDistance sync timestamp * 1000000).tdiv rate.toNat).tmod 1000000 *
      4294967296).tdiv 1000000| < 4294967296 := by
    have hrest := abs_tmod_lt ((rtpDistance sync timestamp * 1000000).tdiv rate.toNat)
      (show (0 : ℤ) < 1000000 by norm_num)
    have hquotient := Int.tmod_add_tdiv_mul
      (((rtpDistance sync timestamp * 1000000).tdiv rate.toNat).tmod 1000000 * 4294967296) 1000000
    have hcut := abs_tmod_lt
      (((rtpDistance sync timestamp * 1000000).tdiv rate.toNat).tmod 1000000 * 4294967296)
      (show (0 : ℤ) < 1000000 by norm_num)
    rw [abs_lt] at hrest hcut ⊢
    omega
  have hsplit : rtpInstant sync timestamp rate era = ntpInstant sync.ntpBase +
      (((rtpDistance sync timestamp * 1000000).tdiv rate.toNat).tdiv 1000000 * 4294967296 +
        (((rtpDistance sync timestamp * 1000000).tdiv rate.toNat).tmod 1000000 *
          4294967296).tdiv 1000000) + era * 4294967296 * 4294967296 := by
    rw [tdiv_mul_add_tmod_mul_tdiv _ _ (by norm_num) (by norm_num), rtpInstant, anchorInstant]
    ring
  rw [hsplit, ntpAt_era, ntpSyncRtpToNtp, if_neg hvalid]
  exact ntpAt_carried sync.ntpBase _ _ hpart

/-- The instant is that of the timestamp to a microsecond and a unit. -/
theorem rtpInstant_error (hrate : rate ≠ 0) (timestamp : UInt32) (era : ℤ) :
    |(rtpInstant sync timestamp rate era : ℚ) / 4294967296 -
      exactInstant sync timestamp rate era| < 1 / 1000000 + 1 / 4294967296 := by
  have hpos : (0 : ℤ) < rate.toNat := by
    have hne : rate.toNat ≠ 0 := fun h => hrate (UInt32.toNat_inj.mp h)
    omega
  have hdelta := abs_tdiv_sub_lt_one (rtpDistance sync timestamp * 1000000) hpos
  have hunits := abs_tdiv_sub_lt_one
    ((rtpDistance sync timestamp * 1000000).tdiv rate.toNat * 4294967296)
    (show (0 : ℤ) < 1000000 by norm_num)
  rw [rtpInstant, exactInstant]
  generalize (rtpDistance sync timestamp * 1000000).tdiv rate.toNat = delta at hdelta hunits ⊢
  generalize (delta * 4294967296).tdiv 1000000 = units at hunits ⊢
  push_cast at hdelta hunits ⊢
  have hscale : (rtpDistance sync timestamp : ℚ) * 1000000 / rate.toNat =
      rtpDistance sync timestamp / rate.toNat * 1000000 := by ring
  rw [hscale] at hdelta
  generalize (rtpDistance sync timestamp : ℚ) / rate.toNat = exact at hdelta ⊢
  rw [abs_lt] at hdelta hunits ⊢
  constructor
  · linarith
  · linarith

/-- **The computed local time is right to three microseconds.** -/
theorem ntpLocalUs_error (hanchor : sync.anchorValid = true) (hrate : rate ≠ 0)
    {timestamp : UInt32} {now : UInt64} {era : ℤ}
    (hclose : SecondsClose (clockInstant now.toNat) (rtpInstant sync timestamp rate era)) :
    |(ntpLocalUs sync timestamp rate now : ℚ) - exactLocalUs sync timestamp rate era| ≤ 3 := by
  have hdiff := instantDiffUs_error (clockInstant now.toNat) (rtpInstant sync timestamp rate era)
  obtain ⟨hlow, hhigh⟩ := clockInstant_error now.toNat
  have hinstant := @rtpInstant_error sync rate hrate timestamp era
  rw [ntpLocalUs, ntpSyncRtpToNtp_eq hanchor hrate timestamp now era, fromUs_eq,
    ntpSyncDiffUs_ntpAt hclose]
  have hlocal : exactLocalUs sync timestamp rate era =
      (exactInstant sync timestamp rate era - 2208988800) * 1000000 - sync.clockOffsetUs := by
    rw [exactLocalUs, anchorLocalUs, exactInstant]
    ring
  rw [hlocal]
  generalize exactInstant sync timestamp rate era = exact at hinstant ⊢
  generalize instantDiffUs (clockInstant now.toNat) (rtpInstant sync timestamp rate era) = diff
    at hdiff ⊢
  push_cast at hlow hhigh ⊢
  rw [abs_lt] at hdiff hinstant
  rw [abs_le]
  constructor
  · linarith
  · linarith

/-- **A later timestamp is not due earlier.** -/
theorem ntpLocalUs_mono (hanchor : sync.anchorValid = true) (hrate : rate ≠ 0)
    {first second : UInt32} {now : UInt64} {era : ℤ}
    (hfirst : SecondsClose (clockInstant now.toNat) (rtpInstant sync first rate era))
    (hsecond : SecondsClose (clockInstant now.toNat) (rtpInstant sync second rate era))
    (hle : rtpDistance sync first ≤ rtpDistance sync second) :
    ntpLocalUs sync first rate now ≤ ntpLocalUs sync second rate now := by
  have hpos : (0 : ℤ) < rate.toNat := by
    have hne : rate.toNat ≠ 0 := fun h => hrate (UInt32.toNat_inj.mp h)
    omega
  have hinstant : rtpInstant sync first rate era ≤ rtpInstant sync second rate era := by
    have hdelta : (rtpDistance sync first * 1000000).tdiv rate.toNat ≤
        (rtpDistance sync second * 1000000).tdiv rate.toNat :=
      Int.tdiv_le_tdiv hpos (by omega)
    have hunits := Int.tdiv_le_tdiv (show (0 : ℤ) < 1000000 by norm_num)
      (show (rtpDistance sync first * 1000000).tdiv rate.toNat * 4294967296 ≤
        (rtpDistance sync second * 1000000).tdiv rate.toNat * 4294967296 by omega)
    rw [rtpInstant, rtpInstant]
    omega
  have hdiff := instantDiffUs_mono (clockInstant now.toNat) hinstant
  rw [ntpLocalUs, ntpLocalUs, ntpSyncRtpToNtp_eq hanchor hrate first now era,
    ntpSyncRtpToNtp_eq hanchor hrate second now era, fromUs_eq, ntpSyncDiffUs_ntpAt hfirst,
    ntpSyncDiffUs_ntpAt hsecond]
  omega

/-- Whole turns of a 64-bit number do not show. -/
theorem ofInt64_add (x y : ℤ) {n : UInt64} (hn : x = n.toInt64.toInt) :
    UInt64.ofInt (x + y) = UInt64.ofInt (n.toNat + y) := by
  have hsigned : n.toInt64.toInt = n.toNat ∨ n.toInt64.toInt = n.toNat - 18446744073709551616 := by
    have hcases : n.toInt64.toInt = n.toBitVec.toInt := rfl
    have hwrap := BitVec.toInt_eq_toNat_cond n.toBitVec
    rw [hcases, hwrap, UInt64.toNat_toBitVec]
    split
    · exact Or.inl rfl
    · exact Or.inr (by norm_num)
  have hmod : (x + y) % 2 ^ 64 = (n.toNat + y) % 2 ^ 64 := by
    rw [hn]
    omega
  rw [UInt64.ofInt, UInt64.ofInt, hmod]

theorem toNat_ofInt64 {x : ℤ} (hnonneg : 0 ≤ x) (hlt : x < 2 ^ 64) :
    ((UInt64.ofInt x).toNat : ℤ) = x := by
  have hcast : (UInt64.ofInt x).toNat = (x % 2 ^ 64).toNat % 2 ^ 64 := UInt64.toNat_ofNat'
  rw [hcast]
  omega

theorem ntpSyncDeadline_eq (hsync : sync.synchronized = true) (hanchor : sync.anchorValid = true)
    (hrate : rate ≠ 0) (timestamp : UInt32) (now : UInt64) :
    ntpSyncDeadline sync timestamp rate now =
      some (UInt64.ofInt (ntpLocalUs sync timestamp rate now)) := by
  have hvalid : ¬ (sync.synchronized = false ∨ sync.anchorValid = false ∨ rate = 0) := by
    rintro (h | h | h)
    · exact Bool.noConfusion (hsync.symm.trans h)
    · exact Bool.noConfusion (hanchor.symm.trans h)
    · exact hrate h
  rw [ntpSyncDeadline, if_neg hvalid]
  exact congrArg some (ofInt64_add _ _ rfl)

/-- **RTP timestamps are mapped to local time accurately and in order**, wherever the
whole seconds of the two NTP times compared are a signed 32-bit number apart. The result
is the local time modulo `2 ^ 64`. -/
theorem ntp_deadline_accurate (sync : NtpSync) (rate : UInt32) (now : UInt64) (era : ℤ)
    (hsync : sync.synchronized = true) (hanchor : sync.anchorValid = true) (hrate : rate ≠ 0) :
    (∀ timestamp, SecondsClose (clockInstant now.toNat) (rtpInstant sync timestamp rate era) →
      (∃ deadline, ntpSyncDeadline sync timestamp rate now = some deadline ∧
        deadline = UInt64.ofInt (ntpLocalUs sync timestamp rate now) ∧
        (0 ≤ ntpLocalUs sync timestamp rate now → ntpLocalUs sync timestamp rate now < 2 ^ 64 →
          (deadline.toNat : ℤ) = ntpLocalUs sync timestamp rate now)) ∧
        |(ntpLocalUs sync timestamp rate now : ℚ) - exactLocalUs sync timestamp rate era| ≤ 3 ∧
        ∃ eras : ℤ,
          |((ntpInstant (ntpSyncRtpToNtp sync timestamp rate now) +
              eras * 4294967296 * 4294967296 : ℤ) : ℚ) / 4294967296 -
            exactInstant sync timestamp rate era| < 1 / 1000000 + 1 / 4294967296) ∧
      ∀ first second, SecondsClose (clockInstant now.toNat) (rtpInstant sync first rate era) →
        SecondsClose (clockInstant now.toNat) (rtpInstant sync second rate era) →
        rtpDistance sync first ≤ rtpDistance sync second →
        ntpLocalUs sync first rate now ≤ ntpLocalUs sync second rate now := by
  refine ⟨fun timestamp hclose => ⟨?_, ntpLocalUs_error hanchor hrate hclose, ?_⟩,
    fun first second hfirst hsecond hle => ntpLocalUs_mono hanchor hrate hfirst hsecond hle⟩
  · exact ⟨_, ntpSyncDeadline_eq hsync hanchor hrate timestamp now, rfl,
      fun hnonneg hlt => toNat_ofInt64 hnonneg hlt⟩
  · obtain ⟨eras, heras⟩ := ntpInstant_ntpAt (rtpInstant sync timestamp rate era)
    refine ⟨eras, ?_⟩
    rw [ntpSyncRtpToNtp_eq hanchor hrate timestamp now era, heras]
    exact rtpInstant_error hrate timestamp era

end Deadline

/-- The clock of the timing test, bound to an NTP time. -/
def anchoredAt (seconds : UInt32) : NtpSync :=
  { ntpSyncInit with ntpBase := ⟨seconds, 0⟩, synchronized := true, anchorValid := true }

/-- Half a second after the anchor, one second into the clock. -/
theorem ntp_deadline_half_second :
    |(ntpLocalUs (anchoredAt 2208988801) 22050 44100 1000000 : ℚ) -
      exactLocalUs (anchoredAt 2208988801) 22050 44100 0| ≤ 3 :=
  ((ntp_deadline_accurate (anchoredAt 2208988801) 44100 1000000 0 rfl rfl (by decide)).1 22050
    ⟨by decide, by decide⟩).2.1

/-- The deadline, as an unsigned number, is right to three microseconds. -/
def DeadlineAccurate (sync : NtpSync) (timestamp rate : UInt32) (now : UInt64) (era : ℤ) : Prop :=
  ∃ deadline, ntpSyncDeadline sync timestamp rate now = some deadline ∧
    |(deadline.toNat : ℚ) - exactLocalUs sync timestamp rate era| ≤ 3

/-- It is not right everywhere within `2 ^ 31` seconds of the clock, nor at a local time
before the clock's zero. -/
theorem ntp_deadline_wraps :
    (¬ ∀ (sync : NtpSync) (timestamp rate : UInt32) (now : UInt64) (era : ℤ),
        sync.synchronized = true → sync.anchorValid = true → rate ≠ 0 →
        |exactInstant sync timestamp rate era - clockInstant now.toNat / 4294967296| < 2 ^ 31 →
        0 ≤ exactLocalUs sync timestamp rate era →
        DeadlineAccurate sync timestamp rate now era) ∧
      ¬ ∀ (sync : NtpSync) (timestamp rate : UInt32) (now : UInt64) (era : ℤ),
        sync.synchronized = true → sync.anchorValid = true → rate ≠ 0 →
        |exactInstant sync timestamp rate era - clockInstant now.toNat / 4294967296| ≤ 1 →
        DeadlineAccurate sync timestamp rate now era := by
  constructor
  · intro hclaim
    -- an anchor of the next era: the deadline misses the true one by almost 2^64 µs
    have hbase : anchorInstant (anchoredAt 61505152) 1 = 4356472448 * 4294967296 := by decide
    have hdistance : rtpDistance (anchoredAt 61505152) 0 = 0 := by decide
    have hnow : clockInstant (999999 : UInt64).toNat = 9487534657525247801 := by decide
    obtain ⟨deadline, hdeadline, hclose⟩ := hclaim (anchoredAt 61505152) 0 44100 999999 1 rfl rfl
      (by decide)
      (by
        rw [exactInstant, hbase, hdistance, hnow, abs_lt]
        norm_num)
      (by
        rw [exactLocalUs, anchorLocalUs, hbase, hdistance]
        norm_num [anchoredAt, ntpSyncInit])
    have hresult : ntpSyncDeadline (anchoredAt 61505152) 0 44100 999999 =
        some 18444596590061551617 := by decide
    rw [hresult, Option.some.injEq] at hdeadline
    have hvalue : deadline.toNat = 18444596590061551617 := by rw [← hdeadline]; rfl
    rw [hvalue, exactLocalUs, anchorLocalUs, hbase, hdistance, abs_le] at hclose
    norm_num [anchoredAt, ntpSyncInit] at hclose
  · intro hclaim
    -- an anchor one second before the local clock began: the deadline is negative, and wraps around
    have hbase : anchorInstant (anchoredAt 2208988799) 0 = 2208988799 * 4294967296 := by decide
    have hdistance : rtpDistance (anchoredAt 2208988799) 0 = 0 := by decide
    have hnow : clockInstant (0 : UInt64).toNat = 2208988800 * 4294967296 := by decide
    obtain ⟨deadline, hdeadline, hclose⟩ := hclaim (anchoredAt 2208988799) 0 44100 0 0 rfl rfl
      (by decide)
      (by
        rw [exactInstant, hbase, hdistance, hnow, abs_le]
        norm_num)
    have hresult : ntpSyncDeadline (anchoredAt 2208988799) 0 44100 0 =
        some 18446744073708551616 := by decide
    rw [hresult, Option.some.injEq] at hdeadline
    have hvalue : deadline.toNat = 18446744073708551616 := by rw [← hdeadline]; rfl
    rw [hvalue, exactLocalUs, anchorLocalUs, hbase, hdistance, abs_le] at hclose
    norm_num [anchoredAt, ntpSyncInit] at hclose

/-! ## The offset of an exchange -/

/-- The offset that `ntp_sync_process_packet` computes. -/
def replyOffset (data : List UInt8) (now : UInt64) : ℤ :=
  (ntpSyncDiffUs (readTime data 8) (readTime data 16) +
    ntpSyncDiffUs (fromUs now) (readTime data 24)).tdiv 2

/-- The round-trip time that it computes and checks. -/
def replyRtt (sync : NtpSync) (data : List UInt8) (now : UInt64) : ℤ :=
  (now - sync.requestLocalUs).toInt64.toInt - ntpSyncDiffUs (readTime data 16) (readTime data 24)

/-- The packet is a reply to the pending request, which was sent at `sent`; the peer
received it at `received` and answered at `answered`, by its own clock. -/
structure RepliesTo (sync : NtpSync) (data : List UInt8) (sent received answered : UInt64) :
    Prop where
  length : ntpPacketSize ≤ data.length
  version : byteAt data 0 >>> 6 = 2
  type : byteAt data 1 &&& 0x7f = 0x53
  pending : sync.requestPending = true
  request : sync.requestTime = fromUs sent ∧ sync.requestLocalUs = sent
  origin : readTime data 8 = fromUs sent
  receive : readTime data 16 = fromUs received
  transmit : readTime data 24 = fromUs answered

/-- The peer's clock is `offset` ahead, and the delays are as given. -/
structure Delayed (sent received answered arrived : UInt64) (offset : ℤ)
    (outbound processing inbound : ℕ) : Prop where
  received_eq : (received.toNat : ℤ) = sent.toNat + outbound + offset
  answered_eq : answered.toNat = received.toNat + processing
  arrived_eq : arrived.toNat = sent.toNat + outbound + processing + inbound

/-- The whole seconds of two readings are a signed 32-bit number apart. -/
def ReadingsClose (a b : UInt64) : Prop :=
  SecondsClose (clockInstant a.toNat) (clockInstant b.toNat)

theorem ReadingsClose.near {a b : UInt64} (h : ReadingsClose a b) :
    |(b.toNat : ℤ) - a.toNat| ≤ 2147483649 * 1000000 := by
  obtain ⟨hlow, hhigh⟩ := h
  rw [clockInstant, clockInstant] at hlow hhigh
  rw [abs_le]
  omega

/-- Halving is off by half at most. -/
theorem tdiv_two (x : ℤ) : |2 * x.tdiv 2 - x| ≤ 1 := by
  have hsplit := Int.tmod_add_tdiv_mul x 2
  have hrest := abs_tmod_lt x (show (0 : ℤ) < 2 by norm_num)
  rw [abs_lt] at hrest
  rw [abs_le]
  omega

/-- The difference of two readings is right to a microsecond, in either order. -/
theorem ntpSyncDiffUs_readings {a b : UInt64} (h : ReadingsClose a b) :
    |ntpSyncDiffUs (fromUs a) (fromUs b) - ((b.toNat : ℤ) - a.toNat)| ≤ 1 := by
  have hdiff := instantDiffUs_error (clockInstant a.toNat) (clockInstant b.toNat)
  obtain ⟨halow, hahigh⟩ := clockInstant_error a.toNat
  obtain ⟨hblow, hbhigh⟩ := clockInstant_error b.toNat
  rw [fromUs_eq, fromUs_eq, ntpSyncDiffUs_ntpAt h]
  generalize instantDiffUs (clockInstant a.toNat) (clockInstant b.toNat) = diff at hdiff ⊢
  have hlt : |((diff - ((b.toNat : ℤ) - a.toNat) : ℤ) : ℚ)| < 2 := by
    push_cast at halow hahigh hblow hbhigh ⊢
    rw [abs_lt] at hdiff ⊢
    constructor
    · linarith
    · linarith
  have hlt' : |diff - ((b.toNat : ℤ) - a.toNat)| < 2 := by exact_mod_cast hlt
  omega

/-- **What becomes of a reply** to the pending request. -/
theorem ntpSyncProcessPacket_replies {sync : NtpSync} {data : List UInt8}
    {sent received answered : UInt64} (h : RepliesTo sync data sent received answered)
    (now : UInt64) :
    ntpSyncProcessPacket sync data now =
      if ntpSyncDiffUs (readTime data 16) (readTime data 24) < 0 ∨ replyRtt sync data now < -2 ∨
          replyRtt sync data now > 500000 then (sync, -1)
      else if sync.synchronized = false ∨ max (replyRtt sync data now) 0 ≤ sync.rttUs + 500 ∨
          now - sync.bestSampleUs > 10000000 then
        ({ sync with
            requestPending := false
            samples := sync.samples + 1
            clockOffsetUs := replyOffset data now
            rttUs := max (replyRtt sync data now) 0
            bestSampleUs := now
            synchronized := true }, 0)
      else ({ sync with requestPending := false, samples := sync.samples + 1 }, 0) := by
  -- a reply to the outstanding request passes every check on its form
  have hheader : ¬ (data.length < ntpPacketSize ∨ byteAt data 0 >>> 6 ≠ 2 ∨
      byteAt data 1 &&& 0x7f ≠ 0x53 ∨ sync.requestPending = false) := by
    rintro (hlength | hversion | htype | hpending)
    · exact absurd h.length (by omega)
    · exact hversion h.version
    · exact htype h.type
    · exact Bool.noConfusion (h.pending.symm.trans hpending)
  have horigin : ¬ ((readTime data 8).seconds ≠ sync.requestTime.seconds ∨
      (readTime data 8).fraction ≠ sync.requestTime.fraction) := by
    rw [h.origin, h.request.1]
    simp
  have hmax : (if replyRtt sync data now < 0 then 0 else replyRtt sync data now) =
      max (replyRtt sync data now) 0 := by
    split
    · omega
    · omega
  rw [ntpSyncProcessPacket, if_neg hheader]
  dsimp only
  rw [if_neg horigin, ← hmax]
  rfl

/-- The offset and the round-trip time of a reply. -/
theorem reply_accurate {sync : NtpSync} {data : List UInt8}
    {sent received answered arrived : UInt64} {offset : ℤ} {outbound processing inbound : ℕ}
    (h : RepliesTo sync data sent received answered)
    (hdelayed : Delayed sent received answered arrived offset outbound processing inbound)
    (hout : ReadingsClose sent received) (hpeer : ReadingsClose received answered)
    (hin : ReadingsClose arrived answered) :
    |2 * replyOffset data arrived - (2 * offset + outbound - inbound)| ≤ 3 ∧
      |replyRtt sync data arrived - (outbound + inbound)| ≤ 1 ∧
      0 ≤ ntpSyncDiffUs (readTime data 16) (readTime data 24) := by
  obtain ⟨hreceived, hanswered, harrived⟩ := hdelayed
  have hfirst := ntpSyncDiffUs_readings hout
  have hsecond := ntpSyncDiffUs_readings hin
  have hmiddle := ntpSyncDiffUs_readings hpeer
  rw [replyOffset, replyRtt, h.origin, h.receive, h.transmit, h.request.2]
  generalize hdiff : ntpSyncDiffUs (fromUs received) (fromUs answered) = spent at hmiddle ⊢
  -- the peer answered no earlier than it received
  have hspent : 0 ≤ spent := by
    rw [← hdiff, fromUs_eq, fromUs_eq, ntpSyncDiffUs_ntpAt hpeer]
    have hle : clockInstant received.toNat ≤ clockInstant answered.toNat := by
      rw [clockInstant, clockInstant]
      omega
    have hself : instantDiffUs (clockInstant received.toNat) (clockInstant received.toNat) = 0 := by
      simp [instantDiffUs]
    rw [← hself]
    exact instantDiffUs_mono _ hle
  have helapsed : (arrived - sent).toNat = outbound + processing + inbound := by
    rw [UInt64.toNat_sub_of_le _ _ (by rw [UInt64.le_iff_toNat_le]; omega)]
    omega
  -- readings close together bound the whole exchange
  have hshort : outbound + processing + inbound < 2 ^ 63 := by
    have hout' := hout.near
    have hpeer' := hpeer.near
    have hin' := hin.near
    rw [abs_le] at hout' hpeer' hin'
    omega
  rw [toInt64_of_lt (by omega), helapsed]
  generalize ntpSyncDiffUs (fromUs sent) (fromUs received) = first at hfirst ⊢
  generalize ntpSyncDiffUs (fromUs arrived) (fromUs answered) = second at hsecond ⊢
  rw [abs_le] at hfirst hsecond hmiddle
  refine ⟨?_, ?_, hspent⟩
  · have hhalf := tdiv_two (first + second)
    generalize (first + second).tdiv 2 = half at hhalf ⊢
    rw [abs_le] at hhalf ⊢
    omega
  · rw [abs_le]
    omega

/-- **The offset of an exchange is right to two microseconds** and its round-trip time to
one, so a short exchange is not rejected for its timing. What is stored is what was
computed. -/
theorem ntp_offset_accurate {sync : NtpSync} {data : List UInt8}
    {sent received answered arrived : UInt64} {offset : ℤ} {outbound processing inbound : ℕ}
    (h : RepliesTo sync data sent received answered)
    (hdelayed : Delayed sent received answered arrived offset outbound processing inbound)
    (hout : ReadingsClose sent received) (hpeer : ReadingsClose received answered)
    (hin : ReadingsClose arrived answered) :
    |(replyOffset data arrived : ℚ) - (offset + ((outbound : ℚ) - inbound) / 2)| ≤ 2 ∧
      |replyRtt sync data arrived - (outbound + inbound)| ≤ 1 ∧
      (outbound + inbound < 500000 → (ntpSyncProcessPacket sync data arrived).2 = 0) ∧
      ((ntpSyncProcessPacket sync data arrived).2 = 0 →
        ((ntpSyncProcessPacket sync data arrived).1.clockOffsetUs = replyOffset data arrived ∧
          (ntpSyncProcessPacket sync data arrived).1.rttUs = max (replyRtt sync data arrived) 0) ∨
        ((ntpSyncProcessPacket sync data arrived).1.clockOffsetUs = sync.clockOffsetUs ∧
          (ntpSyncProcessPacket sync data arrived).1.rttUs = sync.rttUs)) := by
  obtain ⟨hoffset, hrtt, hspent⟩ := reply_accurate h hdelayed hout hpeer hin
  refine ⟨?_, hrtt, fun hshort => ?_, fun _ => ?_⟩
  · have hcast : |2 * (replyOffset data arrived : ℚ) - (2 * offset + outbound - inbound)| ≤ 3 := by
      exact_mod_cast hoffset
    rw [abs_le] at hcast ⊢
    constructor
    · linarith
    · linarith
  · -- a short exchange is within the bounds of the code
    have hintime : ¬ (ntpSyncDiffUs (readTime data 16) (readTime data 24) < 0 ∨
        replyRtt sync data arrived < -2 ∨ replyRtt sync data arrived > 500000) := by
      rw [abs_le] at hrtt
      omega
    rw [ntpSyncProcessPacket_replies h, if_neg hintime]
    split
    · rfl
    · rfl
  · rw [ntpSyncProcessPacket_replies h]
    split
    · exact Or.inr ⟨rfl, rfl⟩
    · split
      · exact Or.inl ⟨rfl, rfl⟩
      · exact Or.inr ⟨rfl, rfl⟩

/-- A reply with the given timestamps. -/
def replyOf (origin receive transmit : NtpTimestamp) : List UInt8 :=
  [0x80, 0xd3, 0, 7] ++ List.replicate 4 0 ++ writeTime origin ++ writeTime receive ++
    writeTime transmit

/-- A clock with a request pending since `sent`. -/
def requested (sent : UInt64) : NtpSync := (ntpSyncRequest ntpSyncInit sent).1

/-- An exchange over the rollover of the era, 3 ms out and 1 ms back, the peer's clock
5 s behind. -/
theorem ntp_offset_rollover :
    |(replyOffset (replyOf (fromUs 2085978496000000) (fromUs 2085978491003000)
        (fromUs 2085978491003500)) 2085978496004500 : ℚ) -
      ((-5000000 : ℤ) + (((3000 : ℕ) : ℚ) - (1000 : ℕ)) / 2)| ≤ 2 :=
  (@ntp_offset_accurate (requested 2085978496000000) _ 2085978496000000 2085978491003000
    2085978491003500 _ _ _ 500 _
    ⟨by decide, by decide, by decide, by decide, by decide, by decide, by decide, by decide⟩
    ⟨by decide, by decide, by decide⟩ ⟨by decide, by decide⟩ ⟨by decide, by decide⟩
    ⟨by decide, by decide⟩).1

/-- The peer's clock may look `2 ^ 32` seconds behind although it is less than `2 ^ 31`
seconds ahead: the whole seconds of the readings are `2 ^ 31` apart. -/
theorem ntp_offset_wraps :
    ¬ ∀ (sync : NtpSync) (data : List UInt8) (sent received answered arrived : UInt64)
      (offset : ℤ) (outbound processing inbound : ℕ),
      RepliesTo sync data sent received answered →
      Delayed sent received answered arrived offset outbound processing inbound →
      |offset| + outbound + processing + inbound < 2 ^ 31 * 1000000 →
      (ntpSyncProcessPacket sync data arrived).2 = 0 →
      |(replyOffset data arrived : ℚ) - (offset + ((outbound : ℚ) - inbound) / 2)| ≤ 2 := by
  intro hclaim
  have hoff := hclaim (requested 999999)
    (replyOf (fromUs 999999) (fromUs 2147483648999998) (fromUs 2147483648999998)) 999999
    2147483648999998 2147483648999998 999999 2147483647999999 0 0 0
    ⟨by decide, by decide, by decide, by decide, by decide, by decide, by decide, by decide⟩
    ⟨by decide, by decide, by decide⟩ (by decide) (by decide)
  have hvalue : replyOffset (replyOf (fromUs 999999) (fromUs 2147483648999998)
      (fromUs 2147483648999998)) 999999 = -2147483648000001 := by decide
  rw [hvalue, abs_le] at hoff
  norm_num at hoff


end PortableAirplay.Sync
