import PortableAirplay.Audio.AccessUnits
import PortableAirplay.Audio.AlacDecoding
import PortableAirplay.Audio.RiceHistory
import Mathlib.Tactic.IntervalCases

/-!
# Bounds of the Rice decoding

Where `HistoryFits` holds of the negotiated parameters and the modifier of `k` is at most 31,
all arithmetic of a frame is defined, whatever the packet: the amounts of the shifts, and the
history, which stays below `historyPeak` of the samples decoded so far (`RiceState.Bounded`).
The one exception is the mask that `decode_frame` computes from the modifier of `k`.
-/

set_option autoImplicit false

namespace PortableAirplay.Audio

open PortableAirplay.Library
open PortableAirplay.Library.Recorded
open PortableAirplay.Protocol

/-! ## Reading bits -/

section Reading

variable {ok : Arithmetic → Prop}

theorem meets_decodeFails {α : Type} {post : α → Prop} {value : α} (h : post value) :
    Meets ok (decodeFails value) post := fun _ => ⟨fun _ he => absurd he List.not_mem_nil, h⟩

theorem meets_decodeError : Meets ok decodeError fun _ => True :=
  fun _ => ⟨fun _ he => absurd he List.not_mem_nil, trivial⟩

theorem bitShifts_defined {offset count : ℕ} : ∀ op ∈ bitShifts offset count, op.Defined := by
  intro op hop
  rw [bitShifts, List.mem_flatMap] at hop
  obtain ⟨i, -, hi⟩ := hop
  have hbit : (offset + i) % 8 < 8 := Nat.mod_lt _ (by decide)
  rw [List.mem_cons, List.mem_singleton] at hi
  rcases hi with rfl | rfl
  · exact ⟨by decide, by decide⟩
  · exact ⟨by omega, by omega⟩

/-- The loop gives a number of as many bits as it reads. -/
theorem readBitsLoop_lt {data : List UInt8} {count i : ℕ} (hin : i + count ≤ 8 * data.length)
    (hcount : count ≤ 32) : (readBitsLoop data count i 0).toNat < 2 ^ count := by
  have hroom : ((0 : UInt32).toNat + 1) * 2 ^ count ≤ 2 ^ 32 := by
    rw [UInt32.toNat_zero, Nat.zero_add, Nat.one_mul]
    exact Nat.pow_le_pow_right (by decide) hcount
  have hlength : (((bitsOf data).drop i).take count).length = count := by
    rw [List.length_take, List.length_drop, bitsOf_length]
    omega
  have hlt := bitsNat_lt (((bitsOf data).drop i).take count)
  rw [hlength] at hlt
  rw [readBitsLoop_toNat hin hroom, UInt32.toNat_zero, Nat.zero_mul, Nat.zero_add]
  exact hlt

theorem meets_unreadbits (bits : ℤ) : Meets ok (unreadbits bits) fun _ => True := by
  intro r
  rw [unreadbits]
  split
  · have hfails : Meets ok (decodeFails PUnit.unit) fun _ => True := meets_decodeFails trivial
    exact hfails r
  · exact ⟨fun _ he => absurd he List.not_mem_nil, trivial⟩

variable (hok : ∀ op : Arithmetic, op.Defined → ok op)

include hok

theorem meets_readbits16 (bits : ℤ) :
    Meets ok (readbits16 bits) fun value => value.toNat < 2 ^ bits.toNat := by
  intro r
  rw [readbits16]
  split
  · exact meets_decodeFails (Nat.two_pow_pos _) r
  · exact ⟨fun op hop => hok op (bitShifts_defined op hop),
      readBitsLoop_lt (by omega) (by omega)⟩

theorem meets_readbits (bits : ℤ) :
    Meets ok (readbits bits) fun value => bits ≤ 16 → value.toNat < 2 ^ bits.toNat := by
  rw [readbits]
  apply Meets.ite
  · exact fun _ => meets_decodeFails fun _ => Nat.two_pow_pos _
  · intro hrange
    apply Meets.ite
    · intro hlarge
      refine (meets_readbits16 hok 16).bind fun high _ => ?_
      refine (meets_record_one ?_).bind fun _ _ => ?_
      · exact hok _ ⟨by omega, by omega⟩
      · refine (meets_readbits16 hok _).bind fun low _ => ?_
        exact meets_return fun hsmall => absurd hlarge (by omega)
    · exact fun _ => (meets_readbits16 hok bits).mono fun value hvalue _ => hvalue

theorem meets_readFields (bits : ℤ) (count : ℕ) :
    Meets ok (readFields bits count) fun _ => True := by
  induction count with
  | zero => exact meets_return trivial
  | succ count ih => exact (meets_readbits hok bits).bind fun _ _ => ih

end Reading

/-! ## Decoded values -/

theorem toInt32_toInt {n : UInt32} (h : n.toNat < 2 ^ 31) : n.toInt32.toInt = n.toNat :=
  BitVec.toInt_eq_toNat_of_lt (x := n.toBitVec) (by
    have hvalue : n.toBitVec.toNat = n.toNat := rfl
    omega)

/-- A mask does not make a nonnegative number larger. -/
theorem maskInt_bounds {value : ℤ} (hpos : 0 ≤ value) (hlt : value < 2 ^ 31) (mask : UInt32) :
    0 ≤ maskInt value mask ∧ maskInt value mask ≤ value := by
  have hvalue : (UInt32.ofInt value).toNat = value.toNat := by
    rw [UInt32.ofInt, UInt32.toNat_ofNat', Nat.mod_eq_of_lt (by omega)]
    omega
  have hle : (UInt32.ofInt value &&& mask).toNat ≤ value.toNat := by
    rw [UInt32.toNat_and, hvalue]
    exact Nat.and_le_left
  rw [maskInt, toInt32_toInt (by omega)]
  omega

/-- The bounds of a decoded value. -/
def DecodedRange (value : ℤ) : Prop := 0 ≤ value ∧ value < 2 ^ 20

section Values

variable {ok : Arithmetic → Prop} (hok : ∀ op : Arithmetic, op.Defined → ok op)

include hok

theorem meets_ricePrefix (fuel : ℕ) {x : ℤ} (hx : 0 ≤ x) :
    Meets ok (ricePrefix fuel x) fun y => 0 ≤ y := by
  induction fuel generalizing x with
  | zero => exact meets_return hx
  | succ fuel ih =>
      rw [ricePrefix]
      apply Meets.ite
      · intro _
        refine (meets_readbits16 hok 1).bind fun bit _ => Meets.ite ?_ ?_
        · exact fun _ => ih (by omega)
        · exact fun _ => meets_return hx
      · exact fun _ => meets_return hx

theorem meets_rawValue {readSampleSize : ℤ} (hpos : 1 ≤ readSampleSize)
    (hle : readSampleSize ≤ 17) : Meets ok (rawValue readSampleSize) DecodedRange := by
  refine (meets_readbits hok readSampleSize).bind fun value _ => ?_
  refine (meets_record_one ?_).bind fun _ _ => meets_return ?_
  · exact hok _ ⟨by omega, by omega⟩
  · -- the mask leaves as many bits as were read
    have hmask : (0xffffffff >>> UInt32.ofInt (32 - readSampleSize) : UInt32).toNat < 2 ^ 17 := by
      interval_cases readSampleSize <;> decide
    have hvalue : (value &&& 0xffffffff >>> UInt32.ofInt (32 - readSampleSize)).toNat < 2 ^ 17 := by
      rw [UInt32.toNat_and]
      exact lt_of_le_of_lt Nat.and_le_right hmask
    rw [DecodedRange, toInt32_toInt (by omega)]
    omega

theorem meets_scaledValue {x k : ℤ} (hx : 0 ≤ x ∧ x ≤ 8) (hk : 0 ≤ k ∧ k ≤ 16) (mask : UInt32) :
    Meets ok (scaledValue x k mask) DecodedRange := by
  refine (meets_readbits hok k).bind fun extraBits hextra => ?_
  -- with at most 16 bits, a prefix of 8 ones stands for less than `2 ^ 19`
  have hpow : (2 : ℤ) ^ k.toNat ≤ 2 ^ 16 := pow_le_pow_right₀ (by decide) (by omega)
  have hone : (1 : ℤ) ≤ 2 ^ k.toNat := one_le_pow₀ (by decide)
  have hbits : extraBits.toNat < 2 ^ 16 :=
    lt_of_lt_of_le (hextra hk.2) (Nat.pow_le_pow_right (by decide) (by omega))
  have hint : extraBits.toInt32.toInt = extraBits.toNat := toInt32_toInt (by omega)
  have hones : (0 : ℤ) ≤ 2 ^ k.toNat - 1 := by omega
  obtain ⟨hmask, hmaskle⟩ := maskInt_bounds hones (by omega) mask
  have hscaled : 0 ≤ x * maskInt (2 ^ k.toNat - 1) mask ∧
      x * maskInt (2 ^ k.toNat - 1) mask ≤ 8 * 2 ^ 16 := by
    refine ⟨mul_nonneg hx.1 hmask, ?_⟩
    exact mul_le_mul hx.2 (by omega) hmask (by decide)
  generalize x * maskInt (2 ^ k.toNat - 1) mask = scaled at hscaled
  refine (meets_record ?_).bind fun _ _ => Meets.ite ?_ ?_
  · intro op hop
    simp only [List.mem_cons, List.not_mem_nil, or_false] at hop
    rcases hop with rfl | rfl | rfl | rfl
    · exact hok _ ⟨hk.1, by omega⟩
    · exact hok _ ⟨by omega, by omega⟩
    · exact hok _ ⟨by omega, by omega⟩
    · exact hok _ ⟨by omega, by omega⟩
  · intro _
    refine (meets_record_one ?_).bind fun _ _ => meets_return ⟨by omega, by omega⟩
    exact hok _ ⟨by omega, by omega⟩
  · -- a field of zero or one is the stop bit, which is put back
    intro _
    exact (meets_unreadbits 1).bind fun _ _ => meets_return ⟨by omega, by omega⟩

/-- **A decoded value**: its arithmetic is defined where `k` is at most 16. -/
theorem meets_entropyDecodeValue {readSampleSize k : ℤ}
    (hsize : 1 ≤ readSampleSize ∧ readSampleSize ≤ 17) (hk : 0 ≤ k ∧ k ≤ 16) (mask : UInt32) :
    Meets ok (entropyDecodeValue readSampleSize k mask) DecodedRange := by
  refine (meets_ricePrefix hok (riceThreshold + 1) (Int.le_refl 0)).bind fun x hx => ?_
  have hthreshold : (riceThreshold : ℤ) = 8 := rfl
  apply Meets.ite
  · exact fun _ => meets_rawValue hok hsize.1 hsize.2
  · intro hsmall
    apply Meets.ite
    · exact fun _ => meets_scaledValue hok ⟨hx, by omega⟩ hk mask
    · exact fun _ => meets_return ⟨hx, by omega⟩

end Values

/-! ## The history of a channel -/

/-- The arguments of a channel, with a multiplier whose products fit. -/
structure RiceCoding.InRange (c : RiceCoding) (m initial : ℕ) : Prop where
  mult : c.historymult = m
  limit : m ≤ 512
  start : c.initialhistory = initial
  start_le : initial ≤ historyLimit
  modifier : 0 ≤ c.kmodifier ∧ c.kmodifier ≤ 31
  size : 1 ≤ c.readSampleSize ∧ c.readSampleSize ≤ 17
  product : ∀ n : ℕ, n < c.outputSize → historyPeak m initial n * m < 2 ^ 31

/-- The history is between zero and the peak after as many samples. -/
structure RiceState.Bounded (m initial : ℕ) (s : RiceState) : Prop where
  count : 0 ≤ s.outputCount
  low : 0 ≤ s.history
  high : s.history ≤ historyPeak m initial s.outputCount.toNat
  sign : s.signModifier = 0 ∨ s.signModifier = 1

section History

variable {c : RiceCoding} {m initial : ℕ}

/-- `k` of a sample is at most 16: the history has at most 25 bits. -/
theorem RiceCoding.sampleK_bounds (hmodifier : 0 ≤ c.kmodifier) {h : ℤ} (hlow : 0 ≤ h)
    (hhigh : h ≤ historyLimit) : 0 ≤ c.sampleK h ∧ c.sampleK h ≤ 16 := by
  have hlimit : (historyLimit : ℤ) = 512 * 0xffff := rfl
  have hshift : h >>> (9 : ℕ) = h / 512 := Int.shiftRight_eq_div_pow h 9
  have hword : ((h / 512 + 3) % 2 ^ 32).toNat = (h / 512 + 3).toNat := by omega
  have hpos : (h / 512 + 3).toNat ≠ 0 := by omega
  have hlog : (h / 512 + 3).toNat.log2 < 17 := (Nat.log2_lt hpos).mpr (by omega)
  have hzeros : countLeadingZeros (h / 512 + 3) = 31 - (h / 512 + 3).toNat.log2 := by
    rw [countLeadingZeros, if_neg (by omega), hword]
  rw [RiceCoding.sampleK, hshift, hzeros]
  split <;> omega

theorem blockK_bounds {h : ℤ} (hlow : 0 ≤ h) (hhigh : h < 128) : 0 ≤ blockK h ∧ blockK h ≤ 16 := by
  have hall : ∀ n : Fin 128, 0 ≤ blockK n ∧ blockK n ≤ 16 := by decide
  obtain ⟨n, hn⟩ := Int.eq_ofNat_of_zero_le hlow
  rw [hn] at hhigh ⊢
  exact hall ⟨n, by omega⟩

/-- The decay of the history in natural numbers. -/
theorem decay_eq (h m : ℕ) : ((h : ℤ) * m) >>> (9 : ℕ) = ((h * m / 512 : ℕ) : ℤ) := by
  rw [Int.shiftRight_eq_div_pow]
  rfl

/-- The update in natural numbers. -/
theorem RiceCoding.updatedHistory_eq (hmult : c.historymult = m) (hlimit : m ≤ 512) (h d : ℕ) :
    c.updatedHistory h d = ((h + d * m - h * m / 512 : ℕ) : ℤ) := by
  have hproduct : h * m ≤ h * 512 := Nat.mul_le_mul_left h hlimit
  rw [RiceCoding.updatedHistory, hmult, decay_eq]
  generalize h * m = a at hproduct ⊢
  push_cast
  omega

/-- **No history is above the peak.** -/
theorem RiceCoding.updatedHistory_le (hmult : c.historymult = m) (hlimit : m ≤ 512)
    (hinitial : initial ≤ historyLimit) {n h d : ℕ} (hh : h ≤ historyPeak m initial n)
    (hd : d ≤ 0xffff) : c.updatedHistory h d ≤ historyPeak m initial (n + 1) := by
  have hmono := historyStep_mono (Nat.le_refl m) hlimit hh (historyPeak_le hlimit hinitial n)
  have hproduct : d * m ≤ 0xffff * m := Nat.mul_le_mul_right m hd
  have hstep : h + d * m - h * m / 512 ≤ historyStep m h := by
    rw [historyStep]
    apply le_max_of_le_right
    omega
  rw [RiceCoding.updatedHistory_eq hmult hlimit, historyPeak_succ]
  exact_mod_cast hstep.trans hmono

theorem finalValue_fits {d : ℕ} (hd : d ≤ 2 ^ 20) : FitsInt (finalValue d) := by
  have hhalf : ((d : ℤ) + 1).tdiv 2 = ((d + 1) / 2 : ℕ) := rfl
  rw [finalValue, hhalf, FitsInt]
  split <;> omega

/-- The arithmetic behind a decoded value is defined. -/
theorem RiceCoding.InRange.updates (hc : c.InRange m initial) {n h d : ℕ}
    (hn : n < c.outputSize) (hh : h ≤ historyPeak m initial n) (hd : d ≤ 2 ^ 20) :
    ∀ op ∈ c.updates h d, op.Defined := by
  have hvalue : d * m ≤ 2 ^ 20 * 512 := Nat.mul_le_mul hd hc.limit
  have hproduct : h * m < 2 ^ 31 := lt_of_le_of_lt (Nat.mul_le_mul_right m hh) (hc.product n hn)
  have hpeak := historyPeak_le hc.limit hc.start_le n
  have hlimit : historyLimit = 512 * 0xffff := rfl
  intro op hop
  rw [RiceCoding.updates, RiceCoding.updatedHistory_eq hc.mult hc.limit, hc.mult, decay_eq,
    ← Int.natCast_mul, ← Int.natCast_mul] at hop
  simp only [List.mem_cons, List.not_mem_nil, or_false] at hop
  rcases hop with rfl | rfl | rfl | rfl | rfl | rfl | rfl | rfl
  · exact ⟨by omega, by omega⟩
  · exact ⟨by omega, by omega⟩
  · exact finalValue_fits hd
  · exact ⟨by omega, by omega⟩
  · exact ⟨by omega, by omega⟩
  · exact ⟨by decide, by decide⟩
  · exact ⟨by omega, by omega⟩
  · exact ⟨by omega, by omega⟩

/-- The history after a decoded value is below the next peak. -/
theorem RiceCoding.InRange.next (hc : c.InRange m initial) {n h d : ℕ}
    (hh : h ≤ historyPeak m initial n) :
    0 ≤ (if (d : ℤ) > 0xffff then 0xffff else c.updatedHistory h d) ∧
      (if (d : ℤ) > 0xffff then 0xffff else c.updatedHistory h d) ≤
        historyPeak m initial (n + 1) := by
  split
  · -- a value above `0xffff` sets the history to it
    have hreset : 0xffff ≤ historyPeak m initial (n + 1) := by
      rw [historyPeak_succ, historyStep]
      exact Nat.le_max_left _ _
    exact ⟨by decide, by exact_mod_cast hreset⟩
  · refine ⟨?_, RiceCoding.updatedHistory_le hc.mult hc.limit hc.start_le hh (by omega)⟩
    rw [RiceCoding.updatedHistory_eq hc.mult hc.limit]
    exact Int.natCast_nonneg _

end History

/-! ## The loop over the samples -/

section Loop

variable {ok : Arithmetic → Prop} (hok : ∀ op : Arithmetic, op.Defined → ok op)
  {c : RiceCoding} {m initial : ℕ}

include hok

theorem meets_zeroBlock {history : ℤ} (hlow : 0 ≤ history) (hhigh : history < 128)
    (outputCount : ℤ) : Meets ok (zeroBlock c outputCount history) fun _ => True := by
  have hk := blockK_bounds hlow hhigh
  refine (meets_record ?_).bind fun _ _ => ?_
  · intro op hop
    simp only [List.mem_cons, List.not_mem_nil, or_false] at hop
    rcases hop with rfl | rfl
    · exact hok _ ⟨by omega, by omega⟩
    · exact hok _ ⟨by omega, by omega⟩
  · refine (meets_entropyDecodeValue hok ⟨by decide, by decide⟩ hk _).bind fun size hsize => ?_
    refine meets_decodeError.bind fun failed _ => Meets.ite ?_ ?_
    · exact fun _ => meets_decodeFails trivial
    · exact fun _ => meets_return trivial

/-- **A decoded value keeps the history below the peak**, and its arithmetic is defined. -/
theorem meets_riceUpdate (hc : c.InRange m initial) {s : RiceState} (hs : s.Bounded m initial)
    (hcount : s.outputCount < c.outputSize) {value : ℤ} (hvalue : DecodedRange value) :
    Meets ok (riceUpdate c s value) fun next => next.1.Bounded m initial ∨ next.2 = false := by
  obtain ⟨n, hn⟩ := Int.eq_ofNat_of_zero_le hs.count
  obtain ⟨h, hh⟩ := Int.eq_ofNat_of_zero_le hs.low
  have hdecoded : 0 ≤ value + s.signModifier ∧ value + s.signModifier ≤ 2 ^ 20 := by
    have hsign := hs.sign
    obtain ⟨hlow, hhigh⟩ := hvalue
    omega
  obtain ⟨d, hd⟩ := Int.eq_ofNat_of_zero_le hdecoded.1
  -- from here on in natural numbers, where the peak is defined
  have hbound : h ≤ historyPeak m initial n := by
    have hhigh := hs.high
    rw [hh, hn, Int.toNat_natCast] at hhigh
    exact_mod_cast hhigh
  have hnext := hc.next (d := d) hbound
  rw [riceUpdate, hn, hh, hd]
  refine (meets_record ?_).bind fun _ _ => ?_
  · intro op hop
    exact hok op (hc.updates (by omega) hbound (by omega) op hop)
  · generalize (if (d : ℤ) > 0xffff then 0xffff else c.updatedHistory h d) = history at hnext ⊢
    apply Meets.ite
    · intro hsmall
      have hblock := (meets_zeroBlock (c := c) hok hnext.1 hsmall.1 n).and
        (zeroBlock_size c n history)
      refine hblock.bind fun block hsizes => ?_
      cases block with
      | none => exact meets_return (Or.inr rfl)
      | some size =>
          -- after a block of zeros the history starts again
          have hsize := hsizes.2 size rfl
          refine meets_return (Or.inl
            ⟨by dsimp only; omega, Int.le_refl 0, Int.natCast_nonneg _, ?_⟩)
          dsimp only
          split
          · exact Or.inl rfl
          · exact Or.inr rfl
    · intro _
      exact meets_return (Or.inl ⟨by dsimp only; omega, hnext.1, hnext.2, Or.inl rfl⟩)

theorem meets_ricePass (hc : c.InRange m initial) {s : RiceState} (hs : s.Bounded m initial)
    (hcount : s.outputCount < c.outputSize) :
    Meets ok (ricePass c s) fun next => next.1.Bounded m initial ∨ next.2 = false := by
  have hpeak := historyPeak_le hc.limit hc.start_le s.outputCount.toNat
  have hhigh : s.history ≤ historyLimit := hs.high.trans (by exact_mod_cast hpeak)
  have hlimit : (historyLimit : ℤ) = 512 * 0xffff := rfl
  have hlow := hs.low
  have hk := RiceCoding.sampleK_bounds hc.modifier.1 hs.low hhigh
  have hshift : s.history >>> (9 : ℕ) = s.history / 512 := Int.shiftRight_eq_div_pow _ 9
  refine (meets_record ?_).bind fun _ _ => ?_
  · intro op hop
    rw [hshift] at hop
    simp only [List.mem_cons, List.not_mem_nil, or_false] at hop
    rcases hop with rfl | rfl | rfl
    · exact hok _ ⟨by decide, by decide⟩
    · exact hok _ ⟨by omega, by omega⟩
    · exact hok _ ⟨by omega, by omega⟩
  · refine (meets_entropyDecodeValue hok hc.size hk _).bind fun value hvalue => ?_
    refine meets_decodeError.bind fun failed _ => Meets.ite ?_ ?_
    · exact fun _ => meets_return (Or.inr rfl)
    · exact fun _ => meets_riceUpdate hok hc hs hcount hvalue

theorem meets_riceLoop (hc : c.InRange m initial) (fuel : ℕ) {s : RiceState}
    (hs : s.Bounded m initial) : Meets ok (riceLoop c fuel s) fun _ => True := by
  -- a pass keeps the state bounded, or it is the last one
  induction fuel generalizing s with
  | zero => exact meets_return trivial
  | succ fuel ih =>
      rw [riceLoop]
      apply Meets.ite
      · intro hcount
        refine (meets_ricePass hok hc hs hcount).bind fun next hnext => Meets.ite ?_ ?_
        · intro hgoes
          exact ih (hnext.resolve_right fun hstops => Bool.false_ne_true (hstops.symm.trans hgoes))
        · exact fun _ => meets_return trivial
      · exact fun _ => meets_return trivial

/-- **The Rice decoding of a channel**: all of its arithmetic is defined. -/
theorem meets_entropyRiceDecode (hc : c.InRange m initial) :
    Meets ok (entropyRiceDecode c) fun _ => True := by
  have hstart : (⟨0, c.initialhistory, 0, []⟩ : RiceState).Bounded m initial := by
    rw [hc.start]
    exact ⟨Int.le_refl 0, Int.natCast_nonneg _, Int.le_refl _, Or.inl rfl⟩
  exact (meets_riceLoop hok hc _ hstart).bind fun _ _ => meets_return trivial

end Loop

/-! ## The frame -/

/-- A context of 16-bit samples with parameters whose products fit. -/
structure AlacFile.InRange (a : AlacFile) (historymult initial frames : ℕ) : Prop where
  size : a.sampleSize = 16
  mult : a.riceHistorymult = historymult
  mult_lt : historymult < 256
  start : a.riceInitialhistory = initial
  start_le : initial ≤ historyLimit
  modifier : 0 ≤ a.riceKmodifier ∧ a.riceKmodifier ≤ 31
  samples : a.maxSamplesPerFrame = frames
  fits : HistoryFits historymult initial frames

section Frame

variable {ok : Arithmetic → Prop} (hok : ∀ op : Arithmetic, op.Defined → ok op)
  {a : AlacFile} (hmask : ok (.result (2 ^ a.riceKmodifier.toNat)))
  {historymult initial frames : ℕ}

theorem setOutputSizeChecked_le {outputsamples size capacity : ℤ}
    (h : setOutputSizeChecked a outputsamples capacity = some size) :
    outputsamples ≤ a.maxSamplesPerFrame := by
  rw [setOutputSizeChecked] at h
  split at h
  · exact absurd h.symm (Option.some_ne_none size)
  · omega

include hok

/-- The Rice modifier of a channel has three bits. -/
theorem meets_readPrediction (outputsamples : ℤ) :
    Meets ok (readPrediction outputsamples) fun modifier =>
      ∀ m, modifier = some m → ∃ n : ℕ, m = n ∧ n < 8 := by
  refine (meets_readbits hok 4).bind fun _ _ => ?_
  refine (meets_readbits hok 4).bind fun _ _ => ?_
  refine (meets_readbits hok 3).bind fun ricemodifier hmodifier => ?_
  refine (meets_readbits hok 5).bind fun _ _ => Meets.ite ?_ ?_
  · exact fun _ => meets_decodeFails fun _ h => absurd h.symm (Option.some_ne_none _)
  · intro _
    refine (meets_readFields hok 16 _).bind fun _ _ => meets_return ?_
    intro m h
    exact ⟨ricemodifier.toNat, (Option.some.inj h).symm, hmodifier (by decide)⟩

include hmask

/-- **A channel whose products fit**: all of its arithmetic is defined. -/
theorem meets_riceDecodeChannel_fits (hmult : a.riceHistorymult = historymult)
    (hlt : historymult < 256) (hstart : a.riceInitialhistory = initial)
    (hstartle : initial ≤ historyLimit) (hkmodifier : 0 ≤ a.riceKmodifier ∧ a.riceKmodifier ≤ 31)
    {outputsamples readsamplesize : ℤ} (hsize : 1 ≤ readsamplesize ∧ readsamplesize ≤ 17)
    {modifier : ℕ} (hmodifier : modifier < 8)
    (hfits : ∀ n : ℕ, n < outputsamples →
      historyPeak (modifier * historymult / 4) initial n * (modifier * historymult / 4) < 2 ^ 31) :
    Meets ok (riceDecodeChannel a outputsamples readsamplesize modifier) fun _ => True := by
  -- the modifier of a frame has three bits
  have hproduct : modifier * historymult ≤ 7 * historymult :=
    Nat.mul_le_mul_right _ (by omega)
  have hpow : (2 : ℤ) ^ a.riceKmodifier.toNat ≤ 2 ^ 31 :=
    pow_le_pow_right₀ (by decide) (by have hle := hkmodifier.2; omega)
  have hone : (1 : ℤ) ≤ 2 ^ a.riceKmodifier.toNat := one_le_pow₀ (by decide)
  refine (meets_record ?_).bind fun _ _ => ?_
  · intro op hop
    rw [hmult] at hop
    simp only [List.mem_cons, List.not_mem_nil, or_false] at hop
    rcases hop with rfl | rfl | rfl | rfl
    · rw [← Int.natCast_mul]
      exact hok _ ⟨by omega, by omega⟩
    · exact hok _ hkmodifier
    · exact hmask
    · exact hok _ ⟨by omega, by omega⟩
  · apply meets_entropyRiceDecode hok (m := modifier * historymult / 4)
    exact
      { mult := by
          rw [hmult]
          rfl
        limit := by omega
        start := hstart
        start_le := hstartle
        modifier := hkmodifier
        size := hsize
        product := hfits }

theorem meets_riceDecodeChannel (ha : a.InRange historymult initial frames)
    {outputsamples readsamplesize : ℤ} (hsamples : outputsamples ≤ frames)
    (hsize : 1 ≤ readsamplesize ∧ readsamplesize ≤ 17) {modifier : ℕ} (hmodifier : modifier < 8) :
    Meets ok (riceDecodeChannel a outputsamples readsamplesize modifier) fun _ => True := by
  have hproduct : modifier * historymult ≤ 7 * historymult :=
    Nat.mul_le_mul_right _ (by omega)
  apply meets_riceDecodeChannel_fits hok hmask ha.mult ha.mult_lt ha.start ha.start_le ha.modifier
    hsize hmodifier
  intro n hn
  exact ha.fits.product ha.mult_lt ha.start_le (Nat.div_le_div_right hproduct) (by omega)

theorem meets_decodeResiduals (ha : a.InRange historymult initial frames)
    {outputsize outputsamples readsamplesize : ℤ} (hsamples : outputsamples ≤ frames)
    (hsize : 1 ≤ readsamplesize ∧ readsamplesize ≤ 17) (uncompressedBytes : ℤ) {modifiers : List ℤ}
    (hmodifiers : ∀ m ∈ modifiers, ∃ n : ℕ, m = n ∧ n < 8) :
    Meets ok (decodeResiduals a outputsize outputsamples readsamplesize uncompressedBytes
      modifiers) fun _ => True := by
  have hchannels : Meets ok (riceDecodeChannels a outputsamples readsamplesize modifiers)
      fun _ => True := by
    induction modifiers with
    | nil => exact meets_return trivial
    | cons m modifiers ih =>
        obtain ⟨hhead, htail⟩ := List.forall_mem_cons.mp hmodifiers
        obtain ⟨n, hn, hlt⟩ := hhead
        rw [hn]
        refine (meets_riceDecodeChannel hok hmask ha hsamples hsize hlt).bind fun _ _ => ?_
        exact (ih htail).bind fun _ _ => meets_return trivial
  refine (meets_readFields hok _ _).bind fun _ _ => ?_
  exact hchannels.bind fun _ _ => meets_return trivial

theorem meets_decodeCompressed (ha : a.InRange historymult initial frames)
    {channels outputsize outputsamples readsamplesize : ℤ} (hsamples : outputsamples ≤ frames)
    (hsize : 1 ≤ readsamplesize ∧ readsamplesize ≤ 17) (uncompressedBytes : ℤ) :
    Meets ok (decodeCompressed a channels outputsize outputsamples readsamplesize
      uncompressedBytes) fun _ => True := by
  refine (meets_readbits hok 8).bind fun _ _ => ?_
  refine (meets_readbits hok 8).bind fun _ _ => Meets.ite ?_ ?_
  · exact fun _ => meets_decodeFails trivial
  · intro _
    refine (meets_readPrediction hok outputsamples).bind fun modifierA hA => ?_
    cases modifierA with
    | none => exact meets_return trivial
    | some modifierA =>
        apply Meets.ite
        · intro _
          apply meets_decodeResiduals hok hmask ha hsamples hsize
          intro m hm
          rw [List.mem_singleton.mp hm]
          exact hA _ rfl
        · intro _
          refine (meets_readPrediction hok outputsamples).bind fun modifierB hB => ?_
          cases modifierB with
          | none => exact meets_return trivial
          | some modifierB =>
              apply meets_decodeResiduals hok hmask ha hsamples hsize
              intro m hm
              simp only [List.mem_cons, List.not_mem_nil, or_false] at hm
              rcases hm with rfl | rfl
              · exact hA _ rfl
              · exact hB _ rfl

theorem meets_decodeSamples (ha : a.InRange historymult initial frames)
    {channels outputsize outputsamples : ℤ} (hchannels : 0 ≤ channels ∧ channels ≤ 1)
    (hsamples : outputsamples ≤ frames) (uncompressedBytes : ℕ) (isnotcompressed : Bool) :
    Meets ok (decodeSamples a channels outputsize outputsamples uncompressedBytes
      isnotcompressed) fun _ => True := by
  have hsize := ha.size
  apply Meets.ite
  · exact fun _ => meets_decodeFails trivial
  · intro hrange
    apply Meets.ite
    · exact fun _ => (meets_readFields hok _ _).bind fun _ _ => meets_return trivial
    · intro _
      exact meets_decodeCompressed hok hmask ha hsamples ⟨by omega, by omega⟩ _

theorem meets_decodeChannels (ha : a.InRange historymult initial frames) {channels : ℤ}
    (hchannels : 0 ≤ channels ∧ channels ≤ 1) (capacity outputsize : ℤ) :
    Meets ok (decodeChannels a channels capacity outputsize) fun _ => True := by
  refine (meets_readbits hok 4).bind fun _ _ => ?_
  refine (meets_readbits hok 12).bind fun _ _ => ?_
  refine (meets_readbits hok 1).bind fun _ _ => ?_
  refine (meets_readbits hok 2).bind fun _ _ => ?_
  refine (meets_readbits hok 1).bind fun _ _ => Meets.ite ?_ ?_
  · -- the packet has its own number of samples, at most that of the session
    intro _
    refine (meets_readbits hok 32).bind fun samples _ => ?_
    dsimp only
    split
    · exact meets_return trivial
    · rename_i hchecked
      have hle := setOutputSizeChecked_le hchecked
      rw [ha.samples] at hle
      exact meets_decodeSamples hok hmask ha hchannels hle _ _
  · intro _
    exact meets_decodeSamples hok hmask ha hchannels (le_of_eq ha.samples) _ _

/-- **The arithmetic of a frame is defined**, up to the mask of the modifier of `k`. -/
theorem meets_decodeFrame (ha : a.InRange historymult initial frames) (outputsize : ℤ) :
    Meets ok (decodeFrame a outputsize) fun _ => True := by
  refine (meets_readbits hok 3).bind fun channels _ => Meets.ite ?_ ?_
  · exact fun _ => meets_decodeFails trivial
  · intro hchannels
    have hle : channels.toNat ≤ 1 := by
      have hnot : ¬ channels > 1 := fun h => hchannels (Or.inl h)
      exact UInt32.le_iff_toNat_le.mp (UInt32.not_lt.mp hnot)
    split
    · exact meets_return trivial
    · exact meets_decodeChannels hok hmask ha ⟨by omega, by omega⟩ _ _

end Frame

end PortableAirplay.Audio
