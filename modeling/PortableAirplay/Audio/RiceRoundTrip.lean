import Mathlib.Data.List.TakeWhile
import PortableAirplay.Audio.AlacEncoding

/-!
# Decoding the Rice code

`entropy_rice_decode` reads back the residuals that were encoded, value by value and block
by block: its history is that of the encoder at every sample. A code that ends in a zero
remainder is read one bit too far and put back, so a bit must follow every code.
-/

set_option autoImplicit false

namespace PortableAirplay.Audio

open PortableAirplay.Library
open PortableAirplay.Library.Recorded
open BitReader

/-! ## Fields of any width -/

section Fields

variable {rest : List Bool}

/-- A field of more than 16 bits is read in two parts. -/
theorem gives_readbits_wide {n v : ℕ} (hn : 0 < n ∧ n ≤ 32) (hv : v < 2 ^ n) :
    Gives (Ahead (natBits n v ++ rest)) (readbits n) (UInt32.ofNat v) (Ahead rest) := by
  by_cases hshort : n ≤ 16
  · exact gives_readbits ⟨hn.1, hshort⟩ hv
  · obtain ⟨k, rfl⟩ : ∃ k, n = 16 + k := ⟨n - 16, by omega⟩
    have hk : (2 : ℕ) ^ k ≤ 2 ^ 16 := Nat.pow_le_pow_right (by decide) (by omega)
    have hpow : (2 : ℕ) ^ (16 + k) = 2 ^ 16 * 2 ^ k := pow_add 2 16 k
    have hhigh : v / 2 ^ k < 2 ^ 16 := Nat.div_lt_of_lt_mul (by rw [Nat.mul_comm, ← hpow]; exact hv)
    have hlow : v % 2 ^ k < 2 ^ k := Nat.mod_lt v (Nat.two_pow_pos k)
    have hcast : (((16 + k : ℕ) : ℤ) - 16) = (k : ℕ) := by omega
    have hbits : natBits (16 + k) v ++ rest =
        natBits 16 (v / 2 ^ k) ++ (natBits k (v % 2 ^ k) ++ rest) := by
      rw [natBits_add, natBits_mod (Nat.le_refl k), List.append_assoc]
    have hjoin : UInt32.ofNat (v / 2 ^ k) <<< UInt32.ofInt ((16 + k : ℕ) - 16) |||
        UInt32.ofNat (v % 2 ^ k) = UInt32.ofNat v := by
      have hword : ∀ n < 2 ^ 32, (UInt32.ofNat n).toNat = n := fun n hlt => by
        rw [UInt32.toNat_ofNat', Nat.mod_eq_of_lt hlt]
      have hshift : (UInt32.ofInt (((16 + k : ℕ) : ℤ) - 16)).toNat % 32 = k := by
        rw [hcast, UInt32.ofInt, hword _ (by omega)]
        omega
      have hle : v / 2 ^ k * 2 ^ k ≤ v := Nat.div_mul_le_self v (2 ^ k)
      apply UInt32.toNat_inj.mp
      rw [UInt32.toNat_or, UInt32.toNat_shiftLeft, hshift, hword _ (by omega),
        hword _ (by omega), hword v (by omega), Nat.mod_eq_of_lt (by rw [Nat.shiftLeft_eq]; omega),
        ← Nat.shiftLeft_add_eq_or_of_lt hlow, Nat.shiftLeft_eq, Nat.div_add_mod']
    rw [hbits, readbits, if_neg (by omega), if_pos (by omega), ← hjoin]
    refine (gives_readbits16 (by decide) hhigh).bind ((gives_record _).bind ?_)
    rw [hcast]
    exact (gives_readbits16 ⟨by omega, by omega⟩ hlow).bind (gives_return _)

theorem gives_field_wide {n v : ℕ} {fields : List (ℕ × ℕ)} (hn : 0 < n ∧ n ≤ 32)
    (hv : v < 2 ^ n) :
    Gives (Ahead (fieldBits ((n, v) :: fields) rest)) (readbits n) (UInt32.ofNat v)
      (Ahead (fieldBits fields rest)) := gives_readbits_wide hn hv

end Fields

/-! ## Values -/

section Values

variable {rest : List Bool}

/-- The prefix of a value ends with its zero. -/
theorem gives_ricePrefix_ends {fuel q : ℕ} (hfuel : q < fuel) {x : ℤ} (hx : x + q ≤ 8) :
    Gives (Ahead (List.replicate q true ++ false :: rest)) (ricePrefix fuel x) (x + q)
      (Ahead rest) := by
  have hthreshold : (riceThreshold : ℤ) = 8 := rfl
  induction q generalizing fuel x with
  | zero =>
      obtain ⟨fuel, rfl⟩ : ∃ n, fuel = n + 1 := ⟨fuel - 1, by omega⟩
      rw [ricePrefix, if_pos (by omega), Nat.cast_zero, Int.add_zero]
      refine Gives.bind (gives_readbits16 (n := 1) (v := 0) ⟨by decide, by decide⟩ (by decide)) ?_
      rw [if_neg (by decide)]
      exact gives_return x
  | succ q ih =>
      obtain ⟨fuel, rfl⟩ : ∃ n, fuel = n + 1 := ⟨fuel - 1, by omega⟩
      have hsum : x + ((q + 1 : ℕ) : ℤ) = x + 1 + q := by omega
      rw [ricePrefix, if_pos (by omega), hsum]
      refine Gives.bind (gives_readbits16 (n := 1) (v := 1) ⟨by decide, by decide⟩ (by decide)) ?_
      rw [if_pos (by decide)]
      exact ih (by omega) (by omega)

/-- A value behind nine ones. -/
theorem gives_rawValue {size v : ℕ} (hsize : 0 < size ∧ size ≤ 31) (hv : v < 2 ^ size) :
    Gives (Ahead (natBits size v ++ rest)) (rawValue size) v (Ahead rest) := by
  have hmask : (0xffffffff >>> UInt32.ofInt (32 - (size : ℤ)) : UInt32).toNat = 2 ^ size - 1 := by
    have hall : ∀ n : Fin 32,
        (0xffffffff >>> UInt32.ofInt (32 - ((n : ℕ) : ℤ)) : UInt32).toNat =
          if (n : ℕ) = 0 then 2 ^ 32 - 1 else 2 ^ (n : ℕ) - 1 := by decide
    have hone := hall ⟨size, by omega⟩
    rw [hone, if_neg (by dsimp only; omega)]
  have hpow : (2 : ℕ) ^ size ≤ 2 ^ 31 := Nat.pow_le_pow_right (by decide) hsize.2
  have hword : (UInt32.ofNat v).toNat = v := by
    rw [UInt32.toNat_ofNat', Nat.mod_eq_of_lt (by omega)]
  have hmasked : (UInt32.ofNat v &&& 0xffffffff >>> UInt32.ofInt (32 - (size : ℤ))).toNat = v := by
    rw [UInt32.toNat_and, hword, hmask, Nat.and_two_pow_sub_one_eq_mod, Nat.mod_eq_of_lt hv]
  have hvalue : (UInt32.ofNat v &&&
      0xffffffff >>> UInt32.ofInt (32 - (size : ℤ))).toInt32.toInt = v := by
    rw [toInt32_toInt (by omega), hmasked]
  rw [rawValue]
  refine (gives_readbits_wide ⟨hsize.1, by omega⟩ hv).bind ((gives_record _).bind ?_)
  rw [hvalue]
  exact gives_return _

/-- Reading moves the reader by the bits that were read. -/
theorem readbits_moves {n v : ℕ} (hn : 0 < n ∧ n ≤ 16) (hv : v < 2 ^ n) {r : BitReader}
    (h : Ahead (natBits n v ++ rest) r) :
    (readbits n r).state = { r with offset := r.offset + n } := by
  have hafter := (gives_readbits hn hv r h).2.1
  rw [readbits, if_neg (by omega), if_neg (by omega)] at hafter ⊢
  rw [readbits16] at hafter ⊢
  split at hafter
  · exact absurd hafter Bool.true_eq_false_eq_False
  · rename_i hin
    rw [if_neg hin, Int.toNat_natCast]

/-- A bit that was read too far is put back. -/
theorem gives_scaledValue_back {x : ℤ} {k : ℕ} (hk : 1 < k ∧ k ≤ 16) (mask : UInt32) (b : Bool) :
    Gives (Ahead (natBits (k - 1) 0 ++ b :: rest)) (scaledValue x k mask)
      (x * maskInt (2 ^ k - 1) mask) (Ahead (b :: rest)) := by
  intro r hr
  obtain ⟨n, rfl⟩ : ∃ n, k = n + 1 := ⟨k - 1, by omega⟩
  rw [Nat.add_sub_cancel] at hr
  have hsplit : natBits n 0 ++ b :: rest = natBits (n + 1) b.toNat ++ rest := by
    have hlow : natBits 1 b.toNat = [b] := by cases b <;> rfl
    have hhigh : b.toNat / 2 ^ 1 = 0 := by cases b <;> rfl
    rw [natBits_add n 1 b.toNat, hhigh, hlow, List.append_assoc, List.singleton_append]
  have hbit : b.toNat < 2 ^ (n + 1) := by
    have hone : 2 ^ 1 ≤ 2 ^ (n + 1) := Nat.pow_le_pow_right (by decide) (by omega)
    have hle := Bool.toNat_le b
    omega
  have hread := hr
  rw [hsplit] at hread
  have hvalue := (gives_readbits ⟨by omega, hk.2⟩ hbit r hread).1
  have hmoves := readbits_moves ⟨by omega, hk.2⟩ hbit hread
  have hsmall : ¬ (UInt32.ofNat b.toNat).toInt32.toInt > 1 := by cases b <;> decide
  -- the run: the field, the arithmetic, and one bit back
  have hfield : Gives (fun s => s = r) (readbits ((n + 1 : ℕ) : ℤ)) (UInt32.ofNat b.toNat)
      fun s => s = { r with offset := r.offset + (n + 1) } := by
    rintro s rfl
    exact ⟨hvalue, hmoves⟩
  have hback : Gives (fun s => s = { r with offset := r.offset + (n + 1) }) (unreadbits 1) ⟨⟩
      fun s => s = { r with offset := r.offset + n } := by
    rintro s rfl
    have hroom : ¬ ((1 : ℤ) < 0 ∨ (1 : ℤ) > ((r.offset + (n + 1) : ℕ) : ℤ)) := by omega
    rw [unreadbits, if_neg hroom]
    exact ⟨rfl, rfl⟩
  have hrun : Gives (fun s => s = r) (scaledValue x ((n + 1 : ℕ) : ℤ) mask)
      (x * maskInt (2 ^ (n + 1) - 1) mask) fun s => s = { r with offset := r.offset + n } := by
    refine hfield.bind ((gives_record _).bind ?_)
    rw [if_neg hsmall]
    exact hback.bind (gives_return _)
  obtain ⟨hscaled, hstate⟩ := hrun r rfl
  refine ⟨hscaled, ?_⟩
  rw [hstate]
  obtain ⟨hclear, after, hafter⟩ := hr
  refine ⟨hclear, after, ?_⟩
  rw [← List.drop_drop, ← hafter, List.append_assoc, List.drop_append_of_le_length (by
    rw [natBits_length]), List.drop_of_length_le (by rw [natBits_length]), List.nil_append]

theorem gives_scaledValue {x : ℤ} {k r : ℕ} (hk : 1 < k ∧ k ≤ 16) (hr : 0 < r ∧ r + 1 < 2 ^ k)
    (mask : UInt32) :
    Gives (Ahead (natBits k (r + 1) ++ rest)) (scaledValue x k mask)
      (x * maskInt (2 ^ k - 1) mask + r) (Ahead rest) := by
  have hpow : (2 : ℕ) ^ k ≤ 2 ^ 16 := Nat.pow_le_pow_right (by decide) hk.2
  have hextra : (UInt32.ofNat (r + 1)).toInt32.toInt = (r : ℤ) + 1 := by
    rw [toInt32_toInt, UInt32.toNat_ofNat', Nat.mod_eq_of_lt (by omega)]
    · rfl
    · rw [UInt32.toNat_ofNat', Nat.mod_eq_of_lt (by omega)]
      omega
  refine (gives_readbits ⟨by omega, hk.2⟩ hr.2).bind ((gives_record _).bind ?_)
  rw [hextra, if_pos (by omega), Int.add_sub_cancel]
  exact (gives_record _).bind (gives_return _)

/-- Each one of a prefix stands for at least one and at most `2 ^ k - 1`. -/
theorem codeMultiplier_bounds {k : ℕ} (hk : 0 < k ∧ k ≤ 16) {mask : UInt32}
    (hmask : mask.toNat % 2 = 1) :
    0 < codeMultiplier k mask ∧ codeMultiplier k mask ≤ 2 ^ k - 1 := by
  have hpow : (2 : ℤ) ^ k ≤ 2 ^ 16 := pow_le_pow_right₀ (by decide) hk.2
  have htwo : (2 : ℤ) ^ 1 ≤ 2 ^ k := pow_le_pow_right₀ (by decide) hk.1
  have hnat : ((2 ^ k : ℕ) : ℤ) = 2 ^ k := Nat.cast_pow 2 k
  rw [codeMultiplier]
  split
  · rename_i hone
    subst hone
    decide
  · obtain ⟨hlow, hhigh⟩ := maskInt_bounds (by omega : (0 : ℤ) ≤ 2 ^ k - 1) (by omega) mask
    refine ⟨?_, by omega⟩
    -- both have their lowest bit set
    have hwrap : ((2 : ℤ) ^ k - 1) % 2 ^ 32 = 2 ^ k - 1 :=
      Int.emod_eq_of_lt (by omega) (by omega)
    have hones : (UInt32.ofInt (2 ^ k - 1)).toNat = 2 ^ k - 1 := by
      rw [UInt32.ofInt, hwrap, UInt32.toNat_ofNat', Nat.mod_eq_of_lt (by omega)]
      omega
    have hodd : (2 ^ k - 1) % 2 = 1 := by
      obtain ⟨n, rfl⟩ : ∃ n, k = n + 1 := ⟨k - 1, by omega⟩
      have hdouble : 2 ^ (n + 1) = 2 ^ n * 2 := pow_succ 2 n
      omega
    have hand : (UInt32.ofInt (2 ^ k - 1) &&& mask).toNat % 2 = 1 := by
      have hbit := @Nat.and_mod_two_pow (2 ^ k - 1) mask.toNat 1
      rw [UInt32.toNat_and, hones]
      rw [pow_one, hodd, hmask] at hbit
      exact hbit
    have hfits : (UInt32.ofInt (2 ^ k - 1) &&& mask).toNat ≤ 2 ^ k - 1 := by
      rw [UInt32.toNat_and, hones]
      exact Nat.and_le_left
    rw [maskInt, toInt32_toInt (by omega)]
    omega

/-- **A value is decoded from its code**, in front of at least one more bit. -/
theorem gives_encodedValue {size k v : ℕ} (hsize : 0 < size ∧ size ≤ 31) (hk : 0 < k ∧ k ≤ 16)
    {mask : UInt32} (hmask : mask.toNat % 2 = 1) (hv : v < 2 ^ size) (hrest : rest ≠ []) :
    Gives (Ahead (encodeValue size k mask v ++ rest)) (entropyDecodeValue size k mask) v
      (Ahead rest) := by
  obtain ⟨b, rest, rfl⟩ := List.exists_cons_of_ne_nil hrest
  obtain ⟨hpos, hle⟩ := codeMultiplier_bounds hk hmask
  have hvalue : (v : ℤ) = (v / codeMultiplier k mask : ℕ) * (codeMultiplier k mask : ℤ) +
      (v % codeMultiplier k mask : ℕ) := by
    exact_mod_cast (Nat.div_add_mod' v (codeMultiplier k mask)).symm
  have hremainder : v % codeMultiplier k mask < codeMultiplier k mask := Nat.mod_lt v hpos
  have hthreshold : riceThreshold = 8 := rfl
  rw [encodeValue, entropyDecodeValue]
  generalize v / codeMultiplier k mask = q at hvalue
  generalize v % codeMultiplier k mask = r at hvalue hremainder
  split
  · rename_i hsmall
    rw [List.append_assoc, List.cons_append]
    refine (gives_ricePrefix_ends (by omega) (by omega)).bind ?_
    rw [Int.zero_add, if_neg (by omega : ¬ (q : ℤ) > riceThreshold)]
    by_cases hone : k = 1
    · -- the prefix is the value
      have hunit : codeMultiplier k mask = 1 := by rw [codeMultiplier, if_pos hone]
      rw [hunit] at hremainder
      have hzero : r = 0 := by omega
      rw [if_neg (by omega : ¬ (k : ℤ) ≠ 1), if_pos hzero, hone, hvalue, hunit, hzero]
      simp only [Nat.cast_one, Int.mul_one, Nat.cast_zero, Int.add_zero]
      exact gives_return _
    · have hmultiplier : (codeMultiplier k mask : ℤ) = maskInt (2 ^ k - 1) mask := by
        rw [codeMultiplier, if_neg hone] at hpos ⊢
        omega
      rw [if_pos (by omega : (k : ℤ) ≠ 1), hvalue, hmultiplier]
      by_cases hzero : r = 0
      · rw [if_pos hzero, hzero, Nat.cast_zero, Int.add_zero]
        exact gives_scaledValue_back ⟨by omega, hk.2⟩ mask b
      · rw [if_neg hzero]
        exact gives_scaledValue ⟨by omega, hk.2⟩ ⟨by omega, by omega⟩ mask
  · rw [List.append_assoc, hthreshold]
    refine (gives_ricePrefix 9 (by decide)).bind ?_
    rw [if_pos (by decide)]
    exact gives_rawValue hsize hv

end Values

/-! ## The loop -/

theorem finalValue_foldSign (residual : ℤ) : finalValue (foldSign residual) = residual := by
  have hhalf : ∀ n : ℕ, ((n : ℤ) + 1).tdiv 2 = ((n + 1) / 2 : ℕ) := fun _ => rfl
  rw [finalValue, hhalf, foldSign]
  split
  · split <;> omega
  · split <;> omega

theorem foldSign_eq_zero {residual : ℤ} : foldSign residual = 0 ↔ residual = 0 := by
  rw [foldSign]
  split <;> omega

/-- The residual fits a signed field of `size` bits. -/
def FitsBits (size : ℕ) (residual : ℤ) : Prop :=
  -2 ^ (size - 1) ≤ residual ∧ residual < 2 ^ (size - 1)

theorem foldSign_lt {size : ℕ} (hsize : 0 < size) {residual : ℤ} (h : FitsBits size residual) :
    foldSign residual < 2 ^ size := by
  obtain ⟨n, rfl⟩ : ∃ n, size = n + 1 := ⟨size - 1, by omega⟩
  obtain ⟨hlow, hhigh⟩ := h
  have hdouble : 2 ^ (n + 1) = 2 ^ n * 2 := pow_succ 2 n
  have hcast : ((2 ^ n : ℕ) : ℤ) = 2 ^ n := Nat.cast_pow 2 n
  rw [Nat.add_sub_cancel] at hlow hhigh
  rw [foldSign, hdouble]
  split <;> omega

/-- The parameters of a channel that has a code for every residual of `size` bits. -/
structure RiceCoding.Codes (c : RiceCoding) (m size : ℕ) : Prop where
  mult : c.historymult = m
  limit : m ≤ 512
  modifier : 1 ≤ c.kmodifier
  sample : c.readSampleSize = size
  size : 0 < size ∧ size ≤ 31
  mask : c.kmodifierMask.toNat % 2 = 1

section Loop

variable {c : RiceCoding} {m size : ℕ} (hc : c.Codes m size) {rest : List Bool}

/-- The history is where `k` is known. -/
def InHistory (history : ℤ) : Prop := 0 ≤ history ∧ history ≤ historyLimit

include hc

theorem RiceCoding.Codes.sampleK {h : ℤ} (hh : InHistory h) :
    0 < (c.sampleK h).toNat ∧ (c.sampleK h).toNat ≤ 16 := by
  have hmodifier := hc.modifier
  obtain ⟨hlow, hhigh⟩ := RiceCoding.sampleK_bounds (c := c) (by omega) hh.1 hh.2
  have hlimit : (historyLimit : ℤ) = 512 * 0xffff := rfl
  have hpos : 1 ≤ c.sampleK h := by
    obtain ⟨hstart, hend⟩ := hh
    have hshift : h >>> (9 : ℕ) = h / 512 := Int.shiftRight_eq_div_pow h 9
    have hword : ((h / 512 + 3) % 2 ^ 32).toNat = (h / 512 + 3).toNat := by omega
    have hlog : 1 ≤ (h / 512 + 3).toNat.log2 := (Nat.le_log2 (by omega)).mpr (by omega)
    have hzeros : countLeadingZeros (h / 512 + 3) = 31 - (h / 512 + 3).toNat.log2 := by
      rw [countLeadingZeros, if_neg (by omega), hword]
    rw [RiceCoding.sampleK, hshift, hzeros]
    split <;> omega
  omega

theorem RiceCoding.Codes.nextHistory {h : ℤ} (hh : InHistory h) (d : ℕ) :
    InHistory (c.nextHistory h d) := by
  rw [RiceCoding.nextHistory]
  split
  · exact ⟨by decide, by decide⟩
  · obtain ⟨n, rfl⟩ := Int.eq_ofNat_of_zero_le hh.1
    have hn : n ≤ historyLimit := by exact_mod_cast hh.2
    have hle := RiceCoding.updatedHistory_le hc.mult hc.limit hn (n := 0) (Nat.le_refl n)
      (d := d) (by omega)
    have hpeak := historyPeak_le hc.limit hn 1
    refine ⟨?_, hle.trans (by exact_mod_cast hpeak)⟩
    rw [RiceCoding.updatedHistory_eq hc.mult hc.limit]
    exact Int.natCast_nonneg _

/-- The length of a block of zeros is read back. -/
theorem gives_zeroBlock {history count : ℤ} (hh : InHistory history) (hsmall : history < 128)
    {zeros : ℕ} (hzeros : zeros < 2 ^ 16) (hroom : zeros ≤ c.outputSize - count - 1)
    (hrest : rest ≠ []) :
    Gives (Ahead (encodeValue 16 (blockK history).toNat c.kmodifierMask zeros ++ rest))
      (zeroBlock c count history) (some (zeros : ℤ)) (Ahead rest) := by
  have hk : 0 < (blockK history).toNat ∧ (blockK history).toNat ≤ 16 := by
    have hall : ∀ n : Fin 128, 0 < (blockK n).toNat ∧ (blockK n).toNat ≤ 16 := by decide
    obtain ⟨n, rfl⟩ := Int.eq_ofNat_of_zero_le hh.1
    exact hall ⟨n, by omega⟩
  have hnat : ((blockK history).toNat : ℤ) = blockK history := Int.toNat_of_nonneg (by omega)
  refine (gives_record _).bind ?_
  have hread := gives_encodedValue (show 0 < 16 ∧ 16 ≤ 31 by decide) hk hc.mask hzeros hrest
  rw [hnat] at hread
  refine hread.bind (gives_decodeError.bind ?_)
  rw [if_neg (by rintro (h | h | h) <;> first | exact Bool.false_ne_true h | omega)]
  exact gives_return _

/-- What is left of an iteration once its value has been read. -/
theorem gives_ricePass_value {s : RiceState} (hs : InHistory s.history) {v : ℕ}
    (hv : v < 2 ^ size) (hrest : rest ≠ []) {next : RiceState × Bool} {rest' : List Bool}
    (hupdate : Gives (Ahead rest) (riceUpdate c s v) next (Ahead rest')) :
    Gives (Ahead (encodeValue size (c.sampleK s.history).toNat 0xffffffff v ++ rest))
      (ricePass c s) next (Ahead rest') := by
  have hk := hc.sampleK hs
  have hnat : ((c.sampleK s.history).toNat : ℤ) = c.sampleK s.history :=
    Int.toNat_of_nonneg (by omega)
  have hread := gives_encodedValue hc.size hk (show (0xffffffff : UInt32).toNat % 2 = 1 by decide) hv
    hrest
  rw [hnat, ← hc.sample] at hread
  refine (gives_record _).bind (hread.bind (gives_decodeError.bind ?_))
  rw [if_neg Bool.false_ne_true]
  exact hupdate

omit hc in
/-- A residual without a block behind it. -/
theorem gives_riceUpdate_plain {history count : ℤ} {signModifier v : ℕ} {e : ℤ} {output : List ℤ}
    (hsent : (v : ℤ) + signModifier = foldSign e)
    (hplain : ¬ (c.nextHistory history (foldSign e) < 128 ∧ count + 1 < c.outputSize)) :
    Gives (Ahead rest) (riceUpdate c ⟨count, history, signModifier, output⟩ v)
      (⟨count + 1, c.nextHistory history (foldSign e), 0, output ++ [e]⟩, true) (Ahead rest) := by
  rw [RiceCoding.nextHistory] at hplain ⊢
  rw [riceUpdate]
  dsimp only
  rw [hsent, finalValue_foldSign, if_neg hplain]
  exact (gives_record _).bind (gives_return _)

/-- A residual and the block of zeros behind it. -/
theorem gives_riceUpdate_block {history count : ℤ} (hh : InHistory history)
    {signModifier v zeros : ℕ} {e : ℤ} {output : List ℤ}
    (hsent : (v : ℤ) + signModifier = foldSign e)
    (hsmall : c.nextHistory history (foldSign e) < 128) (hcount : count + 1 < c.outputSize)
    (hzeros : zeros < 2 ^ 16) (hroom : zeros ≤ c.outputSize - count - 1) (hrest : rest ≠ []) :
    Gives (Ahead (encodeValue 16 (blockK (c.nextHistory history (foldSign e))).toNat
        c.kmodifierMask zeros ++ rest))
      (riceUpdate c ⟨count, history, signModifier, output⟩ v)
      (⟨count + zeros + 1, 0, 1, output ++ [e] ++ List.replicate zeros 0⟩, true) (Ahead rest) := by
  have hblock := gives_zeroBlock hc (hc.nextHistory hh (foldSign e)) hsmall hzeros hroom hrest
  have hboth := And.intro hsmall hcount
  rw [RiceCoding.nextHistory] at hboth hblock ⊢
  rw [riceUpdate]
  dsimp only
  rw [hsent, finalValue_foldSign, if_pos hboth]
  refine (gives_record _).bind (hblock.bind ?_)
  dsimp only
  rw [if_neg (by omega : ¬ (zeros : ℤ) > 0xffff), Int.toNat_natCast]
  exact gives_return _

/-- An iteration with a block of zeros. -/
theorem gives_ricePass_block {history count : ℤ} (hh : InHistory history)
    {signModifier v zeros : ℕ} {e : ℤ} (output : List ℤ) (hv : v < 2 ^ size)
    (hsent : (v : ℤ) + signModifier = foldSign e)
    (hsmall : c.nextHistory history (foldSign e) < 128) (hcount : count + 1 < c.outputSize)
    (hzeros : zeros < 2 ^ 16) (hroom : zeros ≤ c.outputSize - count - 1) (hrest : rest ≠ []) :
    Gives (Ahead (encodeValue size (c.sampleK history).toNat 0xffffffff v ++
        (encodeValue 16 (blockK (c.nextHistory history (foldSign e))).toNat c.kmodifierMask zeros ++
          rest)))
      (ricePass c ⟨count, history, signModifier, output⟩)
      (⟨count + zeros + 1, 0, 1, output ++ [e] ++ List.replicate zeros 0⟩, true) (Ahead rest) := by
  refine gives_ricePass_value (s := ⟨count, history, signModifier, output⟩) hc hh hv ?_ ?_
  · exact fun h => hrest (List.append_eq_nil_iff.mp h).2
  · exact gives_riceUpdate_block hc hh hsent hsmall hcount hzeros hroom hrest

omit hc in
/-- The loop is over when all samples are written. -/
theorem riceLoop_full {s : RiceState} (hfull : c.outputSize ≤ s.outputCount) (fuel : ℕ) :
    riceLoop c fuel s = pure s := by
  cases fuel with
  | zero => rfl
  | succ fuel => rw [riceLoop, if_neg (by omega)]

omit hc in
/-- The zeros in front of a list. -/
theorem zeroRun (es : List ℤ) :
    es.takeWhile (· = 0) ++ es.dropWhile (· = 0) = es ∧
      es.takeWhile (· = 0) = List.replicate (es.takeWhile (· = 0)).length 0 ∧
      ∀ x ∈ (es.dropWhile (· = 0)).head?, x ≠ 0 := by
  refine ⟨List.takeWhile_append_dropWhile, ?_, ?_⟩
  · exact List.eq_replicate_of_mem fun x hx => of_decide_eq_true
      (List.mem_takeWhile_imp (p := fun x : ℤ => decide (x = 0)) hx)
  · intro x hx hzero
    have hnot := List.head?_dropWhile_not (fun x : ℤ => decide (x = 0)) es
    rw [Option.mem_def.mp hx] at hnot
    exact absurd hzero (of_decide_eq_false hnot)

/-- **The residuals are read back**, from every history and behind a block of zeros as well. -/
theorem gives_riceLoop (hrest : rest ≠ []) (fuel : ℕ) :
    ∀ (fuel' : ℕ) (history count : ℤ) (signModifier : ℕ) (residuals output : List ℤ),
      residuals.length ≤ fuel → residuals.length ≤ fuel' → residuals.length ≤ 2 ^ 16 →
      count + residuals.length = c.outputSize → InHistory history →
      (signModifier = 0 ∨ signModifier = 1 ∧ ∀ e ∈ residuals.head?, e ≠ 0) →
      (∀ e ∈ residuals, FitsBits size e) →
      ∃ s : RiceState, s.output = output ++ residuals ∧
        Gives (Ahead (riceEncodeLoop c fuel history signModifier residuals ++ rest))
          (riceLoop c fuel' ⟨count, history, signModifier, output⟩) s (Ahead rest) := by
  have hended : ∀ (fuel fuel' : ℕ) (history count : ℤ) (signModifier : ℕ) (output : List ℤ),
      count + ([] : List ℤ).length = c.outputSize →
      ∃ s : RiceState, s.output = output ++ [] ∧
        Gives (Ahead (riceEncodeLoop c fuel history signModifier [] ++ rest))
          (riceLoop c fuel' ⟨count, history, signModifier, output⟩) s (Ahead rest) := by
    intro fuel fuel' history count signModifier output hcount
    rw [List.length_nil] at hcount
    have hnone : riceEncodeLoop c fuel history signModifier [] = [] := by cases fuel <;> rfl
    refine ⟨⟨count, history, signModifier, output⟩, (List.append_nil output).symm, ?_⟩
    rw [hnone, riceLoop_full (by dsimp only; omega)]
    exact gives_return _
  induction fuel with
  | zero =>
      intro fuel' history count signModifier residuals output hfuel _ _ hcount _ _ _
      obtain rfl := List.length_eq_zero_iff.mp (Nat.le_zero.mp hfuel)
      exact hended 0 fuel' history count signModifier output hcount
  | succ fuel ih =>
      intro fuel' history count signModifier residuals output hfuel hfuel' hlimit hcount hh hsign
        hfits
      cases residuals with
      | nil => exact hended (fuel + 1) fuel' history count signModifier output hcount
      | cons e es =>
          rw [List.length_cons] at hfuel hfuel' hlimit hcount
          obtain ⟨fuel', rfl⟩ : ∃ n, fuel' = n + 1 := ⟨fuel' - 1, by omega⟩
          have hnumber := foldSign_lt hc.size.1 (hfits e List.mem_cons_self)
          have hfitsTail : ∀ x ∈ es, FitsBits size x := fun x hx =>
            hfits x (List.mem_cons_of_mem e hx)
          -- behind a block the number is at least one
          have hsent : ((foldSign e - signModifier : ℕ) : ℤ) + signModifier = foldSign e := by
            rcases hsign with rfl | ⟨rfl, hhead⟩
            · omega
            · have hpos : foldSign e ≠ 0 := fun h => hhead e rfl (foldSign_eq_zero.mp h)
              omega
          have hlonger : ∀ bits : List Bool, bits ++ rest ≠ [] := fun bits h =>
            hrest (List.append_eq_nil_iff.mp h).2
          have hsample : c.readSampleSize.toNat = size := by rw [hc.sample, Int.toNat_natCast]
          rw [riceLoop, if_pos (by dsimp only; omega), riceEncodeLoop, hsample]
          dsimp only
          by_cases hblock : c.nextHistory history (foldSign e) < 128 ∧ es ≠ []
          · -- the block takes all zeros, so the next residual is none
            have hpos : 0 < es.length := List.length_pos_iff.mpr hblock.2
            have hsplit := zeroRun es
            rw [if_pos hblock, List.append_assoc, List.append_assoc]
            generalize es.takeWhile (· = 0) = zeros at hsplit ⊢
            generalize es.dropWhile (· = 0) = tail at hsplit ⊢
            obtain ⟨hes, hzeros, hhead⟩ := hsplit
            have hcounted := congrArg List.length hes
            rw [List.length_append] at hcounted
            obtain ⟨s, houtput, hgives⟩ := ih fuel' 0 (count + zeros.length + 1) 1 tail
              (output ++ [e] ++ List.replicate zeros.length 0) (by omega) (by omega) (by omega)
              (by omega) ⟨by decide, by decide⟩ (Or.inr ⟨rfl, hhead⟩) fun x hx =>
                hfitsTail x (by rw [← hes]; exact List.mem_append_right zeros hx)
            refine ⟨s, ?_, ?_⟩
            · rw [houtput, ← hzeros, List.append_assoc, hes, List.append_assoc,
                List.singleton_append]
            · have hpass := gives_ricePass_block hc hh output (by omega) hsent hblock.1
                (by omega : count + 1 < c.outputSize) (by omega : zeros.length < 2 ^ 16)
                (by omega) (hlonger (riceEncodeLoop c fuel 0 1 tail))
              refine hpass.bind ?_
              rw [if_pos rfl]
              exact hgives
          · obtain ⟨s, houtput, hgives⟩ := ih fuel' (c.nextHistory history (foldSign e)) (count + 1)
              0 es (output ++ [e]) (by omega) (by omega) (by omega) (by omega)
              (hc.nextHistory hh _) (Or.inl rfl) hfitsTail
            refine ⟨s, ?_, ?_⟩
            · rw [houtput, List.append_assoc, List.singleton_append]
            · have hplain : ¬ (c.nextHistory history (foldSign e) < 128 ∧
                  count + 1 < c.outputSize) := by
                rintro ⟨hsmall, hroom⟩
                exact hblock ⟨hsmall, fun hnil => by rw [hnil, List.length_nil] at hcount; omega⟩
              rw [if_neg hblock, List.append_assoc]
              refine (gives_ricePass_value hc hh (by omega) (hlonger _)
                (gives_riceUpdate_plain hsent hplain)).bind ?_
              rw [if_pos rfl]
              exact hgives

/-- **Rice coding is inverted.** For every list of residuals that fit the sample size, and for
every negotiated history, `entropy_rice_decode` gives back what was encoded and stops at the
first bit behind it. -/
theorem gives_entropyRiceDecode {residuals : List ℤ} (hlength : residuals.length = c.outputSize)
    (hlimit : residuals.length ≤ 2 ^ 16) (hinitial : InHistory c.initialhistory)
    (hfits : ∀ e ∈ residuals, FitsBits size e) (hrest : rest ≠ []) :
    Gives (Ahead (riceEncode c residuals ++ rest)) (entropyRiceDecode c) residuals
      (Ahead rest) := by
  obtain ⟨s, houtput, hgives⟩ := gives_riceLoop hc hrest residuals.length c.outputSize.toNat
    c.initialhistory 0 0 residuals [] (Nat.le_refl _) (by omega) hlimit (by omega) hinitial
    (Or.inl rfl) hfits
  rw [List.nil_append] at houtput
  refine hgives.bind ?_
  rw [houtput]
  exact gives_return residuals

end Loop

end PortableAirplay.Audio
