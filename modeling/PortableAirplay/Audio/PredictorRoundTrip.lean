import PortableAirplay.Audio.RiceRoundTrip

/-!
# Undoing the prediction and the interlacing

`predictor_decompress_fir_adapt` restores the samples from what the encoder leaves of them,
for all coefficients and whatever they adapt to: both ends predict from the same samples,
and the difference is taken in as many bits as a sample has. `deinterlace_16` restores two
channels from their difference and any weighted mean.
-/

set_option autoImplicit false

namespace PortableAirplay.Audio

open PortableAirplay.Library

/-! ## Sign extension -/

/-- `SIGN_EXTENDED32` is the remainder nearest to zero. -/
theorem signExtended32_toInt (val : Int32) {bits : ℕ} (hbits : 0 < bits ∧ bits ≤ 32) :
    (signExtended32 val bits).toInt = val.toInt.bmod (2 ^ bits) := by
  have hamount : ∀ n : Fin 32, ((Int32.ofInt (n : ℕ)).toBitVec.smod 32).toNat = n := by decide
  have hcast : (32 : ℤ) - bits = ((32 - bits : ℕ) : ℤ) := by omega
  have hshift := hamount ⟨32 - bits, by omega⟩
  have hwidth : (2 : ℕ) ^ 32 = 2 ^ (32 - bits) * 2 ^ bits := by
    rw [← pow_add]
    congr 1
    omega
  have heven : 2 ∣ 2 ^ bits := dvd_pow_self 2 (by omega)
  have hpos : 0 < 2 ^ (32 - bits) := Nat.two_pow_pos _
  have hcastPos : ((2 ^ (32 - bits) : ℕ) : ℤ) ≠ 0 := by exact_mod_cast hpos.ne'
  dsimp only at hshift
  rw [signExtended32, hcast, ← Int32.toInt_toBitVec, Int32.toBitVec_shiftRight,
    Int32.toBitVec_shiftLeft, BitVec.toInt_sshiftRight', BitVec.shiftLeft_eq', hshift,
    BitVec.toInt_shiftLeft, Nat.shiftLeft_eq, Nat.mul_comm, Int.natCast_mul, hwidth,
    Int.mod_bmod_mul_of_pos _ _ hpos heven, Int.shiftRight_eq_div_pow,
    Int.mul_ediv_cancel_left _ hcastPos, ← Int32.toInt_toBitVec, BitVec.toInt_eq_toNat_bmod,
    Int.bmod_bmod_of_dvd (pow_dvd_pow 2 hbits.2)]

/-- The sample fits a signed field of `bits` bits. -/
def FitsSample (bits : ℕ) (x : Int32) : Prop := FitsBits bits x.toInt

theorem bmod_fits {bits : ℕ} (hbits : 0 < bits) {n : ℤ} (h : FitsBits bits n) :
    n.bmod (2 ^ bits) = n := by
  obtain ⟨k, rfl⟩ : ∃ k, bits = k + 1 := ⟨bits - 1, by omega⟩
  obtain ⟨hlow, hhigh⟩ := h
  rw [Nat.add_sub_cancel] at hlow hhigh
  have hdouble : ((2 ^ (k + 1) : ℕ) : ℤ) = 2 ^ k * 2 := by
    rw [Nat.cast_pow, pow_succ]
    rfl
  apply Int.bmod_eq_of_le_mul_two
  · rw [hdouble]
    omega
  · rw [hdouble]
    omega

theorem fits_bmod {bits : ℕ} (hbits : 0 < bits) (n : ℤ) : FitsBits bits (n.bmod (2 ^ bits)) := by
  obtain ⟨k, rfl⟩ : ∃ k, bits = k + 1 := ⟨bits - 1, by omega⟩
  have hpos : 0 < 2 ^ (k + 1) := Nat.two_pow_pos _
  have hdouble : ((2 ^ (k + 1) : ℕ) : ℤ) = 2 ^ k * 2 := by
    rw [Nat.cast_pow, pow_succ]
    rfl
  have hlow := Int.le_bmod (x := n) hpos
  have hhigh := Int.bmod_lt (x := n) hpos
  rw [hdouble] at hlow hhigh
  rw [FitsBits, Nat.add_sub_cancel]
  omega

/-- **A difference is undone**: adding the prediction to what is left of a sample without it
gives the sample back, also where either overflows. -/
theorem signExtended32_restore {bits : ℕ} (hbits : 0 < bits ∧ bits ≤ 32) {x : Int32}
    (hx : FitsSample bits x) (prediction : Int32) :
    signExtended32 (prediction + signExtended32 (x - prediction) bits) bits = x := by
  have hdvd : 2 ^ bits ∣ 2 ^ 32 := pow_dvd_pow 2 hbits.2
  apply Int32.toInt_inj.mp
  rw [signExtended32_toInt _ hbits, Int32.toInt_add, signExtended32_toInt _ hbits, Int32.toInt_sub,
    Int.bmod_bmod_of_dvd hdvd, Int.bmod_bmod_of_dvd hdvd, Int.add_bmod_bmod, add_sub_cancel,
    bmod_fits hbits.1 hx]

theorem signExtended32_fits {bits : ℕ} (hbits : 0 < bits ∧ bits ≤ 32) (x : Int32) :
    FitsSample bits (signExtended32 x bits) := by
  rw [FitsSample, signExtended32_toInt x hbits]
  exact fits_bmod hbits.1 _

/-! ## The predictor -/

section Predictor

variable {bits : ℕ} (hbits : 0 < bits ∧ bits ≤ 32)

include hbits

theorem delta_restores (prev x : Int32) (hx : FitsSample bits x) :
    (deltaPredictor bits).restore prev (deltaDifference bits prev x) = x :=
  signExtended32_restore hbits hx prev

theorem fir_restores (quantitization : ℕ) (s : FirState) (x : Int32) (hx : FitsSample bits x) :
    (firPredictor bits quantitization).restore s (firDifference bits quantitization s x) = x :=
  signExtended32_restore hbits hx (s.prediction quantitization)

omit hbits in
/-- Two lists as long as the parts of a third are the parts of their own. -/
theorem cut_residuals {α β : Type} (num : ℕ) (rest : List α) {warm general : List β}
    (hwarm : warm.length = (rest.take num).length)
    (hgeneral : general.length = (rest.drop num).length) :
    (warm ++ general).take num = warm ∧ (warm ++ general).drop num = general := by
  rw [List.length_take] at hwarm
  rw [List.length_drop] at hgeneral
  by_cases hlong : num ≤ rest.length
  · exact ⟨List.take_left' (by omega), List.drop_left' (by omega)⟩
  · obtain rfl := List.length_eq_zero_iff.mp (by omega : general.length = 0)
    rw [List.append_nil]
    exact ⟨List.take_of_length_le (by omega), List.drop_of_length_le (by omega)⟩

/-- **The predictor is lossless**: the samples of a channel come back from their residuals, for
every table of coefficients and every quantization. -/
theorem predictorDecompress_compress {samples : List Int32}
    (hsamples : ∀ x ∈ samples, FitsSample bits x) (coefTable : List Int16)
    (quantitization : ℕ) :
    predictorDecompressFirAdapt (predictorCompress samples bits coefTable quantitization) bits
      coefTable quantitization = samples := by
  cases samples with
  | nil => rfl
  | cons first rest =>
      have hrest : ∀ x ∈ rest, FitsSample bits x := fun x hx =>
        hsamples x (List.mem_cons_of_mem first hx)
      rw [predictorCompress]
      split
      · rename_i hzero
        rw [predictorDecompressFirAdapt]
        exact if_pos hzero
      · rename_i hcoefs
        split
        · rename_i hdelta
          rw [predictorDecompressFirAdapt, if_neg hcoefs, if_pos hdelta,
            Predictor.synthesize_analyze (delta_restores hbits) hrest]
        · rename_i hgeneral
          have hwarm : ∀ x ∈ rest.take coefTable.length, FitsSample bits x := fun x hx =>
            hrest x (List.mem_of_mem_take hx)
          have hgoes : ∀ x ∈ rest.drop coefTable.length, FitsSample bits x := fun x hx =>
            hrest x (List.mem_of_mem_drop hx)
          -- the residuals are cut where the samples were
          obtain ⟨htake, hdrop⟩ := cut_residuals coefTable.length rest
            (Predictor.analyze_length (deltaPredictor bits) (deltaDifference bits) first
              (rest.take coefTable.length))
            (Predictor.analyze_length (firPredictor bits quantitization)
              (firDifference bits quantitization)
              ⟨(first :: rest.take coefTable.length).reverse, coefTable⟩
              (rest.drop coefTable.length))
          rw [List.cons_append, predictorDecompressFirAdapt, if_neg hcoefs, if_neg hgeneral]
          dsimp only
          rw [htake, hdrop, Predictor.synthesize_analyze (delta_restores hbits) hwarm,
            Predictor.synthesize_analyze (fir_restores hbits quantitization) hgoes,
            List.cons_append, List.take_append_drop]

omit hbits in
@[simp] theorem predictorCompress_length (samples : List Int32) (size : ℤ)
    (coefTable : List Int16) (quantitization : ℕ) :
    (predictorCompress samples size coefTable quantitization).length = samples.length := by
  cases samples with
  | nil => rfl
  | cons first rest =>
      rw [predictorCompress]
      split
      · rfl
      · split
        · rw [List.length_cons, Predictor.analyze_length, List.length_cons]
        · simp only [List.length_append, List.length_cons, Predictor.analyze_length,
            List.length_take, List.length_drop]
          omega

/-- The residuals fit the size of a sample. -/
theorem predictorCompress_fits {samples : List Int32}
    (hsamples : ∀ x ∈ samples, FitsSample bits x) (coefTable : List Int16)
    (quantitization : ℕ) :
    ∀ e ∈ predictorCompress samples bits coefTable quantitization, FitsSample bits e := by
  have hdelta : ∀ prev (xs : List Int32), ∀ e ∈ (deltaPredictor bits).analyze
      (deltaDifference bits) prev xs, FitsSample bits e :=
    Predictor.analyze_forall fun prev x => signExtended32_fits hbits (x - prev)
  have hfir : ∀ s (xs : List Int32), ∀ e ∈ (firPredictor bits quantitization).analyze
      (firDifference bits quantitization) s xs, FitsSample bits e :=
    Predictor.analyze_forall fun s x => signExtended32_fits hbits (x - s.prediction quantitization)
  intro e he
  cases samples with
  | nil => exact absurd he List.not_mem_nil
  | cons first rest =>
      have hfirst := hsamples first List.mem_cons_self
      rw [predictorCompress] at he
      split at he
      · exact hsamples e he
      · split at he
        · rcases List.mem_cons.mp he with rfl | hin
          · exact hfirst
          · exact hdelta _ _ e hin
        · rcases List.mem_append.mp he with hin | hin
          · rcases List.mem_cons.mp hin with rfl | hin
            · exact hfirst
            · exact hdelta _ _ e hin
          · exact hfir _ _ e hin

end Predictor

/-! ## The interlacing -/

/-- **Interlaced channels come apart**, for every weight and every shift. -/
theorem deinterlacePair_interlacePair (shift leftweight : UInt8) (left right : Int16) :
    deinterlacePair shift leftweight (interlacePair shift leftweight left right).1
      (interlacePair shift leftweight left right).2 = [left, right] := by
  rw [deinterlacePair, interlacePair]
  split
  · dsimp only
    generalize ((left.toInt32 - right.toInt32) * Int32.ofNat leftweight.toNat) >>>
      Int32.ofNat shift.toNat = weighted
    have hright : (signExtended32 (right.toInt32 + weighted) 17 - weighted).toInt16 = right := by
      have hshort : 2 ^ 16 ∣ 2 ^ 17 := by decide
      have hword : 2 ^ 16 ∣ 2 ^ 32 := by decide
      have hextended := signExtended32_toInt (right.toInt32 + weighted) (by decide : 0 < 17 ∧ 17 ≤ 32)
      apply Int16.toInt_inj.mp
      rw [Int32.toInt_toInt16, Int32.toInt_sub, Int.bmod_bmod_of_dvd hword, ← Int.bmod_sub_bmod]
      rw [Nat.cast_ofNat] at hextended
      rw [hextended, Int.bmod_bmod_of_dvd hshort, Int32.toInt_add, Int.bmod_bmod_of_dvd hword,
        Int.bmod_sub_bmod, add_sub_cancel_right, Int16.toInt_toInt32]
      exact bmod_fits (by decide : 0 < 16) ⟨right.le_toInt, right.toInt_lt⟩
    rw [hright, Int32.add_comm, Int32.sub_add_cancel, Int16.toInt16_toInt32]
  · rw [Int16.toInt16_toInt32, Int16.toInt16_toInt32]

/-- Both buffers of interlaced channels fit 17 bits. -/
theorem interlacePair_fits (shift leftweight : UInt8) (left right : Int16) :
    FitsSample 17 (interlacePair shift leftweight left right).1 ∧
      FitsSample 17 (interlacePair shift leftweight left right).2 := by
  have hpow : (2 : ℤ) ^ (17 - 1) = 65536 := rfl
  have hleft := left.toInt_lt
  have hleft' := left.le_toInt
  have hright := right.toInt_lt
  have hright' := right.le_toInt
  rw [interlacePair]
  split
  · refine ⟨signExtended32_fits (by decide) _, ?_⟩
    have hdifference : (left.toInt32 - right.toInt32).toInt = left.toInt - right.toInt := by
      rw [Int32.toInt_sub, Int16.toInt_toInt32, Int16.toInt_toInt32]
      exact Int.bmod_eq_of_le_mul_two (by omega) (by omega)
    rw [FitsSample, FitsBits, hdifference, hpow]
    omega
  · rw [FitsSample, FitsSample, FitsBits, FitsBits, Int16.toInt_toInt32, Int16.toInt_toInt32, hpow]
    omega

end PortableAirplay.Audio
