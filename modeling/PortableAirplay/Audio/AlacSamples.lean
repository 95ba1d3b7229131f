import PortableAirplay.Audio.AlacDecoding
import PortableAirplay.Library.PredictiveCoding

/-!
# The samples of an ALAC packet

The part of `codec/alac.c` behind the Rice decoding: the coefficients of a channel, the
adaptive predictor, the interlacing of two channels, and frames that are not compressed.
The functions of `AlacDecoding` are run again here with their output buffer, and
`decodeFrameOutput_frame` says that they are the same functions.

`int32_t` and `int16_t` are `Int32` and `Int16`; where C leaves a signed overflow of the
predictor undefined, the model wraps. A frame that sets `decode_error` is refused, and the
samples it leaves in the buffers are not part of the model.
-/

set_option autoImplicit false

namespace PortableAirplay.Audio

open PortableAirplay.Library
open PortableAirplay.Library.Recorded
open PortableAirplay.Protocol

/-! ## The predictor -/

/-- `SIGN_EXTENDED32`. -/
def signExtended32 (val : Int32) (bits : ℤ) : Int32 :=
  (val <<< Int32.ofInt (32 - bits)) >>> Int32.ofInt (32 - bits)

/-- `SIGN_ONLY`. -/
def signOnly (v : Int32) : Int32 := if v < 0 then -1 else if v > 0 then 1 else 0

/-- The variables of `predictor_decompress_fir_adapt`: the samples in `buffer_out`, newest
first, and the coefficients. -/
structure FirState where
  samples : List Int32
  coefTable : List Int16
  deriving DecidableEq

/-- `buffer_out[predictor_coef_num - j]`; for `j = predictor_coef_num` it is the base of the
window. -/
def FirState.sample (s : FirState) (j : ℕ) : Int32 := s.samples.getD j 0

/-- `sum` over the window. -/
def FirState.sum (s : FirState) : Int32 :=
  let num := s.coefTable.length
  (List.range num).foldl
    (fun sum j => sum + (s.sample j - s.sample num) * (s.coefTable.getD j 0).toInt32) 0

/-- `outval` before the error of the sample is added. -/
def FirState.prediction (s : FirState) (quantitization : ℕ) : Int32 :=
  ((((1 : Int32) <<< Int32.ofNat (quantitization - 1)) + s.sum) >>> Int32.ofNat quantitization) +
    s.sample s.coefTable.length

/-- The two loops that adapt the coefficients, `above` for an error above zero; the first
argument is `predictor_num + 1`. -/
def FirState.adaptLoop (s : FirState) (quantitization : ℕ) (above : Bool) :
    ℕ → Int32 → List Int16 → List Int16
  | 0, _, coefTable => coefTable
  | predictorNum + 1, errorVal, coefTable =>
      if (if above then errorVal > 0 else errorVal < 0) then
        let num := s.coefTable.length
        let val := s.sample num - s.sample predictorNum
        let sign := if above then signOnly val else -signOnly val
        let coef := (coefTable.getD predictorNum 0).toInt32 - sign
        -- `val * sign` is the absolute value, or the negative one below zero
        let errorVal := errorVal -
          ((val * sign) >>> Int32.ofNat quantitization) * Int32.ofNat (num - predictorNum)
        s.adaptLoop quantitization above predictorNum errorVal
          (coefTable.set predictorNum coef.toInt16)
      else coefTable

/-- The coefficients after a sample. -/
def FirState.adapt (s : FirState) (quantitization : ℕ) (errorVal : Int32) : List Int16 :=
  if errorVal > 0 then
    s.adaptLoop quantitization true s.coefTable.length errorVal s.coefTable
  else if errorVal < 0 then
    s.adaptLoop quantitization false s.coefTable.length errorVal s.coefTable
  else s.coefTable

/-- The warm-up samples, and all samples of a channel with 31 coefficients: each error is the
difference to the sample before. -/
def deltaPredictor (readsamplesize : ℤ) : Predictor Int32 Int32 Int32 where
  restore prevValue errorValue := signExtended32 (prevValue + errorValue) readsamplesize
  next _ _ val := val

/-- The general case. -/
def firPredictor (readsamplesize : ℤ) (quantitization : ℕ) : Predictor FirState Int32 Int32 where
  restore s errorVal := signExtended32 (s.prediction quantitization + errorVal) readsamplesize
  next s errorVal outval := ⟨outval :: s.samples, s.adapt quantitization errorVal⟩

/-- `predictor_decompress_fir_adapt`: the samples of `buffer_out`. The length of the table is
`predictor_coef_num`. -/
def predictorDecompressFirAdapt (errorBuffer : List Int32) (readsamplesize : ℤ)
    (coefTable : List Int16) (quantitization : ℕ) : List Int32 :=
  match errorBuffer with
  | [] => []
  | first :: errors =>
      let num := coefTable.length
      -- the first sample always copies
      if num = 0 then first :: errors
      else if num = 31 then first :: (deltaPredictor readsamplesize).synthesize first errors
      else
        let warmUp := first :: (deltaPredictor readsamplesize).synthesize first (errors.take num)
        warmUp ++ (firPredictor readsamplesize quantitization).synthesize
          ⟨warmUp.reverse, coefTable⟩ (errors.drop num)

/-! ## The output buffer -/

/-- The left and the right sample of a frame of `deinterlace_16`. -/
def deinterlacePair (interlacingShift interlacingLeftweight : UInt8) (a b : Int32) :
    List Int16 :=
  if interlacingLeftweight ≠ 0 then
    let right := (a - ((b * Int32.ofNat interlacingLeftweight.toNat) >>>
      Int32.ofNat interlacingShift.toNat)).toInt16
    let left := (right.toInt32 + b).toInt16
    [left, right]
  else [a.toInt16, b.toInt16]

/-- `deinterlace_16`. -/
def deinterlace16 (bufferA bufferB : List Int32) (interlacingShift interlacingLeftweight : UInt8) :
    List Int16 :=
  (List.zipWith (deinterlacePair interlacingShift interlacingLeftweight) bufferA bufferB).flatten

/-- What `decode_frame` writes for the buffers of its channels. Other sizes than 16 are not
reached. -/
def outputSamples (a : AlacFile) (buffers : List (List Int32))
    (interlacingShift interlacingLeftweight : UInt8) : List Int16 :=
  if a.sampleSize = 16 then
    match buffers with
    | [bufferA] => bufferA.map Int32.toInt16
    | [bufferA, bufferB] => deinterlace16 bufferA bufferB interlacingShift interlacingLeftweight
    | _ => []
  else []

/-- What `decode_frame` leaves, with the samples in `outbuffer`. -/
structure AlacOutput where
  frame : AlacFrame
  samples : List Int16
  deriving DecidableEq, Repr

/-! ## The frame -/

/-- The prediction header of a channel. -/
structure Prediction where
  quantitization : ℕ
  ricemodifier : ℤ
  coefTable : List Int16
  deriving DecidableEq

/-- The predictor table. -/
def readCoefTable : ℕ → Alac (List Int16)
  | 0 => pure []
  | num + 1 => do
      let coef ← readbits 16
      let rest ← readCoefTable num
      return coef.toUInt16.toInt16 :: rest

/-- The prediction header of a channel, `readPrediction` with its table. -/
def readPredictor (outputsamples : ℤ) : Alac (Option Prediction) := do
  let predictionType ← readbits 4
  let predictionQuantitization ← readbits 4
  let ricemodifier ← readbits 3
  let predictorCoefNum ← readbits 5
  if predictionType ≠ 0 ∨ (predictorCoefNum ≠ 0 ∧ predictionQuantitization = 0) ∨
      (predictorCoefNum ≠ 31 ∧ (predictorCoefNum.toNat : ℤ) ≥ outputsamples) then decodeFails none
  else do
    let coefTable ← readCoefTable predictorCoefNum.toNat
    return some ⟨predictionQuantitization.toNat, ricemodifier.toNat, coefTable⟩

/-- `outputsamples_buffer` of a channel. -/
def Prediction.samples (p : Prediction) (readsamplesize : ℤ) (residuals : List ℤ) : List Int32 :=
  predictorDecompressFirAdapt (residuals.map Int32.ofInt) readsamplesize p.coefTable
    p.quantitization

/-- The part of the compressed case behind the prediction headers. -/
def decodeResidualsOutput (a : AlacFile) (outputsize outputsamples readsamplesize
    uncompressedBytes : ℤ) (interlacingShift interlacingLeftweight : UInt8)
    (predictions : List Prediction) : Alac AlacOutput := do
  readFields (uncompressedBytes * 8)
    (if uncompressedBytes = 0 then 0 else predictions.length * outputsamples.toNat)
  let residuals ← riceDecodeChannels a outputsamples readsamplesize
    (predictions.map Prediction.ricemodifier)
  let buffers := List.zipWith (fun p => p.samples readsamplesize) predictions residuals
  return ⟨⟨outputsize, residuals⟩, outputSamples a buffers interlacingShift interlacingLeftweight⟩

/-- The compressed case. -/
def decodeCompressedOutput (a : AlacFile) (channels outputsize outputsamples readsamplesize
    uncompressedBytes : ℤ) : Alac AlacOutput := do
  let interlacingShift ← readbits 8
  let interlacingLeftweight ← readbits 8
  if channels = 1 ∧ interlacingShift.toUInt8 > 31 then decodeFails ⟨⟨outputsize, []⟩, []⟩
  else do
    let predictionA ← readPredictor outputsamples
    match predictionA with
    | none => return ⟨⟨outputsize, []⟩, []⟩
    | some predictionA =>
        if channels = 0 then
          decodeResidualsOutput a outputsize outputsamples readsamplesize uncompressedBytes
            interlacingShift.toUInt8 interlacingLeftweight.toUInt8 [predictionA]
        else do
          let predictionB ← readPredictor outputsamples
          match predictionB with
          | none => return ⟨⟨outputsize, []⟩, []⟩
          | some predictionB =>
              decodeResidualsOutput a outputsize outputsamples readsamplesize uncompressedBytes
                interlacingShift.toUInt8 interlacingLeftweight.toUInt8 [predictionA, predictionB]

/-- A sample of a frame that is not compressed. -/
def readSample (a : AlacFile) : Alac Int32 := do
  let audiobits ← readbits a.sampleSize
  return signExtended32 audiobits.toInt32 a.sampleSize

/-- The loop over the samples of one channel. -/
def readMono (a : AlacFile) : ℕ → Alac (List Int32)
  | 0 => pure []
  | count + 1 => do
      let sample ← readSample a
      let rest ← readMono a count
      return sample :: rest

/-- The loop over the samples of two channels. -/
def readStereo (a : AlacFile) : ℕ → Alac (List Int32 × List Int32)
  | 0 => pure ([], [])
  | count + 1 => do
      let sampleA ← readSample a
      let sampleB ← readSample a
      let rest ← readStereo a count
      return (sampleA :: rest.1, sampleB :: rest.2)

/-- The case that is not compressed. -/
def decodeUncompressedOutput (a : AlacFile) (channels outputsize outputsamples : ℤ) :
    Alac AlacOutput :=
  if channels = 0 then do
    let bufferA ← readMono a outputsamples.toNat
    return ⟨⟨outputsize, []⟩, outputSamples a [bufferA] 0 0⟩
  else do
    let buffers ← readStereo a outputsamples.toNat
    return ⟨⟨outputsize, []⟩, outputSamples a [buffers.1, buffers.2] 0 0⟩

/-- The two cases of a frame, once the number of samples is known. -/
def decodeSamplesOutput (a : AlacFile) (channels outputsize outputsamples uncompressedBytes : ℤ)
    (isnotcompressed : Bool) : Alac AlacOutput := do
  let readsamplesize := a.sampleSize - uncompressedBytes * 8 + channels
  if readsamplesize ≤ 0 ∨ readsamplesize > 32 then decodeFails ⟨⟨outputsize, []⟩, []⟩
  else if isnotcompressed then decodeUncompressedOutput a channels outputsize outputsamples
  else
    decodeCompressedOutput a channels outputsize outputsamples readsamplesize uncompressedBytes

/-- The header of a frame behind the number of channels. -/
def decodeChannelsOutput (a : AlacFile) (channels outbufferAllocationSize outputsize : ℤ) :
    Alac AlacOutput := do
  let _ ← readbits 4
  let _ ← readbits 12
  let hassize ← readbits 1
  let uncompressedBytes ← readbits 2
  let isnotcompressed ← readbits 1
  if hassize ≠ 0 then do
    let samples ← readbits 32
    let outputsamples := samples.toInt32.toInt
    match setOutputSizeChecked a outputsamples outbufferAllocationSize with
    | none => return ⟨⟨0, []⟩, []⟩
    | some outputsize =>
        decodeSamplesOutput a channels outputsize outputsamples uncompressedBytes.toNat
          (isnotcompressed ≠ 0)
  else
    decodeSamplesOutput a channels outputsize a.maxSamplesPerFrame uncompressedBytes.toNat
      (isnotcompressed ≠ 0)

/-- `decode_frame` with its output buffer. -/
def decodeFrameOutput (a : AlacFile) (outputsize : ℤ) : Alac AlacOutput := do
  let channels ← readbits 3
  if channels > 1 ∨ (channels.toNat : ℤ) + 1 ≠ a.numchannels then
    decodeFails ⟨⟨outputsize, []⟩, []⟩
  else
    match setOutputSizeChecked a a.maxSamplesPerFrame outputsize with
    | none => return ⟨⟨0, []⟩, []⟩
    | some size => decodeChannelsOutput a channels.toNat outputsize size

/-- `alac_decode_frame`: `*outputsize`, and the samples of a frame that is not refused. -/
def alacDecodeFrameOutput (a : AlacFile) (input : List UInt8) (outputsize : ℤ) :
    ℤ × List Int16 :=
  if input = [] ∨ a.samplesize ≠ 16 then (0, [])
  else
    let r := decodeFrameOutput a outputsize ⟨input, 0, false⟩
    if r.state.decodeError then (0, []) else (r.value.frame.outputsize, r.value.samples)

/-- `alac_decoder_decode_frame`: the samples in `output`, or `none` for -1. -/
def alacDecoderDecodeFrameOutput (decoder : AlacDecoder) (input : List UInt8)
    (maxOutputSamples : UInt64) : Option (List Int16) :=
  if decoder.impl = false ∨ input = [] ∨ maxOutputSamples = 0 then none
  else
    let maxOutputBytes := min (maxOutputSamples * 2).toNat intMax
    let r := alacDecodeFrameOutput decoder.alacFile input maxOutputBytes
    let samples := r.1.toNat / 2
    if r.1 ≤ 0 ∨ samples > maxOutputSamples.toNat ∨ samples % decoder.channels.toNat ≠ 0 then none
    else some r.2

/-! ## The same decoder -/

section Refinement

variable {a : AlacFile} {channels outputsize outputsamples readsamplesize uncompressedBytes : ℤ}

theorem map_decodeFails {α β : Type} (f : α → β) (value : α) :
    f <$> (decodeFails value : Alac α) = decodeFails (f value) := rfl

/-- A table is as many fields. -/
theorem readCoefTable_fields (num : ℕ) :
    (fun _ => ⟨⟩) <$> readCoefTable num = readFields 16 num := by
  induction num with
  | zero => rfl
  | succ num ih =>
      rw [readCoefTable, readFields, map_bind, ← ih]
      simp only [bind_pure_comp, Functor.map_map]

theorem readPredictor_prediction :
    Option.map Prediction.ricemodifier <$> readPredictor outputsamples =
      readPrediction outputsamples := by
  rw [readPredictor, readPrediction]
  simp only [map_bind]
  refine bind_congr fun type => bind_congr fun quantitization => ?_
  refine bind_congr fun ricemodifier => bind_congr fun num => ?_
  split
  · exact map_decodeFails _ _
  · rw [← readCoefTable_fields]
    simp only [map_bind, map_pure, bind_map_left, Option.map_some]

theorem decodeResidualsOutput_frame (shift leftweight : UInt8) (predictions : List Prediction) :
    AlacOutput.frame <$> decodeResidualsOutput a outputsize outputsamples readsamplesize
        uncompressedBytes shift leftweight predictions =
      decodeResiduals a outputsize outputsamples readsamplesize uncompressedBytes
        (predictions.map Prediction.ricemodifier) := by
  rw [decodeResidualsOutput, decodeResiduals, List.length_map]
  simp only [map_bind, map_pure]

theorem decodeCompressedOutput_frame :
    AlacOutput.frame <$> decodeCompressedOutput a channels outputsize outputsamples readsamplesize
        uncompressedBytes =
      decodeCompressed a channels outputsize outputsamples readsamplesize uncompressedBytes := by
  rw [decodeCompressedOutput, decodeCompressed]
  simp only [map_bind]
  refine bind_congr fun shift => bind_congr fun leftweight => ?_
  split
  · exact map_decodeFails _ _
  · rw [← readPredictor_prediction]
    simp only [map_bind, bind_map_left]
    refine bind_congr fun predictionA => ?_
    cases predictionA with
    | none => rfl
    | some predictionA =>
        dsimp only [Option.map_some]
        split
        · exact decodeResidualsOutput_frame _ _ [predictionA]
        · simp only [map_bind]
          refine bind_congr fun predictionB => ?_
          cases predictionB with
          | none => rfl
          | some predictionB => exact decodeResidualsOutput_frame _ _ [predictionA, predictionB]

/-- A sample is a field. -/
theorem readMono_fields (count : ℕ) :
    (fun _ => ⟨⟩) <$> readMono a count = readFields a.sampleSize count := by
  induction count with
  | zero => rfl
  | succ count ih =>
      rw [readMono, readSample, readFields, map_bind, ← ih]
      simp only [bind_pure_comp, bind_map_left, Functor.map_map]

theorem readStereo_fields (count : ℕ) :
    (fun _ => ⟨⟩) <$> readStereo a count = readFields a.sampleSize (count * 2) := by
  induction count with
  | zero => rfl
  | succ count ih =>
      rw [readStereo, readSample, Nat.succ_mul, readFields, readFields, map_bind, ← ih]
      simp only [map_bind, bind_pure_comp, bind_map_left, Functor.map_map]

theorem decodeUncompressedOutput_frame (hchannels : channels = 0 ∨ channels = 1) :
    AlacOutput.frame <$> decodeUncompressedOutput a channels outputsize outputsamples =
      (do
        readFields a.sampleSize (outputsamples * (channels + 1)).toNat
        return ⟨outputsize, []⟩) := by
  rw [decodeUncompressedOutput]
  rcases hchannels with rfl | rfl
  · have hcount : (outputsamples * (0 + 1)).toNat = outputsamples.toNat := by omega
    rw [if_pos rfl, hcount, ← readMono_fields]
    simp only [map_bind, map_pure, bind_map_left]
  · have hcount : (outputsamples * (1 + 1)).toNat = outputsamples.toNat * 2 := by omega
    rw [if_neg one_ne_zero, hcount, ← readStereo_fields]
    simp only [map_bind, map_pure, bind_map_left]

theorem decodeSamplesOutput_frame (hchannels : channels = 0 ∨ channels = 1)
    (isnotcompressed : Bool) :
    AlacOutput.frame <$> decodeSamplesOutput a channels outputsize outputsamples uncompressedBytes
        isnotcompressed =
      decodeSamples a channels outputsize outputsamples uncompressedBytes isnotcompressed := by
  rw [decodeSamplesOutput, decodeSamples]
  split
  · exact map_decodeFails _ _
  · split
    · exact decodeUncompressedOutput_frame hchannels
    · exact decodeCompressedOutput_frame

theorem decodeChannelsOutput_frame (hchannels : channels = 0 ∨ channels = 1) (capacity : ℤ) :
    AlacOutput.frame <$> decodeChannelsOutput a channels capacity outputsize =
      decodeChannels a channels capacity outputsize := by
  rw [decodeChannelsOutput, decodeChannels]
  simp only [map_bind]
  refine bind_congr fun _ => bind_congr fun _ => bind_congr fun hassize => ?_
  refine bind_congr fun uncompressedBytes => bind_congr fun isnotcompressed => ?_
  split
  · simp only [map_bind]
    refine bind_congr fun samples => ?_
    cases setOutputSizeChecked a samples.toInt32.toInt capacity with
    | none => rfl
    | some size => exact decodeSamplesOutput_frame hchannels _
  · exact decodeSamplesOutput_frame hchannels _

/-- **One decoder**: with the output buffer left out, `decodeFrameOutput` is `decodeFrame`, in
its value, its reader and its arithmetic. -/
theorem decodeFrameOutput_frame (a : AlacFile) (outputsize : ℤ) :
    AlacOutput.frame <$> decodeFrameOutput a outputsize = decodeFrame a outputsize := by
  rw [decodeFrameOutput, decodeFrame]
  simp only [map_bind]
  refine bind_congr fun channels => ?_
  split
  · exact map_decodeFails _ _
  · rename_i haccepted
    have hle : channels.toNat ≤ 1 :=
      UInt32.le_iff_toNat_le.mp (UInt32.not_lt.mp fun h => haccepted (Or.inl h))
    cases setOutputSizeChecked a a.maxSamplesPerFrame outputsize with
    | none => rfl
    | some size => exact decodeChannelsOutput_frame (by omega) _

end Refinement

end PortableAirplay.Audio
