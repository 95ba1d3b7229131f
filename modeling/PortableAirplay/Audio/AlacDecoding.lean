import PortableAirplay.Audio.AacDecoding
import PortableAirplay.Library.Recorded

/-!
# Decoding ALAC packets

`codec/alac_decoder.c` and the part of `codec/alac.c` that reads a packet: the bit reader,
the header of a frame and its Rice decoding. The predictor and the interlacing come after
it and do not touch the reader, so the model ends at the residuals of each channel.

`int` is `ℤ` here. What C defines only in a range is recorded instead: the amounts of the
shifts, the products and updates of the history, and the other signed results of the Rice
decoding. While all of them are in their ranges, the values are those of the C code.
-/

set_option autoImplicit false

namespace PortableAirplay.Audio

open PortableAirplay.Library
open PortableAirplay.Library.Recorded
open PortableAirplay.Protocol

/-! ## Arithmetic on `int` -/

/-- An operation that C defines only in a range: a shift by an amount, a product or an update
of the history, and another signed result. -/
inductive Arithmetic where
  | shift (amount : ℤ)
  | history (value : ℤ)
  | result (value : ℤ)
  deriving DecidableEq, Repr

/-- The value fits `int32_t`. -/
def FitsInt (value : ℤ) : Prop := -2 ^ 31 ≤ value ∧ value < 2 ^ 31

instance (value : ℤ) : Decidable (FitsInt value) :=
  inferInstanceAs (Decidable (-2 ^ 31 ≤ value ∧ value < 2 ^ 31))

/-- The operation is in its range. -/
def Arithmetic.Defined : Arithmetic → Prop
  | .shift amount => 0 ≤ amount ∧ amount ≤ 31
  | .history value => FitsInt value
  | .result value => FitsInt value

instance : ∀ op : Arithmetic, Decidable op.Defined
  | .shift amount => inferInstanceAs (Decidable (0 ≤ amount ∧ amount ≤ 31))
  | .history value => inferInstanceAs (Decidable (FitsInt value))
  | .result value => inferInstanceAs (Decidable (FitsInt value))

/-- The shifts, and the products and updates of the history. -/
def Arithmetic.isRice : Arithmetic → Bool
  | .shift _ => true
  | .history _ => true
  | .result _ => false

/-! ## The bit reader -/

/-- The reading fields of `alac_file`; `offset` counts the bits before `input_buffer` and
those of `input_buffer_bitaccumulator`. -/
structure BitReader where
  input : List UInt8
  offset : ℕ
  decodeError : Bool

/-- Computations on the reader. -/
abbrev Alac (α : Type) := Recorded BitReader Arithmetic α

/-- `decode_error = 1` with a value to return. -/
def decodeFails {α : Type} (value : α) : Alac α :=
  fun r => ⟨value, { r with decodeError := true }, []⟩

/-- `decode_error`. -/
def decodeError : Alac Bool := fun r => ⟨r.decodeError, r, []⟩

/-- The shifts of the loop of `readbits_16`, two for each bit. -/
def bitShifts (offset count : ℕ) : List Arithmetic :=
  (List.range count).flatMap fun i => [.shift 1, .shift (7 - ((offset + i) % 8 : ℕ))]

/-- `readbits_16`. Its loop is that of `audio_pipeline_read_bits`. -/
def readbits16 (bits : ℤ) : Alac UInt32 := fun r =>
  if bits < 0 ∨ bits > 16 ∨ r.decodeError = true ∨
      8 * r.input.length < r.offset + bits.toNat then decodeFails 0 r
  else
    ⟨readBitsLoop r.input bits.toNat r.offset 0, { r with offset := r.offset + bits.toNat },
      bitShifts r.offset bits.toNat⟩

/-- `readbits`. -/
def readbits (bits : ℤ) : Alac UInt32 :=
  if bits < 0 ∨ bits > 32 then decodeFails 0
  else if bits > 16 then do
    let high ← readbits16 16
    record [.shift (bits - 16)]
    let low ← readbits16 (bits - 16)
    return high <<< UInt32.ofInt (bits - 16) ||| low
  else readbits16 bits

/-- `unreadbits`. -/
def unreadbits (bits : ℤ) : Alac PUnit := fun r =>
  if bits < 0 ∨ bits > r.offset then decodeFails ⟨⟩ r
  else ⟨⟨⟩, { r with offset := r.offset - bits.toNat }, []⟩

/-- A field of `bits` bits, read `count` times into a buffer. -/
def readFields (bits : ℤ) : ℕ → Alac PUnit
  | 0 => pure ⟨⟩
  | count + 1 => do
      let _ ← readbits bits
      readFields bits count

/-! ## Rice decoding -/

/-- `count_leading_zeros`. -/
def countLeadingZeros (input : ℤ) : ℤ :=
  if input = 0 then 32 else 31 - Nat.log2 (input % 2 ^ 32).toNat

/-- `RICE_THRESHOLD`. -/
def riceThreshold : ℕ := 8

/-- The loop of `entropy_decode_value` over the ones of the prefix. -/
def ricePrefix : ℕ → ℤ → Alac ℤ
  | 0, x => pure x
  | fuel + 1, x =>
      if x ≤ riceThreshold then do
        let bit ← readbits16 1
        if bit ≠ 0 then ricePrefix fuel (x + 1) else pure x
      else pure x

/-- The branch of `entropy_decode_value` behind a prefix above the threshold. -/
def rawValue (readSampleSize : ℤ) : Alac ℤ := do
  let value ← readbits readSampleSize
  record [.shift (32 - readSampleSize)]
  return (value &&& 0xffffffff >>> UInt32.ofInt (32 - readSampleSize)).toInt32.toInt

/-- `value & mask` on the bits of an `int`. -/
def maskInt (value : ℤ) (mask : UInt32) : ℤ := (UInt32.ofInt value &&& mask).toInt32.toInt

/-- The branch of `entropy_decode_value` for a prefix of `x` ones and another `k` than 1. -/
def scaledValue (x k : ℤ) (riceKmodifierMask : UInt32) : Alac ℤ := do
  let extraBits ← readbits k
  let scaled := x * maskInt (2 ^ k.toNat - 1) riceKmodifierMask
  record [.shift k, .result (2 ^ k.toNat), .result (2 ^ k.toNat - 1), .result scaled]
  if extraBits.toInt32.toInt > 1 then do
    let value := scaled + (extraBits.toInt32.toInt - 1)
    record [.result value]
    return value
  else do
    unreadbits 1
    return scaled

/-- `entropy_decode_value`. -/
def entropyDecodeValue (readSampleSize k : ℤ) (riceKmodifierMask : UInt32) : Alac ℤ := do
  let x ← ricePrefix (riceThreshold + 1) 0
  if x > riceThreshold then rawValue readSampleSize
  else if k ≠ 1 then scaledValue x k riceKmodifierMask
  else pure x

/-- The arguments of `entropy_rice_decode`. -/
structure RiceCoding where
  outputSize : ℤ
  readSampleSize : ℤ
  initialhistory : ℤ
  kmodifier : ℤ
  historymult : ℤ
  kmodifierMask : UInt32

/-- The variables of `entropy_rice_decode`, with the samples written so far. -/
structure RiceState where
  outputCount : ℤ
  history : ℤ
  signModifier : ℤ
  output : List ℤ

/-- `k` of a sample. -/
def RiceCoding.sampleK (c : RiceCoding) (history : ℤ) : ℤ :=
  let k := 31 - c.kmodifier - countLeadingZeros ((history >>> (9 : ℕ)) + 3)
  if k < 0 then k + c.kmodifier else c.kmodifier

/-- `k` of a block of zeros. -/
def blockK (history : ℤ) : ℤ := countLeadingZeros history + (history + 16).tdiv 64 - 24

/-- The sample of a decoded value; the sign is stored in the low bit. -/
def finalValue (decodedValue : ℤ) : ℤ :=
  if decodedValue % 2 = 1 then -(decodedValue + 1).tdiv 2 else (decodedValue + 1).tdiv 2

/-- The history after a decoded value, before it is capped. -/
def RiceCoding.updatedHistory (c : RiceCoding) (history decodedValue : ℤ) : ℤ :=
  history + (decodedValue * c.historymult - (history * c.historymult) >>> (9 : ℕ))

/-- The arithmetic behind a decoded value. -/
def RiceCoding.updates (c : RiceCoding) (history decodedValue : ℤ) : List Arithmetic :=
  [.result decodedValue, .result (decodedValue + 1), .result (finalValue decodedValue),
    .history (decodedValue * c.historymult), .history (history * c.historymult), .shift 9,
    .history (decodedValue * c.historymult - (history * c.historymult) >>> (9 : ℕ)),
    .history (c.updatedHistory history decodedValue)]

/-- The special case of a small history: the length of a block of zeros; `none` for an
error. -/
def zeroBlock (c : RiceCoding) (outputCount history : ℤ) : Alac (Option ℤ) := do
  record [.result (history + 16), .result (blockK history)]
  let blockSize ← entropyDecodeValue 16 (blockK history) c.kmodifierMask
  let failed ← decodeError
  if failed = true ∨ blockSize < 0 ∨ blockSize > c.outputSize - outputCount - 1 then
    decodeFails none
  else pure (some blockSize)

/-- What follows a decoded value in an iteration; `false` where the function returns. -/
def riceUpdate (c : RiceCoding) (s : RiceState) (value : ℤ) : Alac (RiceState × Bool) := do
  let decodedValue := value + s.signModifier
  record (c.updates s.history decodedValue)
  let history := if decodedValue > 0xffff then 0xffff else c.updatedHistory s.history decodedValue
  let output := s.output ++ [finalValue decodedValue]
  if history < 128 ∧ s.outputCount + 1 < c.outputSize then do
    let block ← zeroBlock c s.outputCount history
    match block with
    | none => return (⟨s.outputCount, history, 1, output⟩, false)
    | some blockSize =>
        return (⟨s.outputCount + blockSize + 1, 0, if blockSize > 0xffff then 0 else 1,
          output ++ List.replicate blockSize.toNat 0⟩, true)
  else return (⟨s.outputCount + 1, history, 0, output⟩, true)

/-- One iteration of the loop of `entropy_rice_decode`. -/
def ricePass (c : RiceCoding) (s : RiceState) : Alac (RiceState × Bool) := do
  record [.shift 9, .result ((s.history >>> (9 : ℕ)) + 3), .result (c.sampleK s.history)]
  let value ← entropyDecodeValue c.readSampleSize (c.sampleK s.history) 0xffffffff
  let failed ← decodeError
  if failed = true then return (s, false)
  else riceUpdate c s value

/-- The loop of `entropy_rice_decode`. Each iteration writes a sample, so fuel for the size
of the output is enough (`riceLoop_fuel`). -/
def riceLoop (c : RiceCoding) : ℕ → RiceState → Alac RiceState
  | 0, s => pure s
  | fuel + 1, s =>
      if s.outputCount < c.outputSize then do
        let next ← ricePass c s
        if next.2 = true then riceLoop c fuel next.1 else pure next.1
      else pure s

/-- The length of a block of zeros is not negative. -/
theorem zeroBlock_size (c : RiceCoding) (outputCount history : ℤ) :
    Meets (fun _ => True) (zeroBlock c outputCount history) fun block =>
      ∀ size, block = some size → 0 ≤ size := by
  refine meets_true.bind fun _ _ => meets_true.bind fun size _ => ?_
  refine meets_true.bind fun _ _ => Meets.ite ?_ ?_
  · exact fun _ _ => ⟨fun _ _ => trivial, fun _ h => absurd h.symm (Option.some_ne_none _)⟩
  · intro haccepted
    apply meets_return
    intro size' h
    rw [← Option.some.inj h]
    omega

/-- An iteration after which the loop goes on has written a sample. -/
theorem ricePass_writes (c : RiceCoding) (s : RiceState) :
    Meets (fun _ => True) (ricePass c s) fun next =>
      next.2 = true → s.outputCount < next.1.outputCount := by
  refine meets_true.bind fun _ _ => meets_true.bind fun value _ => ?_
  refine meets_true.bind fun failed _ => Meets.ite ?_ ?_
  · exact fun _ => meets_return fun h => absurd h Bool.false_ne_true
  · intro _
    refine meets_true.bind fun _ _ => Meets.ite ?_ ?_
    · intro _
      refine (zeroBlock_size c s.outputCount _).bind fun block hsize => ?_
      cases block with
      | none => exact meets_return fun h => absurd h Bool.false_ne_true
      | some size =>
          have hpos := hsize size rfl
          exact meets_return fun _ => by dsimp only; omega
    · exact fun _ => meets_return fun _ => by dsimp only; omega

/-- **Fuel for the samples that are left is enough.** -/
theorem riceLoop_fuel {c : RiceCoding} {fuel fuel' : ℕ} {s : RiceState}
    (h : c.outputSize - s.outputCount ≤ fuel) (h' : c.outputSize - s.outputCount ≤ fuel') :
    riceLoop c fuel s = riceLoop c fuel' s := by
  induction fuel generalizing fuel' s with
  | zero =>
      cases fuel' with
      | zero => rfl
      | succ fuel' => rw [riceLoop, riceLoop, if_neg (by omega)]
  | succ fuel ih =>
      cases fuel' with
      | zero => rw [riceLoop, riceLoop, if_neg (by omega)]
      | succ fuel' =>
          rw [riceLoop, riceLoop]
          congr 1
          refine Meets.bind_congr (ricePass_writes c s) fun next hnext => ?_
          by_cases hgoes : next.2 = true
          · have hcount := hnext hgoes
            rw [if_pos hgoes, if_pos hgoes]
            exact ih (by omega) (by omega)
          · rw [if_neg hgoes, if_neg hgoes]

/-- `entropy_rice_decode`: the samples it writes. -/
def entropyRiceDecode (c : RiceCoding) : Alac (List ℤ) := do
  let s ← riceLoop c c.outputSize.toNat ⟨0, c.initialhistory, 0, []⟩
  return s.output

/-! ## The frame -/

/-- `alac_file`, the fields that `alac_create` and `alac_decoder_init` set and a frame reads. -/
structure AlacFile where
  samplesize : ℤ
  numchannels : ℤ
  bytespersample : ℤ
  maxSamplesPerFrame : ℤ
  sampleSize : ℤ
  riceHistorymult : ℤ
  riceInitialhistory : ℤ
  riceKmodifier : ℤ
  deriving DecidableEq, Repr

/-- What `decode_frame` leaves: `*outputsize`, and the samples that the Rice decoding of each
channel wrote. -/
structure AlacFrame where
  outputsize : ℤ
  residuals : List (List ℤ)
  deriving DecidableEq, Repr

/-- `set_output_size_checked`; `none` for -1, which leaves 0 in `*outputsize`. -/
def setOutputSizeChecked (a : AlacFile) (outputsamples outbufferAllocationSize : ℤ) : Option ℤ :=
  if outputsamples ≤ 0 ∨ outputsamples > a.maxSamplesPerFrame then none
  else
    let required := outputsamples * a.bytespersample
    if required ≤ 0 ∨ required > intMax ∨ required > outbufferAllocationSize then none
    else some required

/-- The call of `entropy_rice_decode` for a channel. -/
def riceDecodeChannel (a : AlacFile) (outputsamples readsamplesize ricemodifier : ℤ) :
    Alac (List ℤ) := do
  record [.result (ricemodifier * a.riceHistorymult), .shift a.riceKmodifier,
    .result (2 ^ a.riceKmodifier.toNat), .result (2 ^ a.riceKmodifier.toNat - 1)]
  entropyRiceDecode
    { outputSize := outputsamples
      readSampleSize := readsamplesize
      initialhistory := a.riceInitialhistory
      kmodifier := a.riceKmodifier
      historymult := (ricemodifier * a.riceHistorymult).tdiv 4
      kmodifierMask := UInt32.ofInt (2 ^ a.riceKmodifier.toNat - 1) }

/-- The prediction header of a channel: the Rice modifier; `none` for an error. -/
def readPrediction (outputsamples : ℤ) : Alac (Option ℤ) := do
  let predictionType ← readbits 4
  let predictionQuantitization ← readbits 4
  let ricemodifier ← readbits 3
  let predictorCoefNum ← readbits 5
  if predictionType ≠ 0 ∨ (predictorCoefNum ≠ 0 ∧ predictionQuantitization = 0) ∨
      (predictorCoefNum ≠ 31 ∧ (predictorCoefNum.toNat : ℤ) ≥ outputsamples) then decodeFails none
  else do
    readFields 16 predictorCoefNum.toNat
    return some ricemodifier.toNat

/-- The Rice decoding of the channels, one modifier for each. -/
def riceDecodeChannels (a : AlacFile) (outputsamples readsamplesize : ℤ) :
    List ℤ → Alac (List (List ℤ))
  | [] => pure []
  | modifier :: modifiers => do
      let residuals ← riceDecodeChannel a outputsamples readsamplesize modifier
      let rest ← riceDecodeChannels a outputsamples readsamplesize modifiers
      return residuals :: rest

/-- The part of the compressed case behind the prediction headers. -/
def decodeResiduals (a : AlacFile) (outputsize outputsamples readsamplesize uncompressedBytes : ℤ)
    (modifiers : List ℤ) : Alac AlacFrame := do
  readFields (uncompressedBytes * 8)
    (if uncompressedBytes = 0 then 0 else modifiers.length * outputsamples.toNat)
  let residuals ← riceDecodeChannels a outputsamples readsamplesize modifiers
  return ⟨outputsize, residuals⟩

/-- The compressed case; `channels` is 0 for one channel and 1 for two. -/
def decodeCompressed (a : AlacFile) (channels outputsize outputsamples readsamplesize
    uncompressedBytes : ℤ) : Alac AlacFrame := do
  let interlacingShift ← readbits 8
  let _ ← readbits 8
  -- one channel skips the two bytes of the interlacing
  if channels = 1 ∧ interlacingShift.toUInt8 > 31 then decodeFails ⟨outputsize, []⟩
  else do
    let modifierA ← readPrediction outputsamples
    match modifierA with
    | none => return ⟨outputsize, []⟩
    | some modifierA =>
        if channels = 0 then
          decodeResiduals a outputsize outputsamples readsamplesize uncompressedBytes [modifierA]
        else do
          let modifierB ← readPrediction outputsamples
          match modifierB with
          | none => return ⟨outputsize, []⟩
          | some modifierB =>
              decodeResiduals a outputsize outputsamples readsamplesize uncompressedBytes
                [modifierA, modifierB]

/-- The two cases of a frame, once the number of samples is known. -/
def decodeSamples (a : AlacFile) (channels outputsize outputsamples uncompressedBytes : ℤ)
    (isnotcompressed : Bool) : Alac AlacFrame := do
  let readsamplesize := a.sampleSize - uncompressedBytes * 8 + channels
  if readsamplesize ≤ 0 ∨ readsamplesize > 32 then decodeFails ⟨outputsize, []⟩
  else if isnotcompressed then do
    -- the case of more than 16 bits is not reached: other sample sizes are refused
    readFields a.sampleSize (outputsamples * (channels + 1)).toNat
    return ⟨outputsize, []⟩
  else decodeCompressed a channels outputsize outputsamples readsamplesize uncompressedBytes

/-- The header of a frame behind the number of channels. -/
def decodeChannels (a : AlacFile) (channels outbufferAllocationSize outputsize : ℤ) :
    Alac AlacFrame := do
  -- 16 bits of unknown meaning, which are skipped
  let _ ← readbits 4
  let _ ← readbits 12
  let hassize ← readbits 1
  let uncompressedBytes ← readbits 2
  let isnotcompressed ← readbits 1
  if hassize ≠ 0 then do
    let samples ← readbits 32
    let outputsamples := samples.toInt32.toInt
    -- the frame gives its own number of samples
    match setOutputSizeChecked a outputsamples outbufferAllocationSize with
    | none => return ⟨0, []⟩
    | some outputsize =>
        decodeSamples a channels outputsize outputsamples uncompressedBytes.toNat
          (isnotcompressed ≠ 0)
  else
    decodeSamples a channels outputsize a.maxSamplesPerFrame uncompressedBytes.toNat
      (isnotcompressed ≠ 0)

/-- `decode_frame` with `*outputsize` as it comes in. -/
def decodeFrame (a : AlacFile) (outputsize : ℤ) : Alac AlacFrame := do
  let channels ← readbits 3
  if channels > 1 ∨ (channels.toNat : ℤ) + 1 ≠ a.numchannels then decodeFails ⟨outputsize, []⟩
  else
    match setOutputSizeChecked a a.maxSamplesPerFrame outputsize with
    | none => return ⟨0, []⟩
    | some size => decodeChannels a channels.toNat outputsize size

/-- `alac_decode_frame`: the frame, and the arithmetic on the way to it. -/
def alacDecodeFrame (a : AlacFile) (input : List UInt8) (outputsize : ℤ) :
    AlacFrame × List Arithmetic :=
  if input = [] ∨ a.samplesize ≠ 16 then (⟨0, []⟩, [])
  else
    let r := decodeFrame a outputsize ⟨input, 0, false⟩
    (if r.state.decodeError then { r.value with outputsize := 0 } else r.value, r.log)

theorem alacDecodeFrame_arithmetic {a : AlacFile} {input : List UInt8} (hinput : input ≠ [])
    (hsize : a.samplesize = 16) (outputsize : ℤ) :
    (alacDecodeFrame a input outputsize).2 = (decodeFrame a outputsize ⟨input, 0, false⟩).log := by
  rw [alacDecodeFrame, if_neg]
  rintro (hempty | hother)
  · exact hinput hempty
  · exact hother hsize

/-! ## The adapter -/

/-- Parameter `i` of the `fmtp` line as a byte. -/
def AlacDecoder.fmtpByte (decoder : AlacDecoder) (i : ℕ) (byDefault : UInt8) : UInt8 :=
  match decoder.fmtp[i]? with
  | some value => value.toUInt8
  | none => byDefault

/-- The context that `alac_decoder_init` sets up. -/
def AlacDecoder.alacFile (decoder : AlacDecoder) : AlacFile where
  samplesize := decoder.bitDepth.toNat
  numchannels := decoder.channels.toNat
  bytespersample := (decoder.bitDepth.toNat / 8 : ℕ) * decoder.channels.toNat
  maxSamplesPerFrame := decoder.frameLength.toNat
  sampleSize := decoder.bitDepth.toNat
  riceHistorymult := (decoder.fmtpByte 3 40).toNat
  riceInitialhistory := (decoder.fmtpByte 4 10).toNat
  riceKmodifier := (decoder.fmtpByte 5 14).toNat

/-- A call of `alac_decoder_decode_frame`: the samples over all channels (`none` for -1), the
residuals of each channel, and the arithmetic on the way to them. -/
structure AlacDecoding where
  outputSamples : Option ℕ
  residuals : List (List ℤ)
  arithmetic : List Arithmetic
  deriving DecidableEq, Repr

/-- `alac_decoder_decode_frame`. -/
def alacDecoderDecodeFrame (decoder : AlacDecoder) (input : List UInt8)
    (maxOutputSamples : UInt64) : AlacDecoding :=
  if decoder.impl = false ∨ input = [] ∨ maxOutputSamples = 0 then ⟨none, [], []⟩
  else
    let maxOutputBytes := min (maxOutputSamples * 2).toNat intMax
    let r := alacDecodeFrame decoder.alacFile input maxOutputBytes
    let samples := r.1.outputsize.toNat / 2
    if r.1.outputsize ≤ 0 ∨ samples > maxOutputSamples.toNat ∨ samples % decoder.channels.toNat ≠ 0 then
      ⟨none, r.1.residuals, r.2⟩
    else ⟨some samples, r.1.residuals, r.2⟩

theorem alacDecoderDecodeFrame_arithmetic {decoder : AlacDecoder} {input : List UInt8}
    {maxOutputSamples : UInt64} (himpl : decoder.impl = true) (hinput : input ≠ [])
    (hmax : maxOutputSamples ≠ 0) :
    (alacDecoderDecodeFrame decoder input maxOutputSamples).arithmetic =
      (alacDecodeFrame decoder.alacFile input
        (min (maxOutputSamples * 2).toNat intMax : ℕ)).2 := by
  rw [alacDecoderDecodeFrame, if_neg]
  · dsimp only
    split
    · rfl
    · rfl
  · rintro (hclosed | hempty | hzero)
    · exact Bool.false_ne_true (hclosed.symm.trans himpl)
    · exact hinput hempty
    · exact hmax hzero

end PortableAirplay.Audio
