import PortableAirplay.Audio.AlacSamples
import PortableAirplay.Audio.RiceOverflow

/-!
# An encoder of ALAC packets

What a sender does, written from the format and not from the repository, which has no
encoder: the residuals of an adaptive predictor in an adaptive code of ones and remainders,
blocks of zeros as their length, and two channels as a difference and a weighted mean. The
choices of the sender are parameters.
-/

set_option autoImplicit false

namespace PortableAirplay.Audio

open PortableAirplay.Library

/-! ## Values -/

/-- The number of a residual, with the sign in its low bit. -/
def foldSign (residual : ℤ) : ℕ :=
  if 0 ≤ residual then (2 * residual).toNat else (-2 * residual - 1).toNat

/-- What each one of a prefix stands for. -/
def codeMultiplier (k : ℕ) (mask : UInt32) : ℕ :=
  if k = 1 then 1 else (maskInt (2 ^ k - 1) mask).toNat

/-- The code of a value: its quotient in ones, a zero, and the remainder in `k` bits, of which
a remainder of zero leaves out the last. From nine ones on, the value itself in `size` bits. -/
def encodeValue (size k : ℕ) (mask : UInt32) (value : ℕ) : List Bool :=
  let quotient := value / codeMultiplier k mask
  let remainder := value % codeMultiplier k mask
  if quotient ≤ riceThreshold then
    List.replicate quotient true ++ false ::
      (if remainder = 0 then natBits (k - 1) 0 else natBits k (remainder + 1))
  else List.replicate (riceThreshold + 1) true ++ natBits size value

/-! ## Channels -/

/-- The history behind a number. -/
def RiceCoding.nextHistory (c : RiceCoding) (history : ℤ) (number : ℕ) : ℤ :=
  if (number : ℤ) > 0xffff then 0xffff else c.updatedHistory history number

/-- The code of the residuals from a history on. Behind a block of zeros the next residual is
none, and its number is sent less one. -/
def riceEncodeLoop (c : RiceCoding) : ℕ → ℤ → ℕ → List ℤ → List Bool
  | 0, _, _, _ => []
  | _ + 1, _, _, [] => []
  | fuel + 1, history, signModifier, residual :: residuals =>
      let number := foldSign residual
      let next := c.nextHistory history number
      encodeValue c.readSampleSize.toNat (c.sampleK history).toNat 0xffffffff
          (number - signModifier) ++
        if next < 128 ∧ residuals ≠ [] then
          let zeros := residuals.takeWhile (· = 0)
          encodeValue 16 (blockK next).toNat c.kmodifierMask zeros.length ++
            riceEncodeLoop c fuel 0 1 (residuals.dropWhile (· = 0))
        else riceEncodeLoop c fuel next 0 residuals

/-- The code of the residuals of a channel. -/
def riceEncode (c : RiceCoding) (residuals : List ℤ) : List Bool :=
  riceEncodeLoop c residuals.length c.initialhistory 0 residuals

/-- The residual of a sample that is coded as a difference. -/
def deltaDifference (size : ℤ) (prev x : Int32) : Int32 := signExtended32 (x - prev) size

/-- The residual of a sample behind the warm-up. -/
def firDifference (size : ℤ) (quantitization : ℕ) (s : FirState) (x : Int32) : Int32 :=
  signExtended32 (x - s.prediction quantitization) size

/-- The residuals of the samples of a channel. -/
def predictorCompress (samples : List Int32) (size : ℤ) (coefTable : List Int16)
    (quantitization : ℕ) : List Int32 :=
  match samples with
  | [] => []
  | first :: rest =>
      let num := coefTable.length
      let delta := deltaPredictor size
      if num = 0 then first :: rest
      else if num = 31 then first :: delta.analyze (deltaDifference size) first rest
      else
        first :: delta.analyze (deltaDifference size) first (rest.take num) ++
          (firPredictor size quantitization).analyze (firDifference size quantitization)
            ⟨(first :: rest.take num).reverse, coefTable⟩ (rest.drop num)

/-- The weighted mean and the difference of two channels, or the channels themselves. -/
def interlacePair (shift leftweight : UInt8) (left right : Int16) : Int32 × Int32 :=
  if leftweight ≠ 0 then
    let difference := left.toInt32 - right.toInt32
    let weighted := (difference * Int32.ofNat leftweight.toNat) >>> Int32.ofNat shift.toNat
    (signExtended32 (right.toInt32 + weighted) 17, difference)
  else (left.toInt32, right.toInt32)

/-! ## Frames -/

/-- The samples of a frame. -/
inductive AlacPcm where
  | mono (samples : List Int16)
  | stereo (samples : List (Int16 × Int16))
  deriving DecidableEq, Repr

namespace AlacPcm

/-- The samples as they lie in the output buffer. -/
def interleaved : AlacPcm → List Int16
  | mono samples => samples
  | stereo samples => samples.flatMap fun pair => [pair.1, pair.2]

/-- The number of samples in a channel. -/
def length : AlacPcm → ℕ
  | mono samples => samples.length
  | stereo samples => samples.length

/-- The number of channels less one. -/
def channels : AlacPcm → ℕ
  | mono _ => 0
  | stereo _ => 1

end AlacPcm

/-- How a channel is coded. -/
structure ChannelCoding where
  quantitization : ℕ
  ricemodifier : ℕ
  coefTable : List Int16
  deriving DecidableEq

/-- What the header of a channel of `n` samples can say. -/
structure ChannelCoding.Valid (coding : ChannelCoding) (n : ℕ) : Prop where
  quantitization : coding.quantitization < 16
  ricemodifier : coding.ricemodifier < 8
  coefficients : coding.coefTable.length < n ∧ coding.coefTable.length < 32 ∨
    coding.coefTable.length = 31
  quantized : coding.coefTable ≠ [] → coding.quantitization ≠ 0

instance (coding : ChannelCoding) (n : ℕ) : Decidable (coding.Valid n) :=
  decidable_of_iff
    (coding.quantitization < 16 ∧ coding.ricemodifier < 8 ∧
      (coding.coefTable.length < n ∧ coding.coefTable.length < 32 ∨
        coding.coefTable.length = 31) ∧
      (coding.coefTable ≠ [] → coding.quantitization ≠ 0))
    ⟨fun h => ⟨h.1, h.2.1, h.2.2.1, h.2.2.2⟩,
      fun h => ⟨h.quantitization, h.ricemodifier, h.coefficients, h.quantized⟩⟩

/-- How a frame is coded. One channel has no use for the second coding and the weights. -/
inductive FrameCoding where
  | uncompressed
  | compressed (shift leftweight : UInt8) (codingA codingB : ChannelCoding)

/-- What the header of a frame of `n` samples can say. -/
def FrameCoding.Valid (n : ℕ) : FrameCoding → Prop
  | uncompressed => True
  | compressed shift _ codingA codingB => shift ≤ 31 ∧ codingA.Valid n ∧ codingB.Valid n

instance (n : ℕ) : ∀ coding : FrameCoding, Decidable (coding.Valid n)
  | .uncompressed => inferInstanceAs (Decidable True)
  | .compressed shift _ codingA codingB =>
      inferInstanceAs (Decidable (shift ≤ 31 ∧ codingA.Valid n ∧ codingB.Valid n))

/-- The arguments of `entropy_rice_decode` for a channel. -/
def AlacFile.riceCoding (a : AlacFile) (outputsamples readsamplesize ricemodifier : ℤ) :
    RiceCoding where
  outputSize := outputsamples
  readSampleSize := readsamplesize
  initialhistory := a.riceInitialhistory
  kmodifier := a.riceKmodifier
  historymult := (ricemodifier * a.riceHistorymult).tdiv 4
  kmodifierMask := UInt32.ofInt (2 ^ a.riceKmodifier.toNat - 1)

/-- The multiplier of the history of a channel. -/
def ChannelCoding.historymult (coding : ChannelCoding) (a : AlacFile) : ℕ :=
  coding.ricemodifier * a.riceHistorymult.toNat / 4

/-- The products of the history of a channel of `n` samples fit `int`, whatever the samples. -/
def ChannelCoding.HistoryFits (coding : ChannelCoding) (a : AlacFile) (n : ℕ) : Prop :=
  historyPeak (coding.historymult a) a.riceInitialhistory.toNat (n - 1) * coding.historymult a <
    2 ^ 31

instance (coding : ChannelCoding) (a : AlacFile) (n : ℕ) : Decidable (coding.HistoryFits a n) :=
  inferInstanceAs (Decidable (_ < _))

/-- The products of the histories of a frame fit `int`. -/
def FrameCoding.HistoryFits (a : AlacFile) (n : ℕ) : FrameCoding → Prop
  | uncompressed => True
  | compressed _ _ codingA codingB => codingA.HistoryFits a n ∧ codingB.HistoryFits a n

instance (a : AlacFile) (n : ℕ) : ∀ coding : FrameCoding, Decidable (coding.HistoryFits a n)
  | .uncompressed => inferInstanceAs (Decidable True)
  | .compressed _ _ codingA codingB =>
      inferInstanceAs (Decidable (codingA.HistoryFits a n ∧ codingB.HistoryFits a n))

/-- The header of a channel. -/
def ChannelCoding.fields (coding : ChannelCoding) : List (ℕ × ℕ) :=
  [(4, 0), (4, coding.quantitization), (3, coding.ricemodifier), (5, coding.coefTable.length)] ++
    coding.coefTable.map fun coef => (16, coef.toUInt16.toNat)

/-- The samples of a channel in its code. -/
def ChannelCoding.encode (coding : ChannelCoding) (a : AlacFile) (size : ℤ)
    (samples : List Int32) : List Bool :=
  riceEncode (a.riceCoding samples.length size coding.ricemodifier)
    ((predictorCompress samples size coding.coefTable coding.quantitization).map Int32.toInt)

/-- The fields of a frame that both cases have. -/
def headerFields (a : AlacFile) (pcm : AlacPcm) (isnotcompressed : Bool) : List (ℕ × ℕ) :=
  let hassize := decide ((pcm.length : ℤ) ≠ a.maxSamplesPerFrame)
  [(3, pcm.channels), (4, 0), (12, 0), (1, hassize.toNat), (2, 0), (1, isnotcompressed.toNat)] ++
    if hassize then [(32, pcm.length)] else []

/-- The samples of a frame that is not compressed. -/
def sampleFields (samples : List Int16) : List (ℕ × ℕ) :=
  samples.map fun sample => (16, sample.toUInt16.toNat)

/-- The end of a packet. -/
def endTag : List Bool := [true, true, true]

/-- The channels of a compressed frame, and the end of the packet. -/
def channelCode (a : AlacFile) (shift leftweight : UInt8) (codingA codingB : ChannelCoding) :
    AlacPcm → List Bool
  | .mono samples =>
      fieldBits codingA.fields (codingA.encode a 16 (samples.map Int16.toInt32) ++ endTag)
  | .stereo samples =>
      let pairs := samples.map fun pair => interlacePair shift leftweight pair.1 pair.2
      fieldBits codingA.fields
        (fieldBits codingB.fields
          (codingA.encode a 17 (pairs.map Prod.fst) ++
            (codingB.encode a 17 (pairs.map Prod.snd) ++ endTag)))

/-- The bits of a frame. -/
def frameCode (a : AlacFile) (pcm : AlacPcm) : FrameCoding → List Bool
  | .uncompressed =>
      fieldBits (headerFields a pcm true) (fieldBits (sampleFields pcm.interleaved) endTag)
  | .compressed shift leftweight codingA codingB =>
      fieldBits (headerFields a pcm false)
        (fieldBits [(8, shift.toNat), (8, leftweight.toNat)]
          (channelCode a shift leftweight codingA codingB pcm))

/-- The bytes of a packet. -/
def encodePacket (a : AlacFile) (coding : FrameCoding) (pcm : AlacPcm) : List UInt8 :=
  packBits (frameCode a pcm coding)

end PortableAirplay.Audio
