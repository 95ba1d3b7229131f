import PortableAirplay.Audio.AudioPipeline
import PortableAirplay.Library.Bits

/-!
# Decoding AAC packets

`aac_decoder_decode` of `codec/aac_decoder.c` and `audio_pipeline_decode_aac` of
`audio/audio_pipeline.c`, with the library behind them as a parameter: FDK-AAC, and
the cipher of mbedTLS. A run of the decoder keeps the units that were passed to it,
the last one also where it was refused.
-/

set_option autoImplicit false

namespace PortableAirplay.Audio

open PortableAirplay.Library
open PortableAirplay.Protocol

/-! ## Libraries -/

/-- What `aacDecoder_GetStreamInfo` tells. -/
structure StreamInfo where
  numChannels : ℤ
  frameSize : ℤ
  deriving DecidableEq

/-- FDK-AAC with handles in the states `σ`: `aacDecoder_Fill` with its success,
`aacDecoder_DecodeFrame` with the samples it writes into a buffer of the given size
(`none` for an error), and `aacDecoder_GetStreamInfo`. -/
structure AacLibrary (σ : Type) where
  fill : σ → List UInt8 → σ × Bool
  decodeFrame : σ → ℕ → σ × Option (ℕ → Int16)
  streamInfo : σ → Option StreamInfo

/-- AES-128-CBC decryption with a key and an IV; `none` for an error. -/
structure AesCbc where
  decrypt : List UInt8 → List UInt8 → List UInt8 → Option (List UInt8)

/-- The plaintext is as long as the ciphertext. -/
def AesCbc.KeepsLength (aes : AesCbc) : Prop :=
  ∀ key iv input output, aes.decrypt key iv input = some output → output.length = input.length

/-- `crypto_aes_decrypt`; the IV is that of the context for each packet. -/
def cryptoAesDecrypt (aes : AesCbc) (context : AesContext) (input : List UInt8) :
    Option (List UInt8) :=
  if input.length % 16 ≠ 0 then none else aes.decrypt context.key context.iv input

/-! ## One access unit -/

section Decoder

variable {σ : Type} (lib : AacLibrary σ)

/-- `aac_decoder_decode`: the state of the handle, and the samples of the unit. -/
def aacDecoderDecode (decoder : AacDecoder) (s : σ) (input : List UInt8) (capacity : ℕ) :
    σ × Option (List Int16) :=
  if decoder.impl = false ∨ input = [] ∨ capacity > intMax then (s, none)
  else
    let filled := lib.fill s input
    if filled.2 = false then (filled.1, none)
    else
      let decoded := lib.decodeFrame filled.1 capacity
      match decoded.2, lib.streamInfo decoded.1 with
      | some pcm, some info =>
          -- the stream tells the size of a frame in samples per channel
          let samples := info.frameSize.toNat * info.numChannels.toNat
          if info.numChannels ≤ 0 ∨ info.numChannels > 2 ∨
              info.numChannels ≠ decoder.channels.toNat ∨ info.frameSize ≤ 0 ∨
              samples > capacity then (decoded.1, none)
          else (decoded.1, some ((List.range samples).map pcm))
      | _, _ => (decoded.1, none)

/-- A unit that is decoded has a byte, and gives a sample and no more than fit. -/
theorem aacDecoderDecode_some {decoder : AacDecoder} {s : σ} {input : List UInt8} {capacity : ℕ}
    {samples : List Int16} (h : (aacDecoderDecode lib decoder s input capacity).2 = some samples) :
    input ≠ [] ∧ 0 < samples.length ∧ samples.length ≤ capacity := by
  rw [aacDecoderDecode] at h
  by_cases hrefused : decoder.impl = false ∨ input = [] ∨ capacity > intMax
  · rw [if_pos hrefused] at h
    contradiction
  · rw [if_neg hrefused] at h
    have hinput : input ≠ [] := fun hempty => hrefused (.inr (.inl hempty))
    dsimp only at h
    split at h
    · contradiction
    · split at h
      · split at h
        · contradiction
        · rename_i info _ _ hbounds
          have hsamples := Option.some.inj h
          have hlength : samples.length = info.frameSize.toNat * info.numChannels.toNat := by
            rw [← hsamples, List.length_map, List.length_range]
          have hpos : 0 < info.frameSize.toNat * info.numChannels.toNat :=
            Nat.mul_pos (by omega) (by omega)
          exact ⟨hinput, by omega, by omega⟩
      · contradiction

end Decoder

/-! ## Reading bits -/

/-- The loop of `audio_pipeline_read_bits`. -/
def readBitsLoop (data : List UInt8) : ℕ → ℕ → UInt32 → UInt32
  | 0, _, result => result
  | count + 1, bitOffset, result =>
      readBitsLoop data count (bitOffset + 1)
        (result <<< 1 |||
          (byteAt data (bitOffset / 8)).toUInt32 >>> UInt32.ofNat (7 - bitOffset % 8) &&& 1)

/-- `audio_pipeline_read_bits`: the value and the bit after it; `none` for -1. -/
def audioPipelineReadBits (data : List UInt8) (bitLength bitOffset count : ℕ) :
    Option (UInt32 × ℕ) :=
  if count > 24 ∨ bitOffset > bitLength ∨ count > bitLength - bitOffset then none
  else some (readBitsLoop data count bitOffset 0, bitOffset + count)

/-! ## The packet -/

/-- A run of the decoder over a packet: the state of the handle, the units passed to
`aac_decoder_decode`, and the samples (`none` for -1). -/
structure AacRun (σ : Type) where
  handle : σ
  units : List (List UInt8)
  result : Option (List Int16)

/-- The run with one more unit in front. -/
def AacRun.after {σ : Type} (unit : List UInt8) (run : AacRun σ) : AacRun σ :=
  { run with units := unit :: run.units }

/-- The end of `audio_pipeline_decode_aac`: there are samples, and no bytes are left. -/
def finishPacket (frames : List UInt8) (output : List Int16) : Option (List Int16) :=
  if frames ≠ [] ∨ output = [] then none else some output

section Packet

variable {σ : Type} (lib : AacLibrary σ) (p : AudioPipeline)

/-- The loop of `audio_pipeline_decode_aac` over the headers; `frames` are the bytes
from `frame_offset` on. Each pass takes a byte of them or is the last one, so fuel
above their number is enough (`decodeUnits_fuel`). -/
def decodeUnits (headers : List UInt8) (headerBits : ℕ) :
    ℕ → σ → ℕ → List UInt8 → List Int16 → AacRun σ
  | 0, s, _, _, _ => ⟨s, [], none⟩
  | fuel + 1, s, bitOffset, frames, output =>
      -- all headers are read
      if bitOffset ≥ headerBits then ⟨s, [], finishPacket frames output⟩
      else
        match audioPipelineReadBits headers headerBits bitOffset
            p.session.aacSizeLength.toNat with
        | none => ⟨s, [], none⟩
        | some (frameSize, bitOffset) =>
            match audioPipelineReadBits headers headerBits bitOffset
                p.session.aacIndexLength.toNat with
            | none => ⟨s, [], none⟩
            | some (_, bitOffset) =>
                -- a size past the payload, or a buffer that is full
                if frameSize.toNat > frames.length ∨ output.length ≥ maxAudioBufferSamples then
                  ⟨s, [], none⟩
                else
                  let unit := frames.take frameSize.toNat
                  let r := aacDecoderDecode lib p.aacDecoder s unit
                    (maxAudioBufferSamples - output.length)
                  match r.2 with
                  | none => ⟨r.1, [unit], none⟩
                  | some decoded =>
                      -- the index delta stands only before a further header
                      let next :=
                        if bitOffset < headerBits then
                          (audioPipelineReadBits headers headerBits bitOffset
                            p.session.aacIndexDeltaLength.toNat).map Prod.snd
                        else some bitOffset
                      match next with
                      | none => ⟨r.1, [unit], none⟩
                      | some bitOffset =>
                          (decodeUnits headers headerBits fuel r.1 bitOffset
                            (frames.drop frameSize.toNat) (output ++ decoded)).after unit

/-- **Fuel above the number of bytes is enough**: a unit that is decoded has a byte. -/
theorem decodeUnits_fuel {headers : List UInt8} {headerBits fuel fuel' : ℕ} {s : σ}
    {bitOffset : ℕ} {frames : List UInt8} {output : List Int16} (h : frames.length < fuel)
    (h' : frames.length < fuel') :
    decodeUnits lib p headers headerBits fuel s bitOffset frames output =
      decodeUnits lib p headers headerBits fuel' s bitOffset frames output := by
  induction fuel generalizing fuel' s bitOffset frames output with
  | zero => omega
  | succ fuel ih =>
      obtain ⟨fuel', rfl⟩ : ∃ n, fuel' = n + 1 := ⟨fuel' - 1, by omega⟩
      rw [decodeUnits, decodeUnits]
      split
      · rfl
      · split
        · rfl
        · split
          · rfl
          · split
            · rfl
            · dsimp only
              split
              · rfl
              · rename_i hdecoded
                have hunit := (aacDecoderDecode_some lib hdecoded).1
                have hlength := List.length_pos_iff.mpr hunit
                rw [List.length_take] at hlength
                split
                · rfl
                · rw [ih]
                  · rw [List.length_drop]
                    omega
                  · rw [List.length_drop]
                    omega

/-- The packet after decryption: of an encrypted session all blocks of 16 bytes are
decrypted, and the rest is as it was sent. -/
def aacInput (aes : AesCbc) (payload : List UInt8) : Option (List UInt8) :=
  if p.session.hasEncryption = false then some payload
  else
    let encryptedLen := payload.length / 16 * 16
    if payload.length > rtpBufferSize then none
    else
      (cryptoAesDecrypt aes p.aesContext (payload.take encryptedLen)).map
        (· ++ payload.drop encryptedLen)

/-- The part of `audio_pipeline_decode_aac` behind the decryption. -/
def decodeAacInput (s : σ) (input : List UInt8) : AacRun σ :=
  let headerBits := (byteAt input 0).toNat * 256 + (byteAt input 1).toNat
  let headerBytes := (headerBits + 7) / 8
  if headerBits = 0 ∨ headerBytes > input.length - 2 then ⟨s, [], none⟩
  else
    let headers := input.drop 2
    let frames := headers.drop headerBytes
    decodeUnits lib p headers headerBits (frames.length + 1) s 0 frames []

/-- `audio_pipeline_decode_aac` with the handle in the state `s`. -/
def audioPipelineDecodeAac (aes : AesCbc) (s : σ) (payload : List UInt8) : AacRun σ :=
  if payload.length < 2 ∨ p.aacDecoder.impl = false then ⟨s, [], none⟩
  else if p.session.streamType ≠ 0 then
    let r := aacDecoderDecode lib p.aacDecoder s payload maxAudioBufferSamples
    ⟨r.1, [payload], r.2⟩
  else
    match aacInput p aes payload with
    | none => ⟨s, [], none⟩
    | some input => decodeAacInput lib p s input

end Packet

end PortableAirplay.Audio
