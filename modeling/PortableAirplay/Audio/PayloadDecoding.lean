import PortableAirplay.Audio.AacDecoding
import PortableAirplay.Audio.AlacLossless
import PortableAirplay.Audio.PipelineRun

/-!
# Decoding the payload of a packet

`audio_pipeline_decode_alac` and `audio_pipeline_decode_pcm` of `audio/audio_pipeline.c`, and the
choice of the decoder in `audio_pipeline_decode_packet`. What goes in is what a sender of the
session made of a frame of samples: coded, and sealed where the session asks for it.

`decodePayload_sealed` is the result: on a configured pipeline, the payload of a frame that fits
the session is decoded to the samples of that frame.
-/

set_option autoImplicit false

namespace PortableAirplay.Audio

open PortableAirplay.Airplay
open PortableAirplay.Library
open PortableAirplay.Protocol
open PortableAirplay.Sync

/-! ## The decoders -/

section Decoding

variable (aes : AesCbc) (p : AudioPipeline)

/-- The payload in the clear, as ALAC and PCM packets are read: of an encrypted session the full
blocks are decrypted, and the rest is as it was sent. -/
def decryptPayload (payload : List UInt8) : Option (List UInt8) :=
  if p.session.hasEncryption = true ∧ payload.length ≥ 16 then
    let encryptedLen := payload.length / 16 * 16
    if payload.length > rtpBufferSize then none
    else
      (cryptoAesDecrypt aes p.aesContext (payload.take encryptedLen)).map
        (· ++ payload.drop encryptedLen)
  else some payload

/-- `audio_pipeline_decode_alac`. -/
def audioPipelineDecodeAlac (payload : List UInt8) : Option (List Int16) :=
  match decryptPayload aes p payload with
  | none => none
  | some input =>
      if p.alacDecoder.frameLength > 0 then
        alacDecoderDecodeFrameOutput p.alacDecoder input (UInt64.ofNat maxAudioBufferSamples)
      else none

/-- The loop of `audio_pipeline_decode_pcm`: the first samples of the payload. -/
def pcmSamples (input : List UInt8) (sampleCount : ℕ) : List Int16 :=
  (List.range sampleCount).map fun i => (read16 input (i * 2)).toInt16

/-- `audio_pipeline_decode_pcm`. -/
def audioPipelineDecodePcm (payload : List UInt8) : Option (List Int16) :=
  if p.session.channels = 0 ∨ payload.length % (2 * p.session.channels.toNat) ≠ 0 then none
  else
    (decryptPayload aes p payload).map
      (pcmSamples · (min (payload.length / 2) maxAudioBufferSamples))

/-- The decoder that `audio_pipeline_decode_packet` takes, with the AAC handle in the state `s`:
the state of the handle afterwards, and the samples. -/
def decodePayload {σ : Type} (lib : AacLibrary σ) (s : σ) (payload : List UInt8) :
    σ × DecodeOutcome :=
  match p.session.codec with
  | .alac => (s, audioPipelineDecodeAlac aes p payload)
  | .pcm => (s, audioPipelineDecodePcm aes p payload)
  | .aac =>
      let run := audioPipelineDecodeAac lib p aes s payload
      (run.handle, run.result)
  | .unknown => (s, none)

end Decoding

/-! ## The sender -/

/-- A sender whose encryption is undone by the cipher, and keeps the length. -/
structure AesCbc.Sender (aes : AesCbc) where
  encrypt : List UInt8 → List UInt8 → List UInt8 → List UInt8
  length_encrypt : ∀ key iv input, (encrypt key iv input).length = input.length
  decrypt_encrypt : ∀ key iv input, input.length % 16 = 0 →
    aes.decrypt key iv (encrypt key iv input) = some input

/-- The payload as the sender of the session seals it. -/
def AudioPipeline.sealPayload (p : AudioPipeline) {aes : AesCbc} (sender : aes.Sender)
    (payload : List UInt8) : List UInt8 :=
  if p.session.hasEncryption = true ∧ payload.length ≥ 16 then
    let encryptedLen := payload.length / 16 * 16
    sender.encrypt p.aesContext.key p.aesContext.iv (payload.take encryptedLen) ++
      payload.drop encryptedLen
  else payload

section Sealing

variable {aes : AesCbc} (sender : aes.Sender) (p : AudioPipeline)

theorem sealPayload_length (payload : List UInt8) :
    (p.sealPayload sender payload).length = payload.length := by
  rw [AudioPipeline.sealPayload]
  split
  · rw [List.length_append, sender.length_encrypt, List.length_take, List.length_drop]
    omega
  · rfl

/-- **What the sender seals is decrypted.** -/
theorem decryptPayload_sealPayload {payload : List UInt8} (h : payload.length ≤ rtpBufferSize) :
    decryptPayload aes p (p.sealPayload sender payload) = some payload := by
  have hlength := sealPayload_length sender p payload
  rw [decryptPayload, hlength]
  split
  · rename_i hsealed
    have hblocks : (payload.take (payload.length / 16 * 16)).length =
        payload.length / 16 * 16 := by
      rw [List.length_take]
      omega
    have hcipher := sender.length_encrypt p.aesContext.key p.aesContext.iv
      (payload.take (payload.length / 16 * 16))
    rw [hblocks] at hcipher
    have hwhole : (payload.take (payload.length / 16 * 16)).length % 16 = 0 := by
      rw [hblocks]
      omega
    have hopened := sender.decrypt_encrypt p.aesContext.key p.aesContext.iv _ hwhole
    dsimp only
    rw [if_neg (by omega), AudioPipeline.sealPayload, if_pos hsealed]
    dsimp only
    -- the blocks come back, and the rest was never sealed
    rw [List.take_left' hcipher, List.drop_left' hcipher, cryptoAesDecrypt, hcipher,
      if_neg (by omega), hopened, Option.map_some, List.take_append_drop]
  · rename_i hclear
    rw [AudioPipeline.sealPayload, if_neg hclear]

end Sealing

/-! ## Frames -/

/-- The bytes of a PCM payload, in network order. -/
def pcmBytes (samples : List Int16) : List UInt8 :=
  samples.flatMap fun x => beBytes 2 x.toUInt16.toNat

theorem pcmBytes_length (samples : List Int16) :
    (pcmBytes samples).length = 2 * samples.length := by
  induction samples with
  | nil => rfl
  | cons x samples ih =>
      rw [pcmBytes] at ih ⊢
      rw [List.flatMap_cons, List.length_append, beBytes_length, ih, List.length_cons]
      omega

/-- A sample is read back at its place, behind any bytes. -/
theorem pcmSamples_behind (front : List Int16) (samples : List Int16) :
    (List.range samples.length).map (fun i =>
      (read16 (pcmBytes (front ++ samples)) ((front.length + i) * 2)).toInt16) = samples := by
  induction samples generalizing front with
  | nil => rfl
  | cons x samples ih =>
      have hfront : (pcmBytes front).length = (front.length + 0) * 2 := by
        rw [pcmBytes_length]
        omega
      have hfirst : read16 (pcmBytes (front ++ x :: samples)) ((front.length + 0) * 2) =
          x.toUInt16 := by
        have hsplit : pcmBytes (front ++ x :: samples) =
            pcmBytes front ++ (beBytes 2 x.toUInt16.toNat ++ pcmBytes samples) := by
          rw [pcmBytes, pcmBytes, pcmBytes, List.flatMap_append, List.flatMap_cons]
        rw [hsplit]
        exact read16_beBytes hfront x.toUInt16 _
      have hrest := ih (front ++ [x])
      rw [List.append_assoc, List.singleton_append, List.length_append] at hrest
      rw [List.length_cons, List.range_succ_eq_map, List.map_cons, List.map_map, hfirst,
        Int16.toInt16_toUInt16]
      refine congrArg (x :: ·) (Eq.trans (List.map_congr_left fun i _ => ?_) hrest)
      rw [Function.comp_apply, List.length_singleton, Nat.succ_eq_one_add, Nat.add_assoc]

/-- **PCM samples are read back.** -/
theorem pcmSamples_pcmBytes (samples : List Int16) :
    pcmSamples (pcmBytes samples) samples.length = samples := by
  have h := pcmSamples_behind [] samples
  simp only [List.nil_append, List.length_nil, Nat.zero_add] at h
  exact h

/-- A frame of samples, and how the sender codes it. -/
inductive AudioFrame where
  | alac (coding : FrameCoding) (sound : AlacPcm)
  | pcm (samples : List Int16)

namespace AudioFrame

/-- The samples in the order of the output. -/
def samples : AudioFrame → List Int16
  | alac _ sound => sound.interleaved
  | pcm samples => samples

/-- The coded frame. -/
def coded (p : AudioPipeline) : AudioFrame → List UInt8
  | alac coding sound => encodePacket p.alacDecoder.alacFile coding sound
  | pcm samples => pcmBytes samples

/-- The payload that is sent. -/
def payload (p : AudioPipeline) {aes : AesCbc} (sender : aes.Sender) (frame : AudioFrame) :
    List UInt8 :=
  p.sealPayload sender (frame.coded p)

/-- The frame is one of the session: of its codec and its channels, not empty, not longer than was
negotiated, and in a payload that fits a datagram. The modifier of `k` is one for which every value
has a code and the shifts are defined, and the products of the history fit `int`. -/
def Fits (p : AudioPipeline) : AudioFrame → Prop
  | alac coding sound => p.session.codec = .alac ∧ sound.channels + 1 = p.session.channels.toNat ∧
      0 < sound.length ∧ sound.length ≤ p.session.framesPerPacket.toNat ∧
      coding.Valid sound.length ∧
      (1 ≤ (p.alacDecoder.fmtpByte 5 14).toNat ∧ (p.alacDecoder.fmtpByte 5 14).toNat ≤ 30) ∧
      coding.HistoryFits p.alacDecoder.alacFile sound.length ∧
      (encodePacket p.alacDecoder.alacFile coding sound).length ≤ rtpBufferSize
  | pcm samples => p.session.codec = .pcm ∧ samples ≠ [] ∧
      samples.length % p.session.channels.toNat = 0 ∧ samples.length ≤ maxAudioBufferSamples

instance (p : AudioPipeline) : ∀ frame : AudioFrame, Decidable (frame.Fits p)
  | alac _ _ => inferInstanceAs (Decidable (_ ∧ _ ∧ _ ∧ _ ∧ _ ∧ (_ ∧ _) ∧ _ ∧ _))
  | pcm _ => inferInstanceAs (Decidable (_ ∧ _ ∧ _ ∧ _))

/-- A frame that fits has samples. -/
theorem Fits.samples_ne_nil {p : AudioPipeline} {frame : AudioFrame} (h : frame.Fits p) :
    frame.samples ≠ [] := by
  cases frame with
  | pcm samples => exact h.2.1
  | alac coding sound =>
      have hpos := h.2.2.1
      cases sound with
      | mono samples => exact List.length_pos_iff.mp hpos
      | stereo samples =>
          obtain ⟨pair, rest, rfl⟩ := List.exists_cons_of_length_pos hpos
          exact List.cons_ne_nil _ _

end AudioFrame

/-! ## Configured pipelines -/

/-- The pipeline is set up for the codec of its session. -/
structure AudioPipeline.ReadyToDecode (p : AudioPipeline) : Prop where
  channels : p.session.channels ≠ 0
  size : p.session.framesPerPacket.toNat * p.session.channels.toNat ≤ maxAudioBufferSamples
  alac : p.session.codec = .alac → ∃ c, p.alacDecoder.Accepted c ∧
    p.session.channels.toNat = c + 1 ∧
    p.alacDecoder.frameLength = p.session.framesPerPacket

/-- The decoder of a session that was accepted. -/
theorem alacDecoderInit_session {used used' : ℕ} {session : SdpSession} {decoder : AlacDecoder}
    (haccepts : acceptsSession session = true)
    (hinit : alacDecoderInit used (session.alacFmtp.take session.alacFmtpCount)
      session.framesPerPacket session.bitsPerSample.toUInt8 session.channels.toUInt8
      session.sampleRate = (decoder, used', true)) :
    ∃ c, decoder.Accepted c ∧ session.channels.toNat = c + 1 ∧
      decoder.frameLength = session.framesPerPacket := by
  obtain ⟨-, hchannels, htwo, hbits, hframes, -⟩ := (acceptsSession_iff session).mp haccepts
  have hdecoder : decoder = { alacDecoderSetup (session.alacFmtp.take session.alacFmtpCount)
      session.framesPerPacket session.bitsPerSample.toUInt8 session.channels.toUInt8
      session.sampleRate with impl := true } := by
    rw [alacDecoderInit] at hinit
    dsimp only at hinit
    split at hinit
    · exact absurd (congrArg (fun r => r.2.2) hinit) Bool.false_ne_true
    · split at hinit
      · exact absurd (congrArg (fun r => r.2.2) hinit) Bool.false_ne_true
      · exact (congrArg Prod.fst hinit).symm
  have hdepth : decoder.bitDepth = 16 := by
    rw [hdecoder, hbits]
    rfl
  obtain ⟨c, haccepted⟩ := alacDecoderInit_accepted hinit hdepth
  have hpositive : session.channels.toNat ≠ 0 := fun h => hchannels (UInt16.toNat_inj.mp h)
  have hsmall : session.channels.toNat ≤ 2 := UInt16.le_iff_toNat_le.mp htwo
  have hbyte : session.channels.toUInt8.toNat = session.channels.toNat := by
    rw [UInt16.toNat_toUInt8]
    omega
  have hkept : ¬ (session.channels.toUInt8 = 0 ∨ session.channels.toUInt8 > 2) := by
    rintro (hzero | hmany)
    · rw [hzero] at hbyte
      exact hpositive hbyte.symm
    · have hlarge : 2 < session.channels.toUInt8.toNat := UInt8.lt_iff_toNat_lt.mp hmany
      omega
  refine ⟨c, haccepted, ?_, ?_⟩
  · have hcount := haccepted.channels
    rw [hdecoder] at hcount
    dsimp only [alacDecoderSetup] at hcount
    rw [if_neg hkept, hbyte] at hcount
    exact hcount
  · rw [hdecoder]
    exact if_neg hframes

/-- **A pipeline that was configured is ready to decode.** -/
theorem audioPipelineConfigure_ready {io : ConfigureIo} {p : AudioPipeline} {session : SdpSession}
    (h : (audioPipelineConfigure io p session).2 = true) :
    (audioPipelineConfigure io p session).1.ReadyToDecode := by
  rw [audioPipelineConfigure] at h ⊢
  by_cases haccepts : acceptsSession session = false
  · rw [if_pos haccepts] at h
    exact absurd h Bool.false_ne_true
  rw [if_neg haccepts] at h ⊢
  rw [Bool.not_eq_false] at haccepts
  obtain ⟨-, hchannels, -, -, -, -, hsize⟩ := (acceptsSession_iff session).mp haccepts
  dsimp only at h ⊢
  generalize (if session.streamType = 0 then (p.ptp, true)
    else ptpSyncOpen p.ptp io.ptpSockets) = ptp at h ⊢
  split at h
  · exact absurd h Bool.false_ne_true
  rename_i hptp
  rw [if_neg hptp]
  split at h
  · rename_i hopen
    rw [hopen] at h
    exact absurd h Bool.false_ne_true
  rename_i hopen
  rw [if_neg hopen]
  rw [Bool.not_eq_false] at hopen
  split at h
  · rename_i hkey
    rw [hkey] at h
    exact absurd h Bool.false_ne_true
  rename_i hkey
  rw [if_neg hkey]
  -- the checks, the clock and the cipher change neither the decoder nor the session
  obtain ⟨hsession, -, -⟩ := (p.enter ptp.1 session).openDecoder_same io session
  obtain ⟨hsession', -, -, halac, -⟩ :=
    ((p.enter ptp.1 session).openDecoder io session).1.openCipher_same io session
  have hentered := hsession'.trans hsession
  refine ⟨?_, ?_, fun hcodec => ?_⟩
  · dsimp only
    rw [hentered]
    exact hchannels
  · dsimp only
    rw [hentered]
    exact hsize
  · dsimp only at hcodec ⊢
    rw [halac, hentered]
    rw [hentered] at hcodec
    rw [AudioPipeline.openDecoder, hcodec] at hopen ⊢
    have hopened := alacDecoderInit_session haccepts (Prod.ext rfl (Prod.ext rfl hopen))
    exact hopened

/-! ## Payloads -/

section Payloads

variable {aes : AesCbc} (sender : aes.Sender) {p : AudioPipeline} (hready : p.ReadyToDecode)

include hready

/-- An ALAC frame of the session. -/
theorem decodeAlac_sealed {coding : FrameCoding} {sound : AlacPcm}
    (h : (AudioFrame.alac coding sound).Fits p) :
    audioPipelineDecodeAlac aes p ((AudioFrame.alac coding sound).payload p sender) =
      some sound.interleaved := by
  obtain ⟨hcodec, hchannels, hpos, hlength, hcoding, hmodifier, hhistory, hsize⟩ := h
  obtain ⟨c, haccepted, hnum, hframes⟩ := hready.alac hcodec
  have hbuffer : (UInt64.ofNat maxAudioBufferSamples).toNat = maxAudioBufferSamples := rfl
  have hcapacity : p.alacDecoder.frameLength.toNat * p.alacDecoder.channels.toNat ≤
      (UInt64.ofNat maxAudioBufferSamples).toNat := by
    have hfits := hready.size
    rw [hnum] at hfits
    rw [hbuffer, haccepted.channels, hframes]
    exact hfits
  have hopen : p.alacDecoder.frameLength > 0 := UInt32.lt_iff_toNat_lt.mpr haccepted.frames_pos
  rw [audioPipelineDecodeAlac, AudioFrame.payload, AudioFrame.coded,
    decryptPayload_sealPayload sender p hsize]
  dsimp only
  rw [if_pos hopen]
  refine (haccepted.lossless hmodifier (by omega) hpos ?_ hcoding hhistory hcapacity ?_).1
  · rw [hframes]
    exact hlength
  · rw [hbuffer]
    decide

/-- A PCM frame of the session. -/
theorem decodePcm_sealed {samples : List Int16} (h : (AudioFrame.pcm samples).Fits p) :
    audioPipelineDecodePcm aes p ((AudioFrame.pcm samples).payload p sender) = some samples := by
  obtain ⟨-, -, hwhole, hsize⟩ := h
  have hbytes := pcmBytes_length samples
  have hbuffer : (pcmBytes samples).length ≤ rtpBufferSize := by
    have hlimit : 2 * maxAudioBufferSamples ≤ rtpBufferSize := by decide
    omega
  have hframes : (pcmBytes samples).length % (2 * p.session.channels.toNat) = 0 := by
    rw [hbytes, Nat.mul_mod_mul_left, hwhole]
  have hcount : min ((pcmBytes samples).length / 2) maxAudioBufferSamples = samples.length := by
    omega
  rw [audioPipelineDecodePcm, AudioFrame.payload, AudioFrame.coded, sealPayload_length,
    if_neg (by rintro (hzero | hpart); exacts [hready.channels hzero, hpart hframes]),
    decryptPayload_sealPayload sender p hbuffer, Option.map_some, hcount, pcmSamples_pcmBytes]

/-- **A frame of the session is decoded to its samples**, and the AAC handle is not touched. -/
theorem decodePayload_sealed {σ : Type} (lib : AacLibrary σ) (s : σ) {frame : AudioFrame}
    (h : frame.Fits p) :
    decodePayload aes p lib s (frame.payload p sender) = (s, some frame.samples) := by
  cases frame with
  | alac coding sound =>
      have hcodec := h.1
      rw [decodePayload, hcodec]
      exact congrArg (Prod.mk s) (decodeAlac_sealed sender hready h)
  | pcm samples =>
      have hcodec := h.1
      rw [decodePayload, hcodec]
      exact congrArg (Prod.mk s) (decodePcm_sealed sender hready h)

end Payloads

end PortableAirplay.Audio
