import PortableAirplay.Airplay.AirplayRtsp
import PortableAirplay.Audio.BufferedAudio
import PortableAirplay.Audio.Playout
import PortableAirplay.Protocol.RtpReceiver
import PortableAirplay.Sync.NtpSync

/-!
# The audio pipeline

The state of `audio/audio_pipeline.c` and the operations of its owner: configuring
a session, starting and stopping, the boundary of the playout queue, the transport
of the sender. The decoders are followed as far as the pipeline depends on them:
which one is open and with which parameters. Sockets stay open from creation to
close, and the callback and its argument never change, so they are not fields.

What libraries and the platform answer is an input (`ConfigureIo`).
-/

set_option autoImplicit false

namespace PortableAirplay.Audio

open PortableAirplay.Airplay
open PortableAirplay.Library
open PortableAirplay.Platform
open PortableAirplay.Protocol
open PortableAirplay.Sync

/-! ## Decoders -/

/-- `alac_decoder_t`; `impl` tells whether it holds a context of the pool. -/
structure AlacDecoder where
  frameLength : UInt32
  bitDepth : UInt8
  channels : UInt8
  sampleRate : UInt32
  fmtp : List UInt32
  impl : Bool
  deriving DecidableEq, Repr

/-- The zeroed decoder. -/
def AlacDecoder.zero : AlacDecoder := ⟨0, 0, 0, 0, [], false⟩

/-- The decoder that `alac_decoder_init` fills in before it asks for a context. -/
def alacDecoderSetup (fmtp : List UInt32) (framesPerPacket : UInt32) (bitDepth channels : UInt8)
    (sampleRate : UInt32) : AlacDecoder where
  frameLength := if framesPerPacket = 0 then defaultFramesPerPacket else framesPerPacket
  bitDepth := if bitDepth = 16 ∨ bitDepth = 24 then bitDepth else 16
  channels := if channels = 0 ∨ channels > 2 then 2 else channels
  sampleRate := if sampleRate = 0 then defaultSampleRate else sampleRate
  fmtp := fmtp.take 12
  impl := false

/-- `alac_decoder_init` with `used` contexts of the pool in use: the decoder, the
contexts in use afterwards, and success. -/
def alacDecoderInit (used : ℕ) (fmtp : List UInt32) (framesPerPacket : UInt32)
    (bitDepth channels : UInt8) (sampleRate : UInt32) : AlacDecoder × ℕ × Bool :=
  let decoder := alacDecoderSetup fmtp framesPerPacket bitDepth channels sampleRate
  if decoder.frameLength.toNat > alacMaxSamplesPerFrame then
    ({ AlacDecoder.zero with frameLength := decoder.frameLength }, used, false)
  else if used ≥ alacMaxContexts then (decoder, used, false)
  else ({ decoder with impl := true }, used + 1, true)

/-- `aac_decoder_t`; `impl` tells whether it holds a handle. -/
structure AacDecoder where
  channels : UInt8
  sampleRate : UInt32
  impl : Bool
  deriving DecidableEq, Repr

/-- The zeroed decoder. -/
def AacDecoder.zero : AacDecoder := ⟨0, 0, false⟩

/-- `aac_decoder_init` on a closed decoder; `opens` tells whether the library opens
a handle and takes the configuration. -/
def aacDecoderInit (opens : Bool) (channels : UInt8) (sampleRate : UInt32) : AacDecoder × Bool :=
  if channels = 0 ∨ channels > 2 ∨ sampleRate = 0 then (AacDecoder.zero, false)
  else (⟨channels, sampleRate, opens⟩, opens)

/-- `crypto_aes_context_t`. -/
structure AesContext where
  key : List UInt8
  iv : List UInt8
  deriving DecidableEq, Repr

/-- The zeroed context. -/
def AesContext.zero : AesContext := ⟨List.replicate 16 0, List.replicate 16 0⟩

/-! ## State -/

/-- `audio_pipeline_state_t`. -/
inductive PipelineState where
  | stopped
  | ready
  | playing
  deriving DecidableEq, Repr

/-- `audio_pipeline_t`. The volume is the bits of the `float`; `alacUsed` is the
number of contexts in use in the decoder pool, and `peerIp` is that of the RTP
receiver. -/
structure AudioPipeline where
  session : SdpSession
  state : PipelineState
  volumeDb : UInt32
  alacDecoder : AlacDecoder
  alacUsed : ℕ
  aacDecoder : AacDecoder
  aesContext : AesContext
  ntpSync : NtpSync
  ntpSyncInitialized : Bool
  playout : Playout
  timingPeer : NetAddr
  peerIp : CString
  firstArrivalUs : UInt64
  firstTimestamp : UInt32
  queueOverflows : UInt32
  latePackets : UInt32
  nonzeroPackets : UInt32
  ptp : PtpSync
  anchor : AirplayAnchor
  buffered : BufferedAudio
  lastSequence : UInt16
  packetsReceived : UInt32
  packetsLost : UInt32
  decodeErrors : UInt32
  decodedPackets : UInt32
  configured : Bool

/-- A zeroed queue. -/
def Playout.zero : Playout where
  packets _ := ⟨RtpHeader.zero, [], false⟩
  nextSequence := 0
  count := 0
  started := false
  haveSequence := false
  haveFloor := false
  floorExclusive := false
  timestampFloor := 0

/-- `audio_pipeline_create`, with the listener that `buffered_audio_open` opened. -/
def audioPipelineCreate (listener : NetSocket) : AudioPipeline where
  session := SdpSession.zero
  state := .stopped
  volumeDb := 0
  alacDecoder := AlacDecoder.zero
  alacUsed := 0
  aacDecoder := AacDecoder.zero
  aesContext := AesContext.zero
  ntpSync := ntpSyncInit
  ntpSyncInitialized := true
  playout := Playout.zero
  timingPeer := NetAddr.zero
  peerIp := []
  firstArrivalUs := 0
  firstTimestamp := 0
  queueOverflows := 0
  latePackets := 0
  nonzeroPackets := 0
  ptp := ptpSyncInit
  anchor := AirplayAnchor.zero
  buffered := { bufferedAudioInit with listener := listener }
  lastSequence := 0
  packetsReceived := 0
  packetsLost := 0
  decodeErrors := 0
  decodedPackets := 0
  configured := false

/-! ## Operations -/

/-- `audio_pipeline_set_transport`. -/
def audioPipelineSetTransport (p : AudioPipeline) (peer : NetAddr) : AudioPipeline :=
  { p with
    buffered := bufferedAudioDisconnect p.buffered
    timingPeer := peer
    peerIp := peer.ip
    -- samples of the old peer say nothing about the new one
    ntpSync := ntpSyncInit }

/-- `audio_pipeline_set_start`. -/
def audioPipelineSetStart (p : AudioPipeline) (timestamp : UInt32) (exclusive : Bool) :
    AudioPipeline :=
  { p with playout := playoutSetFloor p.playout timestamp exclusive, firstArrivalUs := 0 }

/-- `audio_pipeline_flush`. -/
def audioPipelineFlush (p : AudioPipeline) : AudioPipeline :=
  { p with
    playout := playoutReset p.playout
    firstArrivalUs := 0
    ntpSync := { p.ntpSync with anchorValid := false }
    packetsReceived := 0
    packetsLost := 0 }

/-- `audio_pipeline_stop`. -/
def audioPipelineStop (p : AudioPipeline) : AudioPipeline :=
  audioPipelineFlush { p with state := .stopped }

/-- `audio_pipeline_start`. -/
def audioPipelineStart (p : AudioPipeline) : AudioPipeline × Bool :=
  if p.configured = false then (p, false)
  else
    ({ p with
        state := .playing
        packetsReceived := 0
        packetsLost := 0
        decodeErrors := 0
        decodedPackets := 0
        nonzeroPackets := 0
        queueOverflows := 0
        latePackets := 0 }, true)

/-- `audio_pipeline_set_volume`; its callers do not look at the result. -/
def audioPipelineSetVolume (p : AudioPipeline) (volumeDb : UInt32) : AudioPipeline :=
  if floatIsFinite volumeDb then { p with volumeDb := clampVolume volumeDb } else p

/-- Setting the volume changes the volume, if anything. -/
theorem audioPipelineSetVolume_eq (p : AudioPipeline) (volumeDb : UInt32) :
    ∃ volume, audioPipelineSetVolume p volumeDb = { p with volumeDb := volume } := by
  rw [audioPipelineSetVolume]
  split
  · exact ⟨_, rfl⟩
  · exact ⟨p.volumeDb, rfl⟩

theorem audioPipelineSetVolume_playout (p : AudioPipeline) (volumeDb : UInt32) :
    (audioPipelineSetVolume p volumeDb).playout = p.playout := by
  obtain ⟨volume, hset⟩ := audioPipelineSetVolume_eq p volumeDb
  rw [hset]

/-- What libraries and the platform answer while a session is configured: the
sockets of the PTP clock (`none` where one cannot be bound or joined), whether the
AAC library opens a decoder, and the key that RSA unwraps. -/
structure ConfigureIo where
  ptpSockets : Option (NetSocket × NetSocket)
  aacOpens : Bool
  rsaDecrypt : List UInt8 → Option (List UInt8)

/-- The parameter checks of `audio_pipeline_configure`. -/
def acceptsSession (session : SdpSession) : Bool :=
  session.sampleRate ≠ 0 && session.channels ≠ 0 && session.channels ≤ 2 &&
    session.bitsPerSample = 16 && session.framesPerPacket ≠ 0 &&
    (session.codec = .aac || session.framesPerPacket.toNat ≤ alacMaxSamplesPerFrame) &&
    session.framesPerPacket.toNat * session.channels.toNat ≤ maxAudioBufferSamples

/-- The pipeline between two sessions: the decoders are closed and the parameters
of the new session are in place. An unknown codec stands for ALAC. -/
def AudioPipeline.enter (p : AudioPipeline) (ptp : PtpSync) (session : SdpSession) :
    AudioPipeline :=
  { p with
    alacDecoder := AlacDecoder.zero
    alacUsed := if p.alacDecoder.impl then p.alacUsed - 1 else p.alacUsed
    aacDecoder := AacDecoder.zero
    aesContext := AesContext.zero
    session := { session with codec := if session.codec = .unknown then .alac else session.codec }
    anchor := AirplayAnchor.zero
    ptp := ptpSyncSetClock ptp 0
    configured := false
    state := .stopped }

/-- The decoder of the session is opened. -/
def AudioPipeline.openDecoder (p : AudioPipeline) (io : ConfigureIo) (session : SdpSession) :
    AudioPipeline × Bool :=
  match p.session.codec with
  | .aac =>
      let r := aacDecoderInit io.aacOpens session.channels.toUInt8 session.sampleRate
      ({ p with aacDecoder := r.1 }, r.2)
  | .alac =>
      let r := alacDecoderInit p.alacUsed (session.alacFmtp.take session.alacFmtpCount)
        session.framesPerPacket session.bitsPerSample.toUInt8 session.channels.toUInt8
        session.sampleRate
      ({ p with alacDecoder := r.1, alacUsed := r.2.1 }, r.2.2)
  | .pcm => (p, true)
  | .unknown => (p, true)

/-- The key of an encrypted session: there is one only where the sender gave bytes to
unwrap. -/
def unwrapAesKey (io : ConfigureIo) (session : SdpSession) : Option (List UInt8) :=
  if session.aesKeyEncryptedLen > 0 then
    io.rsaDecrypt (session.aesKeyEncrypted.take session.aesKeyEncryptedLen)
  else none

/-- The AES context of the session. -/
def AudioPipeline.openCipher (p : AudioPipeline) (io : ConfigureIo) (session : SdpSession) :
    AudioPipeline × Bool :=
  if session.hasEncryption = false then (p, true)
  else
    match unwrapAesKey io session with
    | none => (p, false)
    | some key => ({ p with aesContext := ⟨key, session.aesIv⟩ }, true)

/-- `audio_pipeline_configure`. -/
def audioPipelineConfigure (io : ConfigureIo) (p : AudioPipeline) (session : SdpSession) :
    AudioPipeline × Bool :=
  if acceptsSession session = false then (p, false)
  else
    let ptp := if session.streamType = 0 then (p.ptp, true) else ptpSyncOpen p.ptp io.ptpSockets
    if ptp.2 = false then ({ p with ptp := ptp.1 }, false)
    else
      let decoder := (p.enter ptp.1 session).openDecoder io session
      if decoder.2 = false then decoder
      else
        let cipher := decoder.1.openCipher io session
        if cipher.2 = false then cipher
        else ({ cipher.1 with configured := true, state := .ready }, true)

/-! ## Configuring -/

/-- The context pool is used by the pipeline's own decoder only. -/
def AudioPipeline.PoolOwned (p : AudioPipeline) : Prop :=
  p.alacUsed = if p.alacDecoder.impl then 1 else 0

theorem create_poolOwned (listener : NetSocket) : (audioPipelineCreate listener).PoolOwned := rfl

/-- The library and platform calls of configuring succeed. -/
structure ConfigureIo.Succeeds (io : ConfigureIo) : Prop where
  ptp : io.ptpSockets.isSome = true
  aac : io.aacOpens = true
  rsa : ∀ key, (io.rsaDecrypt key).isSome = true

/-- A session that asks for decryption comes with a key. -/
def keyedSession (session : SdpSession) : Bool :=
  !session.hasEncryption || session.aesKeyEncryptedLen > 0

theorem acceptsSession_iff (session : SdpSession) :
    acceptsSession session = true ↔
      session.sampleRate ≠ 0 ∧ session.channels ≠ 0 ∧ session.channels ≤ 2 ∧
        session.bitsPerSample = 16 ∧ session.framesPerPacket ≠ 0 ∧
        (session.codec = .aac ∨ session.framesPerPacket.toNat ≤ alacMaxSamplesPerFrame) ∧
        session.framesPerPacket.toNat * session.channels.toNat ≤ maxAudioBufferSamples := by
  simp only [acceptsSession, Bool.and_eq_true, Bool.or_eq_true, decide_eq_true_eq, ne_eq,
    and_assoc]

@[simp] theorem enter_codec (p : AudioPipeline) (ptp : PtpSync) (session : SdpSession) :
    (p.enter ptp session).session.codec =
      if session.codec = .unknown then .alac else session.codec := rfl

theorem AudioPipeline.PoolOwned.enter_used {p : AudioPipeline} (h : p.PoolOwned) (ptp : PtpSync)
    (session : SdpSession) : (p.enter ptp session).alacUsed = 0 := by
  rw [PoolOwned] at h
  rw [AudioPipeline.enter]
  dsimp only
  split
  · rename_i himpl
    rw [h, if_pos himpl]
  · rename_i himpl
    rw [h, if_neg himpl]

theorem channels_toUInt8 {channels : UInt16} (hzero : channels ≠ 0) (hle : channels ≤ 2) :
    channels.toUInt8 ≠ 0 ∧ ¬ channels.toUInt8 > 2 := by
  have hcases : channels = 1 ∨ channels = 2 := by
    rw [UInt16.le_iff_toNat_le] at hle
    have hne : channels.toNat ≠ 0 := fun h => hzero (UInt16.toNat_inj.mp h)
    rw [← UInt16.toNat_inj, ← UInt16.toNat_inj]
    have htwo : (2 : UInt16).toNat = 2 := rfl
    have hone : (1 : UInt16).toNat = 1 := rfl
    omega
  rcases hcases with rfl | rfl
  · exact ⟨by decide, by decide⟩
  · exact ⟨by decide, by decide⟩

/-- The decoder opens: the checks before leave its own checks nothing to refuse, and
the context of the old session was given back. -/
theorem AudioPipeline.openDecoder_ok {p : AudioPipeline} {io : ConfigureIo} {session : SdpSession}
    (haac : io.aacOpens = true) (haccepts : acceptsSession session = true)
    (hused : p.alacUsed = 0)
    (hcodec : p.session.codec = if session.codec = .unknown then .alac else session.codec) :
    (p.openDecoder io session).2 = true := by
  obtain ⟨hrate, hchannels, hle, -, hframes, hsize, -⟩ := (acceptsSession_iff session).mp haccepts
  obtain ⟨hzero, htwo⟩ := channels_toUInt8 hchannels hle
  rw [AudioPipeline.openDecoder]
  cases hp : p.session.codec with
  | unknown => rfl
  | pcm => rfl
  | aac =>
      dsimp only
      rw [aacDecoderInit, if_neg]
      · exact haac
      · rintro (h | h | h)
        · exact hzero h
        · exact htwo h
        · exact hrate h
  | alac =>
      have hnot : session.codec ≠ .aac := by
        intro h
        rw [hp, h] at hcodec
        exact absurd hcodec (by decide)
      have hlength : (alacDecoderSetup (session.alacFmtp.take session.alacFmtpCount)
          session.framesPerPacket session.bitsPerSample.toUInt8 session.channels.toUInt8
          session.sampleRate).frameLength = session.framesPerPacket := if_neg hframes
      dsimp only
      rw [alacDecoderInit]
      dsimp only
      rw [hlength, if_neg (by simpa using hsize.resolve_left hnot), hused, if_neg (by decide)]

theorem AudioPipeline.openDecoder_poolOwned {p : AudioPipeline} (io : ConfigureIo)
    (session : SdpSession) (hused : p.alacUsed = 0) (himpl : p.alacDecoder.impl = false) :
    (p.openDecoder io session).1.PoolOwned := by
  have hkept : p.PoolOwned := by
    rw [PoolOwned, hused, if_neg (by simp [himpl])]
  rw [AudioPipeline.openDecoder]
  cases p.session.codec with
  | unknown => exact hkept
  | pcm => exact hkept
  | aac => exact hkept
  | alac =>
      dsimp only
      rw [alacDecoderInit]
      dsimp only
      split
      · exact hused
      · rw [hused, if_neg (by decide)]
        rfl

/-- The cipher opens where none is asked for, or where the key is unwrapped. -/
theorem AudioPipeline.openCipher_snd (p : AudioPipeline) (io : ConfigureIo)
    (session : SdpSession) :
    (p.openCipher io session).2 =
      (!session.hasEncryption || (unwrapAesKey io session).isSome) := by
  rw [AudioPipeline.openCipher]
  cases session.hasEncryption with
  | false => rfl
  | true =>
      rw [if_neg (by decide)]
      cases unwrapAesKey io session with
      | none => rfl
      | some key => rfl

/-- Where everything can be unwrapped, a key is enough. -/
theorem unwrapAesKey_keyed {io : ConfigureIo} (hrsa : ∀ key, (io.rsaDecrypt key).isSome = true)
    (session : SdpSession) :
    (!session.hasEncryption || (unwrapAesKey io session).isSome) = keyedSession session := by
  rw [keyedSession, unwrapAesKey]
  by_cases hlen : session.aesKeyEncryptedLen > 0
  · rw [if_pos hlen, hrsa]
    simp [hlen]
  · rw [if_neg hlen]
    simp [hlen]

theorem AudioPipeline.openCipher_pool (p : AudioPipeline) (io : ConfigureIo)
    (session : SdpSession) :
    (p.openCipher io session).1.alacUsed = p.alacUsed ∧
      (p.openCipher io session).1.alacDecoder = p.alacDecoder := by
  rw [AudioPipeline.openCipher]
  split
  · exact ⟨rfl, rfl⟩
  · cases unwrapAesKey io session with
    | none => exact ⟨rfl, rfl⟩
    | some key => exact ⟨rfl, rfl⟩

theorem ptpSyncOpen_ok {p : PtpSync} {sockets : Option (NetSocket × NetSocket)}
    (h : sockets.isSome = true) : (ptpSyncOpen p sockets).2 = true := by
  obtain ⟨bound, rfl⟩ := Option.isSome_iff_exists.mp h
  rw [ptpSyncOpen]
  split
  · rfl
  · rfl

/-- **Configuring succeeds exactly on an accepted session whose key is unwrapped**, as far as
the clock and the decoder open. -/
theorem audioPipelineConfigure_opens {io : ConfigureIo} (hsockets : io.ptpSockets.isSome = true)
    (haac : io.aacOpens = true) {p : AudioPipeline} (hp : p.PoolOwned) (session : SdpSession) :
    (audioPipelineConfigure io p session).2 =
      (acceptsSession session &&
        (!session.hasEncryption || (unwrapAesKey io session).isSome)) := by
  rw [audioPipelineConfigure]
  by_cases haccepts : acceptsSession session = false
  · rw [if_pos haccepts, haccepts]
    rfl
  · rw [if_neg haccepts]
    rw [Bool.not_eq_false] at haccepts
    have hptp : (if session.streamType = 0 then (p.ptp, true)
        else ptpSyncOpen p.ptp io.ptpSockets).2 = true := by
      split
      · rfl
      · exact ptpSyncOpen_ok hsockets
    generalize (if session.streamType = 0 then (p.ptp, true)
      else ptpSyncOpen p.ptp io.ptpSockets) = ptp at hptp ⊢
    have hdecoder : ((p.enter ptp.1 session).openDecoder io session).2 = true :=
      AudioPipeline.openDecoder_ok haac haccepts (hp.enter_used ptp.1 session)
        (enter_codec p ptp.1 session)
    have hcipher := ((p.enter ptp.1 session).openDecoder io session).1.openCipher_snd io session
    dsimp only
    rw [if_neg (by simp [hptp]), if_neg (by simp [hdecoder]), hcipher, haccepts]
    cases hkeyed : (!session.hasEncryption || (unwrapAesKey io session).isSome) with
    | false =>
        rw [if_pos rfl, hcipher, hkeyed]
        rfl
    | true => rw [if_neg (by decide)]; rfl

/-- **Configuring succeeds exactly on an accepted session whose key is there**, as
far as libraries and the platform do their part. -/
theorem audioPipelineConfigure_ok {io : ConfigureIo} (hio : io.Succeeds) {p : AudioPipeline}
    (hp : p.PoolOwned) (session : SdpSession) :
    (audioPipelineConfigure io p session).2 =
      (acceptsSession session && keyedSession session) := by
  rw [audioPipelineConfigure_opens hio.ptp hio.aac hp, unwrapAesKey_keyed hio.rsa]

theorem audioPipelineConfigure_accepts {io : ConfigureIo} {p : AudioPipeline}
    {session : SdpSession} (hok : (audioPipelineConfigure io p session).2 = true) :
    acceptsSession session = true := by
  rw [audioPipelineConfigure] at hok
  by_contra hrefuses
  rw [if_pos (Bool.not_eq_true _ |>.mp hrefuses)] at hok
  contradiction

/-- A session that asks for decryption is configured with its key and its IV. -/
theorem audioPipelineConfigure_cipher {io : ConfigureIo} {p : AudioPipeline}
    {session : SdpSession} (hok : (audioPipelineConfigure io p session).2 = true)
    (hencrypted : session.hasEncryption = true) :
    ∃ key, unwrapAesKey io session = some key ∧
      (audioPipelineConfigure io p session).1.aesContext = ⟨key, session.aesIv⟩ := by
  rw [audioPipelineConfigure] at hok ⊢
  by_cases haccepts : acceptsSession session = false
  · rw [if_pos haccepts] at hok
    contradiction
  · rw [if_neg haccepts] at hok ⊢
    -- success excludes each early return in turn
    generalize (if session.streamType = 0 then (p.ptp, true)
      else ptpSyncOpen p.ptp io.ptpSockets) = ptp at hok ⊢
    dsimp only at hok ⊢
    by_cases hptp : ptp.2 = false
    · rw [if_pos hptp] at hok
      contradiction
    · rw [if_neg hptp] at hok ⊢
      generalize (p.enter ptp.1 session).openDecoder io session = decoder at hok ⊢
      by_cases hdecoder : decoder.2 = false
      · rw [if_pos hdecoder, hdecoder] at hok
        contradiction
      · rw [if_neg hdecoder] at hok ⊢
        have hcipher : decoder.1.openCipher io session =
            match unwrapAesKey io session with
            | none => (decoder.1, false)
            | some key => ({ decoder.1 with aesContext := ⟨key, session.aesIv⟩ }, true) := by
          rw [AudioPipeline.openCipher, if_neg (by rw [hencrypted]; decide)]
        rw [hcipher] at hok ⊢
        cases hkey : unwrapAesKey io session with
        | none =>
            rw [hkey] at hok
            contradiction
        | some key => exact ⟨key, rfl, rfl⟩

/-- Whatever fails, the pool stays with the decoder. -/
theorem audioPipelineConfigure_poolOwned (io : ConfigureIo) {p : AudioPipeline}
    (hp : p.PoolOwned) (session : SdpSession) :
    (audioPipelineConfigure io p session).1.PoolOwned := by
  rw [audioPipelineConfigure]
  split
  · exact hp
  · dsimp only
    generalize (if session.streamType = 0 then (p.ptp, true)
      else ptpSyncOpen p.ptp io.ptpSockets) = ptp
    have hdecoder := AudioPipeline.openDecoder_poolOwned io session
      (hp.enter_used ptp.1 session) (rfl : (p.enter ptp.1 session).alacDecoder.impl = false)
    obtain ⟨hused, hsame⟩ := ((p.enter ptp.1 session).openDecoder io session).1.openCipher_pool
      io session
    have hcipher : (((p.enter ptp.1 session).openDecoder io session).1.openCipher io
        session).1.PoolOwned := by
      rw [AudioPipeline.PoolOwned, hused, hsame]
      exact hdecoder
    split
    · exact hp
    · split
      · exact hdecoder
      · split
        · exact hcipher
        · exact hcipher

/-! ## What configuring leaves alone -/

theorem AudioPipeline.openDecoder_playout (p : AudioPipeline) (io : ConfigureIo)
    (session : SdpSession) : (p.openDecoder io session).1.playout = p.playout := by
  rw [AudioPipeline.openDecoder]
  cases p.session.codec with
  | unknown => rfl
  | pcm => rfl
  | aac => rfl
  | alac => rfl

theorem AudioPipeline.openCipher_playout (p : AudioPipeline) (io : ConfigureIo)
    (session : SdpSession) : (p.openCipher io session).1.playout = p.playout := by
  rw [AudioPipeline.openCipher]
  split
  · rfl
  · cases unwrapAesKey io session with
    | none => rfl
    | some key => rfl

/-- Configuring leaves the queue alone. -/
theorem audioPipelineConfigure_playout (io : ConfigureIo) (p : AudioPipeline)
    (session : SdpSession) : (audioPipelineConfigure io p session).1.playout = p.playout := by
  rw [audioPipelineConfigure]
  split
  · rfl
  · dsimp only
    generalize (if session.streamType = 0 then (p.ptp, true)
      else ptpSyncOpen p.ptp io.ptpSockets) = ptp
    have hdecoder := (p.enter ptp.1 session).openDecoder_playout io session
    have hcipher := ((p.enter ptp.1 session).openDecoder io session).1.openCipher_playout io session
    split
    · rfl
    · split
      · exact hdecoder
      · split
        · exact hcipher.trans hdecoder
        · exact hcipher.trans hdecoder

theorem audioPipelineStart_playout (p : AudioPipeline) :
    (audioPipelineStart p).1.playout = p.playout := by
  rw [audioPipelineStart]
  split
  · rfl
  · rfl

end PortableAirplay.Audio
