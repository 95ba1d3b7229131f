import PortableAirplay.Airplay.Airplay2
import PortableAirplay.Audio.PipelinePoll
import PortableAirplay.Library.Execution
import Mathlib.Data.List.Induction

/-!
# Runs of the audio pipeline

The pipeline under the calls of its owner, in any order: configuring any session with
any step of it failing, starting, stopping, a boundary, a transport, and polls, which
go turn by turn. The owner is one thread, so no other call comes while a poll runs.

`playing_configured` says what may be taken for granted while the pipeline plays. The
invariant is `Sound`: the flag `configured` stands for a configuration that went all
the way, the state `PLAYING` for that flag, and the one context of the decoder pool
belongs to the pipeline's own decoder.
-/

set_option autoImplicit false

namespace PortableAirplay.Audio

open PortableAirplay.Airplay
open PortableAirplay.Library
open PortableAirplay.Platform
open PortableAirplay.Protocol
open PortableAirplay.Sync

/-! ## Runs -/

/-- The pipeline, and where its poll stands if one is running. -/
structure PolledPipeline where
  pipeline : AudioPipeline
  poll : Option PollPhase

/-- A call of the owner, or a turn of a poll. `anchor` and `seek` are what
`airplay_audio_main` does with the fields of the pipeline. -/
inductive PipelineStep where
  | configure (io : ConfigureIo) (session : SdpSession)
  | start
  | stop
  | setStart (timestamp : UInt32) (exclusive : Bool)
  | setTransport (peer : NetAddr)
  | setVolume (volumeDb : UInt32)
  | anchor (a : AirplayAnchor)
  | seek (sequence : UInt32)
  | turn (io : TurnIo)

/-- What a call does to the pipeline. -/
def ownerCall (p : AudioPipeline) : PipelineStep → AudioPipeline
  | .configure io session => (audioPipelineConfigure io p session).1
  | .start => (audioPipelineStart p).1
  | .stop => audioPipelineStop p
  | .setStart timestamp exclusive => audioPipelineSetStart p timestamp exclusive
  | .setTransport peer => audioPipelineSetTransport p peer
  | .setVolume volumeDb => audioPipelineSetVolume p volumeDb
  | .anchor a => { p with anchor := a, ptp := ptpSyncSetClock p.ptp a.clockId }
  | .seek sequence => { p with buffered := bufferedAudioFlush p.buffered sequence }
  | .turn _ => p

/-- The phase after a turn; a poll that is done has returned. -/
def pollAfter : PollPhase → Option PollPhase
  | .done _ => none
  | phase => some phase

/-- A turn of a poll, which begins where none is running. -/
def polledTurn (aead : Aead) (io : TurnIo) (s : PolledPipeline) : PolledPipeline × TurnEvent :=
  let turn := pollTurn aead io s.pipeline (s.poll.getD .inputs)
  (⟨turn.pipeline, pollAfter turn.phase⟩, turn.event)

/-- A step of a run. A call of the owner waits for the end of a poll. -/
def pipelineStep (aead : Aead) (s : PolledPipeline) : PipelineStep → PolledPipeline × TurnEvent
  | .turn io => polledTurn aead io s
  | call => if s.poll = none then ({ s with pipeline := ownerCall s.pipeline call }, .quiet)
      else (s, .quiet)

/-- The pipeline as a machine. -/
def pipelineMachine (aead : Aead) : Machine PolledPipeline PipelineStep TurnEvent where
  step := pipelineStep aead

/-- The pipeline after some steps from its creation. -/
def pipelineRun (aead : Aead) (listener : NetSocket) (steps : List PipelineStep) :
    PolledPipeline :=
  ((pipelineMachine aead).run ⟨audioPipelineCreate listener, none⟩ steps).1

theorem pipelineRun_concat (aead : Aead) (listener : NetSocket) (steps : List PipelineStep)
    (step : PipelineStep) :
    pipelineRun aead listener (steps ++ [step]) =
      (pipelineStep aead (pipelineRun aead listener steps) step).1 := by
  rw [pipelineRun, Machine.run_append]
  rfl

/-! ## The invariant -/

/-- The pipeline is set up for its session: the parameters are those that the checks let
pass, the decoder of the codec is open, and the cipher has the key of a session that
asks for decryption. -/
structure SetUp (io : ConfigureIo) (session : SdpSession) (p : AudioPipeline) : Prop where
  accepts : acceptsSession session = true
  entered : p.session =
    { session with codec := if session.codec = .unknown then .alac else session.codec }
  alac : p.session.codec = .alac → p.alacDecoder.impl = true
  aac : p.session.codec = .aac → p.aacDecoder.impl = true
  cipher : session.hasEncryption = true →
    ∃ key, unwrapAesKey io session = some key ∧ p.aesContext = ⟨key, session.aesIv⟩

/-- The sessions that were configured, with the answers of the platform. -/
def Configures (steps : List PipelineStep) (io : ConfigureIo) (session : SdpSession) : Prop :=
  .configure io session ∈ steps

/-- What holds of the pipeline after the given steps. -/
structure Sound (steps : List PipelineStep) (p : AudioPipeline) : Prop where
  pool : p.PoolOwned
  playing : p.state = .playing → p.configured = true
  configured : p.configured = true → ∃ io session, Configures steps io session ∧ SetUp io session p
  session : p.session.streamType = 0 ∨
    ∃ io session, Configures steps io session ∧ p.session.streamType = session.streamType

theorem create_sound (listener : NetSocket) : Sound [] (audioPipelineCreate listener) where
  pool := rfl
  playing h := absurd h (by simp [audioPipelineCreate])
  configured h := absurd h (by simp [audioPipelineCreate])
  session := Or.inl rfl

section Steps

variable {steps : List PipelineStep} {p after : AudioPipeline}

/-- What was set up stays so while nothing of it changes. -/
theorem SetUp.same {io : ConfigureIo} {session : SdpSession} (h : SetUp io session p)
    (hsession : after.session = p.session) (halac : after.alacDecoder = p.alacDecoder)
    (haac : after.aacDecoder = p.aacDecoder) (haes : after.aesContext = p.aesContext) :
    SetUp io session after where
  accepts := h.accepts
  entered := hsession.trans h.entered
  alac hcodec := by
    rw [halac]
    exact h.alac (hsession ▸ hcodec)
  aac hcodec := by
    rw [haac]
    exact h.aac (hsession ▸ hcodec)
  cipher hencrypted := by
    rw [haes]
    exact h.cipher hencrypted

/-- A later step, after which nothing of the configuration has changed. -/
theorem Sound.same (h : Sound steps p) (step : PipelineStep)
    (hsession : after.session = p.session) (hconfigured : after.configured = p.configured)
    (halac : after.alacDecoder = p.alacDecoder) (hused : after.alacUsed = p.alacUsed)
    (haac : after.aacDecoder = p.aacDecoder) (haes : after.aesContext = p.aesContext)
    (hplaying : after.state = .playing → p.configured = true) :
    Sound (steps ++ [step]) after where
  pool := by
    rw [AudioPipeline.PoolOwned, hused, halac]
    exact h.pool
  playing hstate := hconfigured.trans (hplaying hstate)
  configured hflag := by
    obtain ⟨io, session, hmem, hsetup⟩ := h.configured (hconfigured ▸ hflag)
    exact ⟨io, session, List.mem_append_left _ hmem, hsetup.same hsession halac haac haes⟩
  session := by
    rw [hsession]
    rcases h.session with hzero | ⟨io, session, hmem, htype⟩
    · exact Or.inl hzero
    · exact Or.inr ⟨io, session, List.mem_append_left _ hmem, htype⟩

theorem Sound.setting (h : Sound steps p) (step : PipelineStep) (hsame : SameSetting p after) :
    Sound (steps ++ [step]) after :=
  h.same step hsame.session hsame.configured hsame.alacDecoder hsame.alacUsed hsame.aacDecoder
    hsame.aesContext fun hstate => h.playing (hsame.state ▸ hstate)

/-- The decoder that opens is the one of the codec. -/
theorem AudioPipeline.openDecoder_opens {p : AudioPipeline} {io : ConfigureIo}
    {session : SdpSession} (h : (p.openDecoder io session).2 = true) :
    (p.session.codec = .alac → (p.openDecoder io session).1.alacDecoder.impl = true) ∧
      (p.session.codec = .aac → (p.openDecoder io session).1.aacDecoder.impl = true) := by
  rw [AudioPipeline.openDecoder] at h ⊢
  cases hcodec : p.session.codec with
  | unknown => exact ⟨fun h => SdpCodec.noConfusion h, fun h => SdpCodec.noConfusion h⟩
  | pcm => exact ⟨fun h => SdpCodec.noConfusion h, fun h => SdpCodec.noConfusion h⟩
  | aac =>
      rw [hcodec] at h
      dsimp only at h ⊢
      refine ⟨fun h => SdpCodec.noConfusion h, fun _ => ?_⟩
      rw [aacDecoderInit] at h ⊢
      split at h
      · exact absurd h Bool.false_ne_true
      · rename_i hchecks
        rw [if_neg hchecks]
        exact h
  | alac =>
      rw [hcodec] at h
      dsimp only at h ⊢
      refine ⟨fun _ => ?_, fun h => SdpCodec.noConfusion h⟩
      rw [alacDecoderInit] at h ⊢
      dsimp only at h ⊢
      split at h
      · exact absurd h Bool.false_ne_true
      · rename_i hlength
        split at h
        · exact absurd h Bool.false_ne_true
        · rename_i hused
          rw [if_neg hlength, if_neg hused]

/-- Opening the decoder changes the decoders only. -/
theorem AudioPipeline.openDecoder_same (p : AudioPipeline) (io : ConfigureIo)
    (session : SdpSession) :
    (p.openDecoder io session).1.session = p.session ∧
      (p.openDecoder io session).1.configured = p.configured ∧
      (p.openDecoder io session).1.state = p.state := by
  rw [AudioPipeline.openDecoder]
  cases p.session.codec with
  | unknown => exact ⟨rfl, rfl, rfl⟩
  | pcm => exact ⟨rfl, rfl, rfl⟩
  | aac => exact ⟨rfl, rfl, rfl⟩
  | alac => exact ⟨rfl, rfl, rfl⟩

/-- Opening the cipher changes the cipher only. -/
theorem AudioPipeline.openCipher_same (p : AudioPipeline) (io : ConfigureIo)
    (session : SdpSession) :
    (p.openCipher io session).1.session = p.session ∧
      (p.openCipher io session).1.configured = p.configured ∧
      (p.openCipher io session).1.state = p.state ∧
      (p.openCipher io session).1.alacDecoder = p.alacDecoder ∧
      (p.openCipher io session).1.aacDecoder = p.aacDecoder := by
  rw [AudioPipeline.openCipher]
  split
  · exact ⟨rfl, rfl, rfl, rfl, rfl⟩
  · cases unwrapAesKey io session with
    | none => exact ⟨rfl, rfl, rfl, rfl, rfl⟩
    | some key => exact ⟨rfl, rfl, rfl, rfl, rfl⟩

theorem AudioPipeline.openCipher_opens {p : AudioPipeline} {io : ConfigureIo}
    {session : SdpSession} (h : (p.openCipher io session).2 = true)
    (hencrypted : session.hasEncryption = true) :
    ∃ key, unwrapAesKey io session = some key ∧
      (p.openCipher io session).1.aesContext = ⟨key, session.aesIv⟩ := by
  rw [AudioPipeline.openCipher, if_neg (by simp [hencrypted])] at h ⊢
  cases hkey : unwrapAesKey io session with
  | none =>
      rw [hkey] at h
      exact absurd h Bool.false_ne_true
  | some key => exact ⟨key, rfl, rfl⟩

/-- What configuring leaves behind: all as it was, a configuration that failed halfway
and is not in use, or one that went all the way. -/
inductive Configured (io : ConfigureIo) (p : AudioPipeline) (session : SdpSession) :
    AudioPipeline × Bool → Prop where
  | refused (ptp : PtpSync) : Configured io p session ({ p with ptp := ptp }, false)
  | broken (after : AudioPipeline) (hconfigured : after.configured = false)
      (hstate : after.state = .stopped)
      (htype : after.session.streamType = session.streamType) :
      Configured io p session (after, false)
  | done (after : AudioPipeline) (hsetup : SetUp io session after)
      (hstate : after.state = .ready)
      (htype : after.session.streamType = session.streamType) :
      Configured io p session (after, true)

/-- **Every way through `audio_pipeline_configure`.** -/
theorem audioPipelineConfigure_configured (io : ConfigureIo) (p : AudioPipeline)
    (session : SdpSession) : Configured io p session (audioPipelineConfigure io p session) := by
  rw [audioPipelineConfigure]
  by_cases haccepts : acceptsSession session = false
  · rw [if_pos haccepts]
    exact Configured.refused p.ptp
  · rw [if_neg haccepts]
    rw [Bool.not_eq_false] at haccepts
    dsimp only
    generalize (if session.streamType = 0 then (p.ptp, true)
      else ptpSyncOpen p.ptp io.ptpSockets) = ptp
    obtain ⟨hsession, hflag, hstate⟩ := (p.enter ptp.1 session).openDecoder_same io session
    obtain ⟨hsession', hflag', hstate', halac, haac⟩ :=
      ((p.enter ptp.1 session).openDecoder io session).1.openCipher_same io session
    have htype : (p.enter ptp.1 session).session.streamType = session.streamType := rfl
    -- an unknown codec is taken for ALAC
    have hentered : (p.enter ptp.1 session).session =
        { session with codec := if session.codec = .unknown then .alac else session.codec } := rfl
    -- the decoder is opened first, then the cipher
    generalize hdecoder : (p.enter ptp.1 session).openDecoder io session = decoder
      at hsession hflag hstate hsession' hflag' hstate' halac haac ⊢
    obtain ⟨decoder, opened⟩ := decoder
    generalize hcipher : decoder.openCipher io session = cipher
      at hsession' hflag' hstate' halac haac ⊢
    obtain ⟨cipher, keyed⟩ := cipher
    dsimp only at hsession hflag hstate hsession' hflag' hstate' halac haac ⊢
    split
    · exact Configured.refused ptp.1
    · cases opened with
      | false =>
          rw [if_pos rfl]
          refine Configured.broken decoder hflag hstate ?_
          rw [hsession, htype]
      | true =>
          rw [if_neg (by decide)]
          cases keyed with
          | false =>
              rw [if_pos rfl]
              refine Configured.broken cipher (hflag'.trans hflag) (hstate'.trans hstate) ?_
              rw [hsession', hsession, htype]
          | true =>
              rw [if_neg (by decide)]
              have hopens := AudioPipeline.openDecoder_opens (congrArg Prod.snd hdecoder)
              have hkey := AudioPipeline.openCipher_opens (congrArg Prod.snd hcipher)
              rw [hdecoder] at hopens
              rw [hcipher] at hkey
              -- all three opened, on the session as it was entered
              refine Configured.done _ ⟨haccepts, ?_, fun hcodec => ?_, fun hcodec => ?_, hkey⟩ rfl ?_
              · rw [← hentered, ← hsession, ← hsession']
              · dsimp only
                rw [halac]
                apply hopens.1
                rw [← hsession, ← hsession']
                exact hcodec
              · dsimp only
                rw [haac]
                apply hopens.2
                rw [← hsession, ← hsession']
                exact hcodec
              · dsimp only
                rw [hsession', hsession, htype]

theorem Sound.configure (h : Sound steps p) (io : ConfigureIo) (session : SdpSession) :
    Sound (steps ++ [.configure io session]) (audioPipelineConfigure io p session).1 := by
  have hpool := audioPipelineConfigure_poolOwned io h.pool session
  have hcases := audioPipelineConfigure_configured io p session
  have hmem : Configures (steps ++ [.configure io session]) io session := by
    simp [Configures]
  generalize audioPipelineConfigure io p session = r at hpool hcases ⊢
  cases hcases with
  | refused ptp =>
      exact h.same _ rfl rfl rfl rfl rfl rfl fun hstate => h.playing hstate
  | broken after hconfigured hstate htype =>
      exact ⟨hpool, fun hplaying => absurd (hstate.symm.trans hplaying) (by simp),
        fun hflag => absurd (hconfigured.symm.trans hflag) (by decide),
        Or.inr ⟨io, session, hmem, htype⟩⟩
  | done after hsetup hstate htype =>
      exact ⟨hpool, fun hplaying => absurd (hstate.symm.trans hplaying) (by simp),
        fun _ => ⟨io, session, hmem, hsetup⟩, Or.inr ⟨io, session, hmem, htype⟩⟩

/-- A call of the owner. -/
theorem Sound.call (h : Sound steps p) (step : PipelineStep) :
    Sound (steps ++ [step]) (ownerCall p step) := by
  cases step with
  | configure io session => exact h.configure io session
  | start =>
      show Sound (steps ++ [.start]) (audioPipelineStart p).1
      rw [audioPipelineStart]
      cases hconfigured : p.configured with
      | false =>
          rw [if_pos rfl]
          exact h.same _ rfl rfl rfl rfl rfl rfl fun hstate => h.playing hstate
      | true =>
          rw [if_neg (by decide)]
          exact h.same _ rfl hconfigured.symm rfl rfl rfl rfl fun _ => hconfigured
  | stop => exact h.same _ rfl rfl rfl rfl rfl rfl fun hstate => PipelineState.noConfusion hstate
  | setStart timestamp exclusive =>
      exact h.same _ rfl rfl rfl rfl rfl rfl fun hstate => h.playing hstate
  | setTransport peer => exact h.same _ rfl rfl rfl rfl rfl rfl fun hstate => h.playing hstate
  | setVolume volumeDb =>
      show Sound (steps ++ [.setVolume volumeDb]) (audioPipelineSetVolume p volumeDb)
      obtain ⟨volume, hset⟩ := audioPipelineSetVolume_eq p volumeDb
      rw [hset]
      exact h.same _ rfl rfl rfl rfl rfl rfl fun hstate => h.playing hstate
  | anchor a => exact h.same _ rfl rfl rfl rfl rfl rfl fun hstate => h.playing hstate
  | seek sequence => exact h.same _ rfl rfl rfl rfl rfl rfl fun hstate => h.playing hstate
  | turn io => exact h.same _ rfl rfl rfl rfl rfl rfl fun hstate => h.playing hstate

theorem Sound.step (aead : Aead) {s : PolledPipeline} (h : Sound steps s.pipeline)
    (step : PipelineStep) :
    Sound (steps ++ [step]) (pipelineStep aead s step).1.pipeline := by
  have hcall : ∀ call : PipelineStep, Sound (steps ++ [call])
      (if s.poll = none then ({ s with pipeline := ownerCall s.pipeline call }, TurnEvent.quiet)
        else (s, .quiet)).1.pipeline := by
    intro call
    split
    · exact h.call call
    · exact h.same _ rfl rfl rfl rfl rfl rfl fun hstate => h.playing hstate
  cases step with
  | turn io => exact h.setting _ (pollTurn_effect aead io s.pipeline _).setting
  | configure io session => exact hcall _
  | start => exact hcall _
  | stop => exact hcall _
  | setStart timestamp exclusive => exact hcall _
  | setTransport peer => exact hcall _
  | setVolume volumeDb => exact hcall _
  | anchor a => exact hcall _
  | seek sequence => exact hcall _

end Steps

/-- **Every run is sound.** -/
theorem pipelineRun_sound (aead : Aead) (listener : NetSocket) (steps : List PipelineStep) :
    Sound steps (pipelineRun aead listener steps).pipeline := by
  induction steps using List.reverseRecOn with
  | nil => exact create_sound listener
  | append_singleton steps step ih =>
      rw [pipelineRun_concat]
      exact ih.step aead step

/-! ## Main result -/

/-- The control plane may have produced the session: from an ANNOUNCE or from a stream
SETUP that was not refused. -/
def FromControlPlane (session : SdpSession) : Prop :=
  (∃ body scratchLen, sdpParse body scratchLen = some session) ∨
    ∃ (q : StreamRequest) (key : List UInt8), q.supported = true ∧ session = q.session key

theorem FromControlPlane.streamType {session : SdpSession} (h : FromControlPlane session) :
    session.streamType = 0 ∨ session.streamType = streamTypeRealtime ∨
      session.streamType = streamTypeBuffered := by
  rcases h with ⟨body, scratchLen, hparse⟩ | ⟨q, key, hsupported, rfl⟩
  · exact Or.inl (sdpParse_streamType hparse)
  · rw [StreamRequest.supported, Bool.and_eq_true, Bool.and_eq_true, Bool.and_eq_true,
      Bool.or_eq_true, beq_iff_eq, beq_iff_eq] at hsupported
    have htype : (q.session key).streamType = q.type.toUInt16 := rfl
    rw [htype]
    rcases hsupported.1.1.1 with hq | hq
    · rw [hq]
      exact Or.inr (Or.inl rfl)
    · rw [hq]
      exact Or.inr (Or.inr rfl)

/-- What may be taken for granted of a pipeline that plays. -/
structure PlaysConfigured (steps : List PipelineStep) (p : AudioPipeline) : Prop where
  configured : p.configured = true
  sampleRate : p.session.sampleRate ≠ 0
  channels : p.session.channels = 1 ∨ p.session.channels = 2
  bits : p.session.bitsPerSample = 16
  frames : p.session.framesPerPacket.toNat * p.session.channels.toNat ≤ maxAudioBufferSamples
  codec : p.session.codec ≠ .unknown
  alac : p.session.codec = .alac → p.alacDecoder.impl = true
  aac : p.session.codec = .aac → p.aacDecoder.impl = true
  cipher : p.session.hasEncryption = true → ∃ io session key, Configures steps io session ∧
    unwrapAesKey io session = some key ∧ p.aesContext = ⟨key, p.session.aesIv⟩

theorem SetUp.plays {steps : List PipelineStep} {p : AudioPipeline} {io : ConfigureIo}
    {session : SdpSession} (h : SetUp io session p) (hconfigured : p.configured = true)
    (hmem : Configures steps io session) : PlaysConfigured steps p := by
  obtain ⟨hrate, hzero, hle, hbits, -, -, hframes⟩ := (acceptsSession_iff session).mp h.accepts
  -- entering a session changes its codec only, and that where it is unknown
  have hsame : p.session.sampleRate = session.sampleRate ∧
      p.session.channels = session.channels ∧
      p.session.bitsPerSample = session.bitsPerSample ∧
      p.session.framesPerPacket = session.framesPerPacket ∧
      p.session.hasEncryption = session.hasEncryption ∧ p.session.aesIv = session.aesIv := by
    rw [h.entered]
    exact ⟨rfl, rfl, rfl, rfl, rfl, rfl⟩
  obtain ⟨hrate', hchannels', hbits', hframes', hencryption', hiv'⟩ := hsame
  refine ⟨hconfigured, ?_, ?_, ?_, ?_, ?_, h.alac, h.aac, ?_⟩
  · rw [hrate']
    exact hrate
  · rw [hchannels']
    have hpos : session.channels.toNat ≠ 0 := fun hnat => hzero (UInt16.toNat_inj.mp hnat)
    rw [UInt16.le_iff_toNat_le] at hle
    rw [← UInt16.toNat_inj, ← UInt16.toNat_inj]
    have htwo : (2 : UInt16).toNat = 2 := rfl
    have hone : (1 : UInt16).toNat = 1 := rfl
    omega
  · rw [hbits']
    exact hbits
  · rw [hframes', hchannels']
    exact hframes
  · rw [h.entered]
    dsimp only
    split
    · simp
    · assumption
  · rw [hencryption', hiv']
    intro hencrypted
    obtain ⟨key, hkey, haes⟩ := h.cipher hencrypted
    exact ⟨io, session, key, hmem, hkey, haes⟩

/-- **Playing implies fully configured.** After any calls of the owner and turns of
polls, with any of the steps of configuring failing: a pipeline that plays has
parameters within the limits, the decoder of its codec, and for an encrypted session the
key that was unwrapped when it was configured. Its stream type is one that a poll
handles, as long as the sessions come from the control plane. And opening the decoder
of a session that passes the checks fails for no other reason than the AAC library. -/
theorem playing_configured (aead : Aead) (listener : NetSocket) (steps : List PipelineStep) :
    let p := (pipelineRun aead listener steps).pipeline
    (p.state = .playing → PlaysConfigured steps p) ∧
    ((∀ io session, Configures steps io session → FromControlPlane session) →
      p.session.streamType = 0 ∨ p.session.streamType = streamTypeRealtime ∨
        p.session.streamType = streamTypeBuffered) ∧
    (∀ ptp io session, acceptsSession session = true → session.codec ≠ .aac →
      ((p.enter ptp session).openDecoder io session).2 = true) := by
  have h := pipelineRun_sound aead listener steps
  dsimp only
  generalize (pipelineRun aead listener steps).pipeline = p at h ⊢
  refine ⟨fun hstate => ?_, fun hsessions => ?_, fun ptp io session haccepts hcodec => ?_⟩
  · have hconfigured := h.playing hstate
    obtain ⟨io, session, hmem, hsetup⟩ := h.configured hconfigured
    exact hsetup.plays hconfigured hmem
  · rcases h.session with hzero | ⟨io, session, hmem, htype⟩
    · exact Or.inl hzero
    · rw [htype]
      exact (hsessions io session hmem).streamType
  · -- the answer of the AAC library does not matter for another codec
    have hsame : (p.enter ptp session).openDecoder io session =
        (p.enter ptp session).openDecoder { io with aacOpens := true } session := by
      rw [AudioPipeline.openDecoder, AudioPipeline.openDecoder, enter_codec]
      cases hsession : session.codec with
      | aac => exact absurd hsession hcodec
      | unknown => rfl
      | alac => rfl
      | pcm => rfl
    rw [hsame]
    exact AudioPipeline.openDecoder_ok rfl haccepts (h.pool.enter_used ptp session)
      (enter_codec p ptp session)

end PortableAirplay.Audio
