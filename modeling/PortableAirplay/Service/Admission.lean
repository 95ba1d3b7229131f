import PortableAirplay.Audio.PipelineRun
import PortableAirplay.Protocol.Fragmentation
import PortableAirplay.Protocol.SdpInForce
import PortableAirplay.Service.Boundaries
import PortableAirplay.Service.SessionIsolation

/-!
# Sessions that start

The control plane and the audio plane check a session separately. What a SETUP stores
passes the checks of `audio_pipeline_configure`. What an ANNOUNCE stores passes them if and
only if the lines in force keep to the limits of the pipeline (`FitsPipeline`), since
`sdp_parse` lets 24 bits and up to 8192 frames through. A receiver on which every
description that is accepted keeps to them, and brings the key that it asks for, does not
fail (`admitted_sessions_start`).
-/

set_option autoImplicit false

namespace PortableAirplay.Service

open PortableAirplay.Airplay
open PortableAirplay.Audio
open PortableAirplay.Library
open PortableAirplay.Platform
open PortableAirplay.Protocol
open PortableAirplay.Sync
open PortableAirplay.Util

/-! ## Descriptions -/

/-- The lines in force keep to the limits of the pipeline. A sample size other than 16 or
24 and a packet of none or more than 8192 frames are replaced before they are stored. -/
def FitsPipeline (body : List UInt8) : Prop :=
  bitsInForce (latestLines body) ≠ 24 ∧
    (codecInForce (latestLines body) = .aac ∨
      (framesInForce (latestLines body)).toNat ≤ alacMaxSamplesPerFrame ∨
      8192 < framesInForce (latestLines body))

instance (body : List UInt8) : Decidable (FitsPipeline body) :=
  inferInstanceAs (Decidable (_ ∧ (_ ∨ _ ∨ _)))

/-- A description that asks for decryption brings a key. -/
def BringsKey (body : List UInt8) : Prop :=
  (latestLines body).any asksDecryption = true → (latestLines body).any bringsKey = true

instance (body : List UInt8) : Decidable (BringsKey body) :=
  inferInstanceAs (Decidable (_ → _))

section Descriptions

variable {body : List UInt8} {session : SdpSession}

theorem parsed_bits_iff (h : ParsedFrom session body) :
    session.bitsPerSample = 16 ↔ bitsInForce (latestLines body) ≠ 24 := by
  rw [h.bits]
  by_cases hbits : bitsInForce (latestLines body) = 24
  · rw [if_pos hbits]
    exact ⟨fun hfalse => absurd hfalse (by decide), fun hne => absurd hbits hne⟩
  · rw [if_neg hbits]
    exact ⟨fun _ => hbits, fun _ => rfl⟩

/-- What is stored for the frames of a packet is in the limit if what was asked for is, or
was replaced. -/
theorem parsed_frames_iff (h : ParsedFrom session body) :
    session.framesPerPacket.toNat ≤ alacMaxSamplesPerFrame ↔
      (framesInForce (latestLines body)).toNat ≤ alacMaxSamplesPerFrame ∨
        8192 < framesInForce (latestLines body) := by
  have hdefault : defaultFramesPerPacket.toNat ≤ alacMaxSamplesPerFrame := by decide
  rw [h.frames]
  by_cases hreplaced : framesInForce (latestLines body) = 0 ∨
      framesInForce (latestLines body) > 8192
  · rw [if_pos hreplaced]
    refine ⟨fun _ => ?_, fun _ => hdefault⟩
    rcases hreplaced with hzero | hlarge
    · rw [hzero]
      exact .inl (Nat.zero_le _)
    · exact .inr hlarge
  · rw [if_neg hreplaced]
    refine ⟨Or.inl, fun hor => ?_⟩
    rcases hor with hle | hlarge
    · exact hle
    · exact absurd (.inr hlarge) hreplaced

theorem parsed_frames_ne_zero (h : ParsedFrom session body) : session.framesPerPacket ≠ 0 := by
  rw [h.frames]
  by_cases hreplaced : framesInForce (latestLines body) = 0 ∨
      framesInForce (latestLines body) > 8192
  · rw [if_pos hreplaced]
    decide
  · rw [if_neg hreplaced]
    exact fun hzero => hreplaced (.inl hzero)

/-- The samples of a packet fit if its frames are in the limit, or are those of AAC. -/
theorem samples_fit {frames : UInt32} {channels : UInt16}
    (hframes : frames.toNat ≤ alacMaxSamplesPerFrame ∨ frames = 1024) (hchannels : channels ≤ 2) :
    frames.toNat * channels.toNat ≤ maxAudioBufferSamples := by
  have hlimit : frames.toNat ≤ 1024 := by
    rcases hframes with hle | rfl
    · exact hle.trans (by decide)
    · exact Nat.le_refl 1024
  have hsamples : maxAudioBufferSamples = 1024 * 2 := rfl
  rw [hsamples]
  exact Nat.mul_le_mul hlimit hchannels

/-- **A parsed description passes the checks of the pipeline** if and only if its lines in
force keep to the limits. -/
theorem sdpParse_accepted {scratchLen : ℕ} (h : sdpParse body scratchLen = some session) :
    acceptsSession session = true ↔ FitsPipeline body := by
  have hparsed := sdpParse_describes h
  rw [acceptsSession_iff, FitsPipeline, parsed_bits_iff hparsed, parsed_frames_iff hparsed,
    hparsed.codec]
  constructor
  · rintro ⟨-, -, -, hbits, -, hframes, -⟩
    exact ⟨hbits, hframes⟩
  · rintro ⟨hbits, hframes⟩
    refine ⟨hparsed.rate, hparsed.channels.1, hparsed.channels.2, hbits, parsed_frames_ne_zero hparsed,
      hframes, samples_fit ?_ hparsed.channels.2⟩
    rcases hframes with haac | hlimit
    · exact .inr (hparsed.aac (hparsed.codec.mpr haac))
    · exact .inl ((parsed_frames_iff hparsed).mpr hlimit)

theorem sdpParse_keyed {scratchLen : ℕ} (h : sdpParse body scratchLen = some session) :
    keyedSession session = true ↔ BringsKey body := by
  have hparsed := sdpParse_describes h
  rw [keyedSession, hparsed.encryption, hparsed.key, BringsKey]
  cases (latestLines body).any asksDecryption with
  | false => exact ⟨fun _ hfalse => absurd hfalse Bool.false_ne_true, fun _ => rfl⟩
  | true => exact ⟨fun hkey _ => hkey, fun hkey => hkey rfl⟩

end Descriptions

/-! ## Property lists -/

/-- What a SETUP asks for is in range. -/
theorem supported_cases {q : StreamRequest} (h : q.supported = true) :
    (q.rate = 44100 ∨ q.rate = 48000) ∧
      ((q.codec = 2 ∧ 0 < q.frames ∧ q.frames ≤ 352) ∨ (q.codec = 4 ∧ q.frames = 1024)) := by
  rw [StreamRequest.supported, Bool.and_eq_true, Bool.and_eq_true, Bool.and_eq_true,
    Bool.or_eq_true, Bool.or_eq_true, Bool.or_eq_true, beq_iff_eq, beq_iff_eq, beq_iff_eq,
    beq_iff_eq, beq_iff_eq, beq_iff_eq] at h
  obtain ⟨⟨⟨-, hcodec⟩, hrate⟩, hframes⟩ := h
  refine ⟨hrate, ?_⟩
  rcases hcodec with hcodec | hcodec
  · rw [if_pos hcodec, Bool.and_eq_true, decide_eq_true_eq, decide_eq_true_eq] at hframes
    exact .inl ⟨hcodec, hframes⟩
  · rw [if_neg (by rw [hcodec]; decide), beq_iff_eq] at hframes
    exact .inr ⟨hcodec, hframes⟩

/-- **What a SETUP stores passes the checks of the pipeline.** -/
theorem setup_accepted {q : StreamRequest} (h : q.supported = true) (key : List UInt8) :
    acceptsSession (q.session key) = true := by
  obtain ⟨hrate, hformat⟩ := supported_cases h
  have hrate' : q.rate.toUInt32 ≠ 0 := by
    rcases hrate with hrate | hrate
    · rw [hrate]
      decide
    · rw [hrate]
      decide
  have hframes : q.frames.toUInt32 ≠ 0 ∧
      ((q.codec = 4 ∧ q.frames.toUInt32 = 1024) ∨
        q.frames.toUInt32.toNat ≤ alacMaxSamplesPerFrame) := by
    rcases hformat with ⟨-, hpos, hle⟩ | ⟨hcodec, hframes⟩
    · have hpos' : 0 < q.frames.toNat := UInt64.lt_iff_toNat_lt.mp hpos
      have hle' : q.frames.toNat ≤ 352 := UInt64.le_iff_toNat_le.mp hle
      have hvalue : q.frames.toUInt32.toNat = q.frames.toNat := by
        rw [UInt64.toNat_toUInt32]
        omega
      refine ⟨fun hzero => ?_, .inr (hvalue.trans_le hle')⟩
      rw [hzero, UInt32.toNat_zero] at hvalue
      omega
    · rw [hframes]
      exact ⟨by decide, .inl ⟨hcodec, by decide⟩⟩
  have hcodec : (q.session key).codec = if q.codec = 2 then .alac else .aac := rfl
  have htwo : (2 : UInt16) ≠ 0 ∧ (2 : UInt16) ≤ 2 := by decide
  refine (acceptsSession_iff _).mpr
    ⟨hrate', htwo.1, htwo.2, rfl, hframes.1, ?_, samples_fit ?_ htwo.2⟩
  · rcases hframes.2 with ⟨haac, -⟩ | hle
    · rw [hcodec, if_neg (by rw [haac]; decide)]
      exact .inl rfl
    · exact .inr hle
  · exact hframes.2.symm.imp_right And.right

theorem setup_keyed (q : StreamRequest) (key : List UInt8) :
    keyedSession (q.session key) = true := rfl

/-! ## Starting -/

/-- No call fails while a session is started, and the device opens. -/
structure SessionIo.Succeeds (io : SessionIo) : Prop where
  configure : io.configure.Succeeds
  device : io.deviceOpens = true

section Starting

variable {io : SessionIo} {t : AudioThread} {stream : StreamState}

/-- A session starts if and only if its parameters are accepted and its key is there. -/
theorem restartAudioSession_ok (hio : io.Succeeds) (hpool : t.pipeline.PoolOwned) :
    (restartAudioSession io t stream).ok =
      (acceptsSession stream.session && keyedSession stream.session) := by
  have hclosed : (closeAudio t).pipeline.PoolOwned := hpool
  have hconfigured := audioPipelineConfigure_ok hio.configure hclosed stream.session
  rw [restartAudioSession]
  dsimp only
  cases hok : (acceptsSession stream.session && keyedSession stream.session) with
  | false =>
      rw [hok] at hconfigured
      rw [if_pos hconfigured]
  | true =>
      rw [hok] at hconfigured
      have hready := (audioPipelineConfigure_of_ok hconfigured).2
      have hstarted : (audioPipelineStart (audioPipelineConfigure io.configure
          (closeAudio t).pipeline stream.session).1).2 = true := by
        rw [hready, audioPipelineStart, if_neg (by simp)]
      rw [if_neg (by rw [hconfigured]; decide), if_neg (by rw [hio.device]; decide),
        if_neg (by rw [hstarted]; decide)]

/-- An iteration succeeds if a session that it is to play can be started. -/
theorem applyStream_ok (hio : io.Succeeds) (hpool : t.pipeline.PoolOwned)
    (hsession : wantsAudio stream = true →
      acceptsSession stream.session = true ∧ keyedSession stream.session = true) :
    (applyStream io t stream).ok = true := by
  have htransport : (updateAudioTransport t stream).pipeline.PoolOwned := by
    rw [updateAudioTransport]
    split
    · exact hpool
    · exact hpool
  have hswitch : (switchAudio io (updateAudioTransport t stream) stream).ok = true := by
    generalize updateAudioTransport t stream = u at htransport ⊢
    rw [switchAudio]
    by_cases hwants : wantsAudio stream = false
    · rw [if_pos hwants]
      split
      · rfl
      · rfl
    · rw [if_neg hwants]
      rw [Bool.not_eq_false] at hwants
      obtain ⟨haccepted, hkeyed⟩ := hsession hwants
      have hstarted : (startAudioSession io u stream).ok = true := by
        rw [startAudioSession]
        split
        · rfl
        · rw [restartAudioSession_ok hio htransport, haccepted, hkeyed]
          rfl
      dsimp only
      rw [if_neg (by rw [hstarted]; decide)]
      exact hstarted
  rw [applyStream, if_neg (by rw [hswitch]; decide)]
  exact hswitch

end Starting

/-! ## Polling -/

/-- `audio_pipeline_poll` knows the stream type. -/
def KnownType (streamType : UInt16) : Prop :=
  streamType = 0 ∨ streamType = streamTypeRealtime ∨ streamType = streamTypeBuffered

/-- The network, the listener and the device do not fail in a turn of a poll. -/
structure TurnSucceeds (io : TurnIo) : Prop where
  receiver : io.inputs.receiver.Succeeds
  event : UdpOffer.error ∉ io.inputs.ptp.1
  general : UdpOffer.error ∉ io.inputs.ptp.2
  accept : io.record.buffered.accept ≠ .error
  delay : 0 ≤ io.play.outputDelayFrames

section Polling

variable {aead : Aead} {io : TurnIo} {p : AudioPipeline}

theorem ptpSyncPoll_ok {io : List UdpOffer × List UdpOffer} (hevent : UdpOffer.error ∉ io.1)
    (hgeneral : UdpOffer.error ∉ io.2) (p : PtpSync) : (ptpSyncPoll p io).2 = true := by
  rw [ptpSyncPoll]
  dsimp only
  split
  · rfl
  · split
    · exact udpBatch_ok _ _ _ _ _ hevent
    · exact udpBatch_ok _ _ _ _ _ hgeneral

theorem receiveRecord_result (io : BufferedIo) (b : BufferedAudio) :
    0 ≤ (receiveRecord io b).result := by
  have hpoll := receiveRecord_poll io b
  generalize receiveRecord io b = r at hpoll
  cases hpoll with
  | waiting data received => exact Int.le_refl 0
  | dropped received => exact Int.le_refl 0
  | consumed data received =>
      rw [deliverRecord]
      split
      · exact Int.zero_le_ofNat 1
      · exact Int.zero_le_ofNat 1

/-- Only the listener can make the poll of the connection fail. -/
theorem bufferedAudioPoll_result {io : BufferedIo} (haccept : io.accept ≠ .error)
    (b : BufferedAudio) (ip : CString) : 0 ≤ (bufferedAudioPoll io b ip).result := by
  rw [bufferedAudioPoll]
  split
  · exact receiveRecord_result io b
  · cases hoffer : io.accept with
    | timeout => exact Int.le_refl 0
    | error => exact absurd hoffer haccept
    | accepted handle peer =>
        dsimp only
        split
        · exact Int.le_refl 0
        · exact receiveRecord_result io _

theorem schedule_ne_fail {play : PlayIo} (hdelay : 0 ≤ play.outputDelayFrames)
    (slot : Audio.Slot) : p.schedule play slot ≠ .fail := by
  rw [AudioPipeline.schedule]
  generalize pipelineDeadline p (p.playout.packets slot).header.timestamp play = found
  cases found with
  | none => exact PlayVerdict.noConfusion
  | some deadline =>
      dsimp only
      split
      · exact PlayVerdict.noConfusion
      · rw [if_neg (by omega)]
        split
        · exact PlayVerdict.noConfusion
        · split
          · exact PlayVerdict.noConfusion
          · exact PlayVerdict.noConfusion

/-- Only the device can make the schedule fail. -/
theorem playVerdict_ne_fail {play : PlayIo} (hdelay : 0 ≤ play.outputDelayFrames) :
    playVerdict p play ≠ .fail := by
  unfold playVerdict
  cases playoutPeek p.playout with
  | none => exact PlayVerdict.noConfusion
  | some slot => exact schedule_ne_fail hdelay slot

/-- **A poll of a session of a known type does not fail** unless the platform does. -/
theorem pollTurn_ok (hio : TurnSucceeds io) (htype : KnownType p.session.streamType)
    {phase : PollPhase} (hphase : phase ≠ .done false) :
    (pollTurn aead io p phase).phase ≠ .done false := by
  cases phase with
  | inputs =>
      -- neither the receiver nor the PTP sockets fail
      have hreceived := rtpReceiverPoll_ok (pipelineCallbacks aead)
        (p.requestTiming io.inputs.now).peerIp hio.receiver (p.requestTiming io.inputs.now)
      have hinputs : (pipelinePollInputs aead io.inputs p).2 = true := by
        rw [pipelinePollInputs]
        dsimp only
        rw [if_neg (by rw [hreceived]; decide)]
        exact ptpSyncPoll_ok hio.event hio.general _
      rw [KnownType] at htype
      rw [pollTurn, inputsTurn, if_pos htype]
      dsimp only
      rw [if_neg (by rw [hinputs]; decide)]
      split
      · exact PollPhase.noConfusion
      · exact PollPhase.noConfusion
  | receiving i limit =>
      -- a record that is not wanted is no failure, and a lost one closes the connection only
      have hresult := bufferedAudioPoll_result hio.accept p.buffered p.timingPeer.ip
      have hrecord : (pipelinePollRecord aead io.record p).2 =
          bufferedAudioPoll io.record.buffered p.buffered p.timingPeer.ip := by
        rw [pipelinePollRecord]
        split
        · rfl
        · rfl
      rw [pollTurn, Audio.receiveTurn]
      split
      · dsimp only
        rw [hrecord, if_neg (by omega)]
        split
        · exact PollPhase.noConfusion
        · exact PollPhase.noConfusion
      · exact PollPhase.noConfusion
  | playing batch =>
      -- the output device is the only thing that could fail here
      have hverdict := playVerdict_ne_fail (p := p) hio.delay
      rw [pollTurn, playTurn]
      split
      · cases hplay : playVerdict p io.play with
        | wait => exact fun h => Bool.noConfusion (PollPhase.done.inj h)
        | fail => exact absurd hplay hverdict
        | late slot => exact PollPhase.noConfusion
        | submit slot => exact PollPhase.noConfusion
      · exact fun h => Bool.noConfusion (PollPhase.done.inj h)
  | done ok => exact hphase

end Polling

/-! ## Runs -/

/-- The session of a stream state can be started and polled. -/
structure Startable (stream : StreamState) : Prop where
  accepted : stream.hasSession = true → acceptsSession stream.session = true
  keyed : stream.hasSession = true → keyedSession stream.session = true
  type : stream.hasSession = true → KnownType stream.session.streamType

theorem Startable.none {stream : StreamState} (h : stream.hasSession = false) :
    Startable stream := by
  have hnot : stream.hasSession ≠ true := by
    rw [h]
    exact Bool.false_ne_true
  exact ⟨fun hs => absurd hs hnot, fun hs => absurd hs hnot, fun hs => absurd hs hnot⟩

/-- The same session, or none. -/
theorem Startable.same {before after : StreamState} (h : Startable before)
    (hsession : after.session = before.session) (hhas : after.hasSession = before.hasSession) :
    Startable after := by
  refine ⟨?_, ?_, ?_⟩
  · rw [hsession, hhas]
    exact h.accepted
  · rw [hsession, hhas]
    exact h.keyed
  · rw [hsession, hhas]
    exact h.type

/-- An ANNOUNCE is answered with 200. -/
def announceAccepted (request : RtspRequest) : Bool :=
  request.method = .announce &&
    (sdpParse request.body sdpScratchMax).any fun parsed => parsed.codec ≠ .unknown

/-- A request that is not answered with 200 to a description that does not start. -/
def RequestFits (request : RtspRequest) : Prop :=
  announceAccepted request = true → FitsPipeline request.body ∧ BringsKey request.body

instance (request : RtspRequest) : Decidable (RequestFits request) :=
  inferInstanceAs (Decidable (_ → _))

theorem streamStep_startable {s : RtspServer} {i : Protocol.Slot} {request : RtspRequest}
    {stream : StreamState} {owner : Option Protocol.Slot}
    (h : StreamStep s i request stream owner) (hs : Startable s.stream)
    (hfits : RequestFits request) : Startable stream := by
  cases h with
  | same => exact hs
  | announce parsed hmethod hparse hcodec =>
      have hanswered : announceAccepted request = true := by
        rw [announceAccepted, hmethod, hparse]
        simpa using hcodec
      obtain ⟨hlimits, hkey⟩ := hfits hanswered
      exact ⟨fun _ => (sdpParse_accepted hparse).mpr hlimits,
        fun _ => (sdpParse_keyed hparse).mpr hkey, fun _ => .inl (sdpParse_streamType hparse)⟩
  | setup q key hmethod hbody hencrypted hsupported =>
      have htype : KnownType (q.session key).streamType :=
        FromControlPlane.streamType (.inr ⟨q, key, hsupported, rfl⟩)
      exact ⟨fun _ => setup_accepted hsupported key, fun _ => setup_keyed q key, fun _ => htype⟩
  | timing port hmethod hbody howner => exact hs.same rfl rfl
  | volume level => exact hs.same rfl rfl
  | flush rtptime howner => exact hs.same rfl rfl
  | record rtptime hmethod htime howner hsession =>
      cases rtptime with
      | none => exact hs.same rfl rfl
      | some timestamp => exact hs.same rfl rfl
  | pause howner => exact hs.same rfl rfl
  | release hmethod howner => exact Startable.none rfl
  | anchor a hencrypted howner =>
      rw [anchorStream]
      split
      · exact hs.same rfl rfl
      · exact hs.same rfl rfl
  | bufferedFlush sequence hencrypted howner => exact hs.same rfl rfl

/-- The receiver has not failed, and nothing that it holds makes it fail. -/
structure Admitted (listener : NetSocket) (s : AirplayServer) : Prop where
  session : Startable s.stream
  books : Sane listener s.audio.pipeline
  type : KnownType s.audio.pipeline.session.streamType
  phase : s.audio.phase ≠ .polling (.done false)
  failed : s.failed = false

/-- What a step may bring: a description that starts, and a platform that does its part. -/
def StepFits (_ : AirplayServer) : ServerStep → Prop
  | .control (.request _ request _) => RequestFits request
  | .control _ => True
  | .audio io => io.session.Succeeds ∧ TurnSucceeds io.turn ∧ io.writes = true
  | .stop => True
  | .fail => False

section Steps

variable {prim : Primitives} {listener : NetSocket} {s : AirplayServer}

theorem controlStep_startable {c : ControlState} (h : Startable c.server.stream)
    {step : ControlStep} (hfits : StepFits s (.control step)) :
    Startable (controlStep prim c step).server.stream := by
  cases step with
  | accept handle peer =>
      rw [controlStep]
      cases freeSlot c.server with
      | none => exact h
      | some i => exact h
  | close i =>
      rw [controlStep]
      dsimp only
      rw [closeClient_stream, releaseStream]
      split
      · exact Startable.none rfl
      · exact h
  | request i request io =>
      rw [controlStep, requestStep]
      split
      · exact h
      · exact streamStep_startable (handleRequest_effect prim io c.server i request).stream h hfits
  | receive i pairing record eventClient rx => exact h

/-- Configuring leaves the type of the session before, or that of the new one. -/
theorem audioPipelineConfigure_type {io : ConfigureIo} {p : AudioPipeline} {session : SdpSession}
    (hp : KnownType p.session.streamType) (hsession : KnownType session.streamType) :
    KnownType (audioPipelineConfigure io p session).1.session.streamType := by
  have hconfigured := audioPipelineConfigure_configured io p session
  generalize audioPipelineConfigure io p session = r at hconfigured ⊢
  cases hconfigured with
  | refused ptp => exact hp
  | broken after hconfigured hstate htype =>
      dsimp only
      rw [htype]
      exact hsession
  | done after hsetup hstate htype =>
      dsimp only
      rw [htype]
      exact hsession

theorem audioPipelineStart_session (p : AudioPipeline) :
    (audioPipelineStart p).1.session = p.session := by
  rw [audioPipelineStart]
  split
  · rfl
  · rfl

theorem audioPipelineSetVolume_session (p : AudioPipeline) (volumeDb : UInt32) :
    (audioPipelineSetVolume p volumeDb).session = p.session := by
  obtain ⟨volume, hset⟩ := audioPipelineSetVolume_eq p volumeDb
  rw [hset]

theorem enterSession_session (t : AudioThread) (stream : StreamState) :
    (enterSession t stream).thread.pipeline.session = t.pipeline.session := by
  apply enterSession_pipeline (P := fun p => p.session = t.pipeline.session) rfl
  · intro p hp
    rw [audioPipelineSetVolume_session]
    exact hp
  · exact fun _ hp => hp
  · exact fun _ hp => hp

theorem restartAudioSession_type {t : AudioThread} {stream : StreamState} (io : SessionIo)
    (ht : KnownType t.pipeline.session.streamType) (hstream : KnownType stream.session.streamType) :
    KnownType (restartAudioSession io t stream).thread.pipeline.session.streamType := by
  have hclosed : KnownType (closeAudio t).pipeline.session.streamType := ht
  have hconfigured := @audioPipelineConfigure_type io.configure _ _ hclosed hstream
  rw [restartAudioSession]
  dsimp only
  split
  · exact hconfigured
  · split
    · exact hconfigured
    · split
      · show KnownType (audioPipelineStart _).1.session.streamType
        rw [audioPipelineStart_session]
        exact hconfigured
      · dsimp only
        rw [enterSession_session]
        show KnownType (audioPipelineStart _).1.session.streamType
        rw [audioPipelineStart_session]
        exact hconfigured

/-- An iteration leaves a session of a known type in the pipeline. -/
theorem applyStream_type {t : AudioThread} {stream : StreamState} (io : SessionIo)
    (ht : KnownType t.pipeline.session.streamType)
    (hstream : wantsAudio stream = true → KnownType stream.session.streamType) :
    KnownType (applyStream io t stream).thread.pipeline.session.streamType := by
  apply applyStream_keeps (P := fun u => KnownType u.pipeline.session.streamType)
  · rw [updateAudioTransport]
    split
    · exact ht
    · exact ht
  · exact fun u hu => hu
  · exact fun hwants u hu => restartAudioSession_type io hu (hstream hwants)
  · intro u hu
    rw [updateAudioVolume]
    split
    · exact hu
    · rw [audioPipelineSetVolume_session]
      exact hu
  · intro u hu
    rw [updateAudioAnchor]
    split
    · exact hu
    · exact hu

theorem Admitted.control (h : Admitted listener s) {step : ControlStep}
    (hfits : StepFits s (.control step)) :
    Admitted listener (serverStep prim s (.control step)).1 :=
  ⟨controlStep_startable h.session hfits, h.books, h.type, h.phase, h.failed⟩

theorem Admitted.iteration (h : Admitted listener s) {io : SessionIo} (hio : io.Succeeds) :
    Admitted listener (iterationStep io s).1 := by
  have hwants : wantsAudio s.stream = true → s.stream.hasSession = true := by
    intro hwants
    rw [wantsAudio, Bool.and_eq_true] at hwants
    exact hwants.2
  have hok := applyStream_ok hio h.books.pool
    fun hs => ⟨h.session.accepted (hwants hs), h.session.keyed (hwants hs)⟩
  rw [iterationStep_eq]
  split
  · exact ⟨h.session, h.books.stop, h.type, AudioPhase.noConfusion, h.failed⟩
  · dsimp only
    rw [if_neg (by rw [hok]; decide)]
    refine ⟨h.session, (applyStream_sane s.stream h.books io).1,
      applyStream_type io h.type fun hs => h.session.type (hwants hs), ?_, h.failed⟩
    exact fun hpolling => PollPhase.noConfusion (AudioPhase.polling.inj hpolling)

theorem Admitted.turn (h : Admitted listener s) {io : AudioIo} (hio : TurnSucceeds io.turn)
    (hwrites : io.writes = true) {phase : PollPhase} (hphase : phase ≠ .done false) :
    Admitted listener (turnStep prim io s phase).1 := by
  have hturn : (pollTurn prim.aead io.turn s.audio.pipeline phase).phase ≠ .done false :=
    pollTurn_ok hio h.type hphase
  have hsession := (pollTurn_effect prim.aead io.turn s.audio.pipeline phase).setting.session
  have hbooks := h.books.turn prim.aead io.turn phase
  rw [turnStep, AirplayServer.stepped, threadTurn]
  dsimp only
  generalize pollTurn prim.aead io.turn s.audio.pipeline phase = turn at hturn hsession hbooks ⊢
  have houtput : outputFails s.audio s.stopping io.writes turn.event = false := by
    rw [outputFails.eq_def, hwrites]
    split
    · exact Bool.and_false _
    · rfl
  rw [if_neg (by
    rw [decide_eq_true_eq]
    rintro (hdone | hfails)
    · exact hturn hdone
    · rw [houtput] at hfails
      exact Bool.false_ne_true hfails)]
  refine ⟨h.session, hbooks, ?_, ?_, h.failed⟩
  · dsimp only
    rw [hsession]
    exact h.type
  · dsimp only
    cases turn.phase with
    | inputs => exact fun hpolling => PollPhase.noConfusion (AudioPhase.polling.inj hpolling)
    | receiving i limit =>
        exact fun hpolling => PollPhase.noConfusion (AudioPhase.polling.inj hpolling)
    | playing batch => exact fun hpolling => PollPhase.noConfusion (AudioPhase.polling.inj hpolling)
    | done ok => exact AudioPhase.noConfusion

/-- **A step that fits does not make the receiver fail.** -/
theorem Admitted.step (h : Admitted listener s) {step : ServerStep} (hfits : StepFits s step) :
    Admitted listener (serverStep prim s step).1 := by
  cases step with
  | control step => exact h.control hfits
  | audio io =>
      obtain ⟨hsession, hturn, hwrites⟩ := hfits
      rw [serverStep, audioStep]
      cases hphase : s.audio.phase with
      | iteration => exact h.iteration hsession
      | polling phase =>
          refine h.turn hturn hwrites ?_
          rintro rfl
          exact h.phase hphase
      | finished => exact h
  | stop => exact ⟨h.session, h.books, h.type, h.phase, h.failed⟩
  | fail => exact hfits.elim

end Steps

/-! ## Main result -/

section Stored

variable {prim : Primitives} {io : RequestIo} {s : RtspServer} {i : Protocol.Slot}
  {request : RtspRequest}

/-- An ANNOUNCE that is answered with 200 stores what was parsed. -/
theorem announce_stored (h : (airplayRtspAnnounce prim io s i request).status = 200) :
    sdpParse request.body sdpScratchMax =
      some (airplayRtspAnnounce prim io s i request).server.stream.session := by
  have hrefused : (answer prim io s i request 400 (ascii "Bad Request")).status ≠ 200 := by
    have hstatus : (answer prim io s i request 400 (ascii "Bad Request")).status = 400 := rfl
    rw [hstatus]
    decide
  rw [airplayRtspAnnounce] at h ⊢
  by_cases hbody : request.body = []
  · rw [if_pos hbody] at h
    exact absurd h hrefused
  · rw [if_neg hbody] at h ⊢
    cases hparse : sdpParse request.body sdpScratchMax with
    | none =>
        rw [hparse] at h
        exact absurd h hrefused
    | some parsed =>
        rw [hparse] at h
        dsimp only at h ⊢
        by_cases hcodec : parsed.codec = .unknown
        · rw [if_pos hcodec] at h
          exact absurd h hrefused
        · rw [if_neg hcodec]
          rfl

/-- A SETUP leaves the stream state alone, or stores what it was asked for. -/
theorem setup_stored :
    (airplay2Setup prim io s i request).server.stream = s.stream ∨
      ∃ (q : StreamRequest) (key : List UInt8), q.supported = true ∧
        (airplay2Setup prim io s i request).server.stream.session = q.session key := by
  -- the answer is sent after the stream has changed, and leaves it
  have hreply : ∀ (after : RtspServer) (w : BplistWriter) (root : ℕ),
      (plistResponse prim io after i request w root).server.stream = after.stream := by
    intro after w root
    rw [plistResponse]
    split
    · rfl
    · rfl
  rw [airplay2Setup, openEncryptedPlist]
  split
  · exact .inl rfl
  · cases bplistOpen request.body with
    | none => exact .inl rfl
    | some p =>
        dsimp only
        rw [setup]
        split
        · rw [setupEvents]
          split
          · exact .inl rfl
          · dsimp only
            split
            · exact .inl rfl
            · exact .inl (hreply _ _ _)
        · rw [setupAudio]
          split
          · exact .inl rfl
          · dsimp only
            split
            · exact .inl rfl
            · -- past the 415, what is stored is a supported request
              rename_i hsupported
              split
              · exact .inl rfl
              · split
                · exact .inl rfl
                · rename_i key _
                  refine .inr ⟨streamRequest p (bplistAt p (bplistGet p p.root (ascii "streams")) 0),
                    key, ?_, ?_⟩
                  · exact Bool.eq_true_of_not_eq_false hsupported
                  · rw [hreply]
                    rfl

end Stored

/-- **Admitted sessions start.** What a SETUP stores passes the checks of the pipeline, and
what an ANNOUNCE stores does if and only if its description fits; it starts if and only if
the description also brings the key that it asks for. A receiver whose steps all fit never
fails. -/
theorem admitted_sessions_start (prim : Primitives) (listener buffered : NetSocket)
    (localIp localMacHex deviceName : CString) :
    (∀ (io : RequestIo) (s : RtspServer) (i : Protocol.Slot) (request : RtspRequest),
      (airplayRtspAnnounce prim io s i request).status = 200 →
        (acceptsSession (airplayRtspAnnounce prim io s i request).server.stream.session = true ↔
          FitsPipeline request.body) ∧
        ∀ (start : SessionIo) (t : AudioThread), start.Succeeds → t.pipeline.PoolOwned →
          ((restartAudioSession start t
              (airplayRtspAnnounce prim io s i request).server.stream).ok = true ↔
            FitsPipeline request.body ∧ BringsKey request.body)) ∧
    (∀ (io : RequestIo) (s : RtspServer) (i : Protocol.Slot) (request : RtspRequest),
      (airplay2Setup prim io s i request).server.stream = s.stream ∨
        acceptsSession (airplay2Setup prim io s i request).server.stream.session = true) ∧
    ∀ steps : List ServerStep,
      (serverMachine prim).Guarded StepFits
          (AirplayServer.initial listener buffered localIp localMacHex deviceName) steps →
        ((serverMachine prim).run
          (AirplayServer.initial listener buffered localIp localMacHex deviceName) steps).1.failed =
            false := by
  refine ⟨fun io s i request hstatus => ?_, fun io s i request => ?_, fun steps hguard => ?_⟩
  · -- AirPlay 1: the description decides
    have hparse := announce_stored hstatus
    have haccepted := sdpParse_accepted hparse
    have hkeyed := sdpParse_keyed hparse
    refine ⟨haccepted, fun start t hstart hpool => ?_⟩
    rw [restartAudioSession_ok hstart hpool, Bool.and_eq_true, haccepted, hkeyed]
  · -- AirPlay 2: what is stored was checked by the handler
    rcases @setup_stored prim io s i request with hsame | ⟨q, key, hsupported, hstored⟩
    · exact .inl hsame
    · rw [hstored]
      exact .inr (setup_accepted hsupported key)
  · -- over a run, by the invariant `Admitted`
    have hinitial : Admitted buffered
        (AirplayServer.initial listener buffered localIp localMacHex deviceName) :=
      ⟨Startable.none rfl, create_sane buffered, .inl rfl, AudioPhase.noConfusion, rfl⟩
    have hadmitted := (serverMachine prim).run_guarded (Admitted buffered)
      (fun _ step hs hfits => hs.step hfits) steps _ hinitial hguard
    exact hadmitted.failed

/-- ANNOUNCE of an ALAC stream with 24 bits for each sample. -/
def announce24Bits : RtspRequest :=
  { RtspRequest.zero with
    method := .announce
    body := ascii "a=rtpmap:96 AppleLossless/44100\r\na=fmtp:96 352 0 24 40 10 14 2 255 0 0 44100" }

/-- A client announces the stream and records it; the audio thread runs once. -/
def stopRun : List ServerStep :=
  [.control (.accept 1 ⟨ascii "10.0.0.2", 50000⟩),
    .control (.request firstSlot announce24Bits ⟨none, none, ⟨false, none, false⟩⟩),
    ask .record [] [],
    .audio { idleAudio with
      session := ⟨⟨some (⟨some 3, 319⟩, ⟨some 4, 320⟩), true, some⟩, true⟩ }]

/-- The ANNOUNCE is answered with 200, its session is refused by the pipeline, and the
receiver stops. -/
theorem announced_24_bits_stop :
    let r := airplayRtspAnnounce idlePrimitives ⟨none, none, ⟨false, none, false⟩⟩ acceptedServer
      firstSlot announce24Bits
    let after := ((serverMachine idlePrimitives).run
      (AirplayServer.initial ⟨some 1, 5000⟩ ⟨some 2, 7000⟩ [] [] []) stopRun).1
    (r.status = 200 ∧ acceptsSession r.server.stream.session = false) ∧
      after.failed = true ∧ after.stopping = true := by
  decide +kernel

end PortableAirplay.Service
