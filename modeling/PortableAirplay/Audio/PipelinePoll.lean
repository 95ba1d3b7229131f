import PortableAirplay.Audio.AudioPipeline

/-!
# Polling the audio pipeline

The callbacks of the pipeline and the loops of `audio_pipeline_poll`. A poll is cut
into turns (`PollPhase`), one for each point where it looks at the network or at
the clock: the datagrams, one record of the buffered connection, one packet of the
playout queue. Between two turns another thread may run.

Decoding is an input (`DecodeOutcome`): the pipeline state depends only on whether a
packet gave samples. So is the product of a sample with the volume, which is a `float`.
What is sent on the timing socket changes no state and is left out.
-/

set_option autoImplicit false

namespace PortableAirplay.Audio

open PortableAirplay.Airplay
open PortableAirplay.Library
open PortableAirplay.Platform
open PortableAirplay.Protocol
open PortableAirplay.Sync

/-! ## Arriving packets -/

/-- `crypto_airplay2_decrypt_rtp`: the plaintext, or `none` for -1. -/
def cryptoAirplay2DecryptRtp (aead : Aead) (key fullPacket : List UInt8)
    (payloadOffset payloadLen outputCapacity : ℕ) : Option (List UInt8) :=
  if fullPacket.length < 12 ∨ payloadOffset > fullPacket.length ∨
      payloadLen > fullPacket.length - payloadOffset ∨ payloadLen < 24 then none
  else
    let encryptedLen := payloadLen - 8
    if encryptedLen < 16 ∨ encryptedLen - 16 > outputCapacity then none
    else
      let payload := fullPacket.drop payloadOffset
      aead.authDecrypt
        ⟨key, List.replicate 4 0 ++ (payload.drop encryptedLen).take 8, (fullPacket.drop 4).take 8,
          payload.take (encryptedLen - 16)⟩
        ((payload.drop (encryptedLen - 16)).take 16)

/-- `wire`: the header fields that are authenticated, and the payload. -/
def rtpWire (packet : RtpPacket) : List UInt8 :=
  List.replicate 4 0 ++ write32 packet.header.timestamp ++ write32 packet.header.ssrc ++
    packet.payload

/-- The packet in the clear, or `none` where it is dropped. A failed authentication
is counted. -/
def AudioPipeline.decryptPacket (aead : Aead) (p : AudioPipeline) (packet : RtpPacket) :
    AudioPipeline × Option RtpPacket :=
  if p.session.streamType = 0 then (p, some packet)
  else if packet.payload.length > rtpBufferSize - 12 then (p, none)
  else
    match cryptoAirplay2DecryptRtp aead p.session.audioKey (rtpWire packet) 12
        packet.payload.length rtpBufferSize with
    | none => ({ p with decodeErrors := p.decodeErrors + 1 }, none)
    | some plaintext => (p, some { packet with payload := plaintext })

/-- The end of `audio_pipeline_on_rtp_audio`: the packet is queued. -/
def AudioPipeline.enqueue (p : AudioPipeline) (packet : RtpPacket) (now : UInt64) :
    AudioPipeline :=
  let r := playoutPush p.playout packet
  let first := decide (r.2 > 0) && p.firstArrivalUs == 0
  { p with
    playout := r.1
    queueOverflows := if r.2 < 0 then p.queueOverflows + 1 else p.queueOverflows
    firstArrivalUs := if first then now else p.firstArrivalUs
    firstTimestamp := if first then packet.header.timestamp else p.firstTimestamp }

/-- `audio_pipeline_on_rtp_audio`. -/
def audioPipelineOnRtpAudio (aead : Aead) (p : AudioPipeline) (packet : RtpPacket)
    (now : UInt64) : AudioPipeline :=
  if p.state ≠ .playing ∨ packet.header.payloadType ≠ p.session.payloadType then p
  else
    match p.decryptPacket aead packet with
    | (p, none) => p
    | (p, some decoded) => p.enqueue decoded now

/-- `audio_pipeline_on_rtp_control`. -/
def audioPipelineOnRtpControl (p : AudioPipeline) (data : List UInt8) : AudioPipeline :=
  if p.session.streamType ≠ 0 then
    match (if p.session.streamType = streamTypeRealtime then ptpSyncAnchor data else none) with
    | none => p
    | some anchor => { p with anchor := anchor, ptp := ptpSyncSetClock p.ptp anchor.clockId }
  else
    let rate := if p.session.sampleRate = 0 then defaultSampleRate else p.session.sampleRate
    { p with ntpSync := (ntpSyncControl p.ntpSync data rate).1 }

/-- `audio_pipeline_on_rtp_timing`. A request is answered and changes nothing. -/
def audioPipelineOnRtpTiming (p : AudioPipeline) (d : Datagram) : AudioPipeline :=
  if p.ntpSyncInitialized = false then p
  else if (ntpSyncReply d.data d.now d.sent).isSome then p
  else if d.peer.port ≠ p.timingPeer.port then p
  else { p with ntpSync := (ntpSyncProcessPacket p.ntpSync d.data d.now).1 }

/-- The callbacks that `audio_pipeline_create` gives the RTP receiver. -/
def pipelineCallbacks (aead : Aead) : RtpCallbacks AudioPipeline where
  audio := audioPipelineOnRtpAudio aead
  control := audioPipelineOnRtpControl
  timing := audioPipelineOnRtpTiming

/-! ## Inputs -/

/-- What the network and the clock have for `pipeline_poll_inputs`. -/
structure InputsIo where
  now : UInt64
  receiver : ReceiverIo
  ptp : List UdpOffer × List UdpOffer

/-- `ptp_sync_poll`. -/
def ptpSyncPoll (p : PtpSync) (io : List UdpOffer × List UdpOffer) : PtpSync × Bool :=
  let handle := fun (p : PtpSync) (d : Datagram) => (ptpSyncPacket p d.data d.now).1
  if p.opened = false then (p, true)
  else
    let event := udpBatch handle 512 8 io.1 p
    if event.2 = false then event else udpBatch handle 512 8 io.2 event.1

/-- The timing request that is due. -/
def AudioPipeline.requestTiming (p : AudioPipeline) (now : UInt64) : AudioPipeline :=
  if p.timingPeer.port ≠ 0 then { p with ntpSync := (ntpSyncRequest p.ntpSync now).1 } else p

/-- `pipeline_poll_inputs`. -/
def pipelinePollInputs (aead : Aead) (io : InputsIo) (p : AudioPipeline) : AudioPipeline × Bool :=
  let p := p.requestTiming io.now
  let received := rtpReceiverPoll (pipelineCallbacks aead) p.peerIp io.receiver p
  if received.2 = false then received
  else
    let ptp := ptpSyncPoll received.1.ptp io.ptp
    ({ received.1 with ptp := ptp.1 }, ptp.2)

/-! ## Records -/

/-- `limit` of `pipeline_receive_buffered`. -/
def receiveLimit (p : AudioPipeline) : ℕ := if p.buffered.discarding then 256 else 32

/-- The condition of the loop of `pipeline_receive_buffered`. -/
def AudioPipeline.wantsRecord (p : AudioPipeline) (i limit : ℕ) : Bool :=
  decide (i < limit) &&
    (p.buffered.discarding || decide (p.playout.count.toNat < airplayPlayoutPackets - 2))

/-- What the network and the clock have for the poll of one record. -/
structure RecordIo where
  buffered : BufferedIo
  now : UInt64

/-- One poll of the buffered connection with the pipeline's callback: the pipeline and
the outcome. -/
def pipelinePollRecord (aead : Aead) (io : RecordIo) (p : AudioPipeline) :
    AudioPipeline × BufferedPoll :=
  let r := bufferedAudioPoll io.buffered p.buffered p.timingPeer.ip
  let p := { p with buffered := r.audio }
  match r.packet with
  | none => (p, r)
  | some packet => (audioPipelineOnRtpAudio aead p packet io.now, r)

/-! ## Playing -/

/-- What decoding a packet gives: samples, or `none` for an error. -/
abbrev DecodeOutcome := Option (List Int16)

/-- What the clock, the output device and the decoder have for one packet: the
readings in the loop and in the deadline, the delay of the device in frames, the
decoded samples, and the product of a sample with `volume_linear`, cut to `int16_t`. -/
structure PlayIo where
  now : UInt64
  deadlineNow : UInt64
  outputDelayFrames : ℤ
  decoded : DecodeOutcome
  scaled : Int16 → Int16

/-- `audio_pipeline_decode_packet` on the state: the counters, and the samples handed
to the output. -/
def audioPipelineDecodePacket (p : AudioPipeline) (packet : RtpPacket) (decoded : DecodeOutcome)
    (scaled : Int16 → Int16) : AudioPipeline × List Int16 :=
  if p.state ≠ .playing ∨ packet.header.payloadType ≠ p.session.payloadType then (p, [])
  else
    -- the signed distance from the number that was due
    let delta := (packet.header.sequence - (p.lastSequence + 1)).toInt16.toInt
    let lost := decide (p.packetsReceived > 0) && decide (delta > 0)
    let p :=
      { p with
        packetsLost := if lost then p.packetsLost + UInt32.ofInt delta else p.packetsLost
        lastSequence := packet.header.sequence
        packetsReceived := p.packetsReceived + 1 }
    match decoded with
    | none =>
        -- raw samples have no decoder that could fail
        if p.session.codec = .alac ∨ p.session.codec = .aac then
          ({ p with decodeErrors := p.decodeErrors + 1 }, [])
        else (p, [])
    -- decoded, but nothing to hear
    | some [] => (p, [])
    | some (x :: xs) =>
        let audible := (x :: xs).any (· ≠ 0)
        ({ p with
            nonzeroPackets := if audible then p.nonzeroPackets + 1 else p.nonzeroPackets
            decodedPackets := p.decodedPackets + 1 }, (x :: xs).map scaled)

/-- `pipeline_ntp_deadline`. -/
def pipelineNtpDeadline (p : AudioPipeline) (timestamp : UInt32) (io : PlayIo) : Option UInt64 :=
  match ntpSyncDeadline p.ntpSync timestamp p.session.sampleRate io.deadlineNow with
  | some deadline => some deadline
  | none =>
      if p.timingPeer.port ≠ 0 ∧ io.now - p.firstArrivalUs < 3000000 then none
      else
        let offset := ((timestamp - p.firstTimestamp).toInt32.toInt * 1000000).tdiv
          p.session.sampleRate.toNat
        some (p.firstArrivalUs + 2000000 + UInt64.ofInt offset)

/-- `pipeline_ptp_deadline`. -/
def pipelinePtpDeadline (p : AudioPipeline) (timestamp : UInt32) (io : PlayIo) : Option UInt64 :=
  ptpSyncDeadline p.ptp p.anchor timestamp p.session.sampleRate p.session.latencyFrames
    io.deadlineNow

/-- The deadline resolver of the session's kind. -/
def pipelineDeadline (p : AudioPipeline) (timestamp : UInt32) (io : PlayIo) : Option UInt64 :=
  if p.session.streamType = 0 then pipelineNtpDeadline p timestamp io
  else pipelinePtpDeadline p timestamp io

/-- What the loop of `pipeline_play_ready_packets` does with the front packet. -/
inductive PlayVerdict where
  | wait
  | fail
  | late (slot : Slot)
  | submit (slot : Slot)
  deriving DecidableEq

/-- The decision on the packet of a slot. -/
def AudioPipeline.schedule (p : AudioPipeline) (io : PlayIo) (slot : Slot) : PlayVerdict :=
  match pipelineDeadline p (p.playout.packets slot).header.timestamp io with
  | none => .wait
  | some deadline =>
      let ahead := (deadline - io.now).toInt64.toInt
      if ahead > 40000 then .wait
      else if io.outputDelayFrames < 0 then .fail
      else
        let delay := (io.outputDelayFrames * 1000000).tdiv p.session.sampleRate.toNat
        if ahead - delay > 5000 then .wait
        else if ahead - delay < -100000 then .late slot
        else .submit slot

/-- The decision on the front packet. -/
def playVerdict (p : AudioPipeline) (io : PlayIo) : PlayVerdict :=
  match playoutPeek p.playout with
  | none => .wait
  | some slot => p.schedule io slot

/-- The late front packet is dropped. -/
def AudioPipeline.dropLate (p : AudioPipeline) (slot : Slot) : AudioPipeline :=
  { p with latePackets := p.latePackets + 1, playout := playoutPop p.playout slot }

/-- The front packet is decoded and taken out of the queue. -/
def AudioPipeline.submit (p : AudioPipeline) (io : PlayIo) (slot : Slot) :
    AudioPipeline × List Int16 :=
  let r := audioPipelineDecodePacket p (p.playout.packets slot).packet io.decoded io.scaled
  ({ r.1 with playout := playoutPop r.1.playout slot }, r.2)

/-! ## The poll -/

/-- Where a poll stands: before the inputs, in the loop over records, in the loop over
ready packets, or at its end with the value it returns. -/
inductive PollPhase where
  | inputs
  | receiving (i limit : ℕ)
  | playing (batch : ℕ)
  | done (ok : Bool)
  deriving DecidableEq

/-- What the outside has for one turn; each turn uses its own part. -/
structure TurnIo where
  inputs : InputsIo
  record : RecordIo
  play : PlayIo

/-- What a turn did with packets: a record was completed, with the packet for the
callback if it was not kept back; the front packet was dropped as late or handed to
the decoder, with its samples. -/
inductive TurnEvent where
  | quiet
  | record (data : List UInt8) (packet : Option RtpPacket)
  | late (packet : RtpPacket)
  | submitted (packet : RtpPacket) (samples : List Int16)
  deriving DecidableEq

/-- The outcome of a turn. -/
structure Turn where
  pipeline : AudioPipeline
  phase : PollPhase
  event : TurnEvent

/-- The first turn: the kind of the session is looked at, and the inputs are read. -/
def inputsTurn (aead : Aead) (io : InputsIo) (p : AudioPipeline) : Turn :=
  if p.session.streamType = 0 ∨ p.session.streamType = streamTypeRealtime ∨
      p.session.streamType = streamTypeBuffered then
    let r := pipelinePollInputs aead io p
    if r.2 = false then ⟨r.1, .done false, .quiet⟩
    else if p.session.streamType = streamTypeBuffered ∧ r.1.state = .playing then
      ⟨r.1, .receiving 0 (receiveLimit r.1), .quiet⟩
    else ⟨r.1, .playing 0, .quiet⟩
  else ⟨p, .done false, .quiet⟩

/-- The record that a poll of the connection completed, if any. -/
def completedRecord (before : BufferedAudio) (r : BufferedPoll) : TurnEvent :=
  if r.result = 1 then .record (before.data ++ r.received) r.packet else .quiet

/-- One turn of the loop of `pipeline_receive_buffered`. -/
def receiveTurn (aead : Aead) (io : RecordIo) (p : AudioPipeline) (i limit : ℕ) : Turn :=
  if p.wantsRecord i limit then
    let r := pipelinePollRecord aead io p
    if r.2.result < 0 then ⟨r.1, .done false, .quiet⟩
    else if r.2.result = 0 then ⟨r.1, .playing 0, .quiet⟩
    else ⟨r.1, .receiving (i + 1) limit, completedRecord p.buffered r.2⟩
  else ⟨p, .playing 0, .quiet⟩

/-- One turn of the loop of `pipeline_play_ready_packets`. -/
def playTurn (io : PlayIo) (p : AudioPipeline) (batch : ℕ) : Turn :=
  if batch < 16 ∧ p.state = .playing then
    match playVerdict p io with
    | .wait => ⟨p, .done true, .quiet⟩
    | .fail => ⟨p, .done false, .quiet⟩
    | .late slot => ⟨p.dropLate slot, .playing (batch + 1), .late (p.playout.packets slot).packet⟩
    | .submit slot =>
        let r := p.submit io slot
        ⟨r.1, .playing (batch + 1), .submitted (p.playout.packets slot).packet r.2⟩
  else ⟨p, .done true, .quiet⟩

/-- One turn of `audio_pipeline_poll`. -/
def pollTurn (aead : Aead) (io : TurnIo) (p : AudioPipeline) : PollPhase → Turn
  | .inputs => inputsTurn aead io.inputs p
  | .receiving i limit => receiveTurn aead io.record p i limit
  | .playing batch => playTurn io.play p batch
  | .done ok => ⟨p, .done ok, .quiet⟩

/-! ## Where a turn leaves the pipeline -/

/-- Reading the inputs, for a session of a kind that a poll knows. -/
theorem inputsTurn_pipeline (aead : Aead) (io : InputsIo) (p : AudioPipeline) :
    (inputsTurn aead io p).pipeline =
      if p.session.streamType = 0 ∨ p.session.streamType = streamTypeRealtime ∨
          p.session.streamType = streamTypeBuffered then (pipelinePollInputs aead io p).1
      else p := by
  rw [inputsTurn]
  split
  · dsimp only
    split
    · rfl
    · split
      · rfl
      · rfl
  · rfl

theorem inputsTurn_event (aead : Aead) (io : InputsIo) (p : AudioPipeline) :
    (inputsTurn aead io p).event = .quiet := by
  rw [inputsTurn]
  split
  · dsimp only
    split
    · rfl
    · split
      · rfl
      · rfl
  · rfl

/-- Receiving, where a record is wanted. -/
theorem receiveTurn_pipeline (aead : Aead) (io : RecordIo) (p : AudioPipeline) (i limit : ℕ) :
    (receiveTurn aead io p i limit).pipeline =
      if p.wantsRecord i limit then (pipelinePollRecord aead io p).1 else p := by
  rw [receiveTurn]
  split
  · dsimp only
    split
    · rfl
    · split
      · rfl
      · rfl
  · rfl

/-- Playing goes on with the next packet, or the poll is done. -/
theorem playTurn_phase (io : PlayIo) (p : AudioPipeline) (batch : ℕ) :
    (playTurn io p batch).phase = .playing (batch + 1) ∨
      ∃ ok, (playTurn io p batch).phase = .done ok := by
  rw [playTurn]
  split
  · cases playVerdict p io with
    | wait => exact Or.inr ⟨_, rfl⟩
    | fail => exact Or.inr ⟨_, rfl⟩
    | late slot => exact Or.inl rfl
    | submit slot => exact Or.inl rfl
  · exact Or.inr ⟨_, rfl⟩

/-! ## What a turn may change -/

/-- What only the operations of the pipeline's owner change. -/
structure SameSetting (p after : AudioPipeline) : Prop where
  session : after.session = p.session
  state : after.state = p.state
  configured : after.configured = p.configured
  timingPeer : after.timingPeer = p.timingPeer
  alacDecoder : after.alacDecoder = p.alacDecoder
  alacUsed : after.alacUsed = p.alacUsed
  aacDecoder : after.aacDecoder = p.aacDecoder
  aesContext : after.aesContext = p.aesContext
  volumeDb : after.volumeDb = p.volumeDb

theorem SameSetting.refl (p : AudioPipeline) : SameSetting p p :=
  ⟨rfl, rfl, rfl, rfl, rfl, rfl, rfl, rfl, rfl⟩

theorem SameSetting.trans {p q r : AudioPipeline} (hpq : SameSetting p q)
    (hqr : SameSetting q r) : SameSetting p r where
  session := hqr.session.trans hpq.session
  state := hqr.state.trans hpq.state
  configured := hqr.configured.trans hpq.configured
  timingPeer := hqr.timingPeer.trans hpq.timingPeer
  alacDecoder := hqr.alacDecoder.trans hpq.alacDecoder
  alacUsed := hqr.alacUsed.trans hpq.alacUsed
  aacDecoder := hqr.aacDecoder.trans hpq.aacDecoder
  aesContext := hqr.aesContext.trans hpq.aesContext
  volumeDb := hqr.volumeDb.trans hpq.volumeDb

/-- An arriving packet or datagram leaves the connection alone and what is queued in
place. -/
structure Arrival (p after : AudioPipeline) : Prop where
  setting : SameSetting p after
  buffered : after.buffered = p.buffered
  queue : p.playout.Keeps after.playout

theorem Arrival.refl (p : AudioPipeline) : Arrival p p :=
  ⟨SameSetting.refl p, rfl, Playout.Keeps.refl _⟩

theorem Arrival.trans {p q r : AudioPipeline} (hpq : Arrival p q) (hqr : Arrival q r) :
    Arrival p r where
  setting := hpq.setting.trans hqr.setting
  buffered := hqr.buffered.trans hpq.buffered
  queue := hpq.queue.trans hqr.queue

/-- Decrypting a packet counts an error, if anything. -/
theorem decryptPacket_eq (aead : Aead) (p : AudioPipeline) (packet : RtpPacket) :
    ∃ errors, (p.decryptPacket aead packet).1 = { p with decodeErrors := errors } := by
  rw [AudioPipeline.decryptPacket]
  split
  · exact ⟨p.decodeErrors, rfl⟩
  · split
    · exact ⟨p.decodeErrors, rfl⟩
    · split
      · exact ⟨_, rfl⟩
      · exact ⟨p.decodeErrors, rfl⟩

/-- A timing packet changes the estimate of the clock, if anything. -/
theorem audioPipelineOnRtpTiming_eq (p : AudioPipeline) (d : Datagram) :
    ∃ sync, audioPipelineOnRtpTiming p d = { p with ntpSync := sync } := by
  rw [audioPipelineOnRtpTiming]
  split
  · exact ⟨p.ntpSync, rfl⟩
  · split
    · exact ⟨p.ntpSync, rfl⟩
    · split
      · exact ⟨p.ntpSync, rfl⟩
      · exact ⟨_, rfl⟩

theorem decryptPacket_arrival (aead : Aead) (p : AudioPipeline) (packet : RtpPacket) :
    Arrival p (p.decryptPacket aead packet).1 := by
  obtain ⟨errors, hdecrypt⟩ := decryptPacket_eq aead p packet
  rw [hdecrypt]
  exact ⟨⟨rfl, rfl, rfl, rfl, rfl, rfl, rfl, rfl, rfl⟩, rfl, Playout.Keeps.refl _⟩

theorem enqueue_arrival (p : AudioPipeline) (packet : RtpPacket) (now : UInt64) :
    Arrival p (p.enqueue packet now) :=
  ⟨⟨rfl, rfl, rfl, rfl, rfl, rfl, rfl, rfl, rfl⟩, rfl, playoutPush_keeps p.playout packet⟩

theorem onRtpAudio_arrival (aead : Aead) (p : AudioPipeline) (packet : RtpPacket) (now : UInt64) :
    Arrival p (audioPipelineOnRtpAudio aead p packet now) := by
  rw [audioPipelineOnRtpAudio]
  split
  · exact Arrival.refl p
  · have hdecrypt := decryptPacket_arrival aead p packet
    generalize p.decryptPacket aead packet = r at hdecrypt ⊢
    obtain ⟨after, decoded⟩ := r
    cases decoded with
    | none => exact hdecrypt
    | some decoded => exact hdecrypt.trans (enqueue_arrival after decoded now)

theorem onRtpControl_arrival (p : AudioPipeline) (data : List UInt8) :
    Arrival p (audioPipelineOnRtpControl p data) := by
  rw [audioPipelineOnRtpControl]
  split
  · split
    · exact Arrival.refl p
    · exact ⟨⟨rfl, rfl, rfl, rfl, rfl, rfl, rfl, rfl, rfl⟩, rfl, Playout.Keeps.refl _⟩
  · exact ⟨⟨rfl, rfl, rfl, rfl, rfl, rfl, rfl, rfl, rfl⟩, rfl, Playout.Keeps.refl _⟩

theorem onRtpTiming_arrival (p : AudioPipeline) (d : Datagram) :
    Arrival p (audioPipelineOnRtpTiming p d) := by
  obtain ⟨sync, htiming⟩ := audioPipelineOnRtpTiming_eq p d
  rw [htiming]
  exact ⟨⟨rfl, rfl, rfl, rfl, rfl, rfl, rfl, rfl, rfl⟩, rfl, Playout.Keeps.refl _⟩

theorem pipelineCallbacks_arrival (aead : Aead) (p : AudioPipeline) :
    (pipelineCallbacks aead).Keeps (Arrival p) where
  audio q packet now h := h.trans (onRtpAudio_arrival aead q packet now)
  control q data h := h.trans (onRtpControl_arrival q data)
  timing q d h := h.trans (onRtpTiming_arrival q d)

theorem requestTiming_arrival (p : AudioPipeline) (now : UInt64) :
    Arrival p (p.requestTiming now) := by
  rw [AudioPipeline.requestTiming]
  split
  · exact ⟨⟨rfl, rfl, rfl, rfl, rfl, rfl, rfl, rfl, rfl⟩, rfl, Playout.Keeps.refl _⟩
  · exact Arrival.refl p

/-- **The inputs of a poll** only add packets to the queue. -/
theorem pipelinePollInputs_arrival (aead : Aead) (io : InputsIo) (p : AudioPipeline) :
    Arrival p (pipelinePollInputs aead io p).1 := by
  have hreceived := rtpReceiverPoll_invariant
    (pipelineCallbacks_arrival aead (p.requestTiming io.now)) (p.requestTiming io.now).peerIp
    io.receiver (Arrival.refl _)
  have hall := (requestTiming_arrival p io.now).trans hreceived
  rw [pipelinePollInputs]
  dsimp only
  split
  · exact hall
  · exact hall.trans ⟨⟨rfl, rfl, rfl, rfl, rfl, rfl, rfl, rfl, rfl⟩, rfl, Playout.Keeps.refl _⟩

theorem pipelinePollRecord_buffered (aead : Aead) (io : RecordIo) (p : AudioPipeline) :
    (pipelinePollRecord aead io p).1.buffered =
      (bufferedAudioPoll io.buffered p.buffered p.timingPeer.ip).audio := by
  rw [pipelinePollRecord]
  split
  · rfl
  · exact (onRtpAudio_arrival aead _ _ _).buffered

/-- A poll of the connection only adds to the queue. -/
theorem pipelinePollRecord_keeps (aead : Aead) (io : RecordIo) (p : AudioPipeline) :
    SameSetting p (pipelinePollRecord aead io p).1 ∧
      p.playout.Keeps (pipelinePollRecord aead io p).1.playout := by
  rw [pipelinePollRecord]
  split
  · exact ⟨⟨rfl, rfl, rfl, rfl, rfl, rfl, rfl, rfl, rfl⟩, Playout.Keeps.refl _⟩
  · have h := onRtpAudio_arrival aead
      { p with buffered := (bufferedAudioPoll io.buffered p.buffered p.timingPeer.ip).audio }
    exact ⟨⟨(h _ _).setting.session, (h _ _).setting.state, (h _ _).setting.configured,
      (h _ _).setting.timingPeer, (h _ _).setting.alacDecoder, (h _ _).setting.alacUsed,
      (h _ _).setting.aacDecoder, (h _ _).setting.aesContext, (h _ _).setting.volumeDb⟩,
      (h _ _).queue⟩

theorem decodePacket_setting (p : AudioPipeline) (packet : RtpPacket) (decoded : DecodeOutcome)
    (scaled : Int16 → Int16) :
    SameSetting p (audioPipelineDecodePacket p packet decoded scaled).1 ∧
      (audioPipelineDecodePacket p packet decoded scaled).1.playout = p.playout ∧
      (audioPipelineDecodePacket p packet decoded scaled).1.buffered = p.buffered := by
  rw [audioPipelineDecodePacket]
  split
  · exact ⟨SameSetting.refl p, rfl, rfl⟩
  · dsimp only
    split
    · split
      · exact ⟨⟨rfl, rfl, rfl, rfl, rfl, rfl, rfl, rfl, rfl⟩, rfl, rfl⟩
      · exact ⟨⟨rfl, rfl, rfl, rfl, rfl, rfl, rfl, rfl, rfl⟩, rfl, rfl⟩
    · exact ⟨⟨rfl, rfl, rfl, rfl, rfl, rfl, rfl, rfl, rfl⟩, rfl, rfl⟩
    · exact ⟨⟨rfl, rfl, rfl, rfl, rfl, rfl, rfl, rfl, rfl⟩, rfl, rfl⟩

/-- What a turn does, by its event: it keeps everything queued, or takes the front
packet out. -/
inductive TurnEffect (p : AudioPipeline) : Turn → Prop where
  | quiet (after : AudioPipeline) (phase : PollPhase) (hsetting : SameSetting p after)
      (hqueue : p.playout.Keeps after.playout) : TurnEffect p ⟨after, phase, .quiet⟩
  | record (after : AudioPipeline) (phase : PollPhase) (data : List UInt8)
      (packet : Option RtpPacket) (hsetting : SameSetting p after)
      (hqueue : p.playout.Keeps after.playout) : TurnEffect p ⟨after, phase, .record data packet⟩
  | late (after : AudioPipeline) (phase : PollPhase) (slot : Slot)
      (hsetting : SameSetting p after) (hpeek : playoutPeek p.playout = some slot)
      (hqueue : after.playout = playoutPop p.playout slot) :
      TurnEffect p ⟨after, phase, .late (p.playout.packets slot).packet⟩
  | submitted (after : AudioPipeline) (phase : PollPhase) (slot : Slot) (samples : List Int16)
      (hsetting : SameSetting p after) (hpeek : playoutPeek p.playout = some slot)
      (hqueue : after.playout = playoutPop p.playout slot) :
      TurnEffect p ⟨after, phase, .submitted (p.playout.packets slot).packet samples⟩

theorem TurnEffect.setting {p : AudioPipeline} {turn : Turn} (h : TurnEffect p turn) :
    SameSetting p turn.pipeline := by
  cases h with
  | quiet after phase hsetting hqueue => exact hsetting
  | record after phase data packet hsetting hqueue => exact hsetting
  | late after phase slot hsetting hpeek hqueue => exact hsetting
  | submitted after phase slot samples hsetting hpeek hqueue => exact hsetting

theorem schedule_slot {p : AudioPipeline} {io : PlayIo} {slot found : Slot}
    (h : p.schedule io slot = .late found ∨ p.schedule io slot = .submit found) :
    found = slot := by
  rw [AudioPipeline.schedule] at h
  cases hdeadline : pipelineDeadline p (p.playout.packets slot).header.timestamp io with
  | none =>
      rw [hdeadline] at h
      rcases h with h | h <;> simp at h
  | some deadline =>
      rw [hdeadline] at h
      dsimp only at h
      split at h
      · rcases h with h | h <;> simp at h
      · split at h
        · rcases h with h | h <;> simp at h
        · split at h
          · rcases h with h | h <;> simp at h
          · split at h
            · rcases h with h | h
              · exact (PlayVerdict.late.inj h).symm
              · simp at h
            · rcases h with h | h
              · simp at h
              · exact (PlayVerdict.submit.inj h).symm

/-- A packet that is dropped or handed over is the one that peek returns. -/
theorem playVerdict_peek {p : AudioPipeline} {io : PlayIo} {slot : Slot}
    (h : playVerdict p io = .late slot ∨ playVerdict p io = .submit slot) :
    playoutPeek p.playout = some slot := by
  unfold playVerdict at h
  generalize playoutPeek p.playout = front at h ⊢
  cases front with
  | none =>
      rcases h with h | h
      · exact PlayVerdict.noConfusion h
      · exact PlayVerdict.noConfusion h
  | some front => exact congrArg some (schedule_slot h).symm

theorem playTurn_effect (io : PlayIo) (p : AudioPipeline) (batch : ℕ) :
    TurnEffect p (playTurn io p batch) := by
  have hquiet : ∀ phase, TurnEffect p ⟨p, phase, .quiet⟩ := fun phase =>
    TurnEffect.quiet p phase (SameSetting.refl p) (Playout.Keeps.refl _)
  rw [playTurn]
  split
  · cases hverdict : playVerdict p io with
    | wait => exact hquiet _
    | fail => exact hquiet _
    | late slot =>
        exact TurnEffect.late (p.dropLate slot) _ slot ⟨rfl, rfl, rfl, rfl, rfl, rfl, rfl, rfl, rfl⟩
          (playVerdict_peek (Or.inl hverdict)) rfl
    | submit slot =>
        obtain ⟨hsetting, hqueue, -⟩ :=
          decodePacket_setting p (p.playout.packets slot).packet io.decoded io.scaled
        refine TurnEffect.submitted (p.submit io slot).1 _ slot _
          ⟨hsetting.session, hsetting.state, hsetting.configured, hsetting.timingPeer,
            hsetting.alacDecoder, hsetting.alacUsed, hsetting.aacDecoder, hsetting.aesContext,
            hsetting.volumeDb⟩
          (playVerdict_peek (Or.inr hverdict)) ?_
        rw [AudioPipeline.submit]
        dsimp only
        rw [hqueue]
  · exact hquiet _

theorem receiveTurn_effect (aead : Aead) (io : RecordIo) (p : AudioPipeline) (i limit : ℕ) :
    TurnEffect p (receiveTurn aead io p i limit) := by
  obtain ⟨hsetting, hqueue⟩ := pipelinePollRecord_keeps aead io p
  rw [receiveTurn]
  split
  · dsimp only
    split
    · exact TurnEffect.quiet _ _ hsetting hqueue
    · split
      · exact TurnEffect.quiet _ _ hsetting hqueue
      · rw [completedRecord]
        split
        · exact TurnEffect.record _ _ _ _ hsetting hqueue
        · exact TurnEffect.quiet _ _ hsetting hqueue
  · exact TurnEffect.quiet p _ (SameSetting.refl p) (Playout.Keeps.refl _)

theorem inputsTurn_effect (aead : Aead) (io : InputsIo) (p : AudioPipeline) :
    TurnEffect p (inputsTurn aead io p) := by
  have h := pipelinePollInputs_arrival aead io p
  rw [inputsTurn]
  split
  · dsimp only
    split
    · exact TurnEffect.quiet _ _ h.setting h.queue
    · split
      · exact TurnEffect.quiet _ _ h.setting h.queue
      · exact TurnEffect.quiet _ _ h.setting h.queue
  · exact TurnEffect.quiet p _ (SameSetting.refl p) (Playout.Keeps.refl _)

/-- **Every turn keeps to `TurnEffect`.** -/
theorem pollTurn_effect (aead : Aead) (io : TurnIo) (p : AudioPipeline) (phase : PollPhase) :
    TurnEffect p (pollTurn aead io p phase) := by
  cases phase with
  | inputs => exact inputsTurn_effect aead io.inputs p
  | receiving i limit => exact receiveTurn_effect aead io.record p i limit
  | playing batch => exact playTurn_effect io.play p batch
  | done ok => exact TurnEffect.quiet p _ (SameSetting.refl p) (Playout.Keeps.refl _)

/-! ## What the inputs keep -/

/-- A property of the pipeline that is not about what the inputs of a poll write. -/
structure InputsKeep (P : AudioPipeline → Prop) : Prop where
  ntpSync : ∀ p sync, P p → P { p with ntpSync := sync }
  decodeErrors : ∀ p errors, P p → P { p with decodeErrors := errors }
  enqueue : ∀ p packet now, P p → P (AudioPipeline.enqueue p packet now)
  anchor : ∀ p anchor clock, P p →
    P { p with anchor := anchor, ptp := ptpSyncSetClock p.ptp clock }
  ptp : ∀ p io, P p → P { p with ptp := (ptpSyncPoll p.ptp io).1 }
  buffered : ∀ p buffered, P p → P { p with buffered := buffered }

section InputsKeep

variable {P : AudioPipeline → Prop}

theorem InputsKeep.onRtpAudio (h : InputsKeep P) (aead : Aead) (p : AudioPipeline)
    (packet : RtpPacket) (now : UInt64) (hp : P p) :
    P (audioPipelineOnRtpAudio aead p packet now) := by
  rw [audioPipelineOnRtpAudio]
  split
  · exact hp
  · obtain ⟨errors, hdecrypt⟩ := decryptPacket_eq aead p packet
    generalize p.decryptPacket aead packet = r at hdecrypt ⊢
    obtain ⟨after, decoded⟩ := r
    obtain rfl : after = { p with decodeErrors := errors } := hdecrypt
    have herrors := h.decodeErrors p errors hp
    cases decoded with
    | none => exact herrors
    | some decoded => exact h.enqueue _ decoded now herrors

theorem InputsKeep.callbacks (h : InputsKeep P) (aead : Aead) :
    (pipelineCallbacks aead).Keeps P where
  audio p packet now hp := h.onRtpAudio aead p packet now hp
  control p data hp := by
    show P (audioPipelineOnRtpControl p data)
    rw [audioPipelineOnRtpControl]
    split
    · split
      · exact hp
      · exact h.anchor p _ _ hp
    · exact h.ntpSync p _ hp
  timing p d hp := by
    obtain ⟨sync, htiming⟩ := audioPipelineOnRtpTiming_eq p d
    show P (audioPipelineOnRtpTiming p d)
    rw [htiming]
    exact h.ntpSync p sync hp

/-- **Reading the inputs keeps it.** -/
theorem InputsKeep.inputsTurn (h : InputsKeep P) (aead : Aead) (io : InputsIo) {p : AudioPipeline}
    (hp : P p) : P (inputsTurn aead io p).pipeline := by
  have hrequest : P (p.requestTiming io.now) := by
    rw [AudioPipeline.requestTiming]
    split
    · exact h.ntpSync p _ hp
    · exact hp
  have hreceived := rtpReceiverPoll_invariant (h.callbacks aead) (p.requestTiming io.now).peerIp
    io.receiver hrequest
  rw [inputsTurn_pipeline]
  split
  · rw [pipelinePollInputs]
    dsimp only
    split
    · exact hreceived
    · exact h.ptp _ _ hreceived
  · exact hp

/-- **Receiving a record keeps it.** -/
theorem InputsKeep.receiveTurn (h : InputsKeep P) (aead : Aead) (io : RecordIo) {p : AudioPipeline}
    (i limit : ℕ) (hp : P p) : P (receiveTurn aead io p i limit).pipeline := by
  rw [receiveTurn_pipeline]
  split
  · have hread := h.buffered p
      (bufferedAudioPoll io.buffered p.buffered p.timingPeer.ip).audio hp
    rw [pipelinePollRecord]
    split
    · exact hread
    · exact h.onRtpAudio aead _ _ _ hread
  · exact hp

end InputsKeep

end PortableAirplay.Audio
