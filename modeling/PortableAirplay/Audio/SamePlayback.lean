import PortableAirplay.Audio.PipelinePoll
import PortableAirplay.Sync.PtpSamples

/-!
# Two pipelines that play alike

`SamePlayback p q` holds of two pipelines that no later input tells apart. They may
differ in what is not read any more: the packets of free slots, a boundary that is not
in force, the anchor of a clock that has none, a Sync that is not pending.

Between two sessions the pipelines have less in common (`SameTransport`): the peer, the
clock estimate and the connection. Every turn of a poll keeps each of the relations
(`SamePlayback.turn`, `BothWait.turn`), as long as no poll fails.
-/

set_option autoImplicit false

namespace PortableAirplay.Audio

open PortableAirplay.Airplay
open PortableAirplay.Library
open PortableAirplay.Platform
open PortableAirplay.Protocol
open PortableAirplay.Sync

/-! ## The connection -/

/-- Two connections that differ at most in a boundary that is not looked at. -/
structure SameBuffered (a b : BufferedAudio) : Prop where
  listener : a.listener = b.listener
  client : a.client = b.client
  data : a.data = b.data
  discarding : a.discarding = b.discarding
  discardSequence : a.discarding = true → a.discardSequence = b.discardSequence

theorem SameBuffered.refl (b : BufferedAudio) : SameBuffered b b := ⟨rfl, rfl, rfl, rfl, fun _ => rfl⟩

theorem SameBuffered.trans {a b c : BufferedAudio} (hab : SameBuffered a b)
    (hbc : SameBuffered b c) : SameBuffered a c where
  listener := hab.listener.trans hbc.listener
  client := hab.client.trans hbc.client
  data := hab.data.trans hbc.data
  discarding := hab.discarding.trans hbc.discarding
  discardSequence hdiscarding :=
    (hab.discardSequence hdiscarding).trans (hbc.discardSequence (hab.discarding ▸ hdiscarding))

/-- The outcomes of two polls agree. -/
structure SamePoll (r r' : BufferedPoll) : Prop where
  audio : SameBuffered r.audio r'.audio
  result : r.result = r'.result
  packet : r.packet = r'.packet
  received : r.received = r'.received

theorem SamePoll.of_audio {a b : BufferedAudio} (h : SameBuffered a b) (result : ℤ)
    (packet : Option RtpPacket) (received : List UInt8) :
    SamePoll ⟨a, result, packet, received⟩ ⟨b, result, packet, received⟩ :=
  ⟨h, rfl, rfl, rfl⟩

section Connection

variable {a b : BufferedAudio}

theorem SameBuffered.disconnect (h : SameBuffered a b) :
    SameBuffered (bufferedAudioDisconnect a) (bufferedAudioDisconnect b) :=
  ⟨h.listener, rfl, rfl, rfl, fun hdiscarding => absurd hdiscarding Bool.false_ne_true⟩

theorem SameBuffered.append (h : SameBuffered a b) (received : List UInt8) :
    SameBuffered { a with data := a.data ++ received } { b with data := b.data ++ received } :=
  ⟨h.listener, h.client, congrArg (· ++ received) h.data, h.discarding, h.discardSequence⟩

/-- A flush asks for the same records on both. -/
theorem SameBuffered.flush (h : SameBuffered a b) (sequence : UInt32) :
    SameBuffered (bufferedAudioFlush a sequence) (bufferedAudioFlush b sequence) :=
  ⟨h.listener, h.client, h.data, rfl, fun _ => rfl⟩

theorem SameBuffered.staleRecord (h : SameBuffered a b) : a.staleRecord = b.staleRecord := by
  rw [BufferedAudio.staleRecord, BufferedAudio.staleRecord, h.data, ← h.discarding]
  cases hdiscarding : a.discarding with
  | false => rfl
  | true => rw [h.discardSequence hdiscarding]

theorem SameBuffered.deliver (h : SameBuffered a b) (received : List UInt8) :
    SamePoll (deliverRecord a received) (deliverRecord b received) := by
  have hkept : SameBuffered { a with data := [] } { b with data := [] } :=
    ⟨h.listener, h.client, rfl, h.discarding, h.discardSequence⟩
  have hdelivered : SameBuffered { a with data := [], discarding := false }
      { b with data := [], discarding := false } :=
    ⟨h.listener, h.client, rfl, rfl, fun hfalse => absurd hfalse Bool.false_ne_true⟩
  rw [deliverRecord, deliverRecord, h.staleRecord, h.data]
  split
  · exact SamePoll.of_audio hkept _ _ _
  · exact SamePoll.of_audio hdelivered _ _ _

theorem SameBuffered.receiveBody (h : SameBuffered a b) (io : BufferedIo)
    (received : List UInt8) :
    SamePoll (receiveBody io a received) (receiveBody io b received) := by
  rw [Audio.receiveBody, Audio.receiveBody, h.data, h.client]
  dsimp only
  split
  · exact SamePoll.of_audio h.disconnect _ _ _
  · cases netTcpRecv b.client (recordNeed b.data - b.data.length) io.recvBody with
    | timeout => exact SamePoll.of_audio h _ _ _
    | error => exact SamePoll.of_audio h.disconnect _ _ _
    | bytes bytes =>
        cases bytes with
        | nil => exact SamePoll.of_audio h.disconnect _ _ _
        | cons x xs =>
            have hmore := h.append (x :: xs)
            rw [h.data, h.client] at hmore
            dsimp only
            split
            · exact SamePoll.of_audio hmore _ _ _
            · exact hmore.deliver _

theorem SameBuffered.receiveRecord (h : SameBuffered a b) (io : BufferedIo) :
    SamePoll (receiveRecord io a) (receiveRecord io b) := by
  rw [Audio.receiveRecord, Audio.receiveRecord, h.data, h.client]
  split
  · cases netTcpRecv b.client (2 - b.data.length) io.recvLength with
    | timeout => exact SamePoll.of_audio h _ _ _
    | error => exact SamePoll.of_audio h.disconnect _ _ _
    | bytes bytes =>
        cases bytes with
        | nil => exact SamePoll.of_audio h.disconnect _ _ _
        | cons x xs =>
            have hmore := h.append (x :: xs)
            rw [h.data, h.client] at hmore
            dsimp only
            split
            · exact SamePoll.of_audio hmore _ _ _
            · exact hmore.receiveBody io _
  · exact h.receiveBody io _

/-- **Polls of two such connections agree.** -/
theorem SameBuffered.poll (h : SameBuffered a b) (io : BufferedIo) (ip : CString) :
    SamePoll (bufferedAudioPoll io a ip) (bufferedAudioPoll io b ip) := by
  rw [bufferedAudioPoll, bufferedAudioPoll, h.client]
  split
  · exact h.receiveRecord io
  · cases io.accept with
    | timeout => exact SamePoll.of_audio h _ _ _
    | error => exact SamePoll.of_audio h _ _ _
    | accepted handle peer =>
        have haccepted : SameBuffered { a with client := netTcpAccept a.listener handle }
            { b with client := netTcpAccept b.listener handle } :=
          ⟨h.listener, congrArg (netTcpAccept · handle) h.listener, h.data, h.discarding,
            h.discardSequence⟩
        dsimp only
        split
        · exact SamePoll.of_audio haccepted.disconnect _ _ _
        · exact haccepted.receiveRecord io

end Connection

/-! ## The RAOP clock -/

/-- A clock with the anchor of another one. -/
def withAnchor (sync anchor : NtpSync) : NtpSync :=
  { sync with
    rtpBase := anchor.rtpBase
    latencyFrames := anchor.latencyFrames
    ntpBase := anchor.ntpBase
    anchorValid := anchor.anchorValid }

/-- Two clocks that differ at most in the anchor. -/
def SameEstimate (a b : NtpSync) : Prop := a = withAnchor b a

/-- Two clocks with the same anchor, or none. -/
structure SameAnchor (a b : NtpSync) : Prop where
  valid : a.anchorValid = b.anchorValid
  base : a.anchorValid = true →
    a.rtpBase = b.rtpBase ∧ a.ntpBase = b.ntpBase ∧ a.latencyFrames = b.latencyFrames

theorem SameEstimate.trans {a b c : NtpSync} (hab : SameEstimate a b) (hbc : SameEstimate b c) :
    SameEstimate a c := by
  rw [SameEstimate] at hab hbc ⊢
  rw [hbc] at hab
  exact hab

/-- A change of the clock that neither reads nor writes the anchor. -/
def KeepsAnchor (f : NtpSync → NtpSync) : Prop :=
  ∀ sync anchor, f (withAnchor sync anchor) = withAnchor (f sync) anchor

theorem KeepsAnchor.estimate {f : NtpSync → NtpSync} (hf : KeepsAnchor f) {a b : NtpSync}
    (h : SameEstimate a b) : SameEstimate (f a) (f b) := by
  have hfa : f a = withAnchor (f b) a := (congrArg f h).trans (hf b a)
  rw [SameEstimate, hfa]
  rfl

theorem KeepsAnchor.anchor {f : NtpSync → NtpSync} (hf : KeepsAnchor f) {a b : NtpSync}
    (h : SameAnchor a b) : SameAnchor (f a) (f b) := by
  have ha : f a = withAnchor (f a) a := hf a a
  have hb : f b = withAnchor (f b) b := hf b b
  rw [ha, hb]
  exact ⟨h.valid, h.base⟩

theorem ntpSyncRequest_keepsAnchor (now : UInt64) :
    KeepsAnchor fun sync => (ntpSyncRequest sync now).1 := by
  intro sync anchor
  dsimp only
  rw [ntpSyncRequest, ntpSyncRequest]
  show (if now < sync.nextRequestUs then _ else _ : NtpSync × Option (List UInt8)).1 =
    withAnchor (if now < sync.nextRequestUs then _ else _ : NtpSync × Option (List UInt8)).1 anchor
  split
  · rfl
  · rfl

theorem ntpSyncProcessPacket_keepsAnchor (data : List UInt8) (now : UInt64) :
    KeepsAnchor fun sync => (ntpSyncProcessPacket sync data now).1 := by
  intro sync anchor
  dsimp only [ntpSyncProcessPacket, withAnchor]
  split_ifs
  all_goals rfl

/-- A sync packet of the control socket leaves the estimate alone. -/
theorem ntpSyncControl_same (sync : NtpSync) (data : List UInt8) (rate : UInt32) :
    SameEstimate sync (ntpSyncControl sync data rate).1 ∧
      SameEstimate (ntpSyncControl sync data rate).1 sync := by
  rw [ntpSyncControl]
  split
  · exact ⟨rfl, rfl⟩
  · dsimp only
    split
    · exact ⟨rfl, rfl⟩
    · exact ⟨rfl, rfl⟩

theorem ntpSyncControl_estimate {a b : NtpSync} (h : SameEstimate a b) (data : List UInt8)
    (rate : UInt32) : SameEstimate (ntpSyncControl a data rate).1 (ntpSyncControl b data rate).1 :=
  (ntpSyncControl_same a data rate).2.trans (h.trans (ntpSyncControl_same b data rate).1)

/-- A sync packet gives both clocks the same anchor. -/
theorem ntpSyncControl_anchor {a b : NtpSync} (h : SameAnchor a b) (data : List UInt8)
    (rate : UInt32) :
    SameAnchor (ntpSyncControl a data rate).1 (ntpSyncControl b data rate).1 := by
  rw [ntpSyncControl, ntpSyncControl]
  split
  · exact h
  · dsimp only
    split
    · exact h
    · exact ⟨rfl, fun _ => ⟨rfl, rfl, rfl⟩⟩

/-- Such clocks give the same deadlines. -/
theorem ntpSyncDeadline_same {a b : NtpSync} (hestimate : SameEstimate a b)
    (hanchor : SameAnchor a b) (timestamp rate : UInt32) (now : UInt64) :
    ntpSyncDeadline a timestamp rate now = ntpSyncDeadline b timestamp rate now := by
  have hsame : a = withAnchor b a := hestimate
  have hsynchronized : a.synchronized = b.synchronized :=
    (congrArg NtpSync.synchronized hsame).trans rfl
  have hoffset : a.clockOffsetUs = b.clockOffsetUs :=
    (congrArg NtpSync.clockOffsetUs hsame).trans rfl
  rw [ntpSyncDeadline, ntpSyncDeadline, ← hsynchronized, ← hanchor.valid, ← hoffset]
  cases hvalid : a.anchorValid with
  | false => rw [if_pos (Or.inr (Or.inl rfl)), if_pos (Or.inr (Or.inl rfl))]
  | true =>
      obtain ⟨hrtp, hntp, -⟩ := hanchor.base hvalid
      rw [ntpSyncRtpToNtp, ntpSyncRtpToNtp, ← hanchor.valid, hvalid, hrtp, hntp]

/-! ## The queue -/

/-- Two queues that hold the same packets in the same slots. -/
structure SameQueue (q r : Playout) : Prop where
  valid : ∀ i, (q.packets i).valid = (r.packets i).valid
  packets : ∀ i, (q.packets i).valid = true → q.packets i = r.packets i
  nextSequence : q.nextSequence = r.nextSequence
  count : q.count = r.count
  started : q.started = r.started
  haveSequence : q.haveSequence = r.haveSequence
  haveFloor : q.haveFloor = r.haveFloor
  floor : q.haveFloor = true →
    q.timestampFloor = r.timestampFloor ∧ q.floorExclusive = r.floorExclusive

section Queue

variable {q r : Playout}

theorem SameQueue.beforeFloor (h : SameQueue q r) (timestamp : UInt32) :
    q.beforeFloor timestamp = r.beforeFloor timestamp := by
  rw [Playout.beforeFloor, Playout.beforeFloor, ← h.haveFloor]
  cases hfloor : q.haveFloor with
  | false => rfl
  | true =>
      obtain ⟨htimestamp, hexclusive⟩ := h.floor hfloor
      rw [htimestamp, hexclusive]

theorem SameQueue.distance (h : SameQueue q r) (sequence : UInt16) :
    q.distance sequence = r.distance sequence := by
  rw [Playout.distance, Playout.distance, h.nextSequence]

theorem SameQueue.holds (h : SameQueue q r) (sequence : UInt16) :
    q.holds sequence = r.holds sequence := by
  rw [Bool.eq_iff_iff, holds_eq_true_iff, holds_eq_true_iff]
  constructor
  · rintro ⟨i, hvalid, hsequence⟩
    exact ⟨i, h.valid i ▸ hvalid, h.packets i hvalid ▸ hsequence⟩
  · rintro ⟨i, hvalid, hsequence⟩
    rw [← h.valid i] at hvalid
    exact ⟨i, hvalid, (h.packets i hvalid).symm ▸ hsequence⟩

theorem SameQueue.freeSlot (h : SameQueue q r) : q.freeSlot = r.freeSlot := by
  have hsame : (fun i => !(q.packets i).valid) = fun i => !(r.packets i).valid := by
    funext i
    rw [h.valid i]
  rw [Playout.freeSlot, Playout.freeSlot, hsame]

theorem SameQueue.store (h : SameQueue q r) (slot : Slot) (packet : RtpPacket) :
    SameQueue (q.store slot packet) (r.store slot packet) where
  valid i := by
    by_cases hi : i = slot
    · subst hi
      simp [Playout.store]
    · simpa [Playout.store, hi] using h.valid i
  packets i hvalid := by
    by_cases hi : i = slot
    · subst hi
      simp [Playout.store]
    · rw [Playout.store] at hvalid
      have hvalid : (q.packets i).valid = true := by simpa [hi] using hvalid
      simpa [Playout.store, hi] using h.packets i hvalid
  nextSequence := by
    rw [Playout.store, Playout.store, h.haveSequence, h.started, h.distance, h.nextSequence]
  count := congrArg (· + 1) h.count
  started := h.started
  haveSequence := rfl
  haveFloor := h.haveFloor
  floor := h.floor

/-- A push has the same outcome on both. -/
theorem SameQueue.push (h : SameQueue q r) (packet : RtpPacket) :
    SameQueue (playoutPush q packet).1 (playoutPush r packet).1 ∧
      (playoutPush q packet).2 = (playoutPush r packet).2 := by
  rw [playoutPush, playoutPush, h.beforeFloor, h.haveSequence, h.started, h.distance, h.holds,
    h.freeSlot]
  split
  · exact ⟨h, rfl⟩
  · split
    · exact ⟨h, rfl⟩
    · split
      · exact ⟨h, rfl⟩
      · split
        · exact ⟨h, rfl⟩
        · cases r.freeSlot with
          | none => exact ⟨h, rfl⟩
          | some slot => exact ⟨h.store slot packet, rfl⟩

theorem SameQueue.foldl_nearer (h : SameQueue q r) (seen : List Slot) :
    seen.foldl q.nearer none = seen.foldl r.nearer none := by
  induction seen using List.reverseRecOn with
  | nil => rfl
  | append_singleton seen i ih =>
      rw [List.foldl_append, List.foldl_append, List.foldl_cons, List.foldl_cons, List.foldl_nil,
        List.foldl_nil, ← ih]
      cases hfirst : seen.foldl q.nearer none with
      | none =>
          simp only [Playout.nearer, h.valid i]
      | some f =>
          -- the slot found so far is valid, so both queues hold the same packet there
          obtain ⟨hf, -⟩ := foldl_nearer_eq_some q seen hfirst
          by_cases hi : (q.packets i).valid = true
          · simp only [Playout.nearer, h.packets i hi, h.packets f hf, h.nextSequence]
          · have hi' : ¬ (r.packets i).valid = true := h.valid i ▸ hi
            simp only [Playout.nearer, if_neg hi, if_neg hi']

theorem SameQueue.peek (h : SameQueue q r) : playoutPeek q = playoutPeek r :=
  h.foldl_nearer (List.finRange airplayPlayoutPackets)

theorem SameQueue.pop (h : SameQueue q r) {slot : Slot} (hslot : (q.packets slot).valid = true) :
    SameQueue (playoutPop q slot) (playoutPop r slot) where
  valid i := by
    by_cases hi : i = slot
    · subst hi
      simp [playoutPop]
    · simpa [playoutPop, hi] using h.valid i
  packets i hvalid := by
    by_cases hi : i = slot
    · subst hi
      simp [playoutPop] at hvalid
    · have hvalid : (q.packets i).valid = true := by simpa [playoutPop, hi] using hvalid
      simpa [playoutPop, hi] using h.packets i hvalid
  nextSequence := by
    show (q.packets slot).header.sequence + 1 = (r.packets slot).header.sequence + 1
    rw [h.packets slot hslot]
  count := congrArg (· - 1) h.count
  started := rfl
  haveSequence := h.haveSequence
  haveFloor := rfl
  floor hfloor := absurd hfloor Bool.false_ne_true

/-- Emptied queues are the same, whatever they held. -/
theorem sameQueue_reset (q r : Playout) : SameQueue (playoutReset q) (playoutReset r) where
  valid _ := rfl
  packets _ hvalid := absurd hvalid Bool.false_ne_true
  nextSequence := rfl
  count := rfl
  started := rfl
  haveSequence := rfl
  haveFloor := rfl
  floor hfloor := absurd hfloor Bool.false_ne_true

theorem sameQueue_setFloor (q r : Playout) (timestamp : UInt32) (exclusive : Bool) :
    SameQueue (playoutSetFloor q timestamp exclusive) (playoutSetFloor r timestamp exclusive) where
  valid _ := rfl
  packets _ hvalid := absurd hvalid Bool.false_ne_true
  nextSequence := rfl
  count := rfl
  started := rfl
  haveSequence := rfl
  haveFloor := rfl
  floor _ := ⟨rfl, rfl⟩

end Queue

/-! ## Pipelines -/

/-- What configuring puts in place. -/
structure PipelineSetting where
  session : SdpSession
  state : PipelineState
  configured : Bool
  alacDecoder : AlacDecoder
  alacUsed : ℕ
  aacDecoder : AacDecoder
  aesContext : AesContext

/-- The setting of a pipeline. -/
def AudioPipeline.setting (p : AudioPipeline) : PipelineSetting :=
  ⟨p.session, p.state, p.configured, p.alacDecoder, p.alacUsed, p.aacDecoder, p.aesContext⟩

/-- The counters of a session. -/
structure PipelineCounters where
  queueOverflows : UInt32
  latePackets : UInt32
  nonzeroPackets : UInt32
  packetsReceived : UInt32
  packetsLost : UInt32
  decodeErrors : UInt32
  decodedPackets : UInt32

/-- The counters of a pipeline. -/
def AudioPipeline.counters (p : AudioPipeline) : PipelineCounters :=
  ⟨p.queueOverflows, p.latePackets, p.nonzeroPackets, p.packetsReceived, p.packetsLost,
    p.decodeErrors, p.decodedPackets⟩

/-- The peer that packets are accepted from, and whether there is a clock to ask it for. -/
def AudioPipeline.peer (p : AudioPipeline) : NetAddr × CString × Bool :=
  (p.timingPeer, p.peerIp, p.ntpSyncInitialized)

/-- The pipelines receive from the same peer, have the same estimate of its clock, and
stand at the same point of its connection. -/
structure SameTransport (p q : AudioPipeline) : Prop where
  peer : p.peer = q.peer
  estimate : SameEstimate p.ntpSync q.ntpSync
  buffered : SameBuffered p.buffered q.buffered

/-- The pipelines play alike. The PTP clock counts in sessions that look at it; the
first arrival and the last sequence count once there was one. -/
structure SamePlayback (p q : AudioPipeline) : Prop where
  setting : p.setting = q.setting
  peer : p.peer = q.peer
  estimate : SameEstimate p.ntpSync q.ntpSync
  ntpAnchor : SameAnchor p.ntpSync q.ntpSync
  buffered : SameBuffered p.buffered q.buffered
  queue : SameQueue p.playout q.playout
  firstArrivalUs : p.firstArrivalUs = q.firstArrivalUs
  firstTimestamp : (p.firstArrivalUs ≠ 0 ∨ ∃ i, (p.playout.packets i).valid = true) →
    p.firstTimestamp = q.firstTimestamp
  anchor : p.anchor = q.anchor
  ptp : p.session.streamType ≠ 0 → SamePtp p.ptp q.ptp ∧ p.ptp.opened = q.ptp.opened
  counters : p.counters = q.counters
  lastSequence : p.packetsReceived ≠ 0 → p.lastSequence = q.lastSequence

section Playback

variable {p q : AudioPipeline}

theorem SamePlayback.transport (h : SamePlayback p q) : SameTransport p q :=
  ⟨h.peer, h.estimate, h.buffered⟩

theorem SamePlayback.session (h : SamePlayback p q) : p.session = q.session :=
  congrArg PipelineSetting.session h.setting

theorem SamePlayback.state (h : SamePlayback p q) : p.state = q.state :=
  congrArg PipelineSetting.state h.setting

theorem SameTransport.timingPeer (h : SameTransport p q) : p.timingPeer = q.timingPeer :=
  congrArg Prod.fst h.peer

theorem SameTransport.peerIp (h : SameTransport p q) : p.peerIp = q.peerIp :=
  congrArg (fun peer : NetAddr × CString × Bool => peer.2.1) h.peer

theorem SameTransport.initialized (h : SameTransport p q) :
    p.ntpSyncInitialized = q.ntpSyncInitialized :=
  congrArg (fun peer : NetAddr × CString × Bool => peer.2.2) h.peer

theorem SamePlayback.packetsReceived (h : SamePlayback p q) :
    p.packetsReceived = q.packetsReceived := congrArg PipelineCounters.packetsReceived h.counters

/-! ## Arriving packets -/

theorem SamePlayback.decryptPacket (aead : Aead) (h : SamePlayback p q) (packet : RtpPacket) :
    SamePlayback (p.decryptPacket aead packet).1 (q.decryptPacket aead packet).1 ∧
      (p.decryptPacket aead packet).2 = (q.decryptPacket aead packet).2 := by
  have hcounters : ({ p with decodeErrors := p.decodeErrors + 1 } : AudioPipeline).counters =
      ({ q with decodeErrors := q.decodeErrors + 1 } : AudioPipeline).counters :=
    congrArg (fun c : PipelineCounters => { c with decodeErrors := c.decodeErrors + 1 }) h.counters
  rw [AudioPipeline.decryptPacket, AudioPipeline.decryptPacket]
  by_cases htype : p.session.streamType = 0
  · have htype' : q.session.streamType = 0 := h.session ▸ htype
    rw [if_pos htype, if_pos htype']
    exact ⟨h, rfl⟩
  · have htype' : ¬ q.session.streamType = 0 := h.session ▸ htype
    rw [if_neg htype, if_neg htype']
    split
    · exact ⟨h, rfl⟩
    · have hkey : p.session.audioKey = q.session.audioKey := by rw [h.session]
      rw [← hkey]
      cases cryptoAirplay2DecryptRtp aead p.session.audioKey (rtpWire packet) 12
          packet.payload.length rtpBufferSize with
      | none => exact ⟨{ h with counters := hcounters }, rfl⟩
      | some plaintext => exact ⟨h, rfl⟩

theorem SamePlayback.enqueue (h : SamePlayback p q) (packet : RtpPacket) (now : UInt64) :
    SamePlayback (p.enqueue packet now) (q.enqueue packet now) := by
  obtain ⟨hqueue, hcode⟩ := h.queue.push packet
  have heffect := playoutPush_effect p.playout packet
  have hcounters : (p.enqueue packet now).counters = (q.enqueue packet now).counters := by
    show ({ p.counters with queueOverflows := if (playoutPush p.playout packet).2 < 0 then
        p.counters.queueOverflows + 1 else p.counters.queueOverflows } : PipelineCounters) =
      { q.counters with queueOverflows := if (playoutPush q.playout packet).2 < 0 then
        q.counters.queueOverflows + 1 else q.counters.queueOverflows }
    rw [hcode, h.counters]
  have hfirst : (p.enqueue packet now).firstArrivalUs = (q.enqueue packet now).firstArrivalUs := by
    show (if (decide ((playoutPush p.playout packet).2 > 0) && p.firstArrivalUs == 0) = true then
        now else p.firstArrivalUs) =
      if (decide ((playoutPush q.playout packet).2 > 0) && q.firstArrivalUs == 0) = true then
        now else q.firstArrivalUs
    rw [hcode, h.firstArrivalUs]
  refine { h with
    queue := hqueue, counters := hcounters, firstArrivalUs := hfirst, firstTimestamp := ?_ }
  show _ → (if (decide ((playoutPush p.playout packet).2 > 0) && p.firstArrivalUs == 0) = true then
      packet.header.timestamp else p.firstTimestamp) =
    if (decide ((playoutPush q.playout packet).2 > 0) && q.firstArrivalUs == 0) = true then
      packet.header.timestamp else q.firstTimestamp
  rw [← hcode, ← h.firstArrivalUs]
  by_cases hfresh : (decide ((playoutPush p.playout packet).2 > 0) && p.firstArrivalUs == 0) = true
  · rw [if_pos hfresh, if_pos hfresh]
    exact fun _ => rfl
  · -- a stored packet that is not the first one follows an arrival that counted
    rw [if_neg hfresh, if_neg hfresh]
    intro hqueued
    apply h.firstTimestamp
    rw [AudioPipeline.enqueue] at hqueued
    dsimp only at hqueued
    rw [if_neg hfresh] at hqueued
    cases hpush : playoutPush p.playout packet with
    | mk after code =>
        rw [hpush] at hqueued heffect hfresh
        cases heffect with
        | refused code hcode => exact hqueued
        | stored slot hfree hfresh' hnew => exact Or.inl (by simpa using hfresh)

theorem SamePlayback.onRtpAudio (aead : Aead) (h : SamePlayback p q) (packet : RtpPacket)
    (now : UInt64) :
    SamePlayback (audioPipelineOnRtpAudio aead p packet now)
      (audioPipelineOnRtpAudio aead q packet now) := by
  obtain ⟨hsame, hdecoded⟩ := h.decryptPacket aead packet
  rw [audioPipelineOnRtpAudio, audioPipelineOnRtpAudio, ← h.state, ← h.session]
  split
  · exact h
  · generalize p.decryptPacket aead packet = r at hsame hdecoded ⊢
    generalize q.decryptPacket aead packet = r' at hsame hdecoded ⊢
    obtain ⟨after, decoded⟩ := r
    obtain ⟨after', decoded'⟩ := r'
    dsimp only at hsame hdecoded
    subst hdecoded
    cases decoded with
    | none => exact hsame
    | some decoded => exact hsame.enqueue decoded now

theorem ptpSyncSetClock_opened (p : PtpSync) (clockId : UInt64) :
    (ptpSyncSetClock p clockId).opened = p.opened := by
  rw [ptpSyncSetClock]
  split
  · rfl
  · rfl

theorem ptpSyncPacket_opened (p : PtpSync) (data : List UInt8) (now : UInt64) :
    (ptpSyncPacket p data now).1.opened = p.opened := by
  have heffect := ptpSyncPacket_effect p data now
  generalize ptpSyncPacket p data now = r at heffect ⊢
  cases heffect with
  | idle r hr hrecords => rfl
  | recorded r hr hrecords => rfl
  | oneStep offset hrecords hflag => rfl
  | followed offset hfollows => rfl

theorem SamePlayback.onRtpControl (h : SamePlayback p q) (data : List UInt8) :
    SamePlayback (audioPipelineOnRtpControl p data) (audioPipelineOnRtpControl q data) := by
  rw [audioPipelineOnRtpControl, audioPipelineOnRtpControl]
  by_cases htype : p.session.streamType = 0
  · have htype' : q.session.streamType = 0 := h.session ▸ htype
    have hrate : p.session.sampleRate = q.session.sampleRate := by rw [h.session]
    rw [if_neg (not_not.mpr htype), if_neg (not_not.mpr htype')]
    dsimp only
    rw [← hrate]
    exact { h with
      estimate := ntpSyncControl_estimate h.estimate data _
      ntpAnchor := ntpSyncControl_anchor h.ntpAnchor data _ }
  · have htype' : ¬ q.session.streamType = 0 := h.session ▸ htype
    have hrealtime : (q.session.streamType = streamTypeRealtime) =
        (p.session.streamType = streamTypeRealtime) := by rw [h.session]
    rw [if_pos htype, if_pos htype']
    simp only [hrealtime]
    split
    · exact h
    · rename_i anchor hanchor
      have hptp : p.session.streamType ≠ 0 →
          SamePtp (ptpSyncSetClock p.ptp anchor.clockId) (ptpSyncSetClock q.ptp anchor.clockId) ∧
            (ptpSyncSetClock p.ptp anchor.clockId).opened =
              (ptpSyncSetClock q.ptp anchor.clockId).opened := by
        intro hne
        rw [ptpSyncSetClock_opened, ptpSyncSetClock_opened]
        exact ⟨(h.ptp hne).1.setClock _, (h.ptp hne).2⟩
      exact { h with anchor := rfl, ptp := hptp }

/-- Pipelines on the same transport both pass a timing packet over, or both process it. -/
theorem SameTransport.onRtpTiming (h : SameTransport p q) (d : Datagram) :
    (audioPipelineOnRtpTiming p d = p ∧ audioPipelineOnRtpTiming q d = q) ∨
      (audioPipelineOnRtpTiming p d =
          { p with ntpSync := (ntpSyncProcessPacket p.ntpSync d.data d.now).1 } ∧
        audioPipelineOnRtpTiming q d =
          { q with ntpSync := (ntpSyncProcessPacket q.ntpSync d.data d.now).1 }) := by
  have hport : p.timingPeer.port = q.timingPeer.port := by rw [h.timingPeer]
  rw [audioPipelineOnRtpTiming, audioPipelineOnRtpTiming, ← hport]
  by_cases hinitialized : p.ntpSyncInitialized = false
  · have hinitialized' : q.ntpSyncInitialized = false := h.initialized ▸ hinitialized
    rw [if_pos hinitialized, if_pos hinitialized']
    exact Or.inl ⟨rfl, rfl⟩
  · have hinitialized' : ¬ q.ntpSyncInitialized = false := h.initialized ▸ hinitialized
    rw [if_neg hinitialized, if_neg hinitialized']
    split
    · exact Or.inl ⟨rfl, rfl⟩
    · split
      · exact Or.inl ⟨rfl, rfl⟩
      · exact Or.inr ⟨rfl, rfl⟩

theorem SamePlayback.onRtpTiming (h : SamePlayback p q) (d : Datagram) :
    SamePlayback (audioPipelineOnRtpTiming p d) (audioPipelineOnRtpTiming q d) := by
  rcases h.transport.onRtpTiming d with ⟨hp, hq⟩ | ⟨hp, hq⟩
  · rw [hp, hq]
    exact h
  · have hkeeps := ntpSyncProcessPacket_keepsAnchor d.data d.now
    rw [hp, hq]
    exact { h with
      estimate := hkeeps.estimate h.estimate
      ntpAnchor := hkeeps.anchor h.ntpAnchor }

theorem pipelineCallbacks_samePlayback (aead : Aead) :
    (pipelineCallbacks aead).Related (pipelineCallbacks aead) SamePlayback where
  audio _ _ packet now h := h.onRtpAudio aead packet now
  control _ _ data h := h.onRtpControl data
  timing _ _ d h := h.onRtpTiming d

theorem SamePlayback.requestTiming (h : SamePlayback p q) (now : UInt64) :
    SamePlayback (p.requestTiming now) (q.requestTiming now) := by
  have hport : p.timingPeer.port = q.timingPeer.port := by rw [h.transport.timingPeer]
  rw [AudioPipeline.requestTiming, AudioPipeline.requestTiming, ← hport]
  have hkeeps := ntpSyncRequest_keepsAnchor now
  split
  · exact { h with
      estimate := hkeeps.estimate h.estimate
      ntpAnchor := hkeeps.anchor h.ntpAnchor }
  · exact h

/-- Polls of two such clocks agree. -/
theorem ptpSyncPoll_same {a b : PtpSync} (h : SamePtp a b) (hopened : a.opened = b.opened)
    (io : List UdpOffer × List UdpOffer) :
    (SamePtp (ptpSyncPoll a io).1 (ptpSyncPoll b io).1 ∧
      (ptpSyncPoll a io).1.opened = (ptpSyncPoll b io).1.opened) ∧
      (ptpSyncPoll a io).2 = (ptpSyncPoll b io).2 := by
  have hpacket : ∀ (a b : PtpSync) (d : Datagram), SamePtp a b ∧ a.opened = b.opened →
      SamePtp (ptpSyncPacket a d.data d.now).1 (ptpSyncPacket b d.data d.now).1 ∧
        (ptpSyncPacket a d.data d.now).1.opened = (ptpSyncPacket b d.data d.now).1.opened := by
    rintro a b d ⟨hsame, hopened⟩
    rw [ptpSyncPacket_opened, ptpSyncPacket_opened]
    exact ⟨(hsame.packet d.data d.now).1, hopened⟩
  rw [ptpSyncPoll, ptpSyncPoll, hopened]
  split
  · exact ⟨⟨h, hopened⟩, rfl⟩
  · have hevent := udpBatch_related _ hpacket 512 8 io.1 a b ⟨h, hopened⟩
    dsimp only
    rw [hevent.2]
    split
    · exact hevent
    · exact udpBatch_related _ hpacket 512 8 io.2 _ _ hevent.1

/-- **The inputs of a poll.** -/
theorem SamePlayback.pollInputs (aead : Aead) (h : SamePlayback p q) (io : InputsIo) :
    SamePlayback (pipelinePollInputs aead io p).1 (pipelinePollInputs aead io q).1 := by
  have hrequest := h.requestTiming io.now
  have hreceived := rtpReceiverPoll_related (pipelineCallbacks_samePlayback aead)
    (p.requestTiming io.now).peerIp io.receiver hrequest
  rw [pipelinePollInputs, pipelinePollInputs]
  dsimp only
  rw [← hrequest.transport.peerIp, ← hreceived.2]
  obtain ⟨hsame, -⟩ := hreceived
  split
  · exact hsame
  · refine { hsame with ptp := fun hne => ?_ }
    have hptp := hsame.ptp hne
    exact (ptpSyncPoll_same hptp.1 hptp.2 io.ptp).1

/-- **A poll of the connection.** -/
theorem SamePlayback.pollRecord (aead : Aead) (h : SamePlayback p q) (io : RecordIo) :
    SamePlayback (pipelinePollRecord aead io p).1 (pipelinePollRecord aead io q).1 ∧
      SamePoll (pipelinePollRecord aead io p).2 (pipelinePollRecord aead io q).2 := by
  have hip : p.timingPeer.ip = q.timingPeer.ip := by rw [h.transport.timingPeer]
  have hpoll := h.buffered.poll io.buffered p.timingPeer.ip
  rw [pipelinePollRecord, pipelinePollRecord, ← hip]
  generalize bufferedAudioPoll io.buffered p.buffered p.timingPeer.ip = r at hpoll ⊢
  generalize bufferedAudioPoll io.buffered q.buffered p.timingPeer.ip = r' at hpoll ⊢
  have hnext : SamePlayback { p with buffered := r.audio } { q with buffered := r'.audio } :=
    { h with buffered := hpoll.audio }
  rw [← hpoll.packet]
  cases r.packet with
  | none => exact ⟨hnext, hpoll⟩
  | some packet => exact ⟨hnext.onRtpAudio aead packet io.now, hpoll⟩

/-! ## Playing -/

/-- A queued packet has the same deadline on both. -/
theorem SamePlayback.deadline (h : SamePlayback p q) {slot : Slot}
    (hslot : (p.playout.packets slot).valid = true) (timestamp : UInt32) (io : PlayIo) :
    pipelineDeadline p timestamp io = pipelineDeadline q timestamp io := by
  rw [pipelineDeadline, pipelineDeadline]
  by_cases htype : p.session.streamType = 0
  · have htype' : q.session.streamType = 0 := h.session ▸ htype
    rw [if_pos htype, if_pos htype', pipelineNtpDeadline, pipelineNtpDeadline,
      ntpSyncDeadline_same h.estimate h.ntpAnchor, h.session, h.transport.timingPeer,
      h.firstArrivalUs, h.firstTimestamp (Or.inr ⟨slot, hslot⟩)]
  · have htype' : ¬ q.session.streamType = 0 := h.session ▸ htype
    rw [if_neg htype, if_neg htype', pipelinePtpDeadline, pipelinePtpDeadline,
      (h.ptp htype).1.deadline, h.session, h.anchor]

theorem SamePlayback.schedule (h : SamePlayback p q) {slot : Slot}
    (hslot : (p.playout.packets slot).valid = true) (io : PlayIo) :
    p.schedule io slot = q.schedule io slot := by
  rw [AudioPipeline.schedule, AudioPipeline.schedule, h.deadline hslot,
    h.queue.packets slot hslot, h.session]

theorem SamePlayback.playVerdict (h : SamePlayback p q) (io : PlayIo) :
    Audio.playVerdict p io = Audio.playVerdict q io := by
  have hpeek := h.queue.peek
  unfold Audio.playVerdict
  rw [← hpeek]
  cases hfront : playoutPeek p.playout with
  | none => rfl
  | some slot => exact h.schedule (playoutPeek_eq_some hfront).1 io

theorem SamePlayback.dropLate (h : SamePlayback p q) {slot : Slot}
    (hslot : (p.playout.packets slot).valid = true) :
    SamePlayback (p.dropLate slot) (q.dropLate slot) := by
  have hcounters : ({ p.counters with latePackets := p.counters.latePackets + 1 } :
      PipelineCounters) = { q.counters with latePackets := q.counters.latePackets + 1 } := by
    rw [h.counters]
  have hfirst := h.firstTimestamp (Or.inr ⟨slot, hslot⟩)
  rw [AudioPipeline.dropLate, AudioPipeline.dropLate]
  exact { h with
    counters := hcounters, queue := h.queue.pop hslot, firstTimestamp := fun _ => hfirst }

/-- The counting at the start of `audio_pipeline_decode_packet`. -/
def AudioPipeline.countPacket (p : AudioPipeline) (sequence : UInt16) : AudioPipeline :=
  let delta := (sequence - (p.lastSequence + 1)).toInt16.toInt
  { p with
    packetsLost :=
      if decide (p.packetsReceived > 0) && decide (delta > 0) then
        p.packetsLost + UInt32.ofInt delta
      else p.packetsLost
    lastSequence := sequence
    packetsReceived := p.packetsReceived + 1 }

/-- The rest of `audio_pipeline_decode_packet`. -/
def AudioPipeline.countDecoded (p : AudioPipeline) (scaled : Int16 → Int16) :
    DecodeOutcome → AudioPipeline × List Int16
  | none =>
      if p.session.codec = .alac ∨ p.session.codec = .aac then
        ({ p with decodeErrors := p.decodeErrors + 1 }, [])
      else (p, [])
  | some [] => (p, [])
  | some (x :: xs) =>
      let audible := (x :: xs).any (· ≠ 0)
      ({ p with
          nonzeroPackets := if audible then p.nonzeroPackets + 1 else p.nonzeroPackets
          decodedPackets := p.decodedPackets + 1 }, (x :: xs).map scaled)

theorem decodePacket_of_match {packet : RtpPacket}
    (h : ¬ (p.state ≠ .playing ∨ packet.header.payloadType ≠ p.session.payloadType))
    (decoded : DecodeOutcome) (scaled : Int16 → Int16) :
    audioPipelineDecodePacket p packet decoded scaled =
      (p.countPacket packet.header.sequence).countDecoded scaled decoded := by
  rw [audioPipelineDecodePacket, if_neg h]
  cases decoded with
  | none => rfl
  | some samples =>
      cases samples with
      | nil => rfl
      | cons x xs => rfl

theorem SamePlayback.countPacket (h : SamePlayback p q) (sequence : UInt16) :
    SamePlayback (p.countPacket sequence) (q.countPacket sequence) := by
  have hreceived : p.packetsReceived = q.packetsReceived :=
    congrArg PipelineCounters.packetsReceived h.counters
  have hbefore : p.packetsLost = q.packetsLost := congrArg PipelineCounters.packetsLost h.counters
  have hlost : (p.countPacket sequence).packetsLost = (q.countPacket sequence).packetsLost := by
    rw [AudioPipeline.countPacket, AudioPipeline.countPacket]
    dsimp only
    rw [← hbefore, ← hreceived]
    by_cases hzero : p.packetsReceived = 0
    · have hnone : decide (p.packetsReceived > 0) = false := by
        rw [hzero]
        decide
      rw [hnone, Bool.false_and, Bool.false_and, if_neg Bool.false_ne_true,
        if_neg Bool.false_ne_true]
    · rw [h.lastSequence hzero]
  have hcounters : ({ p.counters with
        packetsLost := (p.countPacket sequence).packetsLost
        packetsReceived := p.counters.packetsReceived + 1 } : PipelineCounters) =
      { q.counters with
        packetsLost := (q.countPacket sequence).packetsLost
        packetsReceived := q.counters.packetsReceived + 1 } := by
    rw [h.counters, hlost]
  exact { h with counters := hcounters, lastSequence := fun _ => rfl }

theorem SamePlayback.countDecoded (h : SamePlayback p q) (decoded : DecodeOutcome)
    (scaled : Int16 → Int16) :
    SamePlayback (p.countDecoded scaled decoded).1 (q.countDecoded scaled decoded).1 ∧
      (p.countDecoded scaled decoded).2 = (q.countDecoded scaled decoded).2 := by
  have herror : ({ p.counters with decodeErrors := p.counters.decodeErrors + 1 } :
      PipelineCounters) = { q.counters with decodeErrors := q.counters.decodeErrors + 1 } := by
    rw [h.counters]
  have hcodec : p.session.codec = q.session.codec := by rw [h.session]
  rw [AudioPipeline.countDecoded.eq_def, AudioPipeline.countDecoded.eq_def, ← hcodec]
  cases decoded with
  | none =>
      dsimp only
      split
      · exact ⟨{ h with counters := herror }, rfl⟩
      · exact ⟨h, rfl⟩
  | some samples =>
      cases samples with
      | nil => exact ⟨h, rfl⟩
      | cons x xs =>
          have hdecoded : ({ p.counters with
                nonzeroPackets := if (x :: xs).any (· ≠ 0) then p.counters.nonzeroPackets + 1
                  else p.counters.nonzeroPackets
                decodedPackets := p.counters.decodedPackets + 1 } : PipelineCounters) =
              { q.counters with
                nonzeroPackets := if (x :: xs).any (· ≠ 0) then q.counters.nonzeroPackets + 1
                  else q.counters.nonzeroPackets
                decodedPackets := q.counters.decodedPackets + 1 } := by
            rw [h.counters]
          exact ⟨{ h with counters := hdecoded }, rfl⟩

/-- Decoding leaves the pipelines alike, and hands out the same samples. -/
theorem SamePlayback.decodePacket (h : SamePlayback p q) (packet : RtpPacket)
    (decoded : DecodeOutcome) (scaled : Int16 → Int16) :
    SamePlayback (audioPipelineDecodePacket p packet decoded scaled).1
        (audioPipelineDecodePacket q packet decoded scaled).1 ∧
      (audioPipelineDecodePacket p packet decoded scaled).2 =
        (audioPipelineDecodePacket q packet decoded scaled).2 := by
  have hcase : (p.state ≠ .playing ∨ packet.header.payloadType ≠ p.session.payloadType) ↔
      (q.state ≠ .playing ∨ packet.header.payloadType ≠ q.session.payloadType) := by
    rw [h.state, h.session]
  by_cases hother : p.state ≠ .playing ∨ packet.header.payloadType ≠ p.session.payloadType
  · rw [audioPipelineDecodePacket, audioPipelineDecodePacket, if_pos hother,
      if_pos (hcase.mp hother)]
    exact ⟨h, rfl⟩
  · rw [decodePacket_of_match hother, decodePacket_of_match fun hsame => hother (hcase.mpr hsame)]
    exact (h.countPacket packet.header.sequence).countDecoded decoded scaled

theorem SamePlayback.submit (h : SamePlayback p q) {slot : Slot}
    (hslot : (p.playout.packets slot).valid = true) (io : PlayIo) :
    SamePlayback (p.submit io slot).1 (q.submit io slot).1 ∧
      (p.submit io slot).2 = (q.submit io slot).2 := by
  have hpacket := h.queue.packets slot hslot
  obtain ⟨hsame, hsamples⟩ := h.decodePacket (p.playout.packets slot).packet io.decoded io.scaled
  obtain ⟨-, hqueue, -⟩ := decodePacket_setting p (p.playout.packets slot).packet io.decoded io.scaled
  rw [AudioPipeline.submit, AudioPipeline.submit, ← hpacket]
  generalize audioPipelineDecodePacket p (p.playout.packets slot).packet io.decoded io.scaled = r
    at hsame hsamples hqueue ⊢
  generalize audioPipelineDecodePacket q (p.playout.packets slot).packet io.decoded io.scaled = r'
    at hsame hsamples ⊢
  have hslot' : (r.1.playout.packets slot).valid = true := by
    rw [hqueue]
    exact hslot
  have hfirst := hsame.firstTimestamp (Or.inr ⟨slot, hslot'⟩)
  exact ⟨{ hsame with queue := hsame.queue.pop hslot', firstTimestamp := fun _ => hfirst }, hsamples⟩

/-! ## Turns -/

/-- Two turns agree: one of the polls fails, or both go on in the same way. -/
def Agree (related : AudioPipeline → AudioPipeline → Prop) (s t : Turn) : Prop :=
  s.phase = .done false ∨ t.phase = .done false ∨
    s.phase = t.phase ∧ s.event = t.event ∧ related s.pipeline t.pipeline

theorem agree_of_related {related : AudioPipeline → AudioPipeline → Prop} {p q : AudioPipeline}
    (h : related p q) (phase : PollPhase) (event : TurnEvent) :
    Agree related ⟨p, phase, event⟩ ⟨q, phase, event⟩ :=
  Or.inr (Or.inr ⟨rfl, rfl, h⟩)

theorem SamePlayback.inputsTurn (aead : Aead) (h : SamePlayback p q) (io : InputsIo) :
    Agree SamePlayback (Audio.inputsTurn aead io p) (Audio.inputsTurn aead io q) := by
  have hnext := h.pollInputs aead io
  have htype : p.session.streamType = q.session.streamType := by rw [h.session]
  rw [Audio.inputsTurn, Audio.inputsTurn, ← htype]
  split
  · dsimp only
    cases hok : (pipelinePollInputs aead io p).2 with
    | false => exact Or.inl (by rw [if_pos rfl])
    | true =>
        cases hok' : (pipelinePollInputs aead io q).2 with
        | false => exact Or.inr (Or.inl (by rw [if_pos rfl]))
        | true =>
            have hlimit : receiveLimit (pipelinePollInputs aead io p).1 =
                receiveLimit (pipelinePollInputs aead io q).1 := by
              rw [receiveLimit, receiveLimit, hnext.buffered.discarding]
            have hgoes : ¬ true = false := by decide
            rw [if_neg hgoes, if_neg hgoes, ← hnext.state, ← hlimit]
            split
            · exact agree_of_related hnext _ _
            · exact agree_of_related hnext _ _
  · exact Or.inl rfl

theorem SamePlayback.receiveTurn (aead : Aead) (h : SamePlayback p q) (io : RecordIo)
    (i limit : ℕ) :
    Agree SamePlayback (Audio.receiveTurn aead io p i limit)
      (Audio.receiveTurn aead io q i limit) := by
  have hwants : p.wantsRecord i limit = q.wantsRecord i limit := by
    rw [AudioPipeline.wantsRecord, AudioPipeline.wantsRecord, h.buffered.discarding,
      h.queue.count]
  obtain ⟨hnext, hpoll⟩ := h.pollRecord aead io
  have hcompleted : completedRecord p.buffered (pipelinePollRecord aead io p).2 =
      completedRecord q.buffered (pipelinePollRecord aead io q).2 := by
    rw [completedRecord, completedRecord, hpoll.result, hpoll.packet, hpoll.received,
      h.buffered.data]
  rw [Audio.receiveTurn, Audio.receiveTurn, ← hwants]
  split
  · dsimp only
    rw [← hpoll.result, ← hcompleted]
    split
    · exact agree_of_related hnext _ _
    · split
      · exact agree_of_related hnext _ _
      · exact agree_of_related hnext _ _
  · exact agree_of_related h _ _

theorem SamePlayback.playTurn (h : SamePlayback p q) (io : PlayIo) (batch : ℕ) :
    Agree SamePlayback (Audio.playTurn io p batch) (Audio.playTurn io q batch) := by
  have hverdict := h.playVerdict io
  rw [Audio.playTurn, Audio.playTurn, ← h.state, ← hverdict]
  split
  · cases hcase : Audio.playVerdict p io with
    | wait => exact agree_of_related h _ _
    | fail => exact agree_of_related h _ _
    | late slot =>
        have hslot := (playoutPeek_eq_some (playVerdict_peek (Or.inl hcase))).1
        dsimp only
        rw [← h.queue.packets slot hslot]
        exact agree_of_related (h.dropLate hslot) _ _
    | submit slot =>
        have hslot := (playoutPeek_eq_some (playVerdict_peek (Or.inr hcase))).1
        obtain ⟨hnext, hsamples⟩ := h.submit hslot io
        dsimp only
        rw [← h.queue.packets slot hslot, ← hsamples]
        exact agree_of_related hnext _ _
  · exact agree_of_related h _ _

/-- **Turns of two pipelines that play alike agree.** -/
theorem SamePlayback.turn (aead : Aead) (h : SamePlayback p q) (io : TurnIo) (phase : PollPhase) :
    Agree SamePlayback (pollTurn aead io p phase) (pollTurn aead io q phase) := by
  cases phase with
  | inputs => exact h.inputsTurn aead io.inputs
  | receiving i limit => exact h.receiveTurn aead io.record i limit
  | playing batch => exact h.playTurn io.play batch
  | done ok => exact agree_of_related h _ _

end Playback

/-! ## Between two sessions -/

/-- Neither pipeline plays, and they have their transport in common. -/
structure BothWait (p q : AudioPipeline) : Prop where
  transport : SameTransport p q
  idle : p.state ≠ .playing
  idle' : q.state ≠ .playing

section Waiting

variable {p q : AudioPipeline}

/-- What a control packet may change: the anchors. -/
theorem onRtpControl_transport (p : AudioPipeline) (data : List UInt8) :
    SameTransport (audioPipelineOnRtpControl p data) p ∧
      SameTransport p (audioPipelineOnRtpControl p data) := by
  have hcontrol := ntpSyncControl_same p.ntpSync data
  have hrefl : SameTransport p p := ⟨rfl, rfl, SameBuffered.refl _⟩
  rw [audioPipelineOnRtpControl]
  split
  · split
    · exact ⟨hrefl, hrefl⟩
    · exact ⟨⟨rfl, rfl, SameBuffered.refl _⟩, rfl, rfl, SameBuffered.refl _⟩
  · exact ⟨⟨rfl, (hcontrol _).2, SameBuffered.refl _⟩, rfl, (hcontrol _).1, SameBuffered.refl _⟩

theorem SameTransport.trans {p q r : AudioPipeline} (hpq : SameTransport p q)
    (hqr : SameTransport q r) : SameTransport p r :=
  ⟨hpq.peer.trans hqr.peer, hpq.estimate.trans hqr.estimate, hpq.buffered.trans hqr.buffered⟩

theorem BothWait.onRtpAudio (aead : Aead) (h : BothWait p q) (packet : RtpPacket)
    (now : UInt64) :
    BothWait (audioPipelineOnRtpAudio aead p packet now)
      (audioPipelineOnRtpAudio aead q packet now) := by
  rw [audioPipelineOnRtpAudio, audioPipelineOnRtpAudio, if_pos (Or.inl h.idle),
    if_pos (Or.inl h.idle')]
  exact h

theorem BothWait.onRtpControl (h : BothWait p q) (data : List UInt8) :
    BothWait (audioPipelineOnRtpControl p data) (audioPipelineOnRtpControl q data) where
  transport := (onRtpControl_transport p data).1.trans
    (h.transport.trans (onRtpControl_transport q data).2)
  idle hplaying := h.idle ((onRtpControl_arrival p data).setting.state ▸ hplaying)
  idle' hplaying := h.idle' ((onRtpControl_arrival q data).setting.state ▸ hplaying)

theorem BothWait.onRtpTiming (h : BothWait p q) (d : Datagram) :
    BothWait (audioPipelineOnRtpTiming p d) (audioPipelineOnRtpTiming q d) := by
  rcases h.transport.onRtpTiming d with ⟨hp, hq⟩ | ⟨hp, hq⟩
  · rw [hp, hq]
    exact h
  · have hkeeps := ntpSyncProcessPacket_keepsAnchor d.data d.now
    rw [hp, hq]
    exact ⟨⟨h.transport.peer, hkeeps.estimate h.transport.estimate, h.transport.buffered⟩,
      h.idle, h.idle'⟩

theorem pipelineCallbacks_bothWait (aead : Aead) :
    (pipelineCallbacks aead).Related (pipelineCallbacks aead) BothWait where
  audio _ _ packet now h := h.onRtpAudio aead packet now
  control _ _ data h := h.onRtpControl data
  timing _ _ d h := h.onRtpTiming d

theorem BothWait.pollInputs (aead : Aead) (h : BothWait p q) (io : InputsIo) :
    BothWait (pipelinePollInputs aead io p).1 (pipelinePollInputs aead io q).1 := by
  have hport : p.timingPeer.port = q.timingPeer.port := by rw [h.transport.timingPeer]
  have hrequest : BothWait (p.requestTiming io.now) (q.requestTiming io.now) := by
    have hkeeps := ntpSyncRequest_keepsAnchor io.now
    rw [AudioPipeline.requestTiming, AudioPipeline.requestTiming, ← hport]
    split
    · exact ⟨⟨h.transport.peer, hkeeps.estimate h.transport.estimate, h.transport.buffered⟩,
        h.idle, h.idle'⟩
    · exact h
  have hreceived := rtpReceiverPoll_related (pipelineCallbacks_bothWait aead)
    (p.requestTiming io.now).peerIp io.receiver hrequest
  rw [pipelinePollInputs, pipelinePollInputs]
  dsimp only
  rw [← hrequest.transport.peerIp, ← hreceived.2]
  obtain ⟨hsame, -⟩ := hreceived
  split
  · exact hsame
  · exact ⟨⟨hsame.transport.peer, hsame.transport.estimate, hsame.transport.buffered⟩,
      hsame.idle, hsame.idle'⟩

/-- **Turns of two pipelines that wait agree**, and no record is read. -/
theorem BothWait.turn (aead : Aead) (h : BothWait p q) (io : TurnIo) {phase : PollPhase}
    (hphase : ∀ i limit, phase ≠ .receiving i limit) :
    Agree BothWait (pollTurn aead io p phase) (pollTurn aead io q phase) ∧
      ∀ i limit, (pollTurn aead io p phase).phase ≠ .receiving i limit := by
  cases phase with
  | receiving i limit => exact absurd rfl (hphase i limit)
  | done ok => exact ⟨agree_of_related h _ _, fun i limit hfalse => PollPhase.noConfusion hfalse⟩
  | playing batch =>
      show Agree BothWait (playTurn io.play p batch) (playTurn io.play q batch) ∧
        ∀ i limit, (playTurn io.play p batch).phase ≠ .receiving i limit
      rw [playTurn, playTurn, if_neg fun hplays => h.idle hplays.2,
        if_neg fun hplays => h.idle' hplays.2]
      exact ⟨agree_of_related h _ _, fun i limit hfalse => PollPhase.noConfusion hfalse⟩
  | inputs =>
      have hnext := h.pollInputs aead io.inputs
      -- a pipeline that does not play ends the poll here, or goes on to a batch of nothing
      have hturn : ∀ p : AudioPipeline, (pipelinePollInputs aead io.inputs p).1.state ≠ .playing →
          inputsTurn aead io.inputs p = ⟨(inputsTurn aead io.inputs p).pipeline, .done false, .quiet⟩ ∨
            inputsTurn aead io.inputs p =
              ⟨(pipelinePollInputs aead io.inputs p).1, .playing 0, .quiet⟩ := by
        intro p hidle
        rw [inputsTurn]
        split
        · dsimp only
          split
          · exact Or.inl rfl
          · rw [if_neg fun hplays => hidle hplays.2]
            exact Or.inr rfl
        · exact Or.inl rfl
      show Agree BothWait (inputsTurn aead io.inputs p) (inputsTurn aead io.inputs q) ∧
        ∀ i limit, (inputsTurn aead io.inputs p).phase ≠ .receiving i limit
      rcases hturn p hnext.idle with hp | hp
      · rw [hp]
        exact ⟨Or.inl rfl, fun i limit hfalse => PollPhase.noConfusion hfalse⟩
      · rcases hturn q hnext.idle' with hq | hq
        · rw [hp, hq]
          exact ⟨Or.inr (Or.inl rfl), fun i limit hfalse => PollPhase.noConfusion hfalse⟩
        · rw [hp, hq]
          exact ⟨agree_of_related hnext _ _, fun i limit hfalse => PollPhase.noConfusion hfalse⟩

end Waiting

end PortableAirplay.Audio
