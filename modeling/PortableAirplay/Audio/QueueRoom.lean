import PortableAirplay.Audio.PlayedOnce
import PortableAirplay.Audio.PlayoutInvariant

/-!
# Room in the playout queue

The loop over records stops before the queue is full, except while records are
discarded: then it reads on and does not look at the queue. `Roomy` is what makes that
safe: the counter of the queue counts its packets, and while a seek discards records the
queue is empty. Every turn of a poll keeps it, as long as no audio arrives on the UDP
sockets, so a record that is to be queued finds a free slot (`Roomy.finds_room`).
-/

set_option autoImplicit false

namespace PortableAirplay.Audio

open PortableAirplay.Airplay
open PortableAirplay.Library
open PortableAirplay.Platform
open PortableAirplay.Protocol
open PortableAirplay.Sync

/-! ## The counter of the queue -/

section Counter

variable {q : Playout}

theorem Playout.CountExact.pushAll (h : q.CountExact) (packets : List RtpPacket) :
    (q.pushAll packets).CountExact := by
  induction packets generalizing q with
  | nil => exact h
  | cons packet packets ih => exact ih (h.push packet)

/-- With a free slot, a packet of admissible size is not refused for lack of capacity. -/
theorem playoutPush_room (hfree : q.freeSlot ≠ none) {packet : RtpPacket}
    (hadmissible : admissiblePayload packet = true) : (playoutPush q packet).2 ≠ -1 := by
  rw [admissiblePayload, decide_eq_true_eq] at hadmissible
  have hzero : (0 : ℤ) ≠ -1 := by decide
  have hone : (1 : ℤ) ≠ -1 := by decide
  rw [playoutPush, if_neg (by omega)]
  split
  · exact hzero
  · split
    · exact hzero
    · split
      · exact hzero
      · cases hslot : q.freeSlot with
        | none => exact absurd hslot hfree
        | some slot => exact hone

end Counter

/-! ## The discard flag -/

/-- A poll of the connection does not begin to discard, and a packet that it hands over
ends the discarding. -/
structure KeepsReading (discarding : Bool) (r : BufferedPoll) : Prop where
  kept : r.audio.discarding = true → discarding = true
  handed : ∀ packet, r.packet = some packet → r.audio.discarding = false

theorem KeepsReading.quiet {discarding : Bool} {after : BufferedAudio} {result : ℤ}
    {received : List UInt8} (h : after.discarding = true → discarding = true) :
    KeepsReading discarding ⟨after, result, none, received⟩ :=
  ⟨h, fun packet hnone => absurd hnone.symm (Option.some_ne_none packet)⟩

theorem KeepsReading.closed {discarding : Bool} {b : BufferedAudio} {result : ℤ}
    {received : List UInt8} :
    KeepsReading discarding ⟨bufferedAudioDisconnect b, result, none, received⟩ :=
  KeepsReading.quiet fun h => absurd h Bool.false_ne_true

theorem deliverRecord_keepsReading (b : BufferedAudio) (received : List UInt8) :
    KeepsReading b.discarding (deliverRecord b received) := by
  rw [deliverRecord]
  split
  · exact ⟨id, fun packet h => absurd h.symm (Option.some_ne_none packet)⟩
  · exact ⟨fun h => absurd h Bool.false_ne_true, fun _ _ => rfl⟩

theorem receiveRecord_keepsReading (io : BufferedIo) (b : BufferedAudio) :
    KeepsReading b.discarding (receiveRecord io b) := by
  have hpoll := receiveRecord_poll io b
  generalize receiveRecord io b = r at hpoll
  cases hpoll with
  | waiting data received => exact KeepsReading.quiet id
  | dropped received => exact KeepsReading.closed
  | consumed data received => exact deliverRecord_keepsReading { b with data := data } received

theorem bufferedAudioPoll_keepsReading (io : BufferedIo) (b : BufferedAudio) (ip : CString) :
    KeepsReading b.discarding (bufferedAudioPoll io b ip) := by
  rw [bufferedAudioPoll]
  split
  · exact receiveRecord_keepsReading io b
  · cases io.accept with
    | timeout => exact KeepsReading.quiet id
    | error => exact KeepsReading.quiet id
    | accepted handle peer =>
        dsimp only
        split
        · exact KeepsReading.closed
        · exact receiveRecord_keepsReading io
            { b with client := netTcpAccept b.listener handle }

/-! ## The turns of a poll -/

/-- No audio arrives on the audio socket, nor retransmitted on the control socket. -/
structure NoAudio (io : ReceiverIo) : Prop where
  audio : ∀ d, .datagram d ∉ io.audio
  control : ∀ d, .datagram d ∈ io.control → byteAt d.data 1 &&& 0x7f ≠ 0x56

/-- The queue has room for the records of a buffered session. -/
structure Roomy (p : AudioPipeline) : Prop where
  exact : p.playout.CountExact
  discarding : p.session.streamType = streamTypeBuffered → p.buffered.discarding = true →
    p.playout.count = 0

theorem Roomy.of_empty {p : AudioPipeline} (hexact : p.playout.CountExact)
    (hcount : p.playout.count = 0) : Roomy p := ⟨hexact, fun _ _ => hcount⟩

/-- **A record that is to be queued finds room.** -/
theorem Roomy.finds_room {p : AudioPipeline} (h : Roomy p)
    (hbuffered : p.session.streamType = streamTypeBuffered) {i limit : ℕ}
    (hwants : p.wantsRecord i limit = true) : p.playout.freeSlot ≠ none := by
  apply h.exact.freeSlot
  rw [AudioPipeline.wantsRecord, Bool.and_eq_true, Bool.or_eq_true, decide_eq_true_eq,
    decide_eq_true_eq] at hwants
  have hsize : airplayPlayoutPackets = 512 := rfl
  rcases hwants.2 with hdiscarding | hcount
  · rw [h.discarding hbuffered hdiscarding, UInt32.toNat_zero]
    omega
  · omega

/-- A batch keeps what each of its datagrams keeps. -/
theorem udpBatch_members {σ : Type} {handle : σ → Datagram → σ} (inv : σ → Prop) (capacity : ℕ) :
    ∀ (fuel : ℕ) (offers : List UdpOffer) (s : σ),
      (∀ s d, .datagram d ∈ offers → inv s → inv (handle s d)) →
      inv s → inv (udpBatch handle capacity fuel offers s).1 := by
  intro fuel
  induction fuel with
  | zero => exact fun _ _ _ h => h
  | succ fuel ih =>
      intro offers s hstep h
      cases offers with
      | nil => exact h
      | cons offer rest =>
          cases offer with
          | error => exact h
          | datagram d =>
              rw [udpBatch]
              split
              · exact h
              · exact ih rest _ (fun s d hd => hstep s d (List.mem_cons_of_mem _ hd))
                  (hstep s d List.mem_cons_self h)

/-- Without audio on the UDP sockets nothing is pushed while the inputs are read. -/
theorem inputsPushes_noAudio (aead : Aead) {io : InputsIo} (h : NoAudio io.receiver)
    (p : AudioPipeline) : inputsPushes aead io p = [] := by
  rw [inputsPushes]
  split
  · rw [rtpReceiverPoll]
    dsimp only
    have htiming : ∀ s d, s.2 = [] →
        ((loggedCallbacks aead).onTiming p.peerIp s d).2 = [] := by
      intro s d hs
      rw [RtpCallbacks.onTiming]
      split
      · exact hs
      · exact hs
    have hcontrol : ∀ s d, .datagram d ∈ io.receiver.control → s.2 = [] →
        ((loggedCallbacks aead).onControl p.peerIp s d).2 = [] := by
      intro s d hd hs
      -- only type 86 carries audio on the control port
      have hother : ¬ (2 ≤ d.data.length ∧ byteAt d.data 1 &&& 0x7f = 0x56) :=
        fun haudio => h.control d hd haudio.2
      rw [RtpCallbacks.onControl, if_neg hother]
      split
      · exact hs
      · exact hs
    -- timing, then control, then audio; each may end the poll
    have hfirst := udpBatch_invariant (fun s : AudioPipeline × List RtpPacket => s.2 = [])
      htiming rtpBufferSize 32 io.receiver.timing (p.requestTiming io.now, []) rfl
    split
    · rfl
    · split
      · exact hfirst
      · have hsecond := udpBatch_members (fun s : AudioPipeline × List RtpPacket => s.2 = [])
          rtpBufferSize 32 io.receiver.control _ hcontrol hfirst
        split
        · exact hsecond
        · exact udpBatch_members (fun s : AudioPipeline × List RtpPacket => s.2 = [])
            rtpBufferSize 32 io.receiver.audio _
            (fun s d hd _ => absurd hd (h.audio d)) hsecond
  · rfl

/-- **While records are discarded, nothing is pushed**: a turn that ends discarding began
so, and pushed no packet. -/
theorem pollTurn_discarding {aead : Aead} {io : TurnIo} {p : AudioPipeline}
    (hquiet : NoAudio io.inputs.receiver) (phase : PollPhase)
    (h : (pollTurn aead io p phase).pipeline.buffered.discarding = true) :
    p.buffered.discarding = true ∧ turnPushes aead io p phase = [] := by
  cases phase with
  | inputs =>
      -- datagrams do not touch the buffered connection
      have harrival := pipelinePollInputs_arrival aead io.inputs p
      have hsame : (inputsTurn aead io.inputs p).pipeline.buffered = p.buffered := by
        rw [inputsTurn_pipeline]
        split
        · exact harrival.buffered
        · rfl
      replace h : (inputsTurn aead io.inputs p).pipeline.buffered.discarding = true := h
      rw [hsame] at h
      exact ⟨h, inputsPushes_noAudio aead hquiet p⟩
  | receiving i limit =>
      replace h : (receiveTurn aead io.record p i limit).pipeline.buffered.discarding = true := h
      rw [receiveTurn_pipeline] at h
      by_cases hwants : p.wantsRecord i limit = true
      · -- a record that is handed over ends the discarding, so none was
        have hkeeps := bufferedAudioPoll_keepsReading io.record.buffered p.buffered p.timingPeer.ip
        rw [if_pos hwants, pipelinePollRecord_buffered] at h
        refine ⟨hkeeps.kept h, ?_⟩
        show (if p.wantsRecord i limit then recordPushes aead io.record p else []) = []
        rw [if_pos hwants, recordPushes]
        cases hpacket : (bufferedAudioPoll io.record.buffered p.buffered
            p.timingPeer.ip).packet with
        | none => rfl
        | some packet => exact absurd (h.symm.trans (hkeeps.handed packet hpacket)) (by decide)
      · rw [if_neg hwants] at h
        exact ⟨h, if_neg hwants⟩
  | playing batch =>
      have hsame : (playTurn io.play p batch).pipeline.buffered = p.buffered := by
        rw [playTurn]
        split
        · cases playVerdict p io.play with
          | wait => rfl
          | fail => rfl
          | late slot => rfl
          | submit slot =>
              exact (decodePacket_setting p (p.playout.packets slot).packet io.play.decoded
                io.play.scaled).2.2
        · rfl
      replace h : (playTurn io.play p batch).pipeline.buffered.discarding = true := h
      rw [hsame] at h
      exact ⟨h, rfl⟩
  | done ok => exact ⟨h, rfl⟩

/-- **A turn keeps room in the queue**, if no audio arrives on the UDP sockets while a
buffered session is set up. -/
theorem Roomy.turn {p : AudioPipeline} (h : Roomy p) (aead : Aead) {io : TurnIo}
    (hquiet : p.session.streamType = streamTypeBuffered → NoAudio io.inputs.receiver)
    (phase : PollPhase) : Roomy (pollTurn aead io p phase).pipeline := by
  have hqueue := pollTurn_queue aead io p phase
  have hsession := (pollTurn_effect aead io p phase).setting.session
  cases hqueue with
  | pushed hevent hpushed =>
      refine ⟨?_, fun hbuffered hdiscarding => ?_⟩
      · rw [hpushed.queue]
        exact h.exact.pushAll _
      · rw [hsession] at hbuffered
        obtain ⟨hbefore, hnone⟩ := pollTurn_discarding (hquiet hbuffered) phase hdiscarding
        rw [hpushed.queue, hnone]
        exact h.discarding hbuffered hbefore
  | left slot fate hevent hpeek hqueue hlate htimely =>
      refine ⟨?_, fun hbuffered hdiscarding => ?_⟩
      · rw [hqueue]
        exact h.exact.pop (playoutPeek_eq_some hpeek).1
      · -- nothing is taken out of an empty queue
        rw [hsession] at hbuffered
        obtain ⟨hbefore, -⟩ := pollTurn_discarding (hquiet hbuffered) phase hdiscarding
        exact absurd (h.discarding hbuffered hbefore) (h.exact.peek hpeek)

/-- A poll that receives records is one of a buffered session. -/
theorem pollTurn_receiving {aead : Aead} {io : TurnIo} {p : AudioPipeline} {phase : PollPhase}
    (hbefore : ∀ i limit, phase = .receiving i limit → p.session.streamType = streamTypeBuffered)
    {i limit : ℕ} (h : (pollTurn aead io p phase).phase = .receiving i limit) :
    (pollTurn aead io p phase).pipeline.session.streamType = streamTypeBuffered := by
  rw [(pollTurn_effect aead io p phase).setting.session]
  cases phase with
  | inputs =>
      replace h : (inputsTurn aead io.inputs p).phase = .receiving i limit := h
      rw [inputsTurn] at h
      split at h
      · dsimp only at h
        split at h
        · exact PollPhase.noConfusion h
        · split at h
          · rename_i hbuffered
            exact hbuffered.1
          · exact PollPhase.noConfusion h
      · exact PollPhase.noConfusion h
  | receiving j limit => exact hbefore j limit rfl
  | playing batch =>
      replace h : (playTurn io.play p batch).phase = .receiving i limit := h
      rcases playTurn_phase io.play p batch with hnext | ⟨ok, hdone⟩
      · exact PollPhase.noConfusion (hnext.symm.trans h)
      · exact PollPhase.noConfusion (hdone.symm.trans h)
  | done ok => exact PollPhase.noConfusion h

/-! ## The calls of the owner -/

theorem audioPipelineCreate_roomy (listener : NetSocket) : Roomy (audioPipelineCreate listener) :=
  Roomy.of_empty (countExact_of_empty (fun _ => rfl) rfl) rfl

theorem audioPipelineStop_roomy (p : AudioPipeline) : Roomy (audioPipelineStop p) :=
  Roomy.of_empty (playoutReset_countExact p.playout) rfl

theorem Roomy.setTransport {p : AudioPipeline} (h : Roomy p) (peer : NetAddr) :
    Roomy (audioPipelineSetTransport p peer) :=
  ⟨h.exact, fun _ hdiscarding => absurd hdiscarding Bool.false_ne_true⟩

theorem Roomy.setVolume {p : AudioPipeline} (h : Roomy p) (volumeDb : UInt32) :
    Roomy (audioPipelineSetVolume p volumeDb) := by
  obtain ⟨volume, hset⟩ := audioPipelineSetVolume_eq p volumeDb
  rw [hset]
  exact ⟨h.exact, h.discarding⟩

end PortableAirplay.Audio
