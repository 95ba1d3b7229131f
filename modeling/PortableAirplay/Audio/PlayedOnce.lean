import PortableAirplay.Audio.PipelineRun
import PortableAirplay.Audio.PlayoutRefinement
import PortableAirplay.Library.Custody

/-!
# Each packet is played or dropped once

A ledger beside the pipeline gives every packet that `playout_push` accepts a ticket,
and notes what became of it: handed to the decoder, dropped as late, or gone with a
reset of the queue. The ledger reads the turns and calls and has no influence on them.

`packets_leave_once` is the result: every ticket is still in one slot or has left
exactly once, it leaves on time, and between two resets the packets are handed over in
the order of the sender's indices while these stay within `2 ^ 15` of each other.
-/

set_option autoImplicit false

namespace PortableAirplay.Audio

open PortableAirplay.Airplay
open PortableAirplay.Library
open PortableAirplay.Platform
open PortableAirplay.Protocol
open PortableAirplay.Sync

/-! ## The calls of `playout_push` in a turn -/

/-- The packet that `audio_pipeline_on_rtp_audio` gives to `playout_push`, if any. -/
def pushedPacket (aead : Aead) (p : AudioPipeline) (packet : RtpPacket) : List RtpPacket :=
  if p.state ≠ .playing ∨ packet.header.payloadType ≠ p.session.payloadType then []
  else (p.decryptPacket aead packet).2.toList

/-- The callbacks of the receiver with a log of the packets pushed. -/
def loggedCallbacks (aead : Aead) : RtpCallbacks (AudioPipeline × List RtpPacket) where
  audio s packet now :=
    (audioPipelineOnRtpAudio aead s.1 packet now, s.2 ++ pushedPacket aead s.1 packet)
  control s data := (audioPipelineOnRtpControl s.1 data, s.2)
  timing s d := (audioPipelineOnRtpTiming s.1 d, s.2)

/-- The packets pushed while the inputs are read. -/
def inputsPushes (aead : Aead) (io : InputsIo) (p : AudioPipeline) : List RtpPacket :=
  if p.session.streamType = 0 ∨ p.session.streamType = streamTypeRealtime ∨
      p.session.streamType = streamTypeBuffered then
    (rtpReceiverPoll (loggedCallbacks aead) p.peerIp io.receiver
      (p.requestTiming io.now, [])).1.2
  else []

/-- The packet pushed after a poll of the buffered connection. -/
def recordPushes (aead : Aead) (io : RecordIo) (p : AudioPipeline) : List RtpPacket :=
  let r := bufferedAudioPoll io.buffered p.buffered p.timingPeer.ip
  match r.packet with
  | none => []
  | some packet => pushedPacket aead { p with buffered := r.audio } packet

/-- The packets given to `playout_push` in a turn, in order. -/
def turnPushes (aead : Aead) (io : TurnIo) (p : AudioPipeline) : PollPhase → List RtpPacket
  | .inputs => inputsPushes aead io.inputs p
  | .receiving i limit => if p.wantsRecord i limit then recordPushes aead io.record p else []
  | .playing _ => []
  | .done _ => []

/-- The queue after some packets were pushed. -/
def Playout.pushAll (q : Playout) (packets : List RtpPacket) : Playout :=
  packets.foldl (fun q packet => (playoutPush q packet).1) q

theorem Playout.pushAll_append (q : Playout) (front back : List RtpPacket) :
    q.pushAll (front ++ back) = (q.pushAll front).pushAll back :=
  List.foldl_append

/-- From `p` on, the queue saw the given pushes and no packet was dropped as late. -/
structure OnlyPushed (p after : AudioPipeline) (packets : List RtpPacket) : Prop where
  queue : after.playout = p.playout.pushAll packets
  late : after.latePackets = p.latePackets

theorem OnlyPushed.trans {p q r : AudioPipeline} {front back : List RtpPacket}
    (hpq : OnlyPushed p q front) (hqr : OnlyPushed q r back) :
    OnlyPushed p r (front ++ back) where
  queue := by rw [hqr.queue, hpq.queue, Playout.pushAll_append]
  late := hqr.late.trans hpq.late

theorem decryptPacket_pushed (aead : Aead) (p : AudioPipeline) (packet : RtpPacket) :
    OnlyPushed p (p.decryptPacket aead packet).1 [] := by
  obtain ⟨errors, hdecrypt⟩ := decryptPacket_eq aead p packet
  rw [hdecrypt]
  exact ⟨rfl, rfl⟩

theorem onRtpAudio_pushed (aead : Aead) (p : AudioPipeline) (packet : RtpPacket) (now : UInt64) :
    OnlyPushed p (audioPipelineOnRtpAudio aead p packet now) (pushedPacket aead p packet) := by
  rw [audioPipelineOnRtpAudio, pushedPacket]
  split
  · exact ⟨rfl, rfl⟩
  · have hdecrypt := decryptPacket_pushed aead p packet
    generalize p.decryptPacket aead packet = r at hdecrypt ⊢
    obtain ⟨after, decoded⟩ := r
    cases decoded with
    | none => exact hdecrypt
    | some decoded =>
        have hpush : OnlyPushed after (after.enqueue decoded now) [decoded] := ⟨rfl, rfl⟩
        exact hdecrypt.trans hpush

theorem onRtpControl_pushed (p : AudioPipeline) (data : List UInt8) :
    OnlyPushed p (audioPipelineOnRtpControl p data) [] := by
  rw [audioPipelineOnRtpControl]
  split
  · split
    · exact ⟨rfl, rfl⟩
    · exact ⟨rfl, rfl⟩
  · exact ⟨rfl, rfl⟩

theorem onRtpTiming_pushed (p : AudioPipeline) (d : Datagram) :
    OnlyPushed p (audioPipelineOnRtpTiming p d) [] := by
  obtain ⟨sync, htiming⟩ := audioPipelineOnRtpTiming_eq p d
  rw [htiming]
  exact ⟨rfl, rfl⟩

theorem loggedCallbacks_pushed (aead : Aead) (p : AudioPipeline) :
    (loggedCallbacks aead).Keeps fun s => OnlyPushed p s.1 s.2 where
  audio s packet now h := h.trans (onRtpAudio_pushed aead s.1 packet now)
  control s data h := by
    have hpushed := h.trans (onRtpControl_pushed s.1 data)
    rw [List.append_nil] at hpushed
    exact hpushed
  timing s d h := by
    have hpushed := h.trans (onRtpTiming_pushed s.1 d)
    rw [List.append_nil] at hpushed
    exact hpushed

/-- The log does not disturb the callbacks. -/
theorem loggedCallbacks_related (aead : Aead) :
    (loggedCallbacks aead).Related (pipelineCallbacks aead) fun s p => s.1 = p where
  audio _ _ packet now h := congrArg (audioPipelineOnRtpAudio aead · packet now) h
  control _ _ data h := congrArg (audioPipelineOnRtpControl · data) h
  timing _ _ d h := congrArg (audioPipelineOnRtpTiming · d) h

theorem requestTiming_pushed (p : AudioPipeline) (now : UInt64) :
    OnlyPushed p (p.requestTiming now) [] := by
  rw [AudioPipeline.requestTiming]
  split
  · exact ⟨rfl, rfl⟩
  · exact ⟨rfl, rfl⟩

/-- Reading the inputs pushes the logged packets. -/
theorem pollInputs_pushed (aead : Aead) (io : InputsIo) (p : AudioPipeline) :
    OnlyPushed p (pipelinePollInputs aead io p).1
      (rtpReceiverPoll (loggedCallbacks aead) p.peerIp io.receiver
        (p.requestTiming io.now, [])).1.2 := by
  have hlogged := rtpReceiverPoll_invariant (loggedCallbacks_pushed aead p) p.peerIp io.receiver
    (s := (p.requestTiming io.now, [])) (requestTiming_pushed p io.now)
  obtain ⟨hsame, -⟩ := rtpReceiverPoll_related (loggedCallbacks_related aead) p.peerIp io.receiver
    (s := (p.requestTiming io.now, [])) (t := p.requestTiming io.now) rfl
  have hpeer : (p.requestTiming io.now).peerIp = p.peerIp := by
    rw [AudioPipeline.requestTiming]
    split
    · rfl
    · rfl
  rw [hsame] at hlogged
  rw [pipelinePollInputs]
  dsimp only
  rw [hpeer]
  split
  · exact hlogged
  · exact ⟨hlogged.queue, hlogged.late⟩

/-- A poll of the connection pushes the packet of the record, if there is one. -/
theorem pollRecord_pushed (aead : Aead) (io : RecordIo) (p : AudioPipeline) :
    OnlyPushed p (pipelinePollRecord aead io p).1 (recordPushes aead io p) := by
  rw [pipelinePollRecord, recordPushes]
  cases (bufferedAudioPoll io.buffered p.buffered p.timingPeer.ip).packet with
  | none => exact ⟨rfl, rfl⟩
  | some packet =>
      have h := onRtpAudio_pushed aead
        { p with buffered := (bufferedAudioPoll io.buffered p.buffered p.timingPeer.ip).audio }
        packet io.now
      exact ⟨h.queue, h.late⟩

/-! ## Leaving the queue -/

/-- What becomes of an accepted packet. -/
inductive Fate where
  | handed
  | late
  | reset
  deriving DecidableEq, Repr

/-- What a turn did with the front packet, by its event. -/
def fateOf : TurnEvent → Option Fate
  | .quiet => none
  | .record _ _ => none
  | .late _ => some .late
  | .submitted _ _ => some .handed

/-- How far a deadline is ahead. -/
def deadlineAhead (io : PlayIo) (deadline : UInt64) : ℤ := (deadline - io.now).toInt64.toInt

/-- How far a deadline is ahead beyond the delay of the device. -/
def submitMargin (p : AudioPipeline) (io : PlayIo) (deadline : UInt64) : ℤ :=
  deadlineAhead io deadline -
    (io.outputDelayFrames * 1000000).tdiv p.session.sampleRate.toNat

/-- The packet of a slot may meet this fate now. -/
def Timely (p : AudioPipeline) (io : PlayIo) (slot : Slot) (fate : Fate) : Prop :=
  ∃ deadline, pipelineDeadline p (p.playout.packets slot).header.timestamp io = some deadline ∧
    deadlineAhead io deadline ≤ 40000 ∧ 0 ≤ io.outputDelayFrames ∧
    match fate with
    | .handed => -100000 ≤ submitMargin p io deadline ∧ submitMargin p io deadline ≤ 5000
    | .late => submitMargin p io deadline < -100000
    | .reset => False

theorem schedule_timely {p : AudioPipeline} {io : PlayIo} {slot : Slot} :
    (p.schedule io slot = .submit slot → Timely p io slot .handed) ∧
      (p.schedule io slot = .late slot → Timely p io slot .late) := by
  rw [AudioPipeline.schedule]
  cases hdeadline : pipelineDeadline p (p.playout.packets slot).header.timestamp io with
  | none => exact ⟨fun h => PlayVerdict.noConfusion h, fun h => PlayVerdict.noConfusion h⟩
  | some deadline =>
      dsimp only
      by_cases hahead : (deadline - io.now).toInt64.toInt > 40000
      · rw [if_pos hahead]
        exact ⟨fun h => PlayVerdict.noConfusion h, fun h => PlayVerdict.noConfusion h⟩
      · rw [if_neg hahead]
        by_cases hdelay : io.outputDelayFrames < 0
        · rw [if_pos hdelay]
          exact ⟨fun h => PlayVerdict.noConfusion h, fun h => PlayVerdict.noConfusion h⟩
        · rw [if_neg hdelay]
          split
          · exact ⟨fun h => PlayVerdict.noConfusion h, fun h => PlayVerdict.noConfusion h⟩
          · rename_i hsoon
            split
            · rename_i hlate
              exact ⟨fun h => PlayVerdict.noConfusion h, fun _ =>
                ⟨deadline, hdeadline, not_lt.mp hahead, not_lt.mp hdelay, hlate⟩⟩
            · rename_i hlate
              exact ⟨fun _ => ⟨deadline, hdeadline, not_lt.mp hahead, not_lt.mp hdelay,
                not_lt.mp hlate, not_lt.mp hsoon⟩, fun h => PlayVerdict.noConfusion h⟩

/-- What a turn did to the queue, by its event: it pushed packets, or took the front
packet out on time. -/
inductive QueueEffect (aead : Aead) (io : TurnIo) (p : AudioPipeline) (phase : PollPhase)
    (turn : Turn) : Prop where
  | pushed (hevent : fateOf turn.event = none)
      (hpushed : OnlyPushed p turn.pipeline (turnPushes aead io p phase))
  | left (slot : Slot) (fate : Fate) (hevent : fateOf turn.event = some fate)
      (hpeek : playoutPeek p.playout = some slot)
      (hqueue : turn.pipeline.playout = playoutPop p.playout slot)
      (hlate : turn.pipeline.latePackets =
        if fate = .late then p.latePackets + 1 else p.latePackets)
      (htimely : Timely p io.play slot fate)

theorem inputsTurn_queue (aead : Aead) (io : TurnIo) (p : AudioPipeline) :
    QueueEffect aead io p .inputs (inputsTurn aead io.inputs p) := by
  have h := pollInputs_pushed aead io.inputs p
  by_cases hkind : p.session.streamType = 0 ∨ p.session.streamType = streamTypeRealtime ∨
      p.session.streamType = streamTypeBuffered
  · have hpushes : turnPushes aead io p .inputs =
        (rtpReceiverPoll (loggedCallbacks aead) p.peerIp io.inputs.receiver
          (p.requestTiming io.inputs.now, [])).1.2 := if_pos hkind
    refine QueueEffect.pushed (congrArg fateOf (inputsTurn_event aead io.inputs p)) ?_
    rw [inputsTurn_pipeline, if_pos hkind, hpushes]
    exact h
  · have hpushes : turnPushes aead io p .inputs = [] := if_neg hkind
    refine QueueEffect.pushed (congrArg fateOf (inputsTurn_event aead io.inputs p)) ?_
    rw [inputsTurn_pipeline, if_neg hkind, hpushes]
    exact ⟨rfl, rfl⟩

theorem receiveTurn_queue (aead : Aead) (io : TurnIo) (p : AudioPipeline) (i limit : ℕ) :
    QueueEffect aead io p (.receiving i limit) (receiveTurn aead io.record p i limit) := by
  have h := pollRecord_pushed aead io.record p
  by_cases hwants : p.wantsRecord i limit = true
  · have hpushes : turnPushes aead io p (.receiving i limit) = recordPushes aead io.record p :=
      if_pos hwants
    rw [← hpushes] at h
    rw [receiveTurn, if_pos hwants]
    dsimp only
    split
    · exact QueueEffect.pushed rfl h
    · split
      · exact QueueEffect.pushed rfl h
      · refine QueueEffect.pushed ?_ h
        rw [completedRecord]
        split
        · rfl
        · rfl
  · have hpushes : turnPushes aead io p (.receiving i limit) = [] := if_neg hwants
    rw [receiveTurn, if_neg hwants]
    refine QueueEffect.pushed rfl ?_
    rw [hpushes]
    exact ⟨rfl, rfl⟩

theorem decodePacket_late (p : AudioPipeline) (packet : RtpPacket) (decoded : DecodeOutcome)
    (scaled : Int16 → Int16) :
    (audioPipelineDecodePacket p packet decoded scaled).1.latePackets = p.latePackets := by
  rw [audioPipelineDecodePacket]
  split
  · rfl
  · dsimp only
    split
    · split
      · rfl
      · rfl
    · rfl
    · rfl

theorem playVerdict_of_peek {p : AudioPipeline} {slot : Slot}
    (h : playoutPeek p.playout = some slot) (io : PlayIo) :
    playVerdict p io = p.schedule io slot := by
  unfold playVerdict
  simp only [h]

theorem playTurn_queue (aead : Aead) (io : TurnIo) (p : AudioPipeline) (batch : ℕ) :
    QueueEffect aead io p (.playing batch) (playTurn io.play p batch) := by
  have hquiet : ∀ phase, QueueEffect aead io p (.playing batch) ⟨p, phase, .quiet⟩ :=
    fun phase => QueueEffect.pushed rfl ⟨rfl, rfl⟩
  rw [playTurn]
  split
  · cases hverdict : playVerdict p io.play with
    | wait => exact hquiet _
    | fail => exact hquiet _
    | late slot =>
        have hpeek := playVerdict_peek (Or.inl hverdict)
        rw [playVerdict_of_peek hpeek] at hverdict
        exact QueueEffect.left slot .late rfl hpeek rfl rfl (schedule_timely.2 hverdict)
    | submit slot =>
        have hpeek := playVerdict_peek (Or.inr hverdict)
        rw [playVerdict_of_peek hpeek] at hverdict
        obtain ⟨-, hqueue, -⟩ :=
          decodePacket_setting p (p.playout.packets slot).packet io.play.decoded io.play.scaled
        refine QueueEffect.left slot .handed rfl hpeek ?_ ?_ (schedule_timely.1 hverdict)
        · show playoutPop (audioPipelineDecodePacket p _ _ _).1.playout slot = _
          rw [hqueue]
        · rw [if_neg (by decide)]
          exact decodePacket_late p (p.playout.packets slot).packet io.play.decoded io.play.scaled
  · exact hquiet _

/-- **Every turn keeps to `QueueEffect`.** -/
theorem pollTurn_queue (aead : Aead) (io : TurnIo) (p : AudioPipeline) (phase : PollPhase) :
    QueueEffect aead io p phase (pollTurn aead io p phase) := by
  cases phase with
  | inputs => exact inputsTurn_queue aead io p
  | receiving i limit => exact receiveTurn_queue aead io p i limit
  | playing batch => exact playTurn_queue aead io p batch
  | done ok => exact QueueEffect.pushed rfl ⟨rfl, rfl⟩

/-! ## The ledger -/

/-- The tickets of the accepted packets (a ticket is the packet's place in `accepted`),
and since the last reset: the tickets handed over, and the one that left last. -/
structure PlayLedger where
  custody : Custody airplayPlayoutPackets Fate
  accepted : List RtpPacket
  since : List ℕ
  last : Option ℕ

namespace PlayLedger

/-- The ledger of an empty queue. -/
def empty : PlayLedger := ⟨Custody.empty, [], [], none⟩

/-- A call of `playout_push`. -/
def push (l : PlayLedger) (q : Playout) (packet : RtpPacket) : PlayLedger :=
  if (playoutPush q packet).2 = 1 then
    match q.freeSlot with
    | none => l
    | some slot => { l with custody := l.custody.take slot, accepted := l.accepted ++ [packet] }
  else l

/-- Some calls of `playout_push`. -/
def pushAll : PlayLedger → Playout → List RtpPacket → PlayLedger
  | l, _, [] => l
  | l, q, packet :: rest => (l.push q packet).pushAll (playoutPush q packet).1 rest

/-- The front packet leaves. -/
def leave (l : PlayLedger) (q : Playout) (fate : Fate) : PlayLedger :=
  match playoutPeek q with
  | none => l
  | some slot =>
      { l with
        custody := l.custody.release slot fate
        since := if fate = .handed then l.since ++ (l.custody.held slot).toList else l.since
        last := l.custody.held slot }

/-- The queue is emptied. -/
def reset (l : PlayLedger) : PlayLedger :=
  { l with custody := l.custody.releaseAll .reset, since := [], last := none }

/-- The ledger after a step of the pipeline. Stopping and a new boundary empty the
queue; a call that waits for the end of a poll does nothing. -/
def watch (aead : Aead) (l : PlayLedger) (s : PolledPipeline) (step : PipelineStep)
    (event : TurnEvent) : PlayLedger :=
  match step with
  | .turn io =>
      match fateOf event with
      | none => l.pushAll s.pipeline.playout (turnPushes aead io s.pipeline (s.poll.getD .inputs))
      | some fate => l.leave s.pipeline.playout fate
  | .stop => if s.poll = none then l.reset else l
  | .setStart _ _ => if s.poll = none then l.reset else l
  | _ => l

end PlayLedger

/-- The pipeline with its ledger. -/
def ledgerMachine (aead : Aead) : Machine (PolledPipeline × PlayLedger) PipelineStep TurnEvent :=
  (pipelineMachine aead).watched (PlayLedger.watch aead)

/-- The pipeline as it was created, with an empty ledger. -/
def ledgerStart (listener : NetSocket) : PolledPipeline × PlayLedger :=
  (⟨audioPipelineCreate listener, none⟩, PlayLedger.empty)

/-- The pipeline and the ledger after some steps. -/
def ledgerRun (aead : Aead) (listener : NetSocket) (steps : List PipelineStep) :
    PolledPipeline × PlayLedger :=
  ((ledgerMachine aead).run (ledgerStart listener) steps).1

/-- The ledger does not disturb the pipeline. -/
theorem ledgerRun_pipeline (aead : Aead) (listener : NetSocket) (steps : List PipelineStep) :
    (ledgerRun aead listener steps).1 = pipelineRun aead listener steps :=
  ((pipelineMachine aead).watched_run (PlayLedger.watch aead) steps (ledgerStart listener)).1

/-! ## The ledger tracks the queue -/

/-- The tickets are held by the valid slots, with the packets they were given for. -/
structure PlayLedger.Tracks (l : PlayLedger) (q : Playout) : Prop where
  settled : l.custody.Settled
  given : l.custody.given = l.accepted.length
  valid : ∀ i, (q.packets i).valid = (l.custody.held i).isSome
  packet : ∀ i t, l.custody.held i = some t → l.accepted[t]? = some (q.packets i).packet

theorem PlayLedger.push_of_refused {l : PlayLedger} {q : Playout} {packet : RtpPacket}
    (h : (playoutPush q packet).2 ≠ 1) : l.push q packet = l := by
  rw [PlayLedger.push, if_neg h]

theorem PlayLedger.push_of_stored {l : PlayLedger} {q : Playout} {packet : RtpPacket}
    {slot : Slot} (h : (playoutPush q packet).2 = 1) (hfree : q.freeSlot = some slot) :
    l.push q packet =
      { l with custody := l.custody.take slot, accepted := l.accepted ++ [packet] } := by
  rw [PlayLedger.push, if_pos h, hfree]

/-- A push leaves the queue and the ledger as they are, or stores the packet in both. -/
theorem PlayLedger.push_cases (l : PlayLedger) (q : Playout) (packet : RtpPacket) :
    (l.push q packet = l ∧ (playoutPush q packet).1 = q) ∨
      ∃ slot, q.freeSlot = some slot ∧
        (q.haveSequence = true → q.started = true →
          0 ≤ q.distance packet.header.sequence) ∧
        q.holds packet.header.sequence = false ∧
        l.push q packet =
          { l with custody := l.custody.take slot, accepted := l.accepted ++ [packet] } ∧
        (playoutPush q packet).1 = q.store slot packet := by
  have heffect := playoutPush_effect q packet
  cases hpush : playoutPush q packet with
  | mk after code =>
      rw [hpush] at heffect
      cases heffect with
      | refused code hcode =>
          exact Or.inl ⟨PlayLedger.push_of_refused (by rw [hpush]; omega), rfl⟩
      | stored slot hfree hfresh hnew =>
          exact Or.inr ⟨slot, hfree, hfresh, hnew,
            PlayLedger.push_of_stored (by rw [hpush]) hfree, rfl⟩

theorem PlayLedger.leave_of_peek {l : PlayLedger} {q : Playout} {slot : Slot}
    (h : playoutPeek q = some slot) (fate : Fate) :
    l.leave q fate =
      { l with
        custody := l.custody.release slot fate
        since := if fate = .handed then l.since ++ (l.custody.held slot).toList else l.since
        last := l.custody.held slot } := by
  unfold PlayLedger.leave
  simp only [h]

section Tracks

variable {l : PlayLedger} {q : Playout}

/-- A slot of the queue without a packet holds no ticket. -/
theorem PlayLedger.Tracks.held_none (h : l.Tracks q) {i : Slot}
    (hi : (q.packets i).valid = false) : l.custody.held i = none := by
  rw [h.valid i] at hi
  exact Option.isSome_eq_false_iff.mp hi |> Option.isNone_iff_eq_none.mp

theorem PlayLedger.Tracks.push (h : l.Tracks q) (packet : RtpPacket) :
    (l.push q packet).Tracks (playoutPush q packet).1 := by
  rcases l.push_cases q packet with ⟨hl, hq⟩ | ⟨slot, hfree, -, -, hl, hq⟩
  · rw [hl, hq]
    exact h
  rw [hl, hq]
  have hnone := h.held_none (freeSlot_eq_some hfree)
  refine ⟨h.settled.take hnone, ?_, fun i => ?_, fun i t ht => ?_⟩
  · show l.custody.given + 1 = (l.accepted ++ [packet]).length
    rw [h.given, List.length_append, List.length_singleton]
  · by_cases hi : i = slot
    · subst hi
      simp [Playout.store, Custody.take]
    · simpa [Playout.store, Custody.take, hi] using h.valid i
  · -- the new slot holds the new packet, and the others keep theirs
    by_cases hi : i = slot
    · subst hi
      have hgiven : l.custody.given = t := by
        simpa [Custody.take] using ht
      have hpacket : ((q.store i packet).packets i).packet = packet := by
        simp [Playout.store, PlayoutPacket.packet]
      rw [hpacket, ← hgiven, h.given]
      exact List.getElem?_concat_length
    · have hold : l.custody.held i = some t := by
        simpa [Custody.take, hi] using ht
      have hpacket : (q.store slot packet).packets i = q.packets i :=
        Function.update_of_ne hi _ _
      have hlt : t < l.accepted.length := by
        rw [← h.given]
        exact h.settled.held_lt hold
      rw [hpacket]
      exact (List.getElem?_append_left hlt).trans (h.packet i t hold)

theorem PlayLedger.Tracks.pushAll (packets : List RtpPacket) :
    ∀ {l : PlayLedger} {q : Playout}, l.Tracks q →
      (l.pushAll q packets).Tracks (q.pushAll packets) := by
  induction packets with
  | nil => exact fun h => h
  | cons packet rest ih => exact fun h => ih (h.push packet)

theorem PlayLedger.Tracks.leave (h : l.Tracks q) {slot : Slot} (hpeek : playoutPeek q = some slot)
    (fate : Fate) : (l.leave q fate).Tracks (playoutPop q slot) := by
  rw [PlayLedger.leave_of_peek hpeek]
  obtain ⟨hvalid, -⟩ := playoutPeek_eq_some hpeek
  obtain ⟨t, ht⟩ := Option.isSome_iff_exists.mp ((h.valid slot).symm.trans hvalid)
  have hrelease : (l.custody.release slot fate).held = Function.update l.custody.held slot none := by
    rw [Custody.release, ht]
  refine ⟨h.settled.release slot fate, ?_, fun i => ?_, fun i u hu => ?_⟩
  · show (l.custody.release slot fate).given = l.accepted.length
    rw [Custody.release, ht]
    exact h.given
  · show ((playoutPop q slot).packets i).valid = ((l.custody.release slot fate).held i).isSome
    rw [hrelease]
    by_cases hi : i = slot
    · subst hi
      simp [playoutPop]
    · simpa [playoutPop, hi] using h.valid i
  · have hu : (l.custody.release slot fate).held i = some u := hu
    rw [hrelease] at hu
    by_cases hi : i = slot
    · subst hi
      simp at hu
    · have hpacket : (playoutPop q slot).packets i = q.packets i := Function.update_of_ne hi _ _
      rw [Function.update_of_ne hi] at hu
      rw [hpacket]
      exact h.packet i u hu

/-- A queue without valid slots holds no ticket. -/
theorem PlayLedger.Tracks.reset (h : l.Tracks q) {after : Playout}
    (hempty : ∀ i, (after.packets i).valid = false) : l.reset.Tracks after where
  settled := h.settled.releaseAll .reset
  given := h.given
  valid := hempty
  packet i t ht := absurd ht (by simp [PlayLedger.reset, Custody.releaseAll])

end Tracks

theorem empty_tracks (listener : NetSocket) :
    PlayLedger.empty.Tracks (audioPipelineCreate listener).playout where
  settled := Custody.settled_empty
  given := rfl
  valid _ := rfl
  packet i t ht := absurd ht (by simp [PlayLedger.empty, Custody.empty])

/-! ## Order -/

/-- Every accepted packet carries the low 16 bits of the sender's index of it. -/
def PlayLedger.Labelled (l : PlayLedger) (idx : ℕ → ℤ) : Prop :=
  ∀ t packet, l.accepted[t]? = some packet → (packet.header.sequence.toNat : ℤ) = idx t % 2 ^ 16

/-- The tickets of the moment: those in the queue, and the one that left last. -/
def PlayLedger.current (l : PlayLedger) : List ℕ := l.custody.tickets ++ l.last.toList

/-- The indices of the moment span less than `2 ^ 15`. -/
def PlayLedger.InWindow (l : PlayLedger) (idx : ℕ → ℤ) : Prop :=
  l.Labelled idx ∧ ∀ t ∈ l.current, ∀ u ∈ l.current, |idx t - idx u| < 2 ^ 15

theorem PlayLedger.mem_current_of_held {l : PlayLedger} {i : Slot} {t : ℕ}
    (h : l.custody.held i = some t) : t ∈ l.current :=
  List.mem_append_left _ (List.mem_filterMap.mpr ⟨i, List.mem_finRange i, h⟩)

theorem PlayLedger.mem_current_of_last {l : PlayLedger} {t : ℕ} (h : t ∈ l.last) :
    t ∈ l.current := by
  apply List.mem_append_right
  rw [Option.mem_toList]
  exact h

/-- The ledger after an accepted push. -/
theorem PlayLedger.Tracks.inWindow_of_stored {l : PlayLedger} {q : Playout} (h : l.Tracks q)
    {slot : Slot} (hfree : (q.packets slot).valid = false) {packet : RtpPacket} {idx : ℕ → ℤ}
    (hwindow : PlayLedger.InWindow
      { l with custody := l.custody.take slot, accepted := l.accepted ++ [packet] } idx) :
    l.InWindow idx := by
  obtain ⟨hlabels, hspan⟩ := hwindow
  have hmem : ∀ t ∈ l.current, t ∈ PlayLedger.current
      { l with custody := l.custody.take slot, accepted := l.accepted ++ [packet] } := by
    intro t ht
    rcases List.mem_append.mp ht with htickets | hlast
    · obtain ⟨i, -, hi⟩ := List.mem_filterMap.mp htickets
      refine PlayLedger.mem_current_of_held (i := i) ?_
      have hne : i ≠ slot := by
        rintro rfl
        rw [h.held_none hfree] at hi
        simp at hi
      exact (Function.update_of_ne hne _ _).trans hi
    · exact List.mem_append_right _ hlast
  refine ⟨fun t stored ht => ?_, fun t ht u hu => hspan t (hmem t ht) u (hmem u hu)⟩
  apply hlabels t stored
  have hlt : t < l.accepted.length := (List.getElem?_eq_some_iff.mp ht).1
  exact (List.getElem?_append_left hlt).trans ht

theorem PlayLedger.Tracks.inWindow_of_push {l : PlayLedger} {q : Playout} (h : l.Tracks q)
    {packet : RtpPacket} {idx : ℕ → ℤ} (hwindow : (l.push q packet).InWindow idx) :
    l.InWindow idx := by
  rcases l.push_cases q packet with ⟨hl, -⟩ | ⟨slot, hfree, -, -, hl, -⟩
  · rw [hl] at hwindow
    exact hwindow
  · rw [hl] at hwindow
    exact h.inWindow_of_stored (freeSlot_eq_some hfree) hwindow

/-- A window at the end of some pushes was one before them. -/
theorem PlayLedger.Tracks.inWindow_of_pushAll {idx : ℕ → ℤ} (packets : List RtpPacket) :
    ∀ {l : PlayLedger} {q : Playout}, l.Tracks q → (l.pushAll q packets).InWindow idx →
      l.InWindow idx := by
  induction packets with
  | nil => exact fun _ hwindow => hwindow
  | cons packet rest ih =>
      exact fun h hwindow => h.inWindow_of_push (ih (h.push packet) hwindow)

/-- The queue whose boundary is forgotten: it orders packets in the same way. -/
def Playout.unbounded (q : Playout) : Playout := { q with haveFloor := false }

/-- The queue holds the indices of its tickets in order, and those handed over came in
order too. -/
structure PlayLedger.Ordered (idx : ℕ → ℤ) (l : PlayLedger) (q : Playout) : Prop where
  represents : ∃ s index, Represents q.unbounded s index ∧
    (∀ i t, l.custody.held i = some t → index i = idx t) ∧ s.popped = l.last.map idx
  increasing : (l.since.map idx).Pairwise (· < ·)
  behind : ∀ t ∈ l.since, ∃ u ∈ l.last, idx t ≤ idx u

section Order

variable {idx : ℕ → ℤ} {l : PlayLedger} {q : Playout}

/-- The packets in the queue and the one that gets the next ticket are in one window. -/
theorem PlayLedger.Tracks.near_queued (h : l.Tracks q) {slot : Slot} {packet : RtpPacket}
    (hfree : (q.packets slot).valid = false) {keys : Finset ℤ} {index : Slot → ℤ}
    (hcomplete : ∀ k ∈ keys, ∃ i, (q.packets i).valid = true ∧ index i = k)
    (hindex : ∀ i t, l.custody.held i = some t → index i = idx t)
    (hspan : ∀ t ∈ PlayLedger.current
      { l with custody := l.custody.take slot, accepted := l.accepted ++ [packet] },
      |idx l.custody.given - idx t| < 2 ^ 15) :
    ∀ k ∈ keys, |idx l.custody.given - k| < 2 ^ 15 := by
  intro k hk
  obtain ⟨i, hvalid, rfl⟩ := hcomplete k hk
  obtain ⟨t, ht⟩ := Option.isSome_iff_exists.mp ((h.valid i).symm.trans hvalid)
  have hne : i ≠ slot := by
    rintro rfl
    rw [hfree] at hvalid
    exact Bool.false_ne_true hvalid
  rw [hindex i t ht]
  exact hspan t (PlayLedger.mem_current_of_held (i := i) ((Function.update_of_ne hne _ _).trans ht))

/-- The index of an accepted packet is ahead of the last one that left, and new. -/
theorem PlayLedger.Ordered.stored (h : l.Ordered idx q) (htracks : l.Tracks q) {slot : Slot}
    {packet : RtpPacket} (hfree : (q.packets slot).valid = false)
    (hfresh : q.haveSequence = true → q.started = true → 0 ≤ q.distance packet.header.sequence)
    (hnew : q.holds packet.header.sequence = false)
    (hwindow : PlayLedger.InWindow
      { l with custody := l.custody.take slot, accepted := l.accepted ++ [packet] } idx) :
    PlayLedger.Ordered idx
      { l with custody := l.custody.take slot, accepted := l.accepted ++ [packet] }
      (q.store slot packet) := by
  obtain ⟨s, index, hrep, hindex, hpopped⟩ := h.represents
  obtain ⟨hlabels, hspan⟩ := hwindow
  set n := idx l.custody.given with hn
  have hlabel : (packet.header.sequence.toNat : ℤ) = n % 2 ^ 16 := by
    apply hlabels
    rw [htracks.given]
    exact List.getElem?_concat_length
  have hseq := toBitVec_eq_serial hlabel
  have hticket : l.custody.given ∈ PlayLedger.current
      { l with custody := l.custody.take slot, accepted := l.accepted ++ [packet] } :=
    PlayLedger.mem_current_of_held (i := slot) (Function.update_self _ _ _)
  have hnear : ∀ k ∈ s.keys, |n - k| < 2 ^ 15 :=
    htracks.near_queued hfree hrep.complete hindex (hspan _ hticket)
  -- an accepted packet is not behind the last one that left
  have hpast : ∀ p ∈ s.popped, p + 1 ≤ n ∧ |n - (p + 1)| < 2 ^ 15 := by
    intro p hp
    obtain ⟨u, hu, rfl⟩ := Option.mem_map.mp (hpopped ▸ hp)
    have hspan := hspan _ hticket u (PlayLedger.mem_current_of_last hu)
    have hahead := hrep.ahead_of_popped hseq hp hspan hfresh
    obtain ⟨-, hhigh⟩ := abs_lt.mp hspan
    exact ⟨hahead, abs_lt.mpr ⟨by norm_num; omega, by omega⟩⟩
  have hexpected := expected_near hnear fun p hp => (hpast p hp).2
  have hpassed : ¬ s.Passed n := by
    rintro ⟨p, hp, hle⟩
    have hlt := (hpast p hp).1
    omega
  -- an index in use would be a duplicate
  have hkeys : n ∉ s.keys := by
    intro hmem
    have hholds : q.holds packet.header.sequence = true := (hrep.holds_iff hseq hnear).mpr hmem
    rw [hnew] at hholds
    exact Bool.false_ne_true hholds
  refine ⟨⟨s.insert n packet hpassed, Function.update index slot n,
    hrep.store ⟨hlabel, hexpected, hnear⟩ hpassed hkeys hfree, fun i t ht => ?_, hpopped⟩,
    h.increasing, h.behind⟩
  by_cases hi : i = slot
  · subst hi
    have ht : l.custody.given = t := by simpa [Custody.take] using ht
    rw [Function.update_self, hn, ht]
  · have ht : l.custody.held i = some t := by simpa [Custody.take, hi] using ht
    rw [Function.update_of_ne hi]
    exact hindex i t ht

theorem PlayLedger.Ordered.push (h : l.Ordered idx q) (htracks : l.Tracks q) (packet : RtpPacket)
    (hwindow : (l.push q packet).InWindow idx) :
    (l.push q packet).Ordered idx (playoutPush q packet).1 := by
  rcases l.push_cases q packet with ⟨hl, hq⟩ | ⟨slot, hfree, hfresh, hnew, hl, hq⟩
  · rw [hl, hq]
    exact h
  · rw [hl] at hwindow
    rw [hl, hq]
    exact h.stored htracks (freeSlot_eq_some hfree) hfresh hnew hwindow

theorem PlayLedger.Ordered.pushAll (packets : List RtpPacket) :
    ∀ {l : PlayLedger} {q : Playout}, l.Ordered idx q → l.Tracks q →
      (l.pushAll q packets).InWindow idx → (l.pushAll q packets).Ordered idx (q.pushAll packets) := by
  induction packets with
  | nil => exact fun h _ _ => h
  | cons packet rest ih =>
      intro l q h htracks hwindow
      have hfirst := (htracks.push packet).inWindow_of_pushAll rest hwindow
      exact ih (h.push htracks packet hfirst) (htracks.push packet) hwindow

/-- The packet that leaves is ahead of all that left before. -/
theorem PlayLedger.Ordered.leave (h : l.Ordered idx q) (htracks : l.Tracks q) {slot : Slot}
    (hpeek : playoutPeek q = some slot) (fate : Fate) :
    (l.leave q fate).Ordered idx (playoutPop q slot) := by
  obtain ⟨s, index, hrep, hindex, hpopped⟩ := h.represents
  obtain ⟨hvalid, -⟩ := playoutPeek_eq_some hpeek
  obtain ⟨t, ht⟩ := Option.isSome_iff_exists.mp ((htracks.valid slot).symm.trans hvalid)
  have hpeek' : playoutPeek q.unbounded = some slot := hpeek
  have hleast := hrep.peek_eq hpeek'
  have hslot := hindex slot t ht
  -- what left earlier is below every index in the queue
  have hbefore : ∀ u ∈ l.since, idx u < idx t := by
    intro u hu
    obtain ⟨w, hw, hle⟩ := h.behind u hu
    have hp : idx w ∈ s.popped := by
      rw [hpopped]
      exact Option.mem_map_of_mem idx hw
    have hlt := s.ahead _ hp _ ((s.least_eq_some_iff _).mp hleast).1
    omega
  -- the front packet leaves with the least index
  rw [PlayLedger.leave_of_peek hpeek, ht]
  refine ⟨⟨s.remove (index slot) hleast, index, hrep.pop hpeek' hleast, fun i u hu => ?_, ?_⟩,
    ?_, ?_⟩
  · have hu : (l.custody.release slot fate).held i = some u := hu
    rw [Custody.release, ht] at hu
    by_cases hi : i = slot
    · subst hi
      simp at hu
    · have hu : Function.update l.custody.held slot none i = some u := hu
      rw [Function.update_of_ne hi] at hu
      exact hindex i u hu
  · show some (index slot) = some (idx t)
    rw [hslot]
  · dsimp only
    split
    · rw [Option.toList_some, List.map_append, List.map_singleton]
      refine List.pairwise_append.mpr ⟨h.increasing, List.pairwise_singleton _ _, ?_⟩
      intro a ha b hb
      obtain ⟨u, hu, rfl⟩ := List.mem_map.mp ha
      rw [List.mem_singleton.mp hb]
      exact hbefore u hu
    · exact h.increasing
  · intro u hu
    refine ⟨t, rfl, ?_⟩
    dsimp only at hu
    split at hu
    · rcases List.mem_append.mp hu with hold | hself
      · exact (hbefore u hold).le
      · rw [Option.toList_some, List.mem_singleton] at hself
        rw [hself]
    · exact (hbefore u hu).le

/-- An emptied queue starts the order anew. -/
theorem PlayLedger.ordered_reset (idx : ℕ → ℤ) (l : PlayLedger) {after blank : Playout}
    (hafter : after.unbounded = playoutReset blank) : l.reset.Ordered idx after where
  represents := by
    rw [hafter]
    refine ⟨PriorityQueue.empty, fun _ => 0, represents_reset blank, fun i t ht => ?_, rfl⟩
    exact absurd ht (by simp [PlayLedger.reset, Custody.releaseAll])
  increasing := List.Pairwise.nil
  behind t ht := absurd ht (by simp [PlayLedger.reset])

theorem PlayLedger.empty_ordered (idx : ℕ → ℤ) (listener : NetSocket) :
    PlayLedger.empty.Ordered idx (audioPipelineCreate listener).playout where
  represents := by
    have hrep := represents_reset Playout.zero
    refine ⟨PriorityQueue.empty, fun _ => 0, hrep, fun i t ht => ?_, rfl⟩
    exact absurd ht (by simp [PlayLedger.empty, Custody.empty])
  increasing := List.Pairwise.nil
  behind t ht := absurd ht (by simp [PlayLedger.empty])

end Order

/-! ## Runs -/

/-- What a step does to the ledger and the queue. -/
inductive LedgerEffect (l : PlayLedger) (q : Playout) : PlayLedger → Playout → Prop where
  | pushed (packets : List RtpPacket) : LedgerEffect l q (l.pushAll q packets) (q.pushAll packets)
  | left (slot : Slot) (fate : Fate) (hpeek : playoutPeek q = some slot) :
      LedgerEffect l q (l.leave q fate) (playoutPop q slot)
  | reset (after blank : Playout) (hafter : after.unbounded = playoutReset blank)
      (hempty : ∀ i, (after.packets i).valid = false) : LedgerEffect l q l.reset after

/-- The calls that leave the queue alone. -/
theorem ownerCall_playout (p : AudioPipeline) (step : PipelineStep) (hstop : step ≠ .stop)
    (hstart : ∀ timestamp exclusive, step ≠ .setStart timestamp exclusive) :
    (ownerCall p step).playout = p.playout := by
  cases step with
  | configure io session => exact audioPipelineConfigure_playout io p session
  | start => exact audioPipelineStart_playout p
  | stop => exact absurd rfl hstop
  | setStart timestamp exclusive => exact absurd rfl (hstart timestamp exclusive)
  | setTransport peer => rfl
  | setVolume volumeDb => exact audioPipelineSetVolume_playout p volumeDb
  | anchor a => rfl
  | seek sequence => rfl
  | turn io => rfl

/-- **Every step keeps to `LedgerEffect`.** -/
theorem ledgerStep_effect (aead : Aead) (s : PolledPipeline × PlayLedger) (step : PipelineStep) :
    LedgerEffect s.2 s.1.pipeline.playout ((ledgerMachine aead).step s step).1.2
      ((ledgerMachine aead).step s step).1.1.pipeline.playout := by
  -- the other calls leave the queue alone
  have hquiet : ∀ call : PipelineStep, call ≠ .stop →
      (∀ timestamp exclusive, call ≠ .setStart timestamp exclusive) →
      LedgerEffect s.2 s.1.pipeline.playout s.2
        (if s.1.poll = none then
          ({ s.1 with pipeline := ownerCall s.1.pipeline call }, TurnEvent.quiet)
        else (s.1, .quiet)).1.pipeline.playout := by
    intro call hstop hstart
    split
    · dsimp only
      rw [ownerCall_playout s.1.pipeline call hstop hstart]
      exact LedgerEffect.pushed []
    · exact LedgerEffect.pushed []
  cases step with
  | turn io =>
      have hqueue := pollTurn_queue aead io s.1.pipeline (s.1.poll.getD .inputs)
      show LedgerEffect s.2 s.1.pipeline.playout
        (s.2.watch aead s.1 (.turn io) (pollTurn aead io s.1.pipeline _).event)
        (pollTurn aead io s.1.pipeline _).pipeline.playout
      cases hqueue with
      | pushed hevent hpushed =>
          rw [hpushed.queue, PlayLedger.watch]
          simp only [hevent]
          exact LedgerEffect.pushed _
      | left slot fate hevent hpeek hqueue hlate htimely =>
          rw [hqueue, PlayLedger.watch]
          simp only [hevent]
          exact LedgerEffect.left slot fate hpeek
  | stop =>
      show LedgerEffect s.2 _ (if s.1.poll = none then s.2.reset else s.2)
        (if s.1.poll = none then _ else _ : PolledPipeline × TurnEvent).1.pipeline.playout
      split
      · exact LedgerEffect.reset _ s.1.pipeline.playout rfl fun _ => rfl
      · exact LedgerEffect.pushed []
  | setStart timestamp exclusive =>
      show LedgerEffect s.2 _ (if s.1.poll = none then s.2.reset else s.2)
        (if s.1.poll = none then _ else _ : PolledPipeline × TurnEvent).1.pipeline.playout
      split
      · refine LedgerEffect.reset _
          { s.1.pipeline.playout with
            timestampFloor := timestamp
            floorExclusive := exclusive } rfl fun _ => rfl
      · exact LedgerEffect.pushed []
  | configure io session => exact hquiet _ (by simp) (by simp)
  | start => exact hquiet _ (by simp) (by simp)
  | setTransport peer => exact hquiet _ (by simp) (by simp)
  | setVolume volumeDb => exact hquiet _ (by simp) (by simp)
  | anchor a => exact hquiet _ (by simp) (by simp)
  | seek sequence => exact hquiet _ (by simp) (by simp)

theorem LedgerEffect.tracks {l after : PlayLedger} {q queue : Playout}
    (h : LedgerEffect l q after queue) (htracks : l.Tracks q) : after.Tracks queue := by
  cases h with
  | pushed packets => exact PlayLedger.Tracks.pushAll packets htracks
  | left slot fate hpeek => exact htracks.leave hpeek fate
  | reset queue blank hafter hempty => exact htracks.reset hempty

/-- Pushing takes no ticket out. -/
theorem PlayLedger.pushAll_fates (packets : List RtpPacket) :
    ∀ (l : PlayLedger) (q : Playout), (l.pushAll q packets).custody.fates = l.custody.fates := by
  induction packets with
  | nil => exact fun _ _ => rfl
  | cons packet rest ih =>
      intro l q
      refine (ih _ _).trans ?_
      rcases l.push_cases q packet with ⟨hl, -⟩ | ⟨slot, -, -, -, hl, -⟩
      · rw [hl]
      · rw [hl]
        rfl

/-- What left stays on record. -/
theorem LedgerEffect.fates_subset {l after : PlayLedger} {q queue : Playout}
    (h : LedgerEffect l q after queue) : l.custody.fates ⊆ after.custody.fates := by
  cases h with
  | pushed packets =>
      rw [PlayLedger.pushAll_fates]
      exact List.Subset.refl _
  | left slot fate hpeek =>
      rw [PlayLedger.leave_of_peek hpeek]
      exact l.custody.fates_subset_release slot fate
  | reset queue blank hafter hempty => exact List.subset_append_left _ _

theorem LedgerEffect.ordered {idx : ℕ → ℤ} {l after : PlayLedger} {q queue : Playout}
    (h : LedgerEffect l q after queue) (htracks : l.Tracks q) (hordered : l.Ordered idx q)
    (hwindow : after.InWindow idx) : after.Ordered idx queue := by
  cases h with
  | pushed packets => exact PlayLedger.Ordered.pushAll packets hordered htracks hwindow
  | left slot fate hpeek => exact hordered.leave htracks hpeek fate
  | reset queue blank hafter hempty => exact l.ordered_reset idx hafter

theorem ledgerRun_tracks (aead : Aead) (listener : NetSocket) (steps : List PipelineStep) :
    (ledgerRun aead listener steps).2.Tracks (ledgerRun aead listener steps).1.pipeline.playout :=
  (ledgerMachine aead).run_invariant (fun s => s.2.Tracks s.1.pipeline.playout)
    (fun s step h => (ledgerStep_effect aead s step).tracks h) steps (ledgerStart listener)
    (empty_tracks listener)

/-- In every step the indices of the moment are in window. -/
def StaysInWindow (aead : Aead) (idx : ℕ → ℤ) (listener : NetSocket) (steps : List PipelineStep) :
    Prop :=
  (ledgerMachine aead).Guarded
    (fun s step => ((ledgerMachine aead).step s step).1.2.InWindow idx) (ledgerStart listener) steps

theorem ledgerRun_ordered (aead : Aead) (idx : ℕ → ℤ) (listener : NetSocket)
    (steps : List PipelineStep) (h : StaysInWindow aead idx listener steps) :
    (ledgerRun aead listener steps).2.Ordered idx
      (ledgerRun aead listener steps).1.pipeline.playout := by
  exact ((ledgerMachine aead).run_guarded
    (fun s => s.2.Tracks s.1.pipeline.playout ∧ s.2.Ordered idx s.1.pipeline.playout)
    (fun s step hs hwindow =>
      have heffect := ledgerStep_effect aead s step
      ⟨heffect.tracks hs.1, heffect.ordered hs.1 hs.2 hwindow⟩)
    steps (ledgerStart listener)
    ⟨empty_tracks listener, PlayLedger.empty_ordered idx listener⟩ h).2

/-- **Each queued packet is played or dropped exactly once, in order and on time.**
After any calls and turns: every ticket given to an accepted packet is held by the slot
that has this packet, or left once, by a hand-over, as late or with a reset. A packet
that leaves in the next turn leaves on time, and the turn counts it as late exactly when
it is dropped. And while the sender's indices stay in window, the packets handed over
since the last reset came in strictly increasing order. -/
theorem packets_leave_once (aead : Aead) (listener : NetSocket) (steps : List PipelineStep) :
    let s := (ledgerRun aead listener steps).1
    let l := (ledgerRun aead listener steps).2
    l.Tracks s.pipeline.playout ∧
    (∀ io,
      (∀ fate, fateOf (polledTurn aead io s).2 = some fate →
        ∃ slot, playoutPeek s.pipeline.playout = some slot ∧
          Timely s.pipeline io.play slot fate) ∧
      (polledTurn aead io s).1.pipeline.latePackets =
        if fateOf (polledTurn aead io s).2 = some .late then s.pipeline.latePackets + 1
        else s.pipeline.latePackets) ∧
    ∀ idx, StaysInWindow aead idx listener steps → (l.since.map idx).Pairwise (· < ·) := by
  refine ⟨ledgerRun_tracks aead listener steps, fun io => ?_, fun idx h =>
    (ledgerRun_ordered aead idx listener steps h).increasing⟩
  generalize (ledgerRun aead listener steps).1 = s
  have hqueue := pollTurn_queue aead io s.pipeline (s.poll.getD .inputs)
  rw [polledTurn]
  dsimp only
  cases hqueue with
  | pushed hevent hpushed =>
      rw [hevent, hpushed.late]
      exact ⟨fun fate h => absurd h (by simp), rfl⟩
  | left slot fate hevent hpeek hqueue hlate htimely =>
      rw [hevent, hlate]
      refine ⟨fun fate' h => ⟨slot, hpeek, ?_⟩, ?_⟩
      · obtain rfl : fate = fate' := Option.some.inj h
        exact htimely
      · simp only [Option.some.injEq]

end PortableAirplay.Audio
