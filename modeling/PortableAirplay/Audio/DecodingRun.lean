import PortableAirplay.Audio.PayloadDecoding
import PortableAirplay.Audio.PlayedOnce

/-!
# The pipeline with its decoders

The polls of a session that was started, with the decoders in the loop: where a turn hands a packet
over, the outcome of decoding it is what the decoder of the session gives for its payload, and its
samples are multiplied by the volume of the pipeline. That multiplication is one of `float`s; here
it is a function `gain` of the volume and the sample. The
steps are those that the audio thread takes between two starts: turns of polls, and the calls
that leave the session as it is.

`sessionStep_hands` says what one step does to the samples that were heard, to the ledger of the
queue and to the counters; the results about whole runs are inductions over it.
-/

set_option autoImplicit false

namespace PortableAirplay.Audio

open PortableAirplay.Airplay
open PortableAirplay.Library
open PortableAirplay.Platform
open PortableAirplay.Protocol
open PortableAirplay.Sync

/-! ## The machine -/

/-- The pipeline, and the handle of the AAC library. -/
structure DecodingPipeline (σ : Type) where
  polled : PolledPipeline
  handle : σ

/-- A step within a session. -/
inductive SessionStep where
  | setTransport (peer : NetAddr)
  | setVolume (volumeDb : UInt32)
  | anchor (a : AirplayAnchor)
  | seek (sequence : UInt32)
  | turn (io : TurnIo)

section Machine

variable {σ : Type} (aead : Aead) (aes : AesCbc) (lib : AacLibrary σ)
  (gain : UInt32 → Int16 → Int16)

/-- The decoder answers for the packet that is handed over, if one is;
`audio_pipeline_decode_packet` looks at the payload type first. -/
def answerPlay (p : AudioPipeline) (handle : σ) (io : PlayIo) : σ × PlayIo :=
  match playVerdict p io with
  | .submit slot =>
      if (p.playout.packets slot).header.payloadType ≠ p.session.payloadType then (handle, io)
      else
        let r := decodePayload aes p lib handle (p.playout.packets slot).payload
        (r.1, { io with decoded := r.2, scaled := gain p.volumeDb })
  | _ => (handle, io)

/-- The decoder answers in a turn of a poll. -/
def answerTurn (s : DecodingPipeline σ) (io : TurnIo) : σ × TurnIo :=
  match s.polled.poll.getD .inputs with
  | .playing batch =>
      if batch < 16 ∧ s.polled.pipeline.state = .playing then
        let r := answerPlay aes lib gain s.polled.pipeline s.handle io.play
        (r.1, { io with play := r.2 })
      else (s.handle, io)
  | _ => (s.handle, io)

/-- The step of the pipeline, with the answers of the decoder in it. -/
def answerStep (s : DecodingPipeline σ) : SessionStep → σ × PipelineStep
  | .setTransport peer => (s.handle, .setTransport peer)
  | .setVolume volumeDb => (s.handle, .setVolume volumeDb)
  | .anchor a => (s.handle, .anchor a)
  | .seek sequence => (s.handle, .seek sequence)
  | .turn io =>
      let r := answerTurn aes lib gain s io
      (r.1, .turn r.2)

/-- What a step did with packets, and the volume that was set when it began. -/
structure SessionEvent where
  turn : TurnEvent
  volumeDb : UInt32

/-- A step of the pipeline with its decoders. -/
def sessionStep (s : DecodingPipeline σ) (step : SessionStep) :
    DecodingPipeline σ × SessionEvent :=
  let answered := answerStep aes lib gain s step
  let r := pipelineStep aead s.polled answered.2
  (⟨r.1, answered.1⟩, ⟨r.2, s.polled.pipeline.volumeDb⟩)

/-- The pipeline with its decoders as a machine. -/
def sessionMachine : Machine (DecodingPipeline σ) SessionStep SessionEvent where
  step := sessionStep aead aes lib gain

/-- The machine with the ledger of its queue. -/
def sessionLedger : Machine (DecodingPipeline σ × PlayLedger) SessionStep SessionEvent :=
  (sessionMachine aead aes lib gain).watched fun l s step event =>
    l.watch aead s.polled (answerStep aes lib gain s step).2 event.turn

/-- The answers aside, a step is one of the pipeline under its ledger. -/
theorem sessionLedger_step (s : DecodingPipeline σ × PlayLedger) (step : SessionStep) :
    let r := (ledgerMachine aead).step (s.1.polled, s.2) (answerStep aes lib gain s.1 step).2
    ((sessionLedger aead aes lib gain).step s step).1.1.polled = r.1.1 ∧
      ((sessionLedger aead aes lib gain).step s step).1.2 = r.1.2 ∧
      ((sessionLedger aead aes lib gain).step s step).2.turn = r.2 := ⟨rfl, rfl, rfl⟩

end Machine

/-! ## What is heard -/

/-- The samples that a step hands to the output. -/
def heardIn (event : SessionEvent) : List Int16 :=
  match event.turn with
  | .submitted _ samples => samples
  | _ => []

/-- The samples handed to the output by a list of events, in order. -/
def heard (events : List SessionEvent) : List Int16 := events.flatMap heardIn

theorem heard_concat (events : List SessionEvent) (event : SessionEvent) :
    heard (events ++ [event]) = heard events ++ heardIn event := by
  rw [heard, List.flatMap_append, List.flatMap_singleton]
  rfl

/-- The packet that a step hands to the decoder, and the volume at which it is played. -/
def handedIn (event : SessionEvent) : List (RtpPacket × UInt32) :=
  match event.turn with
  | .submitted packet _ => [(packet, event.volumeDb)]
  | _ => []

/-- The packets handed to the decoder in a list of events, in order. -/
def handedOver (events : List SessionEvent) : List (RtpPacket × UInt32) :=
  events.flatMap handedIn

theorem handedOver_concat (events : List SessionEvent) (event : SessionEvent) :
    handedOver (events ++ [event]) = handedOver events ++ handedIn event := by
  rw [handedOver, List.flatMap_append, List.flatMap_singleton]
  rfl

/-- What decoding a packet needs of the pipeline. -/
structure SameDecoding (p after : AudioPipeline) : Prop where
  session : after.session = p.session
  state : after.state = p.state
  alacDecoder : after.alacDecoder = p.alacDecoder
  aesContext : after.aesContext = p.aesContext

theorem SameDecoding.refl (p : AudioPipeline) : SameDecoding p p := ⟨rfl, rfl, rfl, rfl⟩

theorem SameDecoding.trans {p q r : AudioPipeline} (hpq : SameDecoding p q)
    (hqr : SameDecoding q r) : SameDecoding p r where
  session := hqr.session.trans hpq.session
  state := hqr.state.trans hpq.state
  alacDecoder := hqr.alacDecoder.trans hpq.alacDecoder
  aesContext := hqr.aesContext.trans hpq.aesContext

theorem SameSetting.decoding {p after : AudioPipeline} (h : SameSetting p after) :
    SameDecoding p after := ⟨h.session, h.state, h.alacDecoder, h.aesContext⟩

/-- The counters of the packets that were handed over. -/
structure HandedBooks where
  lastSequence : UInt16
  packetsReceived : UInt32
  packetsLost : UInt32
  decodedPackets : UInt32
  deriving DecidableEq

/-- The counters of a pipeline. -/
def AudioPipeline.handedBooks (p : AudioPipeline) : HandedBooks :=
  ⟨p.lastSequence, p.packetsReceived, p.packetsLost, p.decodedPackets⟩

/-- The counters after a packet with these samples was handed over. -/
def HandedBooks.after (b : HandedBooks) (sequence : UInt16) (samples : List Int16) : HandedBooks :=
  let delta := (sequence - (b.lastSequence + 1)).toInt16.toInt
  { lastSequence := sequence
    packetsReceived := b.packetsReceived + 1
    packetsLost :=
      if b.packetsReceived > 0 ∧ delta > 0 then b.packetsLost + UInt32.ofInt delta
      else b.packetsLost
    decodedPackets := if samples = [] then b.decodedPackets else b.decodedPackets + 1 }

/-- **A packet of the session is counted**, and gives the samples of its decoder at the volume. -/
theorem decodePacket_books {p : AudioPipeline} (packet : RtpPacket) (hstate : p.state = .playing)
    (htype : packet.header.payloadType = p.session.payloadType) (decoded : DecodeOutcome)
    (scaled : Int16 → Int16) :
    (audioPipelineDecodePacket p packet decoded scaled).2 = (decoded.getD []).map scaled ∧
      (audioPipelineDecodePacket p packet decoded scaled).1.handedBooks =
        p.handedBooks.after packet.header.sequence (decoded.getD []) := by
  have hlost : (decide (p.packetsReceived > 0) &&
      decide ((packet.header.sequence - (p.lastSequence + 1)).toInt16.toInt > 0)) = true ↔
      p.packetsReceived > 0 ∧
        (packet.header.sequence - (p.lastSequence + 1)).toInt16.toInt > 0 := by
    rw [Bool.and_eq_true, decide_eq_true_eq, decide_eq_true_eq]
  rw [audioPipelineDecodePacket, if_neg (by rintro (h | h); exacts [h hstate, h htype])]
  simp only [hlost, AudioPipeline.handedBooks, HandedBooks.after]
  cases decoded with
  | none =>
      dsimp only
      split
      · exact ⟨rfl, rfl⟩
      · exact ⟨rfl, rfl⟩
  | some samples =>
      cases samples with
      | nil => exact ⟨rfl, rfl⟩
      | cons x xs => exact ⟨rfl, rfl⟩

/-! ## Steps that hand nothing over -/

/-- The inputs of a poll count nothing that is handed over. -/
theorem handedBooks_inputsKeep (books : HandedBooks) :
    InputsKeep fun p => p.handedBooks = books where
  ntpSync _ _ h := h
  decodeErrors _ _ h := h
  enqueue _ _ _ h := h
  anchor _ _ _ h := h
  ptp _ _ h := h
  buffered _ _ h := h

/-- The calls of the audio thread within a session. -/
theorem ownerCall_session {σ : Type} (aes : AesCbc) (lib : AacLibrary σ)
    (gain : UInt32 → Int16 → Int16) (s : DecodingPipeline σ) (step : SessionStep)
    (p : AudioPipeline) :
    SameDecoding p (ownerCall p (answerStep aes lib gain s step).2) ∧
      (ownerCall p (answerStep aes lib gain s step).2).handedBooks = p.handedBooks := by
  cases step with
  | setTransport peer => exact ⟨⟨rfl, rfl, rfl, rfl⟩, rfl⟩
  | setVolume volumeDb =>
      obtain ⟨volume, hset⟩ := audioPipelineSetVolume_eq p volumeDb
      show SameDecoding p (audioPipelineSetVolume p volumeDb) ∧ _
      rw [answerStep, ownerCall, hset]
      exact ⟨⟨rfl, rfl, rfl, rfl⟩, rfl⟩
  | anchor a => exact ⟨⟨rfl, rfl, rfl, rfl⟩, rfl⟩
  | seek sequence => exact ⟨⟨rfl, rfl, rfl, rfl⟩, rfl⟩
  | turn io => exact ⟨⟨rfl, rfl, rfl, rfl⟩, rfl⟩

/-! ## Steps -/

/-- What one step does to the counters, to the tickets handed over and to the samples heard:
nothing, or a packet that was queued is handed over, with the samples of its decoder at the
volume of the pipeline. -/
inductive Hands (aes : AesCbc) {σ : Type} (lib : AacLibrary σ) (gain : UInt32 → Int16 → Int16)
    (s : DecodingPipeline σ) (l : PlayLedger) :
    AudioPipeline → PlayLedger → SessionEvent → Prop where
  | quiet (after : AudioPipeline) (l' : PlayLedger) (event : SessionEvent)
      (hsame : SameDecoding s.polled.pipeline after)
      (hbooks : after.handedBooks = s.polled.pipeline.handedBooks)
      (hsince : l'.since = l.since) (hhanded : handedIn event = []) (hheard : heardIn event = []) :
      Hands aes lib gain s l after l' event
  | handed (slot : Slot) (after : AudioPipeline) (l' : PlayLedger) (event : SessionEvent)
      (hsame : SameDecoding s.polled.pipeline after)
      (hplaying : s.polled.pipeline.state = .playing)
      (hpeek : playoutPeek s.polled.pipeline.playout = some slot)
      (hsince : l'.since = l.since ++ (l.custody.held slot).toList)
      (hhanded : handedIn event =
        [((s.polled.pipeline.playout.packets slot).packet, s.polled.pipeline.volumeDb)])
      (houtcome : (s.polled.pipeline.playout.packets slot).header.payloadType =
          s.polled.pipeline.session.payloadType →
        let packet := (s.polled.pipeline.playout.packets slot).packet
        let samples := (decodePayload aes s.polled.pipeline lib s.handle packet.payload).2.getD []
        heardIn event = samples.map (gain s.polled.pipeline.volumeDb) ∧
          after.handedBooks = s.polled.pipeline.handedBooks.after packet.header.sequence samples) :
      Hands aes lib gain s l after l' event

section Steps

variable {σ : Type} (aead : Aead) (aes : AesCbc) (lib : AacLibrary σ)
  (gain : UInt32 → Int16 → Int16)

/-- The tickets handed over do not change with a push. -/
theorem PlayLedger.pushAll_since (packets : List RtpPacket) :
    ∀ (l : PlayLedger) (q : Playout), (l.pushAll q packets).since = l.since := by
  induction packets with
  | nil => exact fun _ _ => rfl
  | cons packet rest ih =>
      intro l q
      refine (ih _ _).trans ?_
      rcases l.push_cases q packet with ⟨hl, -⟩ | ⟨slot, -, -, -, hl, -⟩
      · rw [hl]
      · rw [hl]

/-- The verdict on the front packet does not depend on what decoding it gives. -/
theorem playVerdict_answered (p : AudioPipeline) (handle : σ) (io : PlayIo) :
    playVerdict p (answerPlay aes lib gain p handle io).2 = playVerdict p io := by
  have hclocks : (answerPlay aes lib gain p handle io).2.now = io.now ∧
      (answerPlay aes lib gain p handle io).2.deadlineNow = io.deadlineNow ∧
      (answerPlay aes lib gain p handle io).2.outputDelayFrames = io.outputDelayFrames := by
    unfold answerPlay
    split
    · split
      · exact ⟨rfl, rfl, rfl⟩
      · exact ⟨rfl, rfl, rfl⟩
    · exact ⟨rfl, rfl, rfl⟩
  obtain ⟨hnow, hdeadline, hdelay⟩ := hclocks
  have hschedule : ∀ slot, p.schedule (answerPlay aes lib gain p handle io).2 slot =
      p.schedule io slot := by
    intro slot
    rw [AudioPipeline.schedule, AudioPipeline.schedule, pipelineDeadline, pipelineDeadline,
      pipelineNtpDeadline, pipelineNtpDeadline, pipelinePtpDeadline, pipelinePtpDeadline,
      hnow, hdeadline, hdelay]
  unfold playVerdict
  generalize playoutPeek p.playout = front
  cases front with
  | none => rfl
  | some slot => exact hschedule slot

/-- A turn in the loop over ready packets. -/
theorem playTurn_hands {s : DecodingPipeline σ} {l : PlayLedger} {batch : ℕ}
    (hphase : s.polled.poll.getD .inputs = .playing batch) (io : TurnIo) :
    Hands aes lib gain s l
      (playTurn (answerTurn aes lib gain s io).2.play s.polled.pipeline batch).pipeline
      (l.watch aead s.polled (.turn (answerTurn aes lib gain s io).2)
        (playTurn (answerTurn aes lib gain s io).2.play s.polled.pipeline batch).event)
      ⟨(playTurn (answerTurn aes lib gain s io).2.play s.polled.pipeline batch).event,
        s.polled.pipeline.volumeDb⟩ := by
  -- a turn without a packet
  have hquiet : ∀ (io : TurnIo) (phase : PollPhase),
      Hands aes lib gain s l s.polled.pipeline (l.watch aead s.polled (.turn io) .quiet)
        ⟨.quiet, s.polled.pipeline.volumeDb⟩ := by
    intro io phase
    refine Hands.quiet _ _ _ (SameDecoding.refl _) rfl ?_ rfl rfl
    exact PlayLedger.pushAll_since _ _ _
  rw [answerTurn, hphase]
  dsimp only
  by_cases hplays : batch < 16 ∧ s.polled.pipeline.state = .playing
  · rw [if_pos hplays]
    dsimp only
    rw [playTurn, if_pos hplays]
    -- the verdict does not depend on the answer
    rw [playVerdict_answered]
    cases hcase : playVerdict s.polled.pipeline io.play with
    | wait => exact hquiet _ (.done true)
    | fail => exact hquiet _ (.done false)
    | late slot =>
        have hpeek := playVerdict_peek (Or.inl hcase)
        refine Hands.quiet _ _ _ ⟨rfl, rfl, rfl, rfl⟩ rfl ?_ rfl rfl
        show (l.leave s.polled.pipeline.playout .late).since = l.since
        rw [PlayLedger.leave_of_peek hpeek]
        rfl
    | submit slot =>
        have hpeek := playVerdict_peek (Or.inr hcase)
        obtain ⟨hsetting, -, -⟩ := decodePacket_setting s.polled.pipeline
          (s.polled.pipeline.playout.packets slot).packet
          (answerPlay aes lib gain s.polled.pipeline s.handle io.play).2.decoded
          (answerPlay aes lib gain s.polled.pipeline s.handle io.play).2.scaled
        refine Hands.handed slot _ _ _ ⟨hsetting.session, hsetting.state, hsetting.alacDecoder,
          hsetting.aesContext⟩ hplays.2 hpeek ?_ rfl ?_
        · show (l.leave s.polled.pipeline.playout .handed).since = _
          rw [PlayLedger.leave_of_peek hpeek]
          rfl
        · intro htype
          have hanswer : (answerPlay aes lib gain s.polled.pipeline s.handle io.play).2.decoded =
                (decodePayload aes s.polled.pipeline lib s.handle
                  (s.polled.pipeline.playout.packets slot).payload).2 ∧
              (answerPlay aes lib gain s.polled.pipeline s.handle io.play).2.scaled =
                gain s.polled.pipeline.volumeDb := by
            unfold answerPlay
            rw [hcase]
            dsimp only
            rw [if_neg (not_not_intro htype)]
            exact ⟨rfl, rfl⟩
          have hbooks := decodePacket_books (s.polled.pipeline.playout.packets slot).packet
            hplays.2 htype (answerPlay aes lib gain s.polled.pipeline s.handle io.play).2.decoded
            (answerPlay aes lib gain s.polled.pipeline s.handle io.play).2.scaled
          rw [hanswer.1, hanswer.2] at hbooks
          dsimp only [AudioPipeline.submit, heardIn]
          rw [hanswer.1, hanswer.2]
          exact hbooks
  · rw [if_neg hplays]
    dsimp only
    rw [playTurn, if_neg hplays]
    exact hquiet _ (.done true)

/-- **Every step of a session hands at most one packet over.** -/
theorem sessionStep_hands (s : DecodingPipeline σ × PlayLedger) (step : SessionStep) :
    Hands aes lib gain s.1 s.2 ((sessionLedger aead aes lib gain).step s step).1.1.polled.pipeline
      ((sessionLedger aead aes lib gain).step s step).1.2
      ((sessionLedger aead aes lib gain).step s step).2 := by
  obtain ⟨s, l⟩ := s
  -- a call waits for the end of a poll, and leaves the ledger alone
  have hcall : ∀ call : PipelineStep, SameDecoding s.polled.pipeline
        (ownerCall s.polled.pipeline call) ∧
        (ownerCall s.polled.pipeline call).handedBooks = s.polled.pipeline.handedBooks →
      Hands aes lib gain s l
        (if s.polled.poll = none then
          ({ s.polled with pipeline := ownerCall s.polled.pipeline call }, TurnEvent.quiet)
        else (s.polled, .quiet)).1.pipeline l
        ⟨(if s.polled.poll = none then
          ({ s.polled with pipeline := ownerCall s.polled.pipeline call }, TurnEvent.quiet)
        else (s.polled, .quiet)).2, s.polled.pipeline.volumeDb⟩ := by
    rintro call ⟨hsame, hbooks⟩
    split
    · exact Hands.quiet _ _ _ hsame hbooks rfl rfl rfl
    · exact Hands.quiet _ _ _ (SameDecoding.refl _) rfl rfl rfl rfl
  have hcalls := ownerCall_session aes lib gain s step s.polled.pipeline
  cases step with
  | setTransport peer => exact hcall (.setTransport peer) hcalls
  | setVolume volumeDb => exact hcall (.setVolume volumeDb) hcalls
  | anchor a => exact hcall (.anchor a) hcalls
  | seek sequence => exact hcall (.seek sequence) hcalls
  | turn io =>
      show Hands aes lib gain s l
        (pollTurn aead (answerTurn aes lib gain s io).2 s.polled.pipeline
          (s.polled.poll.getD .inputs)).pipeline
        (l.watch aead s.polled (.turn (answerTurn aes lib gain s io).2)
          (pollTurn aead (answerTurn aes lib gain s io).2 s.polled.pipeline
            (s.polled.poll.getD .inputs)).event)
        ⟨(pollTurn aead (answerTurn aes lib gain s io).2 s.polled.pipeline
          (s.polled.poll.getD .inputs)).event, s.polled.pipeline.volumeDb⟩
      cases hphase : s.polled.poll.getD .inputs with
      | playing batch => exact playTurn_hands aead aes lib gain hphase io
      | inputs =>
          have heffect :=
            inputsTurn_effect aead (answerTurn aes lib gain s io).2.inputs s.polled.pipeline
          refine Hands.quiet _ _ _ heffect.setting.decoding
            ((handedBooks_inputsKeep _).inputsTurn aead _ rfl) ?_ ?_ ?_
          · rw [pollTurn, inputsTurn_event]
            exact PlayLedger.pushAll_since _ _ _
          · rw [pollTurn, inputsTurn_event]
            rfl
          · rw [pollTurn, inputsTurn_event]
            rfl
      | receiving i limit =>
          have heffect := receiveTurn_effect aead (answerTurn aes lib gain s io).2.record
            s.polled.pipeline i limit
          have hevent : fateOf (receiveTurn aead (answerTurn aes lib gain s io).2.record
              s.polled.pipeline i limit).event = none ∧
              handedIn ⟨(receiveTurn aead (answerTurn aes lib gain s io).2.record
                s.polled.pipeline i limit).event, s.polled.pipeline.volumeDb⟩ = [] ∧
              heardIn ⟨(receiveTurn aead (answerTurn aes lib gain s io).2.record
                s.polled.pipeline i limit).event, s.polled.pipeline.volumeDb⟩ = [] := by
            rw [receiveTurn]
            split
            · dsimp only
              split
              · exact ⟨rfl, rfl, rfl⟩
              · split
                · exact ⟨rfl, rfl, rfl⟩
                · rw [completedRecord]
                  split
                  · exact ⟨rfl, rfl, rfl⟩
                  · exact ⟨rfl, rfl, rfl⟩
            · exact ⟨rfl, rfl, rfl⟩
          refine Hands.quiet _ _ _ heffect.setting.decoding
            ((handedBooks_inputsKeep _).receiveTurn aead _ _ _ rfl) ?_
            hevent.2.1 hevent.2.2
          rw [pollTurn, PlayLedger.watch]
          simp only [hevent.1]
          exact PlayLedger.pushAll_since _ _ _
      | done ok =>
          refine Hands.quiet _ _ _ (SameDecoding.refl _) rfl ?_ rfl rfl
          exact PlayLedger.pushAll_since _ _ _

end Steps

end PortableAirplay.Audio
