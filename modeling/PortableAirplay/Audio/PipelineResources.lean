import PortableAirplay.Audio.PipelinePoll
import PortableAirplay.Platform.Resources
import PortableAirplay.Sync.PtpSamples
import Mathlib.Tactic.Abel

/-!
# The resources of the audio pipeline

The calls of `audio/audio_pipeline.c` that open and close sockets and decoders, down to
`protocol/rtp.c`, `audio/buffered_audio.c`, `sync/ptp_sync.c` and the decoders, in the order of
the source. The sockets of the RTP receiver stay open from creation to close; the others come
and go with the connection and the sessions (`AudioPipeline.held`).
-/

set_option autoImplicit false

namespace PortableAirplay.Audio

open PortableAirplay.Airplay
open PortableAirplay.Library
open PortableAirplay.Platform
open PortableAirplay.Protocol
open PortableAirplay.Sync

/-! ## The RTP receiver -/

/-- The handles that `net_udp_bind` gives for the three sockets, as far as it succeeds. -/
structure RtpBinds where
  audio : Option ℕ
  control : Option ℕ
  timing : Option ℕ

/-- Sockets that are bound in turn until one fails, and whether all are. A port of zero is left
out. -/
def bindInTurn : List (UInt16 × Option ℕ) → List NetSocket × Bool
  | [] => ([], true)
  | (port, handle) :: rest =>
      if port = 0 then bindInTurn rest
      else
        match handle with
        | none => ([], false)
        | some handle => (⟨some handle, port⟩ :: (bindInTurn rest).1, (bindInTurn rest).2)

/-- The sockets of `rtp_receiver_create` on `AIRPLAY_AUDIO_PORT`, `AIRPLAY_CONTROL_PORT` and
`AIRPLAY_TIMING_PORT`. -/
def rtpReceiverSockets (io : RtpBinds) : List NetSocket × Bool :=
  bindInTurn [(6000, io.audio), (6001, io.control), (6002, io.timing)]

theorem bindInTurn_length (binds : List (UInt16 × Option ℕ)) :
    (bindInTurn binds).1.length ≤ binds.length := by
  induction binds with
  | nil => exact le_refl 0
  | cons bind binds ih =>
      rw [bindInTurn.eq_def, List.length_cons]
      dsimp only
      split
      · exact Nat.le_succ_of_le ih
      · split
        · exact Nat.zero_le _
        · exact Nat.succ_le_succ ih

/-- `rtp_receiver_close`. -/
def rtpReceiverCloseCalls (sockets : List NetSocket) : List ResourceCall :=
  sockets.flatMap netClose

/-- `rtp_receiver_create`. -/
def rtpReceiverCreateCalls (io : RtpBinds) : List ResourceCall :=
  let sockets := rtpReceiverSockets io
  sockets.1.flatMap netOpened ++ (if sockets.2 then [] else rtpReceiverCloseCalls sockets.1)

/-! ## The PTP clock -/

/-- What the platform answers to `ptp_sync_open`: the handles of the two sockets, and whether
they join the group. -/
structure PtpOpenIo where
  event : Option ℕ
  general : Option ℕ
  eventJoins : Bool
  generalJoins : Bool

/-- The sockets if every call succeeds. -/
def PtpOpenIo.sockets (io : PtpOpenIo) : Option (NetSocket × NetSocket) :=
  match io.event, io.general with
  | some event, some general =>
      if io.eventJoins && io.generalJoins then some (⟨some event, 319⟩, ⟨some general, 320⟩)
      else none
  | _, _ => none

/-- `ptp_sync_close`. -/
def ptpSyncCloseCalls (sockets : NetSocket × NetSocket) : List ResourceCall :=
  netClose sockets.1 ++ netClose sockets.2

/-- `ptp_sync_open`. Where a call fails, what is open by then is closed. -/
def ptpSyncOpenCalls (io : PtpOpenIo) (p : PtpSync) : List ResourceCall :=
  if p.opened then []
  else
    match io.event with
    | none => ptpSyncCloseCalls p.sockets
    | some event =>
        let first : NetSocket := ⟨some event, 319⟩
        netOpened first ++
          match io.general with
          | none => ptpSyncCloseCalls (first, p.sockets.2)
          | some general =>
              let second : NetSocket := ⟨some general, 320⟩
              netOpened second ++
                (if io.eventJoins && io.generalJoins then []
                else ptpSyncCloseCalls (first, second))

/-! ## The buffered connection -/

/-- `buffered_audio_poll` with the length of the record in the buffer. -/
def receiveBodyCalls (io : BufferedIo) (b : BufferedAudio) : List ResourceCall :=
  let need := recordNeed b.data
  if need < 38 ∨ need > rtpBufferSize + 2 then netClose b.client
  else
    match netTcpRecv b.client (need - b.data.length) io.recvBody with
    | .timeout => []
    | .error => netClose b.client
    | .bytes [] => netClose b.client
    | .bytes (_ :: _) => []

/-- `buffered_audio_poll` on a connected transport. -/
def receiveRecordCalls (io : BufferedIo) (b : BufferedAudio) : List ResourceCall :=
  if b.data.length < 2 then
    match netTcpRecv b.client (2 - b.data.length) io.recvLength with
    | .timeout => []
    | .error => netClose b.client
    | .bytes [] => netClose b.client
    | .bytes (x :: xs) =>
        let b := { b with data := b.data ++ x :: xs }
        if b.data.length < 2 then [] else receiveBodyCalls io b
  else receiveBodyCalls io b

/-- `buffered_audio_poll`. -/
def bufferedAudioPollCalls (io : BufferedIo) (b : BufferedAudio) (ip : CString) :
    List ResourceCall :=
  if b.client.isOpen then receiveRecordCalls io b
  else
    match io.accept with
    | .timeout => []
    | .error => []
    | .accepted handle peer =>
        let b := { b with client := netTcpAccept b.listener handle }
        netOpened b.client ++
          (if ip = [] ∨ peer.ip ≠ ip then netClose b.client else receiveRecordCalls io b)

/-- `buffered_audio_close`. -/
def bufferedAudioCloseCalls (b : BufferedAudio) : List ResourceCall :=
  netClose b.client ++ netClose b.listener

/-! ## Decoders -/

/-- What the AAC library does: it gives no handle, or refuses the configuration of the one it
gave, or opens. -/
inductive AacOpening where
  | unavailable
  | refused
  | opened
  deriving DecidableEq, Repr

/-- A context that a decoder holds. -/
def AlacDecoder.resources (decoder : AlacDecoder) : List Resource :=
  if decoder.impl then [.alacContext] else []

/-- A handle that a decoder holds. -/
def AacDecoder.resources (decoder : AacDecoder) : List Resource :=
  if decoder.impl then [.aacDecoder] else []

/-- `alac_decoder_close`. -/
def alacDecoderCloseCalls (decoder : AlacDecoder) : List ResourceCall :=
  decoder.resources.map Lease.give

/-- `aac_decoder_close`. -/
def aacDecoderCloseCalls (decoder : AacDecoder) : List ResourceCall :=
  decoder.resources.map Lease.give

/-- `alac_decoder_init` with `used` contexts of the pool in use. -/
def alacDecoderInitCalls (used : ℕ) (framesPerPacket : UInt32) : List ResourceCall :=
  let frameLength := if framesPerPacket = 0 then defaultFramesPerPacket else framesPerPacket
  if frameLength.toNat > alacMaxSamplesPerFrame then []
  else if used ≥ alacMaxContexts then []
  else [.take .alacContext]

/-- `aac_decoder_init` on a closed decoder. -/
def aacDecoderInitCalls (aac : AacOpening) (channels : UInt8) (sampleRate : UInt32) :
    List ResourceCall :=
  if channels = 0 ∨ channels > 2 ∨ sampleRate = 0 then []
  else
    match aac with
    | .unavailable => []
    | .refused => [.take .aacDecoder, .give .aacDecoder]
    | .opened => [.take .aacDecoder]

/-! ## The pipeline -/

/-- The answers to the calls that open something while a session is configured. -/
structure OpenIo where
  ptp : PtpOpenIo
  aac : AacOpening

/-- What `audio_pipeline_configure` sees of them. -/
def ConfigureIo.withOpens (io : ConfigureIo) (opens : OpenIo) : ConfigureIo :=
  { io with ptpSockets := opens.ptp.sockets, aacOpens := opens.aac == .opened }

/-- The decoder of the session is opened. -/
def openDecoderCalls (opens : OpenIo) (p : AudioPipeline) (session : SdpSession) :
    List ResourceCall :=
  match p.session.codec with
  | .aac => aacDecoderInitCalls opens.aac session.channels.toUInt8 session.sampleRate
  | .alac => alacDecoderInitCalls p.alacUsed session.framesPerPacket
  | .pcm => []
  | .unknown => []

/-- `audio_pipeline_configure`. -/
def audioPipelineConfigureCalls (opens : OpenIo) (p : AudioPipeline) (session : SdpSession) :
    List ResourceCall :=
  if acceptsSession session = false then []
  else
    let ptp :=
      if session.streamType = 0 then (p.ptp, true) else ptpSyncOpen p.ptp opens.ptp.sockets
    (if session.streamType = 0 then [] else ptpSyncOpenCalls opens.ptp p.ptp) ++
      (if ptp.2 = false then []
      else
        alacDecoderCloseCalls p.alacDecoder ++ aacDecoderCloseCalls p.aacDecoder ++
          openDecoderCalls opens (p.enter ptp.1 session) session)

/-- One turn of `audio_pipeline_poll`. -/
def pollTurnCalls (io : TurnIo) (p : AudioPipeline) : PollPhase → List ResourceCall
  | .inputs => []
  | .receiving i limit =>
      if p.wantsRecord i limit then
        bufferedAudioPollCalls io.record.buffered p.buffered p.timingPeer.ip
      else []
  | .playing _ => []
  | .done _ => []

/-- `audio_pipeline_create`: the sockets of the RTP receiver, and the listener that
`buffered_audio_open` opens if the receiver is there. -/
def audioPipelineCreateCalls (io : RtpBinds) (listener : Option NetSocket) : List ResourceCall :=
  let sockets := rtpReceiverSockets io
  rtpReceiverCreateCalls io ++
    (if sockets.2 = false then []
    else
      match listener with
      | none => rtpReceiverCloseCalls sockets.1
      | some listener => netOpened listener)

/-- `audio_pipeline_close`. -/
def audioPipelineCloseCalls (rtp : List NetSocket) (p : AudioPipeline) : List ResourceCall :=
  rtpReceiverCloseCalls rtp ++ bufferedAudioCloseCalls p.buffered ++
    ptpSyncCloseCalls p.ptp.sockets ++ alacDecoderCloseCalls p.alacDecoder ++
    aacDecoderCloseCalls p.aacDecoder

/-! ## What the parts hold -/

/-- The sockets of the PTP clock. -/
def ptpHeld (p : PtpSync) : Multiset Resource := p.sockets.1.held + p.sockets.2.held

/-- A clock that is not in use has no sockets. -/
def PtpTidy (p : PtpSync) : Prop :=
  p.opened = false → p.sockets.1.isOpen = false ∧ p.sockets.2.isOpen = false

theorem ptpTidy_held {p : PtpSync} (h : PtpTidy p) (hclosed : p.opened = false) :
    ptpHeld p = 0 := by
  obtain ⟨hevent, hgeneral⟩ := h hclosed
  rw [ptpHeld, netSocket_held_closed hevent, netSocket_held_closed hgeneral]
  rfl

/-- The sockets of the buffered connection. -/
def BufferedAudio.held (b : BufferedAudio) : Multiset Resource := b.client.held + b.listener.held

/-- The decoders of the pipeline. -/
def AudioPipeline.decodersHeld (p : AudioPipeline) : Multiset Resource :=
  (p.alacDecoder.resources : Multiset Resource) + (p.aacDecoder.resources : Multiset Resource)

/-- What the pipeline holds beside the sockets of the RTP receiver. -/
def AudioPipeline.held (p : AudioPipeline) : Multiset Resource :=
  p.buffered.held + ptpHeld p.ptp + p.decodersHeld

/-- What calls do to the pipeline: they lead from what it held to what it holds. -/
structure PipelineLedger (p after : AudioPipeline) (calls : List ResourceCall) : Prop where
  replay : replay p.held calls = some after.held
  tidy : PtpTidy p.ptp → PtpTidy after.ptp

theorem PipelineLedger.trans {p q r : AudioPipeline} {first second : List ResourceCall}
    (hpq : PipelineLedger p q first) (hqr : PipelineLedger q r second) :
    PipelineLedger p r (first ++ second) where
  replay := replay_trans hpq.replay hqr.replay
  tidy h := hqr.tidy (hpq.tidy h)

/-- Nothing is opened or closed. -/
theorem PipelineLedger.same {p after : AudioPipeline} (hbuffered : after.buffered.held = p.buffered.held)
    (hptp : after.ptp.sockets = p.ptp.sockets) (hopened : after.ptp.opened = p.ptp.opened)
    (halac : after.alacDecoder = p.alacDecoder) (haac : after.aacDecoder = p.aacDecoder) :
    PipelineLedger p after [] where
  replay := by
    rw [replay_nil, AudioPipeline.held, AudioPipeline.held, AudioPipeline.decodersHeld,
      AudioPipeline.decodersHeld, ptpHeld, ptpHeld, hbuffered, hptp, halac, haac]
  tidy h := by
    rw [PtpTidy, hptp, hopened]
    exact h

theorem PipelineLedger.refl (p : AudioPipeline) : PipelineLedger p p [] :=
  PipelineLedger.same rfl rfl rfl rfl rfl

/-- Sockets that are closed one after the other. -/
theorem replay_netCloses (sockets : List NetSocket) (frame : Multiset Resource) :
    replay ((sockets.map NetSocket.held).sum + frame) (sockets.flatMap netClose) = some frame := by
  induction sockets with
  | nil =>
      rw [List.map_nil, List.sum_nil, Multiset.zero_add]
      rfl
  | cons socket sockets ih =>
      rw [List.map_cons, List.sum_cons, List.flatMap_cons, Multiset.add_assoc]
      exact replay_trans (replay_netClose socket _) ih

/-- Sockets that are opened one after the other. -/
theorem replay_netOpens (sockets : List NetSocket) :
    ∀ frame : Multiset Resource, replay frame (sockets.flatMap netOpened) =
      some ((sockets.map NetSocket.held).sum + frame) := by
  induction sockets with
  | nil =>
      intro frame
      rw [List.map_nil, List.sum_nil, Multiset.zero_add]
      rfl
  | cons socket sockets ih =>
      intro frame
      rw [List.map_cons, List.sum_cons, List.flatMap_cons]
      have hrest := ih (socket.held + frame)
      rw [← Multiset.add_assoc, Multiset.add_comm _ socket.held] at hrest
      exact replay_trans (replay_netOpened socket frame) hrest

/-- The sockets of the RTP receiver. -/
def rtpHeld (sockets : List NetSocket) : Multiset Resource := (sockets.map NetSocket.held).sum

/-- **A receiver that cannot open all its sockets** keeps none. -/
theorem rtpReceiverCreate_ledger (io : RtpBinds) (frame : Multiset Resource) :
    replay frame (rtpReceiverCreateCalls io) =
      some (if (rtpReceiverSockets io).2 then rtpHeld (rtpReceiverSockets io).1 + frame
        else frame) := by
  have hopened := replay_netOpens (rtpReceiverSockets io).1 frame
  rw [rtpReceiverCreateCalls]
  split
  · rw [List.append_nil]
    exact hopened
  · exact replay_trans hopened (replay_netCloses _ frame)

/-! ## The clock -/

theorem replay_ptpSyncClose (sockets : NetSocket × NetSocket) (frame : Multiset Resource) :
    replay (sockets.1.held + sockets.2.held + frame) (ptpSyncCloseCalls sockets) =
      some frame := by
  rw [Multiset.add_assoc]
  exact replay_trans (replay_netClose _ _) (replay_netClose _ _)

/-- Opening a clock that is not in use takes both sockets, or closes again what it opened. -/
theorem replay_ptpSyncOpen (io : PtpOpenIo) {p : PtpSync} (h : PtpTidy p)
    (hclosed : p.opened = false) (frame : Multiset Resource) :
    replay frame (ptpSyncOpenCalls io p) =
      some ((io.sockets.map fun sockets => sockets.1.held + sockets.2.held).getD 0 + frame) := by
  have hkept := replay_ptpSyncClose p.sockets frame
  rw [← ptpHeld, ptpTidy_held h hclosed, Multiset.zero_add] at hkept
  rw [ptpSyncOpenCalls, PtpOpenIo.sockets, hclosed, if_neg Bool.noConfusion]
  cases io.event with
  | none =>
      refine hkept.trans (congrArg some ?_)
      exact (Multiset.zero_add frame).symm
  | some event =>
      have hbound := replay_netOpened ⟨some event, 319⟩ frame
      dsimp only
      cases io.general with
      | none =>
          have hsecond := replay_netClose p.sockets.2 frame
          rw [netSocket_held_closed (h hclosed).2, Multiset.zero_add] at hsecond
          have hfirst := replay_netClose ⟨some event, 319⟩ frame
          refine (replay_trans hbound (replay_trans hfirst hsecond)).trans (congrArg some ?_)
          exact (Multiset.zero_add frame).symm
      | some general =>
          have hboth := replay_trans hbound (replay_netOpened ⟨some general, 320⟩
            (NetSocket.held ⟨some event, 319⟩ + frame))
          have hheld : NetSocket.held ⟨some general, 320⟩ +
              (NetSocket.held ⟨some event, 319⟩ + frame) =
              NetSocket.held ⟨some event, 319⟩ + NetSocket.held ⟨some general, 320⟩ + frame := by
            abel
          rw [hheld] at hboth
          dsimp only
          rw [← List.append_assoc]
          split
          · rw [List.append_nil]
            exact hboth
          · have hclose := replay_ptpSyncClose
              ((⟨some event, 319⟩, ⟨some general, 320⟩) : NetSocket × NetSocket) frame
            refine (replay_trans hboth hclose).trans (congrArg some ?_)
            exact (Multiset.zero_add frame).symm

/-- **The clock opens both sockets or keeps none.** -/
theorem ptpSyncOpen_ledger (io : PtpOpenIo) {p : PtpSync} (h : PtpTidy p)
    (frame : Multiset Resource) :
    replay (ptpHeld p + frame) (ptpSyncOpenCalls io p) =
        some (ptpHeld (ptpSyncOpen p io.sockets).1 + frame) ∧
      PtpTidy (ptpSyncOpen p io.sockets).1 := by
  by_cases hopened : p.opened = true
  · rw [ptpSyncOpenCalls, ptpSyncOpen.eq_def, if_pos hopened, if_pos hopened]
    exact ⟨rfl, h⟩
  · rw [Bool.not_eq_true] at hopened
    rw [ptpTidy_held h hopened, Multiset.zero_add, replay_ptpSyncOpen io h hopened,
      ptpSyncOpen.eq_def, hopened, if_neg Bool.noConfusion]
    cases io.sockets with
    | none => exact ⟨rfl, fun _ => ⟨rfl, rfl⟩⟩
    | some sockets => exact ⟨rfl, fun hfalse => by contradiction⟩

/-! ## The connection -/

/-- The connection is dropped. -/
theorem disconnect_ledger (b : BufferedAudio) (frame : Multiset Resource) :
    replay (b.held + frame) (netClose b.client) =
      some ((bufferedAudioDisconnect b).held + frame) := by
  have hclosed := replay_netClose b.client (b.listener.held + frame)
  rw [BufferedAudio.held, BufferedAudio.held, bufferedAudioDisconnect, netSocketInit_held,
    Multiset.zero_add, Multiset.add_assoc]
  exact hclosed

theorem deliverRecord_held (b : BufferedAudio) (received : List UInt8) :
    (deliverRecord b received).audio.held = b.held := by
  rw [deliverRecord]
  split
  · rfl
  · rfl

theorem receiveBody_ledger (io : BufferedIo) (b : BufferedAudio) (received : List UInt8)
    (frame : Multiset Resource) :
    replay (b.held + frame) (receiveBodyCalls io b) =
      some ((receiveBody io b received).audio.held + frame) := by
  rw [receiveBodyCalls, receiveBody]
  dsimp only
  by_cases hneed : recordNeed b.data < 38 ∨ recordNeed b.data > rtpBufferSize + 2
  · rw [if_pos hneed, if_pos hneed]
    exact disconnect_ledger b frame
  · rw [if_neg hneed, if_neg hneed]
    cases netTcpRecv b.client (recordNeed b.data - b.data.length) io.recvBody with
    | timeout => rfl
    | error => exact disconnect_ledger b frame
    | bytes data =>
        cases data with
        | nil => exact disconnect_ledger b frame
        | cons x xs =>
            dsimp only
            rw [replay_nil]
            split
            · rfl
            · rw [deliverRecord_held]
              rfl

theorem receiveRecord_ledger (io : BufferedIo) (b : BufferedAudio) (frame : Multiset Resource) :
    replay (b.held + frame) (receiveRecordCalls io b) =
      some ((receiveRecord io b).audio.held + frame) := by
  rw [receiveRecordCalls, receiveRecord]
  by_cases hlength : b.data.length < 2
  · rw [if_pos hlength, if_pos hlength]
    cases netTcpRecv b.client (2 - b.data.length) io.recvLength with
    | timeout => rfl
    | error => exact disconnect_ledger b frame
    | bytes data =>
        cases data with
        | nil => exact disconnect_ledger b frame
        | cons x xs =>
            dsimp only
            split
            · rfl
            · exact receiveBody_ledger io { b with data := b.data ++ x :: xs } _ frame
  · rw [if_neg hlength, if_neg hlength]
    exact receiveBody_ledger io b [] frame

/-- **A poll of the connection.** One of another host is closed at once. -/
theorem bufferedAudioPoll_ledger (io : BufferedIo) (b : BufferedAudio) (ip : CString)
    (frame : Multiset Resource) :
    replay (b.held + frame) (bufferedAudioPollCalls io b ip) =
      some ((bufferedAudioPoll io b ip).audio.held + frame) := by
  rw [bufferedAudioPollCalls, bufferedAudioPoll]
  by_cases hopen : b.client.isOpen = true
  · rw [if_pos hopen, if_pos hopen]
    exact receiveRecord_ledger io b frame
  · rw [if_neg hopen, if_neg hopen]
    rw [Bool.not_eq_true] at hopen
    cases io.accept with
    | timeout => rfl
    | error => rfl
    | accepted handle peer =>
        have hopened := replay_netOpened (netTcpAccept b.listener handle) (b.held + frame)
        have hheld : (netTcpAccept b.listener handle).held + (b.held + frame) =
            BufferedAudio.held { b with client := netTcpAccept b.listener handle } + frame := by
          rw [BufferedAudio.held, BufferedAudio.held, netSocket_held_closed hopen]
          dsimp only
          abel
        rw [hheld] at hopened
        dsimp only
        split
        · exact replay_trans hopened (disconnect_ledger _ frame)
        · exact replay_trans hopened (receiveRecord_ledger io _ frame)

/-! ## Turns of a poll -/

/-- The clock has the same sockets. -/
def SamePtpSockets (p after : PtpSync) : Prop :=
  after.sockets = p.sockets ∧ after.opened = p.opened

theorem ptpSyncSetClock_sockets (p : PtpSync) (clockId : UInt64) :
    SamePtpSockets p (ptpSyncSetClock p clockId) := by
  rw [ptpSyncSetClock]
  split
  · exact ⟨rfl, rfl⟩
  · exact ⟨rfl, rfl⟩

theorem ptpSyncPacket_sockets (p : PtpSync) (data : List UInt8) (now : UInt64) :
    SamePtpSockets p (ptpSyncPacket p data now).1 := by
  have heffect := ptpSyncPacket_effect p data now
  generalize ptpSyncPacket p data now = r at heffect ⊢
  cases heffect with
  | idle r hr hrecords => exact ⟨rfl, rfl⟩
  | recorded r hr hrecords => exact ⟨rfl, rfl⟩
  | oneStep offset hrecords hflag => exact ⟨rfl, rfl⟩
  | followed offset hfollows => exact ⟨rfl, rfl⟩

theorem ptpSyncPoll_sockets (p : PtpSync) (io : List UdpOffer × List UdpOffer) :
    SamePtpSockets p (ptpSyncPoll p io).1 := by
  have hkeeps : ∀ (q : PtpSync) (d : Datagram), SamePtpSockets p q →
      SamePtpSockets p (ptpSyncPacket q d.data d.now).1 := by
    intro q d hq
    have hpacket := ptpSyncPacket_sockets q d.data d.now
    exact ⟨hpacket.1.trans hq.1, hpacket.2.trans hq.2⟩
  have hevent := udpBatch_invariant (SamePtpSockets p) hkeeps 512 8 io.1 p ⟨rfl, rfl⟩
  rw [ptpSyncPoll]
  dsimp only
  split
  · exact ⟨rfl, rfl⟩
  · split
    · exact hevent
    · exact udpBatch_invariant (SamePtpSockets p) hkeeps 512 8 io.2 _ hevent

/-- The inputs of a poll leave the sockets of the clock alone. -/
theorem ptpSockets_inputsKeep (ptp : PtpSync) :
    InputsKeep fun p => SamePtpSockets ptp p.ptp where
  ntpSync _ _ h := h
  decodeErrors _ _ h := h
  enqueue _ _ _ h := h
  anchor p _ clock h := by
    have hclock := ptpSyncSetClock_sockets p.ptp clock
    exact ⟨hclock.1.trans h.1, hclock.2.trans h.2⟩
  ptp p io h := by
    have hpoll := ptpSyncPoll_sockets p.ptp io
    exact ⟨hpoll.1.trans h.1, hpoll.2.trans h.2⟩
  buffered _ _ h := h

theorem inputsTurn_ledger (aead : Aead) (io : InputsIo) (p : AudioPipeline) :
    PipelineLedger p (inputsTurn aead io p).pipeline [] := by
  have hptp := (ptpSockets_inputsKeep p.ptp).inputsTurn aead io ⟨rfl, rfl⟩
  have hsetting := (inputsTurn_effect aead io p).setting
  have hbuffered : (inputsTurn aead io p).pipeline.buffered = p.buffered := by
    rw [inputsTurn_pipeline]
    split
    · exact (pipelinePollInputs_arrival aead io p).buffered
    · rfl
  exact PipelineLedger.same (by rw [hbuffered]) hptp.1 hptp.2 hsetting.alacDecoder
    hsetting.aacDecoder

/-- A turn that receives a record opens and closes what the poll of the connection does. -/
theorem receiveTurn_ledger (aead : Aead) (io : RecordIo) (p : AudioPipeline) (i limit : ℕ) :
    PipelineLedger p (receiveTurn aead io p i limit).pipeline
      (if p.wantsRecord i limit then
        bufferedAudioPollCalls io.buffered p.buffered p.timingPeer.ip
      else []) := by
  have hptp := (ptpSockets_inputsKeep p.ptp).receiveTurn aead io i limit ⟨rfl, rfl⟩
  have hsetting := (receiveTurn_effect aead io p i limit).setting
  by_cases hwants : p.wantsRecord i limit = true
  · have hbuffered : (receiveTurn aead io p i limit).pipeline.buffered =
        (bufferedAudioPoll io.buffered p.buffered p.timingPeer.ip).audio := by
      rw [receiveTurn_pipeline, if_pos hwants, pipelinePollRecord_buffered]
    have hpoll := bufferedAudioPoll_ledger io.buffered p.buffered p.timingPeer.ip
      (ptpHeld p.ptp + p.decodersHeld)
    rw [if_pos hwants]
    constructor
    · have hclock : ptpHeld (receiveTurn aead io p i limit).pipeline.ptp = ptpHeld p.ptp := by
        rw [ptpHeld, hptp.1, ptpHeld]
      have hdecoders : (receiveTurn aead io p i limit).pipeline.decodersHeld =
          p.decodersHeld := by
        rw [AudioPipeline.decodersHeld, hsetting.alacDecoder, hsetting.aacDecoder,
          AudioPipeline.decodersHeld]
      rw [AudioPipeline.held, AudioPipeline.held, hbuffered, hclock, hdecoders,
        Multiset.add_assoc, Multiset.add_assoc]
      exact hpoll
    · intro htidy
      rw [PtpTidy, hptp.1, hptp.2]
      exact htidy
  · have hsame : (receiveTurn aead io p i limit).pipeline = p := by
      rw [receiveTurn_pipeline, if_neg hwants]
    rw [if_neg hwants, hsame]
    exact PipelineLedger.refl p

/-- Decoding a packet leaves the transports alone. -/
theorem decodePacket_transports (p : AudioPipeline) (packet : RtpPacket)
    (decoded : DecodeOutcome)
    (scaled : Int16 → Int16) :
    (audioPipelineDecodePacket p packet decoded scaled).1.buffered = p.buffered ∧
      (audioPipelineDecodePacket p packet decoded scaled).1.ptp = p.ptp := by
  rw [audioPipelineDecodePacket]
  split
  · exact ⟨rfl, rfl⟩
  · dsimp only
    split
    · split
      · exact ⟨rfl, rfl⟩
      · exact ⟨rfl, rfl⟩
    · exact ⟨rfl, rfl⟩
    · exact ⟨rfl, rfl⟩

theorem playTurn_ledger (io : PlayIo) (p : AudioPipeline) (batch : ℕ) :
    PipelineLedger p (playTurn io p batch).pipeline [] := by
  have hsetting := (playTurn_effect io p batch).setting
  have htransports : (playTurn io p batch).pipeline.buffered = p.buffered ∧
      (playTurn io p batch).pipeline.ptp = p.ptp := by
    rw [playTurn]
    split
    · cases playVerdict p io with
      | wait => exact ⟨rfl, rfl⟩
      | fail => exact ⟨rfl, rfl⟩
      | late slot => exact ⟨rfl, rfl⟩
      | submit slot => exact decodePacket_transports p _ io.decoded io.scaled
    · exact ⟨rfl, rfl⟩
  exact PipelineLedger.same (by rw [htransports.1]) (by rw [htransports.2])
    (by rw [htransports.2]) hsetting.alacDecoder hsetting.aacDecoder

/-- **Every turn of a poll.** -/
theorem pollTurn_ledger (aead : Aead) (io : TurnIo) (p : AudioPipeline) (phase : PollPhase) :
    PipelineLedger p (pollTurn aead io p phase).pipeline (pollTurnCalls io p phase) := by
  cases phase with
  | inputs => exact inputsTurn_ledger aead io.inputs p
  | receiving i limit => exact receiveTurn_ledger aead io.record p i limit
  | playing batch => exact playTurn_ledger io.play p batch
  | done ok => exact PipelineLedger.refl p

/-! ## Configuring -/

theorem setTransport_ledger (p : AudioPipeline) (peer : NetAddr) :
    PipelineLedger p (audioPipelineSetTransport p peer) (netClose p.buffered.client) where
  replay := by
    have hdisconnect := disconnect_ledger p.buffered (ptpHeld p.ptp + p.decodersHeld)
    rw [AudioPipeline.held, AudioPipeline.held, Multiset.add_assoc, Multiset.add_assoc]
    exact hdisconnect
  tidy h := h

theorem replay_decodersClose (p : AudioPipeline) (frame : Multiset Resource) :
    replay (p.decodersHeld + frame)
      (alacDecoderCloseCalls p.alacDecoder ++ aacDecoderCloseCalls p.aacDecoder) =
        some frame := by
  rw [AudioPipeline.decodersHeld, Multiset.add_assoc]
  exact replay_trans (replay_gives _ _) (replay_gives _ _)

/-- The ALAC decoder takes a context exactly where it is opened. -/
theorem alacDecoderInit_ledger (used : ℕ) (fmtp : List UInt32) (framesPerPacket : UInt32)
    (bitDepth channels : UInt8) (sampleRate : UInt32) (frame : Multiset Resource) :
    replay frame (alacDecoderInitCalls used framesPerPacket) =
      some (((alacDecoderInit used fmtp framesPerPacket bitDepth channels sampleRate).1.resources :
        Multiset Resource) + frame) := by
  have hnone : replay frame [] = some ((([] : List Resource) : Multiset Resource) + frame) :=
    congrArg some (Multiset.zero_add frame).symm
  rw [alacDecoderInitCalls, alacDecoderInit, alacDecoderSetup]
  dsimp only
  generalize (if framesPerPacket = 0 then defaultFramesPerPacket else framesPerPacket) = length
  by_cases hlength : length.toNat > alacMaxSamplesPerFrame
  · rw [if_pos hlength, if_pos hlength]
    exact hnone
  · rw [if_neg hlength, if_neg hlength]
    by_cases hused : used ≥ alacMaxContexts
    · rw [if_pos hused, if_pos hused]
      exact hnone
    · rw [if_neg hused, if_neg hused]
      rfl

/-- The AAC decoder keeps a handle exactly where it is opened. -/
theorem aacDecoderInit_ledger (aac : AacOpening) (channels : UInt8) (sampleRate : UInt32)
    (frame : Multiset Resource) :
    replay frame (aacDecoderInitCalls aac channels sampleRate) =
      some (((aacDecoderInit (aac == .opened) channels sampleRate).1.resources :
        Multiset Resource) + frame) := by
  have hnone : replay frame [] = some ((([] : List Resource) : Multiset Resource) + frame) :=
    congrArg some (Multiset.zero_add frame).symm
  rw [aacDecoderInitCalls.eq_def, aacDecoderInit]
  by_cases hrefused : channels = 0 ∨ channels > 2 ∨ sampleRate = 0
  · rw [if_pos hrefused, if_pos hrefused]
    exact hnone
  · rw [if_neg hrefused, if_neg hrefused]
    cases aac with
    | unavailable => exact hnone
    | refused =>
        rw [replay_take, replay_give]
        exact hnone
    | opened => rfl

/-- A decoder is opened where none is open. -/
theorem openDecoder_ledger (io : ConfigureIo) (opens : OpenIo) (p : AudioPipeline)
    (session : SdpSession) (halac : p.alacDecoder = AlacDecoder.zero)
    (haac : p.aacDecoder = AacDecoder.zero) (frame : Multiset Resource) :
    replay frame (openDecoderCalls opens p session) =
        some ((p.openDecoder (io.withOpens opens) session).1.decodersHeld + frame) := by
  have hclosed : p.decodersHeld = 0 := by
    rw [AudioPipeline.decodersHeld, halac, haac]
    rfl
  have hnone : replay frame [] = some (p.decodersHeld + frame) := by
    rw [replay_nil, hclosed, Multiset.zero_add]
  rw [openDecoderCalls, AudioPipeline.openDecoder]
  cases p.session.codec with
  | pcm => exact hnone
  | unknown => exact hnone
  | aac =>
      have hinit := aacDecoderInit_ledger opens.aac session.channels.toUInt8 session.sampleRate
        frame
      rw [AudioPipeline.decodersHeld]
      dsimp only
      rw [halac]
      exact hinit.trans (congrArg some (congrArg (· + frame) (Multiset.zero_add _).symm))
  | alac =>
      have hinit := alacDecoderInit_ledger p.alacUsed (session.alacFmtp.take session.alacFmtpCount)
        session.framesPerPacket session.bitsPerSample.toUInt8 session.channels.toUInt8
        session.sampleRate frame
      rw [AudioPipeline.decodersHeld]
      dsimp only
      rw [haac]
      exact hinit.trans (congrArg some (congrArg (· + frame) (Multiset.add_zero _).symm))

/-- Opening a decoder leaves the transports alone. -/
theorem openDecoder_transports (io : ConfigureIo) (p : AudioPipeline) (session : SdpSession) :
    (p.openDecoder io session).1.buffered = p.buffered ∧
      (p.openDecoder io session).1.ptp = p.ptp := by
  rw [AudioPipeline.openDecoder]
  cases p.session.codec with
  | aac => exact ⟨rfl, rfl⟩
  | alac => exact ⟨rfl, rfl⟩
  | pcm => exact ⟨rfl, rfl⟩
  | unknown => exact ⟨rfl, rfl⟩

/-- The cipher has nothing to give back. -/
theorem openCipher_same (io : ConfigureIo) (p : AudioPipeline) (session : SdpSession) :
    ∃ aes, (p.openCipher io session).1 = { p with aesContext := aes } := by
  rw [AudioPipeline.openCipher]
  split
  · exact ⟨p.aesContext, rfl⟩
  · split
    · exact ⟨p.aesContext, rfl⟩
    · exact ⟨_, rfl⟩

/-- What configuring leaves of the pipeline's resources is what opening the decoder leaves. -/
theorem configured_ledger (io : ConfigureIo) (p q : AudioPipeline) (session : SdpSession)
    {calls : List ResourceCall} (h : PipelineLedger q (p.openDecoder io session).1 calls) :
    PipelineLedger q
      (if (p.openDecoder io session).2 = false then p.openDecoder io session
      else
        let cipher := (p.openDecoder io session).1.openCipher io session
        if cipher.2 = false then cipher
        else ({ cipher.1 with configured := true, state := .ready }, true)).1 calls := by
  generalize p.openDecoder io session = decoder at h ⊢
  obtain ⟨aes, hcipher⟩ := openCipher_same io decoder.1 session
  split
  · exact h
  · dsimp only
    split
    · rw [hcipher]
      exact ⟨h.replay, h.tidy⟩
    · rw [hcipher]
      exact ⟨h.replay, h.tidy⟩

/-- Between two sessions the decoders are closed, and the one of the session is opened. -/
theorem enterSession_ledger (io : ConfigureIo) (opens : OpenIo) (p : AudioPipeline) (ptp : PtpSync)
    (session : SdpSession) {calls : List ResourceCall}
    (hptp : replay (ptpHeld p.ptp + (p.buffered.held + p.decodersHeld)) calls =
      some (ptpHeld ptp + (p.buffered.held + p.decodersHeld)))
    (htidy : PtpTidy p.ptp → PtpTidy ptp) :
    PipelineLedger p ((p.enter ptp session).openDecoder (io.withOpens opens) session).1
      (calls ++ (alacDecoderCloseCalls p.alacDecoder ++ aacDecoderCloseCalls p.aacDecoder ++
        openDecoderCalls opens (p.enter ptp session) session)) := by
  obtain ⟨hbuffered, hclock⟩ := openDecoder_transports (io.withOpens opens) (p.enter ptp session)
    session
  have hsockets := ptpSyncSetClock_sockets ptp 0
  have hclosed := replay_decodersClose p (p.buffered.held + ptpHeld ptp)
  have hopened := openDecoder_ledger io opens (p.enter ptp session) session rfl rfl
    (p.buffered.held + ptpHeld ptp)
  have hafter : ptpHeld ((p.enter ptp session).openDecoder (io.withOpens opens) session).1.ptp =
      ptpHeld ptp := by
    rw [hclock, ptpHeld, ptpHeld]
    exact congrArg (fun sockets : NetSocket × NetSocket => sockets.1.held + sockets.2.held)
      hsockets.1
  constructor
  · have hbefore : p.held = ptpHeld p.ptp + (p.buffered.held + p.decodersHeld) := by
      rw [AudioPipeline.held]
      abel
    have hbetween : ptpHeld ptp + (p.buffered.held + p.decodersHeld) =
        p.decodersHeld + (p.buffered.held + ptpHeld ptp) := by
      abel
    have hleft : AudioPipeline.held
        ((p.enter ptp session).openDecoder (io.withOpens opens) session).1 =
          AudioPipeline.decodersHeld
            ((p.enter ptp session).openDecoder (io.withOpens opens) session).1 +
            (p.buffered.held + ptpHeld ptp) := by
      rw [AudioPipeline.held, hbuffered, hafter]
      exact Multiset.add_comm _ _
    rw [hbetween] at hptp
    rw [hbefore, hleft]
    exact replay_trans hptp (replay_trans hclosed hopened)
  · intro h
    rw [hclock, PtpTidy]
    intro hfalse
    have hopen : ptp.opened = false := hsockets.2.symm.trans hfalse
    have hboth := htidy h hopen
    exact (congrArg (fun sockets : NetSocket × NetSocket =>
      sockets.1.isOpen = false ∧ sockets.2.isOpen = false) hsockets.1).mpr hboth

/-- **Configuring a session**, successfully or not, leaves the pipeline with what it holds. -/
theorem audioPipelineConfigure_ledger (io : ConfigureIo) (opens : OpenIo) (p : AudioPipeline)
    (session : SdpSession) (htidy : PtpTidy p.ptp) :
    PipelineLedger p (audioPipelineConfigure (io.withOpens opens) p session).1
      (audioPipelineConfigureCalls opens p session) := by
  rw [audioPipelineConfigure, audioPipelineConfigureCalls]
  by_cases haccepts : acceptsSession session = false
  · rw [if_pos haccepts, if_pos haccepts]
    exact PipelineLedger.refl p
  · rw [if_neg haccepts, if_neg haccepts]
    by_cases hraop : session.streamType = 0
    · rw [if_pos hraop, if_pos hraop, if_pos hraop]
      dsimp only
      apply configured_ledger
      exact enterSession_ledger io opens p p.ptp session rfl id
    · obtain ⟨hptp, hafter⟩ := ptpSyncOpen_ledger opens.ptp htidy
        (p.buffered.held + p.decodersHeld)
      rw [if_neg hraop, if_neg hraop, if_neg hraop]
      have hsockets : (io.withOpens opens).ptpSockets = opens.ptp.sockets := rfl
      rw [hsockets]
      generalize ptpSyncOpen p.ptp opens.ptp.sockets = opened at hptp hafter ⊢
      dsimp only
      by_cases hfails : opened.2 = false
      · rw [if_pos hfails, if_pos hfails, List.append_nil]
        refine ⟨?_, fun _ => hafter⟩
        have hbefore : ∀ clock : PtpSync, AudioPipeline.held { p with ptp := clock } =
            ptpHeld clock + (p.buffered.held + p.decodersHeld) := by
          intro clock
          rw [AudioPipeline.held]
          dsimp only
          rw [Multiset.add_comm p.buffered.held, Multiset.add_assoc]
          rfl
        rw [hbefore opened.1, ← hptp]
        exact congrArg (replay · _) (hbefore p.ptp)
      · rw [if_neg hfails, if_neg hfails]
        apply configured_ledger
        exact enterSession_ledger io opens p opened.1 session hptp fun _ => hafter

/-! ## From creation to close -/

/-- A pipeline that was created holds the listener of the buffered connection. -/
theorem create_held (listener : NetSocket) :
    (audioPipelineCreate listener).held = listener.held ∧
      PtpTidy (audioPipelineCreate listener).ptp := by
  refine ⟨?_, fun _ => ⟨rfl, rfl⟩⟩
  have hempty : (audioPipelineCreate listener).held =
      (0 + listener.held) + (0 + 0) + (0 + 0) := rfl
  rw [hempty]
  abel

/-- **A pipeline that cannot be created** keeps nothing. -/
theorem audioPipelineCreate_ledger (io : RtpBinds) (listener : Option NetSocket)
    (frame : Multiset Resource) :
    replay frame (audioPipelineCreateCalls io listener) =
      some (if (rtpReceiverSockets io).2 then
        match listener with
        | none => frame
        | some listener => listener.held + (rtpHeld (rtpReceiverSockets io).1 + frame)
      else frame) := by
  have hreceiver := rtpReceiverCreate_ledger io frame
  rw [audioPipelineCreateCalls.eq_def]
  dsimp only
  cases hbound : (rtpReceiverSockets io).2 with
  | false =>
      rw [hbound] at hreceiver
      rw [if_pos rfl, List.append_nil]
      exact hreceiver
  | true =>
      rw [hbound] at hreceiver
      rw [if_neg Bool.noConfusion]
      apply replay_trans hreceiver
      cases listener with
      | none => exact replay_netCloses _ frame
      | some listener => exact replay_netOpened listener _

/-- **Closing the pipeline** gives back all that it holds. -/
theorem audioPipelineClose_ledger (rtp : List NetSocket) (p : AudioPipeline)
    (frame : Multiset Resource) :
    replay (rtpHeld rtp + (p.held + frame)) (audioPipelineCloseCalls rtp p) = some frame := by
  have hreceiver := replay_netCloses rtp (p.held + frame)
  have hbuffered : replay (p.buffered.held + (ptpHeld p.ptp + (p.decodersHeld + frame)))
      (bufferedAudioCloseCalls p.buffered) = some (ptpHeld p.ptp + (p.decodersHeld + frame)) := by
    rw [BufferedAudio.held, Multiset.add_assoc]
    exact replay_trans (replay_netClose _ _) (replay_netClose _ _)
  have hclock := replay_ptpSyncClose p.ptp.sockets (p.decodersHeld + frame)
  have hdecoders := replay_decodersClose p frame
  have hheld : p.held + frame = p.buffered.held + (ptpHeld p.ptp + (p.decodersHeld + frame)) := by
    rw [AudioPipeline.held]
    abel
  rw [hheld] at hreceiver
  rw [hheld, audioPipelineCloseCalls, List.append_assoc _ (alacDecoderCloseCalls _)]
  exact replay_trans (replay_trans (replay_trans hreceiver hbuffered) hclock) hdecoders

end PortableAirplay.Audio
