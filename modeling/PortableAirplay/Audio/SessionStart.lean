import PortableAirplay.Audio.SamePlayback

/-!
# Starting a session

What `audio_pipeline_stop`, `audio_pipeline_configure` and `audio_pipeline_start` leave
of the session before. Two pipelines with the same transport play alike once the same
session was started on both (`restarted_samePlayback`), as far as each kept the books
that `Sane` names: the decoder pool, the clock that is not selected, the listener.
-/

set_option autoImplicit false

namespace PortableAirplay.Audio

open PortableAirplay.Airplay
open PortableAirplay.Library
open PortableAirplay.Platform
open PortableAirplay.Protocol
open PortableAirplay.Sync

/-! ## The clock that is not selected -/

/-- A clock that is not selected has nothing pending and is not ready. -/
def IdleAtZero (p : PtpSync) : Prop := p.clockId = 0 → p.pending = false ∧ p.ready = false

theorem ptpSyncInit_idleAtZero : IdleAtZero ptpSyncInit := fun _ => ⟨rfl, rfl⟩

theorem IdleAtZero.setClock {p : PtpSync} (h : IdleAtZero p) (clockId : UInt64) :
    IdleAtZero (ptpSyncSetClock p clockId) := by
  rw [ptpSyncSetClock]
  split
  · exact fun _ => ⟨rfl, rfl⟩
  · exact h

theorem IdleAtZero.packet {p : PtpSync} (h : IdleAtZero p) (data : List UInt8) (now : UInt64) :
    IdleAtZero (ptpSyncPacket p data now).1 := by
  have heffect := ptpSyncPacket_effect p data now
  generalize ptpSyncPacket p data now = r at heffect ⊢
  cases heffect with
  | idle r hr hrecords => exact h
  | recorded r hr hrecords => exact fun hzero => absurd hzero hrecords.1.2.2.1
  | oneStep offset hrecords hflag => exact fun hzero => absurd hzero hrecords.1.2.2.1
  | followed offset hfollows => exact fun hzero => absurd hzero hfollows.selected.2.2.1

theorem IdleAtZero.opening {p : PtpSync} (h : IdleAtZero p)
    (sockets : Option (NetSocket × NetSocket)) : IdleAtZero (ptpSyncOpen p sockets).1 := by
  unfold ptpSyncOpen
  split
  · exact h
  · cases sockets with
    | none => exact ptpSyncInit_idleAtZero
    | some sockets => exact h

/-- Selecting no clock leaves nothing. -/
theorem IdleAtZero.setClock_zero {p : PtpSync} (h : IdleAtZero p) :
    (ptpSyncSetClock p 0).clockId = 0 ∧ (ptpSyncSetClock p 0).pending = false ∧
      (ptpSyncSetClock p 0).ready = false := by
  rw [ptpSyncSetClock]
  split
  · exact ⟨rfl, rfl, rfl⟩
  · rename_i hzero
    rw [not_not] at hzero
    exact ⟨hzero, h hzero⟩

theorem IdleAtZero.samePtp {p q : PtpSync} (hp : IdleAtZero p) (hq : IdleAtZero q) :
    SamePtp (ptpSyncSetClock p 0) (ptpSyncSetClock q 0) := by
  obtain ⟨hclock, hpending, hready⟩ := hp.setClock_zero
  obtain ⟨hclock', hpending', hready'⟩ := hq.setClock_zero
  refine ⟨hclock.trans hclock'.symm, hpending.trans hpending'.symm, hready.trans hready'.symm,
    fun h => ?_, fun h => ?_⟩
  · rw [hpending] at h
    exact absurd h Bool.false_ne_true
  · rw [hready] at h
    exact absurd h Bool.false_ne_true

theorem ptpSyncOpen_opened {p : PtpSync} {sockets : Option (NetSocket × NetSocket)}
    (h : (ptpSyncOpen p sockets).2 = true) : (ptpSyncOpen p sockets).1.opened = true := by
  unfold ptpSyncOpen at h ⊢
  split
  · assumption
  · rename_i hclosed
    rw [if_neg hclosed] at h
    cases sockets with
    | none => exact absurd h Bool.false_ne_true
    | some sockets => rfl

/-- The PTP clock while a session is configured. -/
def sessionPtp (io : ConfigureIo) (p : AudioPipeline) (session : SdpSession) : PtpSync × Bool :=
  if session.streamType = 0 then (p.ptp, true) else ptpSyncOpen p.ptp io.ptpSockets

theorem IdleAtZero.session {io : ConfigureIo} {p : AudioPipeline} (h : IdleAtZero p.ptp)
    (session : SdpSession) : IdleAtZero (sessionPtp io p session).1 := by
  rw [sessionPtp]
  split
  · exact h
  · exact h.opening io.ptpSockets

/-! ## Configuring -/

section Configuring

variable {p q : AudioPipeline}

/-- Opening a decoder depends on the setting, and changes it only. -/
theorem openDecoder_setting (h : p.setting = q.setting) (io : ConfigureIo)
    (session : SdpSession) :
    (p.openDecoder io session).1.setting = (q.openDecoder io session).1.setting ∧
      ∃ alac used aac, (p.openDecoder io session).1 =
        { p with alacDecoder := alac, alacUsed := used, aacDecoder := aac } := by
  have hcodec : p.session.codec = q.session.codec :=
    congrArg (fun s : PipelineSetting => s.session.codec) h
  have hused : p.alacUsed = q.alacUsed := congrArg PipelineSetting.alacUsed h
  rw [AudioPipeline.openDecoder, AudioPipeline.openDecoder, ← hcodec]
  cases p.session.codec with
  | unknown => exact ⟨h, p.alacDecoder, p.alacUsed, p.aacDecoder, rfl⟩
  | pcm => exact ⟨h, p.alacDecoder, p.alacUsed, p.aacDecoder, rfl⟩
  | aac =>
      refine ⟨?_, p.alacDecoder, p.alacUsed, _, rfl⟩
      exact congrArg (fun s : PipelineSetting => { s with aacDecoder :=
        (aacDecoderInit io.aacOpens session.channels.toUInt8 session.sampleRate).1 }) h
  | alac =>
      refine ⟨?_, _, _, p.aacDecoder, rfl⟩
      have hnext := congrArg (fun s : PipelineSetting =>
        let r := alacDecoderInit s.alacUsed (session.alacFmtp.take session.alacFmtpCount)
          session.framesPerPacket session.bitsPerSample.toUInt8 session.channels.toUInt8
          session.sampleRate
        ({ s with alacDecoder := r.1, alacUsed := r.2.1 } : PipelineSetting)) h
      exact hnext

/-- Opening the cipher changes the key only, in the same way on both. -/
theorem openCipher_setting (h : p.setting = q.setting) (io : ConfigureIo)
    (session : SdpSession) :
    (p.openCipher io session).1.setting = (q.openCipher io session).1.setting ∧
      ∃ aes, (p.openCipher io session).1 = { p with aesContext := aes } := by
  rw [AudioPipeline.openCipher, AudioPipeline.openCipher]
  split
  · exact ⟨h, p.aesContext, rfl⟩
  · cases unwrapAesKey io session with
    | none => exact ⟨h, p.aesContext, rfl⟩
    | some key =>
        exact ⟨congrArg (fun s : PipelineSetting =>
          { s with aesContext := ⟨key, session.aesIv⟩ }) h, _, rfl⟩

/-- The pipeline after the steps of configuring, where none of them fails. -/
def AudioPipeline.openSession (p : AudioPipeline) (io : ConfigureIo) (session : SdpSession) :
    AudioPipeline :=
  (((p.enter (sessionPtp io p session).1 session).openDecoder io session).1.openCipher io session).1

theorem audioPipelineConfigure_of_ok {io : ConfigureIo} {session : SdpSession}
    (h : (audioPipelineConfigure io p session).2 = true) :
    (sessionPtp io p session).2 = true ∧
      (audioPipelineConfigure io p session).1 =
        { p.openSession io session with configured := true, state := .ready } := by
  have hptp : (if session.streamType = 0 then (p.ptp, true)
      else ptpSyncOpen p.ptp io.ptpSockets) = sessionPtp io p session := rfl
  rw [audioPipelineConfigure] at h ⊢
  dsimp only at h ⊢
  rw [hptp] at h ⊢
  split at h
  · exact absurd h Bool.false_ne_true
  · rename_i haccepts
    rw [if_neg haccepts]
    split at h
    · exact absurd h Bool.false_ne_true
    · rename_i hopened
      rw [if_neg hopened]
      rw [Bool.not_eq_false] at hopened
      split at h
      · rename_i hdecoder
        exact absurd (hdecoder.symm.trans h) Bool.false_ne_true
      · rename_i hdecoder
        rw [if_neg hdecoder]
        split at h
        · rename_i hcipher
          exact absurd (hcipher.symm.trans h) Bool.false_ne_true
        · rename_i hcipher
          rw [if_neg hcipher]
          exact ⟨hopened, rfl⟩

/-- What a session finds in place after it was opened. -/
theorem openSession_fields (p : AudioPipeline) (io : ConfigureIo) (session : SdpSession) :
    ∃ alac used aac aes, p.openSession io session =
      { p.enter (sessionPtp io p session).1 session with
        alacDecoder := alac
        alacUsed := used
        aacDecoder := aac
        aesContext := aes } := by
  obtain ⟨-, alac, used, aac, hdecoder⟩ :=
    openDecoder_setting (p := p.enter (sessionPtp io p session).1 session) rfl io session
  obtain ⟨-, aes, hcipher⟩ := openCipher_setting
    (p := ((p.enter (sessionPtp io p session).1 session).openDecoder io session).1) rfl io session
  refine ⟨alac, used, aac, aes, ?_⟩
  rw [AudioPipeline.openSession, hcipher, hdecoder]

theorem openSession_setting (hp : p.PoolOwned) (hq : q.PoolOwned) (io : ConfigureIo)
    (session : SdpSession) :
    (p.openSession io session).setting = (q.openSession io session).setting := by
  have henter : (p.enter (sessionPtp io p session).1 session).setting =
      (q.enter (sessionPtp io q session).1 session).setting := by
    have hused := hp.enter_used (sessionPtp io p session).1 session
    have hused' := hq.enter_used (sessionPtp io q session).1 session
    rw [AudioPipeline.setting, AudioPipeline.setting, hused, hused']
    rfl
  exact (openCipher_setting (openDecoder_setting henter io session).1 io session).1

/-- The pipeline after its owner stopped it, configured it and started it. -/
def restarted (io : ConfigureIo) (p : AudioPipeline) (session : SdpSession) : AudioPipeline :=
  (audioPipelineStart (audioPipelineConfigure io (audioPipelineStop p) session).1).1

/-- **A session that starts finds no trace of the one before**, beyond the transport. -/
theorem restarted_samePlayback (h : SameTransport p q) (hp : p.PoolOwned) (hq : q.PoolOwned)
    (hpclock : IdleAtZero p.ptp) (hqclock : IdleAtZero q.ptp) (io : ConfigureIo)
    (session : SdpSession)
    (hok : (audioPipelineConfigure io (audioPipelineStop p) session).2 = true)
    (hok' : (audioPipelineConfigure io (audioPipelineStop q) session).2 = true) :
    SamePlayback (restarted io p session) (restarted io q session) ∧
      SamePtp (restarted io p session).ptp (restarted io q session).ptp := by
  obtain ⟨hopened, hconfigured⟩ := audioPipelineConfigure_of_ok hok
  obtain ⟨hopened', hconfigured'⟩ := audioPipelineConfigure_of_ok hok'
  have hsetting := openSession_setting (p := audioPipelineStop p) (q := audioPipelineStop q)
    hp hq io session
  obtain ⟨alac, used, aac, aes, hfields⟩ := openSession_fields (audioPipelineStop p) io session
  obtain ⟨alac', used', aac', aes', hfields'⟩ := openSession_fields (audioPipelineStop q) io session
  have hptp : SamePtp (ptpSyncSetClock (sessionPtp io (audioPipelineStop p) session).1 0)
      (ptpSyncSetClock (sessionPtp io (audioPipelineStop q) session).1 0) :=
    (IdleAtZero.session (p := audioPipelineStop p) hpclock session).samePtp
      (IdleAtZero.session (p := audioPipelineStop q) hqclock session)
  have hestimate : SameEstimate { p.ntpSync with anchorValid := false }
      { q.ntpSync with anchorValid := false } := by
    have hsame : p.ntpSync = withAnchor q.ntpSync p.ntpSync := h.estimate
    exact congrArg (fun sync : NtpSync => ({ sync with anchorValid := false } : NtpSync)) hsame
  -- starting adds the same two fields to both
  have hplaying := congrArg (fun s : PipelineSetting =>
    ({ s with configured := true, state := .playing } : PipelineSetting)) hsetting
  rw [restarted, restarted, hconfigured, hconfigured', audioPipelineStart, audioPipelineStart,
    if_neg (by simp), if_neg (by simp)]
  rw [hfields] at hplaying ⊢
  rw [hfields'] at hplaying ⊢
  refine ⟨⟨hplaying, h.peer, hestimate, ?_, h.buffered, sameQueue_reset _ _, rfl, ?_, rfl, ?_, rfl,
    ?_⟩, hptp⟩
  · exact ⟨rfl, fun hvalid => absurd hvalid Bool.false_ne_true⟩
  · rintro (harrived | ⟨i, hvalid⟩)
    · exact absurd rfl harrived
    · exact absurd hvalid Bool.false_ne_true
  · intro htype
    have htype : ¬ session.streamType = 0 := htype
    refine ⟨hptp, ?_⟩
    show (ptpSyncSetClock _ 0).opened = (ptpSyncSetClock _ 0).opened
    rw [ptpSyncSetClock_opened, ptpSyncSetClock_opened]
    rw [sessionPtp, if_neg htype] at hopened hopened' ⊢
    rw [sessionPtp, if_neg htype]
    rw [ptpSyncOpen_opened hopened, ptpSyncOpen_opened hopened']
  · exact fun hreceived => absurd rfl hreceived

end Configuring

/-! ## The books of a pipeline -/

/-- What every operation of the owner and every turn keeps. -/
structure Sane (listener : NetSocket) (p : AudioPipeline) : Prop where
  pool : p.PoolOwned
  clock : IdleAtZero p.ptp
  listener : p.buffered.listener = listener
  initialized : p.ntpSyncInitialized = true

theorem create_sane (listener : NetSocket) : Sane listener (audioPipelineCreate listener) :=
  ⟨create_poolOwned listener, ptpSyncInit_idleAtZero, rfl, rfl⟩

theorem receiveRecord_listener (io : BufferedIo) (b : BufferedAudio) :
    (receiveRecord io b).audio.listener = b.listener := by
  have hpoll := receiveRecord_poll io b
  generalize receiveRecord io b = r at hpoll
  cases hpoll with
  | waiting data received => rfl
  | dropped received => rfl
  | consumed data received =>
      rw [deliverRecord]
      split
      · rfl
      · rfl

/-- A poll of the connection keeps the listener. -/
theorem bufferedAudioPoll_listener (io : BufferedIo) (b : BufferedAudio) (ip : CString) :
    (bufferedAudioPoll io b ip).audio.listener = b.listener := by
  rw [bufferedAudioPoll]
  split
  · exact receiveRecord_listener io b
  · cases io.accept with
    | timeout => rfl
    | error => rfl
    | accepted handle peer =>
        dsimp only
        split
        · rfl
        · exact receiveRecord_listener io _

section Books

variable {listener : NetSocket} {p : AudioPipeline}

theorem Sane.arrival {after : AudioPipeline} (h : Sane listener p) (harrival : Arrival p after)
    (hclock : IdleAtZero after.ptp)
    (hinitialized : after.ntpSyncInitialized = p.ntpSyncInitialized) : Sane listener after where
  pool := by
    rw [AudioPipeline.PoolOwned, harrival.setting.alacUsed, harrival.setting.alacDecoder]
    exact h.pool
  clock := hclock
  listener := by
    rw [harrival.buffered]
    exact h.listener
  initialized := hinitialized.trans h.initialized

/-- A packet leaves the clocks alone. -/
theorem decryptPacket_clocks (aead : Aead) (p : AudioPipeline) (packet : RtpPacket) :
    (p.decryptPacket aead packet).1.ptp = p.ptp ∧
      (p.decryptPacket aead packet).1.ntpSyncInitialized = p.ntpSyncInitialized := by
  obtain ⟨errors, hdecrypt⟩ := decryptPacket_eq aead p packet
  rw [hdecrypt]
  exact ⟨rfl, rfl⟩

theorem onRtpAudio_clocks (aead : Aead) (p : AudioPipeline) (packet : RtpPacket) (now : UInt64) :
    (audioPipelineOnRtpAudio aead p packet now).ptp = p.ptp ∧
      (audioPipelineOnRtpAudio aead p packet now).ntpSyncInitialized = p.ntpSyncInitialized := by
  rw [audioPipelineOnRtpAudio]
  split
  · exact ⟨rfl, rfl⟩
  · have hdecrypt := decryptPacket_clocks aead p packet
    generalize p.decryptPacket aead packet = r at hdecrypt ⊢
    obtain ⟨after, decoded⟩ := r
    cases decoded with
    | none => exact hdecrypt
    | some decoded => exact hdecrypt

theorem Sane.onRtpAudio (aead : Aead) (h : Sane listener p) (packet : RtpPacket) (now : UInt64) :
    Sane listener (audioPipelineOnRtpAudio aead p packet now) := by
  obtain ⟨hptp, hinitialized⟩ := onRtpAudio_clocks aead p packet now
  refine h.arrival (onRtpAudio_arrival aead p packet now) ?_ hinitialized
  rw [hptp]
  exact h.clock

theorem Sane.onRtpControl (h : Sane listener p) (data : List UInt8) :
    Sane listener (audioPipelineOnRtpControl p data) := by
  have hclocks : IdleAtZero (audioPipelineOnRtpControl p data).ptp ∧
      (audioPipelineOnRtpControl p data).ntpSyncInitialized = p.ntpSyncInitialized := by
    rw [audioPipelineOnRtpControl]
    split
    · split
      · exact ⟨h.clock, rfl⟩
      · exact ⟨h.clock.setClock _, rfl⟩
    · exact ⟨h.clock, rfl⟩
  exact h.arrival (onRtpControl_arrival p data) hclocks.1 hclocks.2

theorem Sane.onRtpTiming (h : Sane listener p) (d : Datagram) :
    Sane listener (audioPipelineOnRtpTiming p d) := by
  obtain ⟨sync, htiming⟩ := audioPipelineOnRtpTiming_eq p d
  rw [htiming]
  exact ⟨h.pool, h.clock, h.listener, h.initialized⟩

theorem pipelineCallbacks_sane (aead : Aead) (listener : NetSocket) :
    (pipelineCallbacks aead).Keeps (Sane listener) where
  audio _ packet now h := h.onRtpAudio aead packet now
  control _ data h := h.onRtpControl data
  timing _ d h := h.onRtpTiming d

theorem ptpSyncPoll_idleAtZero {p : PtpSync} (h : IdleAtZero p)
    (io : List UdpOffer × List UdpOffer) : IdleAtZero (ptpSyncPoll p io).1 := by
  have hstep : ∀ (p : PtpSync) (d : Datagram), IdleAtZero p →
      IdleAtZero (ptpSyncPacket p d.data d.now).1 := fun p d h => h.packet d.data d.now
  have hevent := udpBatch_invariant IdleAtZero hstep 512 8 io.1 p h
  rw [ptpSyncPoll]
  dsimp only
  split
  · exact h
  · split
    · exact hevent
    · exact udpBatch_invariant IdleAtZero hstep 512 8 io.2 _ hevent

theorem Sane.pollInputs (aead : Aead) (h : Sane listener p) (io : InputsIo) :
    Sane listener (pipelinePollInputs aead io p).1 := by
  have hrequest : Sane listener (p.requestTiming io.now) := by
    rw [AudioPipeline.requestTiming]
    split
    · exact ⟨h.pool, h.clock, h.listener, h.initialized⟩
    · exact h
  have hreceived := rtpReceiverPoll_invariant (pipelineCallbacks_sane aead listener)
    (p.requestTiming io.now).peerIp io.receiver hrequest
  rw [pipelinePollInputs]
  dsimp only
  split
  · exact hreceived
  · exact ⟨hreceived.pool, ptpSyncPoll_idleAtZero hreceived.clock io.ptp, hreceived.listener,
      hreceived.initialized⟩

theorem Sane.pollRecord (aead : Aead) (h : Sane listener p) (io : RecordIo) :
    Sane listener (pipelinePollRecord aead io p).1 := by
  have hnext : Sane listener
      { p with buffered := (bufferedAudioPoll io.buffered p.buffered p.timingPeer.ip).audio } :=
    ⟨h.pool, h.clock, (bufferedAudioPoll_listener _ _ _).trans h.listener, h.initialized⟩
  rw [pipelinePollRecord]
  split
  · exact hnext
  · exact hnext.onRtpAudio aead _ _

theorem decodePacket_clocks (p : AudioPipeline) (packet : RtpPacket) (decoded : DecodeOutcome)
    (scaled : Int16 → Int16) :
    (audioPipelineDecodePacket p packet decoded scaled).1.ptp = p.ptp ∧
      (audioPipelineDecodePacket p packet decoded scaled).1.ntpSyncInitialized =
        p.ntpSyncInitialized := by
  rw [audioPipelineDecodePacket]
  split
  · exact ⟨rfl, rfl⟩
  · dsimp only
    split
    · split
      · exact ⟨rfl, rfl⟩
      · exact ⟨rfl, rfl⟩
    · exact ⟨rfl, rfl⟩
    · exact ⟨rfl, rfl⟩

/-- **Every turn keeps the books.** -/
theorem Sane.turn (aead : Aead) (h : Sane listener p) (io : TurnIo) (phase : PollPhase) :
    Sane listener (pollTurn aead io p phase).pipeline := by
  cases phase with
  | inputs =>
      show Sane listener (inputsTurn aead io.inputs p).pipeline
      rw [inputsTurn_pipeline]
      split
      · exact h.pollInputs aead io.inputs
      · exact h
  | receiving i limit =>
      show Sane listener (receiveTurn aead io.record p i limit).pipeline
      rw [receiveTurn_pipeline]
      split
      · exact h.pollRecord aead io.record
      · exact h
  | playing batch =>
      show Sane listener (playTurn io.play p batch).pipeline
      rw [playTurn]
      split
      · cases playVerdict p io.play with
        | wait => exact h
        | fail => exact h
        | late slot => exact ⟨h.pool, h.clock, h.listener, h.initialized⟩
        | submit slot =>
            -- decoding changes counters only
            obtain ⟨hsetting, -, hbuffered⟩ :=
              decodePacket_setting p (p.playout.packets slot).packet io.play.decoded io.play.scaled
            obtain ⟨hptp, hinitialized⟩ :=
              decodePacket_clocks p (p.playout.packets slot).packet io.play.decoded io.play.scaled
            refine ⟨?_, ?_, ?_, hinitialized.trans h.initialized⟩
            · rw [AudioPipeline.PoolOwned]
              show (audioPipelineDecodePacket p _ _ _).1.alacUsed =
                if (audioPipelineDecodePacket p _ _ _).1.alacDecoder.impl then 1 else 0
              rw [hsetting.alacUsed, hsetting.alacDecoder]
              exact h.pool
            · show IdleAtZero (audioPipelineDecodePacket p _ _ _).1.ptp
              rw [hptp]
              exact h.clock
            · show (audioPipelineDecodePacket p _ _ _).1.buffered.listener = listener
              rw [hbuffered]
              exact h.listener
      · exact h
  | done ok => exact h

theorem Sane.configure (h : Sane listener p) (io : ConfigureIo) (session : SdpSession) :
    Sane listener (audioPipelineConfigure io p session).1 := by
  have hptp : (if session.streamType = 0 then (p.ptp, true)
      else ptpSyncOpen p.ptp io.ptpSockets) = sessionPtp io p session := rfl
  have hclock : IdleAtZero (sessionPtp io p session).1 := h.clock.session session
  obtain ⟨-, alac, used, aac, hdecoder⟩ :=
    openDecoder_setting (p := p.enter (sessionPtp io p session).1 session) rfl io session
  obtain ⟨-, aes, hcipher⟩ := openCipher_setting
    (p := ((p.enter (sessionPtp io p session).1 session).openDecoder io session).1) rfl io session
  have hsteps : IdleAtZero (audioPipelineConfigure io p session).1.ptp ∧
      (audioPipelineConfigure io p session).1.buffered = p.buffered ∧
      (audioPipelineConfigure io p session).1.ntpSyncInitialized = p.ntpSyncInitialized := by
    rw [audioPipelineConfigure]
    dsimp only
    rw [hptp]
    split
    · exact ⟨h.clock, rfl, rfl⟩
    · split
      · exact ⟨hclock, rfl, rfl⟩
      · split
        · rw [hdecoder]
          exact ⟨hclock.setClock 0, rfl, rfl⟩
        · split
          · rw [hcipher, hdecoder]
            exact ⟨hclock.setClock 0, rfl, rfl⟩
          · rw [hcipher, hdecoder]
            exact ⟨hclock.setClock 0, rfl, rfl⟩
  refine ⟨audioPipelineConfigure_poolOwned io h.pool session, hsteps.1, ?_,
    hsteps.2.2.trans h.initialized⟩
  rw [hsteps.2.1]
  exact h.listener

theorem Sane.start (h : Sane listener p) : Sane listener (audioPipelineStart p).1 := by
  rw [audioPipelineStart]
  split
  · exact h
  · exact ⟨h.pool, h.clock, h.listener, h.initialized⟩

theorem Sane.stop (h : Sane listener p) : Sane listener (audioPipelineStop p) :=
  ⟨h.pool, h.clock, h.listener, h.initialized⟩

theorem Sane.setVolume (h : Sane listener p) (volumeDb : UInt32) :
    Sane listener (audioPipelineSetVolume p volumeDb) := by
  obtain ⟨volume, hset⟩ := audioPipelineSetVolume_eq p volumeDb
  rw [hset]
  exact ⟨h.pool, h.clock, h.listener, h.initialized⟩

theorem Sane.setTransport (h : Sane listener p) (peer : NetAddr) :
    Sane listener (audioPipelineSetTransport p peer) :=
  ⟨h.pool, h.clock, h.listener, h.initialized⟩

end Books

/-! ## Calls of the owner on two pipelines -/

section Owner

variable {p q : AudioPipeline}

theorem SamePlayback.setVolume (h : SamePlayback p q) (volumeDb : UInt32) :
    SamePlayback (audioPipelineSetVolume p volumeDb) (audioPipelineSetVolume q volumeDb) := by
  rw [audioPipelineSetVolume, audioPipelineSetVolume]
  split
  · exact ⟨h.setting, h.peer, h.estimate, h.ntpAnchor, h.buffered, h.queue, h.firstArrivalUs,
      h.firstTimestamp, h.anchor, h.ptp, h.counters, h.lastSequence⟩
  · exact h

theorem audioPipelineSetVolume_ptp (p : AudioPipeline) (volumeDb : UInt32) :
    (audioPipelineSetVolume p volumeDb).ptp = p.ptp := by
  obtain ⟨volume, hset⟩ := audioPipelineSetVolume_eq p volumeDb
  rw [hset]

theorem SamePlayback.setStart (h : SamePlayback p q) (timestamp : UInt32) (exclusive : Bool) :
    SamePlayback (audioPipelineSetStart p timestamp exclusive)
      (audioPipelineSetStart q timestamp exclusive) where
  setting := h.setting
  peer := h.peer
  estimate := h.estimate
  ntpAnchor := h.ntpAnchor
  buffered := h.buffered
  queue := sameQueue_setFloor _ _ timestamp exclusive
  firstArrivalUs := rfl
  firstTimestamp := by
    rintro (harrived | ⟨i, hvalid⟩)
    · exact absurd rfl harrived
    · exact absurd hvalid Bool.false_ne_true
  anchor := h.anchor
  ptp := h.ptp
  counters := h.counters
  lastSequence := h.lastSequence

theorem SamePlayback.seek (h : SamePlayback p q) (sequence : UInt32) :
    SamePlayback { p with buffered := bufferedAudioFlush p.buffered sequence }
      { q with buffered := bufferedAudioFlush q.buffered sequence } :=
  { h with buffered := h.buffered.flush sequence }

theorem SamePlayback.selectAnchor (h : SamePlayback p q) (a : AirplayAnchor) :
    SamePlayback { p with anchor := a, ptp := ptpSyncSetClock p.ptp a.clockId }
      { q with anchor := a, ptp := ptpSyncSetClock q.ptp a.clockId } := by
  refine { h with anchor := rfl, ptp := fun htype => ?_ }
  obtain ⟨hsame, hopened⟩ := h.ptp htype
  refine ⟨hsame.setClock a.clockId, ?_⟩
  show (ptpSyncSetClock p.ptp a.clockId).opened = (ptpSyncSetClock q.ptp a.clockId).opened
  rw [ptpSyncSetClock_opened, ptpSyncSetClock_opened]
  exact hopened

theorem SamePlayback.setTransport (h : SamePlayback p q) (peer : NetAddr) :
    SamePlayback (audioPipelineSetTransport p peer) (audioPipelineSetTransport q peer) := by
  have hpeer : (peer, peer.ip, p.ntpSyncInitialized) = (peer, peer.ip, q.ntpSyncInitialized) := by
    rw [h.transport.initialized]
  exact { h with
    peer := hpeer
    estimate := rfl
    ntpAnchor := ⟨rfl, fun _ => ⟨rfl, rfl, rfl⟩⟩
    buffered := h.buffered.disconnect }

/-- The transport of a new generation, whatever there was before. -/
theorem setTransport_same {listener : NetSocket} (hp : Sane listener p) (hq : Sane listener q)
    (peer : NetAddr) :
    SameTransport (audioPipelineSetTransport p peer) (audioPipelineSetTransport q peer) where
  peer := by
    show (peer, peer.ip, p.ntpSyncInitialized) = (peer, peer.ip, q.ntpSyncInitialized)
    rw [hp.initialized, hq.initialized]
  estimate := rfl
  buffered := ⟨hp.listener.trans hq.listener.symm, rfl, rfl, rfl,
    fun hdiscarding => absurd hdiscarding Bool.false_ne_true⟩

theorem BothWait.setTransport (h : BothWait p q) (peer : NetAddr) :
    BothWait (audioPipelineSetTransport p peer) (audioPipelineSetTransport q peer) where
  transport := by
    have hpeer : (peer, peer.ip, p.ntpSyncInitialized) =
        (peer, peer.ip, q.ntpSyncInitialized) := by
      rw [h.transport.initialized]
    exact ⟨hpeer, rfl, h.transport.buffered.disconnect⟩
  idle := h.idle
  idle' := h.idle'

/-- Stopping changes nothing of the transport. -/
theorem audioPipelineStop_transport (p : AudioPipeline) :
    SameTransport (audioPipelineStop p) p ∧ SameTransport p (audioPipelineStop p) :=
  ⟨⟨rfl, rfl, SameBuffered.refl _⟩, rfl, rfl, SameBuffered.refl _⟩

end Owner

end PortableAirplay.Audio
