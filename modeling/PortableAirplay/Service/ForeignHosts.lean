import PortableAirplay.Service.WhileRecording

/-!
# Datagrams of other hosts

Anybody may send to the three RTP sockets. An iteration of the audio thread gives the pipeline
the address of the stream's owner (`OwnerPeer`), and from then on the datagrams of other hosts
do not matter: the run is the same with any others at their places (`foreign_hosts_ignored`). Only
their size does: a datagram that is too large for the receive buffer is dropped before anybody
looks at its sender, and ends the batch.

The generation of the stream state is a counter of 32 bits, so the threads must not be `2 ^ 32`
steps of the control plane apart. Without a SETUP the owner's address is not known to the
pipeline, and every host is heard.
-/

set_option autoImplicit false

namespace PortableAirplay.Service

open PortableAirplay.Airplay
open PortableAirplay.Audio
open PortableAirplay.Library
open PortableAirplay.Platform
open PortableAirplay.Protocol
open PortableAirplay.Sync

/-! ## The owner's host -/

/-- The host of the client that owns the stream, once its transport is set up. -/
def ownerHost (c : ControlState) : Option CString :=
  match c.server.streamOwner with
  | none => none
  | some i =>
      if c.server.stream.timingPeer.ip = [] then none else some (c.server.clients i).peer.ip

/-- The transport of the stream, once it is set up, is that of its owner. -/
structure OwnerPeer (c : ControlState) : Prop where
  owned : Owned c
  peer : ∀ i, c.server.streamOwner = some i → c.server.stream.timingPeer.ip ≠ [] →
    c.server.stream.timingPeer.ip = (c.server.clients i).peer.ip

theorem initial_ownerPeer (listener : NetSocket) (localIp localMacHex deviceName : CString) :
    OwnerPeer (ControlState.initial listener localIp localMacHex deviceName) where
  owned := initial_owned listener localIp localMacHex deviceName
  peer i h := by
    have hnone : (none : Option Protocol.Slot) = some i := h
    contradiction

/-- A request gives the stream the address of the client that asks, or none. -/
theorem streamStep_ownerPeer {s : RtspServer} {i : Protocol.Slot} {request : RtspRequest}
    {stream : StreamState} {owner : Option Protocol.Slot} (h : StreamStep s i request stream owner)
    (hpeer : ∀ j, s.streamOwner = some j → s.stream.timingPeer.ip ≠ [] →
      s.stream.timingPeer.ip = (s.clients j).peer.ip) :
    ∀ j, owner = some j → stream.timingPeer.ip ≠ [] →
      stream.timingPeer.ip = (s.clients j).peer.ip := by
  cases h with
  | same => exact hpeer
  | announce parsed hmethod hparse hcodec => exact fun j _ hset => absurd rfl hset
  | setup q key hmethod hbody hencrypted hsupported =>
      intro j hj _
      rw [← Option.some.inj hj]
      rfl
  | timing port hmethod hbody howner =>
      intro j hj _
      rw [← Option.some.inj (howner.symm.trans hj)]
  | volume level => exact hpeer
  | flush rtptime howner => exact hpeer
  | record rtptime hmethod htime howner hsession =>
      cases rtptime with
      | none => exact hpeer
      | some timestamp => exact hpeer
  | pause howner => exact hpeer
  | release hmethod howner => exact fun j hj => absurd hj (Option.some_ne_none j).symm
  | anchor a hencrypted howner =>
      rw [anchorStream]
      split
      · exact hpeer
      · exact hpeer
  | bufferedFlush sequence hencrypted howner => exact hpeer

section Control

variable {prim : Primitives} {c : ControlState}

theorem OwnerPeer.accept (h : OwnerPeer c) (handle : ℕ) (peer : NetAddr) :
    OwnerPeer (controlStep prim c (.accept handle peer)) := by
  refine ⟨controlStep_owned prim _ h.owned, ?_⟩
  rw [controlStep]
  cases hfree : freeSlot c.server with
  | none => exact h.peer
  | some i =>
      intro j hj hset
      have hopen := (h.owned.owner j hj).1
      have hne : j ≠ i := by
        rintro rfl
        rw [freeSlot_closed hfree] at hopen
        contradiction
      dsimp only
      rw [installClient, setRx_clients, setClient_other _ _ _ _ hne]
      exact h.peer j hj hset

theorem OwnerPeer.close (h : OwnerPeer c) (i : Protocol.Slot) :
    OwnerPeer (controlStep prim c (.close i)) := by
  refine ⟨controlStep_owned prim _ h.owned, ?_⟩
  intro j hj hset
  dsimp only [controlStep] at hj hset ⊢
  by_cases howner : c.server.streamOwner = some i
  · have hnone : (closeClient c.server i).streamOwner = none := by
      rw [closeClient, releaseStream, if_pos howner]
      rfl
    rw [hnone] at hj
    contradiction
  · have hstream : (closeClient c.server i).stream = c.server.stream := by
      rw [closeClient_stream, releaseStream, if_neg howner]
    have hsame : (closeClient c.server i).streamOwner = c.server.streamOwner := by
      rw [closeClient, releaseStream, if_neg howner]
      rfl
    rw [hsame] at hj
    rw [hstream] at hset ⊢
    have hne : j ≠ i := by
      rintro rfl
      exact howner hj
    rw [(closeClient_other c.server hne).1]
    exact h.peer j hj hset

theorem OwnerPeer.request (h : OwnerPeer c) (i : Protocol.Slot) (request : RtspRequest)
    (io : RequestIo) : OwnerPeer (controlStep prim c (.request i request io)) := by
  refine ⟨controlStep_owned prim _ h.owned, ?_⟩
  rw [controlStep, requestStep]
  split
  · exact h.peer
  · have heffect := handleRequest_effect prim io c.server i request
    dsimp only
    generalize handleRequest prim io c.server i request = r at heffect ⊢
    intro j hj hset
    have hpeer : (r.server.clients j).peer = (c.server.clients j).peer := by
      by_cases hji : j = i
      · rw [hji]
        exact heffect.client.peer
      · rw [heffect.others j hji]
    rw [hpeer]
    exact streamStep_ownerPeer heffect.stream h.peer j hj hset

theorem OwnerPeer.receive (h : OwnerPeer c) (i : Protocol.Slot) (pairing : Pairing)
    (record : List UInt8) (eventClient : NetSocket) (rx : List UInt8) :
    OwnerPeer (controlStep prim c (.receive i pairing record eventClient rx)) := by
  refine ⟨controlStep_owned prim _ h.owned, ?_⟩
  intro j hj hset
  dsimp only [controlStep]
  rw [receiveStep, setRx_clients]
  by_cases hji : j = i
  · rw [hji, setClient_same]
    rw [hji] at hj
    exact h.peer i hj hset
  · rw [setClient_other _ _ _ _ hji]
    exact h.peer j hj hset

theorem controlStep_ownerPeer (prim : Primitives) (h : OwnerPeer c) (step : ControlStep) :
    OwnerPeer (controlStep prim c step) := by
  cases step with
  | accept handle peer => exact h.accept handle peer
  | close i => exact h.close i
  | request i request io => exact h.request i request io
  | receive i pairing record eventClient rx => exact h.receive i pairing record eventClient rx

end Control

/-! ## The pipeline's peer -/

/-- The peer that `update_audio_transport` takes from a stream state. -/
def transportPeer (stream : StreamState) : NetAddr :=
  if stream.hasSession then stream.timingPeer else NetAddr.zero

/-- With an owner, it is the owner. -/
theorem OwnerPeer.transportPeer {c : ControlState} (h : OwnerPeer c) {host : CString}
    (hhost : ownerHost c = some host) :
    host ≠ [] ∧ (transportPeer c.server.stream).ip = host := by
  rw [ownerHost] at hhost
  cases howner : c.server.streamOwner with
  | none =>
      rw [howner] at hhost
      contradiction
  | some i =>
      rw [howner] at hhost
      dsimp only at hhost
      have hsession : c.server.stream.hasSession = true :=
        h.owned.session.mpr (by rw [howner]; exact Option.some_ne_none i)
      by_cases hset : c.server.stream.timingPeer.ip = []
      · rw [if_pos hset] at hhost
        contradiction
      · rw [if_neg hset] at hhost
        have hpeer := h.peer i howner hset
        rw [Service.transportPeer, if_pos hsession, ← Option.some.inj hhost]
        exact ⟨fun hnone => hset (hpeer.trans hnone), hpeer⟩

/-- The inputs of a poll leave the peer alone. -/
theorem peerIp_inputsKeep (ip : CString) : InputsKeep fun p => p.peerIp = ip where
  ntpSync _ _ h := h
  decodeErrors _ _ h := h
  enqueue _ _ _ h := h
  anchor _ _ _ h := h
  ptp _ _ h := h
  buffered _ _ h := h

theorem decodePacket_peerIp (p : AudioPipeline) (packet : RtpPacket) (decoded : DecodeOutcome)
    (scaled : Int16 → Int16) :
    (audioPipelineDecodePacket p packet decoded scaled).1.peerIp = p.peerIp := by
  rw [audioPipelineDecodePacket]
  split
  · rfl
  · dsimp only
    split
    · split
      · rfl
      · rfl
    · rfl
    · rfl

/-- A turn of a poll leaves the peer alone. -/
theorem pollTurn_peerIp (aead : Aead) (io : TurnIo) (p : AudioPipeline) (phase : PollPhase) :
    (pollTurn aead io p phase).pipeline.peerIp = p.peerIp := by
  cases phase with
  | inputs => exact (peerIp_inputsKeep p.peerIp).inputsTurn aead io.inputs rfl
  | receiving i limit => exact (peerIp_inputsKeep p.peerIp).receiveTurn aead io.record i limit rfl
  | playing batch =>
      show (playTurn io.play p batch).pipeline.peerIp = p.peerIp
      rw [playTurn]
      split
      · cases playVerdict p io.play with
        | wait => rfl
        | fail => rfl
        | late slot => rfl
        | submit slot => exact decodePacket_peerIp p _ _ _
      · rfl
  | done ok => rfl

theorem audioPipelineConfigure_peerIp (io : ConfigureIo) (p : AudioPipeline) (session : SdpSession) :
    (audioPipelineConfigure io p session).1.peerIp = p.peerIp := by
  have hdecoder : ∀ q : AudioPipeline, (q.openDecoder io session).1.peerIp = q.peerIp := by
    intro q
    rw [AudioPipeline.openDecoder]
    split
    · rfl
    · rfl
    · rfl
    · rfl
  have hcipher : ∀ q : AudioPipeline, (q.openCipher io session).1.peerIp = q.peerIp := by
    intro q
    rw [AudioPipeline.openCipher]
    split
    · rfl
    · split
      · rfl
      · rfl
  rw [audioPipelineConfigure]
  split
  · rfl
  · dsimp only
    generalize (if session.streamType = 0 then (p.ptp, true)
      else ptpSyncOpen p.ptp io.ptpSockets) = ptp
    have hopened := hdecoder (p.enter ptp.1 session)
    have hkeyed := (hcipher ((p.enter ptp.1 session).openDecoder io session).1).trans hopened
    split
    · rfl
    · split
      · exact hopened
      · split
        · exact hkeyed
        · exact hkeyed

theorem audioPipelineStart_peerIp (p : AudioPipeline) :
    (audioPipelineStart p).1.peerIp = p.peerIp := by
  rw [audioPipelineStart]
  split
  · rfl
  · rfl

/-- A session that starts keeps the peer. -/
theorem restartAudioSession_peerIp (io : SessionIo) (t : AudioThread) (stream : StreamState) :
    (restartAudioSession io t stream).thread.pipeline.peerIp = t.pipeline.peerIp := by
  have hconfigured := audioPipelineConfigure_peerIp io.configure (closeAudio t).pipeline
    stream.session
  rw [restartAudioSession]
  dsimp only
  split
  · exact hconfigured
  · split
    · exact hconfigured
    · have hstarted := (audioPipelineStart_peerIp (audioPipelineConfigure io.configure
        (closeAudio t).pipeline stream.session).1).trans hconfigured
      split
      · exact hstarted
      · apply enterSession_pipeline (P := fun p => p.peerIp = t.pipeline.peerIp) hstarted
        · intro p hp
          obtain ⟨volume, hset⟩ := audioPipelineSetVolume_eq p stream.volumeDb
          rw [hset]
          exact hp
        · exact fun _ hp => hp
        · exact fun _ hp => hp

/-- **An iteration gives the peer in its first step only.** -/
theorem applyStream_peerIp (io : SessionIo) (t : AudioThread) (stream : StreamState) :
    (applyStream io t stream).thread.pipeline.peerIp =
      (updateAudioTransport t stream).pipeline.peerIp := by
  apply applyStream_keeps
    (P := fun u => u.pipeline.peerIp = (updateAudioTransport t stream).pipeline.peerIp) rfl
  · exact fun _ hu => hu
  · exact fun _ u hu => (restartAudioSession_peerIp io u stream).trans hu
  · intro u hu
    rw [updateAudioVolume]
    split
    · exact hu
    · obtain ⟨volume, hset⟩ := audioPipelineSetVolume_eq u.pipeline stream.volumeDb
      dsimp only
      rw [hset]
      exact hu
  · intro u hu
    rw [updateAudioAnchor]
    split
    · exact hu
    · exact hu

/-! ## The threads in step -/

/-- The owner's host at the last iteration of the audio thread, and how many steps the control
plane has made since. -/
structure HostWatch where
  host : Option CString
  controls : ℕ

/-- The monitor that keeps it. -/
def hostMonitor (watch : HostWatch) (s : AirplayServer) (step : ServerStep) (event : ServerEvent) :
    HostWatch :=
  match event with
  | .iteration _ _ _ => ⟨ownerHost s.control, 0⟩
  | _ =>
      match step with
      | .control _ => { watch with controls := watch.controls + 1 }
      | _ => watch

/-- The receiver with the monitor. -/
def hostMachine (prim : Primitives) : Machine (AirplayServer × HostWatch) ServerStep ServerEvent :=
  (serverMachine prim).watched hostMonitor

/-- The pipeline has the peer of the stream state at the last iteration, `controls` steps of the
control plane ago. -/
def InStep (prim : Primitives) (c : ControlState) (t : AudioThread) (controls : ℕ) : Prop :=
  ∃ base steps, controlRun prim base steps = c ∧ steps.length = controls ∧
    t.loop.transportGeneration = base.server.stream.generation ∧
    t.pipeline.peerIp = (transportPeer base.server.stream).ip

section InStep

variable {prim : Primitives} {c : ControlState} {t : AudioThread} {controls : ℕ}

theorem InStep.control (h : InStep prim c t controls) (step : ControlStep) :
    InStep prim (controlStep prim c step) t (controls + 1) := by
  obtain ⟨base, steps, hrun, hlength, hgeneration, hpeer⟩ := h
  refine ⟨base, steps ++ [step], ?_, ?_, hgeneration, hpeer⟩
  · rw [controlRun, Machine.run_append]
    exact congrArg (fun c => controlStep prim c step) hrun
  · rw [List.length_append, hlength, List.length_singleton]

/-- **After the transport is updated the pipeline has the peer of the stream state**: a peer
that is not taken has not changed. -/
theorem InStep.updateTransport (h : InStep prim c t controls) (hcontrols : controls < 2 ^ 32) :
    (updateAudioTransport t c.server.stream).pipeline.peerIp =
      (transportPeer c.server.stream).ip := by
  obtain ⟨base, steps, rfl, rfl, hgeneration, hpeer⟩ := h
  obtain ⟨k, hk, hafter, hsame⟩ := controlRun_publishes prim steps base
  rw [updateAudioTransport]
  split
  · rename_i hkept
    -- the generation did not wrap, so nothing was published
    have hzero : k = 0 := by
      by_contra hne
      exact add_ofNat_ne (Nat.pos_of_ne_zero hne) (by omega)
        (hafter.symm.trans (hkept.symm.trans hgeneration))
    obtain ⟨-, hsession, htiming⟩ := hsame hzero
    rw [hpeer, transportPeer, transportPeer, hsession, htiming]
  · rfl

end InStep

/-- What holds of the receiver under its monitor. -/
structure HeardFrom (prim : Primitives) (listener : NetSocket) (w : AirplayServer × HostWatch) :
    Prop where
  owner : OwnerPeer w.1.control
  settled : Settled listener w.1.audio
  inStep : InStep prim w.1.control w.1.audio w.2.controls
  host : ∀ host, w.2.host = some host → host ≠ [] ∧ w.1.audio.pipeline.peerIp = host

section HeardFrom

variable {prim : Primitives} {listener : NetSocket} {w : AirplayServer × HostWatch}

/-- A step that leaves the peer and the generation of the audio thread as they are. -/
theorem HeardFrom.same (h : HeardFrom prim listener w) {after : AirplayServer}
    (hcontrol : after.control = w.1.control) (hsettled : Settled listener after.audio)
    (hpeer : after.audio.pipeline.peerIp = w.1.audio.pipeline.peerIp)
    (hloop : after.audio.loop = w.1.audio.loop) : HeardFrom prim listener (after, w.2) where
  owner := hcontrol ▸ h.owner
  settled := hsettled
  inStep := by
    obtain ⟨base, steps, hrun, hlength, hgeneration, hsame⟩ := h.inStep
    exact ⟨base, steps, hrun.trans hcontrol.symm, hlength,
      (congrArg AudioLoopState.transportGeneration hloop).trans hgeneration, hpeer.trans hsame⟩
  host host hhost := ⟨(h.host host hhost).1, hpeer.trans (h.host host hhost).2⟩

/-- An iteration takes the peer of the stream state, whatever else it does. -/
theorem HeardFrom.iterated (h : HeardFrom prim listener w) (hcontrols : w.2.controls < 2 ^ 32)
    (io : SessionIo) {after : AirplayServer} (hcontrol : after.control = w.1.control)
    (hsettled : Settled listener after.audio)
    (hpeer : after.audio.pipeline.peerIp =
      (applyStream io w.1.audio w.1.stream).thread.pipeline.peerIp)
    (hloop : after.audio.loop = (applyStream io w.1.audio w.1.stream).thread.loop) :
    HeardFrom prim listener (after, ⟨ownerHost w.1.control, 0⟩) := by
  have htaken : after.audio.pipeline.peerIp = (transportPeer w.1.stream).ip := by
    rw [hpeer, applyStream_peerIp]
    exact h.inStep.updateTransport hcontrols
  refine ⟨hcontrol ▸ h.owner, hsettled, ⟨w.1.control, [], hcontrol.symm, rfl, ?_, htaken⟩, ?_⟩
  · rw [hloop]
    exact (applyStream_sane w.1.stream h.settled.pipeline io).2
  · intro host hhost
    obtain ⟨hnonempty, howner⟩ := h.owner.transportPeer hhost
    exact ⟨hnonempty, htaken.trans howner⟩

/-- A step of the audio thread. -/
theorem HeardFrom.audio (h : HeardFrom prim listener w) (hcontrols : w.2.controls < 2 ^ 32)
    (io : AudioIo) :
    HeardFrom prim listener ((audioStep prim io w.1).1,
      hostMonitor w.2 w.1 (.audio io) (audioStep prim io w.1).2) := by
  have hsettled := serverStep_settled prim h.settled (.audio io)
  have heffect := audioStep_effect prim io w.1
  change Settled listener (audioStep prim io w.1).1.audio at hsettled
  generalize audioStep prim io w.1 = r at heffect hsettled ⊢
  cases heffect with
  | finished hphase => exact h.same rfl hsettled rfl rfl
  | turn phase hphase =>
      have hpeer := pollTurn_peerIp prim.aead io.turn w.1.audio.pipeline phase
      refine h.same (stepped_control _ _) hsettled ?_ ?_
      · rw [turnStep_audio]
        exact hpeer
      · rw [turnStep_audio]
  | ended hphase hstopping => exact h.same rfl hsettled rfl rfl
  | failed r hphase hstopping hr hok =>
      exact h.iterated hcontrols io.session rfl hsettled (by rw [hr]; rfl) (by rw [hr]; rfl)
  | applied r hphase hstopping hr hok =>
      exact h.iterated hcontrols io.session rfl hsettled (by rw [hr]) (by rw [hr])

/-- **Every step keeps the threads in step.** -/
theorem HeardFrom.step (h : HeardFrom prim listener w) (hcontrols : w.2.controls < 2 ^ 32)
    (step : ServerStep) : HeardFrom prim listener ((hostMachine prim).step w step).1 := by
  cases step with
  | control step =>
      exact ⟨controlStep_ownerPeer prim h.owner step, h.settled, h.inStep.control step, h.host⟩
  | audio io => exact h.audio hcontrols io
  | stop => exact h.same rfl h.settled rfl rfl
  | fail => exact h.same rfl h.settled rfl rfl

end HeardFrom

/-! ## Other hosts -/

/-- The outside has the same for a step of the audio thread, but for datagrams that hosts other
than `host` sent to the RTP sockets, alike in whether they fit the buffer. -/
structure AudioIo.SameFrom (host : CString) (io io' : AudioIo) : Prop where
  session : io.session = io'.session
  now : io.turn.inputs.now = io'.turn.inputs.now
  receiver : io.turn.inputs.receiver.SameFrom host io'.turn.inputs.receiver
  ptp : io.turn.inputs.ptp = io'.turn.inputs.ptp
  record : io.turn.record = io'.turn.record
  play : io.turn.play = io'.turn.play
  writes : io.writes = io'.writes

theorem pollTurn_sameFrom (aead : Aead) {host : CString} {io io' : AudioIo}
    (h : io.SameFrom host io') {p : AudioPipeline} (hhost : host ≠ []) (hpeer : p.peerIp = host)
    (phase : PollPhase) : pollTurn aead io.turn p phase = pollTurn aead io'.turn p phase := by
  cases phase with
  | inputs =>
      have hrequest : (p.requestTiming io'.turn.inputs.now).peerIp = host := by
        rw [AudioPipeline.requestTiming]
        split
        · exact hpeer
        · exact hpeer
      have hpoll : pipelinePollInputs aead io.turn.inputs p =
          pipelinePollInputs aead io'.turn.inputs p := by
        rw [pipelinePollInputs, pipelinePollInputs, h.now, h.ptp]
        dsimp only
        rw [hrequest, rtpReceiverPoll_sameFrom _ hhost h.receiver]
      rw [pollTurn, pollTurn, inputsTurn, inputsTurn, hpoll]
  | receiving i limit => rw [pollTurn, pollTurn, h.record]
  | playing batch => rw [pollTurn, pollTurn, h.play]
  | done ok => rfl

/-- A step that the receiver takes alike: the same, or one of the audio thread with other
datagrams of hosts that do not own the stream. The control plane is less than `2 ^ 32` steps
ahead. -/
def TakenAlike (w : AirplayServer × HostWatch) (step step' : ServerStep) : Prop :=
  w.2.controls < 2 ^ 32 ∧ (step = step' ∨ ∃ host io io', w.2.host = some host ∧
    AudioIo.SameFrom host io io' ∧ step = .audio io ∧ step' = .audio io')

theorem HeardFrom.takenAlike {prim : Primitives} {listener : NetSocket}
    {w : AirplayServer × HostWatch} (h : HeardFrom prim listener w) {step step' : ServerStep}
    (halike : TakenAlike w step step') :
    (hostMachine prim).step w step = (hostMachine prim).step w step' := by
  obtain ⟨-, rfl | ⟨host, io, io', hhost, hsame, rfl, rfl⟩⟩ := halike
  · rfl
  · obtain ⟨hnonempty, hpeer⟩ := h.host host hhost
    have hstep : audioStep prim io w.1 = audioStep prim io' w.1 := by
      rw [audioStep, audioStep, hsame.session]
      cases w.1.audio.phase with
      | iteration => rfl
      | polling phase =>
          dsimp only
          rw [turnStep, turnStep, threadTurn, threadTurn, pollTurn_sameFrom prim.aead hsame hnonempty hpeer phase,
            hsame.writes]
      | finished => rfl
    show (((audioStep prim io w.1).1, hostMonitor w.2 w.1 (.audio io) (audioStep prim io w.1).2),
        (audioStep prim io w.1).2) =
      (((audioStep prim io' w.1).1, hostMonitor w.2 w.1 (.audio io') (audioStep prim io' w.1).2),
        (audioStep prim io' w.1).2)
    rw [hstep]
    cases (audioStep prim io' w.1).2 with
    | quiet => rfl
    | iteration stream ok calls => rfl
    | turn event => rfl
    | ended => rfl

/-- **Other hosts are not heard**: two runs of the receiver that differ in nothing but datagrams
that hosts other than the stream's owner sent to the RTP sockets, each that fits the receive buffer
in place of one that does, are the same, in the state at their end and in all that the audio
thread did. -/
theorem foreign_hosts_ignored (prim : Primitives) (listener buffered : NetSocket)
    (localIp localMacHex deviceName : CString) (steps steps' : List ServerStep)
    (halike : (hostMachine prim).SameAlong TakenAlike
      (AirplayServer.initial listener buffered localIp localMacHex deviceName, ⟨none, 0⟩)
      steps steps') :
    (serverMachine prim).run
        (AirplayServer.initial listener buffered localIp localMacHex deviceName) steps =
      (serverMachine prim).run
        (AirplayServer.initial listener buffered localIp localMacHex deviceName) steps' := by
  have hstart : HeardFrom prim buffered
      (AirplayServer.initial listener buffered localIp localMacHex deviceName, ⟨none, 0⟩) :=
    ⟨initial_ownerPeer listener localIp localMacHex deviceName, start_settled buffered,
      ⟨ControlState.initial listener localIp localMacHex deviceName, [], rfl, rfl, rfl, rfl⟩,
      fun host hhost => absurd hhost (Option.some_ne_none host).symm⟩
  have hrun := (hostMachine prim).run_congr (HeardFrom prim buffered)
    (fun _ step _ h halike => h.step halike.1 step)
    (fun _ _ _ h halike => h.takenAlike halike) steps steps' _ hstart halike
  obtain ⟨hstate, hevents⟩ := (serverMachine prim).watched_run hostMonitor steps
    (AirplayServer.initial listener buffered localIp localMacHex deviceName, ⟨none, 0⟩)
  obtain ⟨hstate', hevents'⟩ := (serverMachine prim).watched_run hostMonitor steps'
    (AirplayServer.initial listener buffered localIp localMacHex deviceName, ⟨none, 0⟩)
  refine Prod.ext ?_ ?_
  · rw [← hstate, ← hstate']
    exact congrArg (fun r => r.1.1) hrun
  · rw [← hevents, ← hevents']
    exact congrArg Prod.snd hrun

/-- SETUP of the ports of a stream. -/
def setupPcm : ServerStep :=
  ask .setup [⟨ascii "Transport", ascii "RTP/AVP/UDP;unicast;control_port=6001;timing_port=6002"⟩] []

/-- A client announces a stream, sets it up and records. -/
def setupRun : List ServerStep :=
  [.control (.accept 1 ⟨ascii "10.0.0.2", 50000⟩), announcePcm, setupPcm, recordAt "1000"]

/-- A packet of the client behind a datagram of another host. -/
def besideNoise (noise : List UInt8) : AudioIo :=
  { idleAudio with
    turn :=
      { idleAudio.turn with
        inputs :=
          ⟨0, ⟨false, [], [], [.datagram ⟨noise, ⟨ascii "10.0.0.9", 6000⟩, 1000000, 0⟩,
            pcmDatagram 4]⟩, ([], [])⟩ } }

/-- A forged packet in place of a byte of noise. -/
theorem foreign_hosts_ignored_forged :
    (serverMachine idlePrimitives).run
        (AirplayServer.initial ⟨some 1, 5000⟩ ⟨some 2, 7000⟩ [] [] [])
        (setupRun ++ [.audio idleAudio, .audio (besideNoise [0])]) =
      (serverMachine idlePrimitives).run
        (AirplayServer.initial ⟨some 1, 5000⟩ ⟨some 2, 7000⟩ [] [] [])
        (setupRun ++ [.audio idleAudio, .audio (besideNoise ([0x80, 96, 0, 3] ++ write32 2000 ++
          [0, 0, 0, 1, 0, 9]))]) := by
  refine foreign_hosts_ignored idlePrimitives ⟨some 1, 5000⟩ ⟨some 2, 7000⟩ [] [] [] _ _ ?_
  refine ⟨⟨by decide +kernel, Or.inl rfl⟩, ⟨by decide +kernel, Or.inl rfl⟩,
    ⟨by decide +kernel, Or.inl rfl⟩, ⟨by decide +kernel, Or.inl rfl⟩,
    ⟨by decide +kernel, Or.inl rfl⟩, ⟨by decide +kernel, Or.inr ?_⟩, trivial⟩
  refine ⟨ascii "10.0.0.2", _, _, by decide +kernel, ?_, rfl, rfl⟩
  exact ⟨rfl, rfl, ⟨rfl, .nil, .nil, by decide +kernel⟩, rfl, rfl, rfl, rfl⟩

end PortableAirplay.Service
