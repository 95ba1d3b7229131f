import PortableAirplay.Audio.PipelineResources
import PortableAirplay.Protocol.RtspSockets
import PortableAirplay.Service.Advertising
import PortableAirplay.Service.AirplayServer

/-!
# Starting and stopping the receiver

`airplay_server_init` and `airplay_server_deinit` of `service/server.c`, and the start and stop
of the tasks in `platform/embedded/runtime.c`, with the calls that open and close in the order
of the source. Any of them may fail. Between a start and a stop the tasks take steps in any
order: the RTSP task polls, the audio task iterates and takes its turns, the mDNS task polls.

`platform_ledger` is about every sequence of starts, stops and steps: what was opened and not
yet closed is what the state says is held. `resources_bounded` says how much that can be.
-/

set_option autoImplicit false

namespace PortableAirplay.Service

open PortableAirplay.Airplay
open PortableAirplay.Audio
open PortableAirplay.Library
open PortableAirplay.Platform
open PortableAirplay.Protocol
open PortableAirplay.Util

/-! ## Calls of the audio task -/

/-- The device is closed, if it is open. -/
def closeAudioCalls (t : AudioThread) : List ResourceCall := if t.audio then [.give .device] else []

/-- `update_audio_transport`. -/
def updateAudioTransportCalls (t : AudioThread) (stream : StreamState) : List ResourceCall :=
  if t.loop.transportGeneration = stream.generation then []
  else netClose t.pipeline.buffered.client

/-- What the answers to the calls that open something are for a session. -/
def SessionIo.withOpens (io : SessionIo) (opens : OpenIo) : SessionIo :=
  { io with configure := io.configure.withOpens opens }

/-- `start_audio_session` where it does not return at once. -/
def restartAudioSessionCalls (io : SessionIo) (opens : OpenIo) (t : AudioThread)
    (stream : StreamState) : List ResourceCall :=
  let closed := closeAudio t
  let configured := audioPipelineConfigure (io.withOpens opens).configure closed.pipeline
    stream.session
  closeAudioCalls t ++ audioPipelineConfigureCalls opens closed.pipeline stream.session ++
    (if configured.2 = false then []
    else if (io.withOpens opens).deviceOpens = false then []
    else
      .take .device ::
        (if (audioPipelineStart configured.1).2 = false then [.give .device] else []))

/-- `start_audio_session`. -/
def startAudioSessionCalls (io : SessionIo) (opens : OpenIo) (t : AudioThread)
    (stream : StreamState) : List ResourceCall :=
  if upToDate t stream then [] else restartAudioSessionCalls io opens t stream

/-- Audio is stopped or started as the stream state says. -/
def switchAudioCalls (io : SessionIo) (opens : OpenIo) (t : AudioThread) (stream : StreamState) :
    List ResourceCall :=
  if wantsAudio stream = false then closeAudioCalls t
  else startAudioSessionCalls io opens t stream

/-- An iteration of `airplay_audio_main` up to its poll. -/
def applyStreamCalls (io : SessionIo) (opens : OpenIo) (t : AudioThread) (stream : StreamState) :
    List ResourceCall :=
  updateAudioTransportCalls t stream ++
    switchAudioCalls io opens (updateAudioTransport t stream) stream

/-- `airplay_audio_main` from the head of its loop to its poll. -/
def iterationCalls (io : SessionIo) (opens : OpenIo) (s : AirplayServer) : List ResourceCall :=
  if s.stopping then closeAudioCalls s.audio
  else
    let r := applyStream (io.withOpens opens) s.audio s.stream
    applyStreamCalls io opens s.audio s.stream ++
      (if r.ok = false then closeAudioCalls r.thread else [])

/-- A step of the audio task. -/
def audioStepCalls (io : AudioIo) (opens : OpenIo) (s : AirplayServer) : List ResourceCall :=
  match s.audio.phase with
  | .iteration => iterationCalls io.session opens s
  | .polling phase => pollTurnCalls io.turn s.audio.pipeline phase
  | .finished => []

/-! ## The server -/

/-- `airplay_server_t` with the sockets that stay open while it runs: those of the RTP receiver
and of discovery. A part that was not initialized is `none`. -/
structure ServerInstance extends ServerFlags where
  rtsp : Option RtspServer
  audio : Option (List NetSocket × AudioThread)
  discovery : Option NetSocket

/-- A server of which nothing but the memory pool and the lock is there. -/
def ServerInstance.bare : ServerInstance := ⟨⟨false, false⟩, none, none, none⟩

/-- `airplay_server_deinit` on an initialized server. -/
def airplayServerDeinitCalls (s : ServerInstance) : List ResourceCall :=
  (match s.audio with
    | none => []
    | some audio => closeAudioCalls audio.2) ++
  (match s.discovery with
    | none => []
    | some socket => netClose socket) ++
  (match s.audio with
    | none => []
    | some audio => audioPipelineCloseCalls audio.1 audio.2.pipeline) ++
  (match s.rtsp with
    | none => []
    | some rtsp => rtspServerCloseCalls rtsp) ++
  [.give .controlLock, .give .cryptoMemory]

/-- What the platform answers to `airplay_server_init`: whether the mutexes are there, the
handles of the sockets that can be opened, and the calls of discovery. -/
structure InitIo where
  controlLock : Bool
  stateLock : Bool
  listener : Option ℕ
  rtp : RtpBinds
  buffered : Option ℕ
  discovery : DiscoveryCalls
  discoverySocket : ℕ

/-- The calls of `airplay_server_init`, and the server where it returns 0. -/
structure InitResult where
  calls : List ResourceCall
  server : Option ServerInstance

/-- `goto fail`. -/
def initFails (calls : List ResourceCall) (s : ServerInstance) : InitResult :=
  ⟨calls ++ airplayServerDeinitCalls s, none⟩

/-- `rtsp_set_identity` on a server that was created. -/
def rtspSetIdentity (s : RtspServer) (localIp localMacHex : CString) : Option RtspServer :=
  if localIp.length ≥ 16 ∨ localMacHex.length ≠ 12 ∨ netStrToIpv4 localIp = none then none
  else if (localMacHex.all fun c => (hexDigit c).isSome) = false then none
  else some { s with localIp := localIp, localMacHex := localMacHex }

/-- The socket calls of `airplay_discovery_init`. -/
def airplayDiscoveryInitCalls (calls : DiscoveryCalls) (handle : ℕ) (config : AirplayConfig) :
    List ResourceCall :=
  let name := cString config.deviceName
  let mac := some (cString config.localMacHex)
  let ip := cString config.localIp
  let socket : NetSocket := ⟨some handle, 5353⟩
  if name = [] ∨ name.length ≥ 64 ∨ (raopTxt config).length > 65535 ∨ netStrToIpv4 ip = none ∨
      ip.length ≥ 16 then []
  else if (raopLabel name mac).length ≥ 96 then []
  else if (discoveryHostname name).length ≥ 96 then []
  else if calls.udpBind 5353 ≠ 0 then []
  else
    -- it is closed where it cannot join the group, or a service cannot be announced
    netOpened socket ++
      (if (startDiscovery calls config).ok = false then netClose socket else [])

section Init

variable (io : InitIo) (config : AirplayConfig)

/-- The rest of `airplay_server_init`, from discovery on. -/
def initDiscovery (calls : List ResourceCall) (s : ServerInstance) : InitResult :=
  let calls := calls ++ airplayDiscoveryInitCalls io.discovery io.discoverySocket config
  if (startDiscovery io.discovery config).ok = false then initFails calls s
  else ⟨calls, some { s with discovery := some ⟨some io.discoverySocket, 5353⟩ }⟩

/-- The rest of `airplay_server_init`, from the audio pipeline on. -/
def initAudio (calls : List ResourceCall) (s : ServerInstance) : InitResult :=
  if (cString config.localIp).length ≥ 16 then initFails calls s
  else
    let listener := io.buffered.map fun handle => (⟨some handle, 6000⟩ : NetSocket)
    let calls := calls ++ audioPipelineCreateCalls io.rtp listener
    let sockets := rtpReceiverSockets io.rtp
    if sockets.2 = false then initFails calls s
    else
      match listener with
      | none => initFails calls s
      | some listener =>
          initDiscovery io config calls
            { s with audio := some (sockets.1, AudioThread.start listener) }

/-- The rest of `airplay_server_init`, from the RTSP server on. -/
def initRtsp (calls : List ResourceCall) : InitResult :=
  let listener := io.listener.map fun handle => (⟨some handle, airplayRtspPort⟩ : NetSocket)
  let calls := calls ++ rtspServerCreateCalls io.stateLock listener
  match (if io.stateLock then listener else none) with
  | none => initFails calls ServerInstance.bare
  | some listener =>
      let created := rtspServerCreate listener
      match rtspSetIdentity created (cString config.localIp) (cString config.localMacHex) with
      | none => initFails calls { ServerInstance.bare with rtsp := some created }
      | some named =>
          initAudio io config calls
            { ServerInstance.bare with
              rtsp := some { named with deviceName := cString config.deviceName } }

/-- `airplay_server_init`. -/
def airplayServerInit : InitResult :=
  if validConfig config = false then ⟨[], none⟩
  else if io.controlLock = false then ⟨[.take .cryptoMemory, .give .cryptoMemory], none⟩
  else initRtsp io config [.take .cryptoMemory, .take .controlLock]

end Init

/-! ## The platform -/

/-- The state of `runtime.c`: not active, or a server with a number of tasks. Fewer than three
tasks are there only while a start that failed waits for them. -/
inductive Platform where
  | idle
  | active (server : ServerInstance) (started : ℕ)

/-- What the platform answers to a start: whether the network and the event group are there,
the answers to the initialization of the server, and how many tasks can be created. -/
structure StartIo where
  network : Bool
  init : InitIo
  eventGroup : Bool
  tasks : ℕ

/-- A step: a call of the owner or of a task. `airplay_platform_stop` is `request` up to its wait
for the tasks and `stop` from there on. The mDNS task reports whether its poll succeeds; an
iteration of the audio task sees the stream state as it is at some point of a poll. -/
inductive PlatformStep where
  | start (config : AirplayConfig) (io : StartIo)
  | request
  | stop
  | discovery (succeeds : Bool)
  | rtsp (io : PollIo)
  | audio (stream : StreamState) (io : AudioIo) (opens : OpenIo)

/-- The outcome of a step: the state, the calls, and what a call of the owner returns. -/
structure PlatformResult where
  state : Platform
  calls : List ResourceCall
  result : Option ℤ

/-- `airplay_platform_start` where none is active. -/
def platformStart (config : AirplayConfig) (io : StartIo) : PlatformResult :=
  if io.network = false then ⟨.idle, [], some (-1)⟩
  else
    let init := airplayServerInit io.init config
    match init.server with
    | none => ⟨.idle, .take .network :: init.calls ++ [.give .network], some (-1)⟩
    | some server =>
        if io.eventGroup = false then
          ⟨.idle,
            .take .network :: init.calls ++ airplayServerDeinitCalls server ++ [.give .network],
            some (-1)⟩
        else
          let started := min io.tasks 3
          -- where a task is missing the start goes on to a stop, as the next step
          ⟨.active server started,
            .take .network :: init.calls ++
              .take .eventGroup :: (List.range started).map fun task => .take (.task task),
            if started = 3 then some 0 else none⟩

/-- `airplay_platform_stop` on an active platform, from the end of its wait. -/
def platformStop (server : ServerInstance) (started : ℕ) : PlatformResult :=
  ⟨.idle,
    (List.range started).reverse.map (fun task => .give (.task task)) ++
      .give .eventGroup :: airplayServerDeinitCalls server ++ [.give .network],
    some (if started < 3 ∨ server.failed then -1 else 0)⟩

/-- A task makes the server fail. -/
def ServerInstance.broken (s : ServerInstance) : ServerInstance :=
  { s with toServerFlags := s.fail }

/-- A round of `airplay_rtsp_main`. -/
def rtspTaskStep (prim : Primitives) (io : PollIo) (s : ServerInstance) :
    ServerInstance × List ResourceCall :=
  match s.rtsp with
  | none => (s, [])
  | some rtsp =>
      if s.stopping then (s, [])
      else
        let poll := rtspServerPoll prim io rtsp
        let after := { s with rtsp := some poll.server }
        (if poll.ok then after else after.broken, rtspServerPollCalls prim io rtsp)

/-- The server as the audio task sees it. -/
def ServerInstance.seen (s : ServerInstance) (rtsp : RtspServer) (audio : AudioThread)
    (stream : StreamState) : AirplayServer where
  control := ⟨rtsp.setStream stream, fun _ => 0, none⟩
  audio := audio
  stopping := s.stopping
  failed := s.failed

/-- A step of `airplay_audio_main`. -/
def audioTaskStep (prim : Primitives) (stream : StreamState) (io : AudioIo) (opens : OpenIo)
    (s : ServerInstance) : ServerInstance × List ResourceCall :=
  match s.rtsp, s.audio with
  | some rtsp, some (sockets, audio) =>
      let seen := s.seen rtsp audio stream
      let after := (audioStep prim { io with session := io.session.withOpens opens } seen).1
      ({ s with
          audio := some (sockets, after.audio)
          stopping := after.stopping
          failed := after.failed },
        audioStepCalls io opens seen)
  | _, _ => (s, [])

/-- A task takes a step if it was started. -/
def taskStep (number : ℕ) (step : ServerInstance → ServerInstance × List ResourceCall) :
    Platform → PlatformResult
  | .idle => ⟨.idle, [], none⟩
  | .active server started =>
      if number < started then
        let after := step server
        ⟨.active after.1 started, after.2, none⟩
      else ⟨.active server started, [], none⟩

/-- A step of the platform. -/
def platformStep (prim : Primitives) (p : Platform) : PlatformStep → PlatformResult
  | .start config io =>
      match p with
      | .idle => platformStart config io
      | .active _ _ => ⟨p, [], some (-1)⟩
  | .request =>
      match p with
      | .idle => ⟨.idle, [], none⟩
      | .active server started => ⟨.active { server with stopping := true } started, [], none⟩
  | .stop =>
      match p with
      | .idle => ⟨.idle, [], some 0⟩
      | .active server started => platformStop server started
  | .discovery succeeds =>
      taskStep 0 (fun s => (if s.stopping || succeeds then s else s.broken, [])) p
  | .rtsp io => taskStep 1 (rtspTaskStep prim io) p
  | .audio stream io opens => taskStep 2 (audioTaskStep prim stream io opens) p

/-- The platform as a machine; a step gives its calls and what it returns. -/
def platformMachine (prim : Primitives) :
    Machine Platform PlatformStep (List ResourceCall × Option ℤ) where
  step p step :=
    let r := platformStep prim p step
    (r.state, (r.calls, r.result))

/-! ## The audio task -/

/-- What the audio task holds. -/
def AudioThread.held (t : AudioThread) : Multiset Resource :=
  (if t.audio then {Resource.device} else 0) + t.pipeline.held

/-- What calls do to the audio task: they lead from what it held to what it holds. -/
structure ThreadLedger (t after : AudioThread) (calls : List ResourceCall) : Prop where
  replay : replay t.held calls = some after.held
  tidy : PtpTidy t.pipeline.ptp → PtpTidy after.pipeline.ptp

theorem ThreadLedger.trans {a b c : AudioThread} {first second : List ResourceCall}
    (hab : ThreadLedger a b first) (hbc : ThreadLedger b c second) :
    ThreadLedger a c (first ++ second) where
  replay := replay_trans hab.replay hbc.replay
  tidy h := hbc.tidy (hab.tidy h)

/-- Calls on the pipeline alone. -/
theorem ThreadLedger.pipeline {t after : AudioThread} {calls : List ResourceCall}
    (haudio : after.audio = t.audio) (h : PipelineLedger t.pipeline after.pipeline calls) :
    ThreadLedger t after calls where
  replay := by
    have hframed := replay_frame (if t.audio then {Resource.device} else 0) calls h.replay
    rw [AudioThread.held, AudioThread.held, haudio, Multiset.add_comm, hframed,
      Multiset.add_comm]
  tidy := h.tidy

theorem ThreadLedger.refl (t : AudioThread) : ThreadLedger t t [] :=
  ThreadLedger.pipeline rfl (PipelineLedger.refl _)

theorem setVolume_ledger (p : AudioPipeline) (volumeDb : UInt32) :
    PipelineLedger p (audioPipelineSetVolume p volumeDb) [] := by
  obtain ⟨volume, hset⟩ := audioPipelineSetVolume_eq p volumeDb
  rw [hset]
  exact PipelineLedger.same rfl rfl rfl rfl rfl

/-- Stopping the pipeline closes nothing. -/
theorem stop_ledger (p : AudioPipeline) : PipelineLedger p (audioPipelineStop p) [] :=
  PipelineLedger.same rfl rfl rfl rfl rfl

theorem start_ledger (p : AudioPipeline) : PipelineLedger p (audioPipelineStart p).1 [] := by
  rw [audioPipelineStart]
  split
  · exact PipelineLedger.refl p
  · exact PipelineLedger.same rfl rfl rfl rfl rfl

/-- `close_audio` closes the device, if it is open. -/
theorem closeAudio_ledger (t : AudioThread) :
    ThreadLedger t (closeAudio t) (closeAudioCalls t) := by
  have hstopped := stop_ledger t.pipeline
  refine ⟨?_, hstopped.tidy⟩
  have hheld : (closeAudio t).held = 0 + (audioPipelineStop t.pipeline).held := rfl
  have hsame : (audioPipelineStop t.pipeline).held = t.pipeline.held :=
    (Option.some.inj hstopped.replay).symm
  rw [hheld, hsame, Multiset.zero_add, AudioThread.held, closeAudioCalls]
  cases t.audio with
  | false =>
      rw [if_neg Bool.noConfusion, if_neg Bool.noConfusion, Multiset.zero_add]
      rfl
  | true =>
      rw [if_pos rfl, if_pos rfl, Multiset.singleton_add]
      exact replay_give _ _ _

theorem updateAudioTransport_ledger (t : AudioThread) (stream : StreamState) :
    ThreadLedger t (updateAudioTransport t stream) (updateAudioTransportCalls t stream) := by
  rw [updateAudioTransport, updateAudioTransportCalls]
  split
  · exact ThreadLedger.refl t
  · exact ThreadLedger.pipeline rfl (setTransport_ledger t.pipeline _)

/-- Entering a session opens and closes nothing. -/
theorem enterSession_ledger (t : AudioThread) (stream : StreamState) :
    ThreadLedger t (enterSession t stream).thread [] := by
  apply ThreadLedger.pipeline (enterSession_effect t stream).1
  apply enterSession_pipeline (P := fun p => PipelineLedger t.pipeline p [])
    (PipelineLedger.refl t.pipeline)
  · exact fun p hp => hp.trans (setVolume_ledger p stream.volumeDb)
  · exact fun p hp => hp.trans (PipelineLedger.same rfl rfl rfl rfl rfl)
  · exact fun p hp => hp.trans (PipelineLedger.same rfl rfl rfl rfl rfl)

/-- The device is opened. -/
theorem openDevice_ledger (t : AudioThread) (pipeline : AudioPipeline) (haudio : t.audio = false)
    (h : PipelineLedger t.pipeline pipeline []) :
    ThreadLedger t { t with audio := true, pipeline := pipeline } [.take .device] where
  replay := by
    have hsame : pipeline.held = t.pipeline.held := (Option.some.inj h.replay).symm
    rw [AudioThread.held, AudioThread.held, haudio, if_neg Bool.noConfusion, if_pos rfl, hsame,
      Multiset.zero_add, Multiset.singleton_add]
    rfl
  tidy := h.tidy

/-- **A session is started anew**: where a step fails, what the steps before it opened stays
with the pipeline or is closed. -/
theorem restartAudioSession_ledger (io : SessionIo) (opens : OpenIo) (t : AudioThread)
    (stream : StreamState) (htidy : PtpTidy t.pipeline.ptp) :
    ThreadLedger t (restartAudioSession (io.withOpens opens) t stream).thread
      (restartAudioSessionCalls io opens t stream) := by
  have hclosed := closeAudio_ledger t
  have hconfigured : ThreadLedger (closeAudio t)
      { closeAudio t with
        pipeline := (audioPipelineConfigure (io.withOpens opens).configure
          (closeAudio t).pipeline stream.session).1 }
      (audioPipelineConfigureCalls opens (closeAudio t).pipeline stream.session) :=
    ThreadLedger.pipeline rfl (audioPipelineConfigure_ledger io.configure opens
      (closeAudio t).pipeline stream.session (hclosed.tidy htidy))
  have hready := hclosed.trans hconfigured
  rw [restartAudioSession, restartAudioSessionCalls]
  dsimp only
  by_cases hfails : (audioPipelineConfigure (io.withOpens opens).configure
      (closeAudio t).pipeline stream.session).2 = false
  · rw [if_pos hfails, if_pos hfails, List.append_nil]
    exact hready
  · rw [if_neg hfails, if_neg hfails]
    by_cases hdevice : (io.withOpens opens).deviceOpens = false
    · rw [if_pos hdevice, if_pos hdevice, List.append_nil]
      exact hready
    · rw [if_neg hdevice, if_neg hdevice]
      have hopened := hready.trans (openDevice_ledger _ _ rfl (start_ledger
        (audioPipelineConfigure (io.withOpens opens).configure (closeAudio t).pipeline
          stream.session).1))
      by_cases hstarts : (audioPipelineStart (audioPipelineConfigure
          (io.withOpens opens).configure (closeAudio t).pipeline stream.session).1).2 = false
      · have hclosing := hopened.trans (closeAudio_ledger _)
        rw [List.append_assoc] at hclosing
        rw [if_pos hstarts, if_pos hstarts]
        exact hclosing
      · have hentered := hopened.trans (enterSession_ledger _ stream)
        rw [List.append_nil] at hentered
        rw [if_neg hstarts, if_neg hstarts]
        exact hentered

theorem startAudioSession_ledger (io : SessionIo) (opens : OpenIo) (t : AudioThread)
    (stream : StreamState) (htidy : PtpTidy t.pipeline.ptp) :
    ThreadLedger t (startAudioSession (io.withOpens opens) t stream).thread
      (startAudioSessionCalls io opens t stream) := by
  rw [startAudioSession, startAudioSessionCalls]
  split
  · exact ThreadLedger.refl t
  · exact restartAudioSession_ledger io opens t stream htidy

theorem updateAudioVolume_ledger (t : AudioThread) (stream : StreamState) :
    ThreadLedger t (updateAudioVolume t stream) [] := by
  rw [updateAudioVolume]
  split
  · exact ThreadLedger.refl t
  · exact ThreadLedger.pipeline rfl (setVolume_ledger t.pipeline stream.volumeDb)

theorem updateAudioAnchor_ledger (t : AudioThread) (stream : StreamState) :
    ThreadLedger t (updateAudioAnchor t stream) [] := by
  rw [updateAudioAnchor]
  split
  · have hclock := ptpSyncSetClock_sockets t.pipeline.ptp stream.anchor.clockId
    exact ThreadLedger.pipeline rfl (PipelineLedger.same rfl hclock.1 hclock.2 rfl rfl)
  · exact ThreadLedger.refl t

theorem switchAudio_ledger (io : SessionIo) (opens : OpenIo) (t : AudioThread)
    (stream : StreamState) (htidy : PtpTidy t.pipeline.ptp) :
    ThreadLedger t (switchAudio (io.withOpens opens) t stream).thread
      (switchAudioCalls io opens t stream) := by
  rw [switchAudio, switchAudioCalls]
  by_cases hwants : wantsAudio stream = false
  · rw [if_pos hwants, if_pos hwants]
    by_cases haudio : t.audio = true
    · rw [if_pos haudio]
      exact closeAudio_ledger t
    · rw [if_neg haudio, closeAudioCalls, if_neg haudio]
      exact ThreadLedger.refl t
  · have hstarted := startAudioSession_ledger io opens t stream htidy
    rw [if_neg hwants, if_neg hwants]
    dsimp only
    split
    · exact hstarted
    · have hvolume := hstarted.trans (updateAudioVolume_ledger _ stream)
      rw [List.append_nil] at hvolume
      exact hvolume

/-- **An iteration of the audio task** up to its poll. -/
theorem applyStream_ledger (io : SessionIo) (opens : OpenIo) (t : AudioThread)
    (stream : StreamState) (htidy : PtpTidy t.pipeline.ptp) :
    ThreadLedger t (applyStream (io.withOpens opens) t stream).thread
      (applyStreamCalls io opens t stream) := by
  have htransport := updateAudioTransport_ledger t stream
  have hswitched := htransport.trans
    (switchAudio_ledger io opens (updateAudioTransport t stream) stream (htransport.tidy htidy))
  rw [applyStream, applyStreamCalls]
  split
  · exact hswitched
  · have hanchored := hswitched.trans (updateAudioAnchor_ledger _ stream)
    rw [List.append_nil] at hanchored
    exact hanchored

/-- The phase of the task is not a resource. -/
theorem ThreadLedger.phase {t after : AudioThread} {calls : List ResourceCall}
    (h : ThreadLedger t after calls) (phase : AudioPhase) :
    ThreadLedger t { after with phase := phase } calls := ⟨h.replay, h.tidy⟩

theorem iterationStep_ledger (io : SessionIo) (opens : OpenIo) (s : AirplayServer)
    (htidy : PtpTidy s.audio.pipeline.ptp) :
    ThreadLedger s.audio (iterationStep (io.withOpens opens) s).1.audio
      (iterationCalls io opens s) := by
  rw [iterationStep_eq, iterationCalls]
  by_cases hstopping : s.stopping = true
  · rw [if_pos hstopping, if_pos hstopping]
    exact (closeAudio_ledger s.audio).phase _
  · have happlied := applyStream_ledger io opens s.audio s.stream htidy
    rw [if_neg hstopping, if_neg hstopping]
    dsimp only
    split
    · exact (happlied.trans (closeAudio_ledger _)).phase _
    · rw [List.append_nil]
      exact happlied.phase _

theorem turnStep_ledger (prim : Primitives) (io : AudioIo) (s : AirplayServer)
    (phase : PollPhase) :
    ThreadLedger s.audio (turnStep prim io s phase).1.audio
      (pollTurnCalls io.turn s.audio.pipeline phase) := by
  have hturn := pollTurn_ledger prim.aead io.turn s.audio.pipeline phase
  rw [turnStep_audio]
  exact ThreadLedger.pipeline rfl hturn

/-- **Every step of the audio task.** -/
theorem audioStep_ledger (prim : Primitives) (io : AudioIo) (opens : OpenIo) (s : AirplayServer)
    (htidy : PtpTidy s.audio.pipeline.ptp) :
    ThreadLedger s.audio
      (audioStep prim { io with session := io.session.withOpens opens } s).1.audio
      (audioStepCalls io opens s) := by
  rw [audioStep, audioStepCalls]
  cases s.audio.phase with
  | iteration => exact iterationStep_ledger io.session opens s htidy
  | polling phase => exact turnStep_ledger prim _ s phase
  | finished => exact ThreadLedger.refl s.audio

/-! ## The server as a whole -/

/-- What the RTSP server holds. -/
def rtspHeld : Option RtspServer → Multiset Resource
  | none => 0
  | some rtsp => .stateLock ::ₘ rtsp.held

/-- What the audio task holds, with the sockets of the RTP receiver. -/
def audioHeld : Option (List NetSocket × AudioThread) → Multiset Resource
  | none => 0
  | some (sockets, t) => rtpHeld sockets + t.held

/-- The socket of discovery. -/
def discoveryHeld : Option NetSocket → Multiset Resource
  | none => 0
  | some socket => socket.held

/-- What a server holds that was initialized, as far as it was. -/
def ServerInstance.held (s : ServerInstance) : Multiset Resource :=
  audioHeld s.audio + discoveryHeld s.discovery + rtspHeld s.rtsp +
    {Resource.controlLock, Resource.cryptoMemory}

/-- A slot without a connection has no event channel, a clock that is not in use has no
sockets, and the RTP receiver has no more than its three. -/
structure ServerInstance.Tidy (s : ServerInstance) : Prop where
  rtsp : ∀ rtsp, s.rtsp = some rtsp → rtsp.Tidy
  audio : ∀ sockets t, s.audio = some (sockets, t) →
    PtpTidy t.pipeline.ptp ∧ sockets.length ≤ 3

/-- The device goes first. -/
theorem replay_closeAudio (sockets : List NetSocket) (t : AudioThread)
    (frame : Multiset Resource) :
    replay (audioHeld (some (sockets, t)) + frame) (closeAudioCalls t) =
      some (rtpHeld sockets + (t.pipeline.held + frame)) := by
  have hclosed := replay_frame (rtpHeld sockets + frame) _ (closeAudio_ledger t).replay
  have hafter : (closeAudio t).held = t.pipeline.held := by
    have hsame := Option.some.inj (stop_ledger t.pipeline).replay
    rw [AudioThread.held, closeAudio, if_neg Bool.noConfusion, Multiset.zero_add, hsame]
  have hbefore : audioHeld (some (sockets, t)) + frame =
      t.held + (rtpHeld sockets + frame) := by
    rw [audioHeld]
    abel
  rw [hbefore, hclosed, hafter]
  congr 1
  abel

/-- **`airplay_server_deinit`** gives back all that was initialized. -/
theorem airplayServerDeinit_ledger (s : ServerInstance) :
    replay s.held (airplayServerDeinitCalls s) = some 0 := by
  have hlocks : replay {Resource.controlLock, Resource.cryptoMemory}
      [.give .controlLock, .give .cryptoMemory] = some 0 := rfl
  have hrtsp : replay (rtspHeld s.rtsp + {Resource.controlLock, Resource.cryptoMemory})
      (match s.rtsp with
        | none => []
        | some rtsp => rtspServerCloseCalls rtsp) =
      some {Resource.controlLock, Resource.cryptoMemory} := by
    cases s.rtsp with
    | none => exact congrArg some (Multiset.zero_add _)
    | some rtsp =>
        have hclosed := replay_frame {Resource.controlLock, Resource.cryptoMemory} _
          (rtspServerClose_ledger rtsp)
        rw [Multiset.zero_add] at hclosed
        exact hclosed
  have hdiscovery : ∀ frame : Multiset Resource,
      replay (discoveryHeld s.discovery + frame)
        (match s.discovery with
          | none => []
          | some socket => netClose socket) = some frame := by
    intro frame
    cases s.discovery with
    | none => exact congrArg some (Multiset.zero_add _)
    | some socket => exact replay_netClose socket frame
  rw [ServerInstance.held, airplayServerDeinitCalls]
  cases s.audio with
  | none =>
      have hrest := hdiscovery (rtspHeld s.rtsp + {Resource.controlLock, Resource.cryptoMemory})
      rw [audioHeld, Multiset.zero_add, Multiset.add_assoc, List.nil_append, List.append_nil]
      exact replay_trans (replay_trans hrest hrtsp) hlocks
  | some audio =>
      obtain ⟨sockets, t⟩ := audio
      have hdevice := replay_closeAudio sockets t (discoveryHeld s.discovery +
        (rtspHeld s.rtsp + {Resource.controlLock, Resource.cryptoMemory}))
      have hsocket := hdiscovery (rtpHeld sockets + (t.pipeline.held +
        (rtspHeld s.rtsp + {Resource.controlLock, Resource.cryptoMemory})))
      have hpipeline := audioPipelineClose_ledger sockets t.pipeline
        (rtspHeld s.rtsp + {Resource.controlLock, Resource.cryptoMemory})
      have hbetween : rtpHeld sockets + (t.pipeline.held + (discoveryHeld s.discovery +
          (rtspHeld s.rtsp + {Resource.controlLock, Resource.cryptoMemory}))) =
          discoveryHeld s.discovery + (rtpHeld sockets + (t.pipeline.held +
            (rtspHeld s.rtsp + {Resource.controlLock, Resource.cryptoMemory}))) := by
        abel
      rw [hbetween] at hdevice
      rw [Multiset.add_assoc, Multiset.add_assoc]
      exact replay_trans (replay_trans (replay_trans (replay_trans hdevice hsocket) hpipeline)
        hrtsp) hlocks

/-! ## Initialization -/

/-- An initialization that fails leaves nothing, and one that succeeds what the server holds. -/
def InitResult.Settles (r : InitResult) : Prop :=
  match r.server with
  | none => replay 0 r.calls = some 0
  | some s => replay 0 r.calls = some s.held ∧ s.Tidy

theorem initFails_settles {calls : List ResourceCall} {s : ServerInstance}
    (h : replay 0 calls = some s.held) : (initFails calls s).Settles :=
  replay_trans h (airplayServerDeinit_ledger s)

/-- Discovery keeps its socket exactly where it is announced. -/
theorem airplayDiscoveryInit_ledger (calls : DiscoveryCalls) (handle : ℕ) (config : AirplayConfig)
    (frame : Multiset Resource) :
    replay frame (airplayDiscoveryInitCalls calls handle config) =
      some (if (startDiscovery calls config).ok then
        NetSocket.held ⟨some handle, 5353⟩ + frame
      else frame) := by
  have hentries : ((raopTxt config).map some).length = (raopTxt config).length :=
    List.length_map ..
  -- a check that fails opens nothing
  have hrefused : (startDiscovery calls config).ok = false →
      replay frame [] = some (if (startDiscovery calls config).ok then
        NetSocket.held ⟨some handle, 5353⟩ + frame else frame) := by
    intro hfails
    rw [hfails]
    rfl
  rw [airplayDiscoveryInitCalls]
  split
  · rename_i hchecks
    apply hrefused
    rw [startDiscovery, airplayDiscoveryInit, hentries, if_pos hchecks]
  · rename_i hchecks
    split
    · rename_i hraop
      apply hrefused
      rw [startDiscovery, airplayDiscoveryInit, hentries, if_neg hchecks, if_pos hraop]
    · rename_i hraop
      split
      · rename_i hhostname
        apply hrefused
        rw [startDiscovery, airplayDiscoveryInit, hentries, if_neg hchecks, if_neg hraop,
          if_pos hhostname]
      · rename_i hhostname
        split
        · rename_i hbind
          apply hrefused
          rw [startDiscovery, airplayDiscoveryInit, hentries, if_neg hchecks, if_neg hraop,
            if_neg hhostname, if_pos (Or.inl hbind)]
        · have hopened := replay_netOpened ⟨some handle, 5353⟩ frame
          cases (startDiscovery calls config).ok with
          | true =>
              rw [if_neg Bool.noConfusion, if_pos rfl, List.append_nil]
              exact hopened
          | false =>
              rw [if_pos rfl, if_neg Bool.noConfusion]
              exact replay_trans hopened (replay_netClose _ _)

section Init

variable (io : InitIo) (config : AirplayConfig) {calls : List ResourceCall} {s : ServerInstance}

theorem initDiscovery_settles (h : replay 0 calls = some s.held) (htidy : s.Tidy)
    (hnone : s.discovery = none) : (initDiscovery io config calls s).Settles := by
  have hdiscovery := replay_trans h
    (airplayDiscoveryInit_ledger io.discovery io.discoverySocket config s.held)
  rw [initDiscovery]
  by_cases hfails : (startDiscovery io.discovery config).ok = false
  · rw [hfails, if_neg Bool.noConfusion] at hdiscovery
    rw [if_pos hfails]
    exact initFails_settles hdiscovery
  · rw [Bool.not_eq_false] at hfails
    rw [hfails, if_pos rfl] at hdiscovery
    rw [hfails, if_neg Bool.noConfusion]
    refine ⟨hdiscovery.trans (congrArg some ?_), ⟨htidy.rtsp, htidy.audio⟩⟩
    rw [ServerInstance.held, ServerInstance.held, hnone]
    dsimp only [discoveryHeld]
    abel

theorem initAudio_settles (h : replay 0 calls = some s.held) (htidy : s.Tidy)
    (haudio : s.audio = none) (hnone : s.discovery = none) :
    (initAudio io config calls s).Settles := by
  have hcreated := replay_trans h (audioPipelineCreate_ledger io.rtp
    (io.buffered.map fun handle => (⟨some handle, 6000⟩ : NetSocket)) s.held)
  rw [initAudio]
  split
  · exact initFails_settles h
  · dsimp only
    by_cases hbound : (rtpReceiverSockets io.rtp).2 = false
    · rw [hbound, if_neg Bool.noConfusion] at hcreated
      rw [if_pos hbound]
      exact initFails_settles hcreated
    · rw [if_neg hbound]
      rw [Bool.not_eq_false] at hbound
      rw [hbound, if_pos rfl] at hcreated
      cases hlistener : io.buffered with
      | none =>
          rw [hlistener] at hcreated
          exact initFails_settles hcreated
      | some handle =>
          rw [hlistener] at hcreated
          dsimp only [Option.map_some] at hcreated
          obtain ⟨hheld, hclock⟩ := create_held ⟨some handle, 6000⟩
          apply initDiscovery_settles
          · refine hcreated.trans (congrArg some ?_)
            rw [ServerInstance.held, ServerInstance.held, haudio]
            dsimp only [audioHeld, AudioThread.held, AudioThread.start]
            rw [hheld, if_neg Bool.noConfusion]
            abel
          · refine ⟨htidy.rtsp, fun sockets t haudio => ?_⟩
            obtain ⟨rfl, rfl⟩ := Prod.mk.inj (Option.some.inj haudio)
            exact ⟨hclock, bindInTurn_length _⟩
          · exact hnone

theorem rtspSetIdentity_held {s named : RtspServer} {localIp localMacHex : CString}
    (h : rtspSetIdentity s localIp localMacHex = some named) :
    named.held = s.held ∧ (s.Tidy → named.Tidy) := by
  rw [rtspSetIdentity] at h
  split at h
  · contradiction
  · split at h
    · contradiction
    · rw [← Option.some.inj h]
      exact ⟨rfl, id⟩

/-- A server of which only the RTSP server is there. -/
theorem rtspOnly_held {s : ServerInstance} (rtsp : RtspServer) (hrtsp : s.rtsp = some rtsp)
    (haudio : s.audio = none) (hdiscovery : s.discovery = none) :
    s.held = rtsp.held + (.stateLock ::ₘ {Resource.controlLock, Resource.cryptoMemory}) := by
  rw [ServerInstance.held, hrtsp, haudio, hdiscovery]
  dsimp only [audioHeld, discoveryHeld, rtspHeld]
  rw [Multiset.zero_add, Multiset.zero_add, Multiset.cons_add, Multiset.add_cons]

theorem initRtsp_settles
    (h : replay 0 calls = some {Resource.controlLock, Resource.cryptoMemory}) :
    (initRtsp io config calls).Settles := by
  have hcreated := replay_trans h (rtspServerCreate_ledger io.stateLock
    (io.listener.map fun handle => (⟨some handle, airplayRtspPort⟩ : NetSocket)) _)
  rw [initRtsp]
  dsimp only
  cases hlistener : (if io.stateLock then
      io.listener.map fun handle => (⟨some handle, airplayRtspPort⟩ : NetSocket) else none) with
  | none =>
      rw [hlistener] at hcreated
      exact initFails_settles (s := ServerInstance.bare) hcreated
  | some listener =>
      obtain ⟨hheld, htidy⟩ := initial_ledger listener [] [] []
      rw [hlistener] at hcreated
      dsimp only at hcreated ⊢
      cases hnamed : rtspSetIdentity (rtspServerCreate listener) (cString config.localIp)
          (cString config.localMacHex) with
      | none =>
          apply initFails_settles
          rw [rtspOnly_held (rtspServerCreate listener) rfl rfl rfl]
          exact hcreated.trans (congrArg (fun held => some (held + _)) hheld.symm)
      | some named =>
          obtain ⟨hsame, hkeeps⟩ := rtspSetIdentity_held hnamed
          apply initAudio_settles
          · rw [rtspOnly_held { named with deviceName := cString config.deviceName } rfl rfl rfl]
            exact hcreated.trans
              (congrArg (fun held => some (held + _)) (hsame.trans hheld).symm)
          · refine ⟨fun rtsp hrtsp => ?_, fun sockets t haudio => by contradiction⟩
            rw [← Option.some.inj hrtsp]
            exact hkeeps htidy
          · rfl
          · rfl

/-- **`airplay_server_init`** keeps nothing where it fails. -/
theorem airplayServerInit_settles : (airplayServerInit io config).Settles := by
  rw [airplayServerInit]
  split
  · rfl
  · split
    · rfl
    · exact initRtsp_settles io config rfl

end Init

/-! ## Every sequence of starts and stops -/

/-- The tasks that were created. -/
def tasksHeld (started : ℕ) : Multiset Resource :=
  ((List.range started).map Resource.task : List Resource)

/-- What is held in a state of the platform. -/
def Platform.held : Platform → Multiset Resource
  | .idle => 0
  | .active server started =>
      tasksHeld started + {Resource.eventGroup, Resource.network} + server.held

/-- The server of an active platform is tidy, and there are three tasks. -/
def Platform.Tidy : Platform → Prop
  | .idle => True
  | .active server started => server.Tidy ∧ started ≤ 3

/-- What a step leaves: its calls lead from what was held to what is held. -/
structure PlatformLedger (p : Platform) (r : PlatformResult) : Prop where
  replay : replay p.held r.calls = some r.state.held
  tidy : r.state.Tidy

/-- Tasks are created one after the other. -/
theorem replay_createTasks (started : ℕ) (frame : Multiset Resource) :
    replay frame ((List.range started).map fun task => .take (.task task)) =
      some (tasksHeld started + frame) := by
  induction started with
  | zero => exact congrArg some (Multiset.zero_add frame).symm
  | succ started ih =>
      rw [List.range_succ, List.map_append]
      apply replay_trans ih
      have hone : tasksHeld (started + 1) = tasksHeld started + {Resource.task started} := by
        rw [tasksHeld, List.range_succ, List.map_append]
        rfl
      rw [hone, List.map_singleton, replay_take, replay_nil, ← Multiset.singleton_add]
      congr 1
      abel

/-- They are deleted in the opposite order. -/
theorem replay_deleteTasks (started : ℕ) (frame : Multiset Resource) :
    replay (tasksHeld started + frame)
      ((List.range started).reverse.map fun task => .give (.task task)) = some frame := by
  have hgives := replay_gives (((List.range started).reverse).map Resource.task) frame
  have hsame : ((((List.range started).reverse).map Resource.task : List Resource) :
      Multiset Resource) = tasksHeld started := by
    rw [List.map_reverse]
    exact Multiset.coe_reverse _
  rw [hsame, List.map_map] at hgives
  exact hgives

/-- **A start** that fails keeps nothing. -/
theorem platformStart_ledger (config : AirplayConfig) (io : StartIo) :
    PlatformLedger .idle (platformStart config io) := by
  have hinit := airplayServerInit_settles io.init config
  rw [platformStart]
  by_cases hnetwork : io.network = false
  · rw [if_pos hnetwork]
    exact ⟨rfl, trivial⟩
  · rw [if_neg hnetwork]
    dsimp only
    rw [InitResult.Settles] at hinit
    generalize airplayServerInit io.init config = init at hinit ⊢
    obtain ⟨calls, server⟩ := init
    cases server with
    | none =>
        dsimp only at hinit ⊢
        refine ⟨?_, trivial⟩
        have hframed := replay_frame {Resource.network} calls hinit
        exact replay_trans (hframed.trans (congrArg some (Multiset.zero_add _))) rfl
    | some server =>
        dsimp only at hinit ⊢
        obtain ⟨hreplay, htidy⟩ := hinit
        have hframed := replay_frame {Resource.network} calls hreplay
        rw [Multiset.zero_add] at hframed
        by_cases hgroup : io.eventGroup = false
        · rw [if_pos hgroup]
          refine ⟨?_, trivial⟩
          have hclosed := replay_frame {Resource.network} _ (airplayServerDeinit_ledger server)
          rw [Multiset.zero_add] at hclosed
          exact replay_trans (replay_trans hframed hclosed) rfl
        · rw [if_neg hgroup]
          refine ⟨?_, htidy, Nat.min_le_right _ _⟩
          apply replay_trans hframed
          have htasks := replay_createTasks (min io.tasks 3)
            (.eventGroup ::ₘ (server.held + {Resource.network}))
          refine htasks.trans (congrArg some ?_)
          rw [Platform.held, ← Multiset.singleton_add]
          have hpair : ({Resource.eventGroup, Resource.network} : Multiset Resource) =
              {Resource.eventGroup} + {Resource.network} := rfl
          rw [hpair]
          abel

/-- **A stop** keeps nothing. -/
theorem platformStop_ledger (server : ServerInstance) (started : ℕ) :
    PlatformLedger (.active server started) (platformStop server started) where
  replay := by
    have htasks := replay_deleteTasks started
      (.eventGroup ::ₘ (server.held + {Resource.network}))
    have hclosed := replay_frame {Resource.network} _ (airplayServerDeinit_ledger server)
    have hheld : (Platform.active server started).held =
        tasksHeld started + (.eventGroup ::ₘ (server.held + {Resource.network})) := by
      have hpair : ({Resource.eventGroup, Resource.network} : Multiset Resource) =
          {Resource.eventGroup} + {Resource.network} := rfl
      rw [Platform.held, hpair, ← Multiset.singleton_add]
      abel
    rw [Multiset.zero_add] at hclosed
    rw [hheld, platformStop]
    dsimp only
    rw [List.append_assoc]
    apply replay_trans htasks
    rw [List.cons_append, replay_give]
    exact replay_trans hclosed rfl
  tidy := trivial

/-- A step of a task that was started. -/
theorem taskStep_ledger (number : ℕ)
    (step : ServerInstance → ServerInstance × List ResourceCall)
    (hstep : ∀ s : ServerInstance, s.Tidy →
      replay s.held (step s).2 = some (step s).1.held ∧ (step s).1.Tidy)
    {p : Platform} (htidy : p.Tidy) : PlatformLedger p (taskStep number step p) := by
  cases p with
  | idle => exact ⟨rfl, trivial⟩
  | active server started =>
      obtain ⟨hreplay, hafter⟩ := hstep server htidy.1
      rw [taskStep]
      split
      · refine ⟨?_, hafter, htidy.2⟩
        have hframed := replay_frame
          (tasksHeld started + {Resource.eventGroup, Resource.network}) _ hreplay
        rw [Platform.held, Multiset.add_comm, hframed]
        exact congrArg some (Multiset.add_comm _ _)
      · exact ⟨rfl, htidy⟩

theorem fail_ledger {s after : ServerInstance} {calls : List ResourceCall}
    (h : replay s.held calls = some after.held ∧ after.Tidy) :
    replay s.held calls = some after.broken.held ∧ after.broken.Tidy :=
  ⟨h.1, ⟨h.2.rtsp, h.2.audio⟩⟩

/-- What an RTSP server does within the server it is part of. -/
theorem rtspPart_ledger {s : ServerInstance} {rtsp after : RtspServer}
    {calls : List ResourceCall} (hrtsp : s.rtsp = some rtsp)
    (h : replay rtsp.held calls = some after.held) :
    replay s.held calls = some (ServerInstance.held { s with rtsp := some after }) := by
  have hpart : ∀ part : RtspServer, ServerInstance.held { s with rtsp := some part } =
      part.held + (audioHeld s.audio + discoveryHeld s.discovery +
        ({Resource.stateLock} + {Resource.controlLock, Resource.cryptoMemory})) := by
    intro part
    rw [ServerInstance.held]
    dsimp only [rtspHeld]
    rw [← Multiset.singleton_add]
    abel
  have hbefore : s.held = ServerInstance.held { s with rtsp := some rtsp } := by
    rw [ServerInstance.held, ServerInstance.held, hrtsp]
  rw [hbefore, hpart rtsp, hpart after]
  exact replay_frame _ calls h

/-- A round of the RTSP task. -/
theorem rtspTaskStep_ledger (prim : Primitives) (io : PollIo) (s : ServerInstance)
    (htidy : s.Tidy) :
    replay s.held (rtspTaskStep prim io s).2 = some (rtspTaskStep prim io s).1.held ∧
      (rtspTaskStep prim io s).1.Tidy := by
  rw [rtspTaskStep]
  cases hrtsp : s.rtsp with
  | none => exact ⟨rfl, htidy⟩
  | some rtsp =>
      dsimp only
      split
      · exact ⟨rfl, htidy⟩
      · have hpoll := rtspServerPoll_ledger prim io (htidy.rtsp rtsp hrtsp)
        have hafter : replay s.held (rtspServerPollCalls prim io rtsp) =
            some (ServerInstance.held
              { s with rtsp := some (rtspServerPoll prim io rtsp).server }) ∧
            ServerInstance.Tidy { s with rtsp := some (rtspServerPoll prim io rtsp).server } := by
          refine ⟨rtspPart_ledger hrtsp hpoll.replay, ⟨fun after hsome => ?_, htidy.audio⟩⟩
          rw [← Option.some.inj hsome]
          exact hpoll.tidy
        split
        · exact hafter
        · exact fail_ledger hafter

/-- A step of the audio task. -/
theorem audioTaskStep_ledger (prim : Primitives) (stream : StreamState) (io : AudioIo)
    (opens : OpenIo) (s : ServerInstance) (htidy : s.Tidy) :
    replay s.held (audioTaskStep prim stream io opens s).2 =
        some (audioTaskStep prim stream io opens s).1.held ∧
      (audioTaskStep prim stream io opens s).1.Tidy := by
  rw [audioTaskStep]
  split
  · rename_i rtsp sockets t hrtsp haudio
    have hstep := audioStep_ledger prim io opens (s.seen rtsp t stream)
      (htidy.audio sockets t haudio).1
    refine ⟨?_, ⟨htidy.rtsp, fun others after hsome => ?_⟩⟩
    · have hframed := replay_frame (rtpHeld sockets + (discoveryHeld s.discovery +
        (rtspHeld s.rtsp + {Resource.controlLock, Resource.cryptoMemory}))) _ hstep.replay
      have hpart : ∀ part : AudioThread, audioHeld (some (sockets, part)) +
          discoveryHeld s.discovery + rtspHeld s.rtsp +
            {Resource.controlLock, Resource.cryptoMemory} =
          part.held + (rtpHeld sockets + (discoveryHeld s.discovery +
            (rtspHeld s.rtsp + {Resource.controlLock, Resource.cryptoMemory}))) := by
        intro part
        rw [audioHeld]
        abel
      rw [ServerInstance.held, haudio, ServerInstance.held, hpart t]
      dsimp only
      rw [hpart]
      exact hframed
    · obtain ⟨rfl, rfl⟩ := Prod.mk.inj (Option.some.inj hsome)
      obtain ⟨hclock, hthree⟩ := htidy.audio sockets t haudio
      exact ⟨hstep.tidy hclock, hthree⟩
  · exact ⟨rfl, htidy⟩

/-- **Every step of the platform.** -/
theorem platformStep_ledger (prim : Primitives) {p : Platform} (htidy : p.Tidy)
    (step : PlatformStep) : PlatformLedger p (platformStep prim p step) := by
  cases step with
  | start config io =>
      cases p with
      | idle => exact platformStart_ledger config io
      | active server started => exact ⟨rfl, htidy⟩
  | request =>
      cases p with
      | idle => exact ⟨rfl, trivial⟩
      | active server started => exact ⟨rfl, ⟨htidy.1.rtsp, htidy.1.audio⟩, htidy.2⟩
  | stop =>
      cases p with
      | idle => exact ⟨rfl, trivial⟩
      | active server started => exact platformStop_ledger server started
  | discovery succeeds =>
      apply taskStep_ledger 0 _ _ htidy
      intro s hs
      dsimp only
      split
      · exact ⟨rfl, hs⟩
      · exact fail_ledger ⟨rfl, hs⟩
  | rtsp io => exact taskStep_ledger 1 _ (rtspTaskStep_ledger prim io) htidy
  | audio stream io opens =>
      exact taskStep_ledger 2 _ (audioTaskStep_ledger prim stream io opens) htidy

/-- The calls of a run, in their order. -/
def platformCalls (prim : Primitives) (p : Platform) (steps : List PlatformStep) :
    List ResourceCall :=
  (((platformMachine prim).run p steps).2.map Prod.fst).flatten

/-- What a run leaves. -/
theorem platformRun_ledger (prim : Primitives) (steps : List PlatformStep) {p : Platform}
    (htidy : p.Tidy) :
    replay p.held (platformCalls prim p steps) =
        some ((platformMachine prim).run p steps).1.held ∧
      ((platformMachine prim).run p steps).1.Tidy := by
  refine (platformMachine prim).run_history_invariant
    (fun after log => replay p.held (log.map Prod.fst).flatten = some after.held ∧ after.Tidy)
    ?_ steps p [] ⟨rfl, htidy⟩
  intro s log step hs
  have hstep := platformStep_ledger prim hs.2 step
  refine ⟨?_, hstep.tidy⟩
  rw [List.map_append, List.flatten_append, List.map_singleton, List.flatten_singleton]
  exact replay_trans hs.1 hstep.replay

/-- **Nothing is kept**: over every sequence of starts, stops and steps of the tasks, whatever
fails, nothing is closed that is not open, what is open at the end is what the state says, and
once the platform is stopped each resource was closed as often as it was opened. -/
theorem platform_ledger (prim : Primitives) (steps : List PlatformStep) :
    replay 0 (platformCalls prim .idle steps) =
        some ((platformMachine prim).run .idle steps).1.held ∧
      (((platformMachine prim).run .idle steps).1 = .idle →
        ∀ r, takes r (platformCalls prim .idle steps) =
          gives r (platformCalls prim .idle steps)) := by
  obtain ⟨hreplay, -⟩ := platformRun_ledger prim steps (p := .idle) trivial
  refine ⟨hreplay, fun hidle r => ?_⟩
  rw [hidle] at hreplay
  exact settled_count hreplay r

/-! ## How much is open at a time -/

theorem netSocket_card (socket : NetSocket) : socket.held.card ≤ 1 := by
  rw [NetSocket.held, NetSocket.resources, Multiset.coe_card]
  cases socket.handle with
  | none => exact Nat.zero_le 1
  | some handle => exact le_refl 1

theorem rtpHeld_card (sockets : List NetSocket) : (rtpHeld sockets).card ≤ sockets.length := by
  rw [rtpHeld]
  induction sockets with
  | nil => exact le_refl 0
  | cons socket sockets ih =>
      have hone := netSocket_card socket
      rw [List.map_cons, List.sum_cons, Multiset.card_add, List.length_cons]
      omega

/-- A connection has at most three sockets, an RTSP server those and its listener. -/
theorem rtspHeld_card (rtsp : Option RtspServer) : (rtspHeld rtsp).card ≤ 8 := by
  cases rtsp with
  | none => exact Nat.zero_le 8
  | some rtsp =>
      have hclient : ∀ i, (rtsp.clients i).held.card ≤ 3 := by
        intro i
        have hsocket := netSocket_card (rtsp.clients i).socket
        have hevents := netSocket_card (rtsp.clients i).eventClient
        have hlistener := netSocket_card (rtsp.clients i).eventListener
        rw [RtspClient.held, Multiset.card_add, Multiset.card_add]
        omega
      have hlistener := netSocket_card rtsp.listener
      have hclients : (∑ i, (rtsp.clients i).held).card ≤ 6 := by
        rw [Multiset.card_sum]
        exact Finset.sum_le_card_nsmul Finset.univ _ 3 fun i _ => hclient i
      rw [rtspHeld, Multiset.card_cons, RtspServer.held, Multiset.card_add]
      omega

theorem pipelineHeld_card (p : AudioPipeline) : p.held.card ≤ 6 := by
  have hclient := netSocket_card p.buffered.client
  have hlistener := netSocket_card p.buffered.listener
  have hevent := netSocket_card p.ptp.sockets.1
  have hgeneral := netSocket_card p.ptp.sockets.2
  have halac : (p.alacDecoder.resources : Multiset Resource).card ≤ 1 := by
    rw [Multiset.coe_card, AlacDecoder.resources]
    split <;> decide
  have haac : (p.aacDecoder.resources : Multiset Resource).card ≤ 1 := by
    rw [Multiset.coe_card, AacDecoder.resources]
    split <;> decide
  rw [AudioPipeline.held, BufferedAudio.held, ptpHeld, AudioPipeline.decodersHeld,
    Multiset.card_add, Multiset.card_add, Multiset.card_add, Multiset.card_add,
    Multiset.card_add]
  omega

/-- **What a server holds is bounded.** -/
theorem ServerInstance.Tidy.held_card {s : ServerInstance} (htidy : s.Tidy) : s.held.card ≤ 21 := by
  have hrtsp := rtspHeld_card s.rtsp
  have hdiscovery : (discoveryHeld s.discovery).card ≤ 1 := by
    cases s.discovery with
    | none => exact Nat.zero_le 1
    | some socket => exact netSocket_card socket
  have haudio : (audioHeld s.audio).card ≤ 10 := by
    cases hsome : s.audio with
    | none => exact Nat.zero_le 10
    | some audio =>
        obtain ⟨sockets, t⟩ := audio
        have hthree := (htidy.audio sockets t hsome).2
        have hsockets := rtpHeld_card sockets
        have hpipeline := pipelineHeld_card t.pipeline
        have hdevice : (if t.audio then {Resource.device} else 0 : Multiset Resource).card ≤ 1 := by
          split <;> decide
        rw [audioHeld, AudioThread.held, Multiset.card_add, Multiset.card_add]
        omega
  have hlocks : ({Resource.controlLock, Resource.cryptoMemory} : Multiset Resource).card = 2 :=
    rfl
  rw [ServerInstance.held, Multiset.card_add, Multiset.card_add, Multiset.card_add, hlocks]
  omega

/-- **What the platform holds is bounded.** -/
theorem Platform.Tidy.held_card {p : Platform} (htidy : p.Tidy) : p.held.card ≤ 26 := by
  cases p with
  | idle => exact Nat.zero_le 26
  | active server started =>
      obtain ⟨hserver, hthree⟩ := htidy
      have hheld := hserver.held_card
      have htasks : (tasksHeld started).card = started := by
        rw [tasksHeld, Multiset.coe_card, List.length_map, List.length_range]
      have hpair : ({Resource.eventGroup, Resource.network} : Multiset Resource).card = 2 := rfl
      rw [Platform.held, Multiset.card_add, Multiset.card_add, htasks, hpair]
      omega

/-- **However many senders connect**, the calls of a run leave no more than 26 resources open: what
is taken and not yet given back, counted over all calls of the run. -/
theorem resources_bounded (prim : Primitives) (steps : List PlatformStep) :
    ∃ left : Multiset Resource, replay 0 (platformCalls prim .idle steps) = some left ∧
      (∀ r, takes r (platformCalls prim .idle steps) =
        left.count r + gives r (platformCalls prim .idle steps)) ∧
      left.card ≤ 26 := by
  obtain ⟨hreplay, htidy⟩ := platformRun_ledger prim steps (p := .idle) trivial
  refine ⟨_, hreplay, fun r => ?_, htidy.held_card⟩
  have hcount := replay_count r _ hreplay
  rw [Platform.held, Multiset.count_zero, Nat.zero_add] at hcount
  exact hcount

end PortableAirplay.Service
