import PortableAirplay.Audio.PipelinePoll
import PortableAirplay.Protocol.StreamOwnership

/-!
# The receiver service

`service/server.c`: the audio thread, and the whole receiver as two threads that run
in any order. The control plane is the one of `Protocol.StreamOwnership`; the audio
thread is cut at the points where it reads the shared stream state, the network or
the clock. An iteration copies the stream state under its lock and works on the copy,
and until its poll begins it touches nothing that the control plane reads, so copying
and applying are one step.

A step reports what the audio thread did: the calls that the pipeline got, or the
turn of the poll (`ServerEvent`).
-/

set_option autoImplicit false

namespace PortableAirplay.Service

open PortableAirplay.Airplay
open PortableAirplay.Audio
open PortableAirplay.Library
open PortableAirplay.Platform
open PortableAirplay.Protocol
open PortableAirplay.Sync

/-! ## The audio thread -/

/-- `audio_loop_state_t`. -/
structure AudioLoopState where
  generation : UInt32
  flushGeneration : UInt32
  transportGeneration : UInt32
  volumeDb : UInt32
  deriving DecidableEq, Repr

/-- Where the audio thread stands: before an iteration, in a poll, or after its loop. -/
inductive AudioPhase where
  | iteration
  | polling (phase : PollPhase)
  | finished
  deriving DecidableEq

/-- The audio thread: its loop state, whether the output device is open, and the
pipeline. -/
structure AudioThread where
  loop : AudioLoopState
  audio : Bool
  pipeline : AudioPipeline
  phase : AudioPhase

/-- The audio thread at its start, on a pipeline with the given listener. -/
def AudioThread.start (listener : NetSocket) : AudioThread where
  loop := ⟨0, 0, 0, 0⟩
  audio := false
  pipeline := audioPipelineCreate listener
  phase := .iteration

/-- A call that the pipeline gets while a stream state is applied. -/
inductive PipelineCall where
  | stop
  | setStart (timestamp : UInt32) (exclusive : Bool)
  | seek (sequence : UInt32)
  deriving DecidableEq, Repr

/-- What libraries and the platform answer while a session is started. -/
structure SessionIo where
  configure : ConfigureIo
  deviceOpens : Bool

/-- `close_audio`. -/
def closeAudio (t : AudioThread) : AudioThread :=
  { t with audio := false, pipeline := audioPipelineStop t.pipeline }

/-- `update_audio_transport`. -/
def updateAudioTransport (t : AudioThread) (stream : StreamState) : AudioThread :=
  if t.loop.transportGeneration = stream.generation then t
  else
    let peer := if stream.hasSession then stream.timingPeer else NetAddr.zero
    { t with
      pipeline := audioPipelineSetTransport t.pipeline peer
      loop := { t.loop with transportGeneration := stream.generation } }

/-- The outcome of applying a stream state: the thread, success, and the calls. -/
structure Applied where
  thread : AudioThread
  ok : Bool
  calls : List PipelineCall

/-- The boundary of a RECORD or FLUSH is given to the pipeline. -/
def applyFloor (t : AudioThread) (stream : StreamState) : Applied :=
  if stream.hasTimestampFloor then
    ⟨{ t with pipeline :=
          audioPipelineSetStart t.pipeline stream.timestampFloor stream.floorExclusive },
      true, [.setStart stream.timestampFloor stream.floorExclusive]⟩
  else ⟨t, true, []⟩

/-- A seek is given to the buffered connection. -/
def applySeek (t : AudioThread) (stream : StreamState) : Applied :=
  if stream.hasBufferedFlushSequence ∧ stream.session.streamType = streamTypeBuffered then
    ⟨{ t with pipeline :=
          { t.pipeline with
            buffered := bufferedAudioFlush t.pipeline.buffered stream.bufferedFlushSequence } },
      true, [.seek stream.bufferedFlushSequence]⟩
  else ⟨t, true, []⟩

/-- The end of `start_audio_session`, with the pipeline started. -/
def enterSession (t : AudioThread) (stream : StreamState) : Applied :=
  let t :=
    { t with
      loop :=
        { t.loop with
          generation := stream.generation
          flushGeneration := stream.flushGeneration
          volumeDb := stream.volumeDb }
      pipeline := audioPipelineSetVolume t.pipeline stream.volumeDb }
  let floor := applyFloor t stream
  let seek := applySeek floor.thread stream
  ⟨seek.thread, true, floor.calls ++ seek.calls⟩

/-- The audio device is open on the session that the stream state describes. -/
def upToDate (t : AudioThread) (stream : StreamState) : Bool :=
  t.audio && t.loop.generation == stream.generation &&
    t.loop.flushGeneration == stream.flushGeneration

/-- `start_audio_session` where it does not return at once. -/
def restartAudioSession (io : SessionIo) (t : AudioThread) (stream : StreamState) : Applied :=
  let t := closeAudio t
  let configured := audioPipelineConfigure io.configure t.pipeline stream.session
  let t := { t with pipeline := configured.1 }
  if configured.2 = false then ⟨t, false, [.stop]⟩
  else if io.deviceOpens = false then ⟨t, false, [.stop]⟩
  else
    let started := audioPipelineStart t.pipeline
    let t := { t with audio := true, pipeline := started.1 }
    if started.2 = false then ⟨closeAudio t, false, [.stop, .stop]⟩
    else
      let entered := enterSession t stream
      ⟨entered.thread, true, .stop :: entered.calls⟩

/-- `start_audio_session`. -/
def startAudioSession (io : SessionIo) (t : AudioThread) (stream : StreamState) : Applied :=
  if upToDate t stream then ⟨t, true, []⟩ else restartAudioSession io t stream

/-- `==` on the bits of two `float`s. -/
def floatEq (a b : UInt32) : Bool :=
  let isNan := fun (bits : UInt32) => decide (bits &&& 0x7fffffff > 0x7f800000)
  !isNan a && !isNan b && (a == b || (a ||| b) &&& 0x7fffffff == 0)

/-- `update_audio_volume`. -/
def updateAudioVolume (t : AudioThread) (stream : StreamState) : AudioThread :=
  if floatEq t.loop.volumeDb stream.volumeDb then t
  else
    { t with
      loop := { t.loop with volumeDb := stream.volumeDb }
      pipeline := audioPipelineSetVolume t.pipeline stream.volumeDb }

/-- The anchor of a session other than realtime is the one in the stream state. -/
def updateAudioAnchor (t : AudioThread) (stream : StreamState) : AudioThread :=
  if stream.session.streamType ≠ streamTypeRealtime then
    { t with
      pipeline :=
        { t.pipeline with
          anchor := stream.anchor
          ptp := ptpSyncSetClock t.pipeline.ptp stream.anchor.clockId } }
  else t

/-- The stream state asks for audio. -/
def wantsAudio (stream : StreamState) : Bool := stream.recording && stream.hasSession

/-- Audio is stopped or started as the stream state says. -/
def switchAudio (io : SessionIo) (t : AudioThread) (stream : StreamState) : Applied :=
  if wantsAudio stream = false then
    if t.audio then ⟨closeAudio t, true, [.stop]⟩ else ⟨t, true, []⟩
  else
    let r := startAudioSession io t stream
    if r.ok = false then r else { r with thread := updateAudioVolume r.thread stream }

/-- An iteration of `airplay_audio_main` up to its poll, on its copy of the stream
state. -/
def applyStream (io : SessionIo) (t : AudioThread) (stream : StreamState) : Applied :=
  let r := switchAudio io (updateAudioTransport t stream) stream
  if r.ok = false then r else { r with thread := updateAudioAnchor r.thread stream }

/-! ## The receiver -/

/-- What ends the tasks of a server; `failed` stands for the result -1. -/
structure ServerFlags where
  stopping : Bool
  failed : Bool
  deriving DecidableEq, Repr

/-- `server_fail`. -/
def ServerFlags.fail (flags : ServerFlags) : ServerFlags :=
  { flags with failed := true, stopping := true }

/-- `airplay_server_t`. -/
structure AirplayServer extends ServerFlags where
  control : ControlState
  audio : AudioThread

/-- The receiver after `airplay_server_init`. -/
def AirplayServer.initial (listener buffered : NetSocket)
    (localIp localMacHex deviceName : CString) : AirplayServer where
  control := ControlState.initial listener localIp localMacHex deviceName
  audio := AudioThread.start buffered
  stopping := false
  failed := false

/-- The stream state that the threads share. -/
def AirplayServer.stream (s : AirplayServer) : StreamState := s.control.server.stream

/-- The server fails. -/
def serverFail (s : AirplayServer) : AirplayServer := { s with toServerFlags := s.fail }

/-- What the outside has for a step of the audio thread; each step uses its own part.
`writes` tells whether the device takes all samples. -/
structure AudioIo where
  session : SessionIo
  turn : TurnIo
  writes : Bool

/-- A step of the receiver: a step of the control plane or of the audio thread, a call
of `airplay_server_stop`, or a failure of another thread. -/
inductive ServerStep where
  | control (step : ControlStep)
  | audio (io : AudioIo)
  | stop
  | fail

/-- What a step reports: nothing, the stream state that an iteration copied with
success and calls, a turn of the poll, or the end of the audio thread. -/
inductive ServerEvent where
  | quiet
  | iteration (stream : StreamState) (ok : Bool) (calls : List PipelineCall)
  | turn (event : TurnEvent)
  | ended
  deriving DecidableEq

/-- A step of the audio thread where the network has nothing and the device works. -/
def idleAudio : AudioIo where
  session := ⟨⟨none, false, fun _ => none⟩, true⟩
  turn :=
    { inputs := ⟨0, ⟨false, [], [], []⟩, ([], [])⟩
      record := ⟨⟨.timeout, .timeout, .timeout⟩, 0⟩
      play := ⟨0, 0, 0, none, id⟩ }
  writes := true

/-- What a step of the audio thread comes to: the thread, whether it calls `server_fail`, and
what is reported. -/
structure ThreadStep where
  thread : AudioThread
  fails : Bool
  event : ServerEvent

/-- `airplay_audio_main` from the head of its loop to its poll. -/
def iterate (io : SessionIo) (stopping : Bool) (t : AudioThread) (stream : StreamState) :
    ThreadStep :=
  if stopping then ⟨{ closeAudio t with phase := .finished }, false, .ended⟩
  else
    let r := applyStream io t stream
    if r.ok = false then
      ⟨{ closeAudio r.thread with phase := .finished }, true, .iteration stream false r.calls⟩
    else ⟨{ r.thread with phase := .polling .inputs }, false, .iteration stream true r.calls⟩

/-- `output_pcm` fails: the device did not take all samples. -/
def outputFails (t : AudioThread) (stopping writes : Bool) : TurnEvent → Bool
  | .submitted _ (_ :: _) => t.audio && !stopping && !writes
  | _ => false

/-- The phase of the thread after a turn. -/
def phaseAfter : PollPhase → AudioPhase
  | .done _ => .iteration
  | phase => .polling phase

/-- A turn of `audio_pipeline_poll`. -/
def threadTurn (aead : Aead) (io : AudioIo) (stopping : Bool) (t : AudioThread)
    (phase : PollPhase) : ThreadStep :=
  let turn := pollTurn aead io.turn t.pipeline phase
  ⟨{ t with pipeline := turn.pipeline, phase := phaseAfter turn.phase },
    turn.phase = .done false ∨ outputFails t stopping io.writes turn.event = true,
    .turn turn.event⟩

/-- The receiver after a step of its audio thread. -/
def AirplayServer.stepped (s : AirplayServer) (r : ThreadStep) : AirplayServer × ServerEvent :=
  let after := { s with audio := r.thread }
  (if r.fails then serverFail after else after, r.event)

section Steps

variable (prim : Primitives)

/-- An iteration. -/
def iterationStep (io : SessionIo) (s : AirplayServer) : AirplayServer × ServerEvent :=
  s.stepped (iterate io s.stopping s.audio s.stream)

/-- A turn of the poll. -/
def turnStep (io : AudioIo) (s : AirplayServer) (phase : PollPhase) :
    AirplayServer × ServerEvent :=
  s.stepped (threadTurn prim.aead io s.stopping s.audio phase)

/-- A step of the audio thread. -/
def audioStep (io : AudioIo) (s : AirplayServer) : AirplayServer × ServerEvent :=
  match s.audio.phase with
  | .iteration => iterationStep io.session s
  | .polling phase => turnStep prim io s phase
  | .finished => (s, .quiet)

/-- A step of the receiver. -/
def serverStep (s : AirplayServer) : ServerStep → AirplayServer × ServerEvent
  | .control step => ({ s with control := controlStep prim s.control step }, .quiet)
  | .audio io => audioStep prim io s
  | .stop => ({ s with stopping := true }, .quiet)
  | .fail => (serverFail s, .quiet)

/-- The receiver as a machine. -/
def serverMachine : Machine AirplayServer ServerStep ServerEvent where
  step := serverStep prim

/-- An iteration, written out. -/
theorem iterationStep_eq (io : SessionIo) (s : AirplayServer) : iterationStep io s =
    if s.stopping then
      ({ s with audio := { closeAudio s.audio with phase := .finished } }, .ended)
    else
      let r := applyStream io s.audio s.stream
      if r.ok = false then
        (serverFail { s with audio := { closeAudio r.thread with phase := .finished } },
          .iteration s.stream false r.calls)
      else
        ({ s with audio := { r.thread with phase := .polling .inputs } },
          .iteration s.stream true r.calls) := by
  rw [iterationStep, iterate]
  by_cases hstopping : s.stopping = true
  · rw [if_pos hstopping, if_pos hstopping]
    rfl
  · rw [if_neg hstopping, if_neg hstopping]
    dsimp only
    by_cases hfails : (applyStream io s.audio s.stream).ok = false
    · rw [if_pos hfails, if_pos hfails]
      rfl
    · rw [if_neg hfails, if_neg hfails]
      rfl

/-- The control plane goes on by itself. -/
theorem stepped_control (s : AirplayServer) (r : ThreadStep) :
    (s.stepped r).1.control = s.control := by
  rw [AirplayServer.stepped]
  dsimp only
  split
  · rfl
  · rfl

/-- What a turn leaves of the thread. -/
theorem turnStep_audio (io : AudioIo) (s : AirplayServer) (phase : PollPhase) :
    (turnStep prim io s phase).1.audio =
      { s.audio with
        pipeline := (pollTurn prim.aead io.turn s.audio.pipeline phase).pipeline
        phase := phaseAfter (pollTurn prim.aead io.turn s.audio.pipeline phase).phase } := by
  rw [turnStep, AirplayServer.stepped]
  dsimp only
  split
  · rfl
  · rfl

end Steps

/-! ## What an iteration does -/

/-- The calls that give a boundary. -/
def floorCalls (stream : StreamState) : List PipelineCall :=
  if stream.hasTimestampFloor then [.setStart stream.timestampFloor stream.floorExclusive] else []

/-- The stream state asks for a seek on the buffered connection. -/
def seeks (stream : StreamState) : Bool :=
  stream.hasBufferedFlushSequence && stream.session.streamType == streamTypeBuffered

/-- The calls that give a seek. -/
def seekCalls (stream : StreamState) : List PipelineCall :=
  if seeks stream then [.seek stream.bufferedFlushSequence] else []

/-- The device is open on the session with these counters. -/
structure Current (t : AudioThread) (stream : StreamState) : Prop where
  audio : t.audio = true
  generation : t.loop.generation = stream.generation
  flushGeneration : t.loop.flushGeneration = stream.flushGeneration

theorem upToDate_iff (t : AudioThread) (stream : StreamState) :
    upToDate t stream = true ↔ Current t stream := by
  rw [upToDate, Bool.and_eq_true, Bool.and_eq_true, beq_iff_eq, beq_iff_eq]
  constructor
  · rintro ⟨⟨haudio, hgeneration⟩, hflush⟩
    exact ⟨haudio, hgeneration, hflush⟩
  · rintro ⟨haudio, hgeneration, hflush⟩
    exact ⟨⟨haudio, hgeneration⟩, hflush⟩

/-- What applying a stream state can do, with the calls it makes: nothing while there
is no audio, stop the audio, keep a session that is up to date, start a session anew, or
fail to start one. -/
inductive Application (t : AudioThread) (stream : StreamState) : Applied → Prop where
  | idle (after : AudioThread) (hwants : wantsAudio stream = false) (hbefore : t.audio = false)
      (haudio : after.audio = false) (hqueue : after.pipeline.playout = t.pipeline.playout) :
      Application t stream ⟨after, true, []⟩
  | stopped (after : AudioThread) (hwants : wantsAudio stream = false) (hbefore : t.audio = true)
      (haudio : after.audio = false)
      (hqueue : ∀ i, (after.pipeline.playout.packets i).valid = false) :
      Application t stream ⟨after, true, [.stop]⟩
  | kept (after : AudioThread) (hwants : wantsAudio stream = true) (hbefore : Current t stream)
      (hcurrent : Current after stream)
      (hqueue : after.pipeline.playout = t.pipeline.playout) :
      Application t stream ⟨after, true, []⟩
  | restarted (after : AudioThread) (hwants : wantsAudio stream = true)
      (hbefore : ¬ Current t stream) (hcurrent : Current after stream)
      (hqueue : ∀ i, (after.pipeline.playout.packets i).valid = false) :
      Application t stream ⟨after, true, .stop :: (floorCalls stream ++ seekCalls stream)⟩
  | failed (after : AudioThread) (calls : List PipelineCall) (hwants : wantsAudio stream = true)
      (hbefore : ¬ Current t stream) (hcalls : ∀ call ∈ calls, call = .stop) :
      Application t stream ⟨after, false, calls⟩

section Application

variable (t : AudioThread) (stream : StreamState)

/-- The transport leaves the device, the counters of the session and the queue alone. -/
theorem updateAudioTransport_same :
    (updateAudioTransport t stream).audio = t.audio ∧
      (updateAudioTransport t stream).loop.generation = t.loop.generation ∧
      (updateAudioTransport t stream).loop.flushGeneration = t.loop.flushGeneration ∧
      (updateAudioTransport t stream).pipeline.playout = t.pipeline.playout := by
  rw [updateAudioTransport]
  split
  · exact ⟨rfl, rfl, rfl, rfl⟩
  · exact ⟨rfl, rfl, rfl, rfl⟩

theorem updateAudioVolume_same :
    (updateAudioVolume t stream).audio = t.audio ∧
      (updateAudioVolume t stream).loop.generation = t.loop.generation ∧
      (updateAudioVolume t stream).loop.flushGeneration = t.loop.flushGeneration ∧
      (updateAudioVolume t stream).pipeline.playout = t.pipeline.playout := by
  have hvolume := audioPipelineSetVolume_playout t.pipeline stream.volumeDb
  rw [updateAudioVolume]
  split
  · exact ⟨rfl, rfl, rfl, rfl⟩
  · exact ⟨rfl, rfl, rfl, hvolume⟩

theorem updateAudioAnchor_same :
    (updateAudioAnchor t stream).audio = t.audio ∧
      (updateAudioAnchor t stream).loop = t.loop ∧
      (updateAudioAnchor t stream).pipeline.playout = t.pipeline.playout := by
  rw [updateAudioAnchor]
  split
  · exact ⟨rfl, rfl, rfl⟩
  · exact ⟨rfl, rfl, rfl⟩

theorem playoutReset_empty (q : Playout) (i : Audio.Slot) :
    ((playoutReset q).packets i).valid = false := rfl

/-- A boundary changes the pipeline only. -/
theorem applyFloor_effect (t : AudioThread) (stream : StreamState) :
    (applyFloor t stream).thread.audio = t.audio ∧ (applyFloor t stream).thread.loop = t.loop ∧
      (applyFloor t stream).calls = floorCalls stream := by
  rw [applyFloor, floorCalls]
  split
  · exact ⟨rfl, rfl, rfl⟩
  · exact ⟨rfl, rfl, rfl⟩

/-- A seek changes the pipeline only. -/
theorem applySeek_effect (t : AudioThread) (stream : StreamState) :
    (applySeek t stream).thread.audio = t.audio ∧ (applySeek t stream).thread.loop = t.loop ∧
      (applySeek t stream).calls = seekCalls stream := by
  have hiff : (stream.hasBufferedFlushSequence = true ∧
      stream.session.streamType = streamTypeBuffered) ↔ seeks stream = true := by
    rw [seeks, Bool.and_eq_true, beq_iff_eq]
  rw [applySeek, seekCalls]
  by_cases hseeks : seeks stream = true
  · rw [if_pos (hiff.mpr hseeks), if_pos hseeks]
    exact ⟨rfl, rfl, rfl⟩
  · rw [if_neg (fun h => hseeks (hiff.mp h)), if_neg hseeks]
    exact ⟨rfl, rfl, rfl⟩

/-- Entering a session notes what it has applied, and makes the calls of its boundary
and its seek. -/
theorem enterSession_effect (t : AudioThread) (stream : StreamState) :
    (enterSession t stream).thread.audio = t.audio ∧
      (enterSession t stream).thread.loop =
        { t.loop with
          generation := stream.generation
          flushGeneration := stream.flushGeneration
          volumeDb := stream.volumeDb } ∧
      (enterSession t stream).calls = floorCalls stream ++ seekCalls stream := by
  rw [enterSession]
  dsimp only
  obtain ⟨hseekAudio, hseekLoop, hseekCalls⟩ := applySeek_effect (applyFloor _ stream).thread stream
  obtain ⟨hfloorAudio, hfloorLoop, hfloorCalls⟩ := applyFloor_effect _ stream
  exact ⟨hseekAudio.trans hfloorAudio, hseekLoop.trans hfloorLoop, by rw [hseekCalls, hfloorCalls]⟩

/-- **Entering a session keeps** what the volume, the boundary and the seek keep. -/
theorem enterSession_pipeline {t : AudioThread} {stream : StreamState}
    {P : AudioPipeline → Prop} (h : P t.pipeline)
    (hvolume : ∀ p, P p → P (audioPipelineSetVolume p stream.volumeDb))
    (hfloor : ∀ p, P p →
      P (audioPipelineSetStart p stream.timestampFloor stream.floorExclusive))
    (hseek : ∀ p, P p →
      P { p with buffered := bufferedAudioFlush p.buffered stream.bufferedFlushSequence }) :
    P (enterSession t stream).thread.pipeline := by
  have happlyFloor : ∀ u : AudioThread, P u.pipeline →
      P (applyFloor u stream).thread.pipeline := by
    intro u hu
    rw [applyFloor]
    split
    · exact hfloor _ hu
    · exact hu
  have happlySeek : ∀ u : AudioThread, P u.pipeline → P (applySeek u stream).thread.pipeline := by
    intro u hu
    rw [applySeek]
    split
    · exact hseek _ hu
    · exact hu
  rw [enterSession]
  apply happlySeek
  apply happlyFloor
  exact hvolume _ h

/-- A session is entered on an empty queue. -/
theorem enterSession_spec (hempty : ∀ i, (t.pipeline.playout.packets i).valid = false)
    (haudio : t.audio = true) :
    Current (enterSession t stream).thread stream ∧
      (∀ i, ((enterSession t stream).thread.pipeline.playout.packets i).valid = false) ∧
      (enterSession t stream).calls = floorCalls stream ++ seekCalls stream := by
  obtain ⟨haudio', hloop, hcalls⟩ := enterSession_effect t stream
  refine ⟨⟨haudio'.trans haudio, by rw [hloop], by rw [hloop]⟩, ?_, hcalls⟩
  apply enterSession_pipeline (P := fun p => ∀ i, (p.playout.packets i).valid = false) hempty
  · intro p hp
    rw [audioPipelineSetVolume_playout]
    exact hp
  · -- the boundary empties the queue once more
    intro p _
    exact playoutReset_empty p.playout
  · exact fun _ hp => hp

/-- A session is started anew on an empty queue, or it fails. -/
theorem restartAudioSession_spec (io : SessionIo) :
    let r := restartAudioSession io t stream
    (r.ok = true → Current r.thread stream ∧
      (∀ i, (r.thread.pipeline.playout.packets i).valid = false) ∧
      r.calls = .stop :: (floorCalls stream ++ seekCalls stream)) ∧
    (r.ok = false → ∀ call ∈ r.calls, call = .stop) := by
  dsimp only
  rw [restartAudioSession]
  dsimp only
  split
  · exact ⟨fun h => absurd h Bool.false_ne_true, fun _ call hcall => List.mem_singleton.mp hcall⟩
  · split
    · exact ⟨fun h => absurd h Bool.false_ne_true,
        fun _ call hcall => List.mem_singleton.mp hcall⟩
    · split
      · refine ⟨fun h => absurd h Bool.false_ne_true, fun _ call hcall => ?_⟩
        rcases List.mem_cons.mp hcall with h | h
        · exact h
        · exact List.mem_singleton.mp h
      · refine ⟨fun _ => ?_, fun h => absurd h (by simp)⟩
        have hempty : ∀ i, ((audioPipelineStart (audioPipelineConfigure io.configure
            (closeAudio t).pipeline stream.session).1).1.playout.packets i).valid = false := by
          intro i
          rw [audioPipelineStart_playout, audioPipelineConfigure_playout]
          exact playoutReset_empty _ i
        have hentered := enterSession_spec
          { closeAudio t with
            audio := true
            pipeline := (audioPipelineStart (audioPipelineConfigure io.configure
              (closeAudio t).pipeline stream.session).1).1 }
          stream hempty rfl
        exact ⟨hentered.1, hentered.2.1, congrArg (PipelineCall.stop :: ·) hentered.2.2⟩

/-- The volume and the anchor leave a running session and its queue alone. -/
theorem Current.update {u : AudioThread} {stream : StreamState} (h : Current u stream) :
    Current (updateAudioAnchor (updateAudioVolume u stream) stream) stream ∧
      (updateAudioAnchor (updateAudioVolume u stream) stream).pipeline.playout =
        u.pipeline.playout := by
  obtain ⟨hopen, hgeneration, hflush, hqueue⟩ := updateAudioVolume_same u stream
  obtain ⟨hsame, hloop, hkept⟩ := updateAudioAnchor_same (updateAudioVolume u stream) stream
  refine ⟨⟨?_, ?_, ?_⟩, hkept.trans hqueue⟩
  · exact hsame.trans (hopen.trans h.audio)
  · rw [hloop]
    exact hgeneration.trans h.generation
  · rw [hloop]
    exact hflush.trans h.flushGeneration

/-- **What every step of an iteration keeps, the iteration keeps**, also where it fails. -/
theorem applyStream_keeps {P : AudioThread → Prop} {io : SessionIo} {t : AudioThread}
    {stream : StreamState} (htransport : P (updateAudioTransport t stream))
    (hclose : ∀ u, P u → P (closeAudio u))
    (hrestart : wantsAudio stream = true → ∀ u, P u →
      P (restartAudioSession io u stream).thread)
    (hvolume : ∀ u, P u → P (updateAudioVolume u stream))
    (hanchor : ∀ u, P u → P (updateAudioAnchor u stream)) :
    P (applyStream io t stream).thread := by
  have hswitch : P (switchAudio io (updateAudioTransport t stream) stream).thread := by
    generalize updateAudioTransport t stream = u at htransport ⊢
    rw [switchAudio]
    by_cases hwants : wantsAudio stream = false
    · rw [if_pos hwants]
      split
      · exact hclose u htransport
      · exact htransport
    · rw [if_neg hwants]
      rw [Bool.not_eq_false] at hwants
      have hstarted : P (startAudioSession io u stream).thread := by
        rw [startAudioSession]
        split
        · exact htransport
        · exact hrestart hwants u htransport
      dsimp only
      split
      · exact hstarted
      · exact hvolume _ hstarted
  rw [applyStream]
  split
  · exact hswitch
  · exact hanchor _ hswitch

/-- **What an iteration can do.** -/
theorem applyStream_application (io : SessionIo) :
    Application t stream (applyStream io t stream) := by
  obtain ⟨haudio, hgeneration, hflush, hqueue⟩ := updateAudioTransport_same t stream
  -- the transport does not decide whether the session is current
  have hcurrent : Current (updateAudioTransport t stream) stream ↔ Current t stream := by
    constructor
    · rintro ⟨h₁, h₂, h₃⟩
      exact ⟨haudio ▸ h₁, hgeneration ▸ h₂, hflush ▸ h₃⟩
    · rintro ⟨h₁, h₂, h₃⟩
      exact ⟨haudio.trans h₁, hgeneration.trans h₂, hflush.trans h₃⟩
  rw [applyStream]
  generalize updateAudioTransport t stream = u at haudio hqueue hcurrent ⊢
  rw [switchAudio]
  dsimp only
  by_cases hwants : wantsAudio stream = false
  · rw [if_pos hwants]
    cases hopen : u.audio with
    | true =>
        obtain ⟨hsame, -, hreset⟩ := updateAudioAnchor_same (closeAudio u) stream
        rw [if_pos rfl, if_neg (by simp)]
        refine Application.stopped _ hwants (haudio ▸ hopen) hsame ?_
        intro i
        rw [hreset]
        exact playoutReset_empty _ i
    | false =>
        obtain ⟨hsame, -, hkept⟩ := updateAudioAnchor_same u stream
        rw [if_neg (by simp), if_neg (by simp)]
        exact Application.idle _ hwants (haudio ▸ hopen) (hsame.trans hopen) (hkept.trans hqueue)
  · rw [if_neg hwants]
    rw [Bool.not_eq_false] at hwants
    rw [startAudioSession]
    -- a session that is current is kept, any other is started anew
    by_cases huptodate : upToDate u stream = true
    · have hu := (upToDate_iff u stream).mp huptodate
      obtain ⟨hcurrent', hkept⟩ := hu.update
      rw [if_pos huptodate, if_neg (by simp), if_neg (by simp)]
      exact Application.kept _ hwants (hcurrent.mp hu) hcurrent' (hkept.trans hqueue)
    · have hnot : ¬ Current t stream := fun h =>
        huptodate ((upToDate_iff u stream).mpr (hcurrent.mpr h))
      rw [if_neg huptodate]
      obtain ⟨hok, hfail⟩ := restartAudioSession_spec u stream io
      generalize restartAudioSession io u stream = r at hok hfail ⊢
      obtain ⟨after, ok, calls⟩ := r
      cases ok with
      | false =>
          rw [if_pos rfl, if_pos rfl]
          exact Application.failed after calls hwants hnot (hfail rfl)
      | true =>
          obtain ⟨hnew, hempty, rfl⟩ := hok rfl
          obtain ⟨hcurrent', hkept⟩ := hnew.update
          rw [if_neg (by simp), if_neg (by simp)]
          refine Application.restarted _ hwants hnot hcurrent' fun i => ?_
          dsimp only
          rw [hkept]
          exact hempty i

end Application

/-- What a step of the audio thread can do: nothing after its loop, a turn of its poll, the
end of the loop, or an iteration that fails or goes on to its poll. -/
inductive AudioEffect (prim : Primitives) (io : AudioIo) (s : AirplayServer) :
    AirplayServer × ServerEvent → Prop where
  | finished (hphase : s.audio.phase = .finished) : AudioEffect prim io s (s, .quiet)
  | turn (phase : PollPhase) (hphase : s.audio.phase = .polling phase) :
      AudioEffect prim io s (turnStep prim io s phase)
  | ended (hphase : s.audio.phase = .iteration) (hstopping : s.stopping = true) :
      AudioEffect prim io s
        ({ s with audio := { closeAudio s.audio with phase := .finished } }, .ended)
  | failed (r : Applied) (hphase : s.audio.phase = .iteration) (hstopping : s.stopping = false)
      (hr : applyStream io.session s.audio s.stream = r) (hok : r.ok = false) :
      AudioEffect prim io s
        (serverFail { s with audio := { closeAudio r.thread with phase := .finished } },
          .iteration s.stream false r.calls)
  | applied (r : Applied) (hphase : s.audio.phase = .iteration) (hstopping : s.stopping = false)
      (hr : applyStream io.session s.audio s.stream = r) (hok : r.ok = true) :
      AudioEffect prim io s
        ({ s with audio := { r.thread with phase := .polling .inputs } },
          .iteration s.stream true r.calls)

/-- **What a step of the audio thread can do.** -/
theorem audioStep_effect (prim : Primitives) (io : AudioIo) (s : AirplayServer) :
    AudioEffect prim io s (audioStep prim io s) := by
  rw [audioStep]
  cases hphase : s.audio.phase with
  | finished => exact AudioEffect.finished hphase
  | polling phase => exact AudioEffect.turn phase hphase
  | iteration =>
      dsimp only
      rw [iterationStep_eq]
      by_cases hstopping : s.stopping = true
      · rw [if_pos hstopping]
        exact AudioEffect.ended hphase hstopping
      · rw [if_neg hstopping]
        rw [Bool.not_eq_true] at hstopping
        dsimp only
        cases hok : (applyStream io.session s.audio s.stream).ok with
        | false =>
            rw [if_pos rfl]
            exact AudioEffect.failed _ hphase hstopping rfl hok
        | true =>
            rw [if_neg (by simp)]
            exact AudioEffect.applied _ hphase hstopping rfl hok

end PortableAirplay.Service
