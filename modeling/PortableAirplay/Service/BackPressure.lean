import PortableAirplay.Audio.QueueRoom
import PortableAirplay.Service.AirplayServer

/-!
# Back-pressure

The records of a buffered session are read from a TCP connection as long as the playout
queue has room, and a seek makes the audio thread read on without looking at the queue.
A seek is given to the connection when a session starts anew, and then the queue is
empty. So, whatever the control plane does and whatever arrives on the connection, a
record that is to be queued finds a free slot (`records_find_room`).
-/

set_option autoImplicit false

namespace PortableAirplay.Service

open PortableAirplay.Airplay
open PortableAirplay.Audio
open PortableAirplay.Library
open PortableAirplay.Platform
open PortableAirplay.Protocol
open PortableAirplay.Sync

/-! ## The audio thread -/

/-- The queue is empty, and counted so. -/
structure EmptyQueue (p : AudioPipeline) : Prop where
  exact : p.playout.CountExact
  count : p.playout.count = 0

theorem EmptyQueue.roomy {p : AudioPipeline} (h : EmptyQueue p) : Roomy p :=
  Roomy.of_empty h.exact h.count

section Thread

variable {t : AudioThread} (stream : StreamState)

theorem updateAudioTransport_roomy (h : Roomy t.pipeline) :
    Roomy (updateAudioTransport t stream).pipeline := by
  rw [updateAudioTransport]
  split
  · exact h
  · exact h.setTransport _

theorem updateAudioVolume_roomy (h : Roomy t.pipeline) :
    Roomy (updateAudioVolume t stream).pipeline := by
  rw [updateAudioVolume]
  split
  · exact h
  · exact h.setVolume stream.volumeDb

theorem updateAudioAnchor_roomy (h : Roomy t.pipeline) :
    Roomy (updateAudioAnchor t stream).pipeline := by
  rw [updateAudioAnchor]
  split
  · exact ⟨h.exact, h.discarding⟩
  · exact h

/-- A session is entered with an empty queue, whether or not it seeks. -/
theorem enterSession_empty (h : EmptyQueue t.pipeline) :
    EmptyQueue (enterSession t stream).thread.pipeline := by
  apply enterSession_pipeline h
  · intro p hp
    refine ⟨?_, ?_⟩
    · rw [audioPipelineSetVolume_playout]
      exact hp.exact
    · rw [audioPipelineSetVolume_playout]
      exact hp.count
  · exact fun p _ => ⟨playoutSetFloor_countExact _ _ _, rfl⟩
  · exact fun p hp => ⟨hp.exact, hp.count⟩

/-- **A session starts anew on an empty queue**, or it fails with one. -/
theorem restartAudioSession_empty (io : SessionIo) :
    EmptyQueue (restartAudioSession io t stream).thread.pipeline := by
  have hconfigured : (audioPipelineConfigure io.configure (closeAudio t).pipeline
      stream.session).1.playout = playoutReset t.pipeline.playout :=
    audioPipelineConfigure_playout io.configure (closeAudio t).pipeline stream.session
  have hstarted := (audioPipelineStart_playout (audioPipelineConfigure io.configure
    (closeAudio t).pipeline stream.session).1).trans hconfigured
  have hempty : ∀ p : AudioPipeline, p.playout = playoutReset t.pipeline.playout →
      EmptyQueue p := by
    intro p hp
    refine ⟨?_, ?_⟩
    · rw [hp]
      exact playoutReset_countExact _
    · rw [hp]
      rfl
  rw [restartAudioSession]
  dsimp only
  split
  · exact hempty _ hconfigured
  · split
    · exact hempty _ hconfigured
    · split
      · exact ⟨playoutReset_countExact _, rfl⟩
      · exact enterSession_empty stream (hempty _ hstarted)

/-- **An iteration keeps room in the queue**, for any stream state. -/
theorem applyStream_roomy (h : Roomy t.pipeline) (io : SessionIo) :
    Roomy (applyStream io t stream).thread.pipeline := by
  apply applyStream_keeps (P := fun u => Roomy u.pipeline)
  · exact updateAudioTransport_roomy stream h
  · exact fun u _ => audioPipelineStop_roomy u.pipeline
  · exact fun _ u _ => (restartAudioSession_empty stream io).roomy
  · exact fun u hu => updateAudioVolume_roomy stream hu
  · exact fun u hu => updateAudioAnchor_roomy stream hu

end Thread

/-! ## The receiver -/

/-- **The invariant of the audio thread**: the queue has room, and records are received
in a buffered session. -/
structure ThreadRoomy (t : AudioThread) : Prop where
  roomy : Roomy t.pipeline
  receiving : ∀ i limit, t.phase = .polling (.receiving i limit) →
    t.pipeline.session.streamType = streamTypeBuffered

/-- No audio arrives on the UDP sockets while a buffered session is set up. -/
def QuietSockets (s : AirplayServer) : ServerStep → Prop
  | .audio io => s.audio.pipeline.session.streamType = streamTypeBuffered →
      NoAudio io.turn.inputs.receiver
  | .control _ => True
  | .stop => True
  | .fail => True

section Receiver

variable (prim : Primitives) {s : AirplayServer}

theorem iterationStep_roomy (h : ThreadRoomy s.audio) (io : SessionIo) :
    ThreadRoomy (iterationStep io s).1.audio := by
  rw [iterationStep_eq]
  split
  · exact ⟨audioPipelineStop_roomy _, fun i limit hphase => AudioPhase.noConfusion hphase⟩
  · dsimp only
    split
    · exact ⟨audioPipelineStop_roomy _, fun i limit hphase => AudioPhase.noConfusion hphase⟩
    · refine ⟨applyStream_roomy s.stream h.roomy io, fun i limit hphase => ?_⟩
      exact PollPhase.noConfusion (AudioPhase.polling.inj hphase)

theorem phaseAfter_polling {phase phase' : PollPhase} (h : phaseAfter phase = .polling phase') :
    phase = phase' := by
  cases phase with
  | inputs => exact AudioPhase.polling.inj h
  | receiving i limit => exact AudioPhase.polling.inj h
  | playing batch => exact AudioPhase.polling.inj h
  | done ok => exact AudioPhase.noConfusion h

theorem turnStep_roomy (h : ThreadRoomy s.audio) {io : AudioIo}
    (hquiet : s.audio.pipeline.session.streamType = streamTypeBuffered →
      NoAudio io.turn.inputs.receiver)
    {phase : PollPhase} (hphase : s.audio.phase = .polling phase) :
    ThreadRoomy (turnStep prim io s phase).1.audio := by
  have hturn : ThreadRoomy
      { s.audio with
        pipeline := (pollTurn prim.aead io.turn s.audio.pipeline phase).pipeline
        phase := phaseAfter (pollTurn prim.aead io.turn s.audio.pipeline phase).phase } := by
    refine ⟨h.roomy.turn prim.aead hquiet phase, fun i limit hafter => ?_⟩
    refine pollTurn_receiving (fun j limit hreceiving => ?_) (phaseAfter_polling hafter)
    exact h.receiving j limit (hphase.trans (congrArg AudioPhase.polling hreceiving))
  rw [turnStep_audio]
  exact hturn

/-- **Every step keeps the invariant.** -/
theorem serverStep_roomy (h : ThreadRoomy s.audio) {step : ServerStep}
    (hquiet : QuietSockets s step) : ThreadRoomy (serverStep prim s step).1.audio := by
  cases step with
  | control step => exact h
  | stop => exact h
  | fail => exact h
  | audio io =>
      show ThreadRoomy (audioStep prim io s).1.audio
      rw [audioStep]
      split
      · exact iterationStep_roomy h io.session
      · rename_i phase hphase
        exact turnStep_roomy prim h hquiet hphase
      · exact h

/-- **TCP back-pressure never overruns the queue.** In every run in which no audio arrives
on the UDP sockets during a buffered session, from any state of the control plane, a
packet of the buffered connection finds a free slot when it is pushed. A packet of
admissible size is not refused for lack of capacity. -/
theorem records_find_room (control : ControlState) (listener : NetSocket) (steps : List ServerStep)
    (hquiet : (serverMachine prim).Guarded QuietSockets
      ⟨⟨false, false⟩, control, AudioThread.start listener⟩ steps)
    (i limit : ℕ) (io : TurnIo) :
    let s := ((serverMachine prim).run
      ⟨⟨false, false⟩, control, AudioThread.start listener⟩ steps).1
    s.audio.phase = .polling (.receiving i limit) →
      ∀ packet ∈ turnPushes prim.aead io s.audio.pipeline (.receiving i limit),
        s.audio.pipeline.playout.freeSlot ≠ none ∧
          (admissiblePayload packet = true →
            (playoutPush s.audio.pipeline.playout packet).2 ≠ -1) := by
  intro s hphase packet hpacket
  have hinit : ThreadRoomy (AudioThread.start listener) :=
    ⟨audioPipelineCreate_roomy listener, fun i limit h => AudioPhase.noConfusion h⟩
  have hroomy : ThreadRoomy s.audio :=
    (serverMachine prim).run_guarded (fun s => ThreadRoomy s.audio)
      (fun s step h hquiet => serverStep_roomy prim h hquiet) steps _ hinit hquiet
  have hwants : s.audio.pipeline.wantsRecord i limit = true := by
    by_contra hnot
    have hnone : turnPushes prim.aead io s.audio.pipeline (.receiving i limit) = [] := if_neg hnot
    rw [hnone] at hpacket
    exact absurd hpacket List.not_mem_nil
  have hfree := hroomy.roomy.finds_room (hroomy.receiving i limit hphase) hwants
  exact ⟨hfree, fun hadmissible => playoutPush_room hfree hadmissible⟩

end Receiver

/-- A control plane that has set up a buffered session which seeks past record 7. -/
def seekingControl : ControlState where
  server :=
    { rtspServerCreate ⟨some 1, 5000⟩ with
      stream :=
        { StreamState.start with
          session :=
            { SdpSession.zero with
              codec := .pcm
              sampleRate := 44100
              channels := 2
              bitsPerSample := 16
              framesPerPacket := 352
              payloadType := 96
              streamType := streamTypeBuffered }
          hasSession := true
          recording := true
          generation := 1
          timingPeer := ⟨ascii "10.0.0.2", 50000⟩
          hasBufferedFlushSequence := true
          bufferedFlushSequence := 7 } }
  accepted _ := 0
  installer := none

/-- The audio thread starts the session and reads its inputs. -/
def startingAudio : AudioIo :=
  { idleAudio with session := ⟨⟨some (netSocketInit, netSocketInit), false, fun _ => none⟩, true⟩ }

/-- A sender connects, and its record has sequence 8. -/
def boundaryRecord : TurnIo :=
  { idleAudio.turn with
    record := ⟨⟨.accepted 9 ⟨ascii "10.0.0.2", 50001⟩, .data [0, 38],
      .data ([0, 0, 0, 8] ++ List.replicate 32 0)⟩, 0⟩ }

/-- Primitives that open every record. -/
def openingPrimitives : Primitives where
  aead := ⟨fun _ => none, fun _ _ => some [1]⟩
  srp := ⟨fun _ => [], fun _ _ _ => [], []⟩
  appleSignature _ _ _ := none
  strtof _ := none
  formatVolume _ := []

/-- The receiver when the poll of the new session reads records. -/
def seekingServer : AirplayServer :=
  ((serverMachine openingPrimitives).run
    ⟨⟨false, false⟩, seekingControl, AudioThread.start ⟨some 2, 7000⟩⟩
    [.audio startingAudio, .audio startingAudio]).1

/-- The record after the seek is pushed while records are discarded, and finds room. -/
theorem records_find_room_seek :
    seekingServer.audio.pipeline.buffered.discarding = true ∧
      ∃ packet ∈ turnPushes openingPrimitives.aead boundaryRecord seekingServer.audio.pipeline
          (.receiving 0 256),
        (playoutPush seekingServer.audio.pipeline.playout packet).2 ≠ -1 := by
  have hquiet : NoAudio startingAudio.turn.inputs.receiver :=
    ⟨fun d h => absurd h List.not_mem_nil, fun d h => absurd h List.not_mem_nil⟩
  have hroom := records_find_room openingPrimitives seekingControl ⟨some 2, 7000⟩
    [.audio startingAudio, .audio startingAudio]
    ⟨fun _ => hquiet, fun _ => hquiet, trivial⟩ 0 256 boundaryRecord (by decide +kernel)
  refine ⟨by decide +kernel, ?_⟩
  have hpushed : ∃ packet ∈ turnPushes openingPrimitives.aead boundaryRecord
      seekingServer.audio.pipeline (.receiving 0 256), admissiblePayload packet = true := by
    decide +kernel
  obtain ⟨packet, hpacket, hadmissible⟩ := hpushed
  exact ⟨packet, hpacket, (hroom packet hpacket).2 hadmissible⟩

end PortableAirplay.Service
