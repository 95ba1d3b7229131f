import PortableAirplay.Audio.SessionStart
import PortableAirplay.Protocol.Fragmentation
import PortableAirplay.Service.AirplayServer

/-!
# Sessions are isolated

The audio thread by itself (`audioMachine`): an input is a stop of the receiver, or a
step of the thread with the stream state that an iteration copies. Every run of the
receiver is such a run (`serverRun_audioRun`).

`new_session_isolated` compares two threads with arbitrary pasts that observe a new
generation and get the same inputs from then on. Until one of them stops they hand over
the same packets, and once the session was started they agree on everything that
playback depends on. The product of a sample with the volume is an input; the volume of
both is the same (`SameVolume`).
-/

set_option autoImplicit false

namespace PortableAirplay.Service

open PortableAirplay.Airplay
open PortableAirplay.Audio
open PortableAirplay.Library
open PortableAirplay.Platform
open PortableAirplay.Protocol
open PortableAirplay.Sync

/-! ## The audio thread by itself -/

/-- The audio thread and the flag that ends its loop. -/
structure AudioRun where
  thread : AudioThread
  stopping : Bool

/-- The receiver stops, or the audio thread takes a step; `stream` is the state that an
iteration copies. -/
inductive AudioInput where
  | stop
  | step (io : AudioIo) (stream : StreamState)

/-- The thread takes a step. -/
def AudioRun.stepped (r : AudioRun) (step : ThreadStep) : AudioRun :=
  ⟨step.thread, step.fails || r.stopping⟩

/-- An iteration. -/
def AudioRun.iterate (r : AudioRun) (io : SessionIo) (stream : StreamState) : AudioRun :=
  r.stepped (Service.iterate io r.stopping r.thread stream)

/-- A turn of the poll. -/
def AudioRun.turn (aead : Aead) (r : AudioRun) (io : AudioIo) (phase : PollPhase) :
    AudioRun × TurnEvent :=
  (r.stepped (threadTurn aead io r.stopping r.thread phase),
    (pollTurn aead io.turn r.thread.pipeline phase).event)

/-- A step of the thread, or a stop. -/
def audioRunStep (aead : Aead) (r : AudioRun) : AudioInput → AudioRun × TurnEvent
  | .stop => ({ r with stopping := true }, .quiet)
  | .step io stream =>
      match r.thread.phase with
      | .iteration => (r.iterate io.session stream, .quiet)
      | .polling phase => r.turn aead io phase
      | .finished => (r, .quiet)

/-- The audio thread as a machine. -/
def audioMachine (aead : Aead) : Machine AudioRun AudioInput TurnEvent where
  step := audioRunStep aead

/-- The audio thread after some inputs from its start. -/
def audioRun (aead : Aead) (listener : NetSocket) (inputs : List AudioInput) : AudioRun :=
  ((audioMachine aead).run ⟨AudioThread.start listener, false⟩ inputs).1

/-- The part of the receiver that the audio thread works on. -/
def AirplayServer.audioRun (s : AirplayServer) : AudioRun := ⟨s.audio, s.stopping⟩

theorem stepped_audioRun (s : AirplayServer) (step : ThreadStep) :
    (s.stepped step).1.audioRun = s.audioRun.stepped step := by
  rw [AirplayServer.stepped, AudioRun.stepped]
  dsimp only
  cases step.fails with
  | true => rfl
  | false => rfl

/-- A step of the receiver on its audio thread is a step of the thread. -/
theorem audioStep_audioRun (prim : Primitives) (io : AudioIo) (s : AirplayServer) :
    (audioStep prim io s).1.audioRun =
      (audioRunStep prim.aead s.audioRun (.step io s.stream)).1 := by
  have hthread : s.audioRun.thread = s.audio := rfl
  rw [audioStep, audioRunStep, hthread]
  cases s.audio.phase with
  | iteration => exact stepped_audioRun s _
  | polling phase => exact stepped_audioRun s _
  | finished => rfl

/-- **Every run of the receiver is a run of its audio thread** on the stream states that
the control plane left. -/
theorem serverRun_audioRun (prim : Primitives) (steps : List ServerStep) :
    ∀ s : AirplayServer, ∃ inputs, ((serverMachine prim).run s steps).1.audioRun =
      ((audioMachine prim.aead).run s.audioRun inputs).1 := by
  induction steps with
  | nil => exact fun s => ⟨[], rfl⟩
  | cons step steps ih =>
      intro s
      obtain ⟨inputs, hrest⟩ := ih (serverStep prim s step).1
      cases step with
      | control step => exact ⟨inputs, hrest⟩
      | stop => exact ⟨.stop :: inputs, hrest⟩
      | fail => exact ⟨.stop :: inputs, hrest⟩
      | audio io =>
          refine ⟨.step io s.stream :: inputs, hrest.trans ?_⟩
          have hstep := audioStep_audioRun prim io s
          show ((audioMachine prim.aead).run (audioStep prim io s).1.audioRun inputs).1 = _
          rw [hstep]
          rfl

/-! ## One thread -/

/-- What holds of the thread between two steps. -/
structure Settled (listener : NetSocket) (t : AudioThread) : Prop where
  pipeline : Sane listener t.pipeline
  idle : t.audio = false → t.pipeline.state ≠ .playing
  generation : t.audio = true → t.loop.generation = t.loop.transportGeneration

theorem start_settled (listener : NetSocket) : Settled listener (AudioThread.start listener) where
  pipeline := create_sane listener
  idle _ hplaying := PipelineState.noConfusion hplaying
  generation haudio := absurd haudio Bool.false_ne_true

section Thread

variable {listener : NetSocket} {t : AudioThread} (stream : StreamState)

/-- A thread that closed its output is settled. -/
theorem closeAudio_settled (h : Sane listener t.pipeline) (phase : AudioPhase) :
    Settled listener { closeAudio t with phase := phase } where
  pipeline := h.stop
  idle _ hplaying := PipelineState.noConfusion hplaying
  generation haudio := absurd haudio Bool.false_ne_true

theorem updateAudioTransport_sane (h : Sane listener t.pipeline) :
    Sane listener (updateAudioTransport t stream).pipeline ∧
      (updateAudioTransport t stream).loop.transportGeneration = stream.generation ∧
      (updateAudioTransport t stream).pipeline.state = t.pipeline.state := by
  rw [updateAudioTransport]
  split
  · rename_i hsame
    exact ⟨h, hsame, rfl⟩
  · exact ⟨h.setTransport _, rfl, rfl⟩

theorem updateAudioVolume_sane (h : Sane listener t.pipeline) :
    Sane listener (updateAudioVolume t stream).pipeline ∧
      (updateAudioVolume t stream).loop.transportGeneration = t.loop.transportGeneration := by
  rw [updateAudioVolume]
  split
  · exact ⟨h, rfl⟩
  · exact ⟨h.setVolume _, rfl⟩

theorem updateAudioAnchor_sane (h : Sane listener t.pipeline) :
    Sane listener (updateAudioAnchor t stream).pipeline ∧
      (updateAudioAnchor t stream).pipeline.state = t.pipeline.state := by
  rw [updateAudioAnchor]
  split
  · exact ⟨⟨h.pool, h.clock.setClock _, h.listener, h.initialized⟩, rfl⟩
  · exact ⟨h, rfl⟩

theorem enterSession_sane (h : Sane listener t.pipeline) :
    Sane listener (enterSession t stream).thread.pipeline ∧
      (enterSession t stream).thread.loop.transportGeneration = t.loop.transportGeneration := by
  obtain ⟨-, hloop, -⟩ := enterSession_effect t stream
  refine ⟨?_, by rw [hloop]⟩
  apply enterSession_pipeline h
  · exact fun p hp => hp.setVolume stream.volumeDb
  · exact fun p hp => ⟨hp.pool, hp.clock, hp.listener, hp.initialized⟩
  · exact fun p hp => ⟨hp.pool, hp.clock, hp.listener, hp.initialized⟩

theorem restartAudioSession_sane (h : Sane listener t.pipeline) (io : SessionIo) :
    Sane listener (restartAudioSession io t stream).thread.pipeline ∧
      (restartAudioSession io t stream).thread.loop.transportGeneration =
        t.loop.transportGeneration := by
  have hconfigured : Sane listener
      (audioPipelineConfigure io.configure (closeAudio t).pipeline stream.session).1 :=
    h.stop.configure io.configure stream.session
  rw [restartAudioSession]
  dsimp only
  split
  · exact ⟨hconfigured, rfl⟩
  · split
    · exact ⟨hconfigured, rfl⟩
    · split
      · exact ⟨hconfigured.start.stop, rfl⟩
      · have hentered := enterSession_sane
          (t := { closeAudio t with
            audio := true
            pipeline := (audioPipelineStart (audioPipelineConfigure io.configure
              (closeAudio t).pipeline stream.session).1).1 }) stream hconfigured.start
        exact hentered

/-- **An iteration keeps the books**, also where it fails. -/
theorem applyStream_sane (h : Sane listener t.pipeline) (io : SessionIo) :
    Sane listener (applyStream io t stream).thread.pipeline ∧
      (applyStream io t stream).thread.loop.transportGeneration = stream.generation := by
  obtain ⟨hsane, hgeneration, -⟩ := updateAudioTransport_sane stream h
  apply applyStream_keeps (P := fun u => Sane listener u.pipeline ∧
    u.loop.transportGeneration = stream.generation)
  · exact ⟨hsane, hgeneration⟩
  · exact fun u hu => ⟨hu.1.stop, hu.2⟩
  · intro _ u hu
    obtain ⟨hrestarted, hloop⟩ := restartAudioSession_sane stream hu.1 io
    exact ⟨hrestarted, hloop.trans hu.2⟩
  · intro u hu
    obtain ⟨hvolume, hloop⟩ := updateAudioVolume_sane stream hu.1
    exact ⟨hvolume, hloop.trans hu.2⟩
  · intro u hu
    obtain ⟨-, hloop, -⟩ := updateAudioAnchor_same u stream
    refine ⟨(updateAudioAnchor_sane stream hu.1).1, ?_⟩
    rw [hloop]
    exact hu.2

/-- Without audio afterwards, the pipeline does not play. -/
theorem applyStream_idle (h : Settled listener t) (io : SessionIo)
    (hok : (applyStream io t stream).ok = true)
    (haudio : (applyStream io t stream).thread.audio = false) :
    (applyStream io t stream).thread.pipeline.state ≠ .playing := by
  obtain ⟨hopen, -, -, -⟩ := updateAudioTransport_same t stream
  obtain ⟨hsane, -, hstate⟩ := updateAudioTransport_sane stream h.pipeline
  by_cases hwants : wantsAudio stream = false
  · have hswitch : switchAudio io (updateAudioTransport t stream) stream =
        if (updateAudioTransport t stream).audio then
          ⟨closeAudio (updateAudioTransport t stream), true, [.stop]⟩
        else ⟨updateAudioTransport t stream, true, []⟩ := if_pos hwants
    rw [applyStream, hswitch]
    cases hwas : (updateAudioTransport t stream).audio with
    | true =>
        obtain ⟨-, hkept⟩ := updateAudioAnchor_sane stream
          (t := closeAudio (updateAudioTransport t stream)) hsane.stop
        rw [if_pos rfl]
        dsimp only
        rw [if_neg (by decide), hkept]
        exact fun hplaying => PipelineState.noConfusion hplaying
    | false =>
        obtain ⟨-, hkept⟩ := updateAudioAnchor_sane stream hsane
        rw [if_neg Bool.false_ne_true]
        dsimp only
        rw [if_neg (by decide), hkept, hstate]
        exact h.idle (hopen.symm.trans hwas)
  · -- a state that asks for audio leaves it open
    have happlication := applyStream_application t stream io
    generalize applyStream io t stream = r at happlication hok haudio ⊢
    cases happlication with
    | idle after hnot hbefore hafter hqueue => exact absurd hnot hwants
    | stopped after hnot hbefore hafter hqueue => exact absurd hnot hwants
    | kept after hwants hbefore hcurrent hqueue =>
        exact absurd (hcurrent.audio.symm.trans haudio) (by decide)
    | restarted after hwants hbefore hcurrent hqueue =>
        exact absurd (hcurrent.audio.symm.trans haudio) (by decide)
    | failed after calls hwants hbefore hcalls => exact absurd hok Bool.false_ne_true

/-- With audio afterwards, the session is that of the stream state. -/
theorem applyStream_current (t : AudioThread) (stream : StreamState) (io : SessionIo)
    (hok : (applyStream io t stream).ok = true)
    (haudio : (applyStream io t stream).thread.audio = true) :
    Current (applyStream io t stream).thread stream := by
  have happlication := applyStream_application t stream io
  generalize applyStream io t stream = r at happlication hok haudio ⊢
  cases happlication with
  | idle after hnot hbefore hafter hqueue =>
      exact absurd (haudio.symm.trans hafter) (by decide)
  | stopped after hnot hbefore hafter hqueue =>
      exact absurd (haudio.symm.trans hafter) (by decide)
  | kept after hwants hbefore hcurrent hqueue => exact hcurrent
  | restarted after hwants hbefore hcurrent hqueue => exact hcurrent
  | failed after calls hwants hbefore hcalls => exact absurd hok Bool.false_ne_true

end Thread

theorem iterate_settled {listener : NetSocket} {r : AudioRun} (h : Settled listener r.thread)
    (io : SessionIo) (stream : StreamState) :
    Settled listener (r.iterate io stream).thread := by
  obtain ⟨hsane, hgeneration⟩ := applyStream_sane stream h.pipeline io
  rw [AudioRun.iterate, iterate, AudioRun.stepped]
  split
  · exact closeAudio_settled h.pipeline _
  · dsimp only
    split
    · exact closeAudio_settled hsane _
    · rename_i hok
      rw [Bool.not_eq_false] at hok
      refine ⟨hsane, applyStream_idle stream h io hok, fun haudio => ?_⟩
      exact (applyStream_current r.thread stream io hok haudio).generation.trans hgeneration.symm

theorem audioRunStep_settled (aead : Aead) {listener : NetSocket} {r : AudioRun}
    (h : Settled listener r.thread) (input : AudioInput) :
    Settled listener (audioRunStep aead r input).1.thread := by
  cases input with
  | stop => exact h
  | step io stream =>
      rw [audioRunStep]
      cases r.thread.phase with
      | iteration => exact iterate_settled h io.session stream
      | polling phase =>
          have hstate := (pollTurn_effect aead io.turn r.thread.pipeline phase).setting.state
          refine ⟨h.pipeline.turn aead io.turn phase, fun haudio hplaying => ?_, h.generation⟩
          exact h.idle haudio (hstate.symm.trans hplaying)
      | finished => exact h

theorem audioRun_settled (aead : Aead) (listener : NetSocket) (inputs : List AudioInput) :
    Settled listener (audioRun aead listener inputs).thread :=
  (audioMachine aead).run_invariant (fun r => Settled listener r.thread)
    (fun _ input h => audioRunStep_settled aead h input) inputs _ (start_settled listener)

/-! ## Two threads -/

/-- Both threads play at one volume; a volume that is not finite is not set. -/
def SameVolume (t u : AudioThread) : Prop :=
  floatIsFinite t.loop.volumeDb = true → t.pipeline.volumeDb = u.pipeline.volumeDb

/-- Both threads wait for a session on the same transport, or play alike. -/
inductive Matched (t u : AudioThread) : Prop where
  | waiting (haudio : t.audio = false) (haudio' : u.audio = false)
      (hgeneration : t.loop.transportGeneration = u.loop.transportGeneration)
      (hpipelines : BothWait t.pipeline u.pipeline) : Matched t u
  | playing (haudio : t.audio = true) (haudio' : u.audio = true) (hloop : t.loop = u.loop)
      (hpipelines : SamePlayback t.pipeline u.pipeline) (hvolume : SameVolume t u) : Matched t u

/-- A session was started on both threads, and they agree on all of it. -/
structure StartedAlike (t u : AudioThread) : Prop where
  audio : t.audio = true
  audio' : u.audio = true
  loop : t.loop = u.loop
  pipelines : SamePlayback t.pipeline u.pipeline
  ptp : SamePtp t.pipeline.ptp u.pipeline.ptp
  volumeDb : SameVolume t u

theorem StartedAlike.matched {t u : AudioThread} (h : StartedAlike t u) : Matched t u :=
  Matched.playing h.audio h.audio' h.loop h.pipelines h.volumeDb

/-- Two outcomes of applying a stream state: one of them fails, or the threads are
related. -/
def AppliedAlike (related : AudioThread → AudioThread → Prop) (r r' : Applied) : Prop :=
  r.ok = false ∨ r'.ok = false ∨ related r.thread r'.thread

section Two

variable {listener : NetSocket} {t u : AudioThread} (stream : StreamState)

/-- Giving both pipelines the volume of their loops. -/
theorem setVolume_same {t u : AudioThread} {volumeDb : UInt32} (hloop : t.loop.volumeDb = volumeDb)
    {p q : AudioPipeline} (ht : t.pipeline = audioPipelineSetVolume p volumeDb)
    (hu : u.pipeline = audioPipelineSetVolume q volumeDb) : SameVolume t u := by
  intro hfinite
  rw [hloop] at hfinite
  rw [ht, hu, audioPipelineSetVolume, audioPipelineSetVolume, if_pos hfinite, if_pos hfinite]

theorem StartedAlike.floor (h : StartedAlike t u) :
    StartedAlike (applyFloor t stream).thread (applyFloor u stream).thread := by
  rw [applyFloor, applyFloor]
  split
  · exact ⟨h.audio, h.audio', h.loop, h.pipelines.setStart _ _, h.ptp, h.volumeDb⟩
  · exact h

theorem StartedAlike.seek (h : StartedAlike t u) :
    StartedAlike (applySeek t stream).thread (applySeek u stream).thread := by
  rw [applySeek, applySeek]
  split
  · exact ⟨h.audio, h.audio', h.loop, h.pipelines.seek _, h.ptp, h.volumeDb⟩
  · exact h

/-- Entering a session with pipelines that were started alike. -/
theorem enterSession_alike (haudio : t.audio = true) (haudio' : u.audio = true)
    (hgeneration : t.loop.transportGeneration = u.loop.transportGeneration)
    (hpipelines : SamePlayback t.pipeline u.pipeline)
    (hptp : SamePtp t.pipeline.ptp u.pipeline.ptp) :
    StartedAlike (enterSession t stream).thread (enterSession u stream).thread := by
  have hloop : ({ t.loop with
        generation := stream.generation
        flushGeneration := stream.flushGeneration
        volumeDb := stream.volumeDb } : AudioLoopState) =
      { u.loop with
        generation := stream.generation
        flushGeneration := stream.flushGeneration
        volumeDb := stream.volumeDb } := by
    dsimp only
    rw [hgeneration]
  have hptp' : SamePtp (audioPipelineSetVolume t.pipeline stream.volumeDb).ptp
      (audioPipelineSetVolume u.pipeline stream.volumeDb).ptp := by
    rw [audioPipelineSetVolume_ptp, audioPipelineSetVolume_ptp]
    exact hptp
  rw [enterSession, enterSession]
  apply StartedAlike.seek
  apply StartedAlike.floor
  exact ⟨haudio, haudio', hloop, hpipelines.setVolume _, hptp', setVolume_same rfl rfl rfl⟩

/-- **Starting a session anew** on threads that have the transport in common. -/
theorem restartAudioSession_alike (ht : Sane listener t.pipeline) (hu : Sane listener u.pipeline)
    (htransport : SameTransport t.pipeline u.pipeline)
    (hgeneration : t.loop.transportGeneration = u.loop.transportGeneration) (io : SessionIo) :
    AppliedAlike StartedAlike (restartAudioSession io t stream)
      (restartAudioSession io u stream) := by
  rw [restartAudioSession, restartAudioSession]
  dsimp only
  cases hok : (audioPipelineConfigure io.configure (closeAudio t).pipeline stream.session).2 with
  | false => exact Or.inl (by rw [if_pos rfl])
  | true =>
      cases hok' : (audioPipelineConfigure io.configure (closeAudio u).pipeline
          stream.session).2 with
      | false => exact Or.inr (Or.inl (by rw [if_pos rfl]))
      | true =>
          obtain ⟨hpipelines, hptp⟩ := restarted_samePlayback htransport ht.pool hu.pool ht.clock
            hu.clock io.configure stream.session hok hok'
          have hgoes : ¬ true = false := by decide
          rw [if_neg hgoes, if_neg hgoes]
          split
          · exact Or.inl rfl
          · split
            · exact Or.inl rfl
            · split
              · exact Or.inr (Or.inl rfl)
              · exact Or.inr (Or.inr (enterSession_alike stream
                  (t := { closeAudio t with
                    audio := true
                    pipeline := restarted io.configure t.pipeline stream.session })
                  (u := { closeAudio u with
                    audio := true
                    pipeline := restarted io.configure u.pipeline stream.session })
                  rfl rfl hgeneration hpipelines hptp))

theorem StartedAlike.volume (h : StartedAlike t u) :
    StartedAlike (updateAudioVolume t stream) (updateAudioVolume u stream) := by
  have hptp : SamePtp (audioPipelineSetVolume t.pipeline stream.volumeDb).ptp
      (audioPipelineSetVolume u.pipeline stream.volumeDb).ptp := by
    rw [audioPipelineSetVolume_ptp, audioPipelineSetVolume_ptp]
    exact h.ptp
  have hvolume : t.loop.volumeDb = u.loop.volumeDb := congrArg AudioLoopState.volumeDb h.loop
  have hloop : ({ t.loop with volumeDb := stream.volumeDb } : AudioLoopState) =
      { u.loop with volumeDb := stream.volumeDb } := by
    rw [h.loop]
  rw [updateAudioVolume, updateAudioVolume, hvolume]
  split
  · exact h
  · exact ⟨h.audio, h.audio', hloop, h.pipelines.setVolume _, hptp, setVolume_same rfl rfl rfl⟩

theorem StartedAlike.anchor (h : StartedAlike t u) :
    StartedAlike (updateAudioAnchor t stream) (updateAudioAnchor u stream) := by
  rw [updateAudioAnchor, updateAudioAnchor]
  split
  · exact ⟨h.audio, h.audio', h.loop, h.pipelines.selectAnchor _, h.ptp.setClock _, h.volumeDb⟩
  · exact h

theorem Matched.volume (haudio : t.audio = true) (haudio' : u.audio = true)
    (hloop : t.loop = u.loop) (hpipelines : SamePlayback t.pipeline u.pipeline)
    (hvolume : SameVolume t u) :
    Matched (updateAudioVolume t stream) (updateAudioVolume u stream) := by
  have hlevel : t.loop.volumeDb = u.loop.volumeDb := congrArg AudioLoopState.volumeDb hloop
  have hloop' : ({ t.loop with volumeDb := stream.volumeDb } : AudioLoopState) =
      { u.loop with volumeDb := stream.volumeDb } := by
    rw [hloop]
  rw [updateAudioVolume, updateAudioVolume, hlevel]
  split
  · exact Matched.playing haudio haudio' hloop hpipelines hvolume
  · exact Matched.playing haudio haudio' hloop' (hpipelines.setVolume _)
      (setVolume_same rfl rfl rfl)

theorem Matched.anchor (h : Matched t u) :
    Matched (updateAudioAnchor t stream) (updateAudioAnchor u stream) := by
  rw [updateAudioAnchor, updateAudioAnchor]
  split
  · cases h with
    | waiting haudio haudio' hgeneration hpipelines =>
        exact Matched.waiting haudio haudio' hgeneration
          ⟨⟨hpipelines.transport.peer, hpipelines.transport.estimate,
            hpipelines.transport.buffered⟩, hpipelines.idle, hpipelines.idle'⟩
    | playing haudio haudio' hloop hpipelines hvolume =>
        exact Matched.playing haudio haudio' hloop (hpipelines.selectAnchor _) hvolume
  · exact h

theorem Matched.transportGeneration (h : Matched t u) :
    t.loop.transportGeneration = u.loop.transportGeneration := by
  cases h with
  | waiting haudio haudio' hgeneration hpipelines => exact hgeneration
  | playing haudio haudio' hloop hpipelines hvolume =>
      exact congrArg AudioLoopState.transportGeneration hloop

theorem Matched.transport (h : Matched t u) :
    Matched (updateAudioTransport t stream) (updateAudioTransport u stream) := by
  rw [updateAudioTransport, updateAudioTransport, h.transportGeneration]
  split
  · exact h
  · cases h with
    | waiting haudio haudio' hgeneration hpipelines =>
        exact Matched.waiting haudio haudio' rfl (hpipelines.setTransport _)
    | playing haudio haudio' hloop hpipelines hvolume =>
        have hloop' : ({ t.loop with transportGeneration := stream.generation } :
            AudioLoopState) = { u.loop with transportGeneration := stream.generation } := by
          rw [hloop]
        exact Matched.playing haudio haudio' hloop' (hpipelines.setTransport _) hvolume

/-- The threads before a stream state is applied, with its transport in place: they were
matched, or the state is of a generation that neither has started. -/
inductive Comparable (t u : AudioThread) : Prop where
  | matched (h : Matched t u) : Comparable t u
  | fresh (hstale : upToDate t stream = false) (hstale' : upToDate u stream = false)
      (htransport : SameTransport t.pipeline u.pipeline)
      (hgeneration : t.loop.transportGeneration = u.loop.transportGeneration)
      (hidle : t.audio = false → t.pipeline.state ≠ .playing)
      (hidle' : u.audio = false → u.pipeline.state ≠ .playing) : Comparable t u

theorem Comparable.transportGeneration (h : Comparable stream t u) :
    t.loop.transportGeneration = u.loop.transportGeneration := by
  cases h with
  | matched h => exact h.transportGeneration
  | fresh hstale hstale' htransport hgeneration hidle hidle' => exact hgeneration

theorem Comparable.sameTransport (h : Comparable stream t u) :
    SameTransport t.pipeline u.pipeline := by
  cases h with
  | fresh hstale hstale' htransport hgeneration hidle hidle' => exact htransport
  | matched h =>
      cases h with
      | waiting haudio haudio' hgeneration hpipelines => exact hpipelines.transport
      | playing haudio haudio' hloop hpipelines hvolume => exact hpipelines.transport

/-- The state is up to date on both threads or on neither, and where it is they play. -/
theorem Comparable.upToDate (h : Comparable stream t u) :
    Service.upToDate t stream = Service.upToDate u stream ∧
      (Service.upToDate t stream = true →
        t.audio = true ∧ u.audio = true ∧ t.loop = u.loop ∧
          SamePlayback t.pipeline u.pipeline ∧ SameVolume t u) := by
  cases h with
  | fresh hstale hstale' htransport hgeneration hidle hidle' =>
      exact ⟨hstale.trans hstale'.symm, fun htrue => absurd (hstale.symm.trans htrue) (by decide)⟩
  | matched h =>
      cases h with
      | waiting haudio haudio' hgeneration hpipelines =>
          have hnot : ∀ v : AudioThread, v.audio = false →
              Service.upToDate v stream = false := by
            intro v hv
            rw [Service.upToDate, hv]
            rfl
          rw [hnot t haudio, hnot u haudio']
          exact ⟨rfl, fun htrue => absurd htrue Bool.false_ne_true⟩
      | playing haudio haudio' hloop hpipelines hvolume =>
          refine ⟨?_, fun _ => ⟨haudio, haudio', hloop, hpipelines, hvolume⟩⟩
          rw [Service.upToDate, Service.upToDate, haudio, haudio', hloop]

/-- Switching the audio off leaves both threads waiting. -/
theorem Comparable.switchOff (h : Comparable stream t u) (io : SessionIo)
    (hwants : wantsAudio stream = false) :
    Matched (switchAudio io t stream).thread (switchAudio io u stream).thread := by
  -- off, either pipeline is stopped, and keeps its transport
  have hoff : ∀ v : AudioThread, (v.audio = false → v.pipeline.state ≠ .playing) →
      (switchAudio io v stream).thread.audio = false ∧
        (switchAudio io v stream).thread.loop = v.loop ∧
        (switchAudio io v stream).thread.pipeline.state ≠ .playing ∧
        SameTransport (switchAudio io v stream).thread.pipeline v.pipeline ∧
        SameTransport v.pipeline (switchAudio io v stream).thread.pipeline := by
    intro v hidle
    rw [switchAudio, if_pos hwants]
    cases haudio : v.audio with
    | true =>
        obtain ⟨hto, hfrom⟩ := audioPipelineStop_transport v.pipeline
        rw [if_pos rfl]
        exact ⟨rfl, rfl, fun hplaying => PipelineState.noConfusion hplaying, hto, hfrom⟩
    | false =>
        rw [if_neg Bool.false_ne_true]
        exact ⟨haudio, rfl, hidle haudio, ⟨rfl, rfl, SameBuffered.refl _⟩,
          rfl, rfl, SameBuffered.refl _⟩
  have hidle : (t.audio = false → t.pipeline.state ≠ .playing) ∧
      (u.audio = false → u.pipeline.state ≠ .playing) := by
    cases h with
    -- the sides may differ in the session they had, but not in whether they play without audio
    | fresh hstale hstale' htransport hgeneration hidle hidle' => exact ⟨hidle, hidle'⟩
    | matched h =>
        cases h with
        | waiting haudio haudio' hgeneration hpipelines =>
            exact ⟨fun _ => hpipelines.idle, fun _ => hpipelines.idle'⟩
        | playing haudio haudio' hloop hpipelines hvolume =>
            exact ⟨fun hfalse => absurd (haudio.symm.trans hfalse) (by decide),
              fun hfalse => absurd (haudio'.symm.trans hfalse) (by decide)⟩
  obtain ⟨haudio, hloop, hstate, hto, -⟩ := hoff t hidle.1
  obtain ⟨haudio', hloop', hstate', -, hfrom⟩ := hoff u hidle.2
  refine Matched.waiting haudio haudio' ?_
    ⟨hto.trans (h.sameTransport.trans hfrom), hstate, hstate'⟩
  rw [hloop, hloop']
  exact h.transportGeneration

/-- A session that is not up to date is started on both threads. -/
theorem Comparable.switchStart (h : Comparable stream t u) (ht : Sane listener t.pipeline)
    (hu : Sane listener u.pipeline) (io : SessionIo) (hwants : wantsAudio stream = true)
    (hstale : Service.upToDate t stream = false) :
    AppliedAlike StartedAlike (switchAudio io t stream) (switchAudio io u stream) := by
  have hstale' : Service.upToDate u stream = false := h.upToDate.1.symm.trans hstale
  have hswitch : ∀ v : AudioThread, Service.upToDate v stream = false →
      switchAudio io v stream =
        if (restartAudioSession io v stream).ok = false then restartAudioSession io v stream
        else { restartAudioSession io v stream with
          thread := updateAudioVolume (restartAudioSession io v stream).thread stream } := by
    intro v hv
    have hstarts : startAudioSession io v stream = restartAudioSession io v stream := by
      rw [startAudioSession, hv, if_neg Bool.false_ne_true]
    rw [switchAudio, hwants, if_neg (by decide), hstarts]
  have halike := restartAudioSession_alike stream ht hu h.sameTransport h.transportGeneration io
  rw [hswitch t hstale, hswitch u hstale']
  generalize restartAudioSession io t stream = r at halike ⊢
  generalize restartAudioSession io u stream = r' at halike ⊢
  by_cases hr : r.ok = false
  · rw [if_pos hr]
    exact Or.inl hr
  · by_cases hr' : r'.ok = false
    · rw [if_pos hr']
      exact Or.inr (Or.inl hr')
    · rw [if_neg hr, if_neg hr']
      rcases halike with hfalse | hfalse | hstarted
      · exact absurd hfalse hr
      · exact absurd hfalse hr'
      · exact Or.inr (Or.inr (hstarted.volume stream))

/-- **Applying a stream state to comparable threads.** -/
theorem Comparable.switch (h : Comparable stream t u) (ht : Sane listener t.pipeline)
    (hu : Sane listener u.pipeline) (io : SessionIo) :
    AppliedAlike Matched (switchAudio io t stream) (switchAudio io u stream) := by
  by_cases hwants : wantsAudio stream = false
  · exact Or.inr (Or.inr (h.switchOff stream io hwants))
  · rw [Bool.not_eq_false] at hwants
    cases hcurrent : Service.upToDate t stream with
    | false =>
        rcases h.switchStart stream ht hu io hwants hcurrent with hr | hr' | hstarted
        · exact Or.inl hr
        · exact Or.inr (Or.inl hr')
        · exact Or.inr (Or.inr hstarted.matched)
    | true =>
        have hcurrent' : Service.upToDate u stream = true := h.upToDate.1.symm.trans hcurrent
        obtain ⟨haudio, haudio', hloop, hpipelines, hvolume⟩ := h.upToDate.2 hcurrent
        have hswitch : ∀ v : AudioThread, Service.upToDate v stream = true →
            switchAudio io v stream = ⟨updateAudioVolume v stream, true, []⟩ := by
          intro v hv
          have hstarts : startAudioSession io v stream = ⟨v, true, []⟩ := by
            rw [startAudioSession, if_pos hv]
          rw [switchAudio, hwants, if_neg (by decide), hstarts]
          rfl
        rw [hswitch t hcurrent, hswitch u hcurrent']
        exact Or.inr (Or.inr (Matched.volume stream haudio haudio' hloop hpipelines
          hvolume))

end Two

/-! ## Two runs -/

/-- Two threads at the same point of their loops. -/
structure Alike (t u : AudioThread) : Prop where
  matched : Matched t u
  phase : t.phase = u.phase
  reads : t.audio = false → ∀ i limit, t.phase ≠ .polling (.receiving i limit)

/-- The transport of a thread is that of the stream state. -/
theorem Matched.comparable {t u : AudioThread} (h : Matched t u) (stream : StreamState) :
    Comparable stream (updateAudioTransport t stream) (updateAudioTransport u stream) :=
  Comparable.matched (h.transport stream)

/-- The thread is before an iteration and has not seen the generation that comes. -/
structure Observes (r : AudioRun) (stream : StreamState) : Prop where
  phase : r.thread.phase = .iteration
  new : r.thread.loop.transportGeneration ≠ stream.generation

theorem Settled.stale {listener : NetSocket} {t : AudioThread} (h : Settled listener t)
    {stream : StreamState} (hnew : t.loop.transportGeneration ≠ stream.generation) :
    upToDate (updateAudioTransport t stream) stream = false := by
  obtain ⟨haudio, hgeneration, -, -⟩ := updateAudioTransport_same t stream
  rw [Bool.eq_false_iff]
  intro hcurrent
  have hsame := (upToDate_iff _ _).mp hcurrent
  have hopen := haudio.symm.trans hsame.audio
  exact hnew ((h.generation hopen).symm.trans (hgeneration.symm.trans hsame.generation))

/-- Threads of any past are comparable once they observe a new generation. -/
theorem Settled.comparable {listener : NetSocket} {t u : AudioThread} (ht : Settled listener t)
    (hu : Settled listener u) {stream : StreamState}
    (hnew : t.loop.transportGeneration ≠ stream.generation)
    (hnew' : u.loop.transportGeneration ≠ stream.generation) :
    Comparable stream (updateAudioTransport t stream) (updateAudioTransport u stream) := by
  obtain ⟨haudio, -, -, -⟩ := updateAudioTransport_same t stream
  obtain ⟨haudio', -, -, -⟩ := updateAudioTransport_same u stream
  obtain ⟨-, hgeneration, hstate⟩ := updateAudioTransport_sane stream ht.pipeline
  obtain ⟨-, hgeneration', hstate'⟩ := updateAudioTransport_sane stream hu.pipeline
  refine Comparable.fresh (ht.stale hnew) (hu.stale hnew') ?_
    (hgeneration.trans hgeneration'.symm) (fun hfalse => ?_) (fun hfalse => ?_)
  · rw [updateAudioTransport, updateAudioTransport, if_neg hnew, if_neg hnew']
    exact setTransport_same ht.pipeline hu.pipeline _
  · rw [hstate]
    exact ht.idle (haudio.symm.trans hfalse)
  · rw [hstate']
    exact hu.idle (haudio'.symm.trans hfalse)

section Runs

variable {listener : NetSocket} {r s : AudioRun} {stream : StreamState}

/-- An iteration that goes on has switched the session, and then selected the anchor. -/
theorem iterate_cases (r : AudioRun) (io : SessionIo) (stream : StreamState) :
    (r.iterate io stream).stopping = true ∨
      (switchAudio io (updateAudioTransport r.thread stream) stream).ok ≠ false ∧
        (r.iterate io stream).thread =
          { updateAudioAnchor
              (switchAudio io (updateAudioTransport r.thread stream) stream).thread stream with
            phase := .polling .inputs } := by
  rw [AudioRun.iterate, iterate, applyStream, AudioRun.stepped]
  split
  · rename_i hstopping
    exact Or.inl hstopping
  · dsimp only
    generalize switchAudio io (updateAudioTransport r.thread stream) stream = a
    by_cases ha : a.ok = false
    · rw [if_pos ha, if_pos ha]
      exact Or.inl rfl
    · rw [if_neg ha, if_neg ha]
      exact Or.inr ⟨ha, rfl⟩

/-- Two iterations that go on: the threads are those of their switches. -/
theorem iterate_switched {related : AudioThread → AudioThread → Prop} {io : SessionIo}
    (hswitch : AppliedAlike related (switchAudio io (updateAudioTransport r.thread stream) stream)
      (switchAudio io (updateAudioTransport s.thread stream) stream)) :
    (r.iterate io stream).stopping = true ∨ (s.iterate io stream).stopping = true ∨
      ∃ t u, related t u ∧
        (r.iterate io stream).thread =
          { updateAudioAnchor t stream with phase := .polling .inputs } ∧
        (s.iterate io stream).thread =
          { updateAudioAnchor u stream with phase := .polling .inputs } := by
  rcases iterate_cases r io stream with hstops | ⟨hok, hthread⟩
  · exact Or.inl hstops
  rcases iterate_cases s io stream with hstops | ⟨hok', hthread'⟩
  · exact Or.inr (Or.inl hstops)
  rcases hswitch with hfalse | hfalse | hrelated
  · exact absurd hfalse hok
  · exact absurd hfalse hok'
  · exact Or.inr (Or.inr ⟨_, _, hrelated, hthread, hthread'⟩)

/-- An iteration of comparable threads. -/
theorem iterate_alike (hr : Settled listener r.thread) (hs : Settled listener s.thread)
    (h : Comparable stream (updateAudioTransport r.thread stream)
      (updateAudioTransport s.thread stream)) (io : SessionIo) :
    (r.iterate io stream).stopping = true ∨ (s.iterate io stream).stopping = true ∨
      Alike (r.iterate io stream).thread (s.iterate io stream).thread := by
  obtain ⟨hsane, -, -⟩ := updateAudioTransport_sane stream hr.pipeline
  obtain ⟨hsane', -, -⟩ := updateAudioTransport_sane stream hs.pipeline
  rcases iterate_switched (h.switch stream hsane hsane' io) with
    hstops | hstops | ⟨t, u, hmatched, hthread, hthread'⟩
  · exact Or.inl hstops
  · exact Or.inr (Or.inl hstops)
  · rw [hthread, hthread']
    refine Or.inr (Or.inr ⟨?_, rfl, fun _ i limit hfalse => ?_⟩)
    · cases hmatched.anchor stream with
      | waiting haudio haudio' hgeneration hpipelines =>
          exact Matched.waiting haudio haudio' hgeneration hpipelines
      | playing haudio haudio' hloop hpipelines hvolume =>
          exact Matched.playing haudio haudio' hloop hpipelines hvolume
    · exact PollPhase.noConfusion (AudioPhase.polling.inj hfalse)

/-- A turn of threads at the same point. -/
theorem turn_alike (aead : Aead) (h : Alike r.thread s.thread) (io : AudioIo) {phase : PollPhase}
    (hphase : r.thread.phase = .polling phase) :
    (r.turn aead io phase).1.stopping = true ∨ (s.turn aead io phase).1.stopping = true ∨
      Alike (r.turn aead io phase).1.thread (s.turn aead io phase).1.thread ∧
        (r.turn aead io phase).2 = (s.turn aead io phase).2 := by
  have hstops : ∀ v : AudioRun,
      (pollTurn aead io.turn v.thread.pipeline phase).phase = .done false →
      (v.turn aead io phase).1.stopping = true := by
    intro v hfails
    rw [AudioRun.turn, AudioRun.stepped, threadTurn]
    dsimp only
    rw [decide_eq_true (Or.inl hfails)]
    rfl
  cases h.matched with
  | waiting haudio haudio' hgeneration hpipelines =>
      -- without audio no poll receives records
      have hreads : ∀ i limit, phase ≠ .receiving i limit := by
        rintro i limit rfl
        exact h.reads haudio i limit hphase
      obtain ⟨hagree, hnext⟩ := hpipelines.turn aead io.turn hreads
      rcases hagree with hfails | hfails | ⟨hsame, hevent, hpipelines⟩
      · exact Or.inl (hstops r hfails)
      · exact Or.inr (Or.inl (hstops s hfails))
      · refine Or.inr (Or.inr ⟨⟨?_, congrArg phaseAfter hsame, fun _ i limit hfalse => ?_⟩, hevent⟩)
        · exact Matched.waiting haudio haudio' hgeneration hpipelines
        · have hafter : phaseAfter (pollTurn aead io.turn r.thread.pipeline phase).phase =
              .polling (.receiving i limit) := hfalse
          cases hcase : (pollTurn aead io.turn r.thread.pipeline phase).phase with
          | inputs => simp [hcase, phaseAfter] at hafter
          | receiving j limit' => exact hnext j limit' hcase
          | playing batch => simp [hcase, phaseAfter] at hafter
          | done ok => simp [hcase, phaseAfter] at hafter
  | playing haudio haudio' hloop hpipelines hvolume =>
      have hset := (pollTurn_effect aead io.turn r.thread.pipeline phase).setting
      have hset' := (pollTurn_effect aead io.turn s.thread.pipeline phase).setting
      rcases hpipelines.turn aead io.turn phase with hfails | hfails | ⟨hsame, hevent, hpipelines⟩
      · exact Or.inl (hstops r hfails)
      · exact Or.inr (Or.inl (hstops s hfails))
      · refine Or.inr (Or.inr ⟨⟨?_, congrArg phaseAfter hsame, fun hfalse => ?_⟩, hevent⟩)
        · exact Matched.playing haudio haudio' hloop hpipelines fun hfinite =>
            hset.volumeDb.trans ((hvolume hfinite).trans hset'.volumeDb.symm)
        · exact absurd (haudio.symm.trans hfalse) (by decide)

theorem audioRunStep_stopping (aead : Aead) (r : AudioRun) (input : AudioInput)
    (h : r.stopping = true) : (audioRunStep aead r input).1.stopping = true := by
  cases input with
  | stop => rfl
  | step io stream =>
      rw [audioRunStep]
      cases r.thread.phase with
      | iteration =>
          dsimp only
          rw [AudioRun.iterate, AudioRun.stepped, h]
          dsimp only
          exact Bool.or_true _
      | polling phase =>
          dsimp only
          rw [AudioRun.turn, AudioRun.stepped, h]
          dsimp only
          exact Bool.or_true _
      | finished => exact h

/-- **Threads at the same point stay so** under the same input. -/
theorem audioRunStep_alike (aead : Aead) (hr : Settled listener r.thread)
    (hs : Settled listener s.thread) (h : Alike r.thread s.thread) (input : AudioInput) :
    (audioRunStep aead r input).1.stopping = true ∨
      (audioRunStep aead s input).1.stopping = true ∨
      Alike (audioRunStep aead r input).1.thread (audioRunStep aead s input).1.thread ∧
        (audioRunStep aead r input).2 = (audioRunStep aead s input).2 := by
  cases input with
  | stop => exact Or.inl rfl
  | step io stream =>
      rw [audioRunStep, audioRunStep, ← h.phase]
      cases hphase : r.thread.phase with
      | iteration =>
          rcases iterate_alike hr hs (h.matched.comparable stream) io.session with
            hfails | hfails | hnext
          · exact Or.inl hfails
          · exact Or.inr (Or.inl hfails)
          · exact Or.inr (Or.inr ⟨hnext, rfl⟩)
      | polling phase => exact turn_alike aead h io hphase
      | finished => exact Or.inr (Or.inr ⟨h, rfl⟩)

end Runs

/-! ## Main result -/

/-- The next iteration starts a session, if nothing fails. -/
structure Starts (r : AudioRun) (stream : StreamState) : Prop where
  phase : r.thread.phase = .iteration
  wants : wantsAudio stream = true
  stale : upToDate r.thread stream = false

/-- An iteration that starts a session on comparable threads. -/
theorem iterate_started {listener : NetSocket} {r s : AudioRun} {stream : StreamState}
    (hr : Settled listener r.thread) (hs : Settled listener s.thread)
    (h : Comparable stream (updateAudioTransport r.thread stream)
      (updateAudioTransport s.thread stream)) (hstarts : Starts r stream) (io : SessionIo) :
    (r.iterate io stream).stopping = true ∨ (s.iterate io stream).stopping = true ∨
      StartedAlike (r.iterate io stream).thread (s.iterate io stream).thread := by
  obtain ⟨hsane, -, -⟩ := updateAudioTransport_sane stream hr.pipeline
  obtain ⟨hsane', -, -⟩ := updateAudioTransport_sane stream hs.pipeline
  obtain ⟨haudio, hgeneration, hflush, -⟩ := updateAudioTransport_same r.thread stream
  have hstale : upToDate (updateAudioTransport r.thread stream) stream = false := by
    rw [upToDate, haudio, hgeneration, hflush]
    exact hstarts.stale
  rcases iterate_switched (h.switchStart stream hsane hsane' io hstarts.wants hstale) with
    hstops | hstops | ⟨t, u, hstarted, hthread, hthread'⟩
  · exact Or.inl hstops
  · exact Or.inr (Or.inl hstops)
  · have hnext := hstarted.anchor stream
    rw [hthread, hthread']
    exact Or.inr (Or.inr ⟨hnext.audio, hnext.audio', hnext.loop, hnext.pipelines, hnext.ptp,
      hnext.volumeDb⟩)

section Isolation

variable (aead : Aead) {listener : NetSocket} {r s : AudioRun} {stream : StreamState}

/-- Two settled runs at the same point. -/
structure RunsAlike (listener : NetSocket) (r s : AudioRun) : Prop where
  first : Settled listener r.thread
  second : Settled listener s.thread
  alike : Alike r.thread s.thread

/-- The first common input. -/
theorem observe_alike (hr : Settled listener r.thread) (hs : Settled listener s.thread)
    (hobserves : Observes r stream) (hobserves' : Observes s stream) (io : AudioIo) :
    (audioRunStep aead r (.step io stream)).1.stopping = true ∨
      (audioRunStep aead s (.step io stream)).1.stopping = true ∨
      RunsAlike listener (audioRunStep aead r (.step io stream)).1
        (audioRunStep aead s (.step io stream)).1 := by
  have hnext := iterate_alike hr hs
    (hr.comparable hs hobserves.new hobserves'.new) io.session
  have hsettled := iterate_settled hr io.session stream
  have hsettled' := iterate_settled hs io.session stream
  rw [audioRunStep, audioRunStep, hobserves.phase, hobserves'.phase]
  rcases hnext with hfails | hfails | halike
  · exact Or.inl hfails
  · exact Or.inr (Or.inl hfails)
  · exact Or.inr (Or.inr ⟨hsettled, hsettled', halike⟩)

/-- Common inputs keep two runs alike, with equal outputs. -/
theorem RunsAlike.run (h : RunsAlike listener r s) (inputs : List AudioInput) :
    ((audioMachine aead).run r inputs).1.stopping = true ∨
      ((audioMachine aead).run s inputs).1.stopping = true ∨
      RunsAlike listener ((audioMachine aead).run r inputs).1
          ((audioMachine aead).run s inputs).1 ∧
        ((audioMachine aead).run r inputs).2 = ((audioMachine aead).run s inputs).2 := by
  apply (audioMachine aead).run_related_until (fun r => r.stopping = true) (RunsAlike listener)
  · exact fun r input => audioRunStep_stopping aead r input
  · intro r s input h
    have hnext := audioRunStep_settled aead h.first input
    have hnext' := audioRunStep_settled aead h.second input
    rcases audioRunStep_alike aead h.first h.second h.alike input with
      hfails | hfails | ⟨halike, hout⟩
    · exact Or.inl hfails
    · exact Or.inr (Or.inl hfails)
    · exact Or.inr (Or.inr ⟨⟨hnext, hnext', halike⟩, hout⟩)
  · exact h

/-- The step that starts a session on runs at the same point. -/
theorem RunsAlike.start (h : RunsAlike listener r s) (io : AudioIo) (hstarts : Starts r stream) :
    (audioRunStep aead r (.step io stream)).1.stopping = true ∨
      (audioRunStep aead s (.step io stream)).1.stopping = true ∨
      StartedAlike (audioRunStep aead r (.step io stream)).1.thread
        (audioRunStep aead s (.step io stream)).1.thread := by
  have hphase : s.thread.phase = .iteration := h.alike.phase.symm.trans hstarts.phase
  have hnext := iterate_started h.first h.second (h.alike.matched.comparable stream) hstarts
    io.session
  rw [audioRunStep, audioRunStep, hstarts.phase, hphase]
  exact hnext

/-- A run that stops before some inputs has stopped after them. -/
theorem run_stopping (inputs : List AudioInput) (h : r.stopping = true) :
    ((audioMachine aead).run r inputs).1.stopping = true :=
  (audioMachine aead).run_invariant (fun r => r.stopping = true)
    (fun r input => audioRunStep_stopping aead r input) inputs r h

/-- After the first common input, the runs hand over the same packets. -/
theorem observed_matched (hr : Settled listener r.thread) (hs : Settled listener s.thread)
    (hobserves : Observes r stream) (hobserves' : Observes s stream) (io : AudioIo)
    (rest : List AudioInput) :
    ((audioMachine aead).run r (.step io stream :: rest)).1.stopping = true ∨
      ((audioMachine aead).run s (.step io stream :: rest)).1.stopping = true ∨
      Matched ((audioMachine aead).run r (.step io stream :: rest)).1.thread
          ((audioMachine aead).run s (.step io stream :: rest)).1.thread ∧
        ((audioMachine aead).run r (.step io stream :: rest)).2 =
          ((audioMachine aead).run s (.step io stream :: rest)).2 := by
  have hquiet : ∀ v : AudioRun, Observes v stream →
      (audioRunStep aead v (.step io stream)).2 = .quiet := by
    intro v hv
    rw [audioRunStep, hv.phase]
  rw [Machine.run_cons, Machine.run_cons]
  rcases observe_alike aead hr hs hobserves hobserves' io with hfails | hfails | halike
  · exact Or.inl (run_stopping aead rest hfails)
  · exact Or.inr (Or.inl (run_stopping aead rest hfails))
  · rcases halike.run aead rest with hfails | hfails | ⟨hend, hout⟩
    · exact Or.inl hfails
    · exact Or.inr (Or.inl hfails)
    · refine Or.inr (Or.inr ⟨hend.alike.matched, ?_⟩)
      show (audioRunStep aead r (.step io stream)).2 :: _ =
        (audioRunStep aead s (.step io stream)).2 :: _
      rw [hquiet r hobserves, hquiet s hobserves']
      exact congrArg (TurnEvent.quiet :: ·) hout

/-- At every later input that starts a session, the runs start it alike. -/
theorem observed_started (hr : Settled listener r.thread) (hs : Settled listener s.thread)
    (hobserves : Observes r stream) (hobserves' : Observes s stream) (io : AudioIo)
    (front : List AudioInput) (io' : AudioIo) {stream' : StreamState}
    (hstarts : Starts ((audioMachine aead).run r (.step io stream :: front)).1 stream') :
    ((audioMachine aead).run r
        ((.step io stream :: front) ++ [.step io' stream'])).1.stopping = true ∨
      ((audioMachine aead).run s
        ((.step io stream :: front) ++ [.step io' stream'])).1.stopping = true ∨
      StartedAlike
        ((audioMachine aead).run r ((.step io stream :: front) ++ [.step io' stream'])).1.thread
        ((audioMachine aead).run s
          ((.step io stream :: front) ++ [.step io' stream'])).1.thread := by
  rw [Machine.run_append, Machine.run_append]
  rw [Machine.run_cons] at hstarts ⊢
  rw [Machine.run_cons]
  rcases observe_alike aead hr hs hobserves hobserves' io with hfails | hfails | halike
  · exact Or.inl (run_stopping aead [.step io' stream'] (run_stopping aead front hfails))
  · exact Or.inr (Or.inl (run_stopping aead [.step io' stream'] (run_stopping aead front hfails)))
  · rcases halike.run aead front with hfails | hfails | ⟨hend, -⟩
    · exact Or.inl (run_stopping aead [.step io' stream'] hfails)
    · exact Or.inr (Or.inl (run_stopping aead [.step io' stream'] hfails))
    · exact hend.start aead io' hstarts

/-- The first common input may start the session at once. -/
theorem observed_starts_at_once (hr : Settled listener r.thread) (hs : Settled listener s.thread)
    (hobserves : Observes r stream) (hobserves' : Observes s stream) (io : AudioIo)
    (hstarts : Starts r stream) :
    ((audioMachine aead).run r [.step io stream]).1.stopping = true ∨
      ((audioMachine aead).run s [.step io stream]).1.stopping = true ∨
      StartedAlike ((audioMachine aead).run r [.step io stream]).1.thread
        ((audioMachine aead).run s [.step io stream]).1.thread := by
  have hnext := iterate_started hr hs (hr.comparable hs hobserves.new hobserves'.new) hstarts
    io.session
  have hrun : ∀ v : AudioRun, Observes v stream →
      ((audioMachine aead).run v [.step io stream]).1 = v.iterate io.session stream := by
    intro v hv
    show (audioRunStep aead v (.step io stream)).1 = _
    rw [audioRunStep, hv.phase]
  rw [hrun r hobserves, hrun s hobserves']
  exact hnext

end Isolation

/-- **A new session is isolated from the ones before.** Two audio threads with arbitrary
pasts come to a stream state of a generation that is new to both, and get the same
inputs from then on. Until one of them stops, they hand over the same packets and both
wait or play alike, at one volume. And when a session is started, they agree on all that
playback depends on, the PTP clock included. -/
theorem new_session_isolated (aead : Aead) (listener : NetSocket)
    (past past' : List AudioInput) (io : AudioIo) (stream : StreamState)
    (hobserves : Observes (audioRun aead listener past) stream)
    (hobserves' : Observes (audioRun aead listener past') stream) (rest : List AudioInput) :
    let runFrom := fun past inputs => (audioMachine aead).run (audioRun aead listener past) inputs
    let inputs := .step io stream :: rest
    ((runFrom past inputs).1.stopping = true ∨ (runFrom past' inputs).1.stopping = true ∨
      Matched (runFrom past inputs).1.thread (runFrom past' inputs).1.thread ∧
        (runFrom past inputs).2 = (runFrom past' inputs).2) ∧
    ∀ front io' stream', inputs = front ++ [.step io' stream'] →
      Starts (runFrom past front).1 stream' →
      (runFrom past inputs).1.stopping = true ∨ (runFrom past' inputs).1.stopping = true ∨
        StartedAlike (runFrom past inputs).1.thread (runFrom past' inputs).1.thread := by
  have hr := audioRun_settled aead listener past
  have hs := audioRun_settled aead listener past'
  dsimp only
  refine ⟨observed_matched aead hr hs hobserves hobserves' io rest, ?_⟩
  intro front io' stream' hinputs hstarts
  cases front with
  | nil =>
      obtain ⟨hinput, rfl⟩ : AudioInput.step io stream = .step io' stream' ∧ rest = [] := by
        simpa using hinputs
      obtain ⟨rfl, rfl⟩ := AudioInput.step.inj hinput
      exact observed_starts_at_once aead hr hs hobserves hobserves' io hstarts
  | cons head front =>
      obtain ⟨rfl, rfl⟩ : AudioInput.step io stream = head ∧
          rest = front ++ [.step io' stream'] := by
        simpa using hinputs
      exact observed_started aead hr hs hobserves hobserves' io front io' hstarts

/-- A recorded stream of uncompressed audio. -/
def pcmStream (generation : UInt32) : StreamState :=
  { (RtspServer.initial ⟨none, 0⟩ [] [] []).stream with
    session :=
      { SdpSession.zero with
        codec := .pcm
        sampleRate := 44100
        channels := 2
        bitsPerSample := 16
        framesPerPacket := 352 }
    hasSession := true
    recording := true
    generation := generation }

/-- The audio thread after some steps of a first session. -/
def pcmRun (past : ℕ) (inputs : List AudioInput) : AudioRun :=
  ((audioMachine idlePrimitives.aead).run (audioRun idlePrimitives.aead ⟨some 2, 7000⟩
    (List.replicate past (.step idleAudio (pcmStream 1)))) inputs).1

/-- A thread without a past and one whose first session plays start the second alike. -/
theorem second_session_isolated :
    StartedAlike (pcmRun 0 [.step idleAudio (pcmStream 2)]).thread
      (pcmRun 3 [.step idleAudio (pcmStream 2)]).thread := by
  rw [pcmRun, pcmRun]
  rcases (new_session_isolated idlePrimitives.aead ⟨some 2, 7000⟩
    (List.replicate 0 (.step idleAudio (pcmStream 1)))
    (List.replicate 3 (.step idleAudio (pcmStream 1))) idleAudio (pcmStream 2)
    ⟨by decide +kernel, by decide +kernel⟩ ⟨by decide +kernel, by decide +kernel⟩ []).2 []
    idleAudio (pcmStream 2) rfl ⟨by decide +kernel, by decide +kernel, by decide +kernel⟩
    with hfails | hfails | halike
  · exact absurd hfails (by decide +kernel)
  · exact absurd hfails (by decide +kernel)
  · exact halike

end PortableAirplay.Service
