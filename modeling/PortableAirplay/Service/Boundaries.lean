import PortableAirplay.Protocol.Fragmentation
import PortableAirplay.Service.AirplayServer

/-!
# Boundaries between the threads

RECORD and FLUSH write a boundary into the stream state, and the audio thread gives it
to the pipeline when it starts a session anew. It does so where one of two counters
differs from its copy, and a RECORD changes neither: a RECORD that finds the device
open and both copies up to date is answered with 200 and its boundary never reaches
the pipeline (`record_boundary_lost`).

`KeepsBoundaries` is the condition on a step under which nothing is lost, and
`boundaries_in_force` says so for every run. The invariant (`InForce`) is that while
the copies are up to date the boundary of the stream state is the last one given.
-/

set_option autoImplicit false

namespace PortableAirplay.Service

open PortableAirplay.Airplay
open PortableAirplay.Audio
open PortableAirplay.Library
open PortableAirplay.Platform
open PortableAirplay.Protocol

/-! ## The last boundary given -/

/-- A boundary: an RTP timestamp and whether it is exclusive. -/
abbrev Boundary := UInt32 × Bool

/-- The last boundary given, after some more calls. -/
def lastBoundary (last : Option Boundary) (calls : List PipelineCall) : Option Boundary :=
  calls.foldl
    (fun last call =>
      match call with
      | .setStart timestamp exclusive => some (timestamp, exclusive)
      | _ => last) last

/-- The monitor that remembers the last boundary given to `audio_pipeline_set_start`. -/
def boundaryMonitor (last : Option Boundary) (_ : AirplayServer) (_ : ServerStep) :
    ServerEvent → Option Boundary
  | .iteration _ _ calls => lastBoundary last calls
  | _ => last

/-- The receiver with that monitor. -/
def boundaryMachine (prim : Primitives) :
    Machine (AirplayServer × Option Boundary) ServerStep ServerEvent :=
  (serverMachine prim).watched boundaryMonitor

theorem lastBoundary_append (last : Option Boundary) (xs ys : List PipelineCall) :
    lastBoundary last (xs ++ ys) = lastBoundary (lastBoundary last xs) ys := List.foldl_append

@[simp] theorem lastBoundary_stop (last : Option Boundary) (calls : List PipelineCall) :
    lastBoundary last (.stop :: calls) = lastBoundary last calls := rfl

@[simp] theorem lastBoundary_seekCalls (last : Option Boundary) (stream : StreamState) :
    lastBoundary last (seekCalls stream) = last := by
  rw [seekCalls]
  split
  · rfl
  · rfl

/-- The boundary of a stream state. -/
def boundaryOf (stream : StreamState) : Boundary := (stream.timestampFloor, stream.floorExclusive)

theorem lastBoundary_floorCalls {stream : StreamState} (h : stream.hasTimestampFloor = true)
    (last : Option Boundary) : lastBoundary last (floorCalls stream) = some (boundaryOf stream) := by
  rw [floorCalls, if_pos h]
  rfl

/-! ## What the control plane does to boundaries -/

/-- The boundary of an accepted RECORD that carries an RTP time. -/
def recordedBoundary (c : ControlState) : ControlStep → Option UInt32
  | .request i request _ =>
      if request.method = .record ∧ (c.server.clients i).socket.isOpen = true ∧
          c.server.streamOwner = some i ∧ c.server.stream.hasSession = true ∧
          hasEventChannel c.server i = false then
        match rtpTime request with
        | .found timestamp => some timestamp
        | _ => none
      else none
  | _ => none

/-- The changes of the counters and the boundary by a step of the control plane. -/
inductive BoundaryStep (c : ControlState) (step : ControlStep) (before : StreamState) :
    StreamState → Prop where
  | kept (after : StreamState) (hgeneration : after.generation = before.generation)
      (hflush : after.flushGeneration = before.flushGeneration)
      (hfloor : after.hasTimestampFloor = true →
        before.hasTimestampFloor = true ∧ boundaryOf after = boundaryOf before) :
      BoundaryStep c step before after
  | published (after : StreamState) (hgeneration : after.generation = before.generation + 1)
      (hflush : after.flushGeneration = before.flushGeneration) : BoundaryStep c step before after
  | flushed (after : StreamState) (hgeneration : after.generation = before.generation)
      (hflush : after.flushGeneration = before.flushGeneration + 1) :
      BoundaryStep c step before after
  | recorded (after : StreamState) (timestamp : UInt32)
      (hrecorded : recordedBoundary c step = some timestamp)
      (hgeneration : after.generation = before.generation)
      (hflush : after.flushGeneration = before.flushGeneration)
      (hboundary : boundaryOf after = (timestamp, false)) : BoundaryStep c step before after

theorem BoundaryStep.same (c : ControlState) (step : ControlStep) (stream : StreamState) :
    BoundaryStep c step stream stream :=
  BoundaryStep.kept stream rfl rfl fun h => ⟨h, rfl⟩

theorem streamStep_boundary {c : ControlState} {i : Protocol.Slot} {request : RtspRequest}
    {io : RequestIo} {stream : StreamState} {owner : Option Protocol.Slot}
    (hopen : (c.server.clients i).socket.isOpen = true)
    (h : StreamStep c.server i request stream owner) :
    BoundaryStep c (.request i request io) c.server.stream stream := by
  cases h with
  | same => exact BoundaryStep.same _ _ _
  | announce parsed hmethod hparse hcodec => exact BoundaryStep.published _ rfl rfl
  | setup q key hmethod hbody hencrypted hsupported => exact BoundaryStep.published _ rfl rfl
  | timing port hmethod hbody howner => exact BoundaryStep.published _ rfl rfl
  | volume level => exact BoundaryStep.kept _ rfl rfl fun hfloor => ⟨hfloor, rfl⟩
  | flush rtptime howner => exact BoundaryStep.flushed _ rfl rfl
  | record rtptime hmethod htime howner hsession =>
      cases rtptime with
      | none => exact BoundaryStep.kept _ rfl rfl fun hfloor => ⟨hfloor, rfl⟩
      | some timestamp =>
          obtain ⟨hfound, hplain⟩ := htime timestamp rfl
          refine BoundaryStep.recorded _ timestamp ?_ rfl rfl rfl
          rw [recordedBoundary, if_pos ⟨hmethod, hopen, howner, hsession, hplain⟩, hfound]
  | pause howner => exact BoundaryStep.kept _ rfl rfl fun hfloor => ⟨hfloor, rfl⟩
  | release hmethod howner => exact BoundaryStep.published _ rfl rfl
  | anchor a hencrypted howner =>
      rw [anchorStream]
      split
      · exact BoundaryStep.kept _ rfl rfl fun hfloor => ⟨hfloor, rfl⟩
      · exact BoundaryStep.kept _ rfl rfl fun hfloor => ⟨hfloor, rfl⟩
  | bufferedFlush sequence hencrypted howner => exact BoundaryStep.flushed _ rfl rfl

theorem controlStep_boundary (prim : Primitives) (c : ControlState) (step : ControlStep) :
    BoundaryStep c step c.server.stream (controlStep prim c step).server.stream := by
  cases step with
  | accept handle peer =>
      rw [controlStep]
      cases freeSlot c.server with
      | none => exact BoundaryStep.same _ _ _
      | some i => exact BoundaryStep.same _ _ _
  | close i =>
      rw [controlStep]
      dsimp only
      rw [closeClient_stream, releaseStream]
      split
      · exact BoundaryStep.published _ rfl rfl
      · exact BoundaryStep.same _ _ _
  | request i request io =>
      rw [controlStep, requestStep]
      by_cases hclosed : (c.server.clients i).socket.isOpen = false
      · rw [if_pos hclosed]
        exact BoundaryStep.same _ _ _
      · rw [if_neg hclosed]
        rw [Bool.not_eq_false] at hclosed
        exact streamStep_boundary hclosed (handleRequest_effect prim io c.server i request).stream
  | receive i pairing record eventClient rx => exact BoundaryStep.same _ _ _

/-! ## The condition -/

/-- The device is open and a counter is about to come around to the thread's copy,
which takes `2 ^ 32 - 1` changes between two iterations. -/
def aboutToWrap (s : AirplayServer) : Prop :=
  s.audio.audio = true ∧
    ((s.audio.loop.generation = s.stream.generation + 1 ∧
        s.audio.loop.flushGeneration = s.stream.flushGeneration) ∨
      (s.audio.loop.generation = s.stream.generation ∧
        s.audio.loop.flushGeneration = s.stream.flushGeneration + 1))

instance (s : AirplayServer) : Decidable (aboutToWrap s) := inferInstanceAs (Decidable (_ ∧ _))

/-- The condition on a step: an accepted RECORD with an RTP time finds the device
closed or a counter changed, or brings the boundary that was given last; and no
counter is about to come around. -/
def KeepsBoundaries (w : AirplayServer × Option Boundary) : ServerStep → Prop
  | .control step =>
      (∀ timestamp ∈ recordedBoundary w.1.control step,
        upToDate w.1.audio w.1.stream = false ∨ w.2 = some (timestamp, false)) ∧
      ¬ aboutToWrap w.1
  | _ => True

instance (w : AirplayServer × Option Boundary) (step : ServerStep) :
    Decidable (KeepsBoundaries w step) :=
  match step with
  | .control step =>
      -- by the option, not by an enumeration of all timestamps
      have : Decidable (∀ timestamp ∈ recordedBoundary w.1.control step,
          upToDate w.1.audio w.1.stream = false ∨ w.2 = some (timestamp, false)) :=
        Option.decidableForallMem _
      inferInstanceAs (Decidable (_ ∧ ¬ aboutToWrap w.1))
  | .audio _ => inferInstanceAs (Decidable True)
  | .stop => inferInstanceAs (Decidable True)
  | .fail => inferInstanceAs (Decidable True)

/-- While the copies are up to date, the boundary of the stream state is the last one
given. -/
def InForce (w : AirplayServer × Option Boundary) : Prop :=
  Current w.1.audio w.1.stream → w.1.stream.hasTimestampFloor = true →
    w.2 = some (boundaryOf w.1.stream)

section InForce

variable {prim : Primitives} {w : AirplayServer × Option Boundary}

theorem InForce.ofClosed (h : w.1.audio.audio = false) : InForce w := by
  intro hcurrent
  exact absurd (hcurrent.audio.symm.trans h) (by decide)

/-- A step of the control plane changes a counter, or leaves the boundary, or is a
RECORD that the condition allows. -/
theorem InForce.control (h : InForce w) (step : ControlStep)
    (hguard : KeepsBoundaries w (.control step)) :
    InForce ((boundaryMachine prim).step w (.control step)).1 := by
  obtain ⟨hrecord, hwrap⟩ := hguard
  have hstep := controlStep_boundary prim w.1.control step
  intro hcurrent hfloor
  obtain ⟨haudio, hgeneration, hflush⟩ := hcurrent
  replace haudio : w.1.audio.audio = true := haudio
  replace hgeneration : w.1.audio.loop.generation =
      (controlStep prim w.1.control step).server.stream.generation := hgeneration
  replace hflush : w.1.audio.loop.flushGeneration =
      (controlStep prim w.1.control step).server.stream.flushGeneration := hflush
  replace hfloor : (controlStep prim w.1.control step).server.stream.hasTimestampFloor = true :=
    hfloor
  show w.2 = some (boundaryOf (controlStep prim w.1.control step).server.stream)
  generalize (controlStep prim w.1.control step).server.stream = after at *
  cases hstep with
  | kept hgeneration' hflush' hkept =>
      obtain ⟨hbefore, hsame⟩ := hkept hfloor
      rw [hsame]
      exact h ⟨haudio, hgeneration.trans hgeneration', hflush.trans hflush'⟩ hbefore
  | published hgeneration' hflush' =>
      exact absurd ⟨haudio, Or.inl ⟨hgeneration.trans hgeneration', hflush.trans hflush'⟩⟩ hwrap
  | flushed hgeneration' hflush' =>
      exact absurd ⟨haudio, Or.inr ⟨hgeneration.trans hgeneration', hflush.trans hflush'⟩⟩ hwrap
  | recorded timestamp hrecorded hgeneration' hflush' hboundary =>
      rw [hboundary]
      rcases hrecord timestamp hrecorded with hchanged | hgiven
      · have hold : upToDate w.1.audio w.1.stream = true := (upToDate_iff _ _).mpr
          ⟨haudio, hgeneration.trans hgeneration', hflush.trans hflush'⟩
        exact absurd (hchanged.symm.trans hold) (by decide)
      · exact hgiven

/-- A successful iteration leaves the invariant in place, and if it wants audio the
boundary of its stream state is in force. -/
theorem InForce.applied (h : InForce w) {r : Applied} (hr : Application w.1.audio w.1.stream r)
    (hok : r.ok = true) (phase : AudioPhase) :
    InForce ({ w.1 with audio := { r.thread with phase := phase } }, lastBoundary w.2 r.calls) ∧
      (wantsAudio w.1.stream = true → w.1.stream.hasTimestampFloor = true →
        lastBoundary w.2 r.calls = some (boundaryOf w.1.stream)) := by
  cases hr with
  | idle after hwants hbefore haudio hqueue =>
      exact ⟨InForce.ofClosed haudio, fun hwanted => absurd (hwants.symm.trans hwanted) (by decide)⟩
  | stopped after hwants hbefore haudio hqueue =>
      exact ⟨InForce.ofClosed haudio, fun hwanted => absurd (hwants.symm.trans hwanted) (by decide)⟩
  | kept after hwants hbefore hcurrent hqueue =>
      exact ⟨fun _ hfloor => h hbefore hfloor, fun _ hfloor => h hbefore hfloor⟩
  | restarted after hwants hbefore hcurrent hqueue =>
      have hgiven : w.1.stream.hasTimestampFloor = true →
          lastBoundary w.2 (.stop :: (floorCalls w.1.stream ++ seekCalls w.1.stream)) =
            some (boundaryOf w.1.stream) := by
        intro hfloor
        rw [lastBoundary_stop, lastBoundary_append, lastBoundary_seekCalls,
          lastBoundary_floorCalls hfloor]
      exact ⟨fun _ hfloor => hgiven hfloor, fun _ hfloor => hgiven hfloor⟩
  | failed after calls hwants hbefore hcalls => exact absurd hok (by simp)

/-- A turn of a poll does not touch the counters or the boundary. -/
theorem InForce.turn (h : InForce w) (io : AudioIo) (phase : PollPhase) :
    InForce ((turnStep prim io w.1 phase).1, w.2) := by
  rw [turnStep, AirplayServer.stepped, threadTurn]
  dsimp only
  split
  · exact fun hcurrent => h ⟨hcurrent.audio, hcurrent.generation, hcurrent.flushGeneration⟩
  · exact fun hcurrent => h ⟨hcurrent.audio, hcurrent.generation, hcurrent.flushGeneration⟩

theorem InForce.audio (h : InForce w) (io : AudioIo) :
    InForce ((boundaryMachine prim).step w (.audio io)).1 := by
  have hstep : ((boundaryMachine prim).step w (.audio io)).1 =
      ((audioStep prim io w.1).1,
        boundaryMonitor w.2 w.1 (.audio io) (audioStep prim io w.1).2) := rfl
  have heffect := audioStep_effect prim io w.1
  rw [hstep]
  generalize audioStep prim io w.1 = next at heffect ⊢
  cases heffect with
  | finished hphase => exact h
  | turn phase hphase => exact h.turn io phase
  | ended hphase hstopping => exact InForce.ofClosed rfl
  | failed r hphase hstopping hr hok => exact InForce.ofClosed rfl
  | applied r hphase hstopping hr hok =>
      have happlied := applyStream_application w.1.audio w.1.stream io.session
      rw [hr] at happlied
      exact (h.applied happlied hok _).1

theorem InForce.step (h : InForce w) (step : ServerStep) (hguard : KeepsBoundaries w step) :
    InForce ((boundaryMachine prim).step w step).1 := by
  cases step with
  | control step => exact h.control step hguard
  | audio io => exact h.audio io
  | stop => exact h
  | fail => exact h

end InForce

/-! ## Main result -/

/-- The boundary of the stream state that an iteration copied is in force after it, if
the iteration succeeded and the stream state asks for audio and has a boundary. -/
def BoundaryApplied (after : AirplayServer × Option Boundary) : ServerEvent → Prop
  | .iteration stream ok _ =>
      ok = true → stream.recording = true → stream.hasSession = true →
        stream.hasTimestampFloor = true → after.2 = some (boundaryOf stream)
  | _ => True

/-- **No boundary is lost** in a run whose steps meet `KeepsBoundaries`: after each
iteration that copied a stream state with recording, a session and a boundary, and
that did not fail, the boundary last given to the pipeline is that of the copy. -/
theorem boundaries_in_force (prim : Primitives) (listener buffered : NetSocket)
    (localIp localMacHex deviceName : CString) (steps : List ServerStep)
    (hguard : (boundaryMachine prim).Guarded KeepsBoundaries
      (AirplayServer.initial listener buffered localIp localMacHex deviceName, none) steps)
    (io : AudioIo) :
    let w := ((boundaryMachine prim).run
      (AirplayServer.initial listener buffered localIp localMacHex deviceName, none) steps).1
    let next := (boundaryMachine prim).step w (.audio io)
    BoundaryApplied next.1 next.2 := by
  dsimp only
  have h : InForce ((boundaryMachine prim).run
      (AirplayServer.initial listener buffered localIp localMacHex deviceName, none) steps).1 :=
    (boundaryMachine prim).run_guarded InForce (fun _ step hw hg => hw.step step hg) steps _
      (InForce.ofClosed rfl) hguard
  generalize ((boundaryMachine prim).run
    (AirplayServer.initial listener buffered localIp localMacHex deviceName, none) steps).1 = w at h
  have hstep : (boundaryMachine prim).step w (.audio io) =
      (((audioStep prim io w.1).1,
        boundaryMonitor w.2 w.1 (.audio io) (audioStep prim io w.1).2),
        (audioStep prim io w.1).2) := rfl
  have heffect := audioStep_effect prim io w.1
  rw [hstep]
  generalize audioStep prim io w.1 = next at heffect ⊢
  -- only an iteration that goes on to its poll is asked about
  cases heffect with
  | finished hphase => trivial
  | turn phase hphase => trivial
  | ended hphase hstopping => trivial
  | failed r hphase hstopping hr hok => exact fun hfails => absurd hfails (by decide)
  | applied r hphase hstopping hr hok =>
      intro _ hrecording hsession hfloor
      have happlied := applyStream_application w.1.audio w.1.stream io.session
      have hwants : wantsAudio w.1.stream = true := by
        rw [wantsAudio, hrecording, hsession]
        rfl
      rw [hr] at happlied
      exact (h.applied happlied hok (.polling .inputs)).2 hwants hfloor

instance (after : AirplayServer × Option Boundary) (event : ServerEvent) :
    Decidable (BoundaryApplied after event) :=
  match event with
  | .iteration stream ok _ =>
      inferInstanceAs (Decidable (ok = true → stream.recording = true →
        stream.hasSession = true → stream.hasTimestampFloor = true →
          after.2 = some (boundaryOf stream)))
  | .quiet => inferInstanceAs (Decidable True)
  | .turn _ => inferInstanceAs (Decidable True)
  | .ended => inferInstanceAs (Decidable True)

/-! ## A boundary that is lost -/

/-- A request of the client in the first slot. -/
def ask (method : RtspMethod) (headers : List RtspHeader) (body : List UInt8) : ServerStep :=
  .control (.request firstSlot
    { RtspRequest.zero with method := method, headers := headers, body := body }
    ⟨none, none, ⟨false, none, false⟩⟩)

/-- ANNOUNCE of a PCM stream. -/
def announcePcm : ServerStep := ask .announce [] (ascii "a=rtpmap:96 L16/44100")

/-- RECORD with an RTP time. -/
def recordAt (timestamp : String) : ServerStep :=
  ask .record [⟨ascii "RTP-Info", ascii "rtptime=" ++ ascii timestamp⟩] []

/-- A client announces a stream and records from 1000. -/
def recordRun : List ServerStep :=
  [.control (.accept 1 ⟨ascii "10.0.0.2", 50000⟩), announcePcm, recordAt "1000"]

/-- An iteration and its poll; then PAUSE and a RECORD from 2000 before the next one. -/
def resumeRun : List ServerStep :=
  recordRun ++ [.audio idleAudio, .audio idleAudio, .audio idleAudio, ask .pause [] [],
    recordAt "2000"]

/-- The receiver before its first connection. -/
def freshServer : AirplayServer × Option Boundary :=
  (AirplayServer.initial ⟨some 1, 5000⟩ ⟨some 2, 7000⟩ [] [] [], none)

/-- The RECORD from 2000 is answered with 200, and the next iteration, which copies the
boundary, leaves the pipeline at the boundary of the RECORD from 1000. -/
theorem record_boundary_lost :
    let w := ((boundaryMachine idlePrimitives).run freshServer resumeRun).1
    let next := (boundaryMachine idlePrimitives).step w (.audio idleAudio)
    (w.1.stream.timestampFloor = 2000 ∧ next.1.2 = some (1000, false)) ∧
      ¬ BoundaryApplied next.1 next.2 := by
  decide +kernel

/-- The first RECORD meets the condition. -/
theorem record_boundary_given :
    let w := ((boundaryMachine idlePrimitives).run freshServer recordRun).1
    let next := (boundaryMachine idlePrimitives).step w (.audio idleAudio)
    BoundaryApplied next.1 next.2 :=
  boundaries_in_force idlePrimitives ⟨some 1, 5000⟩ ⟨some 2, 7000⟩ [] [] [] recordRun
    (by decide +kernel) idleAudio

end PortableAirplay.Service
