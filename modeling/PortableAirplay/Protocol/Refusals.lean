import PortableAirplay.Protocol.Fragmentation
import PortableAirplay.Protocol.StreamOwnership

/-!
# Requests that leave the stream alone

What a request did to the stream is known from the status of its answer: a request
that is refused changed nothing (`refused_changes_nothing`). A connection that does
not own the stream cannot disturb it either, as long as it does not take it over
(`bystander_changes_nothing`).
-/

set_option autoImplicit false

namespace PortableAirplay.Protocol

open PortableAirplay.Airplay
open PortableAirplay.Library
open PortableAirplay.Platform
open PortableAirplay.Util

/-! ## Refused requests -/

theorem respond_stream (prim : Primitives) (io : RequestIo) (s : RtspServer) (i : Slot) (code : ℕ)
    (text : CString) (cseq : UInt32) (headers : CString) (body : List UInt8) :
    (respond prim io s i code text cseq headers body).server.stream = s.stream ∧
      (respond prim io s i code text cseq headers body).server.streamOwner = s.streamOwner :=
  ⟨rfl, rfl⟩

theorem startEncryption_stream (i : Slot) (r : HandlerResult) :
    (startEncryption i r).status = r.status ∧
      (startEncryption i r).server.stream = r.server.stream ∧
      (startEncryption i r).server.streamOwner = r.server.streamOwner := by
  rw [startEncryption]
  split
  · exact ⟨rfl, rfl, rfl⟩
  · exact ⟨rfl, rfl, rfl⟩

/-- The status is 200, or the request was refused and the stream is as it was. -/
theorem Handled.status_cases {prim : Primitives} {io : RequestIo} {s : RtspServer} {i : Slot}
    {request : RtspRequest} {r : HandlerResult} (h : Handled prim io s i request r) :
    (r.status = 200 ∨ 400 ≤ r.status) ∧
      (400 ≤ r.status →
        r.server.stream = s.stream ∧ r.server.streamOwner = s.streamOwner) := by
  cases h with
  | sent a h => exact ⟨h.code, h.refused⟩
  | paired a h =>
      obtain ⟨hstatus, hstream, howner⟩ := startEncryption_stream i (a.send prim io i request)
      rw [hstatus, hstream, howner]
      exact ⟨h.code, h.refused⟩

/-- **Refused requests change nothing.** In every state of the server, a request that
is answered with a status of 400 or above leaves the stream state and its owner as
they were, sent or not. A stream SETUP cannot be refused after it has published its
session: its answer fits the buffer. -/
theorem refused_changes_nothing (prim : Primitives) (io : RequestIo) (s : RtspServer) (i : Slot)
    (request : RtspRequest) :
    let r := handleRequest prim io s i request
    (400 ≤ r.status → r.server.stream = s.stream ∧ r.server.streamOwner = s.streamOwner) ∧
    (∀ q : StreamRequest, q.supported = true →
      bplistFinish (setupReply q.type).1 (setupReply q.type).2 ≠ []) :=
  ⟨(handleRequest_handled prim io s i request).status_cases.2, fun _ h => setupReply_fits h⟩

/-! ## Bystanders -/

/-- What a connection that does not own the stream must leave alone. -/
structure SameSession (before after : RtspServer) : Prop where
  session : after.stream.session = before.stream.session
  hasSession : after.stream.hasSession = before.stream.hasSession
  recording : after.stream.recording = before.stream.recording
  generation : after.stream.generation = before.stream.generation
  flushGeneration : after.stream.flushGeneration = before.stream.flushGeneration
  timingPeer : after.stream.timingPeer = before.stream.timingPeer
  timestampFloor : after.stream.timestampFloor = before.stream.timestampFloor
  hasTimestampFloor : after.stream.hasTimestampFloor = before.stream.hasTimestampFloor
  floorExclusive : after.stream.floorExclusive = before.stream.floorExclusive
  bufferedFlushSequence :
    after.stream.bufferedFlushSequence = before.stream.bufferedFlushSequence
  hasBufferedFlushSequence :
    after.stream.hasBufferedFlushSequence = before.stream.hasBufferedFlushSequence
  anchor : after.stream.anchor = before.stream.anchor
  streamOwner : after.streamOwner = before.streamOwner

theorem SameSession.ofStream {before after : RtspServer} (hstream : after.stream = before.stream)
    (howner : after.streamOwner = before.streamOwner) : SameSession before after := by
  constructor
  case streamOwner => exact howner
  all_goals rw [hstream]

theorem SameSession.refl (s : RtspServer) : SameSession s s := SameSession.ofStream rfl rfl

theorem SameSession.trans {a b c : RtspServer} (hab : SameSession a b) (hbc : SameSession b c) :
    SameSession a c where
  session := hbc.session.trans hab.session
  hasSession := hbc.hasSession.trans hab.hasSession
  recording := hbc.recording.trans hab.recording
  generation := hbc.generation.trans hab.generation
  flushGeneration := hbc.flushGeneration.trans hab.flushGeneration
  timingPeer := hbc.timingPeer.trans hab.timingPeer
  timestampFloor := hbc.timestampFloor.trans hab.timestampFloor
  hasTimestampFloor := hbc.hasTimestampFloor.trans hab.hasTimestampFloor
  floorExclusive := hbc.floorExclusive.trans hab.floorExclusive
  bufferedFlushSequence := hbc.bufferedFlushSequence.trans hab.bufferedFlushSequence
  hasBufferedFlushSequence := hbc.hasBufferedFlushSequence.trans hab.hasBufferedFlushSequence
  anchor := hbc.anchor.trans hab.anchor
  streamOwner := hbc.streamOwner.trans hab.streamOwner

/-- The request asks for the stream: an ANNOUNCE, or a SETUP whose property list has
streams. -/
def asksForStream (request : RtspRequest) : Bool :=
  match request.method with
  | .announce => true
  | .setup =>
      isBinaryPlist request &&
        (bplistOpen request.body).any fun p =>
          bplistGet p p.root (ascii "streams") != bplistNone
  | _ => false

/-- A connection that is not the owner's goes without a trace. -/
theorem closeClient_bystander {s : RtspServer} {i : Slot} (h : s.streamOwner ≠ some i) :
    SameSession s (closeClient s i) := by
  have hrelease : releaseStream s i = s := by
    rw [releaseStream, if_neg h]
  apply SameSession.ofStream
  · rw [closeClient_stream, hrelease]
  · rw [closeClient, hrelease]
    rfl

/-- The initial SETUP does not touch the stream. -/
theorem airplay2Setup_events (prim : Primitives) (io : RequestIo) (s : RtspServer) (i : Slot)
    (request : RtspRequest)
    (h : ∀ p, bplistOpen request.body = some p →
      bplistGet p p.root (ascii "streams") = bplistNone) :
    (airplay2Setup prim io s i request).server.stream = s.stream ∧
      (airplay2Setup prim io s i request).server.streamOwner = s.streamOwner := by
  rw [airplay2Setup, openEncryptedPlist]
  split
  · exact respond_stream ..
  · cases hopen : bplistOpen request.body with
    | none => exact respond_stream ..
    | some p =>
        dsimp only
        rw [setup, if_pos (h p hopen), setupEvents]
        split
        · exact respond_stream ..
        · dsimp only
          split
          · exact respond_stream ..
          · rw [plistResponse]
            split
            · exact respond_stream ..
            · exact respond_stream ..

/-- A request that changes what a bystander must leave alone asks for the stream and
gets it. -/
theorem handleRequest_bystander (prim : Primitives) (io : RequestIo) {s : RtspServer} {i : Slot}
    {request : RtspRequest} (h : s.streamOwner ≠ some i)
    (hasks : ¬ (asksForStream request = true ∧ (handleRequest prim io s i request).status = 200)) :
    SameSession s (handleRequest prim io s i request).server := by
  obtain ⟨hstatus, hrefused⟩ := (handleRequest_handled prim io s i request).status_cases
  by_cases hcode : 400 ≤ (handleRequest prim io s i request).status
  · exact SameSession.ofStream (hrefused hcode).1 (hrefused hcode).2
  · have hplain : asksForStream request = false := by
      rw [← Bool.not_eq_true]
      exact fun htrue => hasks ⟨htrue, hstatus.resolve_right hcode⟩
    have hstep := (handleRequest_effect prim io s i request).stream
    -- of the changes that need no ownership, two ask for the stream
    have hcases : (handleRequest prim io s i request).server.stream = s.stream ∧
        (handleRequest prim io s i request).server.streamOwner = s.streamOwner ∨
        (∃ level, (handleRequest prim io s i request).server.stream =
          { s.stream with volumeDb := level } ∧
          (handleRequest prim io s i request).server.streamOwner = s.streamOwner) ∨
        (request.method = .setup ∧ isBinaryPlist request = true) := by
      generalize (handleRequest prim io s i request).server.stream = stream at hstep ⊢
      generalize (handleRequest prim io s i request).server.streamOwner = owner at hstep ⊢
      cases hstep with
      | same => exact Or.inl ⟨rfl, rfl⟩
      | announce parsed hmethod hparse hcodec =>
          rw [asksForStream, hmethod] at hplain
          contradiction
      | setup q key hmethod hbody hencrypted hsupported =>
          exact Or.inr (Or.inr ⟨hmethod, hbody⟩)
      | timing port hmethod hbody howner => exact absurd howner h
      | volume level => exact Or.inr (Or.inl ⟨level, rfl, rfl⟩)
      | flush rtptime howner => exact absurd howner h
      | record rtptime hmethod htime howner hsession => exact absurd howner h
      | pause howner => exact absurd howner h
      | release hmethod howner => exact absurd howner h
      | anchor a hencrypted howner => exact absurd howner h
      | bufferedFlush sequence hencrypted howner => exact absurd howner h
    rcases hcases with ⟨hstream, howner⟩ | ⟨level, hstream, howner⟩ | ⟨hmethod, hbody⟩
    · exact SameSession.ofStream hstream howner
    · constructor
      case streamOwner => exact howner
      all_goals rw [hstream]
    · rw [asksForStream, hmethod, hbody, Bool.true_and] at hplain
      have hnone : ∀ p, bplistOpen request.body = some p →
          bplistGet p p.root (ascii "streams") = bplistNone := by
        intro p hopen
        rw [hopen, Option.any_some, bne_eq_false_iff_eq] at hplain
        exact hplain
      have hroute : handleRequest prim io s i request =
          airplay2Setup prim io (withVersion s i request) i request := by
        rw [handleRequest, routeRequest, hmethod]
        exact if_pos hbody
      obtain ⟨hstream, howner⟩ :=
        airplay2Setup_events prim io (withVersion s i request) i request hnone
      rw [hroute]
      exact SameSession.ofStream hstream howner

/-- **Bystanders change nothing.** In every state of the server, reachable or not,
nothing that a client other than the owner asks for disturbs the session, whatever
becomes of its answer, unless it asks for the stream and is answered with 200; and
the session does not notice that such a client disconnects. -/
theorem bystander_changes_nothing (prim : Primitives) (s : RtspServer) (i : Slot)
    (h : s.streamOwner ≠ some i) :
    (∀ (io : RequestIo) (request : RtspRequest),
      let r := handleRequest prim io s i request
      ¬ (asksForStream request = true ∧ r.status = 200) →
        SameSession s r.server ∧ SameSession s (closeClient r.server i)) ∧
    SameSession s (closeClient s i) := by
  refine ⟨fun io request hasks => ?_, closeClient_bystander h⟩
  have hsame := handleRequest_bystander prim io h hasks
  have hother : (handleRequest prim io s i request).server.streamOwner ≠ some i := by
    rw [hsame.streamOwner]
    exact h
  exact ⟨hsame, hsame.trans (closeClient_bystander hother)⟩

/-- The second slot. -/
def secondSlot : Slot := ⟨1, by decide⟩

/-- A client in the first slot announces a stream and records it from 1000; another client is
connected. -/
def recordingSteps : List ControlStep :=
  [.accept 2 ⟨ascii "10.0.0.2", 50000⟩, .accept 3 ⟨ascii "10.0.0.3", 50000⟩,
    .request firstSlot
      { RtspRequest.zero with method := .announce, body := ascii "a=rtpmap:96 L16/44100" }
      ⟨none, none, ⟨false, none, false⟩⟩,
    .request firstSlot
      { RtspRequest.zero with
        method := .record
        headers := [⟨ascii "RTP-Info", ascii "rtptime=1000"⟩] }
      ⟨none, none, ⟨false, none, false⟩⟩]

/-- The server after these steps. -/
def recordingServer : RtspServer :=
  (controlRun idlePrimitives (ControlState.initial ⟨some 1, 5000⟩ [] [] []) recordingSteps).server

/-- The first client records; the other one asks for a PAUSE, a FLUSH, a RECORD or a TEARDOWN,
and leaves. -/
theorem bystander_changes_nothing_recording :
    let s := recordingServer
    (s.streamOwner = some firstSlot ∧ s.stream.recording = true ∧ s.stream.timestampFloor = 1000 ∧
      (s.clients secondSlot).socket.isOpen = true) ∧
    (∀ method ∈ [RtspMethod.pause, .flush, .record, .teardown],
      let r := handleRequest idlePrimitives ⟨none, none, ⟨false, none, false⟩⟩ s secondSlot
        { RtspRequest.zero with method := method }
      SameSession s r.server ∧ SameSession s (closeClient r.server secondSlot)) ∧
    SameSession s (closeClient s secondSlot) := by
  have h := bystander_changes_nothing idlePrimitives recordingServer secondSlot
    (by decide +kernel)
  refine ⟨by decide +kernel, fun method hmethod => h.1 _ _ fun hasks => ?_, h.2⟩
  -- none of the methods asks for the stream
  have hnone : ∀ m ∈ [RtspMethod.pause, .flush, .record, .teardown],
      asksForStream { RtspRequest.zero with method := m } = false := by decide
  rw [hnone method hmethod] at hasks
  exact Bool.noConfusion hasks.1

/-- A step of a connection other than the owner's that does not take the stream. -/
def Bystands (prim : Primitives) (c : ControlState) : ControlStep → Prop
  | .close i => c.server.streamOwner ≠ some i
  | .request i request io =>
      c.server.streamOwner ≠ some i ∧
        ¬ (asksForStream request = true ∧
          (handleRequest prim io c.server i request).status = 200)
  | _ => True

/-- **A session outlives any number of bystanders.** -/
theorem bystanders_run (prim : Primitives) (c : ControlState) (steps : List ControlStep)
    (hguard : (controlMachine prim).Guarded (Bystands prim) c steps) :
    SameSession c.server (controlRun prim c steps).server := by
  refine (controlMachine prim).run_guarded (fun after => SameSession c.server after.server) ?_
    steps c (SameSession.refl _) hguard
  intro now step hsame hstep
  apply hsame.trans
  cases step with
  | accept handle peer =>
      show SameSession now.server (controlStep prim now (.accept handle peer)).server
      rw [controlStep]
      cases freeSlot now.server with
      | none => exact SameSession.refl _
      | some i => exact SameSession.ofStream rfl rfl
  | close i => exact closeClient_bystander hstep
  | request i request io =>
      show SameSession now.server (requestStep prim now i request io).server
      rw [requestStep]
      split
      · exact SameSession.refl _
      · exact handleRequest_bystander prim io hstep.1 hstep.2
  | receive i pairing record eventClient rx => exact SameSession.ofStream rfl rfl

end PortableAirplay.Protocol
