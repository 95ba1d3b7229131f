import PortableAirplay.Protocol.RequestEffect

/-!
# Ownership of the stream

Connections come and go, and any of them may take the stream over, use it or give
it up. The control plane is run here one step at a time, in any order: a connection
is accepted, a connection is closed (for whatever reason, a failed send among them),
a client's request is handled, bytes are read. Polls are such runs
(`rtspAfter_control`).

Connections are numbered within their slot, and the run remembers which connection
last installed a session. `Owned` is the invariant, and `stream_ownership` says that
it holds in every state of every run, and that no step can change what the audio
side reads without a new generation.
-/

set_option autoImplicit false

namespace PortableAirplay.Protocol

open PortableAirplay.Airplay
open PortableAirplay.Library
open PortableAirplay.Platform
open PortableAirplay.Util

/-! ## The control plane -/

/-- A step of the control plane. Reading a connection changes what belongs to it
alone. -/
inductive ControlStep where
  | accept (handle : ℕ) (peer : NetAddr)
  | close (i : Slot)
  | request (i : Slot) (request : RtspRequest) (io : RequestIo)
  | receive (i : Slot) (pairing : Pairing) (record : List UInt8) (eventClient : NetSocket)
      (rx : List UInt8)

/-- A connection: its slot and how many were accepted there before it. -/
abbrev Connection := Slot × ℕ

/-- The server with its history: how many connections each slot has had, and the
connection that last installed a session. -/
structure ControlState where
  server : RtspServer
  accepted : Slot → ℕ
  installer : Option Connection

/-- A request installed a session: an ANNOUNCE or an AirPlay 2 SETUP that has
published a new generation. -/
def Installs (request : RtspRequest) (before after : StreamState) : Prop :=
  (request.method = .announce ∨ (request.method = .setup ∧ isBinaryPlist request = true)) ∧
    after.generation ≠ before.generation

instance (request : RtspRequest) (before after : StreamState) :
    Decidable (Installs request before after) := inferInstanceAs (Decidable (_ ∧ _))

/-- What a client reads is put in place. -/
def receiveStep (s : RtspServer) (i : Slot) (pairing : Pairing) (record : List UInt8)
    (eventClient : NetSocket) (rx : List UInt8) : RtspServer :=
  (s.setClient i
    { s.clients i with pairing := pairing, record := record, eventClient := eventClient }).setRx
      i rx

section Control

variable (prim : Primitives)

/-- A request is handled, if its connection is still there. -/
def requestStep (c : ControlState) (i : Slot) (request : RtspRequest) (io : RequestIo) :
    ControlState :=
  if (c.server.clients i).socket.isOpen = false then c
  else
    let after := (handleRequest prim io c.server i request).server
    { c with
      server := after
      installer :=
        if Installs request c.server.stream after.stream then some (i, c.accepted i)
        else c.installer }

/-- One step of the control plane. -/
def controlStep (c : ControlState) : ControlStep → ControlState
  | .accept handle peer =>
      match freeSlot c.server with
      | none => c
      | some i =>
          { c with
            server := installClient c.server i handle peer
            accepted := Function.update c.accepted i (c.accepted i + 1) }
  | .close i => { c with server := closeClient c.server i }
  | .request i request io => requestStep prim c i request io
  | .receive i pairing record eventClient rx =>
      { c with server := receiveStep c.server i pairing record eventClient rx }

/-- The control plane as a machine. -/
def controlMachine : Machine ControlState ControlStep Unit where
  step c step := (controlStep prim c step, ())

/-- The state after some steps. -/
def controlRun (c : ControlState) (steps : List ControlStep) : ControlState :=
  ((controlMachine prim).run c steps).1

/-- A server before its first connection. -/
def ControlState.initial (listener : NetSocket) (localIp localMacHex deviceName : CString) :
    ControlState where
  server := RtspServer.initial listener localIp localMacHex deviceName
  accepted := fun _ => 0
  installer := none

/-! ## The invariant -/

/-- The ownership invariant: audio runs on a session only, there is a session
exactly while there is an owner, and the owner is an open connection, the one that
installed the session. -/
structure Owned (c : ControlState) : Prop where
  recording : c.server.stream.recording = true → c.server.stream.hasSession = true
  session : c.server.stream.hasSession = true ↔ c.server.streamOwner ≠ none
  owner : ∀ i, c.server.streamOwner = some i →
    (c.server.clients i).socket.isOpen = true ∧ c.installer = some (i, c.accepted i)

theorem initial_owned (listener : NetSocket) (localIp localMacHex deviceName : CString) :
    Owned (ControlState.initial listener localIp localMacHex deviceName) where
  recording h := absurd h Bool.false_ne_true
  session := ⟨fun h => absurd h Bool.false_ne_true, fun h => absurd rfl h⟩
  owner i h := by
    have hnone : (none : Option Slot) = some i := h
    contradiction

variable {prim} {c : ControlState}

/-- A free slot is not the owner's, and the others keep their connections. -/
theorem Owned.accept (h : Owned c) (handle : ℕ) (peer : NetAddr) :
    Owned (controlStep prim c (.accept handle peer)) := by
  rw [controlStep]
  cases hfree : freeSlot c.server with
  | none => exact h
  | some i =>
      refine ⟨h.recording, h.session, ?_⟩
      intro j hj
      obtain ⟨hopen, hinstaller⟩ := h.owner j hj
      have hne : j ≠ i := by
        rintro rfl
        rw [freeSlot_closed hfree] at hopen
        contradiction
      dsimp only
      rw [installClient, setRx_clients, setClient_other _ _ _ _ hne,
        Function.update_of_ne hne]
      exact ⟨hopen, hinstaller⟩

/-- The owner gives the stream up before its connection is closed. -/
theorem Owned.close (h : Owned c) (i : Slot) : Owned (controlStep prim c (.close i)) := by
  by_cases howner : c.server.streamOwner = some i
  · have hstream : (closeClient c.server i).stream = releasedStream c.server := by
      rw [closeClient_stream, releaseStream, if_pos howner]
    have hnone : (closeClient c.server i).streamOwner = none := by
      rw [closeClient, releaseStream, if_pos howner]
      rfl
    constructor
    · intro hrecording
      dsimp only [controlStep] at hrecording
      rw [hstream] at hrecording
      exact absurd hrecording Bool.false_ne_true
    · dsimp only [controlStep]
      rw [hstream, hnone]
      exact ⟨fun hsession => absurd hsession Bool.false_ne_true, fun hne => absurd rfl hne⟩
    · intro j hj
      dsimp only [controlStep] at hj
      rw [hnone] at hj
      contradiction
  · have hstream : (closeClient c.server i).stream = c.server.stream := by
      rw [closeClient_stream, releaseStream, if_neg howner]
    have hsame : (closeClient c.server i).streamOwner = c.server.streamOwner := by
      rw [closeClient, releaseStream, if_neg howner]
      rfl
    constructor
    · dsimp only [controlStep]
      rw [hstream]
      exact h.recording
    · dsimp only [controlStep]
      rw [hstream, hsame]
      exact h.session
    · intro j hj
      dsimp only [controlStep] at hj ⊢
      rw [hsame] at hj
      have hne : j ≠ i := by
        rintro rfl
        exact howner hj
      rw [(closeClient_other c.server hne).1]
      exact h.owner j hj

theorem Owned.receive (h : Owned c) (i : Slot) (pairing : Pairing) (record : List UInt8)
    (eventClient : NetSocket) (rx : List UInt8) :
    Owned (controlStep prim c (.receive i pairing record eventClient rx)) := by
  refine ⟨h.recording, h.session, ?_⟩
  intro j hj
  obtain ⟨hopen, hinstaller⟩ := h.owner j hj
  refine ⟨?_, hinstaller⟩
  dsimp only [controlStep]
  rw [receiveStep, setRx_clients]
  by_cases hne : j = i
  · rw [hne, setClient_same]
    rw [hne] at hopen
    exact hopen
  · rw [setClient_other _ _ _ _ hne]
    exact hopen

/-- What a request leaves of the stream: there is no owner, the requester has just
installed a session, or the owner is the one before and nothing was installed. -/
theorem StreamStep.owned {s : RtspServer} {i : Slot} {request : RtspRequest}
    {stream : StreamState} {owner : Option Slot}
    (h : StreamStep s i request stream owner)
    (hrecording : s.stream.recording = true → s.stream.hasSession = true) :
    (stream.recording = true → stream.hasSession = true) ∧
      ((owner = none ∧ stream.hasSession = false) ∨
        (owner = some i ∧ stream.hasSession = true ∧ Installs request s.stream stream) ∨
        (owner = s.streamOwner ∧ stream.hasSession = s.stream.hasSession ∧
          ¬ Installs request s.stream stream)) := by
  have hnext : s.stream.generation + 1 ≠ s.stream.generation := by
    intro heq
    have hnat := congrArg UInt32.toNat heq
    rw [UInt32.toNat_add] at hnat
    have hlt := s.stream.generation.toNat_lt
    simp only [UInt32.toNat_one] at hnat
    omega
  cases h with
  | same => exact ⟨hrecording, Or.inr (Or.inr ⟨rfl, rfl, fun hi => hi.2 rfl⟩)⟩
  | announce parsed hmethod hparse hcodec =>
      exact ⟨fun _ => rfl, Or.inr (Or.inl ⟨rfl, rfl, Or.inl hmethod, hnext⟩)⟩
  | setup q key hmethod hbody hencrypted hsupported =>
      exact ⟨fun _ => rfl, Or.inr (Or.inl ⟨rfl, rfl, Or.inr ⟨hmethod, hbody⟩, hnext⟩)⟩
  | timing port hmethod hbody howner =>
      -- a plain SETUP publishes a generation but installs nothing
      refine ⟨hrecording, Or.inr (Or.inr ⟨rfl, rfl, ?_⟩)⟩
      rintro ⟨hannounce | ⟨-, hplist⟩, -⟩
      · rw [hmethod] at hannounce
        contradiction
      · rw [hbody] at hplist
        contradiction
  | volume level => exact ⟨hrecording, Or.inr (Or.inr ⟨rfl, rfl, fun hi => hi.2 rfl⟩)⟩
  | flush rtptime howner =>
      exact ⟨hrecording, Or.inr (Or.inr ⟨rfl, rfl, fun hi => hi.2 rfl⟩)⟩
  | record rtptime hmethod htime howner hsession =>
      cases rtptime with
      | none => exact ⟨fun _ => hsession, Or.inr (Or.inr ⟨rfl, rfl, fun hi => hi.2 rfl⟩)⟩
      | some timestamp =>
          exact ⟨fun _ => hsession, Or.inr (Or.inr ⟨rfl, rfl, fun hi => hi.2 rfl⟩)⟩
  | pause howner =>
      exact ⟨fun hfalse => absurd hfalse Bool.false_ne_true,
        Or.inr (Or.inr ⟨rfl, rfl, fun hi => hi.2 rfl⟩)⟩
  | release hmethod howner =>
      exact ⟨fun hfalse => absurd hfalse Bool.false_ne_true, Or.inl ⟨rfl, rfl⟩⟩
  | anchor a hencrypted howner =>
      rw [anchorStream]
      split
      · exact ⟨hrecording, Or.inr (Or.inr ⟨rfl, rfl, fun hi => hi.2 rfl⟩)⟩
      · exact ⟨hrecording, Or.inr (Or.inr ⟨rfl, rfl, fun hi => hi.2 rfl⟩)⟩
  | bufferedFlush sequence hencrypted howner =>
      exact ⟨hrecording, Or.inr (Or.inr ⟨rfl, rfl, fun hi => hi.2 rfl⟩)⟩

theorem Owned.request (h : Owned c) (i : Slot) (request : RtspRequest) (io : RequestIo) :
    Owned (controlStep prim c (.request i request io)) := by
  rw [controlStep, requestStep]
  by_cases hclosed : (c.server.clients i).socket.isOpen = false
  · rw [if_pos hclosed]
    exact h
  · rw [if_neg hclosed]
    rw [Bool.not_eq_false] at hclosed
    have heffect := handleRequest_effect prim io c.server i request
    dsimp only
    generalize handleRequest prim io c.server i request = r at heffect ⊢
    obtain ⟨hrecording, hcases⟩ := heffect.stream.owned h.recording
    have hopen : ∀ j, (r.server.clients j).socket = (c.server.clients j).socket := by
      intro j
      by_cases hj : j = i
      · rw [hj]
        exact heffect.client.socket
      · rw [heffect.others j hj]
    refine ⟨hrecording, ?_, ?_⟩
    · dsimp only
      rcases hcases with ⟨hnone, hsession⟩ | ⟨hsome, hsession, -⟩ | ⟨hsame, hsession, -⟩
      · rw [hnone, hsession]
        exact ⟨fun hfalse => absurd hfalse Bool.false_ne_true, fun hne => absurd rfl hne⟩
      · rw [hsome, hsession]
        exact ⟨fun _ => Option.some_ne_none i, fun _ => rfl⟩
      · rw [hsame, hsession]
        exact h.session
    · intro j hj
      dsimp only at hj ⊢
      rw [hopen j]
      rcases hcases with ⟨hnone, -⟩ | ⟨hsome, -, hinstalls⟩ | ⟨hsame, -, hkeeps⟩
      · rw [hnone] at hj
        contradiction
      · rw [hsome, Option.some.injEq] at hj
        rw [if_pos hinstalls, ← hj]
        exact ⟨hclosed, rfl⟩
      · rw [hsame] at hj
        rw [if_neg hkeeps]
        exact h.owner j hj

theorem controlStep_owned (prim : Primitives) (step : ControlStep) (h : Owned c) :
    Owned (controlStep prim c step) := by
  cases step with
  | accept handle peer => exact h.accept handle peer
  | close i => exact h.close i
  | request i request io => exact h.request i request io
  | receive i pairing record eventClient rx => exact h.receive i pairing record eventClient rx

theorem controlRun_owned (prim : Primitives) (steps : List ControlStep) (h : Owned c) :
    Owned (controlRun prim c steps) :=
  (controlMachine prim).run_invariant Owned (fun _ step hc => controlStep_owned prim step hc)
    steps c h

/-! ## Generations -/

/-- What the audio side reads along with the generation is the same. -/
def SamePublished (before after : StreamState) : Prop :=
  after.session = before.session ∧ after.hasSession = before.hasSession ∧
    after.timingPeer = before.timingPeer

/-- A step publishes nothing new, or a next generation. -/
def Publishes (before after : StreamState) : Prop :=
  (SamePublished before after ∧ after.generation = before.generation) ∨
    after.generation = before.generation + 1

theorem Publishes.refl (stream : StreamState) : Publishes stream stream :=
  Or.inl ⟨⟨rfl, rfl, rfl⟩, rfl⟩

theorem StreamStep.publishes {s : RtspServer} {i : Slot} {request : RtspRequest}
    {stream : StreamState} {owner : Option Slot}
    (h : StreamStep s i request stream owner) : Publishes s.stream stream := by
  cases h with
  | same => exact Publishes.refl _
  | announce parsed hmethod hparse hcodec => exact Or.inr rfl
  | setup q key hmethod hbody hencrypted hsupported => exact Or.inr rfl
  | timing port hmethod hbody howner => exact Or.inr rfl
  | volume level => exact Or.inl ⟨⟨rfl, rfl, rfl⟩, rfl⟩
  | flush rtptime howner => exact Or.inl ⟨⟨rfl, rfl, rfl⟩, rfl⟩
  | record rtptime hmethod htime howner hsession =>
      cases rtptime with
      | none => exact Or.inl ⟨⟨rfl, rfl, rfl⟩, rfl⟩
      | some timestamp => exact Or.inl ⟨⟨rfl, rfl, rfl⟩, rfl⟩
  | pause howner => exact Or.inl ⟨⟨rfl, rfl, rfl⟩, rfl⟩
  | release hmethod howner => exact Or.inr rfl
  | anchor a hencrypted howner =>
      rw [anchorStream]
      split
      · exact Or.inl ⟨⟨rfl, rfl, rfl⟩, rfl⟩
      · exact Or.inl ⟨⟨rfl, rfl, rfl⟩, rfl⟩
  | bufferedFlush sequence hencrypted howner => exact Or.inl ⟨⟨rfl, rfl, rfl⟩, rfl⟩

theorem closeClient_publishes (s : RtspServer) (i : Slot) :
    Publishes s.stream (closeClient s i).stream := by
  rw [closeClient_stream, releaseStream]
  split
  · exact Or.inr rfl
  · exact Publishes.refl _

theorem controlStep_publishes (prim : Primitives) (c : ControlState) (step : ControlStep) :
    Publishes c.server.stream (controlStep prim c step).server.stream := by
  cases step with
  | accept handle peer =>
      rw [controlStep]
      cases freeSlot c.server with
      | none => exact Publishes.refl _
      | some i => exact Publishes.refl _
  | close i => exact closeClient_publishes c.server i
  | request i request io =>
      rw [controlStep, requestStep]
      split
      · exact Publishes.refl _
      · exact (handleRequest_effect prim io c.server i request).stream.publishes
  | receive i pairing record eventClient rx => exact Publishes.refl _

/-- Over some steps the generation counts how often something was published. -/
theorem controlRun_publishes (prim : Primitives) (steps : List ControlStep) :
    ∀ c : ControlState, ∃ k, k ≤ steps.length ∧
      (controlRun prim c steps).server.stream.generation =
        c.server.stream.generation + UInt32.ofNat k ∧
      (k = 0 → SamePublished c.server.stream (controlRun prim c steps).server.stream) := by
  induction steps with
  | nil => exact fun c => ⟨0, le_rfl, by simp [controlRun], fun _ => ⟨rfl, rfl, rfl⟩⟩
  | cons step rest ih =>
      intro c
      obtain ⟨k, hk, hgeneration, hsame⟩ := ih (controlStep prim c step)
      have hrun : controlRun prim c (step :: rest) =
          controlRun prim (controlStep prim c step) rest := rfl
      rw [hrun, hgeneration, List.length_cons]
      rcases controlStep_publishes prim c step with ⟨hfirst, hkept⟩ | hnext
      · refine ⟨k, by omega, by rw [hkept], fun hzero => ?_⟩
        obtain ⟨hsession, hhas, hpeer⟩ := hsame hzero
        exact ⟨hsession.trans hfirst.1, hhas.trans hfirst.2.1, hpeer.trans hfirst.2.2⟩
      · refine ⟨k + 1, by omega, ?_, fun hzero => by omega⟩
        rw [hnext, UInt32.ofNat_add, UInt32.add_assoc, UInt32.add_comm (UInt32.ofNat k)]
        rfl

theorem add_ofNat_ne {generation : UInt32} {k : ℕ} (hpos : 0 < k) (hlt : k < 2 ^ 32) :
    generation + UInt32.ofNat k ≠ generation := by
  intro heq
  have hnat := congrArg UInt32.toNat heq
  have hbound := generation.toNat_lt
  rw [UInt32.toNat_add, UInt32.toNat_ofNat'] at hnat
  omega

/-! ## Polls -/

/-- The server is reached by some steps of the control plane, and a slot without a
connection has nothing in its receive buffer. -/
structure ControlReached (prim : Primitives) (start : ControlState) (s : RtspServer) : Prop where
  steps : ∃ steps, (controlRun prim start steps).server = s
  empty : ∀ i, (s.clients i).socket.isOpen = false → s.rx i = []

/-- One step further. -/
theorem ControlReached.step {start : ControlState} {s : RtspServer}
    (h : ControlReached prim start s) (step : ControlStep) {after : RtspServer}
    (hstep : ∀ c : ControlState, c.server = s → (controlStep prim c step).server = after)
    (hempty : ∀ i, (after.clients i).socket.isOpen = false → after.rx i = []) :
    ControlReached prim start after where
  steps := by
    obtain ⟨steps, hsteps⟩ := h.steps
    refine ⟨steps ++ [step], ?_⟩
    rw [controlRun, Machine.run_append]
    exact hstep _ hsteps
  empty := hempty

/-- Reading, or replacing an event connection. -/
theorem ControlReached.receive {start : ControlState} {s : RtspServer}
    (h : ControlReached prim start s) (i : Slot) (pairing : Pairing) (record : List UInt8)
    (eventClient : NetSocket) (rx : List UInt8)
    (hrx : (s.clients i).socket.isOpen = false → rx = []) :
    ControlReached prim start (receiveStep s i pairing record eventClient rx) := by
  refine h.step (.receive i pairing record eventClient rx) (fun c hc => by rw [← hc]; rfl) ?_
  intro j hclosed
  rw [receiveStep, setRx_clients] at hclosed
  rw [receiveStep]
  by_cases hj : j = i
  · rw [hj] at hclosed ⊢
    rw [setClient_same] at hclosed
    rw [setRx_same]
    exact hrx hclosed
  · rw [setClient_other _ _ _ _ hj] at hclosed
    rw [setRx_other _ _ _ _ hj, setClient_rx]
    exact h.empty j hclosed

theorem receiveStep_same_rx (s : RtspServer) (i : Slot) (pairing : Pairing) (record : List UInt8)
    (eventClient : NetSocket) :
    receiveStep s i pairing record eventClient (s.rx i) =
      s.setClient i
        { s.clients i with
          pairing := pairing, record := record, eventClient := eventClient } := by
  rw [receiveStep, RtspServer.setRx, setClient_rx, Function.update_eq_self]
  rfl

theorem ControlReached.close {start : ControlState} {s : RtspServer}
    (h : ControlReached prim start s) (i : Slot) :
    ControlReached prim start (closeClient s i) := by
  refine h.step (.close i) (fun c hc => by rw [← hc]; rfl) ?_
  intro j hclosed
  by_cases hj : j = i
  · rw [hj, closeClient, setRx_same]
  · rw [(closeClient_other s hj).1] at hclosed
    rw [(closeClient_other s hj).2]
    exact h.empty j hclosed

theorem ControlReached.client {start : ControlState} {s : RtspServer}
    (h : ControlReached prim start s) (i : Slot) {client : RtspClient}
    (hclient : ∃ pairing record, client =
      { s.clients i with pairing := pairing, record := record }) :
    ControlReached prim start (s.setClient i client) := by
  obtain ⟨pairing, record, rfl⟩ := hclient
  have hreceive := h.receive i pairing record (s.clients i).eventClient (s.rx i) (h.empty i)
  rw [receiveStep_same_rx] at hreceive
  exact hreceive

theorem ControlReached.receiveTurn {start : ControlState} {s : RtspServer}
    (h : ControlReached prim start s) (i : Slot) (offer : RecvOffer) :
    ControlReached prim start (receiveTurn prim s i offer).server := by
  have hclient := receiveClient_client prim.aead (s.clients i)
    (rtspRxBufferSize - (s.rx i).length) offer
  have hclosed : (s.clients i).socket.isOpen = false → ∀ data,
      (receiveClient prim.aead (s.clients i) (rtspRxBufferSize - (s.rx i).length) offer).2 ≠
        .bytes data := receiveClient_closed prim.aead _ _ _
  rw [Protocol.receiveTurn]
  generalize receiveClient prim.aead (s.clients i) (rtspRxBufferSize - (s.rx i).length) offer = r
    at hclient hclosed ⊢
  have hread := h.client i hclient
  cases hresult : r.2 with
  | timeout => exact hread
  | error => exact hread.close i
  | bytes data =>
      cases data with
      | nil => exact hread.close i
      | cons b data =>
          obtain ⟨pairing, record, hfields⟩ := hclient
          have hstep := h.receive i pairing record (s.clients i).eventClient
            (s.rx i ++ b :: data) (fun hopen => absurd hresult (hclosed hopen _))
          rw [receiveStep, ← hfields] at hstep
          exact hstep

theorem ControlReached.requestTurn {start : ControlState} {s : RtspServer}
    (h : ControlReached prim start s) (i : Slot) (io : RequestIo) :
    ControlReached prim start (requestTurn prim io s i).server := by
  rw [Protocol.requestTurn]
  cases hparse : parseRequest (s.rx i) with
  | incomplete => exact h
  | reject =>
      obtain ⟨n, hclient⟩ := rtspSendResponse_client prim io (s.clients i) 400
        (ascii "Bad Request") 0 [] []
      exact (h.client i ⟨_, (s.clients i).record, hclient⟩).close i
  | accept request consumed =>
      -- a buffer with a request in it belongs to an open connection
      have hopen : (s.clients i).socket.isOpen ≠ false := by
        intro hclosed
        rw [h.empty i hclosed] at hparse
        obtain ⟨headEnd, st, hend, -⟩ := parseRequest_eq_accept.mp hparse
        simp [headersEnd] at hend
      have heffect := handleRequest_effect prim io s i request
      have hhandled : ControlReached prim start (handleRequest prim io s i request).server := by
        refine h.step (.request i request io) (fun c hc => ?_) ?_
        · rw [controlStep, requestStep, hc, if_neg hopen]
        · intro j hclosed
          rw [heffect.rx]
          apply h.empty j
          by_cases hj : j = i
          · rw [hj, heffect.client.socket] at hclosed
            rw [hj]
            exact hclosed
          · rw [heffect.others j hj] at hclosed
            exact hclosed
      dsimp only
      generalize handleRequest prim io s i request = r at heffect hhandled ⊢
      have hrest : ControlReached prim start
          (r.server.setRx i ((r.server.rx i).drop consumed)) := by
        have hreceive := hhandled.receive i (r.server.clients i).pairing
          (r.server.clients i).record (r.server.clients i).eventClient
          ((r.server.rx i).drop consumed) (fun hclosed => by
            rw [hhandled.empty i hclosed, List.drop_nil])
        rw [receiveStep, RtspServer.setClient, Function.update_eq_self] at hreceive
        exact hreceive
      split
      · exact hhandled.close i
      · split
        · exact hrest.close i
        · exact hrest

theorem ControlReached.eventClient {start : ControlState} {s : RtspServer}
    (h : ControlReached prim start s) (i : Slot) (socket : NetSocket) :
    ControlReached prim start (s.setClient i { s.clients i with eventClient := socket }) := by
  have hreceive := h.receive i (s.clients i).pairing (s.clients i).record socket (s.rx i)
    (h.empty i)
  rw [receiveStep_same_rx] at hreceive
  exact hreceive

/-- Every turn of a poll is some steps of the control plane. -/
theorem pollInvariant_control (prim : Primitives) (io : PollIo) (start : ControlState) :
    PollInvariant prim io fun s _ => ControlReached prim start s where
  eventAccept s _ i h := by
    rw [eventAcceptTurn.eq_def]
    cases io.eventAccept i with
    | timeout => exact h
    | error => exact h
    | accepted handle peer =>
        dsimp only
        split
        · exact h
        · exact h.eventClient i _
  eventReceive s _ i h := by
    rw [eventReceiveTurn]
    split
    · exact h.eventClient i _
    · exact h
    · exact h
    · exact h.eventClient i _
  receive _ _ i h := h.receiveTurn i _
  request _ _ i _ h := h.requestTurn i _
  accept s _ i handle peer h hfree := by
    refine h.step (.accept handle peer) (fun c hc => ?_) ?_
    · rw [controlStep, hc, hfree]
    · intro j hclosed
      rw [installClient, setRx_clients] at hclosed
      rw [installClient]
      by_cases hj : j = i
      · rw [hj, setRx_same]
      · rw [setClient_other _ _ _ _ hj] at hclosed
        rw [setRx_other _ _ _ _ hj, setClient_rx]
        exact h.empty j hclosed

/-- **Polls are runs of the control plane.** -/
theorem rtspAfter_control (prim : Primitives) (listener : NetSocket)
    (localIp localMacHex deviceName : CString) (polls : List PollIo) :
    ∃ steps,
      (controlRun prim (ControlState.initial listener localIp localMacHex deviceName)
        steps).server =
        rtspAfter prim (RtspServer.initial listener localIp localMacHex deviceName) polls := by
  have h := rtspLog_invariant prim
    (fun s _ => ControlReached prim
      (ControlState.initial listener localIp localMacHex deviceName) s)
    polls (fun io _ => (pollInvariant_control prim io _).slots) _ []
    (⟨⟨[], rfl⟩, fun _ _ => rfl⟩ : ControlReached prim
      (ControlState.initial listener localIp localMacHex deviceName)
      (RtspServer.initial listener localIp localMacHex deviceName))
  exact h.steps

end Control

/-! ## Main result -/

/-- **Stream ownership.** After every run of the control plane: audio is recording
only on a session, there is a session exactly while the stream has an owner, and the
owner is a slot whose connection is open and is the connection that installed the
session. And any further steps that change the session, whether there is one, or the
timing peer leave another generation behind, as long as fewer than `2^32` of them
keep the counter from coming around. -/
theorem stream_ownership (prim : Primitives) (listener : NetSocket)
    (localIp localMacHex deviceName : CString) (steps : List ControlStep) :
    let c := controlRun prim (ControlState.initial listener localIp localMacHex deviceName) steps
    (c.server.stream.recording = true → c.server.stream.hasSession = true) ∧
    (c.server.stream.hasSession = true ↔ c.server.streamOwner ≠ none) ∧
    (∀ i, c.server.streamOwner = some i →
      (c.server.clients i).socket.isOpen = true ∧ c.installer = some (i, c.accepted i)) ∧
    (∀ more : List ControlStep, more.length < 2 ^ 32 →
      ¬ SamePublished c.server.stream (controlRun prim c more).server.stream →
        (controlRun prim c more).server.stream.generation ≠ c.server.stream.generation) := by
  intro c
  have h : Owned c :=
    controlRun_owned prim steps (initial_owned listener localIp localMacHex deviceName)
  refine ⟨h.recording, h.session, h.owner, ?_⟩
  intro more hlength hchanged
  obtain ⟨k, hk, hgeneration, hsame⟩ := controlRun_publishes prim more c
  have hpos : 0 < k := by
    rcases Nat.eq_zero_or_pos k with hzero | hpos
    · exact absurd (hsame hzero) hchanged
    · exact hpos
  rw [hgeneration]
  exact add_ofNat_ne hpos (by omega)

end PortableAirplay.Protocol
