import PortableAirplay.Platform.Resources
import PortableAirplay.Protocol.RequestEffect
import PortableAirplay.Protocol.Wire
import Mathlib.Algebra.BigOperators.Fin
import Mathlib.Tactic.Abel

/-!
# The sockets of the RTSP server

The calls that open and close sockets in `protocol/rtsp.c` and in the initial SETUP of
`airplay/airplay2.c`, in the order of the source, for each turn of a poll. A slot holds its
connection, its event connection and the listener for that one; what a turn calls leads from
what the slot held to what it holds (`SlotLedger`).

`rtspRun_ledger` says it of every run of polls, and `rtspServerClose_ledger` that closing the
server leaves nothing behind.
-/

set_option autoImplicit false

namespace PortableAirplay.Protocol

open PortableAirplay.Airplay
open PortableAirplay.Library
open PortableAirplay.Platform
open PortableAirplay.Util

/-! ## Calls -/

/-- The calls of `close_client` that close sockets. -/
def closeClientCalls (client : RtspClient) : List ResourceCall :=
  netClose client.socket ++ netClose client.eventClient ++ netClose client.eventListener

/-- A connection at the event listener. One from another host is closed at once, and a new one
takes the place of an older one. -/
def eventAcceptCalls (client : RtspClient) : AcceptOffer → List ResourceCall
  | .accepted handle peer =>
      let event := netTcpAccept client.eventListener handle
      netOpened event ++
        (if peer.ip ≠ client.peer.ip then netClose event else netClose client.eventClient)
  | .timeout => []
  | .error => []

/-- The event connection is read. -/
def eventReceiveCalls (client : RtspClient) (offer : RecvOffer) : List ResourceCall :=
  match netTcpRecv client.eventClient 1024 offer with
  | .bytes [] => netClose client.eventClient
  | .bytes (_ :: _) => []
  | .timeout => []
  | .error => netClose client.eventClient

section Calls

variable (prim : Primitives)

/-- A ready client is read. -/
def receiveCalls (s : RtspServer) (i : Slot) (offer : RecvOffer) : List ResourceCall :=
  let client := s.clients i
  let r := receiveClient prim.aead client (rtspRxBufferSize - (s.rx i).length) offer
  match r.2 with
  | .timeout => []
  | .error => closeClientCalls r.1
  | .bytes [] => closeClientCalls r.1
  | .bytes (_ :: _) => []

/-- The `net_tcp_listen` of the initial SETUP. -/
def setupEventsCalls (io : RequestIo) (client : RtspClient) (p : Bplist) : List ResourceCall :=
  if bplistBytes p (bplistGet p p.root (ascii "timingProtocol")) ≠ some (ascii "PTP") then []
  else if client.eventListener.isOpen then []
  else
    match io.listen with
    | none => []
    | some opened => netOpened ⟨some opened.1, opened.2⟩

/-- `airplay2_setup`, the only handler that opens a socket. -/
def airplay2SetupCalls (io : RequestIo) (client : RtspClient) (request : RtspRequest) :
    List ResourceCall :=
  if client.encrypted = false then []
  else
    match bplistOpen request.body with
    | none => []
    | some p =>
        if bplistGet p p.root (ascii "streams") = bplistNone then setupEventsCalls io client p
        else []

/-- `handle_request`. -/
def handleRequestCalls (io : RequestIo) (s : RtspServer) (i : Slot) (request : RtspRequest) :
    List ResourceCall :=
  if request.method = .setup ∧ isBinaryPlist request = true then
    airplay2SetupCalls io (s.clients i) request
  else []

/-- One round of the loop over a receive buffer. -/
def requestTurnCalls (io : RequestIo) (s : RtspServer) (i : Slot) : List ResourceCall :=
  match parseRequest (s.rx i) with
  | .incomplete => []
  | .reject =>
      closeClientCalls
        ((respond prim io s i 400 (ascii "Bad Request") 0 [] []).server.clients i)
  | .accept request consumed =>
      let r := handleRequest prim io s i request
      let client := r.server.clients i
      handleRequestCalls io s i request ++
        (if r.ok = false then closeClientCalls client
        else if !(s.clients i).encrypted && client.encrypted &&
            (r.server.rx i).drop consumed ≠ [] then closeClientCalls client
        else [])

/-- The loop over a receive buffer. -/
def requestLoopCalls (i : Slot) : ℕ → (ℕ → RequestIo) → RtspServer → List ResourceCall
  | 0, _, _ => []
  | fuel + 1, io, s =>
      if s.rx i = [] then []
      else
        let r := requestTurn prim (io 0) s i
        requestTurnCalls prim (io 0) s i ++
          (if r.more = false then []
          else requestLoopCalls i fuel (fun k => io (k + 1)) r.server)

variable (io : PollIo)

/-- The event channel of a slot. -/
def eventCalls (ready : Ready) (s : RtspServer) (i : Slot) : List ResourceCall :=
  (if ready.eventListener i then eventAcceptCalls (s.clients i) (io.eventAccept i) else []) ++
    let s := if ready.eventListener i then eventAcceptTurn s i (io.eventAccept i) else s
    if ready.eventClient i then eventReceiveCalls (s.clients i) (io.eventData i) else []

/-- The client of a slot is read and its requests are handled. -/
def clientTurnsCalls (s : RtspServer) (i : Slot) : List ResourceCall :=
  let r := receiveTurn prim s i (io.data i)
  receiveCalls prim s i (io.data i) ++
    (if r.more = false then []
    else requestLoopCalls prim i (r.server.rx i).length (io.request i) r.server)

/-- One round of the loop over the slots. -/
def slotTurnsCalls (ready : Ready) (s : RtspServer) (i : Slot) : List ResourceCall :=
  eventCalls io ready s i ++
    (if ready.client i = false then [] else clientTurnsCalls prim io (eventTurns io ready s i) i)

/-- The loop over the slots. -/
def pollSlotsCalls (ready : Ready) : List Slot → RtspServer → List ResourceCall
  | [], _ => []
  | i :: rest, s =>
      slotTurnsCalls prim io ready s i ++
        pollSlotsCalls ready rest (slotTurns prim io ready s i).server

/-- A ready listener. Where no slot is free the connection is closed. -/
def acceptCalls (s : RtspServer) : AcceptOffer → List ResourceCall
  | .timeout => []
  | .error => []
  | .accepted handle _ =>
      let accepted := netTcpAccept s.listener handle
      match freeSlot s with
      | none => netOpened accepted ++ netClose accepted
      | some _ => netOpened accepted

/-- `rtsp_server_poll`. -/
def rtspServerPollCalls (s : RtspServer) : List ResourceCall :=
  if s.listener.isOpen = false then []
  else
    match io.wait with
    | .error => []
    | .timeout => []
    | .ready flags =>
        let ready := flags.mask s
        let r := pollSlots prim io ready (List.finRange rtspMaxClients) s
        pollSlotsCalls prim io ready (List.finRange rtspMaxClients) s ++
          (if ready.listener = false then [] else acceptCalls r.server io.accept)

end Calls

/-- `rtsp_server_create`: the mutex and the listener, as far as the platform gives them. -/
def rtspServerCreateCalls (mutex : Bool) (listener : Option NetSocket) : List ResourceCall :=
  if mutex = false then []
  else
    .take .stateLock ::
      match listener with
      | none => [.give .stateLock]
      | some listener => netOpened listener

/-- `rtsp_server_close`. -/
def rtspServerCloseCalls (s : RtspServer) : List ResourceCall :=
  (List.finRange rtspMaxClients).flatMap (fun i => closeClientCalls (s.clients i)) ++
    netClose s.listener ++ [.give .stateLock]

/-! ## What a slot holds -/

/-- The sockets of a client. -/
def RtspClient.held (client : RtspClient) : Multiset Resource :=
  client.socket.held + client.eventClient.held + client.eventListener.held

@[simp] theorem closed_held : RtspClient.closed.held = 0 := rfl

/-- A client without a connection has no event channel. -/
def RtspClient.Tidy (client : RtspClient) : Prop :=
  client.socket.isOpen = false →
    client.eventClient.isOpen = false ∧ client.eventListener.isOpen = false

theorem RtspClient.Tidy.held {client : RtspClient} (h : client.Tidy)
    (hclosed : client.socket.isOpen = false) : client.held = 0 := by
  obtain ⟨hclient, hlistener⟩ := h hclosed
  rw [RtspClient.held, netSocket_held_closed hclosed, netSocket_held_closed hclient,
    netSocket_held_closed hlistener]
  rfl

/-- Closing a client gives back what it held. -/
theorem replay_closeClient (client : RtspClient) (frame : Multiset Resource) :
    replay (client.held + frame) (closeClientCalls client) = some frame := by
  rw [RtspClient.held, closeClientCalls, Multiset.add_assoc, Multiset.add_assoc]
  have hboth := replay_trans
    (replay_netClose client.socket (client.eventClient.held + (client.eventListener.held + frame)))
    (replay_netClose client.eventClient (client.eventListener.held + frame))
  exact replay_trans hboth (replay_netClose client.eventListener frame)

/-- What calls do to a slot: they lead from what its client held to what it holds, and the
rest of the server keeps its sockets. -/
structure SlotLedger (i : Slot) (s after : RtspServer) (calls : List ResourceCall) : Prop where
  listener : after.listener = s.listener
  others : ∀ j, j ≠ i → after.clients j = s.clients j
  replay : replay (s.clients i).held calls = some (after.clients i).held
  tidy : (s.clients i).Tidy → (after.clients i).Tidy

theorem SlotLedger.refl (i : Slot) (s : RtspServer) : SlotLedger i s s [] where
  listener := rfl
  others _ _ := rfl
  replay := rfl
  tidy h := h

theorem SlotLedger.trans {i : Slot} {a b c : RtspServer} {first second : List ResourceCall}
    (hab : SlotLedger i a b first) (hbc : SlotLedger i b c second) :
    SlotLedger i a c (first ++ second) where
  listener := hbc.listener.trans hab.listener
  others j hj := (hbc.others j hj).trans (hab.others j hj)
  replay := replay_trans hab.replay hbc.replay
  tidy h := hbc.tidy (hab.tidy h)

/-- The sockets of two clients are the same. -/
structure SameSockets (before after : RtspClient) : Prop where
  socket : after.socket = before.socket
  eventClient : after.eventClient = before.eventClient
  eventListener : after.eventListener = before.eventListener

theorem SameSockets.refl (client : RtspClient) : SameSockets client client := ⟨rfl, rfl, rfl⟩

theorem SameSockets.held {before after : RtspClient} (h : SameSockets before after) :
    after.held = before.held := by
  rw [RtspClient.held, RtspClient.held, h.socket, h.eventClient, h.eventListener]

theorem SameSockets.tidy {before after : RtspClient} (h : SameSockets before after)
    (htidy : before.Tidy) : after.Tidy := by
  rw [RtspClient.Tidy, h.socket, h.eventClient, h.eventListener]
  exact htidy

/-- Nothing is opened or closed. -/
theorem SlotLedger.same {i : Slot} {s after : RtspServer} (hlistener : after.listener = s.listener)
    (hothers : ∀ j, j ≠ i → after.clients j = s.clients j)
    (h : SameSockets (s.clients i) (after.clients i)) : SlotLedger i s after [] where
  listener := hlistener
  others := hothers
  replay := congrArg some h.held.symm
  tidy := h.tidy

/-- A client is replaced. -/
theorem SlotLedger.setClient {i : Slot} {s : RtspServer} {client : RtspClient}
    {calls : List ResourceCall}
    (hreplay : Library.replay (s.clients i).held calls = some client.held)
    (htidy : (s.clients i).Tidy → client.Tidy) : SlotLedger i s (s.setClient i client) calls where
  listener := rfl
  others _ hj := setClient_other _ _ _ _ hj
  replay := by
    rw [setClient_same]
    exact hreplay
  tidy := by
    rw [setClient_same]
    exact htidy

/-- `close_client` gives back what the slot holds. -/
theorem closeClient_ledger (s : RtspServer) (i : Slot) :
    SlotLedger i s (closeClient s i) (closeClientCalls (s.clients i)) where
  listener := closeClient_listener s i
  others _ hj := (closeClient_other s hj).1
  replay := by
    have hreplay := replay_closeClient (s.clients i) 0
    rw [Multiset.add_zero] at hreplay
    rw [hreplay, closeClient_client]
    rfl
  tidy _ := by
    rw [closeClient_client]
    exact fun _ => ⟨rfl, rfl⟩

/-! ## The event channel -/

/-- Only an open listener accepts, so that the slot has a connection. -/
theorem eventAcceptTurn_ledger (s : RtspServer) (i : Slot) (offer : AcceptOffer)
    (hopen : (s.clients i).eventListener.isOpen = true) :
    SlotLedger i s (eventAcceptTurn s i offer) (eventAcceptCalls (s.clients i) offer) := by
  rw [eventAcceptTurn.eq_def]
  cases offer with
  | timeout => exact SlotLedger.refl i s
  | error => exact SlotLedger.refl i s
  | accepted handle peer =>
      have htaken := replay_netOpened (netTcpAccept (s.clients i).eventListener handle)
        (s.clients i).held
      dsimp only [eventAcceptCalls]
      split
      · -- the other host's connection is opened and closed
        refine ⟨rfl, fun _ _ => rfl, ?_, id⟩
        exact replay_trans htaken (replay_netClose _ _)
      · apply SlotLedger.setClient
        · apply replay_trans htaken
          -- the older connection is among what is held
          apply replay_netClose_of
          rw [RtspClient.held, RtspClient.held]
          dsimp only
          abel
        · intro htidy hclosed
          have hlistener := (htidy hclosed).2
          rw [hlistener] at hopen
          contradiction

/-- The event connection is closed. -/
theorem eventClosed_ledger (s : RtspServer) (i : Slot) :
    SlotLedger i s (s.setClient i { s.clients i with eventClient := netSocketInit })
      (netClose (s.clients i).eventClient) := by
  apply SlotLedger.setClient
  · apply replay_netClose_of
    rw [RtspClient.held, RtspClient.held, netSocketInit_held]
    dsimp only
    abel
  · exact fun htidy hclosed => ⟨rfl, (htidy hclosed).2⟩

theorem eventReceiveTurn_ledger (s : RtspServer) (i : Slot) (offer : RecvOffer) :
    SlotLedger i s (eventReceiveTurn s i offer) (eventReceiveCalls (s.clients i) offer) := by
  rw [eventReceiveTurn, eventReceiveCalls]
  cases netTcpRecv (s.clients i).eventClient 1024 offer with
  | timeout => exact SlotLedger.refl i s
  | error => exact eventClosed_ledger s i
  | bytes data =>
      cases data with
      | nil => exact eventClosed_ledger s i
      | cons b data => exact SlotLedger.refl i s

theorem eventTurns_ledger (io : PollIo) (ready : Ready) (s : RtspServer) (i : Slot)
    (hready : ready.eventListener i = true → (s.clients i).eventListener.isOpen = true) :
    SlotLedger i s (eventTurns io ready s i) (eventCalls io ready s i) := by
  rw [eventTurns, eventCalls]
  cases hlistener : ready.eventListener i with
  | false =>
      cases ready.eventClient i with
      | false => exact SlotLedger.refl i s
      | true => exact eventReceiveTurn_ledger s i _
  | true =>
      have haccept := eventAcceptTurn_ledger s i (io.eventAccept i) (hready hlistener)
      cases ready.eventClient i with
      | false => exact haccept.trans (SlotLedger.refl i _)
      | true => exact haccept.trans (eventReceiveTurn_ledger _ i _)

/-! ## Requests -/

section Requests

variable (prim : Primitives) (io : RequestIo) {s after : RtspServer} {i : Slot}
  {request : RtspRequest} {client : RtspClient}

theorem SameSockets.trans {a b c : RtspClient} (hab : SameSockets a b) (hbc : SameSockets b c) :
    SameSockets a c :=
  ⟨hbc.socket.trans hab.socket, hbc.eventClient.trans hab.eventClient,
    hbc.eventListener.trans hab.eventListener⟩

/-- Sending an answer leaves the sockets alone. -/
theorem SameSockets.respond {code : ℕ} {text : CString} {cseq : UInt32} {headers : CString}
    {body : List UInt8} (h : SameSockets client (after.clients i)) :
    SameSockets client
      ((respond prim io after i code text cseq headers body).server.clients i) := by
  obtain ⟨n, hclient⟩ := rtspSendResponse_client prim io (after.clients i) code text cseq headers
    body
  rw [Protocol.respond]
  dsimp only
  rw [setClient_same, hclient]
  exact ⟨h.socket, h.eventClient, h.eventListener⟩

theorem SameSockets.answer {code : ℕ} {text : CString}
    (h : SameSockets client (after.clients i)) :
    SameSockets client ((answer prim io after i request code text).server.clients i) :=
  h.respond prim io

theorem SameSockets.plistResponse {w : BplistWriter} {root : ℕ}
    (h : SameSockets client (after.clients i)) :
    SameSockets client ((plistResponse prim io after i request w root).server.clients i) := by
  rw [Airplay.plistResponse]
  split
  · exact h.answer prim io
  · exact h.respond prim io

theorem airplayRtspAnnounce_sockets :
    SameSockets (s.clients i) ((airplayRtspAnnounce prim io s i request).server.clients i) := by
  have hrefl := SameSockets.refl (s.clients i)
  rw [airplayRtspAnnounce]
  cases (if request.body = [] then none else sdpParse request.body sdpScratchMax) with
  | none => exact hrefl.answer prim io
  | some parsed =>
      dsimp only
      split
      · exact hrefl.answer prim io
      · exact SameSockets.answer prim io hrefl

theorem airplayRtspSetup_sockets :
    SameSockets (s.clients i) ((airplayRtspSetup prim io s i request).server.clients i) := by
  have hrefl := SameSockets.refl (s.clients i)
  rw [airplayRtspSetup]
  cases transportTimingPort (getHeaderValue request (ascii "Transport")) with
  | none => exact hrefl.answer prim io
  | some port =>
      dsimp only
      split
      · exact SameSockets.respond prim io hrefl
      · exact hrefl.respond prim io

theorem airplayRtspSetParameter_sockets :
    SameSockets (s.clients i)
      ((airplayRtspSetParameter prim io s i request).server.clients i) := by
  have hrefl := SameSockets.refl (s.clients i)
  rw [airplayRtspSetParameter]
  cases (if hasTextParameters request then parseBodyVolumeDb prim request else none) with
  | none => exact hrefl.answer prim io
  | some level => exact SameSockets.answer prim io hrefl

theorem acceptFlush_sockets (rtptime : Option UInt32) :
    SameSockets (s.clients i) ((acceptFlush prim io s i request rtptime).server.clients i) := by
  have hrefl := SameSockets.refl (s.clients i)
  rw [acceptFlush]
  split
  · exact SameSockets.answer prim io hrefl
  · exact hrefl.answer prim io

theorem airplayRtspFlush_sockets :
    SameSockets (s.clients i) ((airplayRtspFlush prim io s i request).server.clients i) := by
  rw [airplayRtspFlush]
  cases rtpTime request with
  | invalid => exact (SameSockets.refl (s.clients i)).answer prim io
  | absent => exact acceptFlush_sockets prim io none
  | found timestamp => exact acceptFlush_sockets prim io (some timestamp)

theorem airplayRtspTeardown_sockets :
    SameSockets (s.clients i) ((airplayRtspTeardown prim io s i request).server.clients i) := by
  have hrefl := SameSockets.refl (s.clients i)
  rw [airplayRtspTeardown, releaseStream]
  split
  · exact SameSockets.answer prim io hrefl
  · exact hrefl.answer prim io

theorem airplayRtspPause_sockets :
    SameSockets (s.clients i) ((airplayRtspPause prim io s i request).server.clients i) := by
  have hrefl := SameSockets.refl (s.clients i)
  rw [airplayRtspPause]
  dsimp only
  split
  · exact SameSockets.answer prim io hrefl
  · exact hrefl.answer prim io

theorem acceptRecord_sockets (rtptime : Option UInt32) :
    SameSockets (s.clients i) ((acceptRecord prim io s i request rtptime).server.clients i) := by
  have hrefl := SameSockets.refl (s.clients i)
  rw [acceptRecord]
  split
  · exact SameSockets.respond prim io hrefl
  · exact hrefl.answer prim io

theorem airplayRtspRecord_sockets :
    SameSockets (s.clients i) ((airplayRtspRecord prim io s i request).server.clients i) := by
  rw [airplayRtspRecord]
  cases rtpTime request with
  | invalid => exact (SameSockets.refl (s.clients i)).answer prim io
  | absent => exact acceptRecord_sockets prim io none
  | found timestamp => exact acceptRecord_sockets prim io (some timestamp)

theorem airplayRtspPlay_sockets :
    SameSockets (s.clients i) ((airplayRtspPlay prim io s i request).server.clients i) := by
  have hrefl := SameSockets.refl (s.clients i)
  rw [airplayRtspPlay]
  cases getHeaderValue request (ascii "Session") with
  | none => exact hrefl.answer prim io
  | some session =>
      dsimp only
      split
      · exact hrefl.answer prim io
      · exact hrefl.respond prim io

theorem openEncryptedPlist_sockets {next : Bplist → HandlerResult}
    (hnext : ∀ p, SameSockets (s.clients i) ((next p).server.clients i)) :
    SameSockets (s.clients i)
      ((openEncryptedPlist prim io s i request next).server.clients i) := by
  have hrefl := SameSockets.refl (s.clients i)
  rw [openEncryptedPlist]
  split
  · exact hrefl.answer prim io
  · cases bplistOpen request.body with
    | none => exact hrefl.answer prim io
    | some p => exact hnext p

/-- The stream SETUP opens no socket. -/
theorem setupAudio_sockets (p : Bplist) (streams : ℕ) :
    SameSockets (s.clients i) ((setupAudio prim io s i request p streams).server.clients i) := by
  have hrefl := SameSockets.refl (s.clients i)
  rw [setupAudio]
  split
  · exact hrefl.answer prim io
  · dsimp only
    split
    · exact hrefl.answer prim io
    · split
      · exact hrefl.answer prim io
      · split
        · exact hrefl.answer prim io
        · exact SameSockets.plistResponse prim io hrefl

theorem airplay2SetRateAnchorTime_sockets :
    SameSockets (s.clients i)
      ((airplay2SetRateAnchorTime prim io s i request).server.clients i) := by
  apply openEncryptedPlist_sockets
  intro p
  have hrefl := SameSockets.refl (s.clients i)
  rw [setAnchor]
  cases requestedAnchor p with
  | none => exact hrefl.answer prim io
  | some a =>
      dsimp only
      split
      · exact hrefl.answer prim io
      · exact SameSockets.answer prim io hrefl

theorem airplay2FlushBuffered_sockets :
    SameSockets (s.clients i)
      ((airplay2FlushBuffered prim io s i request).server.clients i) := by
  apply openEncryptedPlist_sockets
  intro p
  have hrefl := SameSockets.refl (s.clients i)
  rw [flushBuffered]
  cases flushUntilSequence p with
  | none => exact hrefl.answer prim io
  | some sequence =>
      dsimp only
      split
      · exact SameSockets.answer prim io hrefl
      · exact hrefl.answer prim io

theorem airplay2Record_sockets :
    SameSockets (s.clients i) ((airplay2Record prim io s i request).server.clients i) := by
  have hstream : SameSockets (s.clients i)
      ((if s.streamOwner = some i ∧ s.stream.hasSession = true then
        s.setStream { s.stream with recording := true }
      else s).clients i) := by
    split
    · exact SameSockets.refl (s.clients i)
    · exact SameSockets.refl (s.clients i)
  rw [airplay2Record]
  dsimp only
  split
  · exact hstream.answer prim io
  · exact hstream.respond prim io

theorem airplay2FairplaySetup_sockets :
    SameSockets (s.clients i)
      ((airplay2FairplaySetup prim io s i request).server.clients i) := by
  have hstage : ∀ stage : UInt8, SameSockets (s.clients i)
      ((s.setClient i { s.clients i with fairplayStage := stage }).clients i) := by
    intro stage
    rw [setClient_same]
    exact ⟨rfl, rfl, rfl⟩
  rw [airplay2FairplaySetup]
  split
  · exact (hstage _).answer prim io
  · exact (hstage _).respond prim io

theorem startEncryption_sockets {r : HandlerResult}
    (h : SameSockets client (r.server.clients i)) :
    SameSockets client ((startEncryption i r).server.clients i) := by
  rw [startEncryption]
  split
  · dsimp only
    rw [setClient_same]
    exact ⟨h.socket, h.eventClient, h.eventListener⟩
  · exact h

theorem airplay2PairSetup_sockets :
    SameSockets (s.clients i) ((airplay2PairSetup prim io s i request).server.clients i) := by
  have hpairing : ∀ pairing : Pairing, SameSockets (s.clients i)
      ((s.setClient i { s.clients i with pairing := pairing }).clients i) := by
    intro pairing
    rw [setClient_same]
    exact ⟨rfl, rfl, rfl⟩
  rw [airplay2PairSetup]
  split
  · exact (hpairing _).answer prim io
  · exact startEncryption_sockets ((hpairing _).respond prim io)

theorem airplay2Feedback_sockets :
    SameSockets (s.clients i) ((airplay2Feedback prim io s i request).server.clients i) := by
  have hrefl := SameSockets.refl (s.clients i)
  rw [airplay2Feedback]
  split
  · exact hrefl.answer prim io
  · exact hrefl.plistResponse prim io

theorem airplay2Acknowledge_sockets :
    SameSockets (s.clients i) ((airplay2Acknowledge prim io s i request).server.clients i) := by
  have hrefl := SameSockets.refl (s.clients i)
  rw [airplay2Acknowledge]
  split
  · exact hrefl.answer prim io
  · exact hrefl.answer prim io

theorem handlePost_sockets :
    SameSockets (s.clients i) ((handlePost prim io s i request).server.clients i) := by
  rw [handlePost]
  split
  · exact airplay2PairSetup_sockets prim io
  · split
    · exact airplay2FairplaySetup_sockets prim io
    · split
      · exact airplay2Feedback_sockets prim io
      · split
        · exact airplay2Acknowledge_sockets prim io
        · exact (SameSockets.refl (s.clients i)).answer prim io

theorem handleRecord_sockets :
    SameSockets (s.clients i) ((handleRecord prim io s i request).server.clients i) := by
  rw [handleRecord]
  split
  · exact airplay2Record_sockets prim io
  · exact airplayRtspRecord_sockets prim io

theorem notImplemented_sockets :
    SameSockets (s.clients i) ((notImplemented prim io s i request).server.clients i) := by
  rw [notImplemented]
  exact (SameSockets.refl (s.clients i)).answer prim io

/-- The other handlers open no socket. -/
theorem routeRequest_sockets (h : ¬ (request.method = .setup ∧ isBinaryPlist request = true)) :
    SameSockets (s.clients i) ((routeRequest prim io s i request).server.clients i) := by
  have hrefl := SameSockets.refl (s.clients i)
  rw [routeRequest]
  cases hmethod : request.method with
  | unknown => exact notImplemented_sockets prim io
  | get =>
      dsimp only
      split
      · rw [airplay2Info]
        exact hrefl.plistResponse prim io
      · exact notImplemented_sockets prim io
  | post => exact handlePost_sockets prim io
  | options =>
      dsimp only
      rw [airplayRtspOptions]
      exact hrefl.respond prim io
  | announce => exact airplayRtspAnnounce_sockets prim io
  | describe =>
      dsimp only
      rw [airplayRtspDescribe]
      exact hrefl.answer prim io
  | setup =>
      dsimp only
      rw [if_neg fun hbody => h ⟨hmethod, hbody⟩]
      exact airplayRtspSetup_sockets prim io
  | record => exact handleRecord_sockets prim io
  | flush => exact airplayRtspFlush_sockets prim io
  | flushBuffered =>
      dsimp only
      split
      · exact airplay2FlushBuffered_sockets prim io
      · exact airplayRtspFlush_sockets prim io
  | play => exact airplayRtspPlay_sockets prim io
  | pause => exact airplayRtspPause_sockets prim io
  | teardown => exact airplayRtspTeardown_sockets prim io
  | getParameter =>
      dsimp only
      rw [airplayRtspGetParameter]
      exact hrefl.respond prim io
  | setParameter => exact airplayRtspSetParameter_sockets prim io
  | setPeers => exact airplay2Acknowledge_sockets prim io
  | setRateAnchorTime => exact airplay2SetRateAnchorTime_sockets prim io

/-- What a request does to the sockets of its client: the connection and the event connection
stay, and the listener is opened where it was closed. -/
structure RequestSockets (before after : RtspClient) (calls : List ResourceCall) : Prop where
  socket : after.socket = before.socket
  eventClient : after.eventClient = before.eventClient
  replay : replay before.eventListener.held calls = some after.eventListener.held

theorem SameSockets.opensNothing {before after : RtspClient} (h : SameSockets before after) :
    RequestSockets before after [] where
  socket := h.socket
  eventClient := h.eventClient
  replay := by rw [replay_nil, h.eventListener]

/-- A listener is opened where there was none. -/
theorem listenerOpened_sockets {before : RtspClient} {listener : NetSocket}
    (hclosed : before.eventListener.isOpen = false)
    (h : SameSockets { before with eventListener := listener } client) :
    RequestSockets before client (netOpened listener) := by
  refine ⟨h.socket, h.eventClient, ?_⟩
  have hopened := replay_netOpened listener before.eventListener.held
  rw [netSocket_held_closed hclosed, Multiset.add_zero] at hopened
  rw [netSocket_held_closed hclosed, h.eventListener]
  exact hopened

/-- The initial SETUP keeps a listener that is open. -/
theorem setupEvents_sockets (p : Bplist) :
    RequestSockets (s.clients i) ((setupEvents prim io s i request p).server.clients i)
      (setupEventsCalls io (s.clients i) p) := by
  have hrefl := SameSockets.refl (s.clients i)
  rw [setupEvents, setupEventsCalls]
  by_cases htiming : bplistBytes p (bplistGet p p.root (ascii "timingProtocol")) ≠
      some (ascii "PTP")
  · rw [if_pos htiming, if_pos htiming]
    exact (hrefl.answer prim io).opensNothing
  · rw [if_neg htiming, if_neg htiming]
    dsimp only
    by_cases hopen : (s.clients i).eventListener.isOpen = true
    · rw [if_pos hopen, if_pos hopen]
      apply SameSockets.opensNothing
      apply SameSockets.plistResponse
      rw [setClient_same]
      exact ⟨rfl, rfl, rfl⟩
    · rw [if_neg hopen, if_neg hopen]
      rw [Bool.not_eq_true] at hopen
      cases io.listen with
      | none => exact (hrefl.answer prim io).opensNothing
      | some opened =>
          apply listenerOpened_sockets hopen
          apply SameSockets.plistResponse
          rw [setClient_same]
          exact SameSockets.refl _

theorem airplay2Setup_sockets :
    RequestSockets (s.clients i) ((airplay2Setup prim io s i request).server.clients i)
      (airplay2SetupCalls io (s.clients i) request) := by
  have hrefl := SameSockets.refl (s.clients i)
  rw [airplay2Setup, openEncryptedPlist, airplay2SetupCalls]
  by_cases hplain : (s.clients i).encrypted = false
  · rw [if_pos hplain, if_pos hplain]
    exact (hrefl.answer prim io).opensNothing
  · rw [if_neg hplain, if_neg hplain]
    cases bplistOpen request.body with
    | none => exact (hrefl.answer prim io).opensNothing
    | some p =>
        dsimp only
        rw [setup]
        by_cases hstreams : bplistGet p p.root (ascii "streams") = bplistNone
        · rw [if_pos hstreams, if_pos hstreams]
          exact setupEvents_sockets prim io p
        · rw [if_neg hstreams, if_neg hstreams]
          exact (setupAudio_sockets prim io p _).opensNothing

/-- **The sockets that a request opens.** -/
theorem handleRequest_sockets (s : RtspServer) (i : Slot) (request : RtspRequest) :
    RequestSockets (s.clients i) ((handleRequest prim io s i request).server.clients i)
      (handleRequestCalls io s i request) := by
  have hversion : SameSockets (s.clients i) ((withVersion s i request).clients i) := by
    rw [withVersion, setClient_same]
    exact ⟨rfl, rfl, rfl⟩
  rw [handleRequest, handleRequestCalls]
  by_cases hsetup : request.method = .setup ∧ isBinaryPlist request = true
  · have hopened : RequestSockets ((withVersion s i request).clients i)
        ((airplay2Setup prim io (withVersion s i request) i request).server.clients i)
        (airplay2SetupCalls io ((withVersion s i request).clients i) request) :=
      airplay2Setup_sockets prim io
    have hcalls : airplay2SetupCalls io ((withVersion s i request).clients i) request =
        airplay2SetupCalls io (s.clients i) request := by
      rw [withVersion, setClient_same]
      rfl
    rw [hcalls] at hopened
    rw [if_pos hsetup, routeRequest, hsetup.1]
    dsimp only
    rw [if_pos hsetup.2]
    refine ⟨hopened.socket.trans hversion.socket,
      hopened.eventClient.trans hversion.eventClient, ?_⟩
    rw [← hversion.eventListener]
    exact hopened.replay
  · rw [if_neg hsetup]
    exact (hversion.trans (routeRequest_sockets prim io hsetup)).opensNothing

/-- The ledger of a request on a slot with a connection. -/
theorem handleRequest_ledger (s : RtspServer) (i : Slot) (request : RtspRequest)
    (hopen : (s.clients i).socket.isOpen = true) :
    SlotLedger i s (handleRequest prim io s i request).server
      (handleRequestCalls io s i request) := by
  have heffect := handleRequest_effect prim io s i request
  have hsockets := handleRequest_sockets prim io s i request
  refine ⟨heffect.listener, heffect.others, ?_, ?_⟩
  · have hframed := replay_frame ((s.clients i).socket.held + (s.clients i).eventClient.held) _
      hsockets.replay
    rw [RtspClient.held, RtspClient.held, hsockets.socket, hsockets.eventClient,
      Multiset.add_comm, hframed, Multiset.add_comm]
  · intro _ hclosed
    rw [hsockets.socket, hopen] at hclosed
    contradiction

end Requests

/-! ## Turns -/

section Turns

variable (prim : Primitives) {s : RtspServer} {i : Slot}

/-- Bytes that wait for a request are not a socket. -/
theorem SlotLedger.setRx {after : RtspServer} {calls : List ResourceCall}
    (h : SlotLedger i s after calls) (data : List UInt8) :
    SlotLedger i s (after.setRx i data) calls :=
  ⟨h.listener, h.others, h.replay, h.tidy⟩

/-- Reading a client leaves its sockets alone. -/
theorem receiveClient_sockets (aead : Aead) (client : RtspClient) (capacity : ℕ)
    (offer : RecvOffer) :
    SameSockets client (receiveClient aead client capacity offer).1 := by
  obtain ⟨pairing, record, hclient⟩ := receiveClient_client aead client capacity offer
  rw [hclient]
  exact ⟨rfl, rfl, rfl⟩

/-- A client that cannot be read is closed. -/
theorem receiveTurn_ledger (s : RtspServer) (i : Slot) (offer : RecvOffer) :
    SlotLedger i s (receiveTurn prim s i offer).server (receiveCalls prim s i offer) := by
  have hsockets := receiveClient_sockets prim.aead (s.clients i)
    (rtspRxBufferSize - (s.rx i).length) offer
  rw [receiveTurn, receiveCalls]
  generalize receiveClient prim.aead (s.clients i) (rtspRxBufferSize - (s.rx i).length) offer = r
    at hsockets ⊢
  have hread : SlotLedger i s (s.setClient i r.1) [] := by
    apply SlotLedger.setClient
    · rw [replay_nil, hsockets.held]
    · exact hsockets.tidy
  have hclosed : SlotLedger i s (closeClient (s.setClient i r.1) i) (closeClientCalls r.1) := by
    have hclose := hread.trans (closeClient_ledger (s.setClient i r.1) i)
    rw [setClient_same] at hclose
    exact hclose
  cases r.2 with
  | timeout => exact hread
  | error => exact hclosed
  | bytes data =>
      cases data with
      | nil => exact hclosed
      | cons b data => exact hread.setRx _

/-- Only an open connection gives a request. -/
theorem receiveTurn_more (offer : RecvOffer) (h : (receiveTurn prim s i offer).more = true) :
    ((receiveTurn prim s i offer).server.clients i).socket.isOpen = true := by
  have hsockets := receiveClient_sockets prim.aead (s.clients i)
    (rtspRxBufferSize - (s.rx i).length) offer
  have hclosed := receiveClient_closed prim.aead (s.clients i)
    (rtspRxBufferSize - (s.rx i).length) offer
  rw [receiveTurn] at h ⊢
  generalize receiveClient prim.aead (s.clients i) (rtspRxBufferSize - (s.rx i).length) offer = r
    at hsockets hclosed h ⊢
  cases hresult : r.2 with
  | timeout =>
      rw [hresult] at h
      contradiction
  | error =>
      rw [hresult] at h
      contradiction
  | bytes data =>
      cases data with
      | nil =>
          rw [hresult] at h
          contradiction
      | cons b data =>
          dsimp only
          rw [setRx_clients, setClient_same, hsockets.socket, ← Bool.not_eq_false]
          exact fun hsocket => hclosed hsocket _ hresult

/-- The turn ends with the close of the client. -/
theorem SlotLedger.closed {after : RtspServer} {calls : List ResourceCall}
    (h : SlotLedger i s after calls) :
    SlotLedger i s (closeClient after i) (calls ++ closeClientCalls (after.clients i)) :=
  h.trans (closeClient_ledger after i)

theorem requestTurn_ledger (io : RequestIo) (hopen : (s.clients i).socket.isOpen = true) :
    SlotLedger i s (requestTurn prim io s i).server (requestTurnCalls prim io s i) := by
  rw [requestTurn, requestTurnCalls]
  cases parseRequest (s.rx i) with
  | incomplete => exact SlotLedger.refl i s
  | reject =>
      have hsame : SameSockets (s.clients i)
          ((respond prim io s i 400 (ascii "Bad Request") 0 [] []).server.clients i) :=
        SameSockets.respond prim io (SameSockets.refl (s.clients i))
      have hanswered : SlotLedger i s
          (respond prim io s i 400 (ascii "Bad Request") 0 [] []).server [] :=
        SlotLedger.same rfl (fun _ hj => setClient_other _ _ _ _ hj) hsame
      exact hanswered.closed
  | accept request consumed =>
      have hhandled := handleRequest_ledger prim io s i request hopen
      dsimp only
      generalize handleRequest prim io s i request = r at hhandled ⊢
      rw [setRx_clients, setRx_same]
      by_cases hok : r.ok = false
      · rw [if_pos hok, if_pos hok]
        exact hhandled.closed
      · rw [if_neg hok, if_neg hok]
        split
        · exact (hhandled.setRx ((r.server.rx i).drop consumed)).closed
        · rw [List.append_nil]
          exact hhandled.setRx _

/-- A request that goes on keeps the connection. -/
theorem requestTurn_more (io : RequestIo) (hopen : (s.clients i).socket.isOpen = true)
    (h : (requestTurn prim io s i).more = true) :
    ((requestTurn prim io s i).server.clients i).socket.isOpen = true := by
  rw [requestTurn] at h ⊢
  cases hparse : parseRequest (s.rx i) with
  | incomplete => exact hopen
  | reject =>
      rw [hparse] at h
      contradiction
  | accept request consumed =>
      have hsockets := handleRequest_sockets prim io s i request
      rw [hparse] at h
      dsimp only at h ⊢
      generalize handleRequest prim io s i request = r at hsockets h ⊢
      split at h
      · contradiction
      · rename_i hok
        rw [if_neg hok]
        split at h
        · contradiction
        · rename_i hgoes
          rw [if_neg hgoes, setRx_clients, hsockets.socket]
          exact hopen

theorem requestLoop_ledger (i : Slot) :
    ∀ (fuel : ℕ) (io : ℕ → RequestIo) (s : RtspServer), (s.clients i).socket.isOpen = true →
      SlotLedger i s (requestLoop prim i fuel io s).server
        (requestLoopCalls prim i fuel io s) := by
  intro fuel
  induction fuel with
  | zero => exact fun _ s _ => SlotLedger.refl i s
  | succ fuel ih =>
      intro io s hopen
      have hturn := requestTurn_ledger prim (io 0) hopen
      rw [requestLoop, requestLoopCalls]
      by_cases hempty : s.rx i = []
      · rw [if_pos hempty, if_pos hempty]
        exact SlotLedger.refl i s
      · rw [if_neg hempty, if_neg hempty]
        dsimp only
        cases hmore : (requestTurn prim (io 0) s i).more with
        | false =>
            rw [if_pos rfl, if_pos rfl, List.append_nil]
            exact hturn
        | true =>
            rw [if_neg Bool.noConfusion, if_neg Bool.noConfusion]
            exact hturn.trans (ih _ _ (requestTurn_more prim (io 0) hopen hmore))

theorem clientTurns_ledger (io : PollIo) (s : RtspServer) (i : Slot) :
    SlotLedger i s (clientTurns prim io s i).server (clientTurnsCalls prim io s i) := by
  have hreceive := receiveTurn_ledger prim s i (io.data i)
  rw [clientTurns, clientTurnsCalls]
  dsimp only
  cases hmore : (receiveTurn prim s i (io.data i)).more with
  | false =>
      rw [if_pos rfl, if_pos rfl, List.append_nil]
      exact hreceive
  | true =>
      rw [if_neg Bool.noConfusion, if_neg Bool.noConfusion]
      exact hreceive.trans (requestLoop_ledger prim i _ _ _ (receiveTurn_more prim _ hmore))

/-- **A round over a slot** leads from what it held to what it holds. -/
theorem slotTurns_ledger (io : PollIo) (ready : Ready) (s : RtspServer) (i : Slot)
    (hready : ready.eventListener i = true → (s.clients i).eventListener.isOpen = true) :
    SlotLedger i s (slotTurns prim io ready s i).server (slotTurnsCalls prim io ready s i) := by
  have hevent := eventTurns_ledger io ready s i hready
  rw [slotTurns, slotTurnsCalls]
  split
  · rw [List.append_nil]
    exact hevent
  · exact hevent.trans (clientTurns_ledger prim io _ i)

end Turns

/-! ## The server -/

/-- The sockets of the server. -/
def RtspServer.held (s : RtspServer) : Multiset Resource :=
  s.listener.held + ∑ i, (s.clients i).held

/-- The sockets beside those of a slot. -/
def RtspServer.heldBeside (s : RtspServer) (i : Slot) : Multiset Resource :=
  s.listener.held + ∑ j ∈ Finset.univ.erase i, (s.clients j).held

theorem RtspServer.held_split (s : RtspServer) (i : Slot) :
    s.held = (s.clients i).held + s.heldBeside i := by
  rw [held, heldBeside, ← Finset.add_sum_erase Finset.univ _ (Finset.mem_univ i)]
  abel

/-- Every slot without a connection is empty. -/
def RtspServer.Tidy (s : RtspServer) : Prop := ∀ i, (s.clients i).Tidy

/-- What calls do to the server. -/
structure ServerLedger (s after : RtspServer) (calls : List ResourceCall) : Prop where
  replay : replay s.held calls = some after.held
  listener : after.listener = s.listener
  tidy : after.Tidy

theorem ServerLedger.trans {a b c : RtspServer} {first second : List ResourceCall}
    (hab : ServerLedger a b first) (hbc : ServerLedger b c second) :
    ServerLedger a c (first ++ second) where
  replay := replay_trans hab.replay hbc.replay
  listener := hbc.listener.trans hab.listener
  tidy := hbc.tidy

theorem ServerLedger.refl {s : RtspServer} (h : s.Tidy) : ServerLedger s s [] where
  replay := rfl
  listener := rfl
  tidy := h

/-- The other slots keep what they hold. -/
theorem SlotLedger.beside {i : Slot} {s after : RtspServer} {calls : List ResourceCall}
    (h : SlotLedger i s after calls) : after.heldBeside i = s.heldBeside i := by
  rw [RtspServer.heldBeside, RtspServer.heldBeside, h.listener]
  congr 1
  apply Finset.sum_congr rfl
  intro j hj
  rw [h.others j (Finset.ne_of_mem_erase hj)]

theorem SlotLedger.server {i : Slot} {s after : RtspServer} {calls : List ResourceCall}
    (h : SlotLedger i s after calls) (htidy : s.Tidy) : ServerLedger s after calls where
  replay := by
    rw [s.held_split i, after.held_split i, h.beside]
    exact replay_frame (s.heldBeside i) calls h.replay
  listener := h.listener
  tidy j := by
    by_cases hj : j = i
    · rw [hj]
      exact h.tidy (htidy i)
    · rw [h.others j hj]
      exact htidy j

section Polls

variable (prim : Primitives)

/-- Each slot is taken once, so that it is as it was when its sockets were found ready. -/
theorem pollSlots_ledger (io : PollIo) (ready : Ready) :
    ∀ (slots : List Slot) (s : RtspServer), slots.Nodup → s.Tidy →
      (∀ i ∈ slots, ready.eventListener i = true →
        (s.clients i).eventListener.isOpen = true) →
      ServerLedger s (pollSlots prim io ready slots s).server
        (pollSlotsCalls prim io ready slots s) := by
  intro slots
  induction slots with
  | nil => exact fun s _ htidy _ => ServerLedger.refl htidy
  | cons i rest ih =>
      intro s hnodup htidy hready
      rw [List.nodup_cons] at hnodup
      have hslot := slotTurns_ledger prim io ready s i (hready i List.mem_cons_self)
      have hserver := hslot.server htidy
      rw [pollSlots, pollSlotsCalls]
      apply hserver.trans
      apply ih _ hnodup.2 hserver.tidy
      intro j hj hlistener
      have hne : j ≠ i := fun heq => hnodup.1 (heq ▸ hj)
      rw [hslot.others j hne]
      exact hready j (List.mem_cons_of_mem i hj) hlistener

/-- A new connection goes to a slot that holds nothing, or is closed at once. -/
theorem acceptTurn_ledger {s : RtspServer} (offer : AcceptOffer) (htidy : s.Tidy) :
    ServerLedger s (acceptTurn s offer).server (acceptCalls s offer) := by
  rw [acceptTurn.eq_def]
  cases offer with
  | timeout => exact ServerLedger.refl htidy
  | error => exact ServerLedger.refl htidy
  | accepted handle peer =>
      have hopened := replay_netOpened (netTcpAccept s.listener handle) s.held
      dsimp only [acceptCalls]
      cases hfree : freeSlot s with
      | none => exact ⟨replay_trans hopened (replay_netClose _ _), rfl, htidy⟩
      | some i =>
          have hempty := (htidy i).held (freeSlot_closed hfree)
          have hinstalled : SlotLedger i s (installClient s i handle peer)
              (netOpened (netTcpAccept s.listener handle)) := by
            apply SlotLedger.setRx
            apply SlotLedger.setClient
            · rw [hempty]
              exact replay_netOpened _ 0
            · exact fun _ hclosed => by contradiction
          exact hinstalled.server htidy

/-- **A poll** leads from the sockets before it to the sockets after it. -/
theorem rtspServerPoll_ledger (io : PollIo) {s : RtspServer} (htidy : s.Tidy) :
    ServerLedger s (rtspServerPoll prim io s).server (rtspServerPollCalls prim io s) := by
  rw [rtspServerPoll, rtspServerPollCalls]
  by_cases hclosed : s.listener.isOpen = false
  · rw [if_pos hclosed, if_pos hclosed]
    exact ServerLedger.refl htidy
  · rw [if_neg hclosed, if_neg hclosed]
    cases io.wait with
    | error => exact ServerLedger.refl htidy
    | timeout => exact ServerLedger.refl htidy
    | ready flags =>
        have hslots := pollSlots_ledger prim io (flags.mask s) (List.finRange rtspMaxClients) s
          (List.nodup_finRange _) htidy
          (fun i _ hlistener => (Bool.and_eq_true_iff.mp hlistener).2)
        dsimp only
        by_cases hlistener : (flags.mask s).listener = false
        · rw [if_pos hlistener, if_pos hlistener, List.append_nil]
          exact hslots
        · rw [if_neg hlistener, if_neg hlistener]
          exact hslots.trans (acceptTurn_ledger io.accept hslots.tidy)

/-- The calls of a run of polls. -/
def rtspRunCalls : RtspServer → List PollIo → List ResourceCall
  | _, [] => []
  | s, io :: polls =>
      rtspServerPollCalls prim io s ++ rtspRunCalls (rtspServerPoll prim io s).server polls

/-- **Every run of polls.** -/
theorem rtspRun_ledger (polls : List PollIo) :
    ∀ s : RtspServer, s.Tidy →
      ServerLedger s (rtspAfter prim s polls) (rtspRunCalls prim s polls) := by
  induction polls with
  | nil => exact fun s htidy => ServerLedger.refl htidy
  | cons io polls ih =>
      intro s htidy
      have hpoll := rtspServerPoll_ledger prim io htidy
      exact hpoll.trans (ih _ hpoll.tidy)

end Polls

/-! ## From creation to close -/

/-- A server without connections holds its listener. -/
theorem initial_ledger (listener : NetSocket) (localIp localMacHex deviceName : CString) :
    (RtspServer.initial listener localIp localMacHex deviceName).held = listener.held ∧
      (RtspServer.initial listener localIp localMacHex deviceName).Tidy := by
  refine ⟨?_, fun i _ => ⟨rfl, rfl⟩⟩
  have hnone : ∑ i : Slot, (RtspClient.closed).held = 0 := by
    rw [closed_held, Finset.sum_const_zero]
  rw [RtspServer.held]
  exact (congrArg (listener.held + ·) hnone).trans (Multiset.add_zero _)

/-- **A server that cannot be created** keeps nothing. -/
theorem rtspServerCreate_ledger (mutex : Bool) (listener : Option NetSocket)
    (frame : Multiset Resource) :
    replay frame (rtspServerCreateCalls mutex listener) =
      some (match (if mutex then listener else none) with
        | none => frame
        | some listener => listener.held + (.stateLock ::ₘ frame)) := by
  cases mutex with
  | false => rfl
  | true =>
      cases listener with
      | none =>
          have hgiven := replay_give frame Resource.stateLock []
          exact hgiven
      | some listener => exact replay_netOpened listener _

/-- Some slots are closed, one after the other. -/
theorem replay_closeClients (s : RtspServer) (slots : List Slot) (frame : Multiset Resource) :
    replay ((slots.map fun i => (s.clients i).held).sum + frame)
      (slots.flatMap fun i => closeClientCalls (s.clients i)) = some frame := by
  induction slots with
  | nil =>
      rw [List.map_nil, List.sum_nil, Multiset.zero_add]
      rfl
  | cons i slots ih =>
      rw [List.map_cons, List.sum_cons, List.flatMap_cons, Multiset.add_assoc]
      exact replay_trans (replay_closeClient _ _) ih

/-- **Closing the server** gives back all that it holds. -/
theorem rtspServerClose_ledger (s : RtspServer) :
    replay (.stateLock ::ₘ s.held) (rtspServerCloseCalls s) = some 0 := by
  have hsum : ∑ i, (s.clients i).held =
      ((List.finRange rtspMaxClients).map fun i => (s.clients i).held).sum := Fin.sum_univ_def _
  have hclients := replay_closeClients s (List.finRange rtspMaxClients)
    (s.listener.held + {Resource.stateLock})
  rw [← hsum] at hclients
  have hheld : Resource.stateLock ::ₘ s.held =
      ∑ i, (s.clients i).held + (s.listener.held + {Resource.stateLock}) := by
    rw [RtspServer.held, ← Multiset.singleton_add]
    abel
  rw [hheld, rtspServerCloseCalls]
  apply replay_trans (replay_trans hclients (replay_netClose _ _))
  rfl

end PortableAirplay.Protocol
