import PortableAirplay.Airplay.Airplay2
import PortableAirplay.Library.Execution

/-!
# The RTSP server

The routing of requests, the life of a connection and `rtsp_server_poll` of
`protocol/rtsp.c`. A poll is put together from turns: an event connection is
accepted or read, a client is read, one request is taken from a receive buffer, a
client is accepted. A turn says what it did in a log of `RtspEvent`.

`rtspLog_invariant` is the rule by which a property of the state and the log is
shown for runs of polls: it is enough that every round over a slot preserves it
(`SlotInvariant`), or every turn (`PollInvariant`).
-/

set_option autoImplicit false

namespace PortableAirplay.Protocol

open PortableAirplay.Airplay
open PortableAirplay.Library
open PortableAirplay.Platform
open PortableAirplay.Util

/-! ## Routing -/

section Handlers

variable (prim : Primitives) (io : RequestIo) (s : RtspServer) (i : Slot)
  (request : RtspRequest)

/-- `binary_plist` of `handle_request`. -/
def isBinaryPlist : Bool := startsWith request.body (ascii "bplist00")

/-- The answer to a method that has no handler. -/
def notImplemented : HandlerResult := answer prim io s i request 501 (ascii "Not Implemented")

/-- The handlers of POST. -/
def handlePost : HandlerResult :=
  if request.uri = ascii "/pair-setup" then airplay2PairSetup prim io s i request
  else if request.uri = ascii "/fp-setup" then airplay2FairplaySetup prim io s i request
  else if request.uri = ascii "/feedback" then airplay2Feedback prim io s i request
  else if request.uri = ascii "/audioMode" ∨ request.uri = ascii "/command" then
    airplay2Acknowledge prim io s i request
  else airplayRtspPost prim io s i request

/-- The connection is encrypted and has an event channel. -/
def hasEventChannel : Bool := (s.clients i).encrypted && (s.clients i).eventListener.isOpen

/-- RECORD goes to AirPlay 2 on an encrypted connection with an event channel. -/
def handleRecord : HandlerResult :=
  if hasEventChannel s i then airplay2Record prim io s i request
  else airplayRtspRecord prim io s i request

/-- The `switch` of `handle_request`. -/
def routeRequest : HandlerResult :=
  match request.method with
  | .get =>
      if request.uri = ascii "/info" then airplay2Info prim io s i request
      else notImplemented prim io s i request
  | .post => handlePost prim io s i request
  | .options => airplayRtspOptions prim io s i request
  | .describe => airplayRtspDescribe prim io s i request
  | .announce => airplayRtspAnnounce prim io s i request
  -- AirPlay 2 sends a property list here, AirPlay 1 a Transport header
  | .setup =>
      if isBinaryPlist request then airplay2Setup prim io s i request
      else airplayRtspSetup prim io s i request
  | .getParameter => airplayRtspGetParameter prim io s i request
  | .setParameter => airplayRtspSetParameter prim io s i request
  | .flush => airplayRtspFlush prim io s i request
  | .flushBuffered =>
      if isBinaryPlist request then airplay2FlushBuffered prim io s i request
      else airplayRtspFlushBuffered prim io s i request
  | .teardown => airplayRtspTeardown prim io s i request
  | .pause => airplayRtspPause prim io s i request
  | .record => handleRecord prim io s i request
  | .play => airplayRtspPlay prim io s i request
  | .setPeers => airplay2Acknowledge prim io s i request
  | .setRateAnchorTime => airplay2SetRateAnchorTime prim io s i request
  | .unknown => notImplemented prim io s i request

/-- The client answers in the version of the request. -/
def withVersion : RtspServer :=
  s.setClient i { s.clients i with http := decide (request.version = ascii "HTTP/1.1") }

/-- `handle_request`. -/
def handleRequest : HandlerResult := routeRequest prim io (withVersion s i request) i request

end Handlers

/-! ## Connections -/

/-- `close_client`. The owner of the stream gives it up; `http` stays as it is. -/
def closeClient (s : RtspServer) (i : Slot) : RtspServer :=
  -- the stream goes first, while the slot still owns it
  let s := releaseStream s i
  (s.setClient i { RtspClient.closed with http := (s.clients i).http }).setRx i []

/-- `receive_client`. A record is collected over several calls; bytes are returned
when it is complete, and a call that only collects is a timeout. -/
def receiveClient (aead : Aead) (client : RtspClient) (capacity : ℕ) (offer : RecvOffer) :
    RtspClient × RecvResult :=
  if client.encrypted = false then (client, netTcpRecv client.socket capacity offer)
  else
    -- the length is known once its two bytes are there
    let length := recordLength client.record
    if 2 ≤ client.record.length ∧
        (length = 0 ∨ length > pairRecordMax ∨ length > capacity) then (client, .error)
    else
      let need := if client.record.length < 2 then 2 else length + 18
      -- one call reads no further than the length, or than the tag
      match netTcpRecv client.socket (need - client.record.length) offer with
      | .timeout => (client, .timeout)
      | .error => (client, .error)
      | .bytes [] => (client, .bytes [])
      | .bytes (b :: data) =>
          let record := client.record ++ b :: data
          -- the record is not whole, and the caller sees no byte of it
          if need = 2 ∨ record.length < need then ({ client with record := record }, .timeout)
          else
            -- the record is dropped, whether it opens or not
            match pairingOpen aead client.pairing (record.take need) with
            | (pairing, none) => ({ client with pairing := pairing, record := [] }, .error)
            | (pairing, some plain) =>
                ({ client with pairing := pairing, record := [] }, .bytes plain)

/-- What a turn did. `received` are bytes of a plaintext connection, `opened` the
plaintext of a record with the key it was opened under, `dispatched` a request with
the bytes it was parsed from, whether the connection was encrypted, and the stream
state before and after it; `paired` says that encryption began. -/
inductive RtspEvent where
  | accepted (i : Slot)
  | received (i : Slot) (data : List UInt8)
  | opened (i : Slot) (key data : List UInt8)
  | dispatched (i : Slot) (request : RtspRequest) (raw : List UInt8) (encrypted : Bool)
      (before after : StreamState)
  | paired (i : Slot) (key : List UInt8)
  | rejected (i : Slot)
  | closed (i : Slot) (before after : StreamState)

/-- The connection that an event is about. -/
def RtspEvent.slot : RtspEvent → Slot
  | .accepted i => i
  | .received i _ => i
  | .opened i _ _ => i
  | .dispatched i _ _ _ _ _ => i
  | .paired i _ => i
  | .rejected i => i
  | .closed i _ _ => i

/-! ## Turns -/

/-- The outcome of a turn: the server, what happened, and whether the next turn of
the same client follows at once. -/
structure Turn where
  server : RtspServer
  log : List RtspEvent
  more : Bool

/-- The turn ends with `close_client`. -/
def closeTurn (s : RtspServer) (i : Slot) (log : List RtspEvent) : Turn :=
  ⟨closeClient s i, log ++ [.closed i s.stream (closeClient s i).stream], false⟩

/-- The bytes that a client gave. -/
def receivedEvent (client : RtspClient) (i : Slot) (data : List UInt8) : RtspEvent :=
  if client.encrypted then .opened i client.pairing.readKey data else .received i data

/-- A ready client is read. -/
def receiveTurn (prim : Primitives) (s : RtspServer) (i : Slot) (offer : RecvOffer) : Turn :=
  let client := s.clients i
  let r := receiveClient prim.aead client (rtspRxBufferSize - (s.rx i).length) offer
  let s := s.setClient i r.1
  match r.2 with
  | .timeout => ⟨s, [], false⟩
  | .error => closeTurn s i []
  | .bytes [] => closeTurn s i []
  | .bytes (b :: data) =>
      ⟨s.setRx i (s.rx i ++ b :: data), [receivedEvent client i (b :: data)], true⟩

/-- What the log says of a request that was handled. -/
def dispatchLog (s : RtspServer) (i : Slot) (request : RtspRequest) (raw : List UInt8)
    (r : HandlerResult) : List RtspEvent :=
  .dispatched i request raw (s.clients i).encrypted s.stream r.server.stream ::
    (if !(s.clients i).encrypted && (r.server.clients i).encrypted then
      [.paired i (r.server.clients i).pairing.readKey]
    else [])

/-- One round of the loop over a receive buffer. -/
def requestTurn (prim : Primitives) (io : RequestIo) (s : RtspServer) (i : Slot) : Turn :=
  match parseRequest (s.rx i) with
  | .incomplete => ⟨s, [], false⟩
  | .reject =>
      closeTurn (respond prim io s i 400 (ascii "Bad Request") 0 [] []).server i [.rejected i]
  | .accept request consumed =>
      let r := handleRequest prim io s i request
      let log := dispatchLog s i request ((s.rx i).take consumed) r
      if r.ok = false then closeTurn r.server i log
      else
        let next := r.server.setRx i ((r.server.rx i).drop consumed)
        -- No request from before the final pairing response may cross it.
        if !(s.clients i).encrypted && (next.clients i).encrypted && next.rx i ≠ [] then
          closeTurn next i log
        else ⟨next, log, true⟩

/-- The loop over a receive buffer, of at most `fuel` rounds. A round that goes on
takes at least one byte, so the length of the buffer is fuel enough. -/
def requestLoop (prim : Primitives) (i : Slot) : ℕ → (ℕ → RequestIo) → RtspServer → Turn
  | 0, _, s => ⟨s, [], false⟩
  | fuel + 1, io, s =>
      if s.rx i = [] then ⟨s, [], false⟩
      else
        let r := requestTurn prim (io 0) s i
        if r.more = false then r
        else
          let rest := requestLoop prim i fuel (fun k => io (k + 1)) r.server
          ⟨rest.server, r.log ++ rest.log, false⟩

/-- A connection at the event listener. Only the client's own host may connect. -/
def eventAcceptTurn (s : RtspServer) (i : Slot) (offer : AcceptOffer) : RtspServer :=
  let client := s.clients i
  match offer with
  | .accepted handle peer =>
      if peer.ip ≠ client.peer.ip then s
      else
        s.setClient i
          { client with eventClient := netTcpAccept client.eventListener handle }
  | .timeout => s
  | .error => s

/-- The event connection is read, and what it says is dropped. -/
def eventReceiveTurn (s : RtspServer) (i : Slot) (offer : RecvOffer) : RtspServer :=
  let client := s.clients i
  match netTcpRecv client.eventClient 1024 offer with
  | .bytes [] => s.setClient i { client with eventClient := netSocketInit }
  | .bytes (_ :: _) => s
  | .timeout => s
  | .error => s.setClient i { client with eventClient := netSocketInit }

/-- The first slot without a connection. -/
def freeSlot (s : RtspServer) : Option Slot :=
  (List.finRange rtspMaxClients).find? fun i => !(s.clients i).socket.isOpen

/-- A new connection in a slot. -/
def installClient (s : RtspServer) (i : Slot) (handle : ℕ) (peer : NetAddr) : RtspServer :=
  (s.setClient i
    { RtspClient.closed with socket := netTcpAccept s.listener handle, peer := peer }).setRx i []

/-! ## The poll -/

/-- The sockets that `net_wait` reports. -/
structure Ready where
  listener : Bool
  client : Slot → Bool
  eventListener : Slot → Bool
  eventClient : Slot → Bool

/-- What `net_wait` returns. -/
inductive WaitResult where
  | error
  | timeout
  | ready (flags : Ready)

/-- Only open sockets are reported ready. -/
def Ready.mask (flags : Ready) (s : RtspServer) : Ready where
  listener := flags.listener && s.listener.isOpen
  client i := flags.client i && (s.clients i).socket.isOpen
  eventListener i := flags.eventListener i && (s.clients i).eventListener.isOpen
  eventClient i := flags.eventClient i && (s.clients i).eventClient.isOpen

/-- What the outside does during a poll; `request i k` is for the k-th request of
a slot. -/
structure PollIo where
  wait : WaitResult
  eventAccept : Slot → AcceptOffer
  eventData : Slot → RecvOffer
  data : Slot → RecvOffer
  request : Slot → ℕ → RequestIo
  accept : AcceptOffer

/-- The outcome of a poll; `ok` is a return value of 0. -/
structure PollResult where
  server : RtspServer
  log : List RtspEvent
  ok : Bool

section Poll

variable (prim : Primitives) (io : PollIo)

/-- The event channel of a slot. -/
def eventTurns (ready : Ready) (s : RtspServer) (i : Slot) : RtspServer :=
  let s := if ready.eventListener i then eventAcceptTurn s i (io.eventAccept i) else s
  if ready.eventClient i then eventReceiveTurn s i (io.eventData i) else s

/-- The client of a slot is read and its requests are handled. -/
def clientTurns (s : RtspServer) (i : Slot) : Turn :=
  let r := receiveTurn prim s i (io.data i)
  if r.more = false then r
  else
    let rest := requestLoop prim i (r.server.rx i).length (io.request i) r.server
    ⟨rest.server, r.log ++ rest.log, false⟩

/-- One round of the loop over the slots. -/
def slotTurns (ready : Ready) (s : RtspServer) (i : Slot) : Turn :=
  let s := eventTurns io ready s i
  if ready.client i = false then ⟨s, [], false⟩ else clientTurns prim io s i

/-- The loop over the slots. -/
def pollSlots (ready : Ready) : List Slot → RtspServer → Turn
  | [], s => ⟨s, [], false⟩
  | i :: rest, s =>
      let first := slotTurns prim io ready s i
      let others := pollSlots ready rest first.server
      ⟨others.server, first.log ++ others.log, false⟩

/-- A ready listener. Where no slot is free the connection is closed. -/
def acceptTurn (s : RtspServer) (offer : AcceptOffer) : PollResult :=
  match offer with
  | .timeout => ⟨s, [], true⟩
  | .error => ⟨s, [], false⟩
  | .accepted handle peer =>
      match freeSlot s with
      | none => ⟨s, [], true⟩
      | some i => ⟨installClient s i handle peer, [.accepted i], true⟩

/-- `rtsp_server_poll`. -/
def rtspServerPoll (s : RtspServer) : PollResult :=
  if s.listener.isOpen = false then ⟨s, [], false⟩
  else
    match io.wait with
    | .error => ⟨s, [], false⟩
    | .timeout => ⟨s, [], true⟩
    | .ready flags =>
        let ready := flags.mask s
        let r := pollSlots prim io ready (List.finRange rtspMaxClients) s
        if ready.listener = false then ⟨r.server, r.log, true⟩
        else
          let a := acceptTurn r.server io.accept
          ⟨a.server, r.log ++ a.log, a.ok⟩

end Poll

/-- The server over its polls; the output of a poll is its log. -/
def rtspMachine (prim : Primitives) : Machine RtspServer PollIo (List RtspEvent) where
  step s io := ((rtspServerPoll prim io s).server, (rtspServerPoll prim io s).log)

/-- The log of a run of polls. -/
def rtspLog (prim : Primitives) (s : RtspServer) (polls : List PollIo) : List RtspEvent :=
  ((rtspMachine prim).run s polls).2.flatten

/-- The server after a run of polls. -/
def rtspAfter (prim : Primitives) (s : RtspServer) (polls : List PollIo) : RtspServer :=
  ((rtspMachine prim).run s polls).1

/-- A server that `airplay_server_init` created: with an identity and no clients. -/
def RtspServer.initial (listener : NetSocket) (localIp localMacHex deviceName : CString) :
    RtspServer :=
  { rtspServerCreate listener with
    localIp := localIp
    localMacHex := localMacHex
    deviceName := deviceName }

/-! ## The rule for polls -/

/-- A property of the server and the log that the turns under the inputs of one
poll preserve. -/
structure PollInvariant (prim : Primitives) (io : PollIo)
    (inv : RtspServer → List RtspEvent → Prop) : Prop where
  eventAccept : ∀ s log i, inv s log → inv (eventAcceptTurn s i (io.eventAccept i)) log
  eventReceive : ∀ s log i, inv s log → inv (eventReceiveTurn s i (io.eventData i)) log
  receive : ∀ s log i, inv s log →
    inv (receiveTurn prim s i (io.data i)).server
      (log ++ (receiveTurn prim s i (io.data i)).log)
  request : ∀ s log i k, inv s log →
    inv (requestTurn prim (io.request i k) s i).server
      (log ++ (requestTurn prim (io.request i k) s i).log)
  accept : ∀ s log i handle peer, inv s log → freeSlot s = some i →
    inv (installClient s i handle peer) (log ++ [.accepted i])

/-- A property that the whole rounds of the loop over the slots preserve. -/
structure SlotInvariant (prim : Primitives) (io : PollIo)
    (inv : RtspServer → List RtspEvent → Prop) : Prop where
  slot : ∀ ready s log i, inv s log →
    inv (slotTurns prim io ready s i).server (log ++ (slotTurns prim io ready s i).log)
  accept : ∀ s log i handle peer, inv s log → freeSlot s = some i →
    inv (installClient s i handle peer) (log ++ [.accepted i])

section Rule

variable {prim : Primitives} {io : PollIo} {inv : RtspServer → List RtspEvent → Prop}

theorem requestLoop_preserves (h : PollInvariant prim io inv) (i : Slot) :
    ∀ (fuel first : ℕ) (s : RtspServer) (log : List RtspEvent), inv s log →
      inv (requestLoop prim i fuel (fun k => io.request i (first + k)) s).server
        (log ++ (requestLoop prim i fuel (fun k => io.request i (first + k)) s).log) := by
  intro fuel
  induction fuel with
  | zero =>
      intro first s log hinv
      simpa [requestLoop] using hinv
  | succ fuel ih =>
      intro first s log hinv
      rw [requestLoop]
      by_cases hempty : s.rx i = []
      · simpa [hempty] using hinv
      · have hturn := h.request s log i first hinv
        rw [if_neg hempty]
        dsimp only [Nat.add_zero]
        by_cases hmore : (requestTurn prim (io.request i first) s i).more = false
        · rw [if_pos hmore]
          exact hturn
        · have hrest := ih (first + 1) _ _ hturn
          simp only [Nat.add_assoc, Nat.add_comm 1] at hrest
          rw [if_neg hmore]
          dsimp only
          rw [← List.append_assoc]
          exact hrest

theorem clientTurns_preserves (h : PollInvariant prim io inv) (s : RtspServer)
    (log : List RtspEvent) (i : Slot) (hinv : inv s log) :
    inv (clientTurns prim io s i).server (log ++ (clientTurns prim io s i).log) := by
  have hreceive := h.receive s log i hinv
  rw [clientTurns]
  dsimp only
  by_cases hmore : (receiveTurn prim s i (io.data i)).more = false
  · rw [if_pos hmore]
    exact hreceive
  · have hloop := requestLoop_preserves h i
      ((receiveTurn prim s i (io.data i)).server.rx i).length 0 _ _ hreceive
    simp only [Nat.zero_add] at hloop
    rw [if_neg hmore]
    dsimp only
    rw [← List.append_assoc]
    exact hloop

theorem eventTurns_preserves (h : PollInvariant prim io inv) (ready : Ready) (s : RtspServer)
    (log : List RtspEvent) (i : Slot) (hinv : inv s log) :
    inv (eventTurns io ready s i) log := by
  rw [eventTurns]
  cases ready.eventListener i with
  | false =>
      cases ready.eventClient i with
      | false => exact hinv
      | true => exact h.eventReceive _ _ _ hinv
  | true =>
      cases ready.eventClient i with
      | false => exact h.eventAccept _ _ _ hinv
      | true => exact h.eventReceive _ _ _ (h.eventAccept _ _ _ hinv)

theorem slotTurns_preserves (h : PollInvariant prim io inv) (ready : Ready) (s : RtspServer)
    (log : List RtspEvent) (i : Slot) (hinv : inv s log) :
    inv (slotTurns prim io ready s i).server (log ++ (slotTurns prim io ready s i).log) := by
  have hevent := eventTurns_preserves h ready s log i hinv
  rw [slotTurns]
  by_cases hready : ready.client i = false
  · rw [if_pos hready]
    simpa using hevent
  · rw [if_neg hready]
    exact clientTurns_preserves h _ _ i hevent

/-- Turn by turn is slot by slot. -/
theorem PollInvariant.slots (h : PollInvariant prim io inv) : SlotInvariant prim io inv where
  slot ready s log i hinv := slotTurns_preserves h ready s log i hinv
  accept s log i handle peer hinv hfree := h.accept s log i handle peer hinv hfree

theorem pollSlots_preserves (h : SlotInvariant prim io inv) (ready : Ready) :
    ∀ (slots : List Slot) (s : RtspServer) (log : List RtspEvent), inv s log →
      inv (pollSlots prim io ready slots s).server
        (log ++ (pollSlots prim io ready slots s).log) := by
  intro slots
  induction slots with
  | nil =>
      intro s log hinv
      simpa [pollSlots] using hinv
  | cons i rest ih =>
      intro s log hinv
      have hfirst := h.slot ready s log i hinv
      have hothers := ih _ _ hfirst
      rw [List.append_assoc] at hothers
      exact hothers

theorem freeSlot_closed {s : RtspServer} {i : Slot} (h : freeSlot s = some i) :
    (s.clients i).socket.isOpen = false := by
  have hfound := List.find?_some h
  simpa using hfound

theorem acceptTurn_preserves (h : SlotInvariant prim io inv) (s : RtspServer)
    (log : List RtspEvent) (offer : AcceptOffer) (hinv : inv s log) :
    inv (acceptTurn s offer).server (log ++ (acceptTurn s offer).log) := by
  cases offer with
  | timeout => simpa [acceptTurn] using hinv
  | error => simpa [acceptTurn] using hinv
  | accepted handle peer =>
      simp only [acceptTurn]
      cases hfree : freeSlot s with
      | none => simpa using hinv
      | some i => exact h.accept s log i handle peer hinv hfree

/-- **The rule for one poll.** -/
theorem rtspServerPoll_preserves (h : SlotInvariant prim io inv) (s : RtspServer)
    (log : List RtspEvent) (hinv : inv s log) :
    inv (rtspServerPoll prim io s).server (log ++ (rtspServerPoll prim io s).log) := by
  rw [rtspServerPoll]
  by_cases hopen : s.listener.isOpen = false
  · rw [if_pos hopen]
    simpa using hinv
  · rw [if_neg hopen]
    cases io.wait with
    | error => simpa using hinv
    | timeout => simpa using hinv
    | ready flags =>
        have hslots := pollSlots_preserves h (flags.mask s) (List.finRange rtspMaxClients)
          s log hinv
        dsimp only
        by_cases hlistener : (flags.mask s).listener = false
        · rw [if_pos hlistener]
          exact hslots
        · have haccept := acceptTurn_preserves h _ _ io.accept hslots
          rw [if_neg hlistener]
          dsimp only
          rw [← List.append_assoc]
          exact haccept

end Rule

/-- **The rule for runs**: what every round preserves holds after every run of
polls, of the server and the whole log. -/
theorem rtspLog_invariant (prim : Primitives) (inv : RtspServer → List RtspEvent → Prop)
    (polls : List PollIo) (hturns : ∀ io ∈ polls, SlotInvariant prim io inv) :
    ∀ (s : RtspServer) (log : List RtspEvent), inv s log →
      inv (rtspAfter prim s polls) (log ++ rtspLog prim s polls) := by
  induction polls with
  | nil =>
      intro s log hinv
      simpa [rtspAfter, rtspLog] using hinv
  | cons io rest ih =>
      intro s log hinv
      have hfirst := rtspServerPoll_preserves (hturns io (by simp)) s log hinv
      have hrest := ih (fun io' h' => hturns io' (by simp [h'])) _ _ hfirst
      simpa [rtspAfter, rtspLog, rtspMachine] using hrest

end PortableAirplay.Protocol
