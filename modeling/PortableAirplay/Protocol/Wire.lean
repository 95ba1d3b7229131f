import PortableAirplay.Protocol.RequestBytes

/-!
# The bytes on the wire

The log of the server shows the plaintext of a connection. Here the turns are followed
once more for the bytes that `net_tcp_recv` takes from its socket (`wire`), and a poll
is reduced to what it does to one slot (`rtspServerPoll_slot`).
-/

set_option autoImplicit false

namespace PortableAirplay.Protocol

open PortableAirplay.Airplay
open PortableAirplay.Library
open PortableAirplay.Platform

/-! ## Reading -/

/-- The bytes of a receive call. -/
def recvBytes : RecvResult → List UInt8
  | .bytes data => data
  | .timeout => []
  | .error => []

/-- The length in the header of the record is not one to wait for. -/
def RefusesRecord (client : RtspClient) (capacity : ℕ) : Prop :=
  2 ≤ client.record.length ∧
    (recordLength client.record = 0 ∨ recordLength client.record > pairRecordMax ∨
      recordLength client.record > capacity)

instance (client : RtspClient) (capacity : ℕ) : Decidable (RefusesRecord client capacity) :=
  inferInstanceAs (Decidable (_ ∧ _))

/-- `need` of `receive_client`. -/
def recordNeed (client : RtspClient) : ℕ :=
  if client.record.length < 2 then 2 else recordLength client.record + 18

/-- The bytes that `receive_client` takes from the socket. -/
def clientReads (client : RtspClient) (capacity : ℕ) (offer : RecvOffer) : List UInt8 :=
  if client.encrypted = false then recvBytes (netTcpRecv client.socket capacity offer)
  else if RefusesRecord client capacity then []
  else recvBytes (netTcpRecv client.socket (recordNeed client - client.record.length) offer)

/-- A poll comes to reading the connection of a slot. -/
def isPolled (io : PollIo) (i : Slot) (s : RtspServer) : Bool :=
  s.listener.isOpen &&
    match io.wait with
    | .error => false
    | .timeout => false
    | .ready flags => (flags.mask s).client i

/-- The bytes that a poll takes from the socket of a slot. -/
def pollReads (io : PollIo) (i : Slot) (s : RtspServer) : List UInt8 :=
  if isPolled io i s then
    clientReads (s.clients i) (rtspRxBufferSize - (s.rx i).length) (io.data i)
  else []

/-- The server over its polls, with the bytes read from a slot. -/
def wiredMachine (prim : Primitives) (i : Slot) :
    Machine RtspServer PollIo (List UInt8 × List RtspEvent) where
  step s io := ((rtspServerPoll prim io s).server, pollReads io i s, (rtspServerPoll prim io s).log)

/-- A connection, with the bytes that were read from its socket. -/
structure Wire where
  bytes : List UInt8
  handed : Handed

/-- One more poll. After the end of the connection its slot is another's. -/
def Wire.poll (i : Slot) (w : Wire) (out : List UInt8 × List RtspEvent) : Wire where
  bytes := if w.handed.closed then w.bytes else w.bytes ++ out.1
  handed := out.2.foldl (handedStep i) w.handed

/-- What was read before a poll was read before what it reads. -/
theorem Wire.poll_bytes (i : Slot) (w : Wire) (out : List UInt8 × List RtspEvent) :
    w.bytes <+: (w.poll i out).bytes := by
  rw [Wire.poll]
  split
  · exact List.prefix_rfl
  · exact List.prefix_append _ _

/-- The connection in slot `i` at the start of a run of polls. -/
def wire (prim : Primitives) (i : Slot) (s : RtspServer) (polls : List PollIo) : Wire :=
  ((wiredMachine prim i).run s polls).2.foldl (Wire.poll i) ⟨[], Handed.start⟩

theorem wire_fold_handed (prim : Primitives) (i : Slot) (polls : List PollIo) :
    ∀ (s : RtspServer) (w : Wire),
      (((wiredMachine prim i).run s polls).2.foldl (Wire.poll i) w).handed =
        (rtspLog prim s polls).foldl (handedStep i) w.handed := by
  induction polls with
  | nil => exact fun s w => rfl
  | cons io rest ih =>
      intro s w
      have hrest := ih (rtspServerPoll prim io s).server
        (w.poll i (pollReads io i s, (rtspServerPoll prim io s).log))
      have hlog : rtspLog prim s (io :: rest) = (rtspServerPoll prim io s).log ++
          rtspLog prim (rtspServerPoll prim io s).server rest := rfl
      rw [hlog, List.foldl_append]
      exact hrest

/-- What the connection hands over is in the log of the server. -/
theorem wire_handed (prim : Primitives) (i : Slot) (s : RtspServer) (polls : List PollIo) :
    (wire prim i s polls).handed = handed i (rtspLog prim s polls) :=
  wire_fold_handed prim i polls s ⟨[], Handed.start⟩

/-! ## The listener -/

section Listener

variable (prim : Primitives) {listener : NetSocket}

theorem closeClient_listener (s : RtspServer) (i : Slot) :
    (closeClient s i).listener = s.listener := by
  rw [closeClient, setRx_listener, setClient_listener, releaseStream]
  split
  · rfl
  · rfl

/-- No turn closes the listener. -/
theorem pollInvariant_listener (io : PollIo) :
    PollInvariant prim io (fun s _ => s.listener = listener) where
  eventAccept s log i h := by
    rw [eventAcceptTurn.eq_def]
    split
    · dsimp only
      split
      · exact h
      · exact h
    · exact h
    · exact h
  eventReceive s log i h := by
    rw [eventReceiveTurn]
    split
    · exact h
    · exact h
    · exact h
    · exact h
  receive s log i h := by
    rw [receiveTurn]
    generalize receiveClient prim.aead (s.clients i) (rtspRxBufferSize - (s.rx i).length)
      (io.data i) = r
    cases r.2 with
    | timeout => exact h
    | error => exact (closeClient_listener _ i).trans h
    -- no bytes mean that the peer has closed
    | bytes data =>
        cases data with
        | nil => exact (closeClient_listener _ i).trans h
        | cons b data => exact h
  request s log i k h := by
    rw [requestTurn]
    cases parseRequest (s.rx i) with
    | incomplete => exact h
    | reject => exact (closeClient_listener _ i).trans h
    | accept request n =>
        have heffect := handleRequest_effect prim (io.request i k) s i request
        dsimp only
        generalize handleRequest prim (io.request i k) s i request = r at heffect ⊢
        have hnext := heffect.listener.trans h
        split
        · exact (closeClient_listener _ i).trans hnext
        · split
          · exact (closeClient_listener _ i).trans hnext
          · exact hnext
  accept s log i handle peer h hfree := h

theorem rtspServerPoll_listener (io : PollIo) (s : RtspServer) :
    (rtspServerPoll prim io s).server.listener = s.listener :=
  rtspServerPoll_preserves (pollInvariant_listener prim io).slots s [] rfl

end Listener

/-! ## One slot of a poll -/

section Slot

variable (prim : Primitives) (io : PollIo) {i : Slot}

/-- Slots that a loop does not come to. -/
theorem pollSlots_others (ready : Ready) (slots : List Slot) :
    ∀ s : RtspServer, i ∉ slots →
      (pollSlots prim io ready slots s).server.clients i = s.clients i ∧
      (pollSlots prim io ready slots s).server.rx i = s.rx i ∧
      ∀ h, (pollSlots prim io ready slots s).log.foldl (handedStep i) h = h := by
  induction slots with
  | nil => exact fun s _ => ⟨rfl, rfl, fun _ => rfl⟩
  | cons j rest ih =>
      intro s hslots
      rw [List.mem_cons, not_or] at hslots
      have honly := slotTurns_only prim io ready s j
      obtain ⟨hclient, hrx, hlog⟩ := ih (slotTurns prim io ready s j).server hslots.2
      rw [pollSlots]
      refine ⟨?_, ?_, fun h => ?_⟩
      · rw [hclient, honly.clients i hslots.1]
      · rw [hrx, honly.rx i hslots.1]
      · rw [List.foldl_append,
          handed_others fun e he heq => hslots.1 (heq.symm.trans (honly.log e he)), hlog]

/-- **The loop over the slots, seen from one of them**: a round from a server that differs
in other slots only. -/
theorem pollSlots_slot (ready : Ready) (slots : List Slot) :
    ∀ s : RtspServer, i ∈ slots → slots.Nodup →
      ∃ server : RtspServer, server.clients i = s.clients i ∧ server.rx i = s.rx i ∧
        (pollSlots prim io ready slots s).server.clients i =
          (slotTurns prim io ready server i).server.clients i ∧
        (pollSlots prim io ready slots s).server.rx i =
          (slotTurns prim io ready server i).server.rx i ∧
        ∀ h, (pollSlots prim io ready slots s).log.foldl (handedStep i) h =
          (slotTurns prim io ready server i).log.foldl (handedStep i) h := by
  induction slots with
  | nil => exact fun s hslots => absurd hslots List.not_mem_nil
  | cons j rest ih =>
      intro s hslots hnodup
      obtain ⟨hfresh, hrest⟩ := List.nodup_cons.mp hnodup
      rw [pollSlots]
      by_cases hslot : i = j
      · subst hslot
        obtain ⟨hclient, hrx, hlog⟩ :=
          pollSlots_others prim io ready rest (slotTurns prim io ready s i).server hfresh
        refine ⟨s, rfl, rfl, hclient, hrx, fun h => ?_⟩
        rw [List.foldl_append, hlog]
      · have honly := slotTurns_only prim io ready s j
        have hmem : i ∈ rest := (List.mem_cons.mp hslots).resolve_left hslot
        obtain ⟨server, hclient, hrx, hafter, hleft, hlog⟩ :=
          ih (slotTurns prim io ready s j).server hmem hrest
        refine ⟨server, ?_, ?_, hafter, hleft, fun h => ?_⟩
        · rw [hclient, honly.clients i hslot]
        · rw [hrx, honly.rx i hslot]
        · rw [List.foldl_append,
            handed_others fun e he heq => hslot (heq.symm.trans (honly.log e he)), hlog]

/-- What a poll does to a slot whose connection it does not read. -/
structure Quiet (prim : Primitives) (io : PollIo) (i : Slot) (s : RtspServer) : Prop where
  skipped : isPolled io i s = false
  client : ∃ socket, (rtspServerPoll prim io s).server.clients i =
    { s.clients i with eventClient := socket }
  rx : (rtspServerPoll prim io s).server.rx i = s.rx i
  log : ∀ h, (rtspServerPoll prim io s).log.foldl (handedStep i) h = h

/-- A poll that reads the connection of a slot, from a server that differs from the one
before the poll in other slots and event channels only. -/
structure Reads (prim : Primitives) (io : PollIo) (i : Slot) (s server : RtspServer) : Prop where
  polled : isPolled io i s = true
  client : ∃ socket, server.clients i = { s.clients i with eventClient := socket }
  rx : server.rx i = s.rx i
  after : ((clientTurns prim io server i).server.clients i).socket.isOpen = true →
    (rtspServerPoll prim io s).server.clients i =
        (clientTurns prim io server i).server.clients i ∧
      (rtspServerPoll prim io s).server.rx i = (clientTurns prim io server i).server.rx i
  log : ∀ h, (rtspServerPoll prim io s).log.foldl (handedStep i) h =
    (clientTurns prim io server i).log.foldl (handedStep i) h

/-- A new connection does not take the slot of an open one. -/
theorem acceptTurn_slot (s : RtspServer) (offer : AcceptOffer) :
    ((s.clients i).socket.isOpen = true →
      (acceptTurn s offer).server.clients i = s.clients i ∧
        (acceptTurn s offer).server.rx i = s.rx i) ∧
      ∀ h, (acceptTurn s offer).log.foldl (handedStep i) h = h := by
  rw [acceptTurn.eq_def]
  cases offer with
  | timeout => exact ⟨fun _ => ⟨rfl, rfl⟩, fun _ => rfl⟩
  | error => exact ⟨fun _ => ⟨rfl, rfl⟩, fun _ => rfl⟩
  | accepted handle peer =>
      dsimp only
      cases hfree : freeSlot s with
      | none => exact ⟨fun _ => ⟨rfl, rfl⟩, fun _ => rfl⟩
      | some j =>
          refine ⟨fun hopen => ?_, fun h => ?_⟩
          · have hne : i ≠ j := by
              rintro rfl
              rw [freeSlot_closed hfree] at hopen
              contradiction
            dsimp only
            rw [installClient, setRx_clients, setClient_other _ _ _ _ hne, setRx_other _ _ _ _ hne]
            exact ⟨rfl, rfl⟩
          · rw [List.foldl_cons, List.foldl_nil, handedStep]
            split
            · rfl
            · rfl

theorem eventTurns_slot (ready : Ready) {s server : RtspServer}
    (hclient : server.clients i = s.clients i) (hrx : server.rx i = s.rx i) :
    (∃ socket, (eventTurns io ready server i).clients i =
        { s.clients i with eventClient := socket }) ∧
      (eventTurns io ready server i).rx i = s.rx i := by
  obtain ⟨socket, hafter, hleft⟩ := eventTurns_client io ready server i
  refine ⟨⟨socket, ?_⟩, ?_⟩
  · rw [hafter, hclient]
  · rw [hleft, hrx]

/-- A poll does nothing, or it goes over the slots; the listener adds nothing to an open
connection. -/
theorem rtspServerPoll_cases (s : RtspServer) (i : Slot) :
    (isPolled io i s = false ∧ ∃ ok, rtspServerPoll prim io s = ⟨s, [], ok⟩) ∨
      ∃ ready : Ready, isPolled io i s = ready.client i ∧
        let r := pollSlots prim io ready (List.finRange rtspMaxClients) s
        ((r.server.clients i).socket.isOpen = true →
          (rtspServerPoll prim io s).server.clients i = r.server.clients i ∧
            (rtspServerPoll prim io s).server.rx i = r.server.rx i) ∧
        ∀ h, (rtspServerPoll prim io s).log.foldl (handedStep i) h =
          r.log.foldl (handedStep i) h := by
  rw [rtspServerPoll, isPolled]
  cases hlistener : s.listener.isOpen with
  | false =>
      rw [if_pos rfl]
      exact Or.inl ⟨rfl, _, rfl⟩
  | true =>
      rw [if_neg (by decide), Bool.true_and]
      cases io.wait with
      | error => exact Or.inl ⟨rfl, _, rfl⟩
      | timeout => exact Or.inl ⟨rfl, _, rfl⟩
      | ready flags =>
          right
          refine ⟨flags.mask s, rfl, ?_⟩
          dsimp only
          split
          · exact ⟨fun _ => ⟨rfl, rfl⟩, fun _ => rfl⟩
          · obtain ⟨hslot, hlog⟩ := @acceptTurn_slot i
              (pollSlots prim io (flags.mask s) (List.finRange rtspMaxClients) s).server io.accept
            refine ⟨hslot, fun h => ?_⟩
            rw [List.foldl_append, hlog]

/-- **What a poll does to one connection**: nothing, or a read and its requests. -/
theorem rtspServerPoll_slot (s : RtspServer) (i : Slot)
    (hopen : (s.clients i).socket.isOpen = true) :
    Quiet prim io i s ∨ ∃ server, Reads prim io i s server := by
  rcases rtspServerPoll_cases prim io s i with ⟨hskipped, ok, hpoll⟩ | ⟨ready, hready, hpoll, hlog⟩
  · left
    refine ⟨hskipped, ?_, ?_, fun h => ?_⟩
    · rw [hpoll]
      exact ⟨_, rfl⟩
    · rw [hpoll]
    · rw [hpoll]
      rfl
  · -- the turns before this slot's leave it alone, its event turns leave its buffer
    obtain ⟨server, hclient, hrx, hafter, hleft, hturns⟩ := pollSlots_slot prim io ready
      (List.finRange rtspMaxClients) s (List.mem_finRange i) (List.nodup_finRange _)
    obtain ⟨⟨socket, hevents⟩, hbuffer⟩ := eventTurns_slot io ready hclient hrx
    rw [hafter, hleft] at hpoll
    cases hflag : ready.client i with
    | false =>
        left
        rw [slotTurns, if_pos hflag] at hpoll hturns
        have hstill : ((eventTurns io ready server i).clients i).socket.isOpen = true := by
          rw [hevents]
          exact hopen
        obtain ⟨hsame, hkept⟩ := hpoll hstill
        refine ⟨hready.trans hflag, ⟨socket, hsame.trans hevents⟩, hkept.trans hbuffer, fun h => ?_⟩
        rw [hlog, hturns]
        rfl
    | true =>
        right
        have hgoes : ¬ ready.client i = false := by
          rw [hflag]
          exact Bool.true_eq_false.mp
        rw [slotTurns, if_neg hgoes] at hpoll hturns
        refine ⟨eventTurns io ready server i, hready.trans hflag, ⟨socket, hevents⟩, hbuffer, hpoll,
          fun h => ?_⟩
        rw [hlog, hturns]

end Slot

end PortableAirplay.Protocol
