import PortableAirplay.Protocol.SealedRecords

/-!
# Room to receive

A client is read into what is left of its receive buffer, or of a record. Between polls
no receive buffer is full and no record is complete (`HasRoom`): a buffer without room
has a verdict, and a record that is complete is opened at once. So a poll never asks the
network for nothing, and what it asks for fits (`receive_room`).
-/

set_option autoImplicit false

namespace PortableAirplay.Protocol

open PortableAirplay.Airplay
open PortableAirplay.Library
open PortableAirplay.Platform

/-! ## The calls of a poll -/

/-- Where `net_tcp_recv` is to write: from `start` on, `size` bytes of a buffer of `room`
bytes. -/
structure RecvSpan where
  start : ℕ
  size : ℕ
  room : ℕ
  deriving DecidableEq

/-- The call of `net_tcp_recv` in `receive_client`, for a client with `length` bytes in its
receive buffer: into that buffer, or into the record. -/
def receiveSpan (client : RtspClient) (length : ℕ) : Option RecvSpan :=
  if client.encrypted = false then
    some ⟨length, rtspRxBufferSize - length, rtspRxBufferSize⟩
  else if RefusesRecord client (rtspRxBufferSize - length) then none
  else
    some ⟨client.record.length, recordNeed client - client.record.length, pairRecordMax + 18⟩

/-- `receive_client` after `net_tcp_recv`. -/
def afterRecv (aead : Aead) (client : RtspClient) (result : RecvResult) :
    RtspClient × RecvResult :=
  if client.encrypted = false then (client, result)
  else
    match result with
    | .timeout => (client, .timeout)
    | .error => (client, .error)
    | .bytes [] => (client, .bytes [])
    | .bytes (b :: data) =>
        if recordNeed client = 2 ∨ (client.record ++ b :: data).length < recordNeed client then
          ({ client with record := client.record ++ b :: data }, .timeout)
        else
          match pairingOpen aead client.pairing
              ((client.record ++ b :: data).take (recordNeed client)) with
          | (pairing, none) => ({ client with pairing := pairing, record := [] }, .error)
          | (pairing, some plain) => ({ client with pairing := pairing, record := [] }, .bytes plain)

/-- **`receive_client` asks the network once, for its span**, or refuses the record. -/
theorem receiveClient_span (aead : Aead) (client : RtspClient) (length : ℕ) (offer : RecvOffer) :
    receiveClient aead client (rtspRxBufferSize - length) offer =
      match receiveSpan client length with
      | none => (client, .error)
      | some span => afterRecv aead client (netTcpRecv client.socket span.size offer) := by
  rw [receiveSpan]
  by_cases hplain : client.encrypted = false
  · rw [receiveClient, if_pos hplain, if_pos hplain]
    exact (if_pos hplain).symm
  · rw [receiveClient_encrypted (Bool.not_eq_false _ |>.mp hplain), if_neg hplain]
    by_cases hrefuses : RefusesRecord client (rtspRxBufferSize - length)
    · rw [if_pos hrefuses, if_pos hrefuses]
    · rw [if_neg hrefuses, if_neg hrefuses]
      exact (if_neg hplain).symm

/-- A call that a poll makes: `receive_client` for a client with some bytes in its buffer,
or `parse_request` on a buffer. -/
inductive PollCall where
  | receive (client : RtspClient) (length : ℕ)
  | parse (buffer : List UInt8)
  deriving DecidableEq

section Calls

variable (prim : Primitives)

/-- The calls of the loop over a receive buffer. -/
def loopCalls (i : Slot) : ℕ → (ℕ → RequestIo) → RtspServer → List PollCall
  | 0, _, _ => []
  | fuel + 1, io, s =>
      if s.rx i = [] then []
      else
        let r := requestTurn prim (io 0) s i
        .parse (s.rx i) ::
          if r.more = false then [] else loopCalls i fuel (fun k => io (k + 1)) r.server

variable (io : PollIo)

/-- The calls for a client that is ready. -/
def clientCalls (s : RtspServer) (i : Slot) : List PollCall :=
  let r := receiveTurn prim s i (io.data i)
  .receive (s.clients i) (s.rx i).length ::
    if r.more = false then []
    else loopCalls prim i (r.server.rx i).length (io.request i) r.server

/-- The calls of one round of the loop over the slots. -/
def slotCalls (ready : Ready) (s : RtspServer) (i : Slot) : List PollCall :=
  let s := eventTurns io ready s i
  if ready.client i = false then [] else clientCalls prim io s i

/-- The calls of the loop over the slots. -/
def slotsCalls (ready : Ready) : List Slot → RtspServer → List PollCall
  | [], _ => []
  | i :: rest, s =>
      slotCalls prim io ready s i ++ slotsCalls ready rest (slotTurns prim io ready s i).server

/-- The calls of `rtsp_server_poll`. -/
def pollCalls (s : RtspServer) : List PollCall :=
  if s.listener.isOpen = false then []
  else
    match io.wait with
    | .error => []
    | .timeout => []
    | .ready flags => slotsCalls prim io (flags.mask s) (List.finRange rtspMaxClients) s

end Calls

/-! ## Records -/

/-- What is collected of a record is less than what is needed. -/
def Waits (client : RtspClient) : Prop := client.record.length < recordNeed client

theorem Waits.record {before after : RtspClient} (h : Waits before)
    (hrecord : after.record = before.record) : Waits after := by
  rw [Waits, recordNeed] at h ⊢
  rw [hrecord]
  exact h

theorem waits_nil {client : RtspClient} (h : client.record = []) : Waits client := by
  rw [Waits, recordNeed, h]
  decide

/-- A decryption gives as many bytes as it is given. -/
def KeepsLength (aead : Aead) : Prop :=
  ∀ query tag plain, aead.authDecrypt query tag = some plain → plain.length = query.input.length

/-- The plaintext of a record has the length that its header says. -/
theorem pairingOpen_length {aead : Aead} (hcipher : KeepsLength aead) {p : Pairing}
    {record plain : List UInt8} (h : (pairingOpen aead p record).2 = some plain) :
    plain.length = recordLength record := by
  rcases pairingOpen_cases aead p record with hopen | ⟨query, tag, opened, hquery, hplain, hopen⟩
  · rw [hopen] at h
    contradiction
  · rw [hopen, Option.some.injEq] at h
    rw [← h, hcipher query tag opened hplain]
    rw [openQuery] at hquery
    dsimp only at hquery
    split at hquery
    · contradiction
    · split at hquery
      · contradiction
      · next hlength =>
          rw [Option.some.injEq, Prod.mk.injEq] at hquery
          rw [← hquery.1, List.length_take, List.length_drop]
          omega

section Receive

variable {aead : Aead} {client : RtspClient} {length : ℕ}

/-- A record that waits for more is asked for at least one byte, and has room for it. -/
theorem receiveSpan_fits (hlength : length < rtspRxBufferSize) (hwaits : Waits client)
    {span : RecvSpan} (h : receiveSpan client length = some span) :
    0 < span.size ∧ span.start + span.size ≤ span.room := by
  rw [receiveSpan] at h
  -- in the clear the span is the rest of the receive buffer, else the rest of the record
  split at h
  · rw [Option.some.injEq] at h
    subst h
    dsimp only
    omega
  · split at h
    · contradiction
    · next haccepts =>
        rw [Option.some.injEq] at h
        subst h
        rw [Waits] at hwaits
        dsimp only
        refine ⟨by omega, ?_⟩
        have hneed : recordNeed client ≤ pairRecordMax + 18 := by
          rw [recordNeed]
          split
          · decide
          · -- the header is there, and was not refused
            rw [RefusesRecord] at haccepts
            omega
        omega

/-- What was read of a record does not complete it, or is the end of it. -/
theorem waits_append {data : List UInt8}
    (hfits : data.length ≤ recordNeed client - client.record.length)
    (hmore : recordNeed client = 2 ∨ (client.record ++ data).length < recordNeed client) :
    Waits { client with record := client.record ++ data } := by
  rw [Waits]
  rw [recordNeed] at hfits hmore ⊢
  dsimp only
  rw [List.length_append] at hmore ⊢
  by_cases hheader : client.record.length < 2
  · -- at most the header is there now
    rw [if_pos hheader] at hfits
    split
    · assumption
    · omega
  · have hlength : recordLength client.record = recordLength (client.record ++ data) :=
      recordLength_start (List.prefix_append _ _) (by omega)
    rw [if_neg hheader, hlength] at hmore
    rw [if_neg (by omega)]
    omega

/-- **Reading leaves a record that waits.** -/
theorem receiveClient_waits (hwaits : Waits client) (capacity : ℕ) (offer : RecvOffer) :
    Waits (receiveClient aead client capacity offer).1 := by
  cases hencrypted : client.encrypted with
  | false =>
      rw [receiveClient, if_pos hencrypted]
      exact hwaits
  | true =>
      rw [receiveClient_encrypted hencrypted]
      split
      · exact hwaits
      · split
        · exact hwaits
        · exact hwaits
        · exact hwaits
        · next b data hrecv =>
            split
            · next hmore => exact waits_append (netTcpRecv_length_le hrecv) hmore
            · split
              · exact waits_nil rfl
              · exact waits_nil rfl

/-- **What a read gives fits what it was offered.** -/
theorem receiveClient_length (hcipher : KeepsLength aead) {capacity : ℕ} {offer : RecvOffer}
    {data : List UInt8} (h : (receiveClient aead client capacity offer).2 = .bytes data) :
    data.length ≤ capacity := by
  -- in the clear the socket gives no more than it was asked for
  cases hencrypted : client.encrypted with
  | false =>
      rw [receiveClient, if_pos hencrypted] at h
      exact netTcpRecv_length_le h
  | true =>
      rw [receiveClient_encrypted hencrypted] at h
      split at h
      · contradiction
      · next haccepts =>
          split at h
          · contradiction
          · contradiction
          · rw [RecvResult.bytes.injEq] at h
            rw [← h]
            exact Nat.zero_le _
          · next b more hrecv =>
              split at h
              · contradiction
              · next hwhole =>
                  have hheader : ¬ client.record.length < 2 := fun hshort =>
                    hwhole (Or.inl (if_pos hshort))
                  split at h
                  · contradiction
                  · next pairing plain hopen =>
                      rw [RecvResult.bytes.injEq] at h
                      have hopened := congrArg Prod.snd hopen
                      have hplain := pairingOpen_length hcipher hopened
                      -- the header was complete, so the record has the length that was tested
                      have hsame : recordLength client.record = recordLength
                          ((client.record ++ b :: more).take (recordNeed client)) := by
                        apply recordLength_start _ (by omega)
                        rw [List.prefix_take_iff]
                        refine ⟨List.prefix_append _ _, ?_⟩
                        have hfits := netTcpRecv_length_le hrecv
                        rw [List.length_cons] at hfits
                        omega
                      rw [RefusesRecord] at haccepts
                      rw [← h, hplain, ← hsame]
                      omega

end Receive

/-! ## One slot -/

/-- A receive buffer that is not full, and a record that waits. -/
structure HasRoom (s : RtspServer) (i : Slot) : Prop where
  buffer : (s.rx i).length < rtspRxBufferSize
  record : Waits (s.clients i)

/-- A receive buffer within its size, and a record that waits; once the turns of the client
are over there is room. -/
structure Within (s : RtspServer) (i : Slot) (more : Bool) : Prop where
  buffer : (s.rx i).length ≤ rtspRxBufferSize
  record : Waits (s.clients i)
  done : more = false → (s.rx i).length < rtspRxBufferSize

/-- What a poll may rely on when it calls. -/
def CallFits : PollCall → Prop
  | .receive client length =>
      length < rtspRxBufferSize ∧ client.record.length < recordNeed client ∧
        ∀ span, receiveSpan client length = some span →
          0 < span.size ∧ span.start + span.size ≤ span.room
  | .parse buffer =>
      buffer.length ≤ rtspRxBufferSize ∧
        (parseRequest buffer = .incomplete → buffer.length < rtspRxBufferSize)

theorem HasRoom.receive {s : RtspServer} {i : Slot} (h : HasRoom s i) :
    CallFits (.receive (s.clients i) (s.rx i).length) :=
  ⟨h.buffer, h.record, fun _ hspan => receiveSpan_fits h.buffer h.record hspan⟩

theorem callFits_parse {buffer : List UInt8} (h : buffer.length ≤ rtspRxBufferSize) :
    CallFits (.parse buffer) := ⟨h, parseRequest_incomplete_room h⟩

/-- A slot that was closed, or never used. -/
theorem hasRoom_empty {s : RtspServer} {i : Slot} (hrx : s.rx i = [])
    (hrecord : (s.clients i).record = []) : HasRoom s i := by
  constructor
  · rw [hrx]
    decide
  · exact waits_nil hrecord

theorem closeTurn_room (s : RtspServer) (i : Slot) (log : List RtspEvent) :
    HasRoom (closeTurn s i log).server i := by
  apply hasRoom_empty
  · show (closeClient s i).rx i = []
    rw [closeClient, setRx_same]
  · show ((closeClient s i).clients i).record = []
    rw [closeClient_client]
    rfl

theorem HasRoom.within {s : RtspServer} {i : Slot} (h : HasRoom s i) (more : Bool) :
    Within s i more := ⟨h.buffer.le, h.record, fun _ => h.buffer⟩

section Turns

variable {prim : Primitives} (hcipher : KeepsLength prim.aead) {s : RtspServer} {i : Slot}

include hcipher in
theorem receiveTurn_within (h : HasRoom s i) (offer : RecvOffer) :
    Within (receiveTurn prim s i offer).server i (receiveTurn prim s i offer).more := by
  have hwaits : Waits (receiveClient prim.aead (s.clients i)
      (rtspRxBufferSize - (s.rx i).length) offer).1 := receiveClient_waits h.record _ offer
  have hfits : ∀ data, (receiveClient prim.aead (s.clients i)
      (rtspRxBufferSize - (s.rx i).length) offer).2 = .bytes data →
      data.length ≤ rtspRxBufferSize - (s.rx i).length := fun data hdata =>
    receiveClient_length hcipher hdata
  rw [receiveTurn]
  generalize receiveClient prim.aead (s.clients i) (rtspRxBufferSize - (s.rx i).length) offer = r
    at hwaits hfits
  obtain ⟨client, result⟩ := r
  dsimp only at hwaits hfits
  -- nothing came, the connection ends, or bytes are put behind those in the buffer
  cases result with
  | timeout =>
      apply HasRoom.within
      refine ⟨h.buffer, ?_⟩
      rw [setClient_same]
      exact hwaits
  | error => exact (closeTurn_room _ i _).within _
  | bytes data =>
      cases data with
      | nil => exact (closeTurn_room _ i _).within _
      | cons b data =>
          have hroom := hfits (b :: data) rfl
          have hbuffer := h.buffer
          refine ⟨?_, ?_, fun hmore => absurd hmore Bool.true_eq_false.mp⟩
          · dsimp only
            rw [setRx_same, setClient_rx, List.length_append]
            omega
          · dsimp only
            rw [setRx_clients, setClient_same]
            exact hwaits

/-- One round of the loop. It goes on only when it took something. -/
theorem requestTurn_within (hbuffer : (s.rx i).length ≤ rtspRxBufferSize)
    (hrecord : Waits (s.clients i)) (io : RequestIo) :
    Within (requestTurn prim io s i).server i (requestTurn prim io s i).more ∧
      ((requestTurn prim io s i).more = true →
        ((requestTurn prim io s i).server.rx i).length < (s.rx i).length) := by
  rw [requestTurn]
  -- the parser waits, refuses or takes a request off the front
  cases hparse : parseRequest (s.rx i) with
  | incomplete =>
      have hroom := parseRequest_incomplete_room hbuffer hparse
      exact ⟨⟨hbuffer, hrecord, fun _ => hroom⟩, fun hmore => absurd hmore Bool.false_ne_true⟩
  | reject =>
      exact ⟨(closeTurn_room _ i _).within _, fun hmore => absurd hmore Bool.false_ne_true⟩
  | accept request n =>
      have heffect := handleRequest_effect prim io s i request
      obtain ⟨headEnd, st, hend, -, -, hle, -, hn⟩ := parseRequest_eq_accept.mp hparse
      have hpos := headersEnd_bounds hend
      dsimp only
      generalize handleRequest prim io s i request = r at heffect ⊢
      -- a failed answer closes the connection, and so does a request to do so
      split
      · exact ⟨(closeTurn_room _ i _).within _, fun hmore => absurd hmore Bool.false_ne_true⟩
      · split
        · exact ⟨(closeTurn_room _ i _).within _, fun hmore => absurd hmore Bool.false_ne_true⟩
        · have hrx : ((r.server.setRx i ((r.server.rx i).drop n)).rx i).length =
              (s.rx i).length - n := by
            rw [setRx_same, heffect.rx, List.length_drop]
          refine ⟨⟨?_, ?_, fun hmore => absurd hmore Bool.true_eq_false.mp⟩, fun _ => ?_⟩
          · dsimp only
            omega
          · dsimp only
            rw [setRx_clients]
            exact hrecord.record heffect.client.record
          · dsimp only
            omega

/-- **The loop over a receive buffer leaves room**, and parses nothing but buffers within
their size. -/
theorem requestLoop_room (fuel : ℕ) :
    ∀ (io : ℕ → RequestIo) (s : RtspServer), (s.rx i).length ≤ fuel →
      (s.rx i).length ≤ rtspRxBufferSize → Waits (s.clients i) →
      HasRoom (requestLoop prim i fuel io s).server i ∧
        ∀ call ∈ loopCalls prim i fuel io s, CallFits call := by
  -- the induction is on the fuel, which no buffer is longer than
  induction fuel with
  | zero =>
      intro io s hfuel _ hrecord
      have hempty : s.rx i = [] := List.length_eq_zero_iff.mp (Nat.le_zero.mp hfuel)
      refine ⟨⟨?_, hrecord⟩, fun call hcall => absurd hcall List.not_mem_nil⟩
      show (s.rx i).length < rtspRxBufferSize
      rw [hempty]
      decide
  | succ fuel ih =>
      intro io s hfuel hbuffer hrecord
      rw [requestLoop, loopCalls]
      by_cases hempty : s.rx i = []
      · rw [if_pos hempty, if_pos hempty]
        refine ⟨⟨?_, hrecord⟩, fun call hcall => absurd hcall List.not_mem_nil⟩
        dsimp only
        rw [hempty]
        decide
      · rw [if_neg hempty, if_neg hempty]
        obtain ⟨hturn, hless⟩ := requestTurn_within hbuffer hrecord (io 0)
        dsimp only
        by_cases hmore : (requestTurn prim (io 0) s i).more = false
        · rw [if_pos hmore, if_pos hmore]
          refine ⟨⟨hturn.done hmore, hturn.record⟩, fun call hcall => ?_⟩
          rw [List.mem_singleton] at hcall
          rw [hcall]
          exact callFits_parse hbuffer
        · rw [if_neg hmore, if_neg hmore]
          -- what the round took makes the fuel last
          have hshorter := hless (Bool.not_eq_false _ |>.mp hmore)
          obtain ⟨hroom, hcalls⟩ := ih (fun k => io (k + 1)) (requestTurn prim (io 0) s i).server
            (by omega) hturn.buffer hturn.record
          refine ⟨hroom, fun call hcall => ?_⟩
          rcases List.mem_cons.mp hcall with rfl | hcall
          · exact callFits_parse hbuffer
          · exact hcalls call hcall

include hcipher in
/-- **A client that has room is read within it**, and has room again afterwards. -/
theorem clientTurns_room (h : HasRoom s i) (io : PollIo) :
    HasRoom (clientTurns prim io s i).server i ∧
      ∀ call ∈ clientCalls prim io s i, CallFits call := by
  have hreceive := receiveTurn_within hcipher h (io.data i)
  rw [clientTurns, clientCalls]
  dsimp only
  by_cases hmore : (receiveTurn prim s i (io.data i)).more = false
  · rw [if_pos hmore, if_pos hmore]
    refine ⟨⟨hreceive.done hmore, hreceive.record⟩, fun call hcall => ?_⟩
    rw [List.mem_singleton] at hcall
    rw [hcall]
    exact h.receive
  · rw [if_neg hmore, if_neg hmore]
    obtain ⟨hroom, hcalls⟩ :=
      requestLoop_room _ (io.request i) _ le_rfl hreceive.buffer hreceive.record
    refine ⟨hroom, fun call hcall => ?_⟩
    rcases List.mem_cons.mp hcall with rfl | hcall
    · exact h.receive
    · exact hcalls call hcall

end Turns

/-! ## Runs of polls -/

/-- A turn that keeps the buffer and the record of a slot. -/
theorem HasRoom.congr {before after : RtspServer} {i : Slot} (h : HasRoom before i)
    (hrx : after.rx i = before.rx i)
    (hrecord : (after.clients i).record = (before.clients i).record) : HasRoom after i := by
  constructor
  · rw [hrx]
    exact h.buffer
  · exact h.record.record hrecord

theorem OnlySlot.hasRoom {before after : RtspServer} {log : List RtspEvent} {i j : Slot}
    (honly : OnlySlot i before after log) (hslot : j ≠ i) (h : HasRoom before j) :
    HasRoom after j := by
  apply h.congr (honly.rx j hslot)
  rw [honly.clients j hslot]

section Polls

variable {prim : Primitives} (hcipher : KeepsLength prim.aead)

include hcipher

/-- One round of the loop over the slots. -/
theorem slotTurns_room (io : PollIo) (ready : Ready) {s : RtspServer} (i : Slot)
    (h : ∀ j, HasRoom s j) :
    (∀ j, HasRoom (slotTurns prim io ready s i).server j) ∧
      ∀ call ∈ slotCalls prim io ready s i, CallFits call := by
  obtain ⟨socket, hclient, hrx⟩ := eventTurns_client io ready s i
  have hevents : HasRoom (eventTurns io ready s i) i := by
    apply (h i).congr
    · rw [hrx]
    · rw [hclient]
  have honly := slotTurns_only prim io ready s i
  have hslot : HasRoom (slotTurns prim io ready s i).server i ∧
      ∀ call ∈ slotCalls prim io ready s i, CallFits call := by
    rw [slotTurns, slotCalls]
    by_cases hready : ready.client i = false
    · rw [if_pos hready, if_pos hready]
      exact ⟨hevents, fun call hcall => absurd hcall List.not_mem_nil⟩
    · rw [if_neg hready, if_neg hready]
      exact clientTurns_room hcipher hevents io
  refine ⟨fun j => ?_, hslot.2⟩
  by_cases hj : j = i
  · rw [hj]
    exact hslot.1
  · exact honly.hasRoom hj (h j)

theorem slotsCalls_fit (io : PollIo) (ready : Ready) (slots : List Slot) :
    ∀ s : RtspServer, (∀ j, HasRoom s j) →
      ∀ call ∈ slotsCalls prim io ready slots s, CallFits call := by
  induction slots with
  | nil => exact fun s _ call hcall => absurd hcall List.not_mem_nil
  | cons i rest ih =>
      intro s h call hcall
      obtain ⟨hafter, hcalls⟩ := slotTurns_room hcipher io ready i h
      rw [slotsCalls] at hcall
      rcases List.mem_append.mp hcall with hcall | hcall
      · exact hcalls call hcall
      · exact ih _ hafter call hcall

/-- **The calls of a poll fit** where every slot has room. -/
theorem pollCalls_fit (io : PollIo) {s : RtspServer} (h : ∀ j, HasRoom s j) :
    ∀ call ∈ pollCalls prim io s, CallFits call := by
  intro call hcall
  rw [pollCalls] at hcall
  split at hcall
  · exact absurd hcall List.not_mem_nil
  · split at hcall
    · exact absurd hcall List.not_mem_nil
    · exact absurd hcall List.not_mem_nil
    · exact slotsCalls_fit hcipher io _ _ s h call hcall

/-- Every round leaves room in every slot. -/
theorem slotInvariant_room (io : PollIo) :
    SlotInvariant prim io (fun s _ => ∀ j, HasRoom s j) where
  slot ready s log i h := (slotTurns_room hcipher io ready i h).1
  accept s log i handle peer h hfree := by
    intro j
    by_cases hj : j = i
    · subst hj
      apply hasRoom_empty
      · rw [installClient, setRx_same]
      · rw [installClient, setRx_clients, setClient_same]
        rfl
    · apply (h j).congr
      · rw [installClient, setRx_other _ _ _ _ hj, setClient_rx]
      · rw [installClient, setRx_clients, setClient_other _ _ _ _ hj]

/-- **The receive buffer never fills without a verdict.** After any polls, whatever the
clients send and however it is split, the next poll reads a client only into a receive
buffer that is not full; what `receive_client` asks `net_tcp_recv` for, in its only call, is
at least one byte and fits the receive buffer or the record, of which less is there than is
needed; and a buffer of which `parse_request` wants more is not full. -/
theorem receive_room (listener : NetSocket) (localIp localMacHex deviceName : CString)
    (polls : List PollIo) (io : PollIo) :
    let s := rtspAfter prim (RtspServer.initial listener localIp localMacHex deviceName) polls
    (∀ client length, .receive client length ∈ pollCalls prim io s →
      0 < rtspRxBufferSize - length ∧ client.record.length < recordNeed client ∧
        (∀ span, receiveSpan client length = some span →
          0 < span.size ∧ span.start + span.size ≤ span.room) ∧
        ∀ offer, receiveClient prim.aead client (rtspRxBufferSize - length) offer =
          match receiveSpan client length with
          | none => (client, .error)
          | some span => afterRecv prim.aead client (netTcpRecv client.socket span.size offer)) ∧
      ∀ buffer, .parse buffer ∈ pollCalls prim io s → buffer.length ≤ rtspRxBufferSize ∧
        (parseRequest buffer = .incomplete → buffer.length < rtspRxBufferSize) := by
  intro s
  have hstart : ∀ j,
      HasRoom (RtspServer.initial listener localIp localMacHex deviceName) j := fun j =>
    hasRoom_empty rfl rfl
  -- every state of the run has room, and so have the calls of the next poll
  have hroom : ∀ j, HasRoom s j :=
    rtspLog_invariant prim (fun s _ => ∀ j, HasRoom s j) polls
      (fun io _ => slotInvariant_room hcipher io) _ [] hstart
  have hfit := pollCalls_fit hcipher io hroom
  constructor
  · intro client length hcall
    obtain ⟨hlength, hrecord, hspan⟩ := hfit _ hcall
    exact ⟨by omega, hrecord, hspan, receiveClient_span prim.aead client length⟩
  · intro buffer hcall
    exact hfit _ hcall

end Polls

/-- The second piece of a request is read behind the first. -/
theorem receive_room_second_piece :
    let s := rtspAfter idlePrimitives (RtspServer.initial ⟨some 1, 5000⟩ [] [] [])
      [connect, deliver (ascii "OPTIONS")]
    pollCalls idlePrimitives (deliver (ascii " * ")) s =
        [.receive (s.clients firstSlot) 7, .parse (ascii "OPTIONS * ")] ∧
      (∀ client length, .receive client length ∈
          pollCalls idlePrimitives (deliver (ascii " * ")) s →
        0 < rtspRxBufferSize - length ∧ client.record.length < recordNeed client ∧
          (∀ span, receiveSpan client length = some span →
            0 < span.size ∧ span.start + span.size ≤ span.room) ∧
          ∀ offer, receiveClient idlePrimitives.aead client (rtspRxBufferSize - length) offer =
            match receiveSpan client length with
            | none => (client, .error)
            | some span =>
                afterRecv idlePrimitives.aead client (netTcpRecv client.socket span.size offer)) ∧
        ∀ buffer, .parse buffer ∈ pollCalls idlePrimitives (deliver (ascii " * ")) s →
          buffer.length ≤ rtspRxBufferSize ∧
            (parseRequest buffer = .incomplete → buffer.length < rtspRxBufferSize) :=
  ⟨by decide +kernel,
    receive_room (fun _ _ _ h => absurd h (Option.some_ne_none _).symm) ⟨some 1, 5000⟩ [] [] []
      [connect, deliver (ascii "OPTIONS")] (deliver (ascii " * "))⟩

end PortableAirplay.Protocol
