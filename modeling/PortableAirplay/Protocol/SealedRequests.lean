import PortableAirplay.Airplay.PairedChannel
import PortableAirplay.Protocol.SealedRecords

/-!
# Sealed requests

A paired connection carries the same requests as a connection in the clear, cut into
records. A record is opened into the room that the receive buffer has left, and one that
is longer than this room closes the connection: `RecordsFit` says that this does not
happen. `sealed_requests_agree`: whatever the network does, a paired connection hands
over the requests that a connection in the clear hands over if and only if the records
fit.
-/

set_option autoImplicit false

namespace PortableAirplay.Protocol

open PortableAirplay.Airplay
open PortableAirplay.Library
open PortableAirplay.Platform

/-! ## Requests in records -/

/-- Every record fits in the room that the receive buffer has left after `before` bytes of
some requests and the records before it: what is there is the start of a request that is
not complete. -/
def RecordsFit (requests : List (List UInt8)) : ℕ → List (List UInt8) → Prop
  | _, [] => True
  | before, piece :: rest =>
      Framing.unfinished requests before + piece.length ≤ rtspRxBufferSize ∧
        RecordsFit requests (before + piece.length) rest

instance decidableRecordsFit (requests : List (List UInt8)) :
    ∀ (before : ℕ) (pieces : List (List UInt8)), Decidable (RecordsFit requests before pieces)
  | _, [] => inferInstanceAs (Decidable True)
  | before, piece :: rest =>
      have := decidableRecordsFit requests (before + piece.length) rest
      inferInstanceAs (Decidable (_ ∧ _))

theorem recordsFit_append (requests front others : List (List UInt8)) :
    ∀ before : ℕ, RecordsFit requests before (front ++ others) ↔
      RecordsFit requests before front ∧
        RecordsFit requests (before + front.flatten.length) others := by
  induction front with
  | nil =>
      intro before
      simp [RecordsFit]
  | cons piece rest ih =>
      intro before
      rw [List.cons_append, RecordsFit, RecordsFit, ih, List.flatten_cons, List.length_append,
        Nat.add_assoc, and_assoc]

/-- Whole requests that are sent to a client in sealed records: the requests with their
bytes, the pieces that these are cut into, and the records of the pieces under the key and
the counter of the client. -/
structure SealedRequests (aead : Aead) (client : RtspClient) where
  parts : List (RtspRequest × List UInt8)
  pieces : List (List UInt8)
  records : List (List UInt8)
  whole : ∀ part ∈ parts, parseRequest part.2 = .accept part.1 part.2.length
  sizes : ∀ part ∈ parts, part.2.length ≤ rtspRxBufferSize
  within : ∀ piece ∈ pieces, IsPiece piece
  cut : pieces.flatten = (parts.map Prod.snd).flatten
  sealed : sealPieces aead client.pairing.readKey client.pairing.readCounter pieces = some records
  answers : client.pairing.writeCounter.toNat + answerRecords * parts.length < 2 ^ 64

namespace SealedRequests

variable {aead : Aead} {first : RtspClient} (t : SealedRequests aead first)

/-- Every record finds room. -/
def Fits : Prop := RecordsFit (t.parts.map Prod.snd) 0 t.pieces

theorem frames : requestFraming.frames t.pieces.flatten = (t.parts.map Prod.fst, .waiting []) := by
  rw [t.cut]
  apply requestFraming.frames_flatten rfl
  intro part hpart
  show parseRequest (part.2.take rtspRxBufferSize) = _
  rw [List.take_of_length_le (t.sizes part hpart)]
  exact t.whole part hpart

/-- What waits after some of the pieces. -/
theorem waiting {front todo : List (List UInt8)} (hpieces : t.pieces = front ++ todo) :
    ∃ rest, (requestFraming.frames front.flatten).2 = .waiting rest ∧
      rest.length = Framing.unfinished (t.parts.map Prod.snd) front.flatten.length := by
  apply requestFraming.frames_unfinished rfl t.parts
  · intro part hpart
    show parseRequest (part.2.take rtspRxBufferSize) = _
    rw [List.take_of_length_le (t.sizes part hpart)]
    exact t.whole part hpart
  · rw [← t.cut, hpieces, List.flatten_append]
    exact List.prefix_append _ _

/-- After some of the pieces there are no more requests than after all. -/
theorem requests_length {front todo : List (List UInt8)} (hpieces : t.pieces = front ++ todo) :
    (requestFraming.frames front.flatten).1.length ≤ t.parts.length := by
  obtain ⟨rest, hrest, -⟩ := t.waiting hpieces
  have hall := t.frames
  rw [hpieces, List.flatten_append, requestFraming.frames_append_waiting hrest] at hall
  have hlength := congrArg (fun frames => frames.1.length) hall
  dsimp only at hlength
  rw [List.length_append, List.length_map] at hlength
  omega

/-- A paired connection between two polls: the pieces in `front` were opened, from the
bytes `gone`, and their requests were handed over; of the records in `rest`, which are of
the pieces in `todo`, a part of the first was collected. -/
structure Collecting (client : RtspClient) (rx : List UInt8) (w : Wire)
    (front todo rest : List (List UInt8)) (gone : List UInt8) : Prop where
  paired : PairedClient client
  pieces : t.pieces = front ++ todo
  records : t.records.flatten = gone ++ rest.flatten
  sealed : sealPieces aead client.pairing.readKey client.pairing.readCounter todo = some rest
  collected : Collected client.record rest
  bytes : w.bytes = gone ++ client.record
  fits : RecordsFit (t.parts.map Prod.snd) 0 front
  waiting : (requestFraming.frames front.flatten).2 = .waiting rx
  requests : w.handed.parts.map Prod.fst = (requestFraming.frames front.flatten).1
  given : w.handed.given = front.flatten
  live : w.handed.closed = false
  written : client.pairing.writeCounter.toNat ≤ first.pairing.writeCounter.toNat +
    answerRecords * (requestFraming.frames front.flatten).1.length

end SealedRequests

/-! ## One poll -/

namespace SealedRequests

section Step

variable {prim : Primitives} {first : RtspClient} {t : SealedRequests prim.aead first} {i : Slot}
  {client : RtspClient} {rx : List UInt8} {w : Wire} {front todo rest : List (List UInt8)}
  {gone : List UInt8}

/-- Where a transfer has come to: it goes on, or a record was refused. -/
inductive Carried (t : SealedRequests prim.aead first) (client : RtspClient) (rx : List UInt8)
    (w : Wire) : Prop where
  | collecting (front todo rest : List (List UInt8)) (gone : List UInt8)
      (h : t.Collecting client rx w front todo rest gone) : Carried t client rx w
  | refused (hclosed : w.handed.closed = true) (hfits : ¬ t.Fits) : Carried t client rx w

/-- The event channel is not part of the transfer. -/
theorem Collecting.events (h : t.Collecting client rx w front todo rest gone)
    (socket : NetSocket) :
    t.Collecting { client with eventClient := socket } rx w front todo rest gone where
  paired := ⟨h.paired.opened, h.paired.encrypted, h.paired.established⟩
  pieces := h.pieces
  records := h.records
  sealed := h.sealed
  collected := h.collected
  bytes := h.bytes
  fits := h.fits
  waiting := h.waiting
  requests := h.requests
  given := h.given
  live := h.live
  written := h.written

/-- The receive buffer holds the start of a request. -/
theorem Collecting.buffered (h : t.Collecting client rx w front todo rest gone) :
    rx.length = Framing.unfinished (t.parts.map Prod.snd) front.flatten.length := by
  obtain ⟨rest, hrest, hlength⟩ := t.waiting h.pieces
  rw [h.waiting, Ending.waiting.injEq] at hrest
  rw [hrest]
  exact hlength

theorem Collecting.within (h : t.Collecting client rx w front todo rest gone) :
    ∀ piece ∈ todo, IsPiece piece := by
  intro piece hpiece
  apply t.within
  rw [h.pieces]
  exact List.mem_append_right _ hpiece

/-- What is read next is the next of the records. -/
theorem Collecting.reads (h : t.Collecting client rx w front todo rest gone) {reads : List UInt8}
    (hstart : w.bytes ++ reads <+: t.records.flatten) :
    client.record ++ reads <+: rest.flatten := by
  rw [h.bytes, h.records, List.append_assoc, List.prefix_append_right_inj] at hstart
  exact hstart

/-- More of a record. -/
theorem Collecting.more (h : t.Collecting client rx w front todo rest gone) {reads : List UInt8}
    (hcollected : Collected (client.record ++ reads) rest) :
    t.Collecting { client with record := client.record ++ reads } rx ⟨w.bytes ++ reads, w.handed⟩
      front todo rest gone where
  paired := ⟨h.paired.opened, h.paired.encrypted, h.paired.established⟩
  pieces := h.pieces
  records := h.records
  sealed := h.sealed
  collected := hcollected
  bytes := by rw [h.bytes, List.append_assoc]
  fits := h.fits
  waiting := h.waiting
  requests := h.requests
  given := h.given
  live := h.live
  written := h.written

/-- A piece that does not fit into the buffer. -/
theorem Collecting.refuse {piece : List UInt8} {later : List (List UInt8)}
    (h : t.Collecting client rx w front (piece :: later) rest gone)
    (hroom : rtspRxBufferSize - rx.length < piece.length) : ¬ t.Fits := by
  intro hfits
  rw [Fits, h.pieces, recordsFit_append, RecordsFit, Nat.zero_add, ← h.buffered] at hfits
  omega

/-- The requests of a piece that was opened. -/
theorem Collecting.serve {piece : List UInt8} {later others : List (List UInt8)}
    {record reads : List UInt8} {after : RtspClient} {rx' : List UInt8}
    {parts : List (RtspRequest × List UInt8)}
    (h : t.Collecting client rx w front (piece :: later) (record :: others) gone)
    (haead : CorrectAead prim.aead)
    (hothers : sealPieces prim.aead client.pairing.readKey (client.pairing.readCounter + 1) later =
      some others)
    (hbytes : client.record ++ reads = record) (hroom : piece.length ≤ rtspRxBufferSize - rx.length)
    (hpositive : 0 < piece.length)
    (hserved : Served (openedClient client) after
      (requestFraming.frames (rx ++ piece)).1.length)
    (hrest : (requestFraming.frames (rx ++ piece)).2 = .waiting rx')
    (hparts : parts.map Prod.fst = (requestFraming.frames (rx ++ piece)).1) :
    t.Collecting after rx'
      ⟨w.bytes ++ reads,
        { w.handed with given := w.handed.given ++ piece, parts := w.handed.parts ++ parts }⟩
      (front ++ [piece]) later others (gone ++ record) := by
  have hflatten : (front ++ [piece]).flatten = front.flatten ++ piece := by
    rw [List.flatten_append, List.flatten_singleton]
  have hframes := requestFraming.frames_append_waiting h.waiting piece
  have hcollected : Collected [] others := collected_nil haead hothers
  -- every field once more, with the piece and its record on the other side of the cut
  constructor
  · exact hserved.paired
  · rw [h.pieces, List.append_assoc, List.singleton_append]
  · rw [h.records, List.flatten_cons, List.append_assoc]
  · rw [hserved.readKey, hserved.readCounter]
    exact hothers
  · rw [hserved.record]
    exact hcollected
  · rw [hserved.record, h.bytes, List.append_assoc, hbytes]
    exact (List.append_nil _).symm
  · rw [recordsFit_append, RecordsFit, Nat.zero_add, ← h.buffered]
    exact ⟨h.fits, by omega, trivial⟩
  · rw [hflatten, hframes]
    exact hrest
  · rw [hflatten, hframes, List.map_append, h.requests, hparts]
  · rw [hflatten]
    show w.handed.given ++ piece = _
    rw [h.given]
  · exact h.live
  · have hwritten := hserved.written
    have hbefore := h.written
    have hsame : (openedClient client).pairing.writeCounter = client.pairing.writeCounter := rfl
    rw [hflatten, hframes, List.length_append, Nat.mul_add]
    rw [hsame] at hwritten
    omega

theorem receiveTurn_opens {server : RtspServer} {offer : RecvOffer} {b : UInt8}
    {reads data record : List UInt8} (hencrypted : (server.clients i).encrypted = true)
    (hopens : Opens prim.aead (server.clients i) (rtspRxBufferSize - (server.rx i).length) offer
      reads (b :: data) record) :
    receiveTurn prim server i offer =
      ⟨(server.setClient i (openedClient (server.clients i))).setRx i
          (server.rx i ++ b :: data),
        [.opened i (server.clients i).pairing.readKey (b :: data)], true⟩ := by
  rw [receiveTurn, hopens.receive]
  dsimp only
  rw [receivedEvent, if_pos hencrypted]
  rfl

/-- A whole record: its piece is opened, and the loop serves what it completes. -/
theorem Collecting.opens {server : RtspServer} {io : PollIo} {piece record reads : List UInt8}
    {later others : List (List UInt8)} (haead : CorrectAead prim.aead)
    (h : t.Collecting (server.clients i) (server.rx i) w front (piece :: later) (record :: others)
      gone)
    (hdelivers : Delivers i io)
    (hothers : sealPieces prim.aead (server.clients i).pairing.readKey
      ((server.clients i).pairing.readCounter + 1) later = some others)
    (hopens : Opens prim.aead (server.clients i) (rtspRxBufferSize - (server.rx i).length)
      (io.data i) reads piece record) :
    t.Carried ((clientTurns prim io server i).server.clients i)
      ((clientTurns prim io server i).server.rx i)
      ⟨w.bytes ++ reads, (clientTurns prim io server i).log.foldl (handedStep i) w.handed⟩ := by
  have hpiece := h.within piece (List.mem_cons_self ..)
  obtain ⟨b, data, rfl⟩ := List.exists_cons_of_ne_nil hpiece.1
  have hpositive : 0 < (b :: data).length := Nat.succ_pos _
  have hroom := hopens.room
  have hturn := receiveTurn_opens h.paired.encrypted hopens
  have hnext : t.pieces = (front ++ [b :: data]) ++ later := by
    rw [h.pieces, List.append_assoc, List.singleton_append]
  obtain ⟨rx', hrest, -⟩ := t.waiting hnext
  have hcount := t.requests_length hnext
  have hanswers := t.answers
  have hwritten := h.written
  rw [List.flatten_append, List.flatten_singleton,
    requestFraming.frames_append_waiting h.waiting] at hrest hcount
  rw [List.length_append] at hcount
  -- the server with the opened piece in its buffer
  generalize hserver : (server.setClient i (openedClient (server.clients i))).setRx i
    (server.rx i ++ b :: data) = opened at hturn
  have hclient : opened.clients i = openedClient (server.clients i) := by
    rw [← hserver, setRx_clients, setClient_same]
  have hbuffer : opened.rx i = server.rx i ++ b :: data := by
    rw [← hserver, setRx_same]
  have hlength : (opened.rx i).length ≤ rtspRxBufferSize := by
    rw [hbuffer, List.length_append]
    omega
  have hpaired : PairedClient (opened.clients i) := by
    rw [hclient]
    exact ⟨h.paired.opened, h.paired.encrypted, h.paired.established⟩
  -- the records of the answers stay below the end of the counter
  have hbudget : (opened.clients i).pairing.writeCounter.toNat +
      answerRecords * (requestFraming.frames (opened.rx i)).1.length < 2 ^ 64 := by
    have hsame : (opened.clients i).pairing.writeCounter =
        (server.clients i).pairing.writeCounter := by
      rw [hclient]
      rfl
    have hbound := Nat.mul_le_mul_left answerRecords hcount
    rw [Nat.mul_add] at hbound
    rw [hsame, hbuffer]
    omega
  rw [← hbuffer] at hrest
  have hgive : handedStep i w.handed (.opened i (server.clients i).pairing.readKey (b :: data)) =
      { w.handed with given := w.handed.given ++ b :: data } := handedStep_own rfl h.live
  obtain ⟨hserved, hleft, parts, hlog, hparts⟩ := requestLoop_served haead
    (opened.rx i).length (io.request i) opened
    { w.handed with given := w.handed.given ++ b :: data } rx' hdelivers.sends hpaired
    (Nat.le_refl _) hlength h.live hrest hbudget
  have hloop : clientTurns prim io server i =
      ⟨(requestLoop prim i (opened.rx i).length (io.request i) opened).server,
        [.opened i (server.clients i).pairing.readKey (b :: data)] ++
          (requestLoop prim i (opened.rx i).length (io.request i) opened).log, false⟩ := by
    rw [clientTurns, hturn]
    rfl
  rw [hloop]
  generalize requestLoop prim i (opened.rx i).length (io.request i) opened = loop
    at hserved hleft hlog
  dsimp only
  rw [List.singleton_append, List.foldl_cons, hgive, hlog, hleft]
  rw [hclient, hbuffer] at hserved
  rw [hbuffer] at hrest hparts
  exact Carried.collecting _ _ _ _
    (h.serve haead hothers hopens.bytes hroom hpositive hserved hrest hparts)

/-- **A round of a paired connection**: the transfer goes on, or a record is refused. -/
theorem Collecting.turns {server : RtspServer} {io : PollIo} (haead : CorrectAead prim.aead)
    (h : t.Collecting (server.clients i) (server.rx i) w front todo rest gone)
    (hdelivers : Delivers i io)
    (hstart : w.bytes ++ clientReads (server.clients i)
      (rtspRxBufferSize - (server.rx i).length) (io.data i) <+: t.records.flatten) :
    t.Carried ((clientTurns prim io server i).server.clients i)
      ((clientTurns prim io server i).server.rx i)
      ⟨w.bytes ++ clientReads (server.clients i) (rtspRxBufferSize - (server.rx i).length)
          (io.data i),
        (clientTurns prim io server i).log.foldl (handedStep i) w.handed⟩ := by
  have hread := receiveClient_sealed haead h.paired h.within h.sealed h.collected hdelivers.data
    (h.reads hstart)
  generalize clientReads (server.clients i) (rtspRxBufferSize - (server.rx i).length) (io.data i)
    = reads at hread hstart ⊢
  rcases hread with hcollects | ⟨piece, later, record, others, rfl, rfl, hrecord, hothers, hopens⟩ |
    ⟨piece, later, rfl, hrefuses⟩
  · -- a part of a record
    have hturn : clientTurns prim io server i = ⟨server.setClient i
        { server.clients i with record := (server.clients i).record ++ reads }, [], false⟩ := by
      rw [clientTurns, receiveTurn, hcollects.receive]
      rfl
    rw [hturn]
    dsimp only
    rw [setClient_same]
    exact Carried.collecting _ _ _ _ (h.more hcollects.collected)
  · exact h.opens haead hdelivers hothers hopens
  · have hturn : clientTurns prim io server i =
        closeTurn (server.setClient i (server.clients i)) i [] := by
      rw [clientTurns, receiveTurn, hrefuses.receive]
      rfl
    apply Carried.refused
    · rw [hturn, closeTurn, List.nil_append]
      dsimp only
      rw [List.foldl_cons, List.foldl_nil, handedStep_closed h.live]
    · exact h.refuse hrefuses.room

/-- **A poll of a paired connection.** -/
theorem Carried.poll {s : RtspServer} {io : PollIo} (haead : CorrectAead prim.aead)
    (h : t.Carried (s.clients i) (s.rx i) w) (hdelivers : Delivers i io)
    (hstart : (w.poll i (pollReads io i s, (rtspServerPoll prim io s).log)).bytes <+:
      t.records.flatten) :
    t.Carried ((rtspServerPoll prim io s).server.clients i)
      ((rtspServerPoll prim io s).server.rx i)
      (w.poll i (pollReads io i s, (rtspServerPoll prim io s).log)) := by
  cases h with
  | refused hclosed hfits =>
      apply Carried.refused _ hfits
      rw [Wire.poll]
      dsimp only
      rw [handed_closed hclosed]
      exact hclosed
  | collecting front todo rest gone h =>
      have hpolled : ∀ out, w.poll i out =
          ⟨w.bytes ++ out.1, out.2.foldl (handedStep i) w.handed⟩ := by
        intro out
        rw [Wire.poll, h.live, if_neg Bool.false_ne_true]
      rw [hpolled] at hstart ⊢
      dsimp only at hstart ⊢
      rcases rtspServerPoll_slot prim io s i h.paired.opened with hquiet | ⟨server, hreads⟩
      · -- the poll did not read the connection
        obtain ⟨socket, hclient⟩ := hquiet.client
        rw [pollReads, hquiet.skipped, if_neg Bool.false_ne_true, hquiet.log, hclient, hquiet.rx,
          List.append_nil]
        exact Carried.collecting _ _ _ _ (h.events socket)
      · -- it did, after what it does to the listener and to the other slots
        obtain ⟨socket, hclient⟩ := hreads.client
        have hserver : t.Collecting (server.clients i) (server.rx i) w front todo rest gone := by
          rw [hclient, hreads.rx]
          exact h.events socket
        have hsame : clientReads (server.clients i) (rtspRxBufferSize - (server.rx i).length)
            (io.data i) = pollReads io i s := by
          rw [pollReads, if_pos hreads.polled, hclient, hreads.rx]
          rfl
        have hturns := hserver.turns haead hdelivers (by rw [hsame]; exact hstart)
        rw [hsame] at hturns
        rw [hreads.log]
        cases hturns with
        | refused hclosed hfits => exact Carried.refused hclosed hfits
        | collecting front todo rest gone h =>
            obtain ⟨hafter, hleft⟩ := hreads.after h.paired.opened
            rw [hafter, hleft]
            exact Carried.collecting _ _ _ _ h

end Step

/-- A paired client that waits for its next record, with nothing in its receive buffer. -/
structure Idle (client : RtspClient) (rx : List UInt8) : Prop where
  paired : PairedClient client
  record : client.record = []
  empty : rx = []

/-- A transfer at its start. -/
theorem carried_start {prim : Primitives} {client : RtspClient} {rx : List UInt8}
    (haead : CorrectAead prim.aead) (t : SealedRequests prim.aead client)
    (hidle : Idle client rx) : t.Carried client rx ⟨[], Handed.start⟩ := by
  have hframes : requestFraming.frames [] = ([], .waiting []) :=
    requestFraming.frames_incomplete rfl
  apply Carried.collecting [] t.pieces t.records []
  constructor
  · exact hidle.paired
  · rfl
  · rfl
  · exact t.sealed
  · rw [hidle.record]
    exact collected_nil haead t.sealed
  · rw [hidle.record]
    rfl
  · trivial
  · rw [hidle.empty, List.flatten_nil, hframes]
  · rw [List.flatten_nil, hframes]
    rfl
  · rfl
  · rfl
  · exact Nat.le_add_right _ _

/-- **A run of polls.** -/
theorem carried_run {prim : Primitives} {i : Slot} {s : RtspServer}
    (haead : CorrectAead prim.aead) (t : SealedRequests prim.aead (s.clients i))
    (hidle : Idle (s.clients i) (s.rx i)) (polls : List PollIo)
    (hdelivers : ∀ io ∈ polls, Delivers i io)
    (hstart : (wire prim i s polls).bytes <+: t.records.flatten) :
    ∃ client rx, t.Carried client rx (wire prim i s polls) := by
  have hguarded : (wiredMachine prim i).Guarded (fun _ io => Delivers i io) s polls :=
    (wiredMachine prim i).guarded_of_forall polls s fun io hio _ => hdelivers io hio
  have hrun := (wiredMachine prim i).run_guarded_invariant
    (fun server outputs => (outputs.foldl (Wire.poll i) ⟨[], Handed.start⟩).bytes <+:
        t.records.flatten →
      t.Carried (server.clients i) (server.rx i)
        (outputs.foldl (Wire.poll i) ⟨[], Handed.start⟩))
    (fun server outputs io h hio hbytes => by
      rw [List.foldl_append] at hbytes ⊢
      exact (h ((Wire.poll_bytes i _ _).trans hbytes)).poll haead hio hbytes)
    polls s [] (fun _ => carried_start haead t hidle) hguarded
  rw [List.nil_append] at hrun
  exact ⟨_, _, hrun hstart⟩

end SealedRequests

/-! ## Reading to the end -/

/-- A run reads a stream from a connection to the end, or up to where the connection was
closed. -/
structure ReadsAll (w : Wire) (stream : List UInt8) : Prop where
  start : w.bytes <+: stream
  all : w.handed.closed = false → w.bytes = stream

/-- A transfer whose records were read to the end came to the end. -/
theorem SealedRequests.Collecting.finished {aead : Aead} {first client : RtspClient}
    {t : SealedRequests aead first} {rx : List UInt8} {w : Wire}
    {front todo rest : List (List UInt8)} {gone : List UInt8}
    (h : t.Collecting client rx w front todo rest gone) (hall : w.bytes = t.records.flatten) :
    front = t.pieces := by
  have hrecord : client.record = rest.flatten := by
    rw [h.bytes, h.records, List.append_cancel_left_eq] at hall
    exact hall
  have hcollected := h.collected
  have hsealed := h.sealed
  cases todo with
  | nil => rw [h.pieces, List.append_nil]
  | cons piece later =>
      -- a record that was read to its end was opened
      exfalso
      obtain ⟨record, others, rfl, -, -⟩ := sealPieces_cons hsealed
      have hpart := hcollected.2
      rw [hrecord, List.flatten_cons, List.length_append] at hpart
      omega

namespace SealedRequests

section Delivery

variable {prim : Primitives} {first : RtspClient} {t : SealedRequests prim.aead first}
  {s : RtspServer} {w : Wire}

/-- The first bytes of some data are read, or a record is refused. -/
theorem Collecting.reads_data {client : RtspClient} {front todo rest : List (List UInt8)}
    {rx gone : List UInt8} (haead : CorrectAead prim.aead)
    (h : t.Collecting client rx w front todo rest gone) (capacity : ℕ) (b : UInt8)
    (data : List UInt8) :
    clientReads client capacity (.data (b :: data)) <+: b :: data ∧
      (RefusesRecord client capacity ∨ clientReads client capacity (.data (b :: data)) ≠ []) := by
  have hneed := recordNeed_collected haead h.within h.sealed h.collected
  by_cases hrefuses : RefusesRecord client capacity
  · have hnone : clientReads client capacity (.data (b :: data)) = [] := by
      rw [clientReads, if_neg (by rw [h.paired.encrypted]; exact Bool.true_eq_false.mp),
        if_pos hrefuses]
    rw [hnone]
    exact ⟨List.nil_prefix, Or.inl hrefuses⟩
  · obtain ⟨room, hroom⟩ : ∃ room, recordNeed client - client.record.length = room + 1 :=
      Nat.exists_eq_succ_of_ne_zero (by omega)
    have hready : ¬ (client.socket.isOpen = false ∨ room + 1 = 0) := by
      rw [h.paired.opened]
      simp
    rw [clientReads_encrypted h.paired.encrypted hrefuses, hroom, netTcpRecv, if_neg hready,
      List.take_succ_cons, recvBytes]
    exact ⟨List.cons_prefix_cons.mpr ⟨rfl, List.take_prefix _ _⟩, Or.inr (List.cons_ne_nil _ _)⟩

/-- A record that is refused ends the connection. -/
theorem refuses_closes {server : RtspServer} {io : PollIo} {h : Handed} {i : Slot}
    (hencrypted : (server.clients i).encrypted = true) (hopen : h.closed = false)
    (hrefuses : RefusesRecord (server.clients i) (rtspRxBufferSize - (server.rx i).length)) :
    ((clientTurns prim io server i).log.foldl (handedStep i) h).closed = true := by
  have hturn : clientTurns prim io server i =
      closeTurn (server.setClient i (server.clients i)) i [] := by
    rw [clientTurns, receiveTurn, receiveClient_encrypted hencrypted, if_pos hrefuses]
    rfl
  rw [hturn, closeTurn, List.nil_append]
  dsimp only
  rw [List.foldl_cons, List.foldl_nil, handedStep_closed hopen]

/-- A poll that offers what is still to be read: it ends the connection, or more is read. -/
theorem Carried.offer (haead : CorrectAead prim.aead)
    (h : t.Carried (s.clients firstSlot) (s.rx firstSlot) w) (hlistens : s.listener.isOpen = true)
    {b : UInt8} {data : List UInt8} (hopen : w.handed.closed = false)
    (hleft : w.bytes ++ b :: data = t.records.flatten) :
    let next := w.poll firstSlot (pollReads (deliver (b :: data)) firstSlot s,
      (rtspServerPoll prim (deliver (b :: data)) s).log)
    next.bytes <+: t.records.flatten ∧
      (next.handed.closed = true ∨ w.bytes.length < next.bytes.length) := by
  intro next
  cases h with
  | refused hclosed hfits => exact absurd (hopen.symm.trans hclosed) Bool.false_ne_true
  | collecting front todo rest gone h =>
      have hpolled : isPolled (deliver (b :: data)) firstSlot s = true := by
        rw [isPolled, hlistens, Bool.true_and]
        show (true && (s.clients firstSlot).socket.isOpen) = true
        rw [h.paired.opened]
        rfl
      obtain ⟨hfront, hsome⟩ := h.reads_data haead
        (rtspRxBufferSize - (s.rx firstSlot).length) b data
      have hreads : pollReads (deliver (b :: data)) firstSlot s = clientReads (s.clients firstSlot)
          (rtspRxBufferSize - (s.rx firstSlot).length) (.data (b :: data)) := by
        rw [pollReads, if_pos hpolled]
        rfl
      have hbytes : next.bytes = w.bytes ++ pollReads (deliver (b :: data)) firstSlot s := by
        show (if w.handed.closed then _ else _) = _
        rw [hopen, if_neg Bool.false_ne_true]
      rw [hbytes, hreads, ← hleft]
      refine ⟨(List.prefix_append_right_inj _).mpr hfront, ?_⟩
      rcases hsome with hrefuses | hmore
      · -- the record is refused, which closes the connection
        left
        rcases rtspServerPoll_slot prim (deliver (b :: data)) s firstSlot h.paired.opened with
          hquiet | ⟨server, hserver⟩
        · exact absurd (hquiet.skipped.symm.trans hpolled) Bool.false_ne_true
        · obtain ⟨socket, hclient⟩ := hserver.client
          show ((rtspServerPoll prim (deliver (b :: data)) s).log.foldl (handedStep firstSlot)
            w.handed).closed = true
          rw [hserver.log]
          apply refuses_closes _ hopen
          · rw [hclient, hserver.rx]
            exact hrefuses
          · rw [hclient]
            exact h.paired.encrypted
      · -- at least one more byte is read
        right
        rw [List.length_append]
        exact Nat.lt_add_of_pos_right (List.length_pos_iff.mpr hmore)

/-- **Every transfer can be delivered**, in the first slot of a listening server. -/
theorem deliverable (haead : CorrectAead prim.aead)
    (t : SealedRequests prim.aead (s.clients firstSlot))
    (hidle : Idle (s.clients firstSlot) (s.rx firstSlot)) (hlistens : s.listener.isOpen = true) :
    ∃ polls : List PollIo, (∀ io ∈ polls, Delivers firstSlot io) ∧
      ReadsAll (wire prim firstSlot s polls) t.records.flatten := by
  -- by induction on the number of bytes that are still to be read
  have hrun : ∀ (left : ℕ) (server : RtspServer) (w : Wire),
      t.Carried (server.clients firstSlot) (server.rx firstSlot) w →
      server.listener.isOpen = true → w.bytes <+: t.records.flatten →
      t.records.flatten.length ≤ w.bytes.length + left →
      ∃ polls : List PollIo, (∀ io ∈ polls, Delivers firstSlot io) ∧
        ReadsAll (((wiredMachine prim firstSlot).run server polls).2.foldl (Wire.poll firstSlot) w)
          t.records.flatten := by
    intro left
    induction left with
    | zero =>
        intro server w _ _ hstart hleft
        refine ⟨[], fun io hio => absurd hio List.not_mem_nil, hstart, fun _ => ?_⟩
        exact hstart.eq_of_length_le hleft
    | succ left ih =>
        intro server w hcarried hopened hstart hleft
        obtain ⟨tail, htail⟩ := hstart
        have hdone : w.handed.closed = true ∨ tail = [] →
            ReadsAll w t.records.flatten := by
          rintro (hclosed | rfl)
          · exact ⟨⟨tail, htail⟩, fun hopen => absurd (hopen.symm.trans hclosed) Bool.false_ne_true⟩
          · rw [List.append_nil] at htail
            exact ⟨⟨[], by rw [List.append_nil]; exact htail⟩, fun _ => htail⟩
        cases hopen : w.handed.closed with
        | true => exact ⟨[], fun io hio => absurd hio List.not_mem_nil, hdone (Or.inl hopen)⟩
        | false =>
            cases tail with
            | nil => exact ⟨[], fun io hio => absurd hio List.not_mem_nil, hdone (Or.inr rfl)⟩
            | cons b data =>
                have hdelivers := deliver_delivers b data
                obtain ⟨hbytes, hprogress⟩ := hcarried.offer haead hopened hopen htail
                have hnext := hcarried.poll haead hdelivers hbytes
                generalize hpolled : w.poll firstSlot (pollReads (deliver (b :: data)) firstSlot
                  server, (rtspServerPoll prim (deliver (b :: data)) server).log) = next
                  at hbytes hprogress hnext
                have hlistening : (rtspServerPoll prim (deliver (b :: data))
                    server).server.listener.isOpen = true := by
                  rw [rtspServerPoll_listener]
                  exact hopened
                have hrest : ∃ polls : List PollIo, (∀ io ∈ polls, Delivers firstSlot io) ∧
                    ReadsAll (((wiredMachine prim firstSlot).run
                      (rtspServerPoll prim (deliver (b :: data)) server).server
                      polls).2.foldl (Wire.poll firstSlot) next) t.records.flatten := by
                  rcases hprogress with hclosed | hmore
                  · exact ⟨[], fun io hio => absurd hio List.not_mem_nil, hbytes,
                      fun hfalse => absurd (hfalse.symm.trans hclosed) Bool.false_ne_true⟩
                  · exact ih _ next hnext hlistening hbytes (by omega)
                obtain ⟨polls, hpolls, hreads⟩ := hrest
                refine ⟨deliver (b :: data) :: polls, ?_, ?_⟩
                · exact List.forall_mem_cons.mpr ⟨hdelivers, hpolls⟩
                · rw [← hpolled] at hreads
                  exact hreads
  have hstart : ([] : List UInt8) <+: t.records.flatten := List.nil_prefix
  exact hrun t.records.flatten.length s ⟨[], Handed.start⟩ (carried_start haead t hidle) hlistens
    hstart (by simp)

end Delivery

end SealedRequests

/-! ## Main result -/

/-- **The encrypted and the plaintext control path agree** exactly if the records fit.
Whole requests are sent to a paired connection in sealed records, and what the network
does is only to cut the stream of records anywhere. Then the connection hands over these
requests with their bytes, in order, and is not closed, if and only if each record fits in
the room that the request before it leaves; a connection in the clear hands them over in
any case. -/
theorem sealed_requests_agree (prim : Primitives) (haead : CorrectAead prim.aead) {i : Slot}
    {s : RtspServer} (hidle : SealedRequests.Idle (s.clients i) (s.rx i))
    (t : SealedRequests prim.aead (s.clients i)) (polls : List PollIo)
    (hdelivers : ∀ io ∈ polls, Delivers i io)
    (hreads : ReadsAll (wire prim i s polls) t.records.flatten) :
    let o := handed i (rtspLog prim s polls)
    (o.parts = t.parts ∧ o.closed = false ↔ t.Fits) ∧
      ∀ {j : Slot} {s' : RtspServer} {polls' : List PollIo}, PlainRun prim j s' polls' →
        Consumes (observe j (rtspLog prim s' polls')) (t.parts.map Prod.snd).flatten →
        let o' := handed j (rtspLog prim s' polls')
        o'.parts = t.parts ∧ o'.closed = false := by
  intro o
  obtain ⟨client, rx, hcarried⟩ :=
    SealedRequests.carried_run haead t hidle polls hdelivers hreads.start
  have hconserved : Conserved i (rtspAfter prim s polls) o :=
    rtspLog_conserved prim hidle.paired.opened hidle.empty polls
  have hwire : (wire prim i s polls).handed = o := wire_handed prim i s polls
  refine ⟨?_, fun hplain hconsumes => ?_⟩
  · -- a record was refused, or all of them were collected
    cases hcarried with
    | refused hclosed hfits =>
        rw [hwire] at hclosed
        constructor
        · rintro ⟨-, hopen⟩
          exact absurd (hopen.symm.trans hclosed) Bool.false_ne_true
        · exact fun hfit => absurd hfit hfits
    | collecting front todo rest gone h =>
        have hfront : front = t.pieces := h.finished (hreads.all h.live)
        have hfits := h.fits
        have hrequests := h.requests
        have hgiven := h.given
        have hlive := h.live
        rw [hfront] at hfits hrequests hgiven
        rw [hwire] at hrequests hgiven hlive
        refine ⟨fun _ => hfits, fun _ => ⟨?_, hlive⟩⟩
        apply hconserved.parts_eq t.whole
        · have hwhole := hgiven.trans t.cut
          exact hwhole ▸ List.prefix_rfl
        · rw [hrequests, t.frames]
  · intro o'
    have hhanded := plainRun_handed hplain t.whole t.sizes hconsumes
    exact ⟨congrArg Handed.parts hhanded, congrArg Handed.closed hhanded⟩

/-! ## A request in two records -/

/-- The cipher on some recorded calls. Others are given back as they are. -/
def recordedAead (calls : List Encryption) : Aead where
  encryptAndTag query :=
    match calls.find? fun e => e.query = query with
    | some e => some (e.cipher, e.tag)
    | none => some (query.input, List.replicate 16 0)
  authDecrypt query tag :=
    match calls.find? fun e => { e.query with input := e.cipher } = query ∧ e.tag = tag with
    | some e => some e.query.input
    | none => some query.input

/-- Calls that one cipher could have answered: the lengths are right, no tag is the zero one, and a
tag belongs to one plaintext. -/
def RecordedCalls (calls : List Encryption) : Prop :=
  (∀ e ∈ calls, e.cipher.length = e.query.input.length ∧ e.tag.length = 16 ∧
    e.tag ≠ List.replicate 16 0) ∧
  ∀ e ∈ calls, ∀ e' ∈ calls, e.tag = e'.tag → e.query.input = e'.query.input

theorem recordedAead_correct {calls : List Encryption} (h : RecordedCalls calls) :
    CorrectAead (recordedAead calls) where
  total query := by
    rw [recordedAead]
    dsimp only
    split
    · exact Option.some_ne_none _
    · exact Option.some_ne_none _
  sizes query cipher tag hcipher := by
    rw [recordedAead] at hcipher
    dsimp only at hcipher
    split at hcipher
    · rename_i e hfound
      have hquery : e.query = query := by simpa using List.find?_some hfound
      obtain ⟨hsize, htag, -⟩ := h.1 e (List.mem_of_find?_eq_some hfound)
      rw [Option.some.injEq, Prod.mk.injEq] at hcipher
      rw [← hcipher.1, ← hcipher.2, ← hquery]
      exact ⟨hsize, htag⟩
    · rw [Option.some.injEq, Prod.mk.injEq] at hcipher
      rw [← hcipher.1, ← hcipher.2]
      exact ⟨rfl, List.length_replicate⟩
  opens query cipher tag hcipher := by
    rw [recordedAead] at hcipher ⊢
    dsimp only at hcipher ⊢
    split at hcipher
    · rename_i e hfound
      have hmem := List.mem_of_find?_eq_some hfound
      have hquery : e.query = query := by simpa using List.find?_some hfound
      rw [Option.some.injEq, Prod.mk.injEq] at hcipher
      obtain ⟨rfl, rfl⟩ := hcipher
      split
      · rename_i e' hfound'
        have hsame := List.find?_some hfound'
        rw [decide_eq_true_eq] at hsame
        rw [h.2 e' (List.mem_of_find?_eq_some hfound') e hmem hsame.2, hquery]
      · rename_i hnone
        rw [List.find?_eq_none] at hnone
        exact absurd (by simp [hquery]) (hnone e hmem)
    · rw [Option.some.injEq, Prod.mk.injEq] at hcipher
      obtain ⟨rfl, rfl⟩ := hcipher
      split
      · -- no recorded tag is the one of the other calls
        rename_i e hfound
        have hsame := List.find?_some hfound
        rw [decide_eq_true_eq] at hsame
        exact absurd hsame.2 (h.1 e (List.mem_of_find?_eq_some hfound)).2.2
      · rfl

/-- The pieces of `PLAY * RTSP/1.0` and the answer, sealed with ChaCha20-Poly1305 under the
keys `00..1f` and `20..3f`. -/
def playCalls : List Encryption :=
  [⟨⟨(List.range 32).map UInt8.ofNat, nonceBytes 0, recordHeader 9, ascii "PLAY * RT"⟩,
      [0x48, 0xf4, 0x03, 0x68, 0x8d, 0xcc, 0x86, 0x83, 0x47],
      [0x11, 0x20, 0x3a, 0x5a, 0x04, 0xfc, 0x3b, 0x2e, 0xbf, 0xa0, 0x8c, 0x6f, 0x98, 0x52, 0xc4,
        0xad]⟩,
    ⟨⟨(List.range 32).map UInt8.ofNat, nonceBytes 1, recordHeader 10,
        ascii "SP/1.0\r\n\r\n"⟩,
      [0xcc, 0x07, 0xdc, 0x6e, 0x9b, 0x1a, 0xa2, 0x12, 0x24, 0xbc],
      [0x89, 0x42, 0x6d, 0x51, 0x8f, 0x4b, 0xb4, 0x27, 0x33, 0x4f, 0x81, 0x6a, 0xd5, 0x6b, 0xfe,
        0xf6]⟩,
    ⟨⟨(List.range' 32 32).map UInt8.ofNat, nonceBytes 0, recordHeader 53,
        ascii "RTSP/1.0 200 OK\r\nCSeq: 0\r\nServer: AirTunes/130.14\r\n\r\n"⟩,
      [0xd2, 0x37, 0x0c, 0x8c, 0x3c, 0xb9, 0xf9, 0x2d, 0xba, 0x1a, 0xc9, 0xd1, 0xc5, 0xc6, 0x05,
        0x10, 0xcc, 0x2a, 0xe8, 0xab, 0x5c, 0x75, 0x9a, 0xe9, 0xc8, 0xba, 0x90, 0x4c, 0x33, 0xc3,
        0xd6, 0x64, 0xf4, 0x4c, 0xd6, 0xb0, 0x0d, 0x45, 0x99, 0xad, 0xa6, 0xda, 0x68, 0x9f, 0x03,
        0x15, 0x8c, 0x00, 0x75, 0x9f, 0xb1, 0xe4, 0xa9],
      [0x2c, 0x3a, 0xd5, 0xc0, 0x71, 0x0a, 0x0e, 0x2e, 0x4b, 0xc5, 0x03, 0x58, 0xcd, 0xf9, 0x0f,
        0xab]⟩]

/-- Primitives with this cipher. -/
def playPrimitives : Primitives := { idlePrimitives with aead := recordedAead playCalls }

/-- A server that has just paired the client in its first slot. -/
def pairedServer : RtspServer :=
  acceptedServer.setClient firstSlot
    { acceptedServer.clients firstSlot with
      encrypted := true
      pairing :=
        { pairingClose with
          established := true
          readKey := (List.range 32).map UInt8.ofNat
          writeKey := (List.range' 32 32).map UInt8.ofNat } }

theorem pairedServer_idle :
    SealedRequests.Idle (pairedServer.clients firstSlot) (pairedServer.rx firstSlot) :=
  ⟨⟨rfl, rfl, rfl⟩, rfl, rfl⟩

/-- The request in two records. -/
def playTransfer : SealedRequests playPrimitives.aead (pairedServer.clients firstSlot) where
  parts :=
    [({ RtspRequest.zero with method := .play, uri := ascii "*", version := ascii "RTSP/1.0" },
      ascii "PLAY * RTSP/1.0\r\n\r\n")]
  pieces := [ascii "PLAY * RT", ascii "SP/1.0\r\n\r\n"]
  records := (playCalls.take 2).map fun e => e.query.associated ++ e.cipher ++ e.tag
  whole part hpart := by
    rw [List.mem_singleton.mp hpart]
    rfl
  sizes := by decide +kernel
  within := by
    simp only [IsPiece]
    decide +kernel
  cut := by decide +kernel
  sealed := by decide +kernel
  answers := by decide +kernel

/-- The first record comes in three reads. -/
def playReads : List PollIo :=
  [deliver (playTransfer.records.flatten.take 1), deliver (playTransfer.records.flatten.drop 1),
    deliver (playTransfer.records.flatten.drop 2), deliver (playTransfer.records.flatten.drop 27),
    deliver (playTransfer.records.flatten.drop 29)]

theorem sealed_requests_play :
    let o := handed firstSlot (rtspLog playPrimitives pairedServer playReads)
    o.parts = playTransfer.parts ∧ o.closed = false ↔ playTransfer.Fits :=
  have hcalls : RecordedCalls playCalls := by
    simp only [RecordedCalls]
    decide +kernel
  (sealed_requests_agree playPrimitives (recordedAead_correct hcalls) pairedServer_idle
    playTransfer playReads
    (by
      intro io hio
      simp only [playReads, List.mem_cons, List.not_mem_nil, or_false] at hio
      rcases hio with rfl | rfl | rfl | rfl | rfl
      · exact deliver_delivers _ _
      · exact deliver_delivers _ _
      · exact deliver_delivers _ _
      · exact deliver_delivers _ _
      · exact deliver_delivers _ _)
    ⟨by decide +kernel, fun _ => by decide +kernel⟩).1

/-! ## A record that does not fit -/

/-- The head of a request that fills the receive buffer. -/
def longHead : List UInt8 := ascii "PLAY * RTSP/1.0\r\nContent-Length: 262101\r\n\r\n"

/-- The request. -/
def longBytes : List UInt8 := longHead ++ List.replicate 262101 0

/-- The request as it is parsed. -/
def longRequest : RtspRequest :=
  { RtspRequest.zero with
    method := .play
    uri := ascii "*"
    version := ascii "RTSP/1.0"
    headers := [⟨ascii "Content-Length", ascii "262101"⟩]
    body := List.replicate 262101 0 }

theorem longBytes_length : longBytes.length = rtspRxBufferSize := by
  rw [longBytes, List.length_append, List.length_replicate]
  rfl

theorem longBytes_whole : parseRequest longBytes = .accept longRequest longBytes.length := by
  have hlength : longHead.length = 43 := rfl
  have hend : headersEnd longHead = some 43 := by decide +kernel
  have hhead : parseHead longHead = some
      ⟨{ longRequest with body := [] }, 262101, false, true⟩ := by decide +kernel
  apply parseRequest_eq_accept.mpr
  refine ⟨43, ⟨{ longRequest with body := [] }, 262101, false, true⟩, headersEnd_append hend _, ?_,
    ?_, ?_, ?_, ?_⟩
  · rw [longBytes, List.take_left' hlength]
    exact hhead
  · decide
  · rw [longBytes_length]
    decide
  · rw [longBytes, List.drop_left' hlength, List.take_of_length_le]
    · rfl
    · rw [List.length_replicate]
      decide
  · rw [longBytes_length]
    rfl

/-- Two requests that fill the receive buffer, cut so that a record holds the end of the
first and the start of the second. -/
def overrunPieces (bytes : List UInt8) : List (List UInt8) :=
  recordChunks (rtspRxBufferSize + 1) ((bytes ++ bytes).take 262000) ++
    ((bytes ++ bytes).drop 262000).take pairRecordMax ::
      recordChunks (2 * rtspRxBufferSize + 1) ((bytes ++ bytes).drop (262000 + pairRecordMax))

section Overrun

variable {bytes : List UInt8} (hlength : bytes.length = rtspRxBufferSize)

include hlength

theorem overrun_length : (bytes ++ bytes).length = 524288 ∧
    ((bytes ++ bytes).take 262000).length = 262000 := by
  have hsize : (bytes ++ bytes).length = 524288 := by
    rw [List.length_append, hlength]
    rfl
  refine ⟨hsize, ?_⟩
  rw [List.length_take, hsize]
  rfl

theorem overrunPieces_cut : (overrunPieces bytes).flatten = bytes ++ bytes ∧
    (∀ piece ∈ overrunPieces bytes, IsPiece piece) ∧ (overrunPieces bytes).length ≤ 1024 := by
  obtain ⟨hsize, hfront⟩ := overrun_length hlength
  have hlater : ((bytes ++ bytes).drop (262000 + pairRecordMax)).length = 261264 := by
    rw [List.length_drop, hsize]
    rfl
  obtain ⟨hflatten, hpieces⟩ := recordChunks_pieces (rtspRxBufferSize + 1)
    ((bytes ++ bytes).take 262000) (by rw [hfront]; decide)
  obtain ⟨hflatten', hpieces'⟩ := recordChunks_pieces (2 * rtspRxBufferSize + 1)
    ((bytes ++ bytes).drop (262000 + pairRecordMax)) (by rw [hlater]; decide)
  have hcount := recordChunks_length (rtspRxBufferSize + 1) 256
    ((bytes ++ bytes).take 262000) (by rw [hfront]; decide)
  have hcount' := recordChunks_length (2 * rtspRxBufferSize + 1) 256
    ((bytes ++ bytes).drop (262000 + pairRecordMax)) (by rw [hlater]; decide)
  refine ⟨?_, ?_, ?_⟩
  · rw [overrunPieces, List.flatten_append, List.flatten_cons, hflatten, hflatten',
      ← List.drop_drop, List.take_append_drop, List.take_append_drop]
  · intro piece hpiece
    rcases List.mem_append.mp hpiece with hbefore | hpiece
    · exact hpieces piece hbefore
    · rcases List.mem_cons.mp hpiece with rfl | hafter
      · constructor
        · rw [ne_eq, ← List.length_eq_zero_iff, List.length_take, List.length_drop, hsize]
          decide
        · exact List.length_take_le _ _
      · exact hpieces' piece hafter
  · rw [overrunPieces, List.length_append, List.length_cons]
    omega

theorem overrunPieces_unfit : ¬ RecordsFit [bytes, bytes] 0 (overrunPieces bytes) := by
  obtain ⟨hsize, hfront⟩ := overrun_length hlength
  obtain ⟨hflatten, -⟩ := recordChunks_pieces (rtspRxBufferSize + 1)
    ((bytes ++ bytes).take 262000) (by rw [hfront]; decide)
  have hpiece : (((bytes ++ bytes).drop 262000).take pairRecordMax).length = 1024 := by
    rw [List.length_take, List.length_drop, hsize]
    rfl
  have hwaits : ¬ bytes.length ≤ 262000 := by
    rw [hlength]
    decide
  intro hfits
  rw [overrunPieces, recordsFit_append, RecordsFit, hflatten, hfront, hpiece, Nat.zero_add,
    Framing.unfinished, if_neg hwaits] at hfits
  exact absurd hfits.2.1 (by decide)

/-- The records are sealed and delivered, and the connection is closed. -/
theorem overrun_closed {prim : Primitives} (haead : CorrectAead prim.aead)
    {request : RtspRequest} (hwhole : parseRequest bytes = .accept request bytes.length) :
    ∃ (t : SealedRequests prim.aead (pairedServer.clients firstSlot)) (polls : List PollIo),
      (∀ io ∈ polls, Delivers firstSlot io) ∧
      ReadsAll (wire prim firstSlot pairedServer polls) t.records.flatten ∧
      (handed firstSlot (rtspLog prim pairedServer polls)).closed = true := by
  obtain ⟨hcut, hpieces, hcount⟩ := overrunPieces_cut hlength
  have hunfit := overrunPieces_unfit hlength
  obtain ⟨records, hrecords⟩ : ∃ records, sealPieces prim.aead
      (pairedServer.clients firstSlot).pairing.readKey
      (pairedServer.clients firstSlot).pairing.readCounter (overrunPieces bytes) =
        some records := by
    cases hsealed : sealPieces prim.aead (pairedServer.clients firstSlot).pairing.readKey
        (pairedServer.clients firstSlot).pairing.readCounter (overrunPieces bytes) with
    | some records => exact ⟨records, rfl⟩
    | none =>
        rcases sealPieces_none prim.aead _ _ _ hsealed with ⟨query, -, hnone⟩ | hend
        · exact absurd hnone (haead.total query)
        · have hzero : (pairedServer.clients firstSlot).pairing.readCounter.toNat = 0 := rfl
          omega
  have hparts : ∀ part ∈ [(request, bytes), (request, bytes)], part = (request, bytes) := by
    intro part hpart
    simpa using hpart
  -- the same request twice, in records that do not end with the first
  let t : SealedRequests prim.aead (pairedServer.clients firstSlot) :=
    { parts := [(request, bytes), (request, bytes)]
      pieces := overrunPieces bytes
      records := records
      whole := fun part hpart => by rw [hparts part hpart]; exact hwhole
      sizes := fun part hpart => by rw [hparts part hpart, hlength]
      within := hpieces
      cut := by rw [hcut]; simp
      sealed := hrecords
      answers := by
        show 0 + answerRecords * 2 < 2 ^ 64
        decide }
  obtain ⟨polls, hdelivers, hreads⟩ := SealedRequests.deliverable haead t pairedServer_idle rfl
  refine ⟨t, polls, hdelivers, hreads, ?_⟩
  obtain ⟨client, rx, hcarried⟩ :=
    SealedRequests.carried_run haead t pairedServer_idle polls hdelivers hreads.start
  rw [← wire_handed]
  cases hcarried with
  | refused hclosed hfits => exact hclosed
  | collecting front todo rest gone h =>
      have hfits := h.fits
      rw [h.finished (hreads.all h.live)] at hfits
      exact absurd hfits hunfit

end Overrun

/-- **A record that runs over the end of a long request is refused.** Whatever the cipher
is, these two requests do not come through. -/
theorem sealed_requests_overrun :
    ¬ ∃ prim : Primitives, CorrectAead prim.aead ∧
      ∀ (t : SealedRequests prim.aead (pairedServer.clients firstSlot)) (polls : List PollIo),
        (∀ io ∈ polls, Delivers firstSlot io) →
        ReadsAll (wire prim firstSlot pairedServer polls) t.records.flatten →
        (handed firstSlot (rtspLog prim pairedServer polls)).parts = t.parts ∧
          (handed firstSlot (rtspLog prim pairedServer polls)).closed = false := by
  rintro ⟨prim, haead, hclaim⟩
  obtain ⟨t, polls, hdelivers, hreads, hclosed⟩ :=
    overrun_closed longBytes_length haead longBytes_whole
  have hopen := (hclaim t polls hdelivers hreads).2
  exact absurd (hopen.symm.trans hclosed) Bool.false_ne_true

end PortableAirplay.Protocol
