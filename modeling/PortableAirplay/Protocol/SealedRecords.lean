import PortableAirplay.Protocol.Wire

/-!
# Sealed records

How a paired connection is read and served. `receive_client` collects a record over
several reads and opens it into the room that the receive buffer has left
(`receiveClient_sealed`), and the requests in the buffer are answered in records of their
own (`requestLoop_served`).
-/

set_option autoImplicit false

namespace PortableAirplay.Protocol

open PortableAirplay.Airplay
open PortableAirplay.Library
open PortableAirplay.Platform

/-! ## Records -/

/-- ChaCha20-Poly1305: encryption always succeeds, gives a ciphertext of the length of the
plaintext with a tag of 16 bytes, and decryption undoes it. -/
structure CorrectAead (aead : Aead) : Prop where
  total : ∀ query, aead.encryptAndTag query ≠ none
  sizes : ∀ query cipher tag, aead.encryptAndTag query = some (cipher, tag) →
    cipher.length = query.input.length ∧ tag.length = 16
  opens : ∀ query cipher tag, aead.encryptAndTag query = some (cipher, tag) →
    aead.authDecrypt { query with input := cipher } tag = some query.input

theorem recordLength_header {n : ℕ} (hn : n ≤ pairRecordMax) (rest : List UInt8) :
    recordLength (recordHeader n ++ rest) = n := by
  have hlow : (UInt8.ofNat n).toNat = n % 256 := UInt8.toNat_ofNat'
  have hhigh : (UInt8.ofNat (n >>> 8)).toNat = n >>> 8 % 256 := UInt8.toNat_ofNat'
  show (UInt8.ofNat n).toNat ||| (UInt8.ofNat (n >>> 8)).toNat <<< 8 = n
  have hsum : n >>> 8 % 256 * 2 ^ 8 ||| n % 256 = n >>> 8 % 256 * 2 ^ 8 + n % 256 :=
    or_eq_add (Nat.mod_lt n (by decide))
  rw [hlow, hhigh, Nat.or_comm, Nat.shiftLeft_eq, hsum, Nat.shiftRight_eq_div_pow]
  rw [pairRecordMax] at hn
  omega

/-- The first two bytes say the length. -/
theorem recordLength_start {part record : List UInt8} (hpart : part <+: record)
    (hlength : 2 ≤ part.length) : recordLength part = recordLength record := by
  obtain ⟨rest, rfl⟩ := hpart
  rw [recordLength, recordLength, List.getD_append _ _ _ _ (by omega),
    List.getD_append _ _ _ _ (by omega)]

/-- What has been collected of the next record. -/
def Collected (part : List UInt8) : List (List UInt8) → Prop
  | [] => part = []
  | record :: _ => part <+: record ∧ part.length < record.length

/-- A record of a piece. -/
structure IsRecord (aead : Aead) (key : List UInt8) (counter : UInt64) (piece record : List UInt8) :
    Prop where
  fresh : counter ≠ 0xffffffffffffffff
  sealed : ∃ cipher tag, aead.encryptAndTag ⟨key, nonceBytes counter, recordHeader piece.length,
    piece⟩ = some (cipher, tag) ∧ record = recordHeader piece.length ++ cipher ++ tag

section Records

variable {aead : Aead} {key : List UInt8} {counter : UInt64} {piece record : List UInt8}

/-- The records of some pieces are the records of the first and of the others. -/
theorem sealPieces_cons {todo records : List (List UInt8)}
    (h : sealPieces aead key counter (piece :: todo) = some records) :
    ∃ record rest, records = record :: rest ∧ IsRecord aead key counter piece record ∧
      sealPieces aead key (counter + 1) todo = some rest := by
  rw [sealPieces] at h
  by_cases hmax : counter = 0xffffffffffffffff
  · rw [if_pos hmax] at h
    contradiction
  · rw [if_neg hmax] at h
    cases hcipher : aead.encryptAndTag
        ⟨key, nonceBytes counter, recordHeader piece.length, piece⟩ with
    | none =>
        rw [hcipher] at h
        contradiction
    | some out =>
        rw [hcipher] at h
        obtain ⟨rest, hrest, hrecords⟩ := Option.map_eq_some_iff.mp h
        exact ⟨_, rest, hrecords.symm, ⟨hmax, out.1, out.2, hcipher, rfl⟩, hrest⟩

theorem IsRecord.length (h : IsRecord aead key counter piece record) (haead : CorrectAead aead) :
    record.length = piece.length + 18 := by
  obtain ⟨cipher, tag, hcipher, rfl⟩ := h.sealed
  have hsize : cipher.length = piece.length := (haead.sizes _ _ _ hcipher).1
  have htag := (haead.sizes _ _ _ hcipher).2
  have hheader : (recordHeader piece.length).length = 2 := rfl
  rw [List.length_append, List.length_append, hheader, hsize, htag]
  omega

theorem IsRecord.recordLength (h : IsRecord aead key counter piece record)
    (hpiece : IsPiece piece) : Airplay.recordLength record = piece.length := by
  obtain ⟨cipher, tag, hcipher, rfl⟩ := h.sealed
  rw [List.append_assoc]
  exact recordLength_header hpiece.2 _

/-- Nothing of the records is collected yet. -/
theorem collected_nil {todo records : List (List UInt8)} (haead : CorrectAead aead)
    (h : sealPieces aead key counter todo = some records) : Collected [] records := by
  cases todo with
  | nil =>
      rw [sealPieces, Option.some.injEq] at h
      rw [← h]
      rfl
  | cons piece later =>
      obtain ⟨record, rest, rfl, hrecord, -⟩ := sealPieces_cons h
      refine ⟨List.nil_prefix, ?_⟩
      rw [hrecord.length haead]
      exact Nat.succ_pos _

/-- **A sealed piece is opened** by who holds the key and has come to its counter. -/
theorem pairingOpen_sealed {p : Pairing} (h : IsRecord aead p.readKey p.readCounter piece record)
    (haead : CorrectAead aead) (hpiece : IsPiece piece) (hready : p.established = true) :
    pairingOpen aead p record = ({ p with readCounter := p.readCounter + 1 }, some piece) := by
  have hlength := h.length haead
  have hrecord := h.recordLength hpiece
  have hpos : 0 < piece.length := List.length_pos_iff.mpr hpiece.1
  have hmax : piece.length ≤ pairRecordMax := hpiece.2
  have hguard : (!p.established || decide (record.length < 18) ||
      decide (p.readCounter = 0xffffffffffffffff)) = false := by
    rw [hready, decide_eq_false h.fresh, decide_eq_false (by omega)]
    rfl
  obtain ⟨cipher, tag, hcipher, hbytes⟩ := h.sealed
  have hsize : cipher.length = piece.length := (haead.sizes _ _ _ hcipher).1
  have hsplit : record.take 2 = recordHeader piece.length ∧
      (record.drop 2).take piece.length = cipher ∧ record.drop (2 + piece.length) = tag := by
    have hheader : (recordHeader piece.length).length = 2 := rfl
    have hdrop : record.drop 2 = cipher ++ tag := by
      rw [hbytes, List.append_assoc, List.drop_left' hheader]
    refine ⟨?_, ?_, ?_⟩
    · rw [hbytes, List.append_assoc, List.take_left' hheader]
    · rw [hdrop, List.take_left' hsize]
    · rw [← List.drop_drop, hdrop, List.drop_left' hsize]
  have hquery : openQuery p record = some (⟨p.readKey, nonceBytes p.readCounter,
      recordHeader piece.length, cipher⟩, tag) := by
    rw [openQuery, hguard, if_neg Bool.false_ne_true]
    dsimp only
    rw [hrecord, if_neg (by omega), hsplit.1, hsplit.2.1, hsplit.2.2]
  rw [pairingOpen, hquery]
  dsimp only
  rw [haead.opens _ _ _ hcipher]

end Records

/-! ## Requests of a paired client -/

/-- An open connection that was paired. -/
structure PairedClient (client : RtspClient) : Prop where
  opened : client.socket.isOpen = true
  encrypted : client.encrypted = true
  established : client.pairing.established = true

/-- A paired client after so many requests were answered. -/
structure Served (before after : RtspClient) (count : ℕ) : Prop where
  paired : PairedClient after
  record : after.record = before.record
  readKey : after.pairing.readKey = before.pairing.readKey
  readCounter : after.pairing.readCounter = before.pairing.readCounter
  written : after.pairing.writeCounter.toNat ≤
    before.pairing.writeCounter.toNat + answerRecords * count

theorem Served.refl {client : RtspClient} (h : PairedClient client) : Served client client 0 :=
  ⟨h, rfl, rfl, rfl, Nat.le_add_right _ _⟩

theorem Served.trans {a b c : RtspClient} {m n : ℕ} (hab : Served a b m) (hbc : Served b c n) :
    Served a c (m + n) where
  paired := hbc.paired
  record := hbc.record.trans hab.record
  readKey := hbc.readKey.trans hab.readKey
  readCounter := hbc.readCounter.trans hab.readCounter
  written := by
    have hfirst := hab.written
    have hsecond := hbc.written
    rw [Nat.mul_add]
    omega

section Requests

variable {prim : Primitives} {io : RequestIo} {s : RtspServer} {i : Slot} (request : RtspRequest)

/-- The counter of a client after some records were sealed. -/
theorem sealed_written (client : RtspClient) (count : ℕ) :
    (client.sealed count).pairing.writeCounter.toNat ≤
      client.pairing.writeCounter.toNat + count := by
  show (client.pairing.writeCounter + UInt64.ofNat count).toNat ≤ _
  rw [UInt64.toNat_add]
  apply (Nat.mod_le _ _).trans
  apply Nat.add_le_add_left
  rw [UInt64.toNat_ofNat']
  exact Nat.mod_le _ _

/-- An answer to a paired client is sealed: it moves the write counter only. -/
theorem Answered.sealed {a : Answer} (h : Answered s i request a)
    (hpaired : PairedClient (s.clients i)) (hsends : io.Sends) (haead : CorrectAead prim.aead)
    (hroom : (s.clients i).pairing.writeCounter.toNat + answerRecords < 2 ^ 64) :
    (a.send prim io i request).ok = true ∧ ∃ count ≤ answerRecords,
      ((a.send prim io i request).server.clients i).pairing =
        ((s.clients i).sealed count).pairing := by
  have hpairing := h.pairing hpaired.established
  have hencrypted := h.encrypted.trans hpaired.encrypted
  have hcan : CanAnswer io (a.server.clients i) := by
    refine ⟨h.socket ▸ hpaired.opened, fun _ => ?_, hsends⟩
    rw [hpairing]
    exact hpaired.established
  have hdelivery := rtspSendResponse_delivery prim hcan a.code a.text request.cseq a.headers a.body
    h.status.2.1 h.fits.1 h.fits.2
  rw [Answer.send, respond]
  dsimp only
  rw [setClient_same]
  generalize rtspSendResponse prim io (a.server.clients i) a.code a.text request.cseq a.headers
    a.body = r at hdelivery ⊢
  -- a paired connection answers in records, and none of them can fail
  cases hdelivery with
  | plain after hplain hbytes => exact absurd (hplain.symm.trans hencrypted) Bool.false_ne_true
  | sealed pieces records _ hbytes hpieces hcount hseals =>
      refine ⟨rfl, pieces.length, hcount, ?_⟩
      rw [RtspClient.sealed, RtspClient.sealed, hpairing]
  | failed _ hfails hunsealable =>
      exfalso
      rcases hunsealable.2 with ⟨query, -, hnone⟩ | hend
      · exact haead.total query hnone
      · rw [hpairing] at hend
        omega

/-- **A request of a paired client is answered**, and the client stays paired. -/
theorem handleRequest_served (hpaired : PairedClient (s.clients i)) (hsends : io.Sends)
    (haead : CorrectAead prim.aead)
    (hroom : (s.clients i).pairing.writeCounter.toNat + answerRecords < 2 ^ 64) :
    (handleRequest prim io s i request).ok = true ∧
      Served (s.clients i) ((handleRequest prim io s i request).server.clients i) 1 := by
  have hstep := (handleRequest_effect prim io s i request).client
  have hhandled := handleRequest_handled prim io s i request
  have hversion : PairedClient ((withVersion s i request).clients i) := by
    rw [withVersion, setClient_same]
    exact ⟨hpaired.opened, hpaired.encrypted, hpaired.established⟩
  have hsame : ((withVersion s i request).clients i).pairing = (s.clients i).pairing := by
    rw [withVersion, setClient_same]
  have hroom' : ((withVersion s i request).clients i).pairing.writeCounter.toNat +
      answerRecords < 2 ^ 64 := by
    rw [hsame]
    exact hroom
  have hanswer : (handleRequest prim io s i request).ok = true ∧ ∃ count ≤ answerRecords,
      ((handleRequest prim io s i request).server.clients i).pairing =
        ((s.clients i).sealed count).pairing := by
    generalize handleRequest prim io s i request = r at hhandled ⊢
    -- the answer to the pairing itself is sealed before the encryption starts
    cases hhandled with
    | sent a h =>
        obtain ⟨hok, count, hcount, hpairing⟩ := h.sealed request hversion hsends haead hroom'
        refine ⟨hok, count, hcount, hpairing.trans ?_⟩
        rw [RtspClient.sealed, RtspClient.sealed, hsame]
    | paired a h =>
        obtain ⟨hok, count, hcount, hpairing⟩ := h.sealed request hversion hsends haead hroom'
        refine ⟨(startEncryption_sent i _).2.1.trans hok, count, hcount, ?_⟩
        have hstart : ∀ r : HandlerResult, ((startEncryption i r).server.clients i).pairing =
            (r.server.clients i).pairing := by
          intro r
          rw [startEncryption]
          split
          · rw [setClient_same]
          · rfl
        rw [hstart, hpairing, RtspClient.sealed, RtspClient.sealed, hsame]
  obtain ⟨hok, count, hcount, hpairing⟩ := hanswer
  have hwritten := sealed_written (s.clients i) count
  refine ⟨hok, ⟨?_, hstep.encrypted hpaired.encrypted, (hstep.established hpaired.established).1⟩,
    hstep.record, (hstep.established hpaired.established).2, ?_, ?_⟩
  · rw [hstep.socket]
    exact hpaired.opened
  · rw [hpairing]
    rfl
  · rw [hpairing, Nat.mul_one]
    omega

end Requests

section Loop

variable {prim : Primitives} {i : Slot}

/-- A paired connection goes on with the rest of its buffer. -/
theorem requestTurn_served {s : RtspServer} {io : RequestIo} {h : Handed}
    (hpaired : PairedClient (s.clients i)) (hsends : io.Sends) (haead : CorrectAead prim.aead)
    (hroom : (s.clients i).pairing.writeCounter.toNat + answerRecords < 2 ^ 64)
    {request : RtspRequest} {n : ℕ} (hparse : parseRequest (s.rx i) = .accept request n)
    (hopen : h.closed = false) :
    Served (s.clients i) ((requestTurn prim io s i).server.clients i) 1 ∧
      (requestTurn prim io s i).server.rx i = (s.rx i).drop n ∧
      (requestTurn prim io s i).more = true ∧
      (requestTurn prim io s i).log.foldl (handedStep i) h =
        { h with parts := h.parts ++ [(request, (s.rx i).take n)] } := by
  obtain ⟨hok, hserved⟩ := handleRequest_served request hpaired hsends haead hroom
  have heffect := handleRequest_effect prim io s i request
  rw [requestTurn, hparse]
  dsimp only
  generalize handleRequest prim io s i request = r at hok hserved heffect ⊢
  have hanswered : ¬ r.ok = false := by
    rw [hok]
    exact Bool.true_eq_false.mp
  rw [if_neg hanswered, hpaired.encrypted, Bool.not_true, Bool.false_and, Bool.false_and,
    if_neg Bool.false_ne_true]
  refine ⟨hserved, ?_, rfl, dispatchLog_handed hopen⟩
  rw [setRx_same, heffect.rx]

/-- A loop that stops at an incomplete request has nothing left to serve. -/
theorem served_incomplete {s : RtspServer} {h : Handed} {rest : List UInt8}
    (hpaired : PairedClient (s.clients i))
    (hwaiting : (requestFraming.frames (s.rx i)).2 = .waiting rest)
    (hparse : requestFraming.parse (s.rx i) = .incomplete) :
    Served (s.clients i) (s.clients i) (requestFraming.frames (s.rx i)).1.length ∧
      s.rx i = rest ∧ ∃ parts, h = { h with parts := h.parts ++ parts } ∧
        parts.map Prod.fst = (requestFraming.frames (s.rx i)).1 := by
  rw [requestFraming.frames_incomplete hparse] at hwaiting ⊢
  rw [Ending.waiting.injEq] at hwaiting
  refine ⟨Served.refl hpaired, hwaiting, [], ?_, rfl⟩
  rw [List.append_nil]

/-- **The loop takes every request that is complete** and leaves the connection open. -/
theorem requestLoop_served (haead : CorrectAead prim.aead) (fuel : ℕ) :
    ∀ (io : ℕ → RequestIo) (s : RtspServer) (h : Handed) (rest : List UInt8),
      (∀ k, (io k).Sends) → PairedClient (s.clients i) → (s.rx i).length ≤ fuel →
      (s.rx i).length ≤ rtspRxBufferSize → h.closed = false →
      (requestFraming.frames (s.rx i)).2 = .waiting rest →
      (s.clients i).pairing.writeCounter.toNat +
        answerRecords * (requestFraming.frames (s.rx i)).1.length < 2 ^ 64 →
      Served (s.clients i) ((requestLoop prim i fuel io s).server.clients i)
          (requestFraming.frames (s.rx i)).1.length ∧
        (requestLoop prim i fuel io s).server.rx i = rest ∧
        ∃ parts, (requestLoop prim i fuel io s).log.foldl (handedStep i) h =
            { h with parts := h.parts ++ parts } ∧
          parts.map Prod.fst = (requestFraming.frames (s.rx i)).1 := by
  have hnone : requestFraming.parse [] = .incomplete := rfl
  -- the induction is on the fuel, which no buffer is longer than
  induction fuel with
  | zero =>
      intro io s h rest _ hpaired hfuel _ _ hwaiting _
      have hempty : s.rx i = [] := List.length_eq_zero_iff.mp (Nat.le_zero.mp hfuel)
      exact served_incomplete hpaired hwaiting (by rw [hempty]; exact hnone)
  | succ fuel ih =>
      intro io s h rest hsends hpaired hfuel hfits hopen hwaiting hroom
      have hparse : requestFraming.parse (s.rx i) = parseRequest (s.rx i) := by
        show parseRequest ((s.rx i).take rtspRxBufferSize) = _
        rw [List.take_of_length_le hfits]
      rw [requestLoop]
      by_cases hempty : s.rx i = []
      · rw [if_pos hempty]
        exact served_incomplete hpaired hwaiting (by rw [hempty]; exact hnone)
      · rw [if_neg hempty]
        dsimp only
        cases hcase : parseRequest (s.rx i) with
        | incomplete =>
            rw [requestTurn_incomplete prim (io 0) hcase, if_pos rfl]
            exact served_incomplete hpaired hwaiting (hparse.trans hcase)
        | reject =>
            rw [requestFraming.frames_reject (hparse.trans hcase)] at hwaiting
            contradiction
        | accept request n =>
            have haccept := hparse.trans hcase
            rw [requestFraming.frames_accept haccept] at hwaiting hroom ⊢
            rw [List.length_cons] at hroom ⊢
            rw [Nat.mul_add, Nat.mul_one] at hroom
            have hone : (s.clients i).pairing.writeCounter.toNat + answerRecords < 2 ^ 64 := by
              omega
            -- one request and its answer, then the rest of the buffer
            obtain ⟨hserved, hrx, hmore, hlog⟩ :=
              requestTurn_served hpaired (hsends 0) haead hone hcase hopen
            have hpos := requestFraming.size_pos haccept
            have hlength : ((requestTurn prim (io 0) s i).server.rx i).length =
                (s.rx i).length - n := by
              rw [hrx, List.length_drop]
            have hwritten := hserved.written
            rw [Nat.mul_one] at hwritten
            obtain ⟨hserved', hrx', parts, hlog', hparts⟩ :=
              ih (fun k => io (k + 1)) (requestTurn prim (io 0) s i).server
                { h with parts := h.parts ++ [(request, (s.rx i).take n)] } rest
                (fun k => hsends (k + 1)) hserved.paired (by omega) (by omega) hopen
                (by rw [hrx]; exact hwaiting) (by rw [hrx]; omega)
            have hcontinue : ¬ (requestTurn prim (io 0) s i).more = false := by
              rw [hmore]
              exact Bool.true_eq_false.mp
            rw [if_neg hcontinue]
            rw [hrx] at hserved' hparts
            refine ⟨?_, hrx', (request, (s.rx i).take n) :: parts, ?_, ?_⟩
            · rw [Nat.add_comm]
              exact hserved.trans hserved'
            · dsimp only
              rw [List.foldl_append, hlog, hlog', List.append_assoc, List.singleton_append]
            · rw [List.map_cons, hparts]

end Loop

/-! ## One read -/

section Receive

variable {aead : Aead} {client : RtspClient} {piece record : List UInt8} {capacity : ℕ}
  {offer : RecvOffer}

/-- Something more was collected of a record, or nothing. -/
structure Collects (aead : Aead) (client : RtspClient) (capacity : ℕ) (offer : RecvOffer)
    (reads : List UInt8) (rest : List (List UInt8)) : Prop where
  receive : receiveClient aead client capacity offer =
    ({ client with record := client.record ++ reads }, .timeout)
  collected : Collected (client.record ++ reads) rest

/-- The client after a record was opened. -/
def openedClient (client : RtspClient) : RtspClient :=
  { client with
    pairing := { client.pairing with readCounter := client.pairing.readCounter + 1 }
    record := [] }

/-- A record was completed and opened. -/
structure Opens (aead : Aead) (client : RtspClient) (capacity : ℕ) (offer : RecvOffer)
    (reads piece record : List UInt8) : Prop where
  receive : receiveClient aead client capacity offer = (openedClient client, .bytes piece)
  bytes : client.record ++ reads = record
  room : piece.length ≤ capacity

/-- A record was refused that is longer than the room for it. -/
structure Refuses (aead : Aead) (client : RtspClient) (capacity : ℕ) (offer : RecvOffer)
    (piece : List UInt8) : Prop where
  receive : receiveClient aead client capacity offer = (client, .error)
  room : capacity < piece.length

theorem receiveClient_encrypted (hencrypted : client.encrypted = true) :
    receiveClient aead client capacity offer =
      if RefusesRecord client capacity then (client, .error)
      else
        match netTcpRecv client.socket (recordNeed client - client.record.length) offer with
        | .timeout => (client, .timeout)
        | .error => (client, .error)
        | .bytes [] => (client, .bytes [])
        | .bytes (b :: data) =>
            if recordNeed client = 2 ∨ (client.record ++ b :: data).length < recordNeed client then
              ({ client with record := client.record ++ b :: data }, .timeout)
            else
              match pairingOpen aead client.pairing
                  ((client.record ++ b :: data).take (recordNeed client)) with
              | (pairing, none) => ({ client with pairing := pairing, record := [] }, .error)
              | (pairing, some plain) =>
                  ({ client with pairing := pairing, record := [] }, .bytes plain) := by
  rw [receiveClient, if_neg (by rw [hencrypted]; exact Bool.true_eq_false.mp)]
  rfl

theorem clientReads_encrypted (hencrypted : client.encrypted = true)
    (haccepts : ¬ RefusesRecord client capacity) :
    clientReads client capacity offer =
      recvBytes (netTcpRecv client.socket (recordNeed client - client.record.length) offer) := by
  rw [clientReads, if_neg (by rw [hencrypted]; exact Bool.true_eq_false.mp), if_neg haccepts]

/-- A part of a record waits for what is missing of its header, or of itself. -/
theorem recordNeed_record {key : List UInt8} {counter : UInt64}
    (hrecord : IsRecord aead key counter piece record) (haead : CorrectAead aead)
    (hpiece : IsPiece piece) (hpart : client.record <+: record)
    (hlength : client.record.length < record.length) :
    client.record.length < recordNeed client ∧
      ((client.record.length < 2 ∧ recordNeed client = 2) ∨
        (2 ≤ client.record.length ∧ recordLength client.record = piece.length ∧
          recordNeed client = record.length)) := by
  have hsize := hrecord.length haead
  rw [recordNeed]
  by_cases hheader : client.record.length < 2
  · rw [if_pos hheader]
    exact ⟨hheader, Or.inl ⟨hheader, rfl⟩⟩
  · rw [if_neg hheader, recordLength_start hpart (by omega), hrecord.recordLength hpiece]
    exact ⟨by omega, Or.inr ⟨by omega, rfl, by omega⟩⟩

/-- There is always something to wait for. -/
theorem recordNeed_collected {todo rest : List (List UInt8)} (haead : CorrectAead aead)
    (hwithin : ∀ piece ∈ todo, IsPiece piece)
    (hsealed : sealPieces aead client.pairing.readKey client.pairing.readCounter todo = some rest)
    (hcollected : Collected client.record rest) :
    client.record.length < recordNeed client := by
  cases todo with
  | nil =>
      rw [sealPieces, Option.some.injEq] at hsealed
      rw [← hsealed, Collected] at hcollected
      rw [recordNeed, hcollected]
      decide
  | cons piece later =>
      obtain ⟨record, others, rfl, hrecord, -⟩ := sealPieces_cons hsealed
      exact (recordNeed_record hrecord haead (hwithin piece (List.mem_cons_self ..))
        hcollected.1 hcollected.2).1

/-- Nothing is refused before the records end, and a record only for want of room. -/
theorem refusesRecord_room {todo rest : List (List UInt8)} (haead : CorrectAead aead)
    (hwithin : ∀ piece ∈ todo, IsPiece piece)
    (hsealed : sealPieces aead client.pairing.readKey client.pairing.readCounter todo = some rest)
    (hcollected : Collected client.record rest) (hrefuses : RefusesRecord client capacity) :
    ∃ piece later, todo = piece :: later ∧ capacity < piece.length := by
  cases todo with
  | nil =>
      rw [sealPieces, Option.some.injEq] at hsealed
      rw [← hsealed, Collected] at hcollected
      have hheader := hrefuses.1
      rw [hcollected] at hheader
      contradiction
  | cons piece later =>
      obtain ⟨record, others, hrest, hrecord, -⟩ := sealPieces_cons hsealed
      rw [hrest] at hcollected
      have hpiece := hwithin piece (List.mem_cons_self ..)
      have hpos : 0 < piece.length := List.length_pos_iff.mpr hpiece.1
      have hmax : piece.length ≤ pairRecordMax := hpiece.2
      obtain ⟨hheader, hbad⟩ := hrefuses
      obtain ⟨-, hneed⟩ := recordNeed_record hrecord haead hpiece hcollected.1 hcollected.2
      refine ⟨piece, later, rfl, ?_⟩
      omega

/-- Bytes of a record: more of it is collected, or it is whole and is opened. -/
theorem receiveClient_bytes {record reads : List UInt8} {others : List (List UInt8)}
    (haead : CorrectAead aead) (hpaired : PairedClient client) (hpiece : IsPiece piece)
    (hrecord : IsRecord aead client.pairing.readKey client.pairing.readCounter piece record)
    (hcollected : Collected client.record (record :: others))
    (haccepts : ¬ RefusesRecord client capacity)
    (hbound : (client.record ++ reads).length ≤ recordNeed client)
    (hstart : client.record ++ reads <+: (record :: others).flatten)
    (hreceive : receiveClient aead client capacity offer =
      if recordNeed client = 2 ∨ (client.record ++ reads).length < recordNeed client then
        ({ client with record := client.record ++ reads }, .timeout)
      else
        match pairingOpen aead client.pairing
            ((client.record ++ reads).take (recordNeed client)) with
        | (pairing, none) => ({ client with pairing := pairing, record := [] }, .error)
        | (pairing, some plain) =>
            ({ client with pairing := pairing, record := [] }, .bytes plain)) :
    Collects aead client capacity offer reads (record :: others) ∨
      Opens aead client capacity offer reads piece record := by
  have hsize := hrecord.length haead
  obtain ⟨-, hcases⟩ := recordNeed_record hrecord haead hpiece hcollected.1 hcollected.2
  have hpart : client.record ++ reads <+: record := by
    rw [List.flatten_cons] at hstart
    exact List.prefix_of_prefix_length_le hstart (List.prefix_append _ _) (by omega)
  by_cases hmore : recordNeed client = 2 ∨ (client.record ++ reads).length < recordNeed client
  · left
    rw [if_pos hmore] at hreceive
    exact ⟨hreceive, hpart, by omega⟩
  · right
    rw [if_neg hmore] at hreceive
    have hwhole : client.record ++ reads = record := by
      apply hpart.eq_of_length
      omega
    -- the record is whole, so its header was tested and its piece fits
    have hroom : ¬ piece.length > capacity := by
      intro hlong
      apply haccepts
      rcases hcases with ⟨-, hheader⟩ | ⟨hheader, hlength, -⟩
      · exact absurd (Or.inl hheader) hmore
      · exact ⟨hheader, Or.inr (Or.inr (by omega))⟩
    have hneed : recordNeed client = record.length := by
      rcases hcases with ⟨-, hheader⟩ | ⟨-, -, hlength⟩
      · exact absurd (Or.inl hheader) hmore
      · exact hlength
    rw [hwhole, hneed, List.take_length,
      pairingOpen_sealed hrecord haead hpiece hpaired.established] at hreceive
    exact ⟨hreceive, hwhole, by omega⟩

/-- **One read of a record**: more of it is collected, or it is opened, or it is refused
for want of room. -/
theorem receiveClient_sealed {todo rest : List (List UInt8)} (haead : CorrectAead aead)
    (hpaired : PairedClient client) (hwithin : ∀ piece ∈ todo, IsPiece piece)
    (hsealed : sealPieces aead client.pairing.readKey client.pairing.readCounter todo = some rest)
    (hcollected : Collected client.record rest)
    (hoffer : offer = .timeout ∨ ∃ b data, offer = .data (b :: data))
    (hstart : client.record ++ clientReads client capacity offer <+: rest.flatten) :
    Collects aead client capacity offer (clientReads client capacity offer) rest ∨
      (∃ piece later record others, todo = piece :: later ∧ rest = record :: others ∧
        IsRecord aead client.pairing.readKey client.pairing.readCounter piece record ∧
        sealPieces aead client.pairing.readKey (client.pairing.readCounter + 1) later =
          some others ∧
        Opens aead client capacity offer (clientReads client capacity offer) piece record) ∨
      ∃ piece later, todo = piece :: later ∧ Refuses aead client capacity offer piece := by
  have hreceive : receiveClient aead client capacity offer = _ :=
    receiveClient_encrypted hpaired.encrypted
  -- the header of a record that does not fit stops the connection at once
  by_cases hrefuses : RefusesRecord client capacity
  · rw [if_pos hrefuses] at hreceive
    obtain ⟨piece, later, htodo, hroom⟩ :=
      refusesRecord_room haead hwithin hsealed hcollected hrefuses
    exact Or.inr (Or.inr ⟨piece, later, htodo, hreceive, hroom⟩)
  · rw [if_neg hrefuses] at hreceive
    have hreads : clientReads client capacity offer = _ :=
      clientReads_encrypted hpaired.encrypted hrefuses
    have hneed := recordNeed_collected haead hwithin hsealed hcollected
    have hready : ¬ (client.socket.isOpen = false ∨
        recordNeed client - client.record.length = 0) := by
      rw [hpaired.opened]
      simp only [Bool.true_eq_false, false_or]
      omega
    rcases hoffer with rfl | ⟨b, data, rfl⟩
    · -- nothing came
      left
      rw [netTcpRecv, if_neg hready] at hreceive hreads
      constructor
      · rw [hreceive, hreads, recvBytes, List.append_nil]
      · rw [hreads, recvBytes, List.append_nil]
        exact hcollected
    · -- what came is a part of what the record still needs
      obtain ⟨room, hroom⟩ : ∃ room, recordNeed client - client.record.length = room + 1 :=
        Nat.exists_eq_succ_of_ne_zero (by omega)
      rw [netTcpRecv, if_neg hready, hroom, List.take_succ_cons] at hreceive hreads
      dsimp only [recvBytes] at hreceive hreads
      rw [← hreads] at hreceive
      have hsome : 0 < (clientReads client capacity (.data (b :: data))).length := by
        rw [hreads, List.length_cons]
        omega
      have hbound : (client.record ++ clientReads client capacity (.data (b :: data))).length ≤
          recordNeed client := by
        have htake := List.length_take_le room data
        rw [List.length_append, hreads, List.length_cons]
        omega
      generalize clientReads client capacity (.data (b :: data)) = reads
        at hreceive hsome hbound hstart ⊢
      cases todo with
      | nil =>
          -- there are no more records, so there was nothing to read
          rw [sealPieces, Option.some.injEq] at hsealed
          rw [← hsealed, List.flatten_nil] at hstart
          have hlength := hstart.length_le
          rw [List.length_append, List.length_nil] at hlength
          omega
      | cons piece later =>
          obtain ⟨record, others, rfl, hrecord, hothers⟩ := sealPieces_cons hsealed
          have hpiece := hwithin piece (List.mem_cons_self ..)
          rcases receiveClient_bytes haead hpaired hpiece hrecord hcollected hrefuses hbound
            hstart hreceive with hcollects | hopens
          · exact Or.inl hcollects
          · exact Or.inr (Or.inl
              ⟨piece, later, record, others, rfl, rfl, hrecord, hothers, hopens⟩)

end Receive

end PortableAirplay.Protocol
