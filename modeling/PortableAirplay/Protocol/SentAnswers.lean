import PortableAirplay.Protocol.Answers

/-!
# Answers on the wire

What `rtsp_send_response` puts on a connection whose sends succeed. An answer fits the
response buffer, so a plaintext client gets the bytes of the response, and an encrypted
client the records of consecutive pieces of them (`SentAs`), unless a record cannot be
sealed (`Unsealable`).
-/

set_option autoImplicit false

namespace PortableAirplay.Protocol

open PortableAirplay.Airplay
open PortableAirplay.Library
open PortableAirplay.Platform
open PortableAirplay.Util

/-! ## The response buffer -/

theorem responseHead_length_le (client : RtspClient) (code : ℕ) (text : CString) (cseq : UInt32)
    (headers : CString) :
    (responseHead client code text cseq headers).length ≤ 85 + text.length + headers.length := by
  have hcode := decimal_length_le code
  have hcseq := decimal_length_le cseq.toNat
  have hversion : (if client.http then ascii "HTTP/1.1" else ascii "RTSP/1.0").length = 8 := by
    cases client.http with
    | true => rfl
    | false => rfl
  have hblank : (ascii " ").length = 1 := rfl
  have hcseqName : (ascii "\r\nCSeq: ").length = 8 := rfl
  have hserver : (ascii "\r\nServer: AirTunes/").length = 19 := rfl
  have hnumber : serverVersion.length = 6 := rfl
  have hend : (ascii "\r\n").length = 2 := rfl
  rw [responseHead]
  simp only [List.length_append, hversion, hblank, hcseqName, hserver, hnumber, hend]
  omega

theorem contentLengthLine_length_le (client : RtspClient) (body : List UInt8) :
    (contentLengthLine client body).length ≤ 38 := by
  have hlength := decimal_length_le body.length
  have hname : (ascii "Content-Length: ").length = 16 := rfl
  have hend : (ascii "\r\n").length = 2 := rfl
  rw [contentLengthLine]
  split
  · simp only [List.length_append, hname, hend]
    omega
  · exact Nat.zero_le _

/-! ## Pieces and records -/

/-- What a record may hold. -/
def IsPiece (piece : List UInt8) : Prop := piece ≠ [] ∧ piece.length ≤ pairRecordMax

/-- The pieces of some data are in order and leave nothing out. -/
theorem recordChunks_pieces (fuel : ℕ) :
    ∀ data : List UInt8, data.length < fuel →
      (recordChunks fuel data).flatten = data ∧ ∀ piece ∈ recordChunks fuel data, IsPiece piece := by
  induction fuel with
  | zero =>
      intro data hfuel
      exact absurd hfuel (Nat.not_lt_zero _)
  | succ fuel ih =>
      intro data hfuel
      rw [recordChunks]
      by_cases hdata : data = []
      · rw [if_pos hdata, hdata]
        exact ⟨rfl, fun piece hpiece => absurd hpiece List.not_mem_nil⟩
      · have hlength : 0 < data.length := List.length_pos_iff.mpr hdata
        have hrest : (data.drop pairRecordMax).length < fuel := by
          rw [List.length_drop, pairRecordMax]
          omega
        obtain ⟨hflatten, hpieces⟩ := ih (data.drop pairRecordMax) hrest
        rw [if_neg hdata]
        refine ⟨?_, fun piece hpiece => ?_⟩
        · rw [List.flatten_cons, hflatten, List.take_append_drop]
        · rcases List.mem_cons.mp hpiece with rfl | hpiece
          · refine ⟨?_, List.length_take_le _ _⟩
            rw [ne_eq, List.take_eq_nil_iff, not_or]
            exact ⟨by decide, hdata⟩
          · exact hpieces piece hpiece

theorem recordChunks_length (fuel : ℕ) :
    ∀ (count : ℕ) (data : List UInt8), data.length ≤ pairRecordMax * count →
      (recordChunks fuel data).length ≤ count := by
  induction fuel with
  | zero => exact fun count data _ => Nat.zero_le count
  | succ fuel ih =>
      intro count data hdata
      rw [recordChunks]
      split
      · exact Nat.zero_le count
      · rename_i hne
        have hpos : 0 < data.length := List.length_pos_iff.mpr hne
        obtain ⟨rest, rfl⟩ : ∃ rest, count = rest + 1 := by
          apply Nat.exists_eq_succ_of_ne_zero
          rintro rfl
          omega
        rw [List.length_cons]
        apply Nat.succ_le_succ
        apply ih
        rw [List.length_drop, pairRecordMax] at *
        omega

/-- The records of some pieces under a key, from a counter on; `none` where the cipher
fails or the counter is used up. -/
def sealPieces (aead : Aead) (key : List UInt8) :
    UInt64 → List (List UInt8) → Option (List (List UInt8))
  | _, [] => some []
  | counter, piece :: rest =>
      if counter = 0xffffffffffffffff then none
      else
        match aead.encryptAndTag
            ⟨key, nonceBytes counter, recordHeader piece.length, piece⟩ with
        | none => none
        | some (cipher, tag) =>
            (sealPieces aead key (counter + 1) rest).map fun records =>
              (recordHeader piece.length ++ cipher ++ tag) :: records

section Seal

variable (aead : Aead) (key : List UInt8)

/-- More pieces are sealed under the counters that follow. -/
theorem sealPieces_append (first second : List (List UInt8)) :
    ∀ counter : UInt64, sealPieces aead key counter (first ++ second) =
      (sealPieces aead key counter first).bind fun records =>
        (sealPieces aead key (counter + UInt64.ofNat first.length) second).map (records ++ ·) := by
  induction first with
  | nil =>
      intro counter
      have hcounter : counter + UInt64.ofNat 0 = counter := UInt64.add_zero counter
      rw [List.nil_append, List.length_nil, hcounter, sealPieces]
      cases sealPieces aead key counter second with
      | none => rfl
      | some records => rfl
  | cons piece rest ih =>
      intro counter
      -- the counter is one further for each piece sealed
      have hcounter : counter + 1 + UInt64.ofNat rest.length =
          counter + UInt64.ofNat (piece :: rest).length := by
        rw [List.length_cons, Nat.add_comm, UInt64.ofNat_add, ← UInt64.add_assoc]
        rfl
      rw [List.cons_append, sealPieces, sealPieces]
      by_cases hmax : counter = 0xffffffffffffffff
      · rw [if_pos hmax, if_pos hmax]
        rfl
      · rw [if_neg hmax, if_neg hmax]
        cases aead.encryptAndTag ⟨key, nonceBytes counter, recordHeader piece.length, piece⟩ with
        | none => rfl
        | some out =>
            dsimp only
            rw [ih, hcounter]
            cases sealPieces aead key (counter + 1) rest with
            | none => rfl
            | some records =>
                cases sealPieces aead key (counter + UInt64.ofNat (piece :: rest).length) second with
                | none => rfl
                | some others => rfl

/-- What cannot be sealed meets a failing cipher or the end of the counter. -/
theorem sealPieces_none (pieces : List (List UInt8)) :
    ∀ counter : UInt64, sealPieces aead key counter pieces = none →
      (∃ query : AeadQuery, query.key = key ∧ aead.encryptAndTag query = none) ∨
        2 ^ 64 ≤ counter.toNat + pieces.length := by
  induction pieces with
  | nil =>
      intro counter h
      exact absurd h (by simp [sealPieces])
  | cons piece rest ih =>
      intro counter h
      rw [sealPieces] at h
      by_cases hmax : counter = 0xffffffffffffffff
      · right
        rw [hmax, List.length_cons]
        show 2 ^ 64 ≤ 2 ^ 64 - 1 + (rest.length + 1)
        omega
      · rw [if_neg hmax] at h
        cases hcipher : aead.encryptAndTag
            ⟨key, nonceBytes counter, recordHeader piece.length, piece⟩ with
        | none => exact Or.inl ⟨_, rfl, hcipher⟩
        | some out =>
            rw [hcipher] at h
            rcases ih (counter + 1) (Option.map_eq_none_iff.mp h) with hfails | hend
            · exact Or.inl hfails
            · right
              have hle : (counter + 1).toNat ≤ counter.toNat + 1 := by
                rw [UInt64.toNat_add]
                exact Nat.mod_le _ _
              rw [List.length_cons]
              omega

end Seal

/-! ## Sending -/

/-- A client that answers reach: its connection is open, the network takes what is sent,
and encryption has begun only with a pairing. -/
structure CanAnswer (io : RequestIo) (client : RtspClient) : Prop where
  opened : client.socket.isOpen = true
  paired : client.encrypted = true → client.pairing.established = true
  sends : io.Sends

/-- The client after some records were sealed. -/
def RtspClient.sealed (client : RtspClient) (count : ℕ) : RtspClient :=
  { client with
    pairing :=
      { client.pairing with
        writeCounter := client.pairing.writeCounter + UInt64.ofNat count } }

/-- The records of some pieces for a client. -/
def RtspClient.seals (client : RtspClient) (aead : Aead) (pieces : List (List UInt8)) :
    Option (List (List UInt8)) :=
  sealPieces aead client.pairing.writeKey client.pairing.writeCounter pieces

section Sends

variable {io : RequestIo} {client : RtspClient} (prim : Primitives)

theorem CanAnswer.netTcpSendAll (h : CanAnswer io client) (sent : Sent) (data : List UInt8) :
    netTcpSendAll io client.socket sent data = some (sent ++ [data]) := by
  have hlimit : io.sendLimit = none := h.sends
  rw [Protocol.netTcpSendAll, if_neg (by rw [h.opened]; exact Bool.true_eq_false.mp), hlimit]

theorem CanAnswer.sealed (h : CanAnswer io client) (count : ℕ) :
    CanAnswer io (client.sealed count) := ⟨h.opened, h.paired, h.sends⟩

/-- All pieces are sealed and sent, or one cannot be sealed. -/
theorem sendRecords_pieces (h : CanAnswer io client) (hencrypted : client.encrypted = true)
    (pieces : List (List UInt8)) (hpieces : ∀ piece ∈ pieces, IsPiece piece) (sent : Sent) :
    match client.seals prim.aead pieces with
    | some records => sendRecords prim io client sent pieces =
        ⟨client.sealed pieces.length, sent ++ records, true⟩
    | none => (sendRecords prim io client sent pieces).ok = false := by
  induction pieces generalizing client sent with
  | nil =>
      have hsealed : client.sealed 0 = client := by
        rw [RtspClient.sealed]
        have hcounter : client.pairing.writeCounter + UInt64.ofNat 0 =
            client.pairing.writeCounter := UInt64.add_zero _
        rw [hcounter]
      show sendRecords prim io client sent [] = ⟨client.sealed 0, sent ++ [], true⟩
      rw [hsealed, List.append_nil]
      rfl
  | cons piece rest ih =>
      obtain ⟨hpiece, hrest⟩ := List.forall_mem_cons.mp hpieces
      rw [RtspClient.seals, sealPieces, sendRecords, pairingSeal]
      -- no record is sealed under the last counter
      by_cases hmax : client.pairing.writeCounter = 0xffffffffffffffff
      · have hquery : sealQuery client.pairing piece = none := by
          cases hcall : sealQuery client.pairing piece with
          | none => rfl
          | some query => exact absurd hmax (sealQuery_eq_some.mp hcall).1.2.2.2
        rw [if_pos hmax, hquery]
      · have hquery : sealQuery client.pairing piece =
            some ⟨client.pairing.writeKey, nonceBytes client.pairing.writeCounter,
              recordHeader piece.length, piece⟩ :=
          sealQuery_eq_some.mpr
            ⟨⟨h.paired hencrypted, List.length_pos_iff.mpr hpiece.1, hpiece.2, hmax⟩, rfl⟩
        rw [if_neg hmax, hquery]
        dsimp only
        cases prim.aead.encryptAndTag ⟨client.pairing.writeKey,
            nonceBytes client.pairing.writeCounter, recordHeader piece.length, piece⟩ with
        | none => rfl
        | some out =>
            have hsend := h.netTcpSendAll sent (recordHeader piece.length ++ out.1 ++ out.2)
            -- the rest is sealed under the counters that follow
            have hnext := ih (h.sealed 1) hencrypted hrest
              (sent ++ [recordHeader piece.length ++ out.1 ++ out.2])
            have hcount : (client.sealed 1).sealed rest.length =
                client.sealed (piece :: rest).length := by
              rw [RtspClient.sealed, RtspClient.sealed, RtspClient.sealed]
              dsimp only
              rw [UInt64.add_assoc, ← UInt64.ofNat_add, List.length_cons, Nat.add_comm]
            dsimp only
            rw [hsend]
            dsimp only
            have hseals : (client.sealed 1).seals prim.aead rest =
                sealPieces prim.aead client.pairing.writeKey
                  (client.pairing.writeCounter + 1) rest := rfl
            rw [hseals] at hnext
            cases hrecords : sealPieces prim.aead client.pairing.writeKey
                (client.pairing.writeCounter + 1) rest with
            | none =>
                rw [hrecords] at hnext
                exact hnext
            | some records =>
                rw [hrecords, hcount] at hnext
                show sendRecords prim io (client.sealed 1)
                    (sent ++ [recordHeader piece.length ++ out.1 ++ out.2]) rest =
                  ⟨client.sealed (piece :: rest).length,
                    sent ++ (recordHeader piece.length ++ out.1 ++ out.2) :: records, true⟩
                rw [List.append_cons sent _ records]
                exact hnext

/-! ## Responses -/

/-- How a client gets some bytes: as they are, or in the records of consecutive pieces. -/
def SentAs (aead : Aead) (client : RtspClient) (bytes : List UInt8) (sent : Sent) : Prop :=
  if client.encrypted = false then sent.flatten = bytes
  else ∃ pieces, pieces.flatten = bytes ∧ (∀ piece ∈ pieces, IsPiece piece) ∧
    client.seals aead pieces = some sent

/-- A client cannot get so many records: the cipher fails, or the counter is used up. -/
def Unsealable (aead : Aead) (client : RtspClient) (count : ℕ) : Prop :=
  client.encrypted = true ∧
    ((∃ query : AeadQuery, query.key = client.pairing.writeKey ∧
        aead.encryptAndTag query = none) ∨
      2 ^ 64 ≤ client.pairing.writeCounter.toNat + count)

/-- The outcome of a send of some bytes, after those in `before`, in at most `count`
records. -/
inductive Delivery (aead : Aead) (client : RtspClient) (before : Sent) (bytes : List UInt8)
    (count : ℕ) : SendResult → Prop where
  | plain (after : Sent) (hplain : client.encrypted = false) (hbytes : after.flatten = bytes) :
      Delivery aead client before bytes count ⟨client, before ++ after, true⟩
  | sealed (pieces : List (List UInt8)) (records : Sent) (hencrypted : client.encrypted = true)
      (hbytes : pieces.flatten = bytes) (hpieces : ∀ piece ∈ pieces, IsPiece piece)
      (hcount : pieces.length ≤ count) (hseals : client.seals aead pieces = some records) :
      Delivery aead client before bytes count
        ⟨client.sealed pieces.length, before ++ records, true⟩
  | failed (r : SendResult) (hfails : r.ok = false) (hunsealable : Unsealable aead client count) :
      Delivery aead client before bytes count r

theorem sendClient_delivery (h : CanAnswer io client) (before : Sent) (data : List UInt8)
    {count : ℕ} (hlength : data.length ≤ pairRecordMax * count) :
    Delivery prim.aead client before data count (sendClient prim io client before data) := by
  rw [sendClient]
  cases hencrypted : client.encrypted with
  | false =>
      rw [if_pos rfl, h.netTcpSendAll]
      apply Delivery.plain [data] hencrypted
      exact List.append_nil data
  | true =>
      obtain ⟨hbytes, hpieces⟩ := recordChunks_pieces (data.length + 1) data (Nat.lt_succ_self _)
      have hcount := recordChunks_length (data.length + 1) count data hlength
      have hsend := sendRecords_pieces prim h hencrypted _ hpieces before
      rw [if_neg (by decide)]
      cases hseals : client.seals prim.aead (recordChunks (data.length + 1) data) with
      | none =>
          rw [hseals] at hsend
          refine Delivery.failed _ hsend ⟨hencrypted, ?_⟩
          rcases sealPieces_none prim.aead _ _ _ hseals with hfails | hend
          · exact Or.inl hfails
          · exact Or.inr (hend.trans (Nat.add_le_add_left hcount _))
      | some records =>
          rw [hseals] at hsend
          dsimp only at hsend
          rw [hsend]
          exact Delivery.sealed _ _ hencrypted hbytes hpieces hcount hseals

theorem RtspClient.sealed_sealed (client : RtspClient) (m n : ℕ) :
    (client.sealed m).sealed n = client.sealed (m + n) := by
  rw [RtspClient.sealed, RtspClient.sealed, RtspClient.sealed]
  dsimp only
  rw [UInt64.add_assoc, ← UInt64.ofNat_add]

theorem RtspClient.seals_append (client : RtspClient) (aead : Aead)
    (first second : List (List UInt8)) :
    client.seals aead (first ++ second) = (client.seals aead first).bind fun records =>
      ((client.sealed first.length).seals aead second).map (records ++ ·) :=
  sealPieces_append aead _ first second _

theorem pieces_append {first second : List (List UInt8)} {bytes others : List UInt8}
    (hbytes : first.flatten = bytes) (hpieces : ∀ piece ∈ first, IsPiece piece)
    (hothers : second.flatten = others) (hpieces' : ∀ piece ∈ second, IsPiece piece) :
    (first ++ second).flatten = bytes ++ others ∧
      ∀ piece ∈ first ++ second, IsPiece piece := by
  refine ⟨by rw [List.flatten_append, hbytes, hothers], fun piece hpiece => ?_⟩
  rcases List.mem_append.mp hpiece with hfirst | hsecond
  · exact hpieces piece hfirst
  · exact hpieces' piece hsecond

/-- What fails within some records fails within more. -/
theorem Unsealable.mono {aead : Aead} {count more : ℕ} (h : Unsealable aead client count)
    (hle : count ≤ more) : Unsealable aead client more := by
  refine ⟨h.1, ?_⟩
  rcases h.2 with hfails | hend
  · exact Or.inl hfails
  · exact Or.inr (hend.trans (Nat.add_le_add_left hle _))

theorem Delivery.widen {aead : Aead} {before : Sent} {bytes : List UInt8} {m n : ℕ}
    {r : SendResult} (h : Delivery aead client before bytes m r) (hle : m ≤ n) :
    Delivery aead client before bytes n r := by
  cases h with
  | plain after hplain hbytes => exact Delivery.plain after hplain hbytes
  | sealed pieces records hencrypted hbytes hpieces hcount hseals =>
      exact Delivery.sealed pieces records hencrypted hbytes hpieces (hcount.trans hle) hseals
  | failed _ hfails hunsealable => exact Delivery.failed r hfails (hunsealable.mono hle)

/-- A send that follows a send. -/
theorem Delivery.append {aead : Aead} {before : Sent} {bytes others : List UInt8} {m n : ℕ}
    {r next : SendResult} (h : Delivery aead client before bytes m r) (hok : r.ok = true)
    (hnext : Delivery aead r.client r.sent others n next) :
    Delivery aead client before (bytes ++ others) (m + n) next := by
  -- both parts go in the clear or both are sealed, under one counter
  cases h with
  | plain after hplain hbytes =>
      cases hnext with
      | plain after' hplain' hbytes' =>
          rw [List.append_assoc]
          apply Delivery.plain _ hplain
          rw [List.flatten_append, hbytes, hbytes']
      | sealed pieces records hencrypted hbytes' hpieces hcount hseals =>
          exact absurd (hplain.symm.trans hencrypted) (by decide)
      | failed _ hfails hunsealable =>
          exact absurd (hplain.symm.trans hunsealable.1) (by decide)
  | sealed pieces records hencrypted hbytes hpieces hcount hseals =>
      cases hnext with
      | plain after hplain hbytes' => exact absurd (hplain.symm.trans hencrypted) (by decide)
      | sealed pieces' records' hencrypted' hbytes' hpieces' hcount' hseals' =>
          obtain ⟨hflatten, hall⟩ := pieces_append hbytes hpieces hbytes' hpieces'
          rw [RtspClient.sealed_sealed, ← List.length_append, List.append_assoc]
          apply Delivery.sealed _ _ hencrypted hflatten hall
          · rw [List.length_append]
            exact Nat.add_le_add hcount hcount'
          · rw [RtspClient.seals_append, hseals, Option.bind_some, hseals']
            rfl
      | failed _ hfails hunsealable =>
          refine Delivery.failed _ hfails ⟨hencrypted, ?_⟩
          rcases hunsealable.2 with hcipher | hend
          · exact Or.inl hcipher
          · right
            have hle : (client.sealed pieces.length).pairing.writeCounter.toNat ≤
                client.pairing.writeCounter.toNat + pieces.length := by
              show (client.pairing.writeCounter + UInt64.ofNat pieces.length).toNat ≤ _
              rw [UInt64.toNat_add]
              apply (Nat.mod_le _ _).trans
              apply Nat.add_le_add_left
              rw [UInt64.toNat_ofNat']
              exact Nat.mod_le _ _
            have hend' : 2 ^ 64 ≤ (client.sealed pieces.length).pairing.writeCounter.toNat + n := hend
            omega
  | failed _ hfails hunsealable => exact absurd (hok.symm.trans hfails) (by decide)

/-- An answer takes one record for its head and at most two for its body. -/
def answerRecords : ℕ := 1 + 2

/-- **A response goes out whole**, or one of its records cannot be sealed. -/
theorem rtspSendResponse_delivery (h : CanAnswer io client) (code : ℕ) (text : CString)
    (cseq : UInt32) (headers : CString) (body : List UInt8) (htext : text.length ≤ 64)
    (hheaders : headers.length ≤ 800) (hbody : body.length ≤ 2048) :
    Delivery prim.aead client [] (responseBytes client code text cseq headers body) answerRecords
      (rtspSendResponse prim io client code text cseq headers body) := by
  have hhead := responseHead_length_le client code text cseq headers
  have hline := contentLengthLine_length_le client body
  have hlength : (responseHead client code text cseq headers ++ contentLengthLine client body ++
      ascii "\r\n").length ≤ pairRecordMax * 1 := by
    have hend : (ascii "\r\n").length = 2 := rfl
    rw [List.length_append, List.length_append, hend, pairRecordMax]
    omega
  -- the head goes out first, in one record where the connection is encrypted
  have hfirst := sendClient_delivery prim h [] _ hlength
  rw [rtspSendResponse, responseBytes]
  dsimp only
  rw [if_neg (by rw [responseMax]; omega)]
  generalize sendClient prim io client [] (responseHead client code text cseq headers ++
    contentLengthLine client body ++ ascii "\r\n") = r at hfirst ⊢
  cases hok : r.ok with
  | false =>
      rw [if_pos rfl]
      cases hfirst with
      | plain after hplain hbytes => exact Bool.noConfusion hok
      | sealed pieces records hencrypted hbytes hpieces hcount hseals => exact Bool.noConfusion hok
      | failed _ hfails hunsealable =>
          exact Delivery.failed _ hfails (hunsealable.mono (Nat.le_add_right 1 2))
  | true =>
      rw [if_neg (by decide)]
      by_cases hempty : body = []
      · have hnone : Delivery prim.aead client [] _ answerRecords r :=
          hfirst.widen (Nat.le_add_right 1 2)
        rw [if_pos hempty, hempty, List.append_nil]
        rw [hempty] at hnone
        exact hnone
      · rw [if_neg hempty]
        -- sending the head has moved the counter only
        have hcan : CanAnswer io r.client := by
          cases hfirst with
          | plain after hplain hbytes => exact h
          | sealed pieces records hencrypted hbytes hpieces hcount hseals => exact h.sealed _
          | failed _ hfails hunsealable => exact absurd (hok.symm.trans hfails) (by decide)
        exact hfirst.append hok (sendClient_delivery prim hcan r.sent body hbody)

end Sends

/-! ## Answers to requests -/

/-- What a client got is one response, with its status and the number of the request: the
bytes are read as that response, and nothing of what follows them belongs to it. -/
def IsResponse (aead : Aead) (client : RtspClient) (status : ℕ) (cseq : UInt32) (sent : Sent) :
    Prop :=
  (status = 200 ∨ 400 ≤ status ∧ status < 600) ∧ ∃ text headers body,
    SentAs aead client (responseBytes client status text cseq headers body) sent ∧
    ∀ rest, readResponse (responseBytes client status text cseq headers body ++ rest) =
      some (⟨client.version, status, cseq.toNat, body⟩, rest)

/-- What a handler did is one response, or it failed to seal one. -/
def Responds (aead : Aead) (client : RtspClient) (cseq : UInt32) (r : HandlerResult) : Prop :=
  (r.ok = true ∧ IsResponse aead client r.status cseq r.sent) ∨
    (r.ok = false ∧ Unsealable aead client answerRecords)

section Answers

variable {io : RequestIo} {s : RtspServer} {i : Slot} {request : RtspRequest} (prim : Primitives)

theorem Delivery.sentAs {aead : Aead} {client : RtspClient} {bytes : List UInt8} {count : ℕ}
    {r : SendResult} (h : Delivery aead client [] bytes count r) :
    (r.ok = true ∧ SentAs aead client bytes r.sent) ∨
      (r.ok = false ∧ Unsealable aead client count) := by
  cases h with
  | plain after hplain hbytes =>
      refine Or.inl ⟨rfl, ?_⟩
      rw [SentAs, if_pos hplain]
      exact hbytes
  | sealed pieces records hencrypted hbytes hpieces hcount hseals =>
      refine Or.inl ⟨rfl, ?_⟩
      rw [SentAs, if_neg (by rw [hencrypted]; decide)]
      exact ⟨pieces, hbytes, hpieces, hseals⟩
  | failed _ hfails hunsealable => exact Or.inr ⟨hfails, hunsealable⟩

theorem respond_responds (h : CanAnswer io (s.clients i)) {code : ℕ} {text : CString}
    (hcode : code = 200 ∨ 400 ≤ code ∧ code < 600) (htext : IsPhrase text) (cseq : UInt32)
    {headers : CString} (hheaders : headers.length ≤ 800) (hlines : IsHeaders headers)
    {body : List UInt8} (hbody : body.length ≤ 2048) :
    Responds prim.aead (s.clients i) cseq
      (respond prim io s i code text cseq headers body) := by
  have hdelivery :=
    rtspSendResponse_delivery prim h code text cseq headers body htext.1 hheaders hbody
  have hstatus : code < 10 ^ 20 := by omega
  have hlength : body.length < 10 ^ 20 := by omega
  rcases hdelivery.sentAs with ⟨hok, hsent⟩ | ⟨hfails, hunsealable⟩
  · exact Or.inl ⟨hok, hcode, text, headers, body, hsent,
      readResponse_responseBytes (s.clients i) hstatus htext.2 cseq hlines hlength⟩
  · exact Or.inr ⟨hfails, hunsealable⟩

/-- Responding looks at nothing else of a client. -/
theorem Responds.congr {aead : Aead} {client other : RtspClient} {cseq : UInt32}
    {r : HandlerResult} (h : Responds aead client cseq r)
    (hencrypted : client.encrypted = other.encrypted) (hhttp : client.http = other.http)
    (hpairing : other.encrypted = true → client.pairing = other.pairing) :
    Responds aead other cseq r := by
  have hbytes : ∀ code text headers body, responseBytes client code text cseq headers body =
      responseBytes other code text cseq headers body := by
    intro code text headers body
    rw [responseBytes, responseBytes, responseHead, responseHead, contentLengthLine,
      contentLengthLine, hhttp]
  have hversion : client.version = other.version := by
    rw [RtspClient.version, RtspClient.version, hhttp]
  have hseals : other.encrypted = true → ∀ pieces,
      client.seals aead pieces = other.seals aead pieces := by
    intro htrue pieces
    rw [RtspClient.seals, RtspClient.seals, hpairing htrue]
  rcases h with ⟨hok, hcode, text, headers, body, hsent, hread⟩ | ⟨hfails, hclient, hevidence⟩
  · rw [hbytes] at hsent hread
    rw [hversion] at hread
    refine Or.inl ⟨hok, hcode, text, headers, body, ?_, hread⟩
    rw [SentAs] at hsent ⊢
    cases hother : other.encrypted with
    | false =>
        rw [hencrypted, hother, if_pos rfl] at hsent
        rw [if_pos rfl]
        exact hsent
    | true =>
        rw [hencrypted, hother, if_neg (by decide)] at hsent
        rw [if_neg (by decide)]
        obtain ⟨pieces, hflatten, hpieces, hsome⟩ := hsent
        exact ⟨pieces, hflatten, hpieces, (hseals hother pieces).symm.trans hsome⟩
  · have hother : other.encrypted = true := hencrypted.symm.trans hclient
    rw [hpairing hother] at hevidence
    exact Or.inr ⟨hfails, hother, hevidence⟩

/-- An answer is sent to the client as the request found it. -/
theorem Answered.responds {a : Answer} (h : Answered s i request a)
    (hcan : CanAnswer io (s.clients i)) (hlined : Lined request) :
    Responds prim.aead (s.clients i) request.cseq (a.send prim io i request) := by
  have hpairing : (s.clients i).encrypted = true →
      (a.server.clients i).pairing = (s.clients i).pairing :=
    fun hencrypted => h.pairing (hcan.paired hencrypted)
  have hcan' : CanAnswer io (a.server.clients i) := by
    refine ⟨by rw [h.socket]; exact hcan.opened, fun hencrypted => ?_, hcan.sends⟩
    have hbefore : (s.clients i).encrypted = true := h.encrypted.symm.trans hencrypted
    rw [hpairing hbefore]
    exact hcan.paired hbefore
  have hcode : a.code = 200 ∨ 400 ≤ a.code ∧ a.code < 600 := by
    rcases h.code with hok | hrefused
    · exact Or.inl hok
    · exact Or.inr ⟨hrefused, h.status.1⟩
  exact (respond_responds prim hcan' hcode h.status.2 request.cseq h.fits.1 (h.lines hlined)
    h.fits.2).congr h.encrypted h.http hpairing

theorem startEncryption_sent (i : Slot) (r : HandlerResult) :
    (startEncryption i r).sent = r.sent ∧ (startEncryption i r).ok = r.ok ∧
      (startEncryption i r).status = r.status := by
  rw [startEncryption]
  split
  · exact ⟨rfl, rfl, rfl⟩
  · exact ⟨rfl, rfl, rfl⟩

/-- **Every request gets one response**, or its response cannot be sealed. -/
theorem handleRequest_responds (hcan : CanAnswer io (s.clients i)) (hlined : Lined request) :
    Responds prim.aead ((withVersion s i request).clients i) request.cseq
      (handleRequest prim io s i request) := by
  have hversion : CanAnswer io ((withVersion s i request).clients i) := by
    rw [withVersion, setClient_same]
    exact ⟨hcan.opened, hcan.paired, hcan.sends⟩
  have hhandled := handleRequest_handled prim io s i request
  generalize handleRequest prim io s i request = r at hhandled ⊢
  cases hhandled with
  | sent a h => exact h.responds prim hversion hlined
  | paired a h =>
      obtain ⟨hsent, hok, hstatus⟩ := startEncryption_sent i (a.send prim io i request)
      rw [Responds, hsent, hok, hstatus]
      exact h.responds prim hversion hlined

/-- **Every request in the clear is answered.** -/
theorem handleRequest_ok (hplain : (s.clients i).encrypted = false)
    (hcan : CanAnswer io (s.clients i)) (hlined : Lined request) :
    (handleRequest prim io s i request).ok = true := by
  rcases handleRequest_responds prim hcan hlined with ⟨hok, -⟩ | ⟨-, hencrypted, -⟩
  · exact hok
  · rw [withVersion, setClient_same] at hencrypted
    exact absurd (hplain.symm.trans hencrypted) (by decide)

end Answers

end PortableAirplay.Protocol
