import PortableAirplay.Protocol.RtspServer

/-!
# What a request may do

The handlers differ in what they check and answer, but there are few things that
any of them does to the server. `StreamStep` lists the changes of the stream state
and its owner, with what had to hold for each; `ClientStep` bounds the changes of
the client that asked. `handleRequest_effect` says that every request keeps to
them, and later proofs argue from it and not from the handlers. The same is said of
closing a connection and of reading one (`ReceiveStep`).
-/

set_option autoImplicit false

namespace PortableAirplay.Protocol

open PortableAirplay.Airplay
open PortableAirplay.Library
open PortableAirplay.Platform
open PortableAirplay.Sync
open PortableAirplay.Util

/-! ## The client -/

/-- What a request may do to the client that sent it. -/
structure ClientStep (before after : RtspClient) : Prop where
  socket : after.socket = before.socket
  peer : after.peer = before.peer
  record : after.record = before.record
  encrypted : before.encrypted = true → after.encrypted = true
  starts : after.encrypted = true → before.encrypted = true ∨ after.pairing.established = true
  established : before.pairing.established = true →
    after.pairing.established = true ∧ after.pairing.readKey = before.pairing.readKey

theorem ClientStep.refl (client : RtspClient) : ClientStep client client where
  socket := rfl
  peer := rfl
  record := rfl
  encrypted h := h
  starts h := Or.inl h
  established h := ⟨h, rfl⟩

theorem ClientStep.trans {a b c : RtspClient} (hab : ClientStep a b) (hbc : ClientStep b c) :
    ClientStep a c where
  socket := hbc.socket.trans hab.socket
  peer := hbc.peer.trans hab.peer
  record := hbc.record.trans hab.record
  encrypted h := hbc.encrypted (hab.encrypted h)
  starts h := by
    rcases hbc.starts h with hb | hc
    · rcases hab.starts hb with ha | hb'
      · exact Or.inl ha
      · exact Or.inr (hbc.established hb').1
    · exact Or.inr hc
  established h := by
    obtain ⟨hb, hkey⟩ := hab.established h
    obtain ⟨hc, hkey'⟩ := hbc.established hb
    exact ⟨hc, hkey'.trans hkey⟩

/-- A client after some messages were sealed. -/
def RtspClient.withWrites (client : RtspClient) (n : UInt64) : RtspClient :=
  { client with pairing := { client.pairing with writeCounter := n } }

theorem ClientStep.writes (client : RtspClient) (n : UInt64) :
    ClientStep client (client.withWrites n) where
  socket := rfl
  peer := rfl
  record := rfl
  encrypted h := h
  starts h := Or.inl h
  established h := ⟨h, rfl⟩

theorem pairingSeal_client (aead : Aead) (p : Pairing) (message : List UInt8) :
    ∃ n, (pairingSeal aead p message).1 = { p with writeCounter := n } := by
  rcases pairingSeal_cases aead p message with h | ⟨query, cipher, tag, -, -, h⟩
  · exact ⟨p.writeCounter, by rw [h]⟩
  · exact ⟨p.writeCounter + 1, by rw [h]⟩

theorem sendRecords_client (prim : Primitives) (io : RequestIo) (chunks : List (List UInt8)) :
    ∀ (client : RtspClient) (sent : Sent),
      ∃ n, (sendRecords prim io client sent chunks).client = client.withWrites n := by
  induction chunks with
  | nil => exact fun client _ => ⟨client.pairing.writeCounter, rfl⟩
  | cons chunk rest ih =>
      intro client sent
      obtain ⟨n, hseal⟩ := pairingSeal_client prim.aead client.pairing chunk
      rw [sendRecords]
      cases hresult : pairingSeal prim.aead client.pairing chunk with
      | mk pairing record =>
          rw [hresult] at hseal
          dsimp only at hseal
          rw [hseal]
          cases record with
          | none => exact ⟨n, rfl⟩
          | some record =>
              dsimp only
              cases netTcpSendAll io client.socket sent record with
              | none => exact ⟨n, rfl⟩
              | some sent' => exact ih _ _

theorem sendClient_client (prim : Primitives) (io : RequestIo) (client : RtspClient)
    (sent : Sent) (data : List UInt8) :
    ∃ n, (sendClient prim io client sent data).client = client.withWrites n := by
  rw [sendClient]
  by_cases hplain : client.encrypted = false
  · rw [if_pos hplain]
    cases netTcpSendAll io client.socket sent data with
    | none => exact ⟨client.pairing.writeCounter, rfl⟩
    | some sent' => exact ⟨client.pairing.writeCounter, rfl⟩
  · rw [if_neg hplain]
    exact sendRecords_client prim io _ client sent

/-- Sending changes the write counter only. -/
theorem rtspSendResponse_client (prim : Primitives) (io : RequestIo) (client : RtspClient)
    (code : ℕ) (text : CString) (cseq : UInt32) (headers : CString) (body : List UInt8) :
    ∃ n, (rtspSendResponse prim io client code text cseq headers body).client =
      client.withWrites n := by
  rw [rtspSendResponse]
  dsimp only
  split
  · exact ⟨client.pairing.writeCounter, rfl⟩
  · obtain ⟨n, hhead⟩ := sendClient_client prim io client []
      (responseHead client code text cseq headers ++ contentLengthLine client body ++
        ascii "\r\n")
    split
    · exact ⟨n, hhead⟩
    · split
      · exact ⟨n, hhead⟩
      · rw [hhead]
        exact sendClient_client prim io _ _ body

/-! ## The stream -/

/-- The changes of the stream state and its owner by a request of client `i`. -/
inductive StreamStep (s : RtspServer) (i : Slot) (request : RtspRequest) :
    StreamState → Option Slot → Prop where
  | same : StreamStep s i request s.stream s.streamOwner
  | announce (parsed : SdpSession) (hmethod : request.method = .announce)
      (hparse : sdpParse request.body sdpScratchMax = some parsed)
      (hcodec : parsed.codec ≠ .unknown) :
      StreamStep s i request (announceStream s parsed) (some i)
  | setup (q : StreamRequest) (key : List UInt8) (hmethod : request.method = .setup)
      (hbody : isBinaryPlist request = true) (hencrypted : (s.clients i).encrypted = true)
      (hsupported : q.supported = true) :
      StreamStep s i request (setupStream s i (q.session key)) (some i)
  | timing (port : UInt16) (hmethod : request.method = .setup)
      (hbody : isBinaryPlist request = false) (howner : s.streamOwner = some i) :
      StreamStep s i request
        { s.stream with
          timingPeer := { (s.clients i).peer with port := port }
          generation := s.stream.generation + 1 } s.streamOwner
  | volume (level : UInt32) :
      StreamStep s i request { s.stream with volumeDb := level } s.streamOwner
  | flush (rtptime : Option UInt32) (howner : s.streamOwner = some i) :
      StreamStep s i request (flushStream s rtptime) s.streamOwner
  | record (rtptime : Option UInt32) (hmethod : request.method = .record)
      (htime : ∀ timestamp ∈ rtptime,
        rtpTime request = .found timestamp ∧ hasEventChannel s i = false)
      (howner : s.streamOwner = some i) (hsession : s.stream.hasSession = true) :
      StreamStep s i request (recordStream s rtptime) s.streamOwner
  | pause (howner : s.streamOwner = some i) :
      StreamStep s i request { s.stream with recording := false } s.streamOwner
  | release (hmethod : request.method = .teardown) (howner : s.streamOwner = some i) :
      StreamStep s i request (releasedStream s) none
  | anchor (a : AirplayAnchor) (hencrypted : (s.clients i).encrypted = true)
      (howner : s.streamOwner = some i) :
      StreamStep s i request (anchorStream s a) s.streamOwner
  | bufferedFlush (sequence : UInt32) (hencrypted : (s.clients i).encrypted = true)
      (howner : s.streamOwner = some i) :
      StreamStep s i request (bufferedFlushStream s sequence) s.streamOwner

/-- What a request of client `i` does to the server. -/
structure RequestEffect (s : RtspServer) (i : Slot) (request : RtspRequest)
    (after : RtspServer) : Prop where
  listener : after.listener = s.listener
  rx : after.rx = s.rx
  others : ∀ j, j ≠ i → after.clients j = s.clients j
  client : ClientStep (s.clients i) (after.clients i)
  stream : StreamStep s i request after.stream after.streamOwner

section Effect

variable {s after : RtspServer} {i : Slot} {request : RtspRequest}

theorem RequestEffect.refl (s : RtspServer) (i : Slot) (request : RtspRequest) :
    RequestEffect s i request s where
  listener := rfl
  rx := rfl
  others _ _ := rfl
  client := ClientStep.refl _
  stream := StreamStep.same

/-- A change of the client that keeps to `ClientStep`. -/
theorem RequestEffect.setClient (h : RequestEffect s i request after) {client : RtspClient}
    (hclient : ClientStep (after.clients i) client) :
    RequestEffect s i request (after.setClient i client) where
  listener := h.listener
  rx := h.rx
  others j hj := by
    rw [setClient_other _ _ _ _ hj]
    exact h.others j hj
  client := by
    rw [setClient_same]
    exact h.client.trans hclient
  stream := h.stream

/-- A change of the stream state and its owner alone. -/
theorem RequestEffect.ofStream {stream : StreamState} {owner : Option Slot}
    (h : StreamStep s i request stream owner) :
    RequestEffect s i request { s with stream := stream, streamOwner := owner } where
  listener := rfl
  rx := rfl
  others _ _ := rfl
  client := ClientStep.refl _
  stream := h

theorem RequestEffect.ofSetStream {stream : StreamState}
    (h : StreamStep s i request stream s.streamOwner) :
    RequestEffect s i request (s.setStream stream) := RequestEffect.ofStream h

variable (prim : Primitives) (io : RequestIo)

/-- An answer adds nothing. -/
theorem RequestEffect.respond (h : RequestEffect s i request after) (code : ℕ) (text : CString)
    (cseq : UInt32) (headers : CString) (body : List UInt8) :
    RequestEffect s i request
      (respond prim io after i code text cseq headers body).server := by
  obtain ⟨n, hclient⟩ := rtspSendResponse_client prim io (after.clients i) code text cseq headers
    body
  apply h.setClient
  rw [hclient]
  exact ClientStep.writes _ n

theorem RequestEffect.answer (h : RequestEffect s i request after) (code : ℕ) (text : CString) :
    RequestEffect s i request (answer prim io after i request code text).server :=
  h.respond prim io code text request.cseq [] []

theorem RequestEffect.status (h : RequestEffect s i request after) (code : ℕ) (text : CString) :
    RequestEffect s i request (status prim io after i request code text).server :=
  h.answer prim io code text

theorem RequestEffect.plistResponse (h : RequestEffect s i request after) (w : BplistWriter)
    (root : ℕ) :
    RequestEffect s i request (plistResponse prim io after i request w root).server := by
  rw [Airplay.plistResponse]
  split
  · exact h.status prim io _ _
  · exact h.respond prim io _ _ _ _ _

/-! ## AirPlay 1 -/

theorem airplayRtspAnnounce_effect (hmethod : request.method = .announce) :
    RequestEffect s i request (airplayRtspAnnounce prim io s i request).server := by
  have hrefl := RequestEffect.refl s i request
  rw [airplayRtspAnnounce]
  by_cases hbody : request.body = []
  · rw [if_pos hbody]
    exact hrefl.answer prim io _ _
  · rw [if_neg hbody]
    cases hparse : sdpParse request.body sdpScratchMax with
    | none => exact hrefl.answer prim io _ _
    | some parsed =>
        dsimp only
        by_cases hcodec : parsed.codec = .unknown
        · rw [if_pos hcodec]
          exact hrefl.answer prim io _ _
        · rw [if_neg hcodec]
          have hannounce : StreamStep s i request (announceStream s parsed) (some i) :=
            StreamStep.announce parsed hmethod hparse hcodec
          exact (RequestEffect.ofStream hannounce).answer prim io _ _

theorem airplayRtspSetup_effect (hmethod : request.method = .setup)
    (hbody : isBinaryPlist request = false) :
    RequestEffect s i request (airplayRtspSetup prim io s i request).server := by
  have hrefl := RequestEffect.refl s i request
  rw [airplayRtspSetup]
  cases transportTimingPort (getHeaderValue request (ascii "Transport")) with
  | none => exact hrefl.answer prim io _ _
  | some port =>
      dsimp only
      by_cases howner : s.streamOwner = some i
      · rw [if_pos howner]
        exact (RequestEffect.ofSetStream (StreamStep.timing port hmethod hbody howner)).respond
          prim io _ _ _ _ _
      · rw [if_neg howner]
        exact hrefl.respond prim io _ _ _ _ _

theorem airplayRtspSetParameter_effect :
    RequestEffect s i request (airplayRtspSetParameter prim io s i request).server := by
  rw [airplayRtspSetParameter]
  dsimp only
  cases (if hasTextParameters request then parseBodyVolumeDb prim request else none) with
  | none => exact (RequestEffect.refl s i request).answer prim io _ _
  | some level =>
      exact (RequestEffect.ofSetStream (StreamStep.volume level)).answer prim io _ _

theorem acceptFlush_effect (rtptime : Option UInt32) :
    RequestEffect s i request (acceptFlush prim io s i request rtptime).server := by
  rw [acceptFlush]
  by_cases howner : s.streamOwner = some i
  · rw [if_pos howner]
    exact (RequestEffect.ofSetStream (StreamStep.flush rtptime howner)).answer prim io _ _
  · rw [if_neg howner]
    exact (RequestEffect.refl s i request).answer prim io _ _

theorem airplayRtspFlush_effect :
    RequestEffect s i request (airplayRtspFlush prim io s i request).server := by
  rw [airplayRtspFlush]
  cases rtpTime request with
  | invalid => exact (RequestEffect.refl s i request).answer prim io _ _
  | absent => exact acceptFlush_effect prim io none
  | found timestamp => exact acceptFlush_effect prim io (some timestamp)

theorem airplayRtspTeardown_effect (hmethod : request.method = .teardown) :
    RequestEffect s i request (airplayRtspTeardown prim io s i request).server := by
  rw [airplayRtspTeardown, releaseStream]
  by_cases howner : s.streamOwner = some i
  · rw [if_pos howner]
    have hrelease : StreamStep s i request (releasedStream s) none :=
      StreamStep.release hmethod howner
    exact (RequestEffect.ofStream hrelease).answer prim io _ _
  · rw [if_neg howner]
    exact (RequestEffect.refl s i request).answer prim io _ _

theorem airplayRtspPause_effect :
    RequestEffect s i request (airplayRtspPause prim io s i request).server := by
  rw [airplayRtspPause]
  dsimp only
  by_cases howner : s.streamOwner = some i
  · rw [if_pos howner]
    exact (RequestEffect.ofSetStream (StreamStep.pause howner)).answer prim io _ _
  · rw [if_neg howner]
    exact (RequestEffect.refl s i request).answer prim io _ _

theorem acceptRecord_effect (hmethod : request.method = .record) (rtptime : Option UInt32)
    (htime : ∀ timestamp ∈ rtptime,
      rtpTime request = .found timestamp ∧ hasEventChannel s i = false) :
    RequestEffect s i request (acceptRecord prim io s i request rtptime).server := by
  rw [acceptRecord]
  by_cases howner : (s.stream.hasSession && s.streamOwner == some i) = true
  · rw [if_pos howner]
    rw [Bool.and_eq_true, beq_iff_eq] at howner
    have hrecord := StreamStep.record rtptime hmethod htime howner.2 howner.1
    exact (RequestEffect.ofSetStream hrecord).respond prim io _ _ _ _ _
  · rw [if_neg howner]
    exact (RequestEffect.refl s i request).answer prim io _ _

theorem airplayRtspRecord_effect (hmethod : request.method = .record)
    (hplain : hasEventChannel s i = false) :
    RequestEffect s i request (airplayRtspRecord prim io s i request).server := by
  rw [airplayRtspRecord]
  cases htime : rtpTime request with
  | invalid => exact (RequestEffect.refl s i request).answer prim io _ _
  | absent => exact acceptRecord_effect prim io hmethod none (by simp)
  | found timestamp =>
      exact acceptRecord_effect prim io hmethod (some timestamp) (by simp [htime, hplain])

theorem airplayRtspPlay_effect :
    RequestEffect s i request (airplayRtspPlay prim io s i request).server := by
  have hrefl := RequestEffect.refl s i request
  rw [airplayRtspPlay]
  cases getHeaderValue request (ascii "Session") with
  | none => exact hrefl.answer prim io _ _
  | some session =>
      dsimp only
      split
      · exact hrefl.answer prim io _ _
      · exact hrefl.respond prim io _ _ _ _ _

/-! ## AirPlay 2 -/

theorem openEncryptedPlist_effect {next : Bplist → HandlerResult}
    (hnext : ∀ p, (s.clients i).encrypted = true → RequestEffect s i request (next p).server) :
    RequestEffect s i request (openEncryptedPlist prim io s i request next).server := by
  have hrefl := RequestEffect.refl s i request
  rw [openEncryptedPlist]
  by_cases hplain : (s.clients i).encrypted = false
  · rw [if_pos hplain]
    exact hrefl.status prim io _ _
  · rw [if_neg hplain]
    cases bplistOpen request.body with
    | none => exact hrefl.status prim io _ _
    | some p => exact hnext p (by simpa using hplain)

theorem setupEvents_effect (p : Bplist) :
    RequestEffect s i request (setupEvents prim io s i request p).server := by
  have hrefl := RequestEffect.refl s i request
  rw [setupEvents]
  split
  · exact hrefl.status prim io _ _
  · dsimp only
    split
    · exact hrefl.status prim io _ _
    · rename_i listener _
      have hopened : ClientStep (s.clients i) { s.clients i with eventListener := listener } :=
        ⟨rfl, rfl, rfl, fun h => h, fun h => Or.inl h, fun h => ⟨h, rfl⟩⟩
      exact (hrefl.setClient hopened).plistResponse prim io _ _

theorem setupAudio_effect (p : Bplist) (streams : ℕ) (hmethod : request.method = .setup)
    (hbody : isBinaryPlist request = true) (hencrypted : (s.clients i).encrypted = true) :
    RequestEffect s i request (setupAudio prim io s i request p streams).server := by
  have hrefl := RequestEffect.refl s i request
  rw [setupAudio]
  split
  · exact hrefl.status prim io _ _
  · dsimp only
    split
    · exact hrefl.status prim io _ _
    · rename_i hsupported
      split
      · exact hrefl.status prim io _ _
      · split
        · exact hrefl.status prim io _ _
        · rename_i key _
          have hstep : StreamStep s i request
              (setupStream s i ((streamRequest p (bplistAt p streams 0)).session key))
              (some i) :=
            StreamStep.setup _ key hmethod hbody hencrypted (by simpa using hsupported)
          exact (RequestEffect.ofStream hstep).plistResponse prim io _ _

theorem airplay2Setup_effect (hmethod : request.method = .setup)
    (hbody : isBinaryPlist request = true) :
    RequestEffect s i request (airplay2Setup prim io s i request).server := by
  apply openEncryptedPlist_effect
  intro p hencrypted
  rw [setup]
  split
  · exact setupEvents_effect prim io p
  · exact setupAudio_effect prim io p _ hmethod hbody hencrypted

theorem airplay2SetRateAnchorTime_effect :
    RequestEffect s i request (airplay2SetRateAnchorTime prim io s i request).server := by
  apply openEncryptedPlist_effect
  intro p hencrypted
  have hrefl := RequestEffect.refl s i request
  rw [setAnchor]
  cases requestedAnchor p with
  | none => exact hrefl.status prim io _ _
  | some a =>
      dsimp only
      by_cases howner : s.streamOwner = some i
      · rw [if_neg (not_not.mpr howner)]
        exact (RequestEffect.ofSetStream (StreamStep.anchor a hencrypted howner)).status
          prim io _ _
      · rw [if_pos howner]
        exact hrefl.status prim io _ _

theorem airplay2FlushBuffered_effect :
    RequestEffect s i request (airplay2FlushBuffered prim io s i request).server := by
  apply openEncryptedPlist_effect
  intro p hencrypted
  have hrefl := RequestEffect.refl s i request
  rw [flushBuffered]
  cases flushUntilSequence p with
  | none => exact hrefl.status prim io _ _
  | some sequence =>
      dsimp only
      by_cases howner : s.streamOwner = some i
      · rw [if_pos howner]
        exact (RequestEffect.ofSetStream
          (StreamStep.bufferedFlush sequence hencrypted howner)).status prim io _ _
      · rw [if_neg howner]
        exact hrefl.status prim io _ _

theorem airplay2Record_effect (hmethod : request.method = .record) :
    RequestEffect s i request (airplay2Record prim io s i request).server := by
  have hstep : RequestEffect s i request
      (if s.streamOwner = some i ∧ s.stream.hasSession = true then
        s.setStream { s.stream with recording := true }
      else s) := by
    split
    · rename_i howner
      exact RequestEffect.ofSetStream
        (StreamStep.record none hmethod (by simp) howner.1 howner.2)
    · exact RequestEffect.refl s i request
  rw [airplay2Record]
  dsimp only
  split
  · exact hstep.status prim io _ _
  · exact hstep.respond prim io _ _ _ _ _

theorem airplay2FairplaySetup_effect :
    RequestEffect s i request (airplay2FairplaySetup prim io s i request).server := by
  have hstage : ∀ stage : UInt8,
      RequestEffect s i request
        (s.setClient i { s.clients i with fairplayStage := stage }) := by
    intro stage
    apply (RequestEffect.refl s i request).setClient
    exact ⟨rfl, rfl, rfl, fun h => h, fun h => Or.inl h, fun h => ⟨h, rfl⟩⟩
  rw [airplay2FairplaySetup]
  split
  · exact (hstage _).status prim io _ _
  · exact (hstage _).respond prim io _ _ _ _ _

/-- Encryption starts on an established pairing only. -/
theorem startEncryption_effect {r : HandlerResult} (h : RequestEffect s i request r.server) :
    RequestEffect s i request (startEncryption i r).server := by
  rw [startEncryption]
  split
  · rename_i hready
    rw [Bool.and_eq_true] at hready
    apply h.setClient
    exact ⟨rfl, rfl, rfl, fun _ => rfl, fun _ => Or.inr hready.2, fun hbefore => ⟨hbefore, rfl⟩⟩
  · exact h

theorem airplay2PairSetup_effect :
    RequestEffect s i request (airplay2PairSetup prim io s i request).server := by
  have hpairing : RequestEffect s i request
      (s.setClient i { s.clients i with
        pairing := (pairingSetup prim.srp io.pairSetup (s.clients i).pairing
          request.body 512).1 }) := by
    apply (RequestEffect.refl s i request).setClient
    refine ⟨rfl, rfl, rfl, fun h => h, fun h => Or.inl h, fun hbefore => ?_⟩
    rw [pairingSetup_of_established _ _ _ _ hbefore]
    exact ⟨hbefore, rfl⟩
  rw [airplay2PairSetup]
  split
  · exact hpairing.status prim io _ _
  · exact startEncryption_effect (hpairing.respond prim io _ _ _ _ _)

theorem airplay2Feedback_effect :
    RequestEffect s i request (airplay2Feedback prim io s i request).server := by
  have hrefl := RequestEffect.refl s i request
  rw [airplay2Feedback]
  split
  · exact hrefl.status prim io _ _
  · exact hrefl.plistResponse prim io _ _

theorem airplay2Acknowledge_effect :
    RequestEffect s i request (airplay2Acknowledge prim io s i request).server := by
  have hrefl := RequestEffect.refl s i request
  rw [airplay2Acknowledge]
  split
  · exact hrefl.status prim io _ _
  · exact hrefl.status prim io _ _

/-! ## Every request -/

theorem handlePost_effect :
    RequestEffect s i request (handlePost prim io s i request).server := by
  rw [handlePost]
  split
  · exact airplay2PairSetup_effect prim io
  · split
    · exact airplay2FairplaySetup_effect prim io
    · split
      · exact airplay2Feedback_effect prim io
      · split
        · exact airplay2Acknowledge_effect prim io
        · exact (RequestEffect.refl s i request).answer prim io _ _

theorem handleRecord_effect (hmethod : request.method = .record) :
    RequestEffect s i request (handleRecord prim io s i request).server := by
  rw [handleRecord]
  by_cases hchannel : hasEventChannel s i = true
  · rw [if_pos hchannel]
    exact airplay2Record_effect prim io hmethod
  · rw [if_neg hchannel]
    exact airplayRtspRecord_effect prim io hmethod (by simpa using hchannel)

theorem routeRequest_effect :
    RequestEffect s i request (routeRequest prim io s i request).server := by
  -- most handlers answer only; those that touch the stream have a lemma each
  have hrefl := RequestEffect.refl s i request
  rw [routeRequest]
  cases hmethod : request.method with
  | unknown => exact hrefl.answer prim io _ _
  | get =>
      dsimp only
      split
      · exact hrefl.plistResponse prim io _ _
      · exact hrefl.answer prim io _ _
  | post => exact handlePost_effect prim io
  | options => exact hrefl.respond prim io _ _ _ _ _
  | announce => exact airplayRtspAnnounce_effect prim io hmethod
  | describe => exact hrefl.answer prim io _ _
  | setup =>
      dsimp only
      by_cases hbody : isBinaryPlist request = true
      · rw [if_pos hbody]
        exact airplay2Setup_effect prim io hmethod hbody
      · rw [if_neg hbody]
        exact airplayRtspSetup_effect prim io hmethod (by simpa using hbody)
  | record => exact handleRecord_effect prim io hmethod
  | flush => exact airplayRtspFlush_effect prim io
  | flushBuffered =>
      dsimp only
      split
      · exact airplay2FlushBuffered_effect prim io
      · exact airplayRtspFlush_effect prim io
  | play => exact airplayRtspPlay_effect prim io
  | pause => exact airplayRtspPause_effect prim io
  | teardown => exact airplayRtspTeardown_effect prim io hmethod
  | getParameter => exact hrefl.respond prim io _ _ _ _ _
  | setParameter => exact airplayRtspSetParameter_effect prim io
  | setPeers => exact airplay2Acknowledge_effect prim io
  | setRateAnchorTime => exact airplay2SetRateAnchorTime_effect prim io

theorem withVersion_client (s : RtspServer) (i : Slot) (request : RtspRequest) :
    ClientStep (s.clients i) ((withVersion s i request).clients i) := by
  rw [withVersion, setClient_same]
  exact ⟨rfl, rfl, rfl, fun h => h, fun h => Or.inl h, fun h => ⟨h, rfl⟩⟩

@[simp] theorem withVersion_encrypted (s : RtspServer) (i : Slot) (request : RtspRequest) :
    ((withVersion s i request).clients i).encrypted = (s.clients i).encrypted := by
  rw [withVersion, setClient_same]

@[simp] theorem withVersion_peer (s : RtspServer) (i : Slot) (request : RtspRequest) :
    ((withVersion s i request).clients i).peer = (s.clients i).peer := by
  rw [withVersion, setClient_same]

@[simp] theorem withVersion_hasEventChannel (s : RtspServer) (i : Slot) (request : RtspRequest) :
    hasEventChannel (withVersion s i request) i = hasEventChannel s i := by
  rw [hasEventChannel, hasEventChannel, withVersion, setClient_same]

/-- The stream does not see the version that a client answers in. -/
theorem StreamStep.ofWithVersion {stream : StreamState} {owner : Option Slot}
    (h : StreamStep (withVersion s i request) i request stream owner) :
    StreamStep s i request stream owner := by
  cases h with
  | same => exact StreamStep.same
  | announce parsed hmethod hparse hcodec =>
      exact StreamStep.announce parsed hmethod hparse hcodec
  | setup q key hmethod hbody hencrypted hsupported =>
      rw [withVersion_encrypted] at hencrypted
      rw [setupStream, withVersion_peer]
      exact StreamStep.setup q key hmethod hbody hencrypted hsupported
  | timing port hmethod hbody howner =>
      rw [withVersion_peer]
      exact StreamStep.timing port hmethod hbody howner
  | volume level => exact StreamStep.volume level
  | flush rtptime howner => exact StreamStep.flush rtptime howner
  | record rtptime hmethod htime howner hsession =>
      rw [withVersion_hasEventChannel] at htime
      exact StreamStep.record rtptime hmethod htime howner hsession
  | pause howner => exact StreamStep.pause howner
  | release hmethod howner => exact StreamStep.release hmethod howner
  | anchor a hencrypted howner =>
      rw [withVersion_encrypted] at hencrypted
      exact StreamStep.anchor a hencrypted howner
  | bufferedFlush sequence hencrypted howner =>
      rw [withVersion_encrypted] at hencrypted
      exact StreamStep.bufferedFlush sequence hencrypted howner

/-- **What a request may do.** -/
theorem handleRequest_effect (s : RtspServer) (i : Slot) (request : RtspRequest) :
    RequestEffect s i request (handleRequest prim io s i request).server := by
  have hroute : RequestEffect (withVersion s i request) i request
      (handleRequest prim io s i request).server := routeRequest_effect prim io
  exact
    { listener := hroute.listener
      rx := hroute.rx
      others := fun j hj => by
        rw [hroute.others j hj, withVersion, setClient_other _ _ _ _ hj]
      client := (withVersion_client s i request).trans hroute.client
      stream := hroute.stream.ofWithVersion }

end Effect

/-! ## Closing and reading -/

theorem releaseStream_clients (s : RtspServer) (i : Slot) :
    (releaseStream s i).clients = s.clients := by
  rw [releaseStream]
  split
  · rfl
  · rfl

theorem releaseStream_rx (s : RtspServer) (i : Slot) : (releaseStream s i).rx = s.rx := by
  rw [releaseStream]
  split
  · rfl
  · rfl

theorem closeClient_stream (s : RtspServer) (i : Slot) :
    (closeClient s i).stream = (releaseStream s i).stream := rfl

theorem closeClient_other (s : RtspServer) {i j : Slot} (h : j ≠ i) :
    (closeClient s i).clients j = s.clients j ∧ (closeClient s i).rx j = s.rx j := by
  rw [closeClient]
  constructor
  · rw [setRx_clients, setClient_other _ _ _ _ h, releaseStream_clients]
  · rw [setRx_other _ _ _ _ h, setClient_rx, releaseStream_rx]

theorem closeClient_client (s : RtspServer) (i : Slot) :
    (closeClient s i).clients i =
      { RtspClient.closed with http := (s.clients i).http } := by
  rw [closeClient, setRx_clients, setClient_same, releaseStream_clients]

/-- Reading changes the pairing and the record only. -/
theorem receiveClient_client (aead : Aead) (client : RtspClient) (capacity : ℕ)
    (offer : RecvOffer) :
    ∃ pairing record, (receiveClient aead client capacity offer).1 =
      { client with pairing := pairing, record := record } := by
  rw [receiveClient]
  dsimp only
  generalize (if client.record.length < 2 then 2 else recordLength client.record + 18) = need
  split
  · exact ⟨client.pairing, client.record, rfl⟩
  · split
    · exact ⟨client.pairing, client.record, rfl⟩
    · split
      · exact ⟨client.pairing, client.record, rfl⟩
      · exact ⟨client.pairing, client.record, rfl⟩
      · exact ⟨client.pairing, client.record, rfl⟩
      · split
        · exact ⟨client.pairing, _, rfl⟩
        · split
          · exact ⟨_, [], rfl⟩
          · exact ⟨_, [], rfl⟩

/-- What reading may change of a client. -/
structure ReceiveStep (before after : RtspClient) : Prop where
  socket : after.socket = before.socket
  peer : after.peer = before.peer
  encrypted : after.encrypted = before.encrypted
  established : after.pairing.established = before.pairing.established
  readKey : after.pairing.readKey = before.pairing.readKey

theorem receiveClient_step (aead : Aead) (client : RtspClient) (capacity : ℕ)
    (offer : RecvOffer) :
    ReceiveStep client (receiveClient aead client capacity offer).1 := by
  have hrefl : ReceiveStep client client := ⟨rfl, rfl, rfl, rfl, rfl⟩
  rw [receiveClient]
  dsimp only
  generalize (if client.record.length < 2 then 2 else recordLength client.record + 18) = need
  split
  · exact hrefl
  · split
    · exact hrefl
    · split
      · exact hrefl
      · exact hrefl
      · exact hrefl
      · split
        · exact ⟨rfl, rfl, rfl, rfl, rfl⟩
        · rename_i b data _ _
          -- opening a record moves the read counter only
          rcases pairingOpen_cases aead client.pairing ((client.record ++ b :: data).take need)
            with hopen | ⟨query, tag, plain, -, -, hopen⟩
          · rw [hopen]
            exact ⟨rfl, rfl, rfl, rfl, rfl⟩
          · rw [hopen]
            exact ⟨rfl, rfl, rfl, rfl, rfl⟩

/-- A connection that is gone gives no bytes. -/
theorem receiveClient_closed (aead : Aead) (client : RtspClient) (capacity : ℕ)
    (offer : RecvOffer) (hclosed : client.socket.isOpen = false) (data : List UInt8) :
    (receiveClient aead client capacity offer).2 ≠ .bytes data := by
  have hrecv : ∀ n, netTcpRecv client.socket n offer = .error := by
    intro n
    rw [netTcpRecv.eq_def, if_pos (Or.inl hclosed)]
  rw [receiveClient]
  dsimp only
  split
  · rw [hrecv]
    exact RecvResult.noConfusion
  · split
    · exact RecvResult.noConfusion
    · rw [hrecv]
      exact RecvResult.noConfusion

/-! ## Turns touch one slot -/

/-- The other slots are as they were, and the log is about slot `i` only. -/
structure OnlySlot (i : Slot) (before after : RtspServer) (log : List RtspEvent) : Prop where
  clients : ∀ j, j ≠ i → after.clients j = before.clients j
  rx : ∀ j, j ≠ i → after.rx j = before.rx j
  log : ∀ e ∈ log, e.slot = i

theorem OnlySlot.refl (i : Slot) (s : RtspServer) : OnlySlot i s s [] where
  clients _ _ := rfl
  rx _ _ := rfl
  log _ h := by simp at h

theorem OnlySlot.trans {i : Slot} {a b c : RtspServer} {first second : List RtspEvent}
    (hab : OnlySlot i a b first) (hbc : OnlySlot i b c second) :
    OnlySlot i a c (first ++ second) where
  clients j hj := (hbc.clients j hj).trans (hab.clients j hj)
  rx j hj := (hbc.rx j hj).trans (hab.rx j hj)
  log e he := by
    rcases List.mem_append.mp he with he | he
    · exact hab.log e he
    · exact hbc.log e he

theorem OnlySlot.setClient (i : Slot) (s : RtspServer) (client : RtspClient) :
    OnlySlot i s (s.setClient i client) [] where
  clients _ hj := setClient_other _ _ _ _ hj
  rx _ _ := rfl
  log _ h := by simp at h

theorem OnlySlot.setRx (i : Slot) (s : RtspServer) (data : List UInt8) :
    OnlySlot i s (s.setRx i data) [] where
  clients _ _ := rfl
  rx _ hj := setRx_other _ _ _ _ hj
  log _ h := by simp at h

/-- Events of the slot. -/
theorem OnlySlot.events {i : Slot} {before after : RtspServer} (h : OnlySlot i before after [])
    {log : List RtspEvent} (hlog : ∀ e ∈ log, e.slot = i) : OnlySlot i before after log :=
  ⟨h.clients, h.rx, hlog⟩

theorem closeTurn_only {i : Slot} {before s : RtspServer} {log : List RtspEvent}
    (h : OnlySlot i before s log) :
    OnlySlot i before (closeTurn s i log).server (closeTurn s i log).log := by
  apply h.trans
  refine ⟨fun j hj => (closeClient_other s hj).1, fun j hj => (closeClient_other s hj).2, ?_⟩
  intro e he
  rw [List.mem_singleton] at he
  rw [he]
  rfl

theorem receivedEvent_slot (client : RtspClient) (i : Slot) (data : List UInt8) :
    (receivedEvent client i data).slot = i := by
  rw [receivedEvent]
  split
  · rfl
  · rfl

theorem dispatchLog_slot (s : RtspServer) (i : Slot) (request : RtspRequest)
    (raw : List UInt8) (r : HandlerResult) :
    ∀ e ∈ dispatchLog s i request raw r, e.slot = i := by
  intro e he
  rw [dispatchLog, List.mem_cons] at he
  rcases he with rfl | he
  · rfl
  · split at he
    · rw [List.mem_singleton] at he
      rw [he]
      rfl
    · simp at he

theorem receiveTurn_only (prim : Primitives) (s : RtspServer) (i : Slot) (offer : RecvOffer) :
    OnlySlot i s (receiveTurn prim s i offer).server (receiveTurn prim s i offer).log := by
  rw [receiveTurn]
  generalize receiveClient prim.aead (s.clients i) (rtspRxBufferSize - (s.rx i).length) offer = r
  have hclient := OnlySlot.setClient i s r.1
  cases r.2 with
  | timeout => exact hclient
  | error => exact closeTurn_only hclient
  | bytes data =>
      cases data with
      | nil => exact closeTurn_only hclient
      | cons b data =>
          have hrx := OnlySlot.setRx i (s.setClient i r.1) (s.rx i ++ b :: data)
          refine (hclient.trans hrx).events fun e he => ?_
          rw [List.mem_singleton] at he
          rw [he]
          exact receivedEvent_slot _ _ _

theorem requestTurn_only (prim : Primitives) (io : RequestIo) (s : RtspServer) (i : Slot) :
    OnlySlot i s (requestTurn prim io s i).server (requestTurn prim io s i).log := by
  rw [requestTurn]
  cases parseRequest (s.rx i) with
  | incomplete => exact OnlySlot.refl i s
  | reject =>
      apply closeTurn_only
      refine (OnlySlot.setClient i s _).events fun e he => ?_
      rw [List.mem_singleton] at he
      rw [he]
      rfl
  | accept request n =>
      have heffect := handleRequest_effect prim io s i request
      dsimp only
      generalize handleRequest prim io s i request = r at heffect ⊢
      have hhandled : OnlySlot i s r.server [] :=
        ⟨heffect.others, fun j _ => by rw [heffect.rx], fun e he => by simp at he⟩
      have hlog := dispatchLog_slot s i request ((s.rx i).take n) r
      have hrest := hhandled.trans (OnlySlot.setRx i r.server ((r.server.rx i).drop n))
      split
      · exact closeTurn_only (hhandled.events hlog)
      · split
        · exact closeTurn_only (hrest.events hlog)
        · exact hrest.events hlog

theorem requestLoop_only (prim : Primitives) (i : Slot) :
    ∀ (fuel : ℕ) (io : ℕ → RequestIo) (s : RtspServer),
      OnlySlot i s (requestLoop prim i fuel io s).server (requestLoop prim i fuel io s).log := by
  intro fuel
  induction fuel with
  | zero => exact fun _ s => OnlySlot.refl i s
  | succ fuel ih =>
      intro io s
      have hturn := requestTurn_only prim (io 0) s i
      rw [requestLoop]
      split
      · exact OnlySlot.refl i s
      · dsimp only
        split
        · exact hturn
        · exact hturn.trans (ih _ _)

theorem clientTurns_only (prim : Primitives) (io : PollIo) (s : RtspServer) (i : Slot) :
    OnlySlot i s (clientTurns prim io s i).server (clientTurns prim io s i).log := by
  have hreceive := receiveTurn_only prim s i (io.data i)
  rw [clientTurns]
  dsimp only
  split
  · exact hreceive
  · exact hreceive.trans (requestLoop_only prim i _ _ _)

theorem eventAcceptTurn_only (s : RtspServer) (i : Slot) (offer : AcceptOffer) :
    OnlySlot i s (eventAcceptTurn s i offer) [] := by
  rw [eventAcceptTurn.eq_def]
  split
  · dsimp only
    split
    · exact OnlySlot.refl i s
    · exact OnlySlot.setClient i s _
  · exact OnlySlot.refl i s
  · exact OnlySlot.refl i s

theorem eventReceiveTurn_only (s : RtspServer) (i : Slot) (offer : RecvOffer) :
    OnlySlot i s (eventReceiveTurn s i offer) [] := by
  rw [eventReceiveTurn]
  split
  · exact OnlySlot.setClient i s _
  · exact OnlySlot.refl i s
  · exact OnlySlot.refl i s
  · exact OnlySlot.setClient i s _

theorem eventTurns_only (io : PollIo) (ready : Ready) (s : RtspServer) (i : Slot) :
    OnlySlot i s (eventTurns io ready s i) [] := by
  rw [eventTurns]
  cases ready.eventListener i with
  | false =>
      cases ready.eventClient i with
      | false => exact OnlySlot.refl i s
      | true => exact eventReceiveTurn_only s i _
  | true =>
      cases ready.eventClient i with
      | false => exact eventAcceptTurn_only s i _
      | true => exact (eventAcceptTurn_only s i _).trans (eventReceiveTurn_only _ i _)

/-- The event channel leaves the connection alone. -/
theorem eventAcceptTurn_client (s : RtspServer) (i : Slot) (offer : AcceptOffer) :
    ∃ socket, (eventAcceptTurn s i offer).clients i =
      { s.clients i with eventClient := socket } ∧ (eventAcceptTurn s i offer).rx = s.rx := by
  rw [eventAcceptTurn.eq_def]
  cases offer with
  | accepted handle peer =>
      dsimp only
      split
      · exact ⟨_, rfl, rfl⟩
      · exact ⟨_, setClient_same .., rfl⟩
  | timeout => exact ⟨_, rfl, rfl⟩
  | error => exact ⟨_, rfl, rfl⟩

theorem eventReceiveTurn_client (s : RtspServer) (i : Slot) (offer : RecvOffer) :
    ∃ socket, (eventReceiveTurn s i offer).clients i =
      { s.clients i with eventClient := socket } ∧ (eventReceiveTurn s i offer).rx = s.rx := by
  rw [eventReceiveTurn]
  cases netTcpRecv (s.clients i).eventClient 1024 offer with
  | timeout => exact ⟨_, rfl, rfl⟩
  | error => exact ⟨_, setClient_same .., rfl⟩
  | bytes data =>
      cases data with
      | nil => exact ⟨_, setClient_same .., rfl⟩
      | cons b data => exact ⟨_, rfl, rfl⟩

theorem eventTurns_client (io : PollIo) (ready : Ready) (s : RtspServer) (i : Slot) :
    ∃ socket, (eventTurns io ready s i).clients i = { s.clients i with eventClient := socket } ∧
      (eventTurns io ready s i).rx = s.rx := by
  rw [eventTurns]
  dsimp only
  have hfirst : ∃ socket, (if ready.eventListener i then
      eventAcceptTurn s i (io.eventAccept i) else s).clients i =
        { s.clients i with eventClient := socket } ∧
      (if ready.eventListener i then eventAcceptTurn s i (io.eventAccept i) else s).rx = s.rx := by
    split
    · exact eventAcceptTurn_client s i _
    · exact ⟨_, rfl, rfl⟩
  obtain ⟨first, hfirst, hrx⟩ := hfirst
  split
  · obtain ⟨second, hsecond, hrx'⟩ := eventReceiveTurn_client
      (if ready.eventListener i then eventAcceptTurn s i (io.eventAccept i) else s) i
      (io.eventData i)
    exact ⟨second, by rw [hsecond, hfirst], hrx'.trans hrx⟩
  · exact ⟨first, hfirst, hrx⟩

/-- **A round over a slot leaves the other slots alone.** -/
theorem slotTurns_only (prim : Primitives) (io : PollIo) (ready : Ready) (s : RtspServer)
    (i : Slot) :
    OnlySlot i s (slotTurns prim io ready s i).server (slotTurns prim io ready s i).log := by
  have hevent := eventTurns_only io ready s i
  rw [slotTurns]
  split
  · exact hevent
  · exact hevent.trans (clientTurns_only prim io _ i)

end PortableAirplay.Protocol
