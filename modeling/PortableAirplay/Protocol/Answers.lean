import PortableAirplay.Protocol.ResponseReading
import PortableAirplay.Protocol.RtspServer

/-!
# The answer to a request

Every path through the handlers ends with one answer. `Answered` says what all answers
have in common, and `handleRequest_handled` that every request gets one. The headers of an
answer are whole lines if those of the request are (`Lined`): the session of a PLAY is repeated.
-/

set_option autoImplicit false

namespace PortableAirplay.Protocol

open PortableAirplay.Airplay
open PortableAirplay.Library
open PortableAirplay.Platform
open PortableAirplay.Util

/-! ## Answers -/

/-- An answer that is about to be sent: the server by then, and the arguments of
`rtsp_send_response`. -/
structure Answer where
  server : RtspServer
  code : ℕ
  text : CString
  headers : CString
  body : List UInt8

/-- The answer is sent. -/
def Answer.send (prim : Primitives) (io : RequestIo) (i : Slot) (request : RtspRequest)
    (a : Answer) : HandlerResult :=
  respond prim io a.server i a.code a.text request.cseq a.headers a.body

/-- What all answers to client `i` have in common. The connection is as it was, the
answer fits and is well formed, and a request that is refused has changed nothing of the
stream. -/
structure Answered (s : RtspServer) (i : Slot) (request : RtspRequest) (a : Answer) : Prop where
  socket : (a.server.clients i).socket = (s.clients i).socket
  encrypted : (a.server.clients i).encrypted = (s.clients i).encrypted
  http : (a.server.clients i).http = (s.clients i).http
  pairing : (s.clients i).pairing.established = true →
    (a.server.clients i).pairing = (s.clients i).pairing
  code : a.code = 200 ∨ 400 ≤ a.code
  refused : 400 ≤ a.code → a.server.stream = s.stream ∧ a.server.streamOwner = s.streamOwner
  fits : a.headers.length ≤ 800 ∧ a.body.length ≤ 2048
  status : a.code < 600 ∧ IsPhrase a.text
  lines : Lined request → IsHeaders a.headers

/-- The result of a handler is an answer, after which encryption may start. -/
inductive Handled (prim : Primitives) (io : RequestIo) (s : RtspServer) (i : Slot)
    (request : RtspRequest) : HandlerResult → Prop where
  | sent (a : Answer) (h : Answered s i request a) :
      Handled prim io s i request (a.send prim io i request)
  | paired (a : Answer) (h : Answered s i request a) :
      Handled prim io s i request (startEncryption i (a.send prim io i request))

section Handlers

variable (prim : Primitives) (io : RequestIo) {s after : RtspServer} {i : Slot}
  {request : RtspRequest}

/-- The connection is as it was. -/
structure SameConnection (s after : RtspServer) (i : Slot) : Prop where
  socket : (after.clients i).socket = (s.clients i).socket
  encrypted : (after.clients i).encrypted = (s.clients i).encrypted
  http : (after.clients i).http = (s.clients i).http
  pairing : (s.clients i).pairing.established = true →
    (after.clients i).pairing = (s.clients i).pairing

theorem SameConnection.refl (s : RtspServer) (i : Slot) : SameConnection s s i :=
  ⟨rfl, rfl, rfl, fun _ => rfl⟩

theorem SameConnection.setStream (s : RtspServer) (i : Slot) (stream : StreamState) :
    SameConnection s (s.setStream stream) i := ⟨rfl, rfl, rfl, fun _ => rfl⟩

theorem ok_status : 200 < 600 ∧ IsPhrase (ascii "OK") := by decide

/-- A request that is accepted. -/
theorem Handled.accepted (h : SameConnection s after i) {headers : CString}
    (hheaders : headers.length ≤ 800) (hlines : Lined request → IsHeaders headers)
    {body : List UInt8} (hbody : body.length ≤ 2048) :
    Handled prim io s i request
      (respond prim io after i 200 (ascii "OK") request.cseq headers body) :=
  Handled.sent ⟨after, 200, ascii "OK", headers, body⟩
    ⟨h.socket, h.encrypted, h.http, h.pairing, Or.inl rfl, fun hcode => absurd hcode (by simp),
      ⟨hheaders, hbody⟩, ok_status, hlines⟩

/-- A request that is refused. -/
theorem Handled.refused (h : SameConnection s after i) {code : ℕ} {text : CString}
    (hcode : 400 ≤ code ∧ code < 600) (htext : IsPhrase text) (hstream : after.stream = s.stream)
    (howner : after.streamOwner = s.streamOwner) :
    Handled prim io s i request (answer prim io after i request code text) :=
  Handled.sent ⟨after, code, text, [], []⟩
    ⟨h.socket, h.encrypted, h.http, h.pairing, Or.inr hcode.1, fun _ => ⟨hstream, howner⟩,
      ⟨Nat.zero_le _, Nat.zero_le _⟩, ⟨hcode.2, htext⟩, fun _ => isHeaders_nil⟩

theorem Handled.ok (h : SameConnection s after i) :
    Handled prim io s i request (answer prim io after i request 200 (ascii "OK")) :=
  Handled.accepted prim io h (Nat.zero_le _) (fun _ => isHeaders_nil) (Nat.zero_le _)

/-- A request that is refused at once. -/
theorem Handled.refuse {code : ℕ} {text : CString} (hcode : 400 ≤ code ∧ code < 600)
    (htext : IsPhrase text) :
    Handled prim io s i request (answer prim io s i request code text) :=
  Handled.refused prim io (SameConnection.refl s i) hcode htext rfl rfl

/-- A property list that fits, or that leaves nothing to be undone. -/
theorem Handled.plistResponse (h : SameConnection s after i) {w : BplistWriter} {root : ℕ}
    (hcapacity : w.capacity ≤ 2048)
    (hfits : bplistFinish w root ≠ [] ∨
      (after.stream = s.stream ∧ after.streamOwner = s.streamOwner)) :
    Handled prim io s i request (plistResponse prim io after i request w root) := by
  rw [Airplay.plistResponse]
  by_cases hbody : bplistFinish w root = []
  · obtain ⟨hstream, howner⟩ := hfits.resolve_left (fun hne => hne hbody)
    rw [if_pos hbody]
    exact Handled.refused prim io h (by decide) (by decide) hstream howner
  · rw [if_neg hbody]
    exact Handled.accepted prim io h (by decide)
      (fun _ => contentType_lines (ascii "application/x-apple-binary-plist") (by decide))
      ((bplistFinish_length_le w root).trans hcapacity)

/-! ## AirPlay 1 -/

theorem airplayRtspAnnounce_handled :
    Handled prim io s i request (airplayRtspAnnounce prim io s i request) := by
  have hbad : Handled prim io s i request
      (answer prim io s i request 400 (ascii "Bad Request")) :=
    Handled.refuse prim io (by decide) (by decide)
  rw [airplayRtspAnnounce]
  cases (if request.body = [] then none else sdpParse request.body sdpScratchMax) with
  | none => exact hbad
  | some parsed =>
      dsimp only
      split
      · exact hbad
      · exact Handled.ok prim io ⟨rfl, rfl, rfl, fun _ => rfl⟩

theorem setupHeaders_length : setupHeaders.length ≤ 800 := by decide +kernel

theorem setupHeaders_lines : IsHeaders setupHeaders :=
  IsHeaders.of_plain [ascii "Session: 00000001",
    ascii "Transport: RTP/AVP/UDP;unicast;mode=record;server_port=6000;control_port=6001" ++
      ascii ";timing_port=6002",
    ascii "Audio-Jack-Status: connected"] (by decide)

theorem recordHeaders_length : recordHeaders.length ≤ 800 := by decide +kernel

theorem recordHeaders_lines : IsHeaders recordHeaders :=
  IsHeaders.of_plain [ascii "Session: 00000001", ascii "Audio-Latency: 2205"] (by decide)

theorem airplayRtspSetup_handled :
    Handled prim io s i request (airplayRtspSetup prim io s i request) := by
  rw [airplayRtspSetup]
  cases transportTimingPort (getHeaderValue request (ascii "Transport")) with
  | none => exact Handled.refuse prim io (by decide) (by decide)
  | some port =>
      have hbody : ([] : List UInt8).length ≤ 2048 := Nat.zero_le _
      dsimp only
      split
      · exact Handled.accepted prim io (SameConnection.setStream s i _) setupHeaders_length
          (fun _ => setupHeaders_lines) hbody
      · exact Handled.accepted prim io (SameConnection.refl s i) setupHeaders_length
          (fun _ => setupHeaders_lines) hbody

theorem airplayRtspGetParameter_handled :
    Handled prim io s i request (airplayRtspGetParameter prim io s i request) := by
  rw [airplayRtspGetParameter]
  apply Handled.accepted prim io (SameConnection.refl s i) (by decide)
    (fun _ => contentType_lines (ascii "text/parameters") (by decide))
  split
  · exact Nat.le_trans (snprintf_length_le _ _) (by decide)
  · exact Nat.zero_le _

theorem airplayRtspSetParameter_handled :
    Handled prim io s i request (airplayRtspSetParameter prim io s i request) := by
  rw [airplayRtspSetParameter]
  cases (if hasTextParameters request then parseBodyVolumeDb prim request else none) with
  | none => exact Handled.ok prim io (SameConnection.refl s i)
  | some volume => exact Handled.ok prim io ⟨rfl, rfl, rfl, fun _ => rfl⟩

theorem acceptFlush_handled (rtptime : Option UInt32) :
    Handled prim io s i request (acceptFlush prim io s i request rtptime) := by
  rw [acceptFlush]
  split
  · exact Handled.ok prim io ⟨rfl, rfl, rfl, fun _ => rfl⟩
  · exact Handled.ok prim io (SameConnection.refl s i)

theorem airplayRtspFlush_handled :
    Handled prim io s i request (airplayRtspFlush prim io s i request) := by
  rw [airplayRtspFlush]
  cases rtpTime request with
  | invalid => exact Handled.refuse prim io (by decide) (by decide)
  | absent => exact acceptFlush_handled prim io none
  | found timestamp => exact acceptFlush_handled prim io (some timestamp)

theorem airplayRtspTeardown_handled :
    Handled prim io s i request (airplayRtspTeardown prim io s i request) := by
  rw [airplayRtspTeardown, releaseStream]
  split
  · exact Handled.ok prim io ⟨rfl, rfl, rfl, fun _ => rfl⟩
  · exact Handled.ok prim io (SameConnection.refl s i)

theorem airplayRtspPause_handled :
    Handled prim io s i request (airplayRtspPause prim io s i request) := by
  rw [airplayRtspPause]
  dsimp only
  split
  · exact Handled.ok prim io ⟨rfl, rfl, rfl, fun _ => rfl⟩
  · exact Handled.ok prim io (SameConnection.refl s i)

theorem acceptRecord_handled (rtptime : Option UInt32) :
    Handled prim io s i request (acceptRecord prim io s i request rtptime) := by
  rw [acceptRecord]
  split
  · exact Handled.accepted prim io (SameConnection.setStream s i _) recordHeaders_length
      (fun _ => recordHeaders_lines) (Nat.zero_le _)
  · exact Handled.refuse prim io (by decide) (by decide)

theorem airplayRtspRecord_handled :
    Handled prim io s i request (airplayRtspRecord prim io s i request) := by
  rw [airplayRtspRecord]
  cases rtpTime request with
  | invalid => exact Handled.refuse prim io (by decide) (by decide)
  | absent => exact acceptRecord_handled prim io none
  | found timestamp => exact acceptRecord_handled prim io (some timestamp)

/-- A value of a header is short and of one line. -/
theorem Lined.value (h : Lined request) {name value : CString}
    (hvalue : getHeaderValue request name = some value) : OneLine value ∧ value.length < 256 := by
  rw [getHeaderValue, Option.map_eq_some_iff] at hvalue
  obtain ⟨header, hfound, rfl⟩ := hvalue
  exact h header (List.mem_of_find?_eq_some hfound)

/-- The session of a PLAY is repeated whole. -/
theorem session_lines {session : CString} (hline : OneLine session)
    (hlength : session.length < 256) :
    IsHeaders (snprintf 288 (ascii "Session: " ++ session ++ ascii "\r\n")) := by
  have hfits : (ascii "Session: " ++ session ++ ascii "\r\n").length ≤ 288 - 1 := by
    have hname : (ascii "Session: ").length = 9 := rfl
    have hend : (ascii "\r\n").length = 2 := rfl
    rw [List.length_append, List.length_append, hname, hend]
    omega
  rw [snprintf, List.take_of_length_le hfits]
  exact IsHeaders.one ⟨OneLine.behind (by decide) hline, by simp [ascii], rfl, rfl⟩

theorem airplayRtspPlay_handled :
    Handled prim io s i request (airplayRtspPlay prim io s i request) := by
  rw [airplayRtspPlay]
  cases hsession : getHeaderValue request (ascii "Session") with
  | none => exact Handled.ok prim io (SameConnection.refl s i)
  | some session =>
      dsimp only
      split
      · exact Handled.ok prim io (SameConnection.refl s i)
      · refine Handled.accepted prim io (SameConnection.refl s i) ?_ (fun hlined => ?_)
          (Nat.zero_le _)
        · exact Nat.le_trans (snprintf_length_le _ _) (by decide)
        · obtain ⟨hline, hlength⟩ := hlined.value hsession
          exact session_lines hline hlength

/-- The headers of OPTIONS stay within their buffer. -/
theorem optionsHeaders_length (s : RtspServer) (request : RtspRequest) :
    (optionsHeaders prim s request).length ≤ 800 := by
  have hpublic : (snprintf 768 publicLine).length ≤ 767 := snprintf_length_le _ _
  have hresponse : ∀ text : CString,
      (snprintf 768 publicLine ++
        snprintf (768 - (snprintf 768 publicLine).length) text).length ≤ 800 := by
    intro text
    have htext := snprintf_length_le (768 - (snprintf 768 publicLine).length) text
    rw [List.length_append]
    omega
  rw [optionsHeaders]
  split
  · omega
  · split
    · split
      · omega
      · split
        · omega
        · exact hresponse _
    · omega

theorem publicLine_lines : IsHeaders (snprintf 768 publicLine) := by
  have hline : snprintf 768 publicLine = lineBytes
      [ascii "Public: ANNOUNCE, SETUP, RECORD, PAUSE, FLUSH, FLUSHBUFFERED, TEARDOWN, OPTIONS, " ++
        ascii "GET_PARAMETER, SET_PARAMETER, POST, GET, SETPEERS, SETRATEANCHORTIME"] := by
    decide +kernel
  rw [hline]
  exact IsHeaders.of_plain _ (by decide +kernel)

/-- The answer to a challenge is short and of one line. -/
theorem appleChallengeResponse_line {challenge response : CString} {ip mac : List UInt8}
    (h : appleChallengeResponse prim challenge ip mac = some response) :
    13 ∉ response ∧ response.length ≤ 382 := by
  rw [appleChallengeResponse] at h
  cases hsignature : prim.appleSignature challenge ip mac with
  | none =>
      rw [hsignature] at h
      cases h
  | some signature =>
      rw [hsignature] at h
      dsimp only at h
      split at h
      · cases h
      · rename_i hfits
        rw [not_or] at hfits
        rw [← Option.some.inj h]
        have hshorter : ((base64Encode signature).takeWhile (· != 61)).length ≤
            (base64Encode signature).length := (List.takeWhile_prefix _).length_le
        refine ⟨fun hmem => ?_, by omega⟩
        exact base64Encode_plain signature 13 ((List.takeWhile_prefix _).subset hmem) (by decide)

theorem optionsHeaders_lines (s : RtspServer) (request : RtspRequest) :
    IsHeaders (optionsHeaders prim s request) := by
  have hpublic : (snprintf 768 publicLine).length ≤ 300 := by decide +kernel
  rw [optionsHeaders]
  split
  · exact publicLine_lines
  · split
    · split
      · exact publicLine_lines
      · split
        · exact publicLine_lines
        · rename_i response hresponse
          obtain ⟨hplain, hlength⟩ := appleChallengeResponse_line prim hresponse
          -- what the first line leaves of the buffer is enough for the second
          have hfits : (ascii "Apple-Response: " ++ response ++ ascii "\r\n").length ≤
              768 - (snprintf 768 publicLine).length - 1 := by
            have hname : (ascii "Apple-Response: ").length = 16 := rfl
            have hend : (ascii "\r\n").length = 2 := rfl
            rw [List.length_append, List.length_append, hname, hend]
            omega
          rw [snprintf.eq_def (768 - _), List.take_of_length_le hfits]
          exact publicLine_lines.append (IsHeaders.one
            ⟨OneLine.behind (by decide) (OneLine.of_plain hplain), by simp [ascii], rfl, rfl⟩)
    · exact publicLine_lines

/-! ## AirPlay 2 -/

theorem openEncryptedPlist_handled {next : Bplist → HandlerResult}
    (hnext : ∀ p, Handled prim io s i request (next p)) :
    Handled prim io s i request (openEncryptedPlist prim io s i request next) := by
  rw [openEncryptedPlist]
  split
  · exact Handled.refuse prim io (by decide) (by decide)
  · cases bplistOpen request.body with
    | none => exact Handled.refuse prim io (by decide) (by decide)
    | some p => exact hnext p

theorem setupEvents_handled (p : Bplist) :
    Handled prim io s i request (setupEvents prim io s i request p) := by
  rw [setupEvents]
  split
  · exact Handled.refuse prim io (by decide) (by decide)
  · dsimp only
    split
    · exact Handled.refuse prim io (by decide) (by decide)
    · rename_i listener _
      have hcapacity : (eventsReply listener).1.capacity ≤ 2048 := by
        rw [eventsReply, close_capacity, addInt_capacity, addInt_capacity]
        exact Nat.le_of_eq (bplistWriterInit_capacity 512) |>.trans (by decide)
      refine Handled.plistResponse prim io ?_ hcapacity (Or.inr ⟨rfl, rfl⟩)
      exact ⟨by rw [setClient_same], by rw [setClient_same], by rw [setClient_same],
        fun _ => by rw [setClient_same]⟩

/-- **The answer to a stream SETUP fits its buffer**, so the session that was
published before it is not refused after all. -/
theorem setupReply_fits {q : StreamRequest} (h : q.supported = true) :
    bplistFinish (setupReply q.type).1 (setupReply q.type).2 ≠ [] := by
  rw [StreamRequest.supported, Bool.and_eq_true, Bool.and_eq_true, Bool.and_eq_true,
    Bool.or_eq_true, beq_iff_eq, beq_iff_eq] at h
  rcases h.1.1.1 with htype | htype
  · rw [htype]
    decide +kernel
  · rw [htype]
    decide +kernel

theorem setupReply_capacity (type : UInt64) : (setupReply type).1.capacity ≤ 2048 := by
  have hinit : (bplistWriterInit 512).capacity ≤ 2048 := by
    rw [bplistWriterInit_capacity]
    decide
  rw [setupReply]
  dsimp only
  rw [streamsRoot_capacity, close_capacity]
  split
  · rw [addInt_capacity, addInt_capacity, addInt_capacity, addInt_capacity]
    exact hinit
  · rw [addInt_capacity, addInt_capacity, addInt_capacity]
    exact hinit

theorem setupAudio_handled (p : Bplist) (streams : ℕ) :
    Handled prim io s i request (setupAudio prim io s i request p streams) := by
  rw [setupAudio]
  split
  · exact Handled.refuse prim io (by decide) (by decide)
  · dsimp only
    split
    · exact Handled.refuse prim io (by decide) (by decide)
    · rename_i hsupported
      rw [Bool.not_eq_false] at hsupported
      split
      · exact Handled.refuse prim io (by decide) (by decide)
      · split
        · exact Handled.refuse prim io (by decide) (by decide)
        · apply Handled.plistResponse prim io
          · exact ⟨rfl, rfl, rfl, fun _ => rfl⟩
          · exact setupReply_capacity _
          · exact Or.inl (setupReply_fits hsupported)

theorem airplay2Setup_handled :
    Handled prim io s i request (airplay2Setup prim io s i request) := by
  apply openEncryptedPlist_handled
  intro p
  rw [setup]
  split
  · exact setupEvents_handled prim io p
  · exact setupAudio_handled prim io p _

theorem airplay2SetRateAnchorTime_handled :
    Handled prim io s i request (airplay2SetRateAnchorTime prim io s i request) := by
  apply openEncryptedPlist_handled
  intro p
  rw [setAnchor]
  cases requestedAnchor p with
  | none => exact Handled.refuse prim io (by decide) (by decide)
  | some a =>
      dsimp only
      split
      · exact Handled.refuse prim io (by decide) (by decide)
      · exact Handled.ok prim io ⟨rfl, rfl, rfl, fun _ => rfl⟩

theorem airplay2FlushBuffered_handled :
    Handled prim io s i request (airplay2FlushBuffered prim io s i request) := by
  apply openEncryptedPlist_handled
  intro p
  rw [flushBuffered]
  cases flushUntilSequence p with
  | none => exact Handled.refuse prim io (by decide) (by decide)
  | some sequence =>
      dsimp only
      split
      · exact Handled.ok prim io ⟨rfl, rfl, rfl, fun _ => rfl⟩
      · exact Handled.ok prim io (SameConnection.refl s i)

/-- Where the stream is occupied, the one who asks is not its owner. -/
theorem airplay2Record_handled :
    Handled prim io s i request (airplay2Record prim io s i request) := by
  rw [airplay2Record]
  dsimp only
  by_cases hoccupied : (s.streamOwner.isSome && s.streamOwner != some i) = true
  · rw [if_pos hoccupied]
    rw [Bool.and_eq_true, bne_iff_ne] at hoccupied
    rw [if_neg (fun howner => hoccupied.2 howner.1)]
    exact Handled.refuse prim io (by decide) (by decide)
  · have hheaders : (ascii "Audio-Latency: 0\r\nAudio-Jack-Status: connected\r\n").length ≤ 800 := by
      decide +kernel
    have hlines : IsHeaders (ascii "Audio-Latency: 0\r\nAudio-Jack-Status: connected\r\n") :=
      IsHeaders.of_plain [ascii "Audio-Latency: 0", ascii "Audio-Jack-Status: connected"]
        (by decide)
    rw [if_neg hoccupied]
    have hbody : ([] : List UInt8).length ≤ 2048 := Nat.zero_le _
    split
    · exact Handled.accepted prim io (SameConnection.setStream s i _) hheaders (fun _ => hlines)
        hbody
    · exact Handled.accepted prim io (SameConnection.refl s i) hheaders (fun _ => hlines) hbody

theorem airplay2FairplaySetup_handled :
    Handled prim io s i request (airplay2FairplaySetup prim io s i request) := by
  have hstage : ∀ stage : UInt8,
      SameConnection s (s.setClient i { s.clients i with fairplayStage := stage }) i := by
    intro stage
    exact ⟨by rw [setClient_same], by rw [setClient_same], by rw [setClient_same],
      fun _ => by rw [setClient_same]⟩
  rw [airplay2FairplaySetup]
  split
  · exact Handled.refused prim io (hstage _) (by decide) (by decide) rfl rfl
  · rename_i response hresponse
    exact Handled.accepted prim io (hstage _) (by decide)
      (fun _ => contentType_lines (ascii "application/octet-stream") (by decide))
      ((fairplaySetup_length hresponse).trans (by decide))

theorem airplay2PairSetup_handled :
    Handled prim io s i request (airplay2PairSetup prim io s i request) := by
  have hpairing : SameConnection s (s.setClient i { s.clients i with
      pairing := (pairingSetup prim.srp io.pairSetup (s.clients i).pairing
        request.body 512).1 }) i := by
    refine ⟨by rw [setClient_same], by rw [setClient_same], by rw [setClient_same], ?_⟩
    intro hestablished
    rw [setClient_same, pairingSetup_of_established _ _ _ _ hestablished]
  rw [airplay2PairSetup]
  split
  · exact Handled.refused prim io hpairing (by decide) (by decide) rfl rfl
  · rename_i response hresponse
    have hlength : response.length ≤ 512 := pairingSetup_length _ _ _ _ _ hresponse
    have hheaders :
        (ascii "Content-Type: application/octet-stream\r\n").length ≤ 800 := by
      decide +kernel
    exact Handled.paired
      ⟨_, 200, ascii "OK", ascii "Content-Type: application/octet-stream\r\n", response⟩
      ⟨hpairing.socket, hpairing.encrypted, hpairing.http, hpairing.pairing, Or.inl rfl,
        fun hcode => absurd hcode (by simp), ⟨hheaders, hlength.trans (by decide)⟩, ok_status,
        fun _ => contentType_lines (ascii "application/octet-stream") (by decide)⟩

theorem feedbackReply_capacity (s : RtspServer) : (feedbackReply s).1.capacity ≤ 2048 := by
  rw [feedbackReply]
  dsimp only
  rw [streamsRoot_capacity, close_capacity, addInt_capacity, addInt_capacity]
  exact (Nat.le_of_eq (bplistWriterInit_capacity 256)).trans (by decide)

theorem infoReply_capacity (s : RtspServer) : (infoReply s).1.capacity ≤ 2048 := by
  have haudioFormat : ∀ (w : BplistWriter) (type : UInt64),
      (audioFormat w type).1.capacity = w.capacity := by
    intro w type
    rw [audioFormat, close_capacity, addInt_capacity, addInt_capacity, addInt_capacity]
  rw [infoReply]
  dsimp only
  rw [bplistAddDict_capacity, bplistAddArray_capacity, bplistAddString_capacity, haudioFormat,
    haudioFormat]
  simp only [addInt_capacity, addText_capacity]
  exact Nat.le_of_eq (bplistWriterInit_capacity 2048)

theorem airplay2Feedback_handled :
    Handled prim io s i request (airplay2Feedback prim io s i request) := by
  rw [airplay2Feedback]
  split
  · exact Handled.refuse prim io (by decide) (by decide)
  · exact Handled.plistResponse prim io (SameConnection.refl s i) (feedbackReply_capacity s)
      (Or.inr ⟨rfl, rfl⟩)

theorem airplay2Acknowledge_handled :
    Handled prim io s i request (airplay2Acknowledge prim io s i request) := by
  rw [airplay2Acknowledge]
  split
  · exact Handled.refuse prim io (by decide) (by decide)
  · exact Handled.ok prim io (SameConnection.refl s i)

/-! ## Every request -/

theorem handlePost_handled :
    Handled prim io s i request (handlePost prim io s i request) := by
  rw [handlePost]
  split
  · exact airplay2PairSetup_handled prim io
  · split
    · exact airplay2FairplaySetup_handled prim io
    · split
      · exact airplay2Feedback_handled prim io
      · split
        · exact airplay2Acknowledge_handled prim io
        · exact Handled.ok prim io (SameConnection.refl s i)

theorem routeRequest_handled :
    Handled prim io s i request (routeRequest prim io s i request) := by
  -- 501 for what the receiver does not know
  have hnone : Handled prim io s i request (notImplemented prim io s i request) :=
    Handled.refuse prim io (by decide) (by decide)
  have hrefl := SameConnection.refl s i
  rw [routeRequest]
  cases request.method with
  | unknown => exact hnone
  | get =>
      dsimp only
      split
      · exact Handled.plistResponse prim io hrefl (infoReply_capacity s) (Or.inr ⟨rfl, rfl⟩)
      · exact hnone
  | post => exact handlePost_handled prim io
  | options =>
      exact Handled.accepted prim io hrefl (optionsHeaders_length prim s request)
        (fun _ => optionsHeaders_lines prim s request) (Nat.zero_le _)
  | announce => exact airplayRtspAnnounce_handled prim io
  | describe => exact Handled.ok prim io hrefl
  | setup =>
      dsimp only
      split
      · exact airplay2Setup_handled prim io
      · exact airplayRtspSetup_handled prim io
  | record =>
      dsimp only
      rw [handleRecord]
      split
      · exact airplay2Record_handled prim io
      · exact airplayRtspRecord_handled prim io
  | flush => exact airplayRtspFlush_handled prim io
  | flushBuffered =>
      dsimp only
      split
      · exact airplay2FlushBuffered_handled prim io
      · exact airplayRtspFlush_handled prim io
  | play => exact airplayRtspPlay_handled prim io
  | pause => exact airplayRtspPause_handled prim io
  | teardown => exact airplayRtspTeardown_handled prim io
  | getParameter => exact airplayRtspGetParameter_handled prim io
  | setParameter => exact airplayRtspSetParameter_handled prim io
  | setPeers => exact airplay2Acknowledge_handled prim io
  | setRateAnchorTime => exact airplay2SetRateAnchorTime_handled prim io

/-- **Every request gets one answer.** -/
theorem handleRequest_handled (s : RtspServer) (i : Slot) (request : RtspRequest) :
    Handled prim io (withVersion s i request) i request
      (handleRequest prim io s i request) := routeRequest_handled prim io

end Handlers

end PortableAirplay.Protocol
