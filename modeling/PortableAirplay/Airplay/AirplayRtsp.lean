import PortableAirplay.Library.Base64
import PortableAirplay.Protocol.RtspState

/-!
# AirPlay 1 requests

The handlers of `airplay/airplay_rtsp.c`. Each takes the server, the slot of the
client and the request; it updates the stream state and answers.
-/

set_option autoImplicit false

namespace PortableAirplay.Airplay

open PortableAirplay.Library
open PortableAirplay.Platform
open PortableAirplay.Protocol
open PortableAirplay.Util

/-! ## Bodies and headers -/

/-- The copy of a body in `char body[256]`, up to its first zero byte. -/
def bodyText (request : RtspRequest) : CString := (request.body.take 255).takeWhile (· ≠ 0)

/-- `request_body_contains_key`. -/
def requestBodyContainsKey (request : RtspRequest) (key : CString) : Bool :=
  request.body ≠ [] && (strstr key (bodyText request)).isSome

/-- `isfinite` on the bits of a `float`. -/
def floatIsFinite (bits : UInt32) : Bool := bits &&& 0x7f800000 != 0x7f800000

/-- The clamping of a finite volume to `-144.0f` and `0.0f`. -/
def clampVolume (bits : UInt32) : UInt32 :=
  if 0 < bits ∧ bits < 0x80000000 then 0
  else if 0x80000000 ≤ bits ∧ 0x43100000 < bits &&& 0x7fffffff then 0xc3100000
  else bits

/-- `parse_body_volume_db`. -/
def parseBodyVolumeDb (prim : Primitives) (request : RtspRequest) : Option UInt32 :=
  if request.body = [] then none
  else do
    let found ← strstr (ascii "volume:") (bodyText request)
    let volume ← prim.strtof (found.drop 7)
    if floatIsFinite volume then some (clampVolume volume) else none

/-- `get_header_value`. -/
def getHeaderValue (request : RtspRequest) (name : CString) : Option CString :=
  (request.headers.find? fun header => netAsciiCaseEq header.name name).map RtspHeader.value

/-- The bytes of a string of hexadecimal digits. -/
def macBytes : CString → Option (List UInt8)
  | [] => some []
  | [_] => none
  | high :: low :: rest =>
      match hexDigit high, hexDigit low, macBytes rest with
      | some h, some l, some bytes => some (UInt8.ofNat (h * 16 + l) :: bytes)
      | _, _, _ => none

/-- `parse_mac_hex`, on the hexadecimal digits that `rtsp_set_identity` checks. -/
def parseMacHex (hex : CString) : Option (List UInt8) :=
  if hex.length ≠ 12 then none else macBytes hex

/-- What `parameter_u32` returns: 0, -1, or 1 with a value. -/
inductive Parameter where
  | absent
  | invalid
  | found (value : UInt32)
  deriving DecidableEq, Repr

/-- The separators of parameters. -/
def isSeparator (c : UInt8) : Bool := c == 59 || c == 44 || c == 32

/-- The value after `key=`. -/
def parameterValue (text : CString) : Parameter :=
  let digits := text.takeWhile isDigit
  let rest := text.drop digits.length
  if digits = [] then .invalid
  else
    match parseUint32.go 0 digits with
    | none => .invalid
    | some value =>
        match rest with
        | [] => .found value
        | c :: _ => if isSeparator c then .found value else .invalid

/-- The search of `parameter_u32` from a place, with the byte before it. At most
`fuel` places. -/
def parameterSearch (key : CString) : ℕ → Option UInt8 → CString → Parameter
  | 0, _, _ => .absent
  | fuel + 1, previous, text =>
      match text with
      | [] => .absent
      | c :: rest =>
          if startsWith (c :: rest) key && (previous.all isSeparator) then
            let after := (c :: rest).drop key.length
            match after with
            | 61 :: value => parameterValue value
            | _ => parameterSearch key fuel key.getLast? after
          else parameterSearch key fuel (some c) rest

/-- `parameter_u32`; a missing header is `none`. -/
def parameterU32 (text : Option CString) (key : CString) : Parameter :=
  match text with
  | none => .absent
  | some text => parameterSearch key (text.length + 1) none text

/-! ## Handlers -/

section Handlers

variable (prim : Primitives) (io : RequestIo) (s : RtspServer) (i : Slot)
  (request : RtspRequest)

/-- `rtsp_send_response` with no headers and no body. -/
def answer (status : ℕ) (statusText : CString) : HandlerResult :=
  respond prim io s i status statusText request.cseq [] []

/-- The `Public:` line. -/
def publicLine : CString :=
  ascii "Public: ANNOUNCE, SETUP, RECORD, PAUSE, FLUSH, FLUSHBUFFERED, TEARDOWN, OPTIONS, " ++
    ascii "GET_PARAMETER, SET_PARAMETER, POST, GET, SETPEERS, SETRATEANCHORTIME\r\n"

/-- `apple_challenge_response` into a buffer of 384 bytes: the signature in base64, up to its
padding. The encoder counts the zero at the end. -/
def appleChallengeResponse (challenge : CString) (ip mac : List UInt8) : Option CString :=
  match prim.appleSignature challenge ip mac with
  | none => none
  | some signature =>
      if signature = [] ∨ (base64Encode signature).length + 1 + 1 > 384 then none
      else some ((base64Encode signature).takeWhile (· != 61))

/-- The headers of an OPTIONS answer, in a buffer of 768 bytes. -/
def optionsHeaders : CString :=
  let headers := snprintf 768 publicLine
  match getHeaderValue request (ascii "Apple-Challenge") with
  | none => headers
  | some challenge =>
      match netStrToIpv4 s.localIp, parseMacHex s.localMacHex with
      | some ip, some mac =>
          -- without a response the other headers are still sent
          if challenge = [] then headers
          else
            match appleChallengeResponse prim challenge ip mac with
            | none => headers
            | some response =>
                headers ++ snprintf (768 - headers.length)
                  (ascii "Apple-Response: " ++ response ++ ascii "\r\n")
      | _, _ => headers

/-- `airplay_rtsp_options`. -/
def airplayRtspOptions : HandlerResult :=
  respond prim io s i 200 (ascii "OK") request.cseq (optionsHeaders prim s request) []

/-- `airplay_rtsp_describe`. -/
def airplayRtspDescribe : HandlerResult := answer prim io s i request 200 (ascii "OK")

/-- The stream state after an accepted ANNOUNCE. -/
def announceStream (parsed : SdpSession) : StreamState :=
  { s.stream with
    session := parsed
    hasSession := true
    recording := false
    timingPeer := NetAddr.zero
    hasTimestampFloor := false
    generation := s.stream.generation + 1 }

/-- `airplay_rtsp_announce`. -/
def airplayRtspAnnounce : HandlerResult :=
  match (if request.body = [] then none else sdpParse request.body sdpScratchMax) with
  | none => answer prim io s i request 400 (ascii "Bad Request")
  | some parsed =>
      if parsed.codec = .unknown then answer prim io s i request 400 (ascii "Bad Request")
      else
        answer prim io { s with stream := announceStream s parsed, streamOwner := some i } i
          request 200 (ascii "OK")

/-- `airplay_rtsp_post`. -/
def airplayRtspPost : HandlerResult := answer prim io s i request 200 (ascii "OK")

/-- The timing port of a `Transport` header, or `none` where it is refused. -/
def transportTimingPort (transport : Option CString) : Option UInt16 :=
  match transport with
  | none => some 0
  | some text =>
      if (strstr (ascii "RTP/AVP/UDP") text).isNone then none
      else
        match parameterU32 (some text) (ascii "timing_port") with
        | .invalid => none
        | .absent => some 0
        | .found port => if port > 65535 then none else some port.toUInt16

/-- The headers of a SETUP answer. -/
def setupHeaders : CString :=
  ascii "Session: 00000001\r\n" ++
    ascii "Transport: RTP/AVP/UDP;unicast;mode=record;server_port=6000;control_port=6001" ++
    ascii ";timing_port=6002\r\nAudio-Jack-Status: connected\r\n"

/-- `airplay_rtsp_setup`. -/
def airplayRtspSetup : HandlerResult :=
  match transportTimingPort (getHeaderValue request (ascii "Transport")) with
  | none => answer prim io s i request 461 (ascii "Unsupported Transport")
  | some port =>
      let s :=
        if s.streamOwner = some i then
          s.setStream
            { s.stream with
              timingPeer := { (s.clients i).peer with port := port }
              generation := s.stream.generation + 1 }
        else s
      respond prim io s i 200 (ascii "OK") request.cseq setupHeaders []

/-- `airplay_rtsp_get_parameter`. -/
def airplayRtspGetParameter : HandlerResult :=
  let body :=
    if requestBodyContainsKey request (ascii "volume") then
      snprintf 64 (ascii "volume: " ++ prim.formatVolume s.stream.volumeDb ++ ascii "\r\n")
    else []
  respond prim io s i 200 (ascii "OK") request.cseq (ascii "Content-Type: text/parameters\r\n") body

/-- The body of a SET_PARAMETER carries parameters, not metadata or artwork. -/
def hasTextParameters : Bool :=
  match getHeaderValue request (ascii "Content-Type") with
  | none => false
  | some type => (strstr (ascii "text/parameters") type).isSome

/-- `airplay_rtsp_set_parameter`. -/
def airplayRtspSetParameter : HandlerResult :=
  let volume := if hasTextParameters request then parseBodyVolumeDb prim request else none
  let s :=
    match volume with
    | none => s
    | some volume => s.setStream { s.stream with volumeDb := volume }
  answer prim io s i request 200 (ascii "OK")

/-- The `rtptime` of the `RTP-Info` header. -/
def rtpTime : Parameter := parameterU32 (getHeaderValue request (ascii "RTP-Info")) (ascii "rtptime")

/-- The stream state after the owner's FLUSH. -/
def flushStream (rtptime : Option UInt32) : StreamState :=
  { s.stream with
    flushGeneration := s.stream.flushGeneration + 1
    hasTimestampFloor := rtptime.isSome
    timestampFloor := rtptime.getD 0
    floorExclusive := true }

/-- A FLUSH that is not refused. -/
def acceptFlush (rtptime : Option UInt32) : HandlerResult :=
  let s := if s.streamOwner = some i then s.setStream (flushStream s rtptime) else s
  answer prim io s i request 200 (ascii "OK")

/-- `airplay_rtsp_flush`. -/
def airplayRtspFlush : HandlerResult :=
  match rtpTime request with
  | .invalid => answer prim io s i request 400 (ascii "Bad Request")
  | .absent => acceptFlush prim io s i request none
  | .found timestamp => acceptFlush prim io s i request (some timestamp)

/-- `airplay_rtsp_flushbuffered`. -/
def airplayRtspFlushBuffered : HandlerResult := airplayRtspFlush prim io s i request

/-- The stream state when its owner has gone. -/
def releasedStream : StreamState :=
  { s.stream with
    recording := false
    hasSession := false
    session := SdpSession.zero
    generation := s.stream.generation + 1 }

/-- The owner gives the stream up; others change nothing. -/
def releaseStream : RtspServer :=
  if s.streamOwner = some i then { s with stream := releasedStream s, streamOwner := none } else s

/-- `airplay_rtsp_teardown`. -/
def airplayRtspTeardown : HandlerResult :=
  answer prim io (releaseStream s i) i request 200 (ascii "OK")

/-- `airplay_rtsp_pause`. -/
def airplayRtspPause : HandlerResult :=
  let s :=
    if s.streamOwner = some i then s.setStream { s.stream with recording := false } else s
  answer prim io s i request 200 (ascii "OK")

/-- The stream state after the owner's RECORD. -/
def recordStream (rtptime : Option UInt32) : StreamState :=
  match rtptime with
  | none => { s.stream with recording := true }
  | some timestamp =>
      { s.stream with
        recording := true
        hasTimestampFloor := true
        timestampFloor := timestamp
        floorExclusive := false }

/-- The headers of a RECORD answer. -/
def recordHeaders : CString := ascii "Session: 00000001\r\nAudio-Latency: 2205\r\n"

/-- A RECORD with a well-formed `RTP-Info`. -/
def acceptRecord (rtptime : Option UInt32) : HandlerResult :=
  if s.stream.hasSession && s.streamOwner == some i then
    respond prim io (s.setStream (recordStream s rtptime)) i 200 (ascii "OK") request.cseq
      recordHeaders []
  else answer prim io s i request 455 (ascii "Method Not Valid in This State")

/-- `airplay_rtsp_record`. -/
def airplayRtspRecord : HandlerResult :=
  match rtpTime request with
  | .invalid => answer prim io s i request 400 (ascii "Bad Request")
  | .absent => acceptRecord prim io s i request none
  | .found timestamp => acceptRecord prim io s i request (some timestamp)

/-- `airplay_rtsp_play`. -/
def airplayRtspPlay : HandlerResult :=
  match getHeaderValue request (ascii "Session") with
  | none => answer prim io s i request 200 (ascii "OK")
  | some session =>
      if session = [] then answer prim io s i request 200 (ascii "OK")
      else
        respond prim io s i 200 (ascii "OK") request.cseq
          (snprintf 288 (ascii "Session: " ++ session ++ ascii "\r\n")) []

end Handlers

end PortableAirplay.Airplay
