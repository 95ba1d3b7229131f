import PortableAirplay.Airplay.AirplayRtsp
import PortableAirplay.Airplay.Fairplay
import PortableAirplay.Protocol.Bplist

/-!
# AirPlay 2 requests

The handlers of `airplay/airplay2.c`: pair-setup, FairPlay, and the requests whose
bodies are binary property lists. Those that touch the stream state ask for an
encrypted connection first (`openEncryptedPlist`).
-/

set_option autoImplicit false

namespace PortableAirplay.Airplay

open PortableAirplay.Library
open PortableAirplay.Platform
open PortableAirplay.Protocol
open PortableAirplay.Sync
open PortableAirplay.Util

/-! ## Property lists -/

/-- A writer with the key and value references of a dictionary. -/
structure DictWriter where
  writer : BplistWriter
  refs : List (ℕ × ℕ)

/-- `add_int`. -/
def DictWriter.addInt (d : DictWriter) (key : CString) (value : UInt64) : DictWriter :=
  let (w, k) := bplistAddString d.writer key
  let (w, v) := bplistAddUint w value
  ⟨w, d.refs ++ [(k, v)]⟩

/-- `add_text`. -/
def DictWriter.addText (d : DictWriter) (key value : CString) : DictWriter :=
  let (w, k) := bplistAddString d.writer key
  let (w, v) := bplistAddString w value
  ⟨w, d.refs ++ [(k, v)]⟩

/-- `bplist_add_dict` over the references. -/
def DictWriter.close (d : DictWriter) : BplistWriter × ℕ := bplistAddDict d.writer d.refs

/-- The dictionary `{"streams": [dict]}` as the root. -/
def streamsRoot (w : BplistWriter) (dict : ℕ) : BplistWriter × ℕ :=
  let (w, array) := bplistAddArray w [dict]
  let (w, key) := bplistAddString w (ascii "streams")
  bplistAddDict w [(key, array)]

@[simp] theorem addInt_capacity (d : DictWriter) (key : CString) (value : UInt64) :
    (d.addInt key value).writer.capacity = d.writer.capacity :=
  (bplistAddUint_capacity _ _).trans (bplistAddString_capacity _ _)

@[simp] theorem addText_capacity (d : DictWriter) (key value : CString) :
    (d.addText key value).writer.capacity = d.writer.capacity :=
  (bplistAddString_capacity _ _).trans (bplistAddString_capacity _ _)

@[simp] theorem close_capacity (d : DictWriter) : d.close.1.capacity = d.writer.capacity :=
  bplistAddDict_capacity _ _

@[simp] theorem streamsRoot_capacity (w : BplistWriter) (dict : ℕ) :
    (streamsRoot w dict).1.capacity = w.capacity :=
  (bplistAddDict_capacity _ _).trans
    ((bplistAddString_capacity _ _).trans (bplistAddArray_capacity _ _))

/-- `number`. -/
def number (p : Bplist) (dict : ℕ) (key : CString) (fallback : UInt64) : UInt64 :=
  (bplistUint p (bplistGet p dict key)).getD fallback

section Handlers

variable (prim : Primitives) (io : RequestIo) (s : RtspServer) (i : Slot)
  (request : RtspRequest)

/-- `status`. -/
def status (code : ℕ) (text : CString) : HandlerResult := answer prim io s i request code text

/-- `plist_response`. -/
def plistResponse (w : BplistWriter) (root : ℕ) : HandlerResult :=
  let body := bplistFinish w root
  if body = [] then status prim io s i request 500 (ascii "Internal Server Error")
  else
    respond prim io s i 200 (ascii "OK") request.cseq
      (ascii "Content-Type: application/x-apple-binary-plist\r\n") body

/-! ## Information -/

/-- `device`: the hardware address with colons. -/
def deviceId (mac : CString) : CString :=
  let pair := fun k => (mac.drop (2 * k)).take 2
  pair 0 ++ ascii ":" ++ pair 1 ++ ascii ":" ++ pair 2 ++ ascii ":" ++ pair 3 ++ ascii ":" ++
    pair 4 ++ ascii ":" ++ pair 5

/-- One entry of `audioFormats`. -/
def audioFormat (w : BplistWriter) (type : UInt64) : BplistWriter × ℕ :=
  let d : DictWriter := ⟨w, []⟩
  let d := d.addInt (ascii "type") type
  let d := d.addInt (ascii "audioInputFormats") 0x01000000
  let d := d.addInt (ascii "audioOutputFormats") 0x01000000
  d.close

/-- The property list of `/info`. -/
def infoReply : BplistWriter × ℕ :=
  let d : DictWriter := ⟨bplistWriterInit 2048, []⟩
  let d := d.addText (ascii "deviceid") (snprintf 18 (deviceId s.localMacHex))
  let d := d.addText (ascii "name")
    (if s.deviceName = [] then ascii "TestSpeaker" else s.deviceName)
  let d := d.addText (ascii "model") (ascii "PortableSpeaker")
  let d := d.addText (ascii "protovers") (ascii "1.1")
  let d := d.addText (ascii "srcvers") (ascii "377.40.00")
  let d := d.addInt (ascii "vv") 2
  let d := d.addInt (ascii "statusFlags") 4
  let d := d.addInt (ascii "features") 0x18340405C4A00
  let (w, first) := audioFormat d.writer 96
  let (w, second) := audioFormat w 103
  let (w, key) := bplistAddString w (ascii "audioFormats")
  let (w, array) := bplistAddArray w [first, second]
  bplistAddDict w (d.refs ++ [(key, array)])

/-- `airplay2_info`. -/
def airplay2Info : HandlerResult :=
  plistResponse prim io s i request (infoReply s).1 (infoReply s).2

/-! ## SETUP -/

/-- `stream_key`. -/
def streamKey (p : Bplist) (stream : ℕ) (pair : Pairing) : Option (List UInt8) :=
  match bplistBytes p (bplistGet p stream (ascii "shk")) with
  | some data => if data.length ≠ 32 then none else some data
  -- else the key comes sealed under the secret of the pairing, with a zero nonce
  | none =>
      match bplistBytes p (bplistGet p stream (ascii "ekey")) with
      | none => none
      | some data =>
          if data.length ≠ 48 then none
          else
            prim.aead.authDecrypt
              ⟨pair.sharedSecret, List.replicate 12 0, [], data.take 32⟩ (data.drop 32)

/-- The answer to the initial SETUP. -/
def eventsReply (listener : NetSocket) : BplistWriter × ℕ :=
  let d : DictWriter := ⟨bplistWriterInit 512, []⟩
  let d := d.addInt (ascii "eventPort") listener.port.toUInt64
  let d := d.addInt (ascii "timingPort") 0
  d.close

/-- The initial SETUP, without streams: PTP timing and the event channel. -/
def setupEvents (p : Bplist) : HandlerResult :=
  if bplistBytes p (bplistGet p p.root (ascii "timingProtocol")) ≠ some (ascii "PTP") then
    status prim io s i request 461 (ascii "Unsupported Transport")
  else
    let client := s.clients i
    -- a second SETUP keeps the listener of the first
    let listener :=
      if client.eventListener.isOpen then some client.eventListener
      else io.listen.map fun opened => ⟨some opened.1, opened.2⟩
    match listener with
    | none => status prim io s i request 500 (ascii "Internal Server Error")
    | some listener =>
        plistResponse prim io (s.setClient i { client with eventListener := listener }) i request
          (eventsReply listener).1 (eventsReply listener).2

/-- The parameters of a stream that `setup` takes from the property list. -/
structure StreamRequest where
  type : UInt64
  codec : UInt64
  rate : UInt64
  frames : UInt64
  latency : UInt64

/-- Those of one entry of `streams`. -/
def streamRequest (p : Bplist) (stream : ℕ) : StreamRequest :=
  let codec := number p stream (ascii "ct") 0
  { type := number p stream (ascii "type") 0
    codec := codec
    rate := number p stream (ascii "sr") 44100
    frames := number p stream (ascii "spf") (if codec = 2 then 352 else 1024)
    latency := number p stream (ascii "latencyMin") 11025 }

/-- The combinations that are not answered with 415. -/
def StreamRequest.supported (q : StreamRequest) : Bool :=
  (q.type == 96 || q.type == 103) && (q.codec == 2 || q.codec == 4) &&
    (q.rate == 44100 || q.rate == 48000) &&
    (if q.codec = 2 then 0 < q.frames && q.frames ≤ 352 else q.frames == 1024)

/-- The session of a stream with the given key. -/
def StreamRequest.session (q : StreamRequest) (key : List UInt8) : SdpSession :=
  -- the index of the sample rate in an AudioSpecificConfig
  let index : UInt8 := if q.rate = 44100 then 4 else 3
  { SdpSession.zero with
    streamType := q.type.toUInt16
    codec := if q.codec = 2 then .alac else .aac
    sampleRate := q.rate.toUInt32
    channels := 2
    bitsPerSample := 16
    framesPerPacket := q.frames.toUInt32
    payloadType := 96
    audioKey := key
    latencyFrames := if q.type = 96 then q.latency.toUInt32 else 0
    aacConfig :=
      if q.codec = 4 then
        overwrite SdpSession.zero.aacConfig
          [(0x10 : UInt8) ||| (index >>> 1), ((index &&& 1) <<< 7) ||| 0x10]
      else SdpSession.zero.aacConfig
    aacConfigLen := if q.codec = 4 then 2 else 0 }

/-- The stream state after an accepted stream SETUP. -/
def setupStream (session : SdpSession) : StreamState :=
  { s.stream with
    session := session
    hasSession := true
    recording := true
    hasTimestampFloor := false
    hasBufferedFlushSequence := false
    timingPeer := { (s.clients i).peer with port := 0 }
    anchor := AirplayAnchor.zero
    generation := s.stream.generation + 1 }

/-- The answer to an accepted stream SETUP. -/
def setupReply (type : UInt64) : BplistWriter × ℕ :=
  let d : DictWriter := ⟨bplistWriterInit 512, []⟩
  let d := d.addInt (ascii "type") type
  let d := d.addInt (ascii "dataPort") 6000
  let d := d.addInt (ascii "controlPort") 6001
  let d :=
    if type = 103 then
      d.addInt (ascii "audioBufferSize") (UInt64.ofNat (airplayPlayoutPackets * playoutPayloadBytes))
    else d
  let (w, dict) := d.close
  streamsRoot w dict

/-- The stream SETUP. -/
def setupAudio (p : Bplist) (streams : ℕ) : HandlerResult :=
  if bplistCount p streams ≠ 1 then status prim io s i request 400 (ascii "Bad Request")
  else
    let stream := bplistAt p streams 0
    let q := streamRequest p stream
    if q.supported = false then
      status prim io s i request 415 (ascii "Unsupported Media Type")
    else if q.latency > q.rate * 5 then status prim io s i request 400 (ascii "Bad Request")
    else
      match streamKey prim p stream (s.clients i).pairing with
      | none => status prim io s i request 400 (ascii "Bad Request")
      | some key =>
          -- the stream changes hands before the answer is sent
          let s := { s with stream := setupStream s i (q.session key), streamOwner := some i }
          plistResponse prim io s i request (setupReply q.type).1 (setupReply q.type).2

/-- `setup`. -/
def setup (p : Bplist) : HandlerResult :=
  let streams := bplistGet p p.root (ascii "streams")
  if streams = bplistNone then setupEvents prim io s i request p
  else setupAudio prim io s i request p streams

/-! ## The anchor -/

/-- The anchor of a SETRATEANCHORTIME, or `none` for a bad request. -/
def requestedAnchor (p : Bplist) : Option AirplayAnchor := do
  let rate ← bplistReal p (bplistGet p p.root (ascii "rate"))
  -- paused or playing, no other speed
  if rate.isZero = false ∧ rate.isOne = false then none
  else if rate.isOne = false then some AirplayAnchor.zero
  else
    let sec ← bplistUint p (bplistGet p p.root (ascii "networkTimeSecs"))
    let frac ← bplistUint p (bplistGet p p.root (ascii "networkTimeFrac"))
    let rtp ← bplistUint p (bplistGet p p.root (ascii "rtpTime"))
    let clockId ← bplistUint p (bplistGet p p.root (ascii "networkTimeTimelineID"))
    -- as microseconds the seconds must fit an `int64_t`
    if rtp > 0xffffffff ∨ sec > 0x7fffffffffffffff / 1000000 then none
    else
      some
        { playing := true
          networkUs := sec * (1000000 : UInt64) + (((frac >>> 32) * 1000000) >>> 32)
          rtpTime := rtp.toUInt32
          clockId := clockId
          valid := true }

/-- The stream state with a new anchor, or paused. -/
def anchorStream (a : AirplayAnchor) : StreamState :=
  if a.playing then { s.stream with anchor := a }
  else { s.stream with anchor := { s.stream.anchor with playing := false } }

/-- `set_anchor`. -/
def setAnchor (p : Bplist) : HandlerResult :=
  match requestedAnchor p with
  | none => status prim io s i request 400 (ascii "Bad Request")
  | some a =>
      if s.streamOwner ≠ some i then status prim io s i request 455 (ascii "Invalid State")
      else status prim io (s.setStream (anchorStream s a)) i request 200 (ascii "OK")

/-! ## Requests -/

/-- `airplay2_record`. -/
def airplay2Record : HandlerResult :=
  let occupied := s.streamOwner.isSome && s.streamOwner != some i
  let s :=
    if s.streamOwner = some i ∧ s.stream.hasSession = true then
      s.setStream { s.stream with recording := true }
    else s
  if occupied then status prim io s i request 453 (ascii "Not Enough Bandwidth")
  else
    respond prim io s i 200 (ascii "OK") request.cseq
      (ascii "Audio-Latency: 0\r\nAudio-Jack-Status: connected\r\n") []

/-- `airplay2_fairplay_setup`. -/
def airplay2FairplaySetup : HandlerResult :=
  let client := s.clients i
  let r := fairplaySetup client.fairplayStage request.body fairplayResponseMax
  let s := s.setClient i { client with fairplayStage := r.1 }
  match r.2 with
  | none => status prim io s i request 400 (ascii "Bad Request")
  | some response =>
      respond prim io s i 200 (ascii "OK") request.cseq
        (ascii "Content-Type: application/octet-stream\r\n") response

/-- The encryption of a connection starts after the final answer was sent. -/
def startEncryption (r : HandlerResult) : HandlerResult :=
  let client := r.server.clients i
  if r.ok && client.pairing.established then
    { r with server := r.server.setClient i { client with encrypted := true } }
  else r

/-- `airplay2_pair_setup`. -/
def airplay2PairSetup : HandlerResult :=
  let client := s.clients i
  let r := pairingSetup prim.srp io.pairSetup client.pairing request.body 512
  let s := s.setClient i { client with pairing := r.1 }
  match r.2 with
  | none => status prim io s i request 400 (ascii "Bad Request")
  | some response =>
      startEncryption i
        (respond prim io s i 200 (ascii "OK") request.cseq
          (ascii "Content-Type: application/octet-stream\r\n") response)

/-- `open_encrypted_plist`, with what the request does on the list. -/
def openEncryptedPlist (next : Bplist → HandlerResult) : HandlerResult :=
  if (s.clients i).encrypted = false then
    status prim io s i request 470 (ascii "Connection Authorization Required")
  else
    match bplistOpen request.body with
    | none => status prim io s i request 400 (ascii "Bad Request")
    | some p => next p

/-- `airplay2_setup`. -/
def airplay2Setup : HandlerResult :=
  openEncryptedPlist prim io s i request (setup prim io s i request)

/-- `airplay2_set_rate_anchor_time`. -/
def airplay2SetRateAnchorTime : HandlerResult :=
  openEncryptedPlist prim io s i request (setAnchor prim io s i request)

/-- The sequence of a FLUSHBUFFERED, or `none` for a bad request. -/
def flushUntilSequence (p : Bplist) : Option UInt32 := do
  let ts ← bplistUint p (bplistGet p p.root (ascii "flushUntilTS"))
  let sequence ← bplistUint p (bplistGet p p.root (ascii "flushUntilSeq"))
  if ts > 0xffffffff ∨ sequence > 0xffffff then none else some sequence.toUInt32

/-- The stream state after the owner's FLUSHBUFFERED. -/
def bufferedFlushStream (sequence : UInt32) : StreamState :=
  { s.stream with
    bufferedFlushSequence := sequence
    hasBufferedFlushSequence := true
    hasTimestampFloor := false
    anchor := { s.stream.anchor with playing := false }
    flushGeneration := s.stream.flushGeneration + 1 }

/-- The body of `airplay2_flush_buffered` on an open list. -/
def flushBuffered (p : Bplist) : HandlerResult :=
  match flushUntilSequence p with
  | none => status prim io s i request 400 (ascii "Bad Request")
  | some sequence =>
      let s := if s.streamOwner = some i then s.setStream (bufferedFlushStream s sequence) else s
      status prim io s i request 200 (ascii "OK")

/-- `airplay2_flush_buffered`. -/
def airplay2FlushBuffered : HandlerResult :=
  openEncryptedPlist prim io s i request (flushBuffered prim io s i request)

/-- The answer to `/feedback`. -/
def feedbackReply : BplistWriter × ℕ :=
  let d : DictWriter := ⟨bplistWriterInit 256, []⟩
  let d := d.addInt (ascii "type") s.stream.session.streamType.toUInt64
  let d := d.addInt (ascii "sr") s.stream.session.sampleRate.toUInt64
  let (w, dict) := d.close
  streamsRoot w dict

/-- `airplay2_feedback`. -/
def airplay2Feedback : HandlerResult :=
  if (s.clients i).encrypted = false then
    status prim io s i request 470 (ascii "Connection Authorization Required")
  else plistResponse prim io s i request (feedbackReply s).1 (feedbackReply s).2

/-- `airplay2_acknowledge`. -/
def airplay2Acknowledge : HandlerResult :=
  if (s.clients i).encrypted = false then
    status prim io s i request 470 (ascii "Connection Authorization Required")
  else status prim io s i request 200 (ascii "OK")

end Handlers

end PortableAirplay.Airplay
