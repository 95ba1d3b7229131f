import PortableAirplay.Airplay.PairSetup
import PortableAirplay.Protocol.RtspRequest
import PortableAirplay.Protocol.Sdp
import PortableAirplay.Sync.PtpSync

/-!
# The state of the RTSP server

The server, its clients and the stream state of `protocol/rtsp.h`, and the
sending of responses. A client is named by its slot. A receive buffer is its
filled part, and so is the record buffer of a client.

The outside world is an input: what happens at a request (`RequestIo`) and the
functions of libraries that are not part of the repository (`Primitives`).
-/

set_option autoImplicit false

namespace PortableAirplay.Protocol

open PortableAirplay.Airplay
open PortableAirplay.Library
open PortableAirplay.Platform
open PortableAirplay.Sync
open PortableAirplay.Util

/-! ## State -/

/-- `rtsp_client_t`. -/
structure RtspClient where
  socket : NetSocket
  peer : NetAddr
  pairing : Pairing
  fairplayStage : UInt8
  encrypted : Bool
  http : Bool
  record : List UInt8
  eventListener : NetSocket
  eventClient : NetSocket
  deriving DecidableEq

/-- A zeroed client with closed sockets. -/
def RtspClient.closed : RtspClient where
  socket := netSocketInit
  peer := NetAddr.zero
  pairing := pairingClose
  fairplayStage := 0
  encrypted := false
  http := false
  record := []
  eventListener := netSocketInit
  eventClient := netSocketInit

/-- `rtsp_stream_state_t`. The volume is the bits of the `float`. -/
structure StreamState where
  session : SdpSession
  hasSession : Bool
  recording : Bool
  volumeDb : UInt32
  generation : UInt32
  flushGeneration : UInt32
  timingPeer : NetAddr
  timestampFloor : UInt32
  hasTimestampFloor : Bool
  floorExclusive : Bool
  bufferedFlushSequence : UInt32
  hasBufferedFlushSequence : Bool
  anchor : AirplayAnchor
  deriving DecidableEq

/-- A client slot. -/
abbrev Slot := Fin rtspMaxClients

/-- `rtsp_instance_t`; `stream_owner` is the slot of a client. -/
structure RtspServer where
  listener : NetSocket
  clients : Slot → RtspClient
  rx : Slot → List UInt8
  stream : StreamState
  streamOwner : Option Slot
  localIp : CString
  localMacHex : CString
  deviceName : CString

/-- `AIRPLAY_DEFAULT_VOLUME_DB`: the bits of `-20.0f`. -/
def defaultVolumeDb : UInt32 := 0xc1a00000

/-- The zeroed stream state with the default volume. -/
def StreamState.start : StreamState where
  session := SdpSession.zero
  hasSession := false
  recording := false
  volumeDb := defaultVolumeDb
  generation := 0
  flushGeneration := 0
  timingPeer := NetAddr.zero
  timestampFloor := 0
  hasTimestampFloor := false
  floorExclusive := false
  bufferedFlushSequence := 0
  hasBufferedFlushSequence := false
  anchor := AirplayAnchor.zero

/-- `rtsp_server_create` on a listener that `net_tcp_listen` opened. -/
def rtspServerCreate (listener : NetSocket) : RtspServer where
  listener := listener
  clients := fun _ => RtspClient.closed
  rx := fun _ => []
  stream := StreamState.start
  streamOwner := none
  localIp := []
  localMacHex := []
  deviceName := []

/-- One client is replaced. -/
def RtspServer.setClient (s : RtspServer) (i : Slot) (client : RtspClient) : RtspServer :=
  { s with clients := Function.update s.clients i client }

/-- One receive buffer is replaced. -/
def RtspServer.setRx (s : RtspServer) (i : Slot) (data : List UInt8) : RtspServer :=
  { s with rx := Function.update s.rx i data }

/-- The stream state is replaced. -/
def RtspServer.setStream (s : RtspServer) (stream : StreamState) : RtspServer :=
  { s with stream := stream }

section Updates

variable (s : RtspServer) (i j : Slot) (client : RtspClient) (data : List UInt8)
  (stream : StreamState)

@[simp] theorem setClient_listener : (s.setClient i client).listener = s.listener := rfl

@[simp] theorem setClient_rx : (s.setClient i client).rx = s.rx := rfl

@[simp] theorem setClient_stream : (s.setClient i client).stream = s.stream := rfl

@[simp] theorem setClient_streamOwner : (s.setClient i client).streamOwner = s.streamOwner := rfl

@[simp] theorem setClient_same : (s.setClient i client).clients i = client :=
  Function.update_self ..

theorem setClient_other (h : j ≠ i) : (s.setClient i client).clients j = s.clients j :=
  Function.update_of_ne h ..

@[simp] theorem setRx_listener : (s.setRx i data).listener = s.listener := rfl

@[simp] theorem setRx_clients : (s.setRx i data).clients = s.clients := rfl

@[simp] theorem setRx_stream : (s.setRx i data).stream = s.stream := rfl

@[simp] theorem setRx_streamOwner : (s.setRx i data).streamOwner = s.streamOwner := rfl

@[simp] theorem setRx_same : (s.setRx i data).rx i = data := Function.update_self ..

theorem setRx_other (h : j ≠ i) : (s.setRx i data).rx j = s.rx j := Function.update_of_ne h ..

@[simp] theorem setStream_listener : (s.setStream stream).listener = s.listener := rfl

@[simp] theorem setStream_clients : (s.setStream stream).clients = s.clients := rfl

@[simp] theorem setStream_rx : (s.setStream stream).rx = s.rx := rfl

@[simp] theorem setStream_stream : (s.setStream stream).stream = stream := rfl

@[simp] theorem setStream_streamOwner : (s.setStream stream).streamOwner = s.streamOwner := rfl

end Updates

/-! ## The environment -/

/-- Library functions that are not part of the repository: the cipher, the
primitives of pair-setup, the signature over an Apple challenge (RSA with the key of
`airplay_auth.c`), and the C library's conversions of a `float`, given by its
bits. `strtof` is `none` where it converts nothing. -/
structure Primitives where
  aead : Aead
  srp : SrpPrimitives
  appleSignature : CString → List UInt8 → List UInt8 → Option (List UInt8)
  strtof : CString → Option UInt32
  formatVolume : UInt32 → CString

/-- What the outside does while a request is handled: after how many successful
calls `net_tcp_send_all` fails (`none` for never), the handle and the port of the
socket that `net_tcp_listen` opens, and the environment of pair-setup. A handler
that fails to send returns at once, so one number describes the sends. -/
structure RequestIo where
  sendLimit : Option ℕ
  listen : Option (ℕ × UInt16)
  pairSetup : PairSetupIo

/-- All sends succeed. -/
def RequestIo.Sends (io : RequestIo) : Prop := io.sendLimit = none

/-! ## Responses -/

/-- `PAIR_RECORD_MAX` bytes of plaintext at a time. -/
def recordChunks : ℕ → List UInt8 → List (List UInt8)
  | 0, _ => []
  | fuel + 1, data =>
      if data = [] then []
      else data.take pairRecordMax :: recordChunks fuel (data.drop pairRecordMax)

/-- The state of the sends within one request: the buffers sent so far. -/
abbrev Sent := List (List UInt8)

/-- `net_tcp_send_all`: the buffer is sent unless the limit is reached. -/
def netTcpSendAll (io : RequestIo) (socket : NetSocket) (sent : Sent) (data : List UInt8) :
    Option Sent :=
  if socket.isOpen = false then none
  else
    match io.sendLimit with
    | none => some (sent ++ [data])
    | some limit => if sent.length < limit then some (sent ++ [data]) else none

/-- The outcome of a send: the client, the buffers sent, and success. -/
structure SendResult where
  client : RtspClient
  sent : Sent
  ok : Bool

/-- The loop of `send_client` over the records of an encrypted client. -/
def sendRecords (prim : Primitives) (io : RequestIo) (client : RtspClient) (sent : Sent) :
    List (List UInt8) → SendResult
  | [] => ⟨client, sent, true⟩
  | chunk :: rest =>
      match pairingSeal prim.aead client.pairing chunk with
      | (pairing, none) => ⟨{ client with pairing := pairing }, sent, false⟩
      | (pairing, some record) =>
          let client := { client with pairing := pairing }
          match netTcpSendAll io client.socket sent record with
          | none => ⟨client, sent, false⟩
          | some sent => sendRecords prim io client sent rest

/-- `send_client`. -/
def sendClient (prim : Primitives) (io : RequestIo) (client : RtspClient) (sent : Sent)
    (data : List UInt8) : SendResult :=
  if client.encrypted = false then
    match netTcpSendAll io client.socket sent data with
    | none => ⟨client, sent, false⟩
    | some sent => ⟨client, sent, true⟩
  else sendRecords prim io client sent (recordChunks (data.length + 1) data)

/-- `AIRPLAY_SERVER_VERSION`. -/
def serverVersion : CString := ascii "130.14"

/-- The status line and the headers of a response. -/
def responseHead (client : RtspClient) (status : ℕ) (statusText : CString) (cseq : UInt32)
    (extraHeaders : CString) : CString :=
  (if client.http then ascii "HTTP/1.1" else ascii "RTSP/1.0") ++ ascii " " ++ decimal status ++
    ascii " " ++ statusText ++ ascii "\r\nCSeq: " ++ decimal cseq.toNat ++
    ascii "\r\nServer: AirTunes/" ++ serverVersion ++ ascii "\r\n" ++ extraHeaders

/-- The Content-Length line, present with a body and always in HTTP. -/
def contentLengthLine (client : RtspClient) (body : List UInt8) : CString :=
  if body ≠ [] ∨ client.http then
    ascii "Content-Length: " ++ decimal body.length ++ ascii "\r\n"
  else []

/-- `sizeof(response)`. -/
def responseMax : ℕ := 2048

/-- `rtsp_send_response`. -/
def rtspSendResponse (prim : Primitives) (io : RequestIo) (client : RtspClient) (status : ℕ)
    (statusText : CString) (cseq : UInt32) (extraHeaders : CString) (body : List UInt8) :
    SendResult :=
  let head := responseHead client status statusText cseq extraHeaders
  let line := contentLengthLine client body
  if head.length ≥ responseMax ∨ (line ≠ [] ∧ line.length ≥ responseMax - head.length) ∨
      head.length + line.length + 2 > responseMax then ⟨client, [], false⟩
  else
    let r := sendClient prim io client [] (head ++ line ++ ascii "\r\n")
    if r.ok = false then r
    else if body = [] then r
    else sendClient prim io r.client r.sent body

/-- What a request handler did: the server, the status it answered with, the
buffers it sent, and whether it returned 0. -/
structure HandlerResult where
  server : RtspServer
  status : ℕ
  sent : Sent
  ok : Bool

/-- A handler's `return rtsp_send_response(client, …)`. -/
def respond (prim : Primitives) (io : RequestIo) (s : RtspServer) (i : Slot) (status : ℕ)
    (statusText : CString) (cseq : UInt32) (extraHeaders : CString) (body : List UInt8) :
    HandlerResult :=
  let r := rtspSendResponse prim io (s.clients i) status statusText cseq extraHeaders body
  ⟨s.setClient i r.client, status, r.sent, r.ok⟩

end PortableAirplay.Protocol
