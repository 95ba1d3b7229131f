import PortableAirplay.Library.BigEndian
import PortableAirplay.Platform.Net
import PortableAirplay.Protocol.Rtp

/-!
# The buffered audio transport

`audio/buffered_audio.c`: length-prefixed RTP records over one TCP connection.
A poll reads at most one record. The receive buffer is modelled by its filled
part, so `used` is the length of `data`. The packet handed to the callback is
part of the result; the callback does not touch the transport.
-/

set_option autoImplicit false

namespace PortableAirplay.Audio

open PortableAirplay.Library
open PortableAirplay.Platform
open PortableAirplay.Protocol

/-- `buffered_audio_t`. -/
structure BufferedAudio where
  listener : NetSocket
  client : NetSocket
  data : List UInt8
  discardSequence : UInt32
  discarding : Bool
  deriving DecidableEq, Repr

/-- What the network has for the calls of one poll. -/
structure BufferedIo where
  accept : AcceptOffer
  recvLength : RecvOffer
  recvBody : RecvOffer

/-- The outcome of a poll: the new state, the return value, the packet given to
the callback, and the bytes taken from the connection. -/
structure BufferedPoll where
  audio : BufferedAudio
  result : Int
  packet : Option RtpPacket
  received : List UInt8
  deriving DecidableEq

/-- `buffered_audio_init`. -/
def bufferedAudioInit : BufferedAudio := ⟨netSocketInit, netSocketInit, [], 0, false⟩

/-- `buffered_audio_disconnect`. -/
def bufferedAudioDisconnect (b : BufferedAudio) : BufferedAudio :=
  { b with client := netSocketInit, data := [], discarding := false }

/-- `buffered_audio_flush`. -/
def bufferedAudioFlush (b : BufferedAudio) (untilSequence : UInt32) : BufferedAudio :=
  { b with discardSequence := untilSequence &&& 0xffffff, discarding := true }

/-- `need`: the inclusive record length in the first two bytes. -/
def recordNeed (data : List UInt8) : Nat :=
  (byteAt data 0).toNat <<< 8 ||| (byteAt data 1).toNat

/-- The 24-bit wire sequence of a record. -/
def recordSequence (data : List UInt8) : UInt32 :=
  bigEndian24 (byteAt data 3) (byteAt data 4) (byteAt data 5)

/-- The packet of a record: the reorder queue tracks the low 16 sequence bits. -/
def recordPacket (data : List UInt8) : RtpPacket where
  header :=
    { RtpHeader.zero with
      version := 2
      payloadType := 96
      sequence := (recordSequence data).toUInt16
      timestamp :=
        bigEndian32 (byteAt data 6) (byteAt data 7) (byteAt data 8) (byteAt data 9)
      ssrc := bigEndian32 (byteAt data 10) (byteAt data 11) (byteAt data 12) (byteAt data 13) }
  payload := data.drop 14

/-- The test that keeps a record back while discarding. -/
def BufferedAudio.staleRecord (b : BufferedAudio) : Bool :=
  let distance := (recordSequence b.data - b.discardSequence) &&& 0xffffff
  b.discarding && (decide (distance = 0) || decide (0x800000 ≤ distance))

/-- The end of `buffered_audio_poll`, with a complete record in the buffer. -/
def deliverRecord (b : BufferedAudio) (received : List UInt8) : BufferedPoll :=
  if b.staleRecord then ⟨{ b with data := [] }, 1, none, received⟩
  else ⟨{ b with data := [], discarding := false }, 1, some (recordPacket b.data), received⟩

/-- `buffered_audio_poll` with the length of the record in the buffer. -/
def receiveBody (io : BufferedIo) (b : BufferedAudio) (received : List UInt8) : BufferedPoll :=
  let need := recordNeed b.data
  if need < 38 ∨ need > rtpBufferSize + 2 then ⟨bufferedAudioDisconnect b, 0, none, received⟩
  else
    match netTcpRecv b.client (need - b.data.length) io.recvBody with
    | .timeout => ⟨b, 0, none, received⟩
    | .error => ⟨bufferedAudioDisconnect b, 0, none, received⟩
    | .bytes [] => ⟨bufferedAudioDisconnect b, 0, none, received⟩
    | .bytes (x :: xs) =>
        let b := { b with data := b.data ++ x :: xs }
        if b.data.length < need then ⟨b, 0, none, received ++ x :: xs⟩
        else deliverRecord b (received ++ x :: xs)

/-- `buffered_audio_poll` on a connected transport. -/
def receiveRecord (io : BufferedIo) (b : BufferedAudio) : BufferedPoll :=
  if b.data.length < 2 then
    match netTcpRecv b.client (2 - b.data.length) io.recvLength with
    | .timeout => ⟨b, 0, none, []⟩
    | .error => ⟨bufferedAudioDisconnect b, 0, none, []⟩
    | .bytes [] => ⟨bufferedAudioDisconnect b, 0, none, []⟩
    | .bytes (x :: xs) =>
        let b := { b with data := b.data ++ x :: xs }
        if b.data.length < 2 then ⟨b, 0, none, x :: xs⟩ else receiveBody io b (x :: xs)
  else receiveBody io b []

/-- `buffered_audio_poll`: 1 for a consumed record, 0 on idle, -1 when the
listener fails. Only the peer with address `ip` is kept. -/
def bufferedAudioPoll (io : BufferedIo) (b : BufferedAudio) (ip : CString) : BufferedPoll :=
  if b.client.isOpen then receiveRecord io b
  else
    match io.accept with
    | .timeout => ⟨b, 0, none, []⟩
    | .error => ⟨b, -1, none, []⟩
    | .accepted handle peer =>
        let b := { b with client := netTcpAccept b.listener handle }
        if ip = [] ∨ peer.ip ≠ ip then ⟨bufferedAudioDisconnect b, 0, none, []⟩
        else receiveRecord io b

/-! ## What a read of the connection may do -/

/-- It keeps what was read, drops the connection or consumes a record. -/
inductive RecordPoll (b : BufferedAudio) : BufferedPoll → Prop where
  | waiting (data received : List UInt8) :
      RecordPoll b ⟨{ b with data := data }, 0, none, received⟩
  | dropped (received : List UInt8) : RecordPoll b ⟨bufferedAudioDisconnect b, 0, none, received⟩
  | consumed (data received : List UInt8) :
      RecordPoll b (deliverRecord { b with data := data } received)

/-- The data of the record do not matter for that. -/
theorem RecordPoll.of_data {b : BufferedAudio} {data : List UInt8} {r : BufferedPoll}
    (h : RecordPoll { b with data := data } r) : RecordPoll b r := by
  cases h with
  | waiting data received => exact .waiting data received
  | dropped received => exact .dropped received
  | consumed data received => exact .consumed data received

theorem receiveBody_poll (io : BufferedIo) (b : BufferedAudio) (received : List UInt8) :
    RecordPoll b (receiveBody io b received) := by
  rw [receiveBody]
  dsimp only
  split
  · exact .dropped received
  · cases netTcpRecv b.client (recordNeed b.data - b.data.length) io.recvBody with
    | timeout => exact .waiting b.data received
    | error => exact .dropped received
    | bytes bytes =>
        cases bytes with
        | nil => exact .dropped received
        | cons x xs =>
            dsimp only
            split
            · exact .waiting _ _
            · exact .consumed _ _

theorem receiveRecord_poll (io : BufferedIo) (b : BufferedAudio) :
    RecordPoll b (receiveRecord io b) := by
  rw [receiveRecord]
  split
  · cases netTcpRecv b.client (2 - b.data.length) io.recvLength with
    | timeout => exact .waiting b.data []
    | error => exact .dropped []
    | bytes bytes =>
        cases bytes with
        | nil => exact .dropped []
        | cons x xs =>
            dsimp only
            split
            · exact .waiting _ _
            · exact (receiveBody_poll io _ _).of_data
  · exact receiveBody_poll io b []

end PortableAirplay.Audio
