import PortableAirplay.Config

/-!
# RTP packets

The header fields and the payload view of `protocol/rtp.h`. A payload is the
byte list the C view `(payload, payload_len)` points to.
-/

set_option autoImplicit false

namespace PortableAirplay.Protocol

/-- `rtp_header_t`. -/
structure RtpHeader where
  version : UInt8
  padding : UInt8
  extension : UInt8
  csrcCount : UInt8
  marker : UInt8
  payloadType : UInt8
  sequence : UInt16
  timestamp : UInt32
  ssrc : UInt32
  deriving DecidableEq, Repr

/-- The header after `memset(&header, 0, sizeof(header))`. -/
def RtpHeader.zero : RtpHeader := ⟨0, 0, 0, 0, 0, 0, 0, 0, 0⟩

/-- `rtp_packet_t`. -/
structure RtpPacket where
  header : RtpHeader
  payload : List UInt8
  deriving DecidableEq, Repr

instance : Inhabited RtpPacket := ⟨⟨RtpHeader.zero, []⟩⟩

end PortableAirplay.Protocol
