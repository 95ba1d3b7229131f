import Mathlib.Algebra.Order.Ring.Nat

/-!
# Compile-time configuration

The limits of `airplay_config.h`, the sizes derived from them in the headers, and `INT_MAX`.
A build may override the memory limits; no proof below uses more about them than
the facts stated here.
-/

set_option autoImplicit false

namespace PortableAirplay

/-- `ALAC_MAX_SAMPLES_PER_FRAME`: PCM frames in one packet. -/
def alacMaxSamplesPerFrame : Nat := 352

/-- `AIRPLAY_PLAYOUT_PACKETS`: slots of the compressed-packet queue. -/
def airplayPlayoutPackets : Nat := 512

/-- `PLAYOUT_PAYLOAD_BYTES`: 16-bit stereo PCM plus ALAC framing overhead. -/
def playoutPayloadBytes : Nat := alacMaxSamplesPerFrame * 4 + 64

/-- `RTP_BUFFER_SIZE`: bytes of one RTP datagram. -/
def rtpBufferSize : Nat := 4096

/-- `MAX_AUDIO_BUFFER_SAMPLES`: samples over all channels of one packet. -/
def maxAudioBufferSamples : Nat := rtpBufferSize / 2

/-- `ALAC_MAX_CONTEXTS`: decoder contexts in the static pool. -/
def alacMaxContexts : Nat := 1

/-- `RTSP_RX_BUFFER_SIZE`: receive buffer of one RTSP client. -/
def rtspRxBufferSize : Nat := 256 * 1024

/-- `RTSP_MAX_CLIENTS`. -/
def rtspMaxClients : Nat := 2

/-- `SDP_SCRATCH_MAX`: bytes of the SDP parser's copy of a body. -/
def sdpScratchMax : Nat := 4096

/-- `AIRPLAY_OUTPUT_BUFFER_COUNT`: buffers between the audio thread and an output device. -/
def outputBufferCount : Nat := 8

/-- `AIRPLAY_OUTPUT_BUFFER_SAMPLES`: samples over all channels of one of them. -/
def outputBufferSamples : Nat := 16384

instance : NeZero outputBufferCount := ⟨by decide⟩

/-- An output buffer by its index. -/
abbrev Buffer := Fin outputBufferCount

/-- `INT_MAX`. -/
def intMax : Nat := 2 ^ 31 - 1

end PortableAirplay
