import PortableAirplay.Library.BigEndian
import PortableAirplay.Platform.Net

/-!
# The PTP clock

`sync/ptp_sync.c`: receive-only PTP with one selected sender clock, and the anchor
that ties an RTP time to it. Signed 64-bit values are integers; the casts from
unsigned values wrap as in the source. The sockets are in `PtpSync` because
`ptp_sync_open` decides by them whether the clock is in use.
-/

set_option autoImplicit false

namespace PortableAirplay.Sync

open PortableAirplay.Library
open PortableAirplay.Platform

/-- `airplay_anchor_t`. -/
structure AirplayAnchor where
  clockId : UInt64
  networkUs : UInt64
  rtpTime : UInt32
  valid : Bool
  playing : Bool
  deriving DecidableEq, Repr

/-- The zeroed anchor. -/
def AirplayAnchor.zero : AirplayAnchor := ⟨0, 0, 0, false, false⟩

/-- `ptp_sync_t`. -/
structure PtpSync where
  sockets : NetSocket × NetSocket
  clockId : UInt64
  syncReceivedUs : UInt64
  updatedUs : UInt64
  offsetUs : ℤ
  syncCorrection : ℤ
  sourcePort : List UInt8
  sequence : UInt16
  domain : UInt8
  opened : Bool
  pending : Bool
  ready : Bool
  deriving DecidableEq

/-- `ptp_sync_init`. -/
def ptpSyncInit : PtpSync where
  sockets := (netSocketInit, netSocketInit)
  clockId := 0
  syncReceivedUs := 0
  updatedUs := 0
  offsetUs := 0
  syncCorrection := 0
  sourcePort := List.replicate 10 0
  sequence := 0
  domain := 0
  opened := false
  pending := false
  ready := false

/-- `ptp_sync_open`, with the sockets that were bound and joined to the group, or
`none` where one of the calls fails. -/
def ptpSyncOpen (p : PtpSync) (sockets : Option (NetSocket × NetSocket)) : PtpSync × Bool :=
  if p.opened then (p, true)
  else
    match sockets with
    | none => (ptpSyncInit, false)
    | some sockets => ({ p with sockets := sockets, opened := true }, true)

/-- `be`: `n` bytes at position `pos`. -/
def ptpField (data : List UInt8) (pos n : ℕ) : UInt64 := beField data pos n

/-- `ptp_sync_set_clock`. -/
def ptpSyncSetClock (p : PtpSync) (clockId : UInt64) : PtpSync :=
  if p.clockId ≠ clockId then { p with clockId := clockId, pending := false, ready := false }
  else p

/-- The end of `ptp_sync_packet`: a sender time and its correction become a sample. -/
def ptpSample (p : PtpSync) (data : List UInt8) (correction : ℤ) (now : UInt64) : PtpSync × ℤ :=
  let sec := ptpField data 34 6
  let ns := (ptpField data 40 4).toUInt32
  if ns ≥ 1000000000 ∨ sec > 0x7fffffffffffffff / 1000000 then (p, -1)
  else
    let offset := (sec * 1000000 + (ns / 1000).toUInt64).toInt64.toInt + correction -
      p.syncReceivedUs.toInt64.toInt
    let offsetUs :=
      if p.ready = false ∨ now - p.updatedUs > 2000000 ∨ offset > p.offsetUs then offset
      else p.offsetUs + (offset - p.offsetUs).tdiv 64
    ({ p with offsetUs := offsetUs, ready := true, pending := false, updatedUs := now }, 1)

/-- `ptp_sync_packet`: 1 for a sample, 0 for a packet of no use, -1 for a malformed
one. -/
def ptpSyncPacket (p : PtpSync) (data : List UInt8) (now : UInt64) : PtpSync × ℤ :=
  if data.length < 44 ∨ byteAt data 1 &&& 15 ≠ 2 then (p, -1)
  else
    let length := (ptpField data 2 2).toNat
    -- the length field of the header, which may not pass the datagram
    if length < 44 ∨ length > data.length then (p, -1)
    else
      let type := byteAt data 0 &&& 15
      let clock := ptpField data 20 8
      -- only Sync and Follow_Up of the clock of the anchor are of use
      if (type ≠ 0 ∧ type ≠ 8) ∨ p.clockId = 0 ∨ clock ≠ p.clockId then (p, 0)
      else
        let seq := (ptpField data 30 2).toUInt16
        let correction := (ptpField data 8 8).toInt64.toInt.tdiv 65536000
        let source := (data.drop 20).take 10
        -- a Sync takes the place of the one that is pending, if any
        if type = 0 then
          let p :=
            { p with
              sequence := seq
              domain := byteAt data 4
              syncReceivedUs := now
              sourcePort := source
              syncCorrection := correction
              pending := true }
          -- two-step: the time comes with the Follow_Up
          if byteAt data 6 &&& 2 ≠ 0 then (p, 0) else ptpSample p data correction now
        -- a Follow_Up of another Sync, or one that comes more than a second after it
        else if p.pending = false ∨ seq ≠ p.sequence ∨ byteAt data 4 ≠ p.domain ∨
            p.sourcePort ≠ source ∨ now - p.syncReceivedUs > 1000000 then (p, 0)
        else ptpSample p data (correction + p.syncCorrection) now

/-- `ptp_sync_anchor`: the anchor of a control packet. -/
def ptpSyncAnchor (data : List UInt8) : Option AirplayAnchor :=
  if data.length < 28 ∨ byteAt data 0 >>> 6 ≠ 2 ∨ byteAt data 1 &&& 0x7f ≠ 0x57 ∨
      ptpField data 20 8 = 0 then none
  else
    some
      { rtpTime := (ptpField data 4 4).toUInt32
        networkUs := ptpField data 8 8 / 1000
        clockId := ptpField data 20 8
        valid := true
        playing := true }

/-- `ptp_sync_deadline`: the local time of an RTP timestamp, `none` for -1. -/
def ptpSyncDeadline (p : PtpSync) (a : AirplayAnchor) (timestamp rate latency : UInt32)
    (now : UInt64) : Option UInt64 :=
  if p.ready = false ∨ a.valid = false ∨ a.playing = false ∨ rate = 0 ∨ a.clockId ≠ p.clockId ∨
      (now ≥ p.updatedUs ∧ now - p.updatedUs > 5000000) then none
  else
    let delta := (timestamp - a.rtpTime).toInt32.toInt + latency.toNat
    let localUs := a.networkUs.toInt64.toInt - p.offsetUs + (delta * 1000000).tdiv rate.toNat
    if localUs < 0 then none else some (UInt64.ofInt localUs)

end PortableAirplay.Sync
