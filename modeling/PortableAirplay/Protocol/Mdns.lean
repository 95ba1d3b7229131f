import PortableAirplay.Library.BoundedWriter
import PortableAirplay.Library.DnsMessage
import PortableAirplay.Util.Text

/-!
# mDNS packets

The writer of announcements and the decoder of names of `protocol/mdns.c`. The buffer is
what has been written to it, so a position is its length; a write outside the buffer is a
fault, and `return 0` is a refusal. What a config refers to is not null but for the entries
that the source checks.
-/

set_option autoImplicit false

namespace PortableAirplay.Protocol

open PortableAirplay.Library
open PortableAirplay.Platform
open PortableAirplay.Util

/-! ## Configuration -/

/-- `mdns_config_t`; `txt_count` is the number of the entries. -/
structure MdnsConfig where
  serviceType : CString
  instanceName : CString
  hostname : CString
  port : UInt16
  ipv4 : Option CString
  txtEntries : List (Option CString)
  deriving DecidableEq

/-- The name of the instance within its service. -/
def MdnsConfig.fullName (config : MdnsConfig) : CString :=
  config.instanceName ++ nameDot :: config.serviceType

/-! ## The writer -/

/-- The loop of `write_name`. Each label has a byte, so fuel above the length of the name
is enough. -/
def writeLabels (capacity : ℕ) : ℕ → CString → List UInt8 → Building (List UInt8)
  | 0, _, _ => refuse
  | _ + 1, [], out => pure out
  | fuel + 1, c :: rest, out => do
      let label := (c :: rest).takeWhile (· ≠ nameDot)
      refuseIf (label.length = 0 ∨ label.length > 63 ∨ out.length + 1 + label.length ≥ capacity)
      let out ← emit capacity out [UInt8.ofNat label.length]
      let out ← emit capacity out label
      let name := (c :: rest).drop label.length
      writeLabels capacity fuel (if name.head? = some nameDot then name.drop 1 else name) out

/-- `write_name`. -/
def writeName (capacity : ℕ) (name : CString) (out : List UInt8) : Building (List UInt8) := do
  refuseIf (name = [])
  let written ← writeLabels capacity (name.length + 1) name out
  refuseIf (written.length ≥ capacity ∨ written.length - out.length + 1 > 255)
  emit capacity written [0]

/-- `begin_record`: the position of the record is that of the buffer before. -/
def beginRecord (capacity : ℕ) (type recordClass : UInt16) (ttl : UInt32) (out : List UInt8) :
    Building (List UInt8) := do
  refuseIf (out.length + 10 > capacity)
  emit capacity out
    (beBytes 2 type.toNat ++ (beBytes 2 recordClass.toNat ++ (beBytes 4 ttl.toNat ++ beBytes 2 0)))

/-- The length of a record's data is written to its place behind the fields at `record`. -/
def endRecord (record : ℕ) (out : List UInt8) : Building (List UInt8) :=
  patch out (record + 8) (beBytes 2 (out.length - (record + 10)))

section Records

variable (capacity : ℕ) (config : MdnsConfig) (ttl : UInt32)

/-- The PTR record of `build_packet`. -/
def writePointer (out : List UInt8) : Building (List UInt8) := do
  let owned ← writeName capacity config.serviceType out
  let out ← beginRecord capacity 12 1 ttl owned
  let out ← writeName capacity config.fullName out
  endRecord owned.length out

/-- The SRV record. -/
def writeService (out : List UInt8) : Building (List UInt8) := do
  let owned ← writeName capacity config.fullName out
  let out ← beginRecord capacity 33 0x8001 ttl owned
  refuseIf (out.length + 6 > capacity)
  let out ← emit capacity out ([0, 0, 0, 0] ++ beBytes 2 config.port.toNat)
  let out ← writeName capacity config.hostname out
  endRecord owned.length out

/-- The A record for an address. -/
def writeAddress (ip : CString) (out : List UInt8) : Building (List UInt8) := do
  refuseIf (netStrToIpv4 ip = none)
  let owned ← writeName capacity config.hostname out
  let out ← beginRecord capacity 1 0x8001 ttl owned
  refuseIf (out.length + 4 > capacity)
  let out ← emit capacity out ((netStrToIpv4 ip).getD [])
  patch out (owned.length + 8) (beBytes 2 4)

/-- The loop over the TXT entries. -/
def writeEntries : List (Option CString) → List UInt8 → Building (List UInt8)
  | [], out => pure out
  | none :: _, _ => refuse
  | some entry :: rest, out => do
      refuseIf (entry.length > 255 ∨ out.length + 1 + entry.length > capacity)
      let out ← emit capacity out [UInt8.ofNat entry.length]
      let out ← emit capacity out entry
      writeEntries rest out

/-- The TXT record. -/
def writeText (out : List UInt8) : Building (List UInt8) := do
  let owned ← writeName capacity config.fullName out
  let out ← beginRecord capacity 16 0x8001 ttl owned
  let out ← writeEntries capacity config.txtEntries out
  endRecord owned.length out

/-- The A record, if an address is set: the buffer, and how many records these are. -/
def writeAddressIfSet (out : List UInt8) : Building (List UInt8 × ℕ) :=
  match config.ipv4 with
  | none => pure (out, 0)
  | some [] => pure (out, 0)
  | some (c :: rest) => do pure (← writeAddress capacity config ttl (c :: rest) out, 1)

/-- The TXT record, if there are entries. -/
def writeTextIfSet (out : List UInt8) : Building (List UInt8 × ℕ) :=
  if config.txtEntries = [] then pure (out, 0)
  else do pure (← writeText capacity config ttl out, 1)

/-- `build_packet`. -/
def buildPacket : Building (List UInt8) := do
  refuseIf (capacity < 12)
  let out ← emit capacity [] ([0, 0] ++ (beBytes 2 0x8400 ++ [0, 0, 0, 0, 0, 0, 0, 0]))
  refuseIf (config.fullName.length ≥ 256)
  let out ← writePointer capacity config ttl out
  let out ← writeService capacity config ttl out
  let (out, addresses) ← writeAddressIfSet capacity config ttl out
  let (out, texts) ← writeTextIfSet capacity config ttl out
  patch out 6 (beBytes 2 (2 + addresses + texts))

end Records

/-! ## Announcing -/

/-- `mdns_error_t` without `MDNS_OK`, as far as a response can end with it. -/
inductive MdnsError where
  | bufferOverflow
  | socketError
  deriving DecidableEq

/-- `send_response` with what `net_udp_send` returns for a packet: the packet that was
sent. -/
def sendResponse (udpSend : List UInt8 → NetAddr → Int) (config : MdnsConfig)
    (destination : NetAddr) (ttl : UInt32) : Except MdnsError (List UInt8) :=
  match buildPacket 1500 config ttl with
  | .error _ => .error .bufferOverflow
  | .ok packet =>
      if udpSend packet destination = packet.length then .ok packet else .error .socketError

/-- `MDNS_MCAST_ADDR` and `MDNS_PORT`. -/
def mdnsGroup : NetAddr := ⟨ascii "224.0.0.251", 5353⟩

/-- `mdns_announce`. -/
def mdnsAnnounce (udpSend : List UInt8 → NetAddr → Int) (config : MdnsConfig) :
    Except MdnsError (List UInt8) := sendResponse udpSend config mdnsGroup 60

/-! ## The decoder of names -/

/-- The loop of `decode_name` with the steps that are left: the text, and the position
behind the name. `next` is 0 as long as no pointer has been followed. -/
def decodeLabels (data : List UInt8) (capacity : ℕ) :
    ℕ → ℕ → ℕ → List UInt8 → Option (CString × ℕ)
  | 0, _, _, _ => none
  | steps + 1, position, next, name =>
      if position ≥ data.length then none
      else
        let labelLength := byteAt data position
        if labelLength = 0 then
          -- the root; the dot behind the last label is cut off
          some (name.dropLast, if next ≠ 0 then next else position + 1)
        else if labelLength &&& 0xc0 = 0xc0 then
          -- a pointer has two bytes
          if position + 1 ≥ data.length then none
          else
            let target := (labelLength &&& 0x3f).toNat * 256 + (byteAt data (position + 1)).toNat
            -- only the first pointer says where the name ends
            decodeLabels data capacity steps target (if next = 0 then position + 2 else next) name
        -- the other two label kinds, a label that is cut off, a name that is too long
        else if labelLength &&& 0xc0 ≠ 0 ∨ position + 1 + labelLength.toNat > data.length ∨
            name.length + labelLength.toNat + 1 ≥ capacity then none
        else
          decodeLabels data capacity steps (position + 1 + labelLength.toNat) next
            (name ++ (data.drop (position + 1)).take labelLength.toNat ++ [nameDot])

/-- `decode_name`. -/
def decodeName (data : List UInt8) (offset capacity : ℕ) : Option (CString × ℕ) :=
  decodeLabels data capacity data.length offset 0 []

end PortableAirplay.Protocol
