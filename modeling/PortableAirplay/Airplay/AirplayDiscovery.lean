import PortableAirplay.Protocol.MdnsAnnouncement

/-!
# Discovery

`airplay_discovery_init`: the two services of the receiver and their first announcement. A
name is announced as it is, by `write_name`, so what counts as one label there decides what
a name may be (`announceServices_advertises`).
-/

set_option autoImplicit false

namespace PortableAirplay.Airplay

open PortableAirplay.Library
open PortableAirplay.Platform
open PortableAirplay.Protocol
open PortableAirplay.Util

/-! ## Initialization -/

/-- What the socket calls of `airplay_discovery_init` return. -/
structure DiscoveryCalls where
  udpBind : UInt16 → Int
  udpJoin : CString → CString → Int
  udpSend : List UInt8 → NetAddr → Int

/-- The socket calls succeed: a datagram is sent as a whole. -/
structure DiscoveryCalls.Succeed (calls : DiscoveryCalls) : Prop where
  bind : ∀ port, calls.udpBind port = 0
  join : ∀ group ip, calls.udpJoin group ip = 0
  send : ∀ packet destination, calls.udpSend packet destination = packet.length

/-- Whether `airplay_discovery_init` returns 0, and the packets it has sent. -/
structure DiscoveryRun where
  ok : Bool
  sent : List (List UInt8)
  deriving DecidableEq

/-- `AIRPLAY_RTSP_PORT`. -/
def airplayRtspPort : UInt16 := 5000

/-- The TXT entry with the digits of a MAC address in pairs. -/
def deviceIdText (mac : CString) : CString :=
  snprintf 32 (ascii "deviceid=" ++
    (ascii ":").intercalate ((List.range 6).map fun i => (mac.drop (2 * i)).take 2))

/-- The label of the RAOP instance. -/
def raopLabel (friendlyName : CString) (localMac : Option CString) : CString :=
  match localMac with
  | some (c :: rest) => (c :: rest) ++ ascii "@" ++ friendlyName
  | _ => friendlyName

/-- `discovery->hostname`. -/
def discoveryHostname (friendlyName : CString) : CString := friendlyName ++ ascii ".local"

/-- The RAOP service. -/
def raopService (friendlyName : CString) (localMac : Option CString) (localIp : CString)
    (raopTxtEntries : List (Option CString)) : MdnsConfig where
  serviceType := ascii "_raop._tcp.local"
  instanceName := raopLabel friendlyName localMac
  hostname := discoveryHostname friendlyName
  port := airplayRtspPort
  ipv4 := some localIp
  txtEntries := raopTxtEntries

/-- The MAC address of the AirPlay service: zeros in place of one that is not complete. -/
def airplayMac (localMac : Option CString) : CString :=
  match localMac with
  | some mac => if mac.length = 12 then mac else ascii "000000000000"
  | none => ascii "000000000000"

/-- `airplay_txt`. -/
def airplayTxt (localMac : Option CString) : List CString :=
  [deviceIdText (airplayMac localMac), ascii "features=0x405C4A00,0x18340", ascii "flags=0x4",
    ascii "model=PortableSpeaker", ascii "srcvers=377.40.00", ascii "vv=2", ascii "acl=0"]

/-- The AirPlay service. -/
def airplayService (friendlyName : CString) (localMac : Option CString) (localIp : CString) :
    MdnsConfig where
  serviceType := ascii "_airplay._tcp.local"
  instanceName := friendlyName
  hostname := discoveryHostname friendlyName
  port := airplayRtspPort
  ipv4 := some localIp
  txtEntries := (airplayTxt localMac).map some

/-- `airplay_discovery_init` behind its checks of the arguments. -/
def announceServices (calls : DiscoveryCalls) (raop airplay : MdnsConfig) : DiscoveryRun :=
  match mdnsAnnounce calls.udpSend raop with
  | .error _ => ⟨false, []⟩
  | .ok packet =>
      match mdnsAnnounce calls.udpSend airplay with
      | .error _ => ⟨false, [packet]⟩
      | .ok packet' => ⟨true, [packet, packet']⟩

/-- `airplay_discovery_init`. A MAC address may be left out; `mdns_create` has nothing left
to refuse. -/
def airplayDiscoveryInit (calls : DiscoveryCalls) (friendlyName localMac localIp : Option CString)
    (raopTxtEntries : List (Option CString)) : DiscoveryRun :=
  match friendlyName, localIp with
  | some friendlyName, some localIp =>
      if friendlyName = [] ∨ friendlyName.length ≥ 64 ∨ raopTxtEntries.length > 65535 ∨
          netStrToIpv4 localIp = none ∨ localIp.length ≥ 16 then ⟨false, []⟩
      else if (raopLabel friendlyName localMac).length ≥ 96 then ⟨false, []⟩
      else if (discoveryHostname friendlyName).length ≥ 96 then ⟨false, []⟩
      else if calls.udpBind 5353 ≠ 0 ∨ calls.udpJoin mdnsGroup.ip localIp ≠ 0 then ⟨false, []⟩
      else
        announceServices calls (raopService friendlyName localMac localIp raopTxtEntries)
          (airplayService friendlyName localMac localIp)
  | _, _ => ⟨false, []⟩

/-! ## Names of services -/

/-- `_raop._tcp.local`. -/
def raopDomain : DomainName where
  labels := [ascii "_raop", ascii "_tcp", ascii "local"]
  nonempty := List.cons_ne_nil _ _
  valid := by decide
  short := by decide

/-- `_airplay._tcp.local`. -/
def airplayDomain : DomainName where
  labels := [ascii "_airplay", ascii "_tcp", ascii "local"]
  nonempty := List.cons_ne_nil _ _
  valid := by decide
  short := by decide

/-- `local`. -/
def localDomain : DomainName where
  labels := [ascii "local"]
  nonempty := List.cons_ne_nil _ _
  valid := by decide
  short := by decide

/-- `friendly_name` under `local`, the host of both services. -/
theorem discoveryHostname_text {friendlyName : CString} (h : ValidLabel friendlyName)
    (hshort : friendlyName.length + 1 + localDomain.bytes.length ≤ 255) :
    (localDomain.child friendlyName h hshort).text = discoveryHostname friendlyName :=
  child_text h hshort

/-! ## Announcements -/

/-- Both services are announced, and each under one label. -/
def DiscoveryRun.Advertises (run : DiscoveryRun) (raop airplay : CString) : Prop :=
  run.ok = true ∧ ∃ packet packet', run.sent = [packet, packet'] ∧
    AdvertisedAs packet raop [ascii "_raop", ascii "_tcp", ascii "local"] ∧
      AdvertisedAs packet' airplay [ascii "_airplay", ascii "_tcp", ascii "local"]

section Announcements

variable {calls : DiscoveryCalls} {friendlyName localIp : CString} {localMac : Option CString}
  {address : List UInt8}

/-- Arguments that pass the checks, on a socket that opens. -/
theorem airplayDiscoveryInit_ok (hcalls : calls.Succeed) (hname : friendlyName ≠ [])
    (hlong : friendlyName.length < 64) (hraop : (raopLabel friendlyName localMac).length < 96)
    (haddress : netStrToIpv4 localIp = some address) (hip : localIp.length < 16)
    {entries : List (Option CString)} (hentries : entries.length ≤ 65535) :
    airplayDiscoveryInit calls (some friendlyName) localMac (some localIp) entries =
      announceServices calls (raopService friendlyName localMac localIp entries)
        (airplayService friendlyName localMac localIp) := by
  have hhost : (discoveryHostname friendlyName).length < 96 := by
    have hdomain : (ascii ".local").length = 6 := rfl
    rw [discoveryHostname, List.length_append, hdomain]
    omega
  have hchecks : ¬(friendlyName = [] ∨ friendlyName.length ≥ 64 ∨ entries.length > 65535 ∨
      netStrToIpv4 localIp = none ∨ localIp.length ≥ 16) := by
    rintro (h | h | h | h | h)
    · exact hname h
    · omega
    · omega
    · rw [haddress] at h
      contradiction
    · omega
  have hsocket : ¬(calls.udpBind 5353 ≠ 0 ∨ calls.udpJoin mdnsGroup.ip localIp ≠ 0) := by
    rintro (h | h)
    · exact h (hcalls.bind _)
    · exact h (hcalls.join _ _)
  rw [airplayDiscoveryInit, if_neg hchecks, if_neg (by omega), if_neg (by omega), if_neg hsocket]

theorem deviceIdText_length_le (mac : CString) : (deviceIdText mac).length ≤ 31 :=
  snprintf_length_le 32 _

/-- Entries behind that of the device. -/
theorem deviceEntries_length (mac : CString) (rest : List CString) :
    ((deviceIdText mac :: rest).flatMap labelBytes).length ≤
      32 + (rest.flatMap labelBytes).length := by
  have hdevice := deviceIdText_length_le mac
  rw [List.flatMap_cons, List.length_append, labelBytes, List.length_cons]
  omega

theorem deviceEntries_short (mac : CString) {rest : List CString}
    (h : ∀ t ∈ rest, t.length ≤ 255) : ∀ t ∈ deviceIdText mac :: rest, t.length ≤ 255 := by
  intro t ht
  rcases List.mem_cons.mp ht with rfl | htail
  · have hdevice := deviceIdText_length_le mac
    omega
  · exact h t htail

/-- **Valid labels are advertised** if the RAOP entries leave room. -/
theorem announceServices_advertises (hcalls : calls.Succeed) (hname : ValidLabel friendlyName)
    (hraop : ValidLabel (raopLabel friendlyName localMac))
    (haddress : netStrToIpv4 localIp = some address) {strings : List CString}
    (hstrings : ∀ t ∈ strings, t.length ≤ 255)
    (hroom : (strings.flatMap labelBytes).length ≤ 900) :
    (announceServices calls (raopService friendlyName localMac localIp (strings.map some))
      (airplayService friendlyName localMac localIp)).Advertises
        (raopLabel friendlyName localMac) friendlyName := by
  have hlong := hname.2.1
  have hlocal : localDomain.bytes.length = 7 := rfl
  have hraopBytes : raopDomain.bytes.length = 18 := rfl
  have hairplayBytes : airplayDomain.bytes.length = 21 := rfl
  have hfits : friendlyName.length + 1 + localDomain.bytes.length ≤ 255 := by omega
  have hhost := discoveryHostname_text hname hfits
  have hhostBytes := child_bytes_length hname hfits
  -- the entries with a fixed text take 89 bytes, the address the rest
  have hentries := deviceEntries_length (airplayMac localMac)
    [ascii "features=0x405C4A00,0x18340", ascii "flags=0x4", ascii "model=PortableSpeaker",
      ascii "srcvers=377.40.00", ascii "vv=2", ascii "acl=0"]
  have hrest : ([ascii "features=0x405C4A00,0x18340", ascii "flags=0x4",
      ascii "model=PortableSpeaker", ascii "srcvers=377.40.00", ascii "vv=2",
      ascii "acl=0"].flatMap labelBytes).length = 89 := rfl
  have hraopService : ∃ packet, mdnsAnnounce calls.udpSend
      (raopService friendlyName localMac localIp (strings.map some)) = .ok packet ∧
        AdvertisedAs packet (raopLabel friendlyName localMac) raopDomain.labels :=
    mdnsAnnounce_advertises hraop rfl rfl hhost rfl haddress rfl hstrings (by omega) (by omega)
      hcalls.send
  have hairplayService : ∃ packet, mdnsAnnounce calls.udpSend
      (airplayService friendlyName localMac localIp) = .ok packet ∧
        AdvertisedAs packet friendlyName airplayDomain.labels :=
    mdnsAnnounce_advertises hname rfl rfl hhost rfl haddress rfl
      (deviceEntries_short _ (by decide)) (by omega) (by omega) hcalls.send
  obtain ⟨packet, hpacket, hadvertised⟩ := hraopService
  obtain ⟨packet', hpacket', hadvertised'⟩ := hairplayService
  rw [announceServices, hpacket]
  dsimp only
  rw [hpacket']
  exact ⟨rfl, packet, packet', rfl, hadvertised, hadvertised'⟩

/-- Only a valid label is advertised. -/
theorem DiscoveryRun.Advertises.valid {raop airplay : MdnsConfig} {label label' : CString}
    (h : (announceServices calls raop airplay).Advertises label label') : ValidLabel label := by
  obtain ⟨hok, packet, packet', hsent, hadvertised, -⟩ := h
  rw [announceServices] at hok hsent
  split at hok
  · exact absurd hok Bool.false_ne_true
  · rename_i first hfirst
    rw [hfirst] at hsent
    dsimp only at hsent
    split at hok
    · exact absurd hok Bool.false_ne_true
    · rename_i second hsecond
      rw [hsecond] at hsent
      dsimp only at hsent
      rw [← (List.cons.inj hsent).1] at hadvertised
      exact hadvertised.valid (by decide) (buildPacket_of_announce hfirst)

end Announcements

end PortableAirplay.Airplay
