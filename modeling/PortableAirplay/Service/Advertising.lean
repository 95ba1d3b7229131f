import PortableAirplay.Airplay.AirplayDiscovery
import PortableAirplay.Protocol.Sdp

/-!
# Advertising the receiver

The configurations that `valid_config` accepts, and what `airplay_server_init` announces for
them. `valid_config` lets every name of 1 to 63 bytes through. The RAOP label is longer by
the MAC address and `@`, and a name with a dot is more than one label, so names of that kind
are not advertised (`device_name_advertised`).
-/

set_option autoImplicit false

namespace PortableAirplay.Service

open PortableAirplay.Airplay
open PortableAirplay.Library
open PortableAirplay.Platform
open PortableAirplay.Protocol
open PortableAirplay.Util

/-! ## The configuration -/

/-- The C string in an array of characters. -/
def cString (array : List UInt8) : CString := array.takeWhile (· ≠ 0)

/-- `airplay_config_t`: arrays of 16, 13 and 64 characters. -/
structure AirplayConfig where
  localIp : List UInt8
  localMacHex : List UInt8
  deviceName : List UInt8
  localIp_size : localIp.length = 16
  localMacHex_size : localMacHex.length = 13
  deviceName_size : deviceName.length = 64

/-- `valid_config`. -/
def validConfig (config : AirplayConfig) : Bool :=
  if 0 ∉ config.localIp ∨ 0 ∉ config.deviceName ∨ byteAt config.deviceName 0 = 0 ∨
      byteAt config.localMacHex 12 ≠ 0 ∨ netStrToIpv4 (cString config.localIp) = none then false
  else (config.localMacHex.take 12).all fun c => (hexDigit c).isSome

/-- `AIRPLAY_RAOP_TXT_ENTRIES`. -/
def airplayRaopTxtEntries : List CString :=
  [ascii "txtvers=1", ascii "ch=2", ascii "cn=0,1,2", ascii "da=true", ascii "et=0,1",
    ascii "md=0,1,2", ascii "pw=false", ascii "sv=false", ascii "ft=0x405C4A00,0x18340",
    ascii "vv=2", ascii "sr=44100", ascii "ss=16", ascii "tp=UDP", ascii "vn=65537",
    ascii "vs=130.14", ascii "am=PortableSpeaker", ascii "sf=0x4", ascii "ek=1"]

/-- `server->raop_txt`. -/
def raopTxt (config : AirplayConfig) : List CString :=
  deviceIdText (cString config.localMacHex) :: airplayRaopTxtEntries

/-- `airplay_server_init` from where it starts discovery. -/
def startDiscovery (calls : DiscoveryCalls) (config : AirplayConfig) : DiscoveryRun :=
  airplayDiscoveryInit calls (some (cString config.deviceName))
    (some (cString config.localMacHex)) (some (cString config.localIp))
    ((raopTxt config).map some)

/-! ## Accepted configurations -/

theorem cString_length_lt {array : List UInt8} (h : 0 ∈ array) :
    (cString array).length < array.length := by
  induction array with
  | nil => exact absurd h List.not_mem_nil
  | cons c rest ih =>
      by_cases hzero : c = 0
      · subst hzero
        exact Nat.succ_pos _
      · have htail : 0 ∈ rest := (List.mem_cons.mp h).resolve_left (Ne.symm hzero)
        have hcons : cString (c :: rest) = c :: cString rest :=
          List.takeWhile_cons_of_pos (decide_eq_true hzero)
        rw [hcons, List.length_cons, List.length_cons]
        exact Nat.succ_lt_succ (ih htail)

theorem cString_of_front {front : List UInt8} (h : ∀ c ∈ front, c ≠ 0) :
    cString (front ++ [0]) = front := by
  have hall : ∀ c ∈ front, decide (c ≠ 0) = true := fun c hc => decide_eq_true (h c hc)
  rw [cString, List.takeWhile_append_of_pos hall]
  exact List.append_nil front

/-- The strings of a configuration that was accepted. -/
structure ConfigStrings (ip mac name : CString) : Prop where
  address : ∃ address, netStrToIpv4 ip = some address
  ipShort : ip.length < 16
  macLength : mac.length = 12
  named : name ≠ []
  nameShort : name.length < 64

theorem validConfig_strings {config : AirplayConfig} (h : validConfig config = true) :
    ConfigStrings (cString config.localIp) (cString config.localMacHex)
      (cString config.deviceName) := by
  rw [validConfig] at h
  split at h
  · exact absurd h Bool.false_ne_true
  · rename_i hchecks
    obtain ⟨hip, hchecks⟩ := not_or.mp hchecks
    obtain ⟨hname, hchecks⟩ := not_or.mp hchecks
    obtain ⟨hfirst, hchecks⟩ := not_or.mp hchecks
    obtain ⟨hlast, haddress⟩ := not_or.mp hchecks
    -- a terminator within the array bounds the length
    have hipLength := cString_length_lt (not_not.mp hip)
    have hnameLength := cString_length_lt (not_not.mp hname)
    rw [config.localIp_size] at hipLength
    rw [config.deviceName_size] at hnameLength
    refine ⟨Option.ne_none_iff_exists'.mp haddress, hipLength, ?_, ?_, hnameLength⟩
    · -- twelve digits and the terminator: no digit is a zero byte
      have hdigits : ∀ c ∈ config.localMacHex.take 12, c ≠ 0 := by
        rintro c hc rfl
        exact Bool.false_ne_true (List.all_eq_true.mp h 0 hc)
      have hfront : config.localMacHex = config.localMacHex.take 12 ++ [0] := by
        have hdrop : config.localMacHex.drop 12 = [0] := by
          have hsize := config.localMacHex_size
          rw [List.drop_eq_getElem_cons (by omega), List.drop_of_length_le (by omega)]
          have hbyte := not_not.mp hlast
          rw [byteAt, List.getD_eq_getElem _ _ (by omega)] at hbyte
          rw [hbyte]
        rw [← hdrop, List.take_append_drop]
      rw [hfront, cString_of_front hdigits, List.length_take, config.localMacHex_size]
      rfl
    · intro hempty
      cases hdevice : config.deviceName with
      | nil =>
          have hsize := config.deviceName_size
          rw [hdevice] at hsize
          contradiction
      | cons c rest =>
          rw [hdevice] at hempty hfirst
          have hcons : cString (c :: rest) = c :: cString rest :=
            List.takeWhile_cons_of_pos (decide_eq_true hfirst)
          rw [hcons] at hempty
          contradiction

/-! ## Labels -/

theorem raopLabel_mac {mac : CString} (h : mac.length = 12) (name : CString) :
    raopLabel name (some mac) = mac ++ ascii "@" ++ name := by
  cases mac with
  | nil => contradiction
  | cons c rest => rfl

/-- The label of the RAOP instance is 13 bytes longer than the name. -/
theorem raopLabel_length {mac : CString} (h : mac.length = 12) (name : CString) :
    (raopLabel name (some mac)).length = 13 + name.length := by
  have hmark : (ascii "@").length = 1 := rfl
  rw [raopLabel_mac h, List.length_append, List.length_append, h, hmark]

theorem hexDigit_dot : hexDigit nameDot = none := by decide

theorem mac_noDot {config : AirplayConfig} (h : validConfig config = true) :
    nameDot ∉ cString config.localMacHex := by
  have hstrings := validConfig_strings h
  have hmac : cString config.localMacHex = config.localMacHex.take 12 := by
    rw [← hstrings.macLength]
    exact (List.prefix_iff_eq_take.mp (List.takeWhile_prefix _))
  rw [validConfig] at h
  split at h
  · exact absurd h Bool.false_ne_true
  · intro hdot
    rw [hmac] at hdot
    have hdigit := List.all_eq_true.mp h nameDot hdot
    rw [hexDigit_dot] at hdigit
    exact Bool.false_ne_true hdigit

theorem startDiscovery_eq {calls : DiscoveryCalls} (hcalls : calls.Succeed)
    {config : AirplayConfig} (h : validConfig config = true) :
    startDiscovery calls config =
      announceServices calls
        (raopService (cString config.deviceName) (some (cString config.localMacHex))
          (cString config.localIp) ((raopTxt config).map some))
        (airplayService (cString config.deviceName) (some (cString config.localMacHex))
          (cString config.localIp)) := by
  have hstrings := validConfig_strings h
  obtain ⟨address, haddress⟩ := hstrings.address
  have hshort := hstrings.nameShort
  have hraop := raopLabel_length hstrings.macLength (cString config.deviceName)
  refine airplayDiscoveryInit_ok hcalls hstrings.named hshort (by omega) haddress hstrings.ipShort ?_
  rw [List.length_map]
  exact (by decide : airplayRaopTxtEntries.length + 1 ≤ 65535)

theorem raopTxt_short (config : AirplayConfig) : ∀ t ∈ raopTxt config, t.length ≤ 255 :=
  deviceEntries_short _ (by decide)

theorem raopTxt_room (config : AirplayConfig) :
    ((raopTxt config).flatMap labelBytes).length ≤ 900 := by
  have hentries := deviceEntries_length (cString config.localMacHex) airplayRaopTxtEntries
  have hrest : (airplayRaopTxtEntries.flatMap labelBytes).length ≤ 800 := by decide +kernel
  rw [raopTxt]
  omega

/-- What is advertised has a label of at most 63 bytes without a dot. -/
theorem name_of_advertised {calls : DiscoveryCalls} (hcalls : calls.Succeed)
    {config : AirplayConfig} (h : validConfig config = true)
    (hrun : (startDiscovery calls config).Advertises
      (cString config.localMacHex ++ ascii "@" ++ cString config.deviceName)
      (cString config.deviceName)) :
    nameDot ∉ cString config.deviceName ∧ (cString config.deviceName).length ≤ 50 := by
  have hmac := (validConfig_strings h).macLength
  rw [startDiscovery_eq hcalls h, ← raopLabel_mac hmac] at hrun
  obtain ⟨-, hlong, hdot⟩ := hrun.valid
  rw [raopLabel_length hmac] at hlong
  rw [raopLabel_mac hmac] at hdot
  refine ⟨fun hname => hdot (List.mem_append_right _ hname), ?_⟩
  omega

/-- **A device name is advertised if and only if it is one label with room for the MAC
address.** -/
theorem device_name_advertised (config : AirplayConfig) (hvalid : validConfig config = true)
    (calls : DiscoveryCalls) (hcalls : calls.Succeed) :
    (startDiscovery calls config).Advertises
        (cString config.localMacHex ++ ascii "@" ++ cString config.deviceName)
        (cString config.deviceName) ↔
      nameDot ∉ cString config.deviceName ∧ (cString config.deviceName).length ≤ 50 := by
  have hstrings := validConfig_strings hvalid
  constructor
  · exact name_of_advertised hcalls hvalid
  · rintro ⟨hdot, hlong⟩
    have hpos := List.length_pos_iff.mpr hstrings.named
    have hname : ValidLabel (cString config.deviceName) := ⟨hpos, by omega, hdot⟩
    have hraopLength := raopLabel_length hstrings.macLength (cString config.deviceName)
    have hraop : ValidLabel (raopLabel (cString config.deviceName)
        (some (cString config.localMacHex))) := by
      refine ⟨by omega, by omega, ?_⟩
      rw [raopLabel_mac hstrings.macLength]
      intro hmem
      rcases List.mem_append.mp hmem with hfront | hback
      · rcases List.mem_append.mp hfront with hmac | hmark
        · exact mac_noDot hvalid hmac
        · exact absurd hmark (by decide)
      · exact hdot hback
    obtain ⟨address, haddress⟩ := hstrings.address
    rw [startDiscovery_eq hcalls hvalid, ← raopLabel_mac hstrings.macLength]
    exact announceServices_advertises hcalls hname hraop haddress (raopTxt_short config)
      (raopTxt_room config)

/-- A network on which all calls succeed. -/
def openNetwork : DiscoveryCalls where
  udpBind _ := 0
  udpJoin _ _ := 0
  udpSend packet _ := packet.length

theorem openNetwork_succeed : openNetwork.Succeed := ⟨fun _ => rfl, fun _ _ => rfl, fun _ _ => rfl⟩

/-- The configuration with a name. -/
def namedConfig (name : CString) (h : name.length ≤ 64) : AirplayConfig where
  localIp := ascii "192.168.1.9" ++ List.replicate 5 0
  localMacHex := ascii "001122334455" ++ [0]
  deviceName := name ++ List.replicate (64 - name.length) 0
  localIp_size := by decide
  localMacHex_size := by decide
  deviceName_size := by
    rw [List.length_append, List.length_replicate]
    omega

theorem device_name_advertised_kitchen :
    (startDiscovery openNetwork (namedConfig (ascii "Kitchen") (by decide))).Advertises
      (ascii "001122334455@Kitchen") (ascii "Kitchen") :=
  (device_name_advertised (namedConfig (ascii "Kitchen") (by decide)) (by decide) openNetwork
    openNetwork_succeed).mpr (by decide)

/-- A name with a dot is announced, but not as one label; one of 51 bytes is not announced. -/
theorem device_name_split_or_refused :
    (validConfig (namedConfig (ascii "Room 2.0") (by decide)) = true ∧
      (startDiscovery openNetwork (namedConfig (ascii "Room 2.0") (by decide))).ok = true ∧
      ¬(startDiscovery openNetwork (namedConfig (ascii "Room 2.0") (by decide))).Advertises
        (ascii "001122334455@Room 2.0") (ascii "Room 2.0")) ∧
    validConfig (namedConfig (List.replicate 51 97) (by decide)) = true ∧
      (startDiscovery openNetwork (namedConfig (List.replicate 51 97) (by decide))).ok = false := by
  have hvalid : validConfig (namedConfig (ascii "Room 2.0") (by decide)) = true := by
    decide +kernel
  refine ⟨⟨hvalid, by decide +kernel, fun hrun => ?_⟩, by decide +kernel, by decide +kernel⟩
  have hname := name_of_advertised openNetwork_succeed hvalid hrun
  exact absurd hname.1 (by decide)

end PortableAirplay.Service
