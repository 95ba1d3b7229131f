import PortableAirplay.Protocol.MdnsRecords

/-!
# Configurations that can be announced

The other direction of `buildPacket_meets`: names within the limits of the wire format, an
address that can be read and short entries make a packet if there is room for it, and the
packet is the response with these records (`buildPacket_ok`).
-/

set_option autoImplicit false

namespace PortableAirplay.Protocol

open PortableAirplay.Library
open PortableAirplay.Platform
open PortableAirplay.Util

/-! ## Names -/

theorem takeWhile_label {label : List UInt8} (hdot : nameDot ∉ label) {rest : List UInt8}
    (hrest : rest = [] ∨ ∃ tail, rest = nameDot :: tail) :
    (label ++ rest).takeWhile (· ≠ nameDot) = label := by
  have hall : ∀ c ∈ label, decide (c ≠ nameDot) = true := by
    intro c hc
    apply decide_eq_true
    rintro rfl
    exact hdot hc
  rw [List.takeWhile_append_of_pos hall]
  rcases hrest with rfl | ⟨tail, rfl⟩
  · exact List.append_nil label
  · rw [List.takeWhile_cons_of_neg (by decide), List.append_nil]

/-- One label is written, and the loop goes on behind the dot that follows it. -/
theorem writeLabels_label {capacity fuel : ℕ} {label rest tail out : List UInt8}
    (hvalid : ValidLabel label)
    (hrest : (rest = [] ∧ tail = []) ∨ rest = nameDot :: tail)
    (hroom : out.length + 1 + label.length < capacity) :
    writeLabels capacity (fuel + 1) (label ++ rest) out =
      writeLabels capacity fuel tail (out ++ labelBytes label) := by
  obtain ⟨hpos, hlong, hdot⟩ := hvalid
  have hlabel : (label ++ rest).takeWhile (· ≠ nameDot) = label :=
    takeWhile_label hdot (hrest.imp And.left fun h => ⟨tail, h⟩)
  have hbehind : (label ++ rest).drop label.length = rest := List.drop_left
  have hnext : (if rest.head? = some nameDot then rest.drop 1 else rest) = tail := by
    rcases hrest with ⟨rfl, rfl⟩ | rfl
    · rfl
    · rfl
  obtain ⟨c, more, hname⟩ := List.exists_cons_of_ne_nil
    (List.append_ne_nil_of_left_ne_nil (List.ne_nil_of_length_pos hpos) rest)
  rw [hname] at hlabel hbehind ⊢
  rw [writeLabels, hlabel]
  dsimp only
  rw [refuseIf_neg (by omega), building_bind, emit_ok (by rw [List.length_singleton]; omega),
    building_bind, emit_ok (by rw [List.length_append, List.length_singleton]; omega),
    building_bind, hbehind, hnext, List.append_assoc]
  rfl

theorem writeLabels_ok {labels : List (List UInt8)} (h : ∀ label ∈ labels, ValidLabel label)
    {capacity fuel : ℕ} (hfuel : labels.length < fuel) {out : List UInt8}
    (hroom : out.length + (nameBytes labels).length ≤ capacity) :
    writeLabels capacity fuel (dotted labels).dropLast out =
      .ok (out ++ labels.flatMap labelBytes) := by
  induction labels generalizing fuel out with
  | nil =>
      obtain ⟨fuel, rfl⟩ : ∃ n, fuel = n + 1 := ⟨fuel - 1, by omega⟩
      rw [List.flatMap_nil, List.append_nil]
      rfl
  | cons label labels ih =>
      obtain ⟨fuel, rfl⟩ : ∃ n, fuel = n + 1 := ⟨fuel - 1, by omega⟩
      rw [nameBytes_cons, List.length_cons, List.length_append] at hroom
      rw [List.length_cons] at hfuel
      have hpos := nameBytes_pos labels
      have hbytes : (labelBytes label).length = label.length + 1 := rfl
      have hfuel' : labels.length < fuel := by omega
      have hroom' : (out ++ labelBytes label).length + (nameBytes labels).length ≤ capacity := by
        rw [List.length_append, hbytes]
        omega
      have htail := ih (fun l hl => h l (List.mem_cons_of_mem label hl)) hfuel' hroom'
      have hlabel := h label List.mem_cons_self
      rw [List.flatMap_cons, ← List.append_assoc, ← htail]
      rcases text_cons label labels with ⟨hnone, htext⟩ | ⟨-, htext⟩
      · rw [htext]
        subst hnone
        exact writeLabels_label hlabel (.inl ⟨rfl, rfl⟩) (by omega)
      · rw [htext]
        exact writeLabels_label hlabel (.inr rfl) (by omega)

theorem length_lt_text (n : DomainName) : n.labels.length < n.text.length + 1 := by
  have hall : ∀ labels : List (List UInt8), (∀ label ∈ labels, ValidLabel label) →
      2 * labels.length ≤ (dotted labels).length := by
    intro labels
    induction labels with
    | nil => exact fun _ => Nat.zero_le _
    | cons label labels ih =>
        intro h
        have hpos := (h label List.mem_cons_self).1
        have htail := ih fun l hl => h l (List.mem_cons_of_mem label hl)
        rw [dotted_cons, List.length_append, List.length_cons, List.length_cons]
        omega
  have htwo := hall n.labels n.valid
  have hpos := List.length_pos_iff.mpr n.nonempty
  rw [DomainName.text, List.length_dropLast]
  omega

/-- **A name within the limits is written** if there is room. -/
theorem writeName_ok (n : DomainName) {capacity : ℕ} {out : List UInt8}
    (hroom : out.length + n.bytes.length ≤ capacity) :
    writeName capacity n.text out = .ok (out ++ n.bytes) := by
  have hlabels := length_lt_text n
  have hshort : n.bytes.length ≤ 255 := n.short
  have hne : n.text ≠ [] := by
    intro hempty
    rw [hempty] at hlabels
    rw [List.length_nil, Nat.zero_add, Nat.lt_one_iff] at hlabels
    exact n.nonempty (List.length_eq_zero_iff.mp hlabels)
  have hbytes : n.bytes = n.labels.flatMap labelBytes ++ [0] := rfl
  have hlength : n.bytes.length = (n.labels.flatMap labelBytes).length + 1 := by
    rw [hbytes, List.length_append, List.length_singleton]
  have hwritten : writeLabels capacity (n.text.length + 1) n.text out =
      .ok (out ++ n.labels.flatMap labelBytes) := writeLabels_ok n.valid hlabels hroom
  rw [writeName, refuseIf_neg hne, building_bind, hwritten, building_bind, refuseIf_neg,
    building_bind, emit_ok, hbytes, List.append_assoc]
  · rw [List.length_append, List.length_singleton]
    omega
  · rw [List.length_append]
    omega

/-- Names with one text are one name: they are written alike. -/
theorem labels_of_text {n m : DomainName} (h : n.text = m.text) : n.labels = m.labels := by
  have hroom : ∀ k : DomainName, ([] : List UInt8).length + k.bytes.length ≤ 255 := by
    intro k
    rw [List.length_nil, Nat.zero_add]
    exact k.short
  have hn : writeName 255 n.text [] = .ok ([] ++ n.bytes) := writeName_ok n (hroom n)
  have hm : writeName 255 m.text [] = .ok ([] ++ m.bytes) := writeName_ok m (hroom m)
  rw [h, hm, List.nil_append, List.nil_append] at hn
  have hbytes : m.bytes = n.bytes := Except.ok.inj hn
  have hread := readName_bytes n []
  rw [← hbytes, readName_bytes m []] at hread
  exact (congrArg Prod.fst (Option.some.inj hread)).symm

/-! ## Packets -/

theorem writeName_gives {n : DomainName} {name : CString} (hname : n.text = name) {capacity : ℕ}
    {out : List UInt8} (hroom : out.length + n.bytes.length ≤ capacity) :
    (writeName capacity name out).Gives fun written =>
      written.length = out.length + n.bytes.length := by
  rw [← hname]
  exact ⟨_, writeName_ok n hroom, List.length_append⟩

theorem beginRecord_gives {capacity : ℕ} (type recordClass : UInt16) (ttl : UInt32)
    {out : List UInt8} (hroom : out.length + 10 ≤ capacity) :
    (beginRecord capacity type recordClass ttl out).Gives fun begun =>
      begun.length = out.length + 10 := by
  rw [beginRecord]
  apply gives_refuseIf (by omega)
  refine emit_gives ?_ hroom
  rw [List.length_append, List.length_append, List.length_append, beBytes_length, beBytes_length,
    beBytes_length, beBytes_length]

theorem endRecord_gives {record : ℕ} {out : List UInt8} (h : record + 10 ≤ out.length) :
    (endRecord record out).Gives fun written => written.length = out.length := by
  apply patch_gives
  rw [beBytes_length]
  exact h

section Announcement

variable {capacity : ℕ} {config : MdnsConfig} {service full host : DomainName}
  (hservice : service.text = config.serviceType) (hfull : full.text = config.fullName)
  (hhost : host.text = config.hostname) (ttl : UInt32)

include hservice hfull in
theorem writePointer_gives {out : List UInt8}
    (hroom : out.length + (service.bytes.length + 10 + full.bytes.length) ≤ capacity) :
    (writePointer capacity config ttl out).Gives fun written =>
      written.length = out.length + (service.bytes.length + 10 + full.bytes.length) := by
  rw [writePointer]
  refine gives_bind (writeName_gives hservice (by omega)) fun owned howned => ?_
  refine gives_bind (beginRecord_gives 12 1 ttl (by omega)) fun begun hbegun => ?_
  refine gives_bind (writeName_gives hfull (by omega)) fun named hnamed => ?_
  exact gives_mono (endRecord_gives (by omega)) fun written hwritten => by omega

include hfull hhost in
theorem writeService_gives {out : List UInt8}
    (hroom : out.length + (full.bytes.length + 16 + host.bytes.length) ≤ capacity) :
    (writeService capacity config ttl out).Gives fun written =>
      written.length = out.length + (full.bytes.length + 16 + host.bytes.length) := by
  have hsix : ([0, 0, 0, 0] ++ beBytes 2 config.port.toNat).length = 6 := rfl
  rw [writeService]
  refine gives_bind (writeName_gives hfull (by omega)) fun owned howned => ?_
  refine gives_bind (beginRecord_gives 33 0x8001 ttl (by omega)) fun begun hbegun => ?_
  refine gives_refuseIf (by omega) ?_
  refine gives_bind (emit_gives hsix (by omega)) fun ported hported => ?_
  refine gives_bind (writeName_gives hhost (by omega)) fun named hnamed => ?_
  exact gives_mono (endRecord_gives (by omega)) fun written hwritten => by omega

include hhost in
theorem writeAddress_gives {ip : CString} {address : List UInt8}
    (hip : netStrToIpv4 ip = some address) {out : List UInt8}
    (hroom : out.length + (host.bytes.length + 14) ≤ capacity) :
    (writeAddress capacity config ttl ip out).Gives fun written =>
      written.length = out.length + (host.bytes.length + 14) := by
  have hfour := netStrToIpv4_length hip
  rw [writeAddress, hip]
  refine gives_refuseIf (Option.some_ne_none _) ?_
  refine gives_bind (writeName_gives hhost (by omega)) fun owned howned => ?_
  refine gives_bind (beginRecord_gives 1 0x8001 ttl (by omega)) fun begun hbegun => ?_
  refine gives_refuseIf (by omega) ?_
  refine gives_bind (emit_gives hfour (by omega)) fun filled hfilled => ?_
  refine gives_mono (patch_gives ?_) fun written hwritten => by omega
  rw [beBytes_length]
  omega

theorem writeEntries_gives {strings : List CString} (h : ∀ t ∈ strings, t.length ≤ 255)
    {out : List UInt8}
    (hroom : out.length + (strings.flatMap labelBytes).length ≤ capacity) :
    (writeEntries capacity (strings.map some) out).Gives fun written =>
      written.length = out.length + (strings.flatMap labelBytes).length := by
  induction strings generalizing out with
  | nil => exact gives_pure rfl
  | cons t strings ih =>
      have ht := h t List.mem_cons_self
      have hlength : ((t :: strings).flatMap labelBytes).length =
          1 + t.length + (strings.flatMap labelBytes).length := by
        rw [List.flatMap_cons, List.length_append, labelBytes, List.length_cons]
        omega
      rw [hlength] at hroom ⊢
      rw [List.map_cons, writeEntries]
      refine gives_refuseIf (by omega) ?_
      refine gives_bind (emit_gives (List.length_singleton) (by omega)) fun sized hsized => ?_
      refine gives_bind (emit_gives rfl (by omega)) fun filled hfilled => ?_
      have htail := fun s hs => h s (List.mem_cons_of_mem t hs)
      exact gives_mono (ih htail (by omega)) fun written hwritten => by omega

include hfull in
theorem writeText_gives {strings : List CString} (hentries : config.txtEntries = strings.map some)
    (h : ∀ t ∈ strings, t.length ≤ 255) {out : List UInt8}
    (hroom : out.length + (full.bytes.length + 10 + (strings.flatMap labelBytes).length) ≤
      capacity) :
    (writeText capacity config ttl out).Gives fun written =>
      written.length = out.length +
        (full.bytes.length + 10 + (strings.flatMap labelBytes).length) := by
  rw [writeText, hentries]
  refine gives_bind (writeName_gives hfull (by omega)) fun owned howned => ?_
  refine gives_bind (beginRecord_gives 16 0x8001 ttl (by omega)) fun begun hbegun => ?_
  refine gives_bind (writeEntries_gives h (by omega)) fun filled hfilled => ?_
  exact gives_mono (endRecord_gives (by omega)) fun written hwritten => by omega

include hservice hfull hhost in
/-- **Names within the limits, an address and short entries make a packet** if there is
room for it. -/
theorem buildPacket_gives {ip : CString} {address : List UInt8} {strings : List CString}
    (hip : config.ipv4 = some ip) (haddress : netStrToIpv4 ip = some address)
    (hentries : config.txtEntries = strings.map some) (hstrings : ∀ t ∈ strings, t.length ≤ 255)
    (hname : config.fullName.length < 256)
    (hroom : 12 + (service.bytes.length + 10 + full.bytes.length) +
      (full.bytes.length + 16 + host.bytes.length) + (host.bytes.length + 14) +
      (full.bytes.length + 10 + (strings.flatMap labelBytes).length) ≤ capacity) :
    (buildPacket capacity config ttl).Gives fun _ => True := by
  have hheader : ([0, 0] ++ (beBytes 2 0x8400 ++ [0, 0, 0, 0, 0, 0, 0, 0])).length = 12 := rfl
  rw [buildPacket]
  refine gives_refuseIf (by omega) ?_
  refine gives_bind (emit_gives hheader (by rw [List.length_nil]; omega)) fun out hout => ?_
  rw [List.length_nil] at hout
  refine gives_refuseIf (by omega) ?_
  refine gives_bind (writePointer_gives hservice hfull ttl (by omega)) fun served hserved => ?_
  refine gives_bind (writeService_gives hfull hhost ttl (by omega)) fun addressed haddressed => ?_
  -- the address is set, so its record is written
  have haddresses : (writeAddressIfSet capacity config ttl addressed).Gives fun written =>
      written.1.length = addressed.length + (host.bytes.length + 14) := by
    cases ip with
    | nil => contradiction
    | cons c rest =>
        rw [writeAddressIfSet, hip]
        exact gives_bind (writeAddress_gives hhost ttl haddress (by omega))
          fun written hwritten => gives_pure hwritten
  refine gives_bind haddresses ?_
  rintro ⟨texted, n⟩ htexted
  dsimp only at htexted ⊢
  -- the texts end the packet, so a bound on their end is enough
  have htexts : (writeTextIfSet capacity config ttl texted).Gives fun written =>
      texted.length ≤ written.1.length := by
    rw [writeTextIfSet]
    by_cases hnone : config.txtEntries = []
    · rw [if_pos hnone]
      exact gives_pure (Nat.le_refl _)
    · rw [if_neg hnone]
      refine gives_bind (writeText_gives hfull ttl hentries hstrings (by omega)) ?_
      intro written hwritten
      apply gives_pure
      dsimp only
      omega
  refine gives_bind htexts ?_
  rintro ⟨counted, m⟩ hcounted
  dsimp only at hcounted ⊢
  refine gives_mono (patch_gives ?_) fun _ _ => trivial
  rw [beBytes_length]
  omega

end Announcement

/-! ## Instances -/

/-- A packet advertises an instance of a service: its pointers lead from the name of the
service to the one with the label of the instance in front, which owns the service and
the text records. -/
def AdvertisedAs (packet label : List UInt8) (service : List (List UInt8)) : Prop :=
  ∃ header records, readResponse packet = some (header, records, []) ∧
    (∃ r ∈ records, r.type = 12) ∧ (∃ r ∈ records, r.type = 33) ∧
      ∀ r ∈ records,
        (r.type = 12 → r.owner = service ∧ readName r.data = some (label :: service, [])) ∧
          (r.type = 33 ∨ r.type = 16 → r.owner = label :: service)

theorem mem_locate {pos : ℕ} {records : List ResourceRecord} {x : RecordAt}
    (h : x ∈ locate pos records) : ∃ r ∈ records, ∃ p, x = r.located p := by
  induction records generalizing pos with
  | nil => exact absurd h List.not_mem_nil
  | cons r records ih =>
      rcases List.mem_cons.mp h with rfl | htail
      · exact ⟨r, List.mem_cons_self, pos, rfl⟩
      · obtain ⟨s, hs, p, hp⟩ := ih htail
        exact ⟨s, List.mem_cons_of_mem r hs, p, hp⟩

section Instances

variable {config : MdnsConfig} {ttl : UInt32} {answers : List ResourceRecord}
  {service full : DomainName} {label : List UInt8}

theorem AddressRecords.type {records : List ResourceRecord}
    (h : AddressRecords config ttl records) : ∀ r ∈ records, r.type = 1 := by
  rw [AddressRecords] at h
  intro r hr
  split at h
  · obtain ⟨address, rfl, hfields, -⟩ := h
    rw [List.mem_singleton.mp hr]
    exact hfields.type
  · rw [h] at hr
    exact absurd hr List.not_mem_nil

theorem TextRecords.fields {records : List ResourceRecord} (h : TextRecords config ttl records) :
    ∀ r ∈ records, HasFields r config.fullName 16 0x8001 ttl := by
  rw [TextRecords] at h
  intro r hr
  split at h
  · rw [h] at hr
    exact absurd hr List.not_mem_nil
  · obtain ⟨text, rfl, hfields, -⟩ := h
    rw [List.mem_singleton.mp hr]
    exact hfields

/-- An announcement under a name that is one label in front of the service advertises the
instance with this label. -/
theorem Announces.advertised (h : Announces config ttl answers) (hfew : answers.length ≤ 4)
    (hservice : service.text = trimDot config.serviceType)
    (hfull : full.text = trimDot config.fullName) (hlabels : full.labels = label :: service.labels) :
    AdvertisedAs (responseBytes 0x8400 answers) label service.labels := by
  have hread := readResponse_bytes 0x8400 (show answers.length < 65536 by omega)
  refine ⟨_, locate 12 answers, hread, ?_⟩
  obtain @⟨pointer, host, addresses, texts, hpointer, ⟨target, hdata, htarget⟩, hhost, -,
    haddresses, htexts⟩ := h
  -- A record under the full name of the config is owned by the labels of the instance.
  have howner : ∀ {r : ResourceRecord} {type recordClass : UInt16},
      HasFields r config.fullName type recordClass ttl → r.owner.labels = label :: service.labels :=
    fun hr => (labels_of_text (hr.owner.trans hfull.symm)).trans hlabels
  refine ⟨⟨_, List.mem_cons_self, congrArg UInt16.toNat hpointer.type⟩,
    ⟨_, List.mem_cons_of_mem _ List.mem_cons_self, congrArg UInt16.toNat hhost.type⟩, ?_⟩
  intro x hx
  obtain ⟨r, hr, p, rfl⟩ := mem_locate hx
  -- Types are compared as numbers on the wire.
  have htype : ∀ t : UInt16, r.type = t → ((r.located p).type = t.toNat) :=
    fun t ht => congrArg UInt16.toNat ht
  rcases List.mem_cons.mp hr with rfl | hr
  · rw [htype 12 hpointer.type]
    refine ⟨fun _ => ⟨?_, ?_⟩, fun hother => ?_⟩
    · exact labels_of_text (hpointer.owner.trans hservice.symm)
    · have hname := readName_bytes target []
      rw [List.append_nil, labels_of_text (htarget.trans hfull.symm), hlabels] at hname
      show readName r.data = _
      rw [hdata]
      exact hname
    · exact absurd hother (by decide)
  · rcases List.mem_cons.mp hr with rfl | hr
    · rw [htype 33 hhost.type]
      exact ⟨fun hother => absurd hother (by decide), fun _ => howner hhost⟩
    · rcases List.mem_append.mp hr with haddress | htext
      · rw [htype 1 (haddresses.type r haddress)]
        exact ⟨fun hother => absurd hother (by decide), fun hother => absurd hother (by decide)⟩
      · rw [htype 16 (htexts.fields r htext).type]
        exact ⟨fun hother => absurd hother (by decide), fun _ => howner (htexts.fields r htext)⟩

/-- The label of an instance that a packet advertises is one that the wire format has. -/
theorem AdvertisedAs.valid {capacity : ℕ} (hcapacity : capacity ≤ 65535) {packet : List UInt8}
    {labels : List (List UInt8)} (hpacket : buildPacket capacity config ttl = .ok packet)
    (h : AdvertisedAs packet label labels) : ValidLabel label := by
  have hmeets := buildPacket_meets hcapacity config ttl
  rw [hpacket] at hmeets
  obtain ⟨-, answers, hanswers, hfew, rfl⟩ := hmeets
  obtain ⟨header, records, hread, -, -, hrecords⟩ := h
  rw [readResponse_bytes 0x8400 (by omega)] at hread
  obtain ⟨-, hread⟩ := Prod.mk.inj (Option.some.inj hread)
  obtain ⟨rfl, -⟩ := Prod.mk.inj hread
  obtain @⟨pointer, host, addresses, texts, hpointer, ⟨target, hdata, -⟩, -, -, -, -⟩ := hanswers
  have hfirst := hrecords (pointer.located 12) List.mem_cons_self
  obtain ⟨-, hname⟩ := hfirst.1 (congrArg UInt16.toNat hpointer.type)
  have hdata' : (pointer.located 12).data = target.bytes ++ [] := by
    rw [List.append_nil]
    exact hdata
  rw [hdata', readName_bytes] at hname
  have hlabels : target.labels = label :: labels := congrArg Prod.fst (Option.some.inj hname)
  exact target.valid label (by rw [hlabels]; exact List.mem_cons_self)

/-- What was sent is the packet that was built. -/
theorem buildPacket_of_announce {udpSend : List UInt8 → NetAddr → Int} {packet : List UInt8}
    (h : mdnsAnnounce udpSend config = .ok packet) : buildPacket 1500 config 60 = .ok packet := by
  rw [mdnsAnnounce, sendResponse] at h
  split at h
  · contradiction
  · rename_i built hbuilt
    split at h
    · rw [hbuilt, Except.ok.inj h]
    · contradiction

/-- The text of a name has no dot at its end. -/
theorem trimDot_text (n : DomainName) : trimDot n.text = n.text := by
  have hlast : dotted n.labels = n.text ++ [nameDot] := by
    obtain ⟨front, last, hlabels⟩ := (List.eq_nil_or_concat n.labels).resolve_left n.nonempty
    rw [DomainName.text, hlabels, List.concat_eq_append, dotted_concat, List.dropLast_concat]
  exact (dotted_dropLast n.nonempty n.valid (.inl hlast)).symm

/-- **A service with a valid label is announced** if its packet has room for the names and
the entries. -/
theorem mdnsAnnounce_advertises {host : DomainName} {ip : CString} {address : List UInt8}
    {strings : List CString} (hlabel : ValidLabel label) (hinstance : config.instanceName = label)
    (hservice : service.text = config.serviceType) (hhost : host.text = config.hostname)
    (hip : config.ipv4 = some ip) (haddress : netStrToIpv4 ip = some address)
    (hentries : config.txtEntries = strings.map some) (hstrings : ∀ t ∈ strings, t.length ≤ 255)
    (hshort : service.bytes.length ≤ 100)
    (hroom : 4 * service.bytes.length + 2 * host.bytes.length +
      (strings.flatMap labelBytes).length ≤ 1200)
    {udpSend : List UInt8 → NetAddr → Int}
    (hsend : ∀ packet destination, udpSend packet destination = packet.length) :
    ∃ packet, mdnsAnnounce udpSend config = .ok packet ∧
      AdvertisedAs packet label service.labels := by
  have hlong := hlabel.2.1
  have hfits : label.length + 1 + service.bytes.length ≤ 255 := by omega
  have hbytes := child_bytes_length hlabel hfits
  have hfull : (service.child label hlabel hfits).text = config.fullName := by
    rw [child_text, hservice, MdnsConfig.fullName, hinstance]
  have hname : config.fullName.length < 256 := by
    have hlength := dotted_length (service.child label hlabel hfits).labels
    have hwire := (service.child label hlabel hfits).short
    rw [← hfull, DomainName.text, List.length_dropLast]
    omega
  have hgives : (buildPacket 1500 config 60).Gives fun _ => True :=
    buildPacket_gives hservice hfull hhost 60 hip haddress hentries hstrings hname (by omega)
  obtain ⟨packet, hpacket, -⟩ := hgives
  have hmeets := @buildPacket_meets 1500 (by decide) config 60
  rw [hpacket] at hmeets
  obtain ⟨-, answers, hanswers, hfew, rfl⟩ := hmeets
  refine ⟨responseBytes 0x8400 answers, ?_, ?_⟩
  · rw [mdnsAnnounce, sendResponse, hpacket]
    exact if_pos (hsend _ _)
  · refine hanswers.advertised hfew ?_ ?_ (rfl : (service.child label hlabel hfits).labels = _)
    · rw [← hservice, trimDot_text]
    · rw [← hfull, trimDot_text]

end Instances

end PortableAirplay.Protocol
