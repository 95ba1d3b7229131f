import Mathlib.Data.List.TakeWhile
import PortableAirplay.Protocol.MdnsNames

/-!
# What an mDNS packet says

A packet that `build_packet` gives is a response in the wire format: its records are read
back to the last byte, and `decode_name` finds in them the names of the configuration. The
packet is followed section by section as values of `Library.DnsMessage`; that nothing is
written outside the buffer comes with it (`Building.Meets`).
-/

set_option autoImplicit false

namespace PortableAirplay.Protocol

open PortableAirplay.Library
open PortableAirplay.Platform
open PortableAirplay.Util

/-! ## Names -/

/-- A name without the dot that may stand at its end. -/
def trimDot (name : CString) : CString :=
  if name.getLast? = some nameDot then name.dropLast else name

theorem dotted_append (front back : List (List UInt8)) :
    dotted (front ++ back) = dotted front ++ dotted back := List.flatMap_append

theorem dotted_concat (front : List (List UInt8)) (label : List UInt8) :
    dotted (front ++ [label]) = dotted front ++ label ++ [nameDot] := by
  rw [dotted_append, dotted_cons, List.append_assoc]
  rfl

/-- The text of labels is that of the name they were taken from. -/
theorem dotted_dropLast {labels : List (List UInt8)} {name : CString} (hne : labels ≠ [])
    (hvalid : ∀ label ∈ labels, ValidLabel label)
    (h : dotted labels = name ++ [nameDot] ∨ dotted labels = name) :
    (dotted labels).dropLast = trimDot name := by
  obtain ⟨front, label, rfl⟩ := (List.eq_nil_or_concat labels).resolve_left hne
  rw [List.concat_eq_append] at hvalid h ⊢
  obtain ⟨hpos, -, hdot⟩ := hvalid label (List.mem_append_right _ (List.mem_singleton_self label))
  rw [dotted_concat] at h ⊢
  rw [List.dropLast_concat, trimDot]
  rcases h with h | h
  · obtain ⟨rfl, -⟩ := List.append_inj' h rfl
    have hlast : (dotted front ++ label).getLast? ≠ some nameDot := by
      have hlabel : label ≠ [] := List.ne_nil_of_length_pos hpos
      rw [List.getLast?_append_of_ne_nil _ hlabel]
      intro hmem
      exact hdot (List.mem_of_getLast? hmem)
    rw [if_neg hlast]
  · rw [← h, List.getLast?_concat, if_pos rfl, List.dropLast_concat]

/-- What is behind the first label of a name is nothing, or a dot and the rest. -/
theorem firstLabel_cases (name : CString) :
    (name.drop (name.takeWhile (· ≠ nameDot)).length = [] ∧ name.takeWhile (· ≠ nameDot) = name) ∨
      ∃ rest, name.drop (name.takeWhile (· ≠ nameDot)).length = nameDot :: rest ∧
        name = name.takeWhile (· ≠ nameDot) ++ nameDot :: rest := by
  induction name with
  | nil => exact .inl ⟨rfl, rfl⟩
  | cons c rest ih =>
      by_cases hdot : c = nameDot
      · subst hdot
        exact .inr ⟨rest, rfl, rfl⟩
      · have htake : (c :: rest).takeWhile (· ≠ nameDot) = c :: rest.takeWhile (· ≠ nameDot) :=
          List.takeWhile_cons_of_pos (decide_eq_true hdot)
        rw [htake, List.length_cons, List.drop_succ_cons]
        rcases ih with ⟨hdrop, hall⟩ | ⟨tail, hdrop, hall⟩
        · exact .inl ⟨hdrop, congrArg (c :: ·) hall⟩
        · exact .inr ⟨tail, hdrop, congrArg (c :: ·) hall⟩

theorem takeWhile_noDot (name : CString) : nameDot ∉ name.takeWhile (· ≠ nameDot) := by
  intro hmem
  have hne := List.mem_takeWhile_imp hmem
  exact of_decide_eq_true hne rfl

/-- The labels that the loop of `write_name` finds. -/
structure Labelled (name : CString) (labels : List (List UInt8)) : Prop where
  valid : ∀ label ∈ labels, ValidLabel label
  text : dotted labels = name ++ [nameDot] ∨ dotted labels = name
  empty : labels = [] → name = []

theorem Labelled.of_nil {labels : List (List UInt8)} (h : Labelled [] labels) : labels = [] := by
  cases labels with
  | nil => rfl
  | cons label labels =>
      have hpos := (h.valid label List.mem_cons_self).1
      have hlength : (dotted (label :: labels)).length ≤ 1 := by
        rcases h.text with htext | htext
        · exact Nat.le_of_eq (congrArg List.length htext)
        · rw [htext]
          exact Nat.zero_le 1
      rw [dotted_cons, List.length_append, List.length_cons] at hlength
      omega

theorem writeLabels_meets (capacity fuel : ℕ) (name : CString) (out : List UInt8) :
    (writeLabels capacity fuel name out).Meets fun written =>
      ∃ labels, Labelled name labels ∧ written = out ++ labels.flatMap labelBytes := by
  induction fuel generalizing name out with
  | zero => exact meets_refuse _
  | succ fuel ih =>
      cases name with
      | nil =>
          apply meets_pure
          exact ⟨[], ⟨fun _ h => absurd h List.not_mem_nil, .inr rfl, fun _ => rfl⟩,
            (List.append_nil out).symm⟩
      | cons c rest =>
          rw [writeLabels]
          dsimp only
          -- the first label, and what is behind its dot
          have hdot := takeWhile_noDot (c :: rest)
          have hsplit := firstLabel_cases (c :: rest)
          generalize (c :: rest).takeWhile (· ≠ nameDot) = label at hdot hsplit ⊢
          generalize c :: rest = name at hsplit ⊢
          apply meets_refuseIf
          intro hlabel
          have hvalid : ValidLabel label := ⟨by omega, by omega, hdot⟩
          rw [emit_ok (by rw [List.length_singleton]; omega), building_bind,
            emit_ok (by rw [List.length_append, List.length_singleton]; omega), building_bind]
          refine meets_mono (ih _ _) ?_
          rintro written ⟨labels, hlabels, rfl⟩
          refine ⟨label :: labels, ⟨?_, ?_, ?_⟩, ?_⟩
          · intro l hl
            rcases List.mem_cons.mp hl with rfl | hl'
            · exact hvalid
            · exact hlabels.valid l hl'
          · rw [dotted_cons]
            -- the name ends with the label, or a dot and a tail follow
            rcases hsplit with ⟨hdrop, hname⟩ | ⟨tail, hdrop, hname⟩
            · have hrest : (if (name.drop label.length).head? = some nameDot then
                  (name.drop label.length).drop 1 else name.drop label.length) = [] := by
                rw [hdrop]
                rfl
              rw [hrest] at hlabels
              rw [hlabels.of_nil, ← hname]
              exact .inl rfl
            · have htail : (if (name.drop label.length).head? = some nameDot then
                  (name.drop label.length).drop 1 else name.drop label.length) = tail := by
                rw [hdrop, List.head?_cons, if_pos rfl]
                rfl
              have htext := hlabels.text
              rw [htail] at htext
              rcases htext with htext | htext
              · exact .inl (by rw [htext, hname, List.append_assoc]; rfl)
              · exact .inr (by rw [htext, hname])
          · intro hnil
            contradiction
          · rw [List.flatMap_cons, labelBytes, List.append_assoc, List.append_assoc]
            rfl

/-- **What `write_name` has written is a name**, with the text that it was given. -/
theorem writeName_meets (capacity : ℕ) (name : CString) (out : List UInt8) :
    (writeName capacity name out).Meets fun written =>
      ∃ n : DomainName, written = out ++ n.bytes ∧ written.length ≤ capacity ∧
        n.text = trimDot name := by
  rw [writeName]
  apply meets_refuseIf
  intro hname
  apply meets_bind (writeLabels_meets capacity (name.length + 1) name out)
  rintro written ⟨labels, hlabels, rfl⟩
  apply meets_refuseIf
  intro hroom
  have hne : labels ≠ [] := fun hnil => hname (hlabels.empty hnil)
  rw [List.length_append] at hroom
  have hshort : (nameBytes labels).length ≤ 255 := by
    rw [nameBytes, List.length_append, List.length_singleton]
    omega
  rw [emit_ok (by rw [List.length_append, List.length_singleton]; omega)]
  refine ⟨⟨labels, hne, hlabels.valid, hshort⟩, List.append_assoc _ _ _, ?_, ?_⟩
  · rw [List.length_append, List.length_append, List.length_singleton]
    omega
  · exact dotted_dropLast hne hlabels.valid hlabels.text

/-! ## Finding names again -/

/-- **`decode_name` finds a name again** and the position behind it. -/
theorem decodeName_bytes (front : List UInt8) (n : DomainName) (post : List UInt8) :
    decodeName (front ++ (n.bytes ++ post)) front.length 256 =
      some (n.text, front.length + n.bytes.length) := by
  have hshort := n.short
  have htext := dotted_length n.labels
  apply (decodeName_iff _ _ (by decide) _ _).mpr
  exact ⟨n.labels, spells_nameBytes n.valid front post, by omega, rfl⟩

/-! ## Records -/

theorem netStrToIpv4_part_length {n : ℕ} {text : CString} {bytes : List UInt8}
    (h : netStrToIpv4.part n text = some bytes) : bytes.length = n := by
  induction n generalizing text bytes with
  | zero =>
      rw [netStrToIpv4.part] at h
      contradiction
  | succ n ih =>
      rw [netStrToIpv4.part] at h
      split at h
      · contradiction
      · split at h
        · rename_i hlast
          split at h
          · rw [← Option.some.inj h, hlast, List.length_singleton]
          · contradiction
        · split at h
          · obtain ⟨rest, hrest, rfl⟩ := Option.map_eq_some_iff.mp h
            rw [List.length_cons, ih hrest]
          · contradiction

/-- An address has four bytes. -/
theorem netStrToIpv4_length {ip : CString} {bytes : List UInt8}
    (h : netStrToIpv4 ip = some bytes) : bytes.length = 4 := netStrToIpv4_part_length h

/-- The length of the data is put into its place. -/
theorem endRecord_fields {owned fields data : List UInt8} {n : ℕ} (hfields : fields.length = 8)
    (hdata : data.length = n) :
    endRecord owned.length (owned ++ (fields ++ (beBytes 2 0 ++ data))) =
      .ok (owned ++ (fields ++ (beBytes 2 n ++ data))) := by
  have hlength : (owned ++ (fields ++ (beBytes 2 0 ++ data))).length - (owned.length + 10) = n := by
    rw [List.length_append, List.length_append, List.length_append, beBytes_length, hfields, hdata]
    omega
  have hpos : owned.length + 8 = (owned ++ fields).length := by
    rw [List.length_append, hfields]
  have hwidth : (beBytes 2 n).length = (beBytes 2 0).length := by
    rw [beBytes_length, beBytes_length]
  rw [endRecord, hlength, hpos, ← List.append_assoc, patch_middle data hwidth, List.append_assoc]

/-- The fields of a record before its length. -/
def recordStart (type recordClass : UInt16) (ttl : UInt32) : List UInt8 :=
  beBytes 2 type.toNat ++ (beBytes 2 recordClass.toNat ++ beBytes 4 ttl.toNat)

theorem recordStart_length (type recordClass : UInt16) (ttl : UInt32) :
    (recordStart type recordClass ttl).length = 8 := by
  rw [recordStart, List.length_append, List.length_append, beBytes_length, beBytes_length,
    beBytes_length]

/-- The owner and the fields of a record. -/
structure HasFields (r : ResourceRecord) (owner : CString) (type recordClass : UInt16)
    (ttl : UInt32) : Prop where
  owner : r.owner.text = trimDot owner
  type : r.type = type
  recordClass : r.recordClass = recordClass
  ttl : r.ttl = ttl

/-- The record that was written behind `out`. -/
structure Written (capacity : ℕ) (out written : List UInt8) (r : ResourceRecord)
    (owner : CString) (type recordClass : UInt16) (ttl : UInt32) : Prop where
  bytes : written = out ++ r.bytes
  room : written.length ≤ capacity
  fields : HasFields r owner type recordClass ttl

/-- The data of a record is a name behind some bytes. -/
def NameData (r : ResourceRecord) (front : List UInt8) (name : CString) : Prop :=
  ∃ n : DomainName, r.data = front ++ n.bytes ∧ n.text = trimDot name

section Records

variable {capacity : ℕ} (hcapacity : capacity ≤ 65535) {out : List UInt8}

theorem beginRecord_meets (type recordClass : UInt16) (ttl : UInt32) (owned : List UInt8) :
    (beginRecord capacity type recordClass ttl owned).Meets fun begun =>
      begun = owned ++ (recordStart type recordClass ttl ++ beBytes 2 0) ∧
        begun.length = owned.length + 10 ∧ begun.length ≤ capacity := by
  have hstart : beBytes 2 type.toNat ++ (beBytes 2 recordClass.toNat ++
      (beBytes 4 ttl.toNat ++ beBytes 2 0)) = recordStart type recordClass ttl ++ beBytes 2 0 := by
    rw [recordStart, List.append_assoc, List.append_assoc]
  have hlength : (recordStart type recordClass ttl ++ beBytes 2 0).length = 10 := by
    rw [List.length_append, recordStart_length, beBytes_length]
  rw [beginRecord, hstart]
  apply meets_refuseIf
  intro hroom
  rw [emit_ok (by rw [hlength]; omega)]
  refine ⟨rfl, ?_, ?_⟩
  · rw [List.length_append, hlength]
  · rw [List.length_append, hlength]
    omega

include hcapacity in
/-- An owner, fields and data make a record when its length is put into place. -/
theorem endRecord_meets {owner : CString} {n : DomainName} (htext : n.text = trimDot owner)
    (type recordClass : UInt16) (ttl : UInt32) (data : List UInt8)
    (hroom : (out ++ n.bytes ++ (recordStart type recordClass ttl ++
      (beBytes 2 0 ++ data))).length ≤ capacity) :
    (endRecord (out ++ n.bytes).length (out ++ n.bytes ++ (recordStart type recordClass ttl ++
        (beBytes 2 0 ++ data)))).Meets fun written =>
      ∃ r, Written capacity out written r owner type recordClass ttl ∧ r.data = data := by
  rw [endRecord_fields (recordStart_length type recordClass ttl) rfl]
  have hdata : data.length < 65536 := by
    simp only [List.length_append] at hroom
    omega
  refine ⟨⟨n, type, recordClass, ttl, data, hdata⟩, ⟨?_, ?_, ⟨htext, rfl, rfl, rfl⟩⟩, rfl⟩
  · rw [ResourceRecord.bytes, ResourceRecord.fields, recordStart]
    simp only [List.append_assoc]
  · simp only [List.length_append, beBytes_length] at hroom ⊢
    exact hroom

variable (config : MdnsConfig) (ttl : UInt32)

include hcapacity in
theorem writePointer_meets :
    (writePointer capacity config ttl out).Meets fun written =>
      ∃ r, Written capacity out written r config.serviceType 12 1 ttl ∧
        NameData r [] config.fullName := by
  rw [writePointer]
  apply meets_bind (writeName_meets capacity config.serviceType out)
  rintro owned ⟨n, rfl, -, howner⟩
  apply meets_bind (beginRecord_meets 12 1 ttl _)
  rintro begun ⟨rfl, -, -⟩
  apply meets_bind (writeName_meets capacity config.fullName _)
  rintro named ⟨m, rfl, hroom, htarget⟩
  have hassoc : out ++ n.bytes ++ (recordStart 12 1 ttl ++ beBytes 2 0) ++ m.bytes =
      out ++ n.bytes ++ (recordStart 12 1 ttl ++ (beBytes 2 0 ++ m.bytes)) := by
    simp only [List.append_assoc]
  rw [hassoc] at hroom ⊢
  refine meets_mono (endRecord_meets hcapacity howner 12 1 ttl m.bytes hroom) ?_
  rintro written ⟨r, hr, hdata⟩
  exact ⟨r, hr, m, hdata, htarget⟩

include hcapacity in
theorem writeService_meets :
    (writeService capacity config ttl out).Meets fun written =>
      ∃ r, Written capacity out written r config.fullName 33 0x8001 ttl ∧
        NameData r ([0, 0, 0, 0] ++ beBytes 2 config.port.toNat) config.hostname := by
  rw [writeService]
  apply meets_bind (writeName_meets capacity config.fullName out)
  rintro owned ⟨n, rfl, -, howner⟩
  apply meets_bind (beginRecord_meets 33 0x8001 ttl _)
  rintro begun ⟨rfl, -, hbegun⟩
  apply meets_refuseIf
  intro hsix
  have hfront : ([0, 0, 0, 0] ++ beBytes 2 config.port.toNat).length = 6 := by
    rw [List.length_append, beBytes_length]
    rfl
  generalize [0, 0, 0, 0] ++ beBytes 2 config.port.toNat = front at hfront ⊢
  rw [emit_ok (by omega), building_bind]
  apply meets_bind (writeName_meets capacity config.hostname _)
  rintro named ⟨m, rfl, hroom, htarget⟩
  have hassoc : out ++ n.bytes ++ (recordStart 33 0x8001 ttl ++ beBytes 2 0) ++ front ++ m.bytes =
      out ++ n.bytes ++ (recordStart 33 0x8001 ttl ++ (beBytes 2 0 ++ (front ++ m.bytes))) := by
    simp only [List.append_assoc]
  rw [hassoc] at hroom ⊢
  refine meets_mono (endRecord_meets hcapacity howner 33 0x8001 ttl (front ++ m.bytes) hroom) ?_
  rintro written ⟨r, hr, hdata⟩
  exact ⟨r, hr, m, hdata, htarget⟩

include hcapacity in
theorem writeAddress_meets (ip : CString) :
    (writeAddress capacity config ttl ip out).Meets fun written =>
      ∃ r, Written capacity out written r config.hostname 1 0x8001 ttl ∧
        netStrToIpv4 ip = some r.data := by
  rw [writeAddress]
  apply meets_refuseIf
  intro haddress
  obtain ⟨bytes, hbytes⟩ := Option.ne_none_iff_exists'.mp haddress
  have hfour := netStrToIpv4_length hbytes
  rw [hbytes, Option.getD_some]
  apply meets_bind (writeName_meets capacity config.hostname out)
  rintro owned ⟨n, rfl, -, howner⟩
  apply meets_bind (beginRecord_meets 1 0x8001 ttl _)
  rintro begun ⟨rfl, hlength, hbegun⟩
  apply meets_refuseIf
  intro hroom
  rw [emit_ok (by omega), building_bind]
  have hassoc : out ++ n.bytes ++ (recordStart 1 0x8001 ttl ++ beBytes 2 0) ++ bytes =
      out ++ n.bytes ++ (recordStart 1 0x8001 ttl ++ (beBytes 2 0 ++ bytes)) := by
    simp only [List.append_assoc]
  have hend : (out ++ n.bytes ++ (recordStart 1 0x8001 ttl ++ (beBytes 2 0 ++ bytes))).length -
      ((out ++ n.bytes).length + 10) = 4 := by
    rw [← hassoc, List.length_append, hlength, hfour]
    omega
  have hroom' : (out ++ n.bytes ++ (recordStart 1 0x8001 ttl ++
      (beBytes 2 0 ++ bytes))).length ≤ capacity := by
    rw [← hassoc, List.length_append, hfour]
    omega
  have hmeets := endRecord_meets hcapacity howner 1 0x8001 ttl bytes hroom'
  rw [endRecord, hend] at hmeets
  rw [hassoc]
  refine meets_mono hmeets ?_
  rintro written ⟨r, hr, hdata⟩
  exact ⟨r, hr, by rw [hdata]⟩

theorem writeEntries_meets (entries : List (Option CString)) (hroom : out.length ≤ capacity) :
    (writeEntries capacity entries out).Meets fun written =>
      ∃ texts : List CString, entries = texts.map some ∧ (∀ t ∈ texts, t.length ≤ 255) ∧
        written = out ++ texts.flatMap labelBytes ∧ written.length ≤ capacity := by
  induction entries generalizing out with
  | nil =>
      apply meets_pure
      exact ⟨[], rfl, fun _ h => absurd h List.not_mem_nil, (List.append_nil out).symm, hroom⟩
  | cons entry entries ih =>
      cases entry with
      | none => exact meets_refuse _
      | some entry =>
          rw [writeEntries]
          apply meets_refuseIf
          intro hfits
          have hlength : (out ++ [UInt8.ofNat entry.length]).length = out.length + 1 := by
            rw [List.length_append, List.length_singleton]
          rw [emit_ok (by rw [List.length_singleton]; omega), building_bind,
            emit_ok (by rw [hlength]; omega), building_bind]
          refine meets_mono (ih (by rw [List.length_append, hlength]; omega)) ?_
          rintro written ⟨texts, rfl, htexts, rfl, hwritten⟩
          refine ⟨entry :: texts, rfl, ?_, ?_, hwritten⟩
          · intro t ht
            rcases List.mem_cons.mp ht with rfl | ht'
            · omega
            · exact htexts t ht'
          · rw [List.flatMap_cons, labelBytes, List.append_assoc, List.append_assoc]
            rfl

include hcapacity in
theorem writeText_meets :
    (writeText capacity config ttl out).Meets fun written =>
      ∃ r, Written capacity out written r config.fullName 16 0x8001 ttl ∧
        ∃ texts : List CString, config.txtEntries = texts.map some ∧
          (∀ t ∈ texts, t.length ≤ 255) ∧ r.data = texts.flatMap labelBytes := by
  rw [writeText]
  apply meets_bind (writeName_meets capacity config.fullName out)
  rintro owned ⟨n, rfl, -, howner⟩
  apply meets_bind (beginRecord_meets 16 0x8001 ttl _)
  rintro begun ⟨rfl, -, hbegun⟩
  apply meets_bind (writeEntries_meets config.txtEntries hbegun)
  rintro filled ⟨texts, hentries, htexts, rfl, hroom⟩
  have hassoc : out ++ n.bytes ++ (recordStart 16 0x8001 ttl ++ beBytes 2 0) ++
      texts.flatMap labelBytes =
        out ++ n.bytes ++ (recordStart 16 0x8001 ttl ++ (beBytes 2 0 ++
          texts.flatMap labelBytes)) := by
    simp only [List.append_assoc]
  rw [hassoc] at hroom ⊢
  refine meets_mono (endRecord_meets hcapacity howner 16 0x8001 ttl _ hroom) ?_
  rintro written ⟨r, hr, hdata⟩
  exact ⟨r, hr, texts, hentries, htexts, hdata⟩

end Records

/-! ## Packets -/

/-- The A records of an announcement: one if an address is set. -/
def AddressRecords (config : MdnsConfig) (ttl : UInt32) (records : List ResourceRecord) : Prop :=
  match config.ipv4 with
  | some (c :: rest) =>
      ∃ r, records = [r] ∧ HasFields r config.hostname 1 0x8001 ttl ∧
        netStrToIpv4 (c :: rest) = some r.data
  | _ => records = []

/-- The TXT records of an announcement: one if there are entries. -/
def TextRecords (config : MdnsConfig) (ttl : UInt32) (records : List ResourceRecord) : Prop :=
  if config.txtEntries = [] then records = []
  else
    ∃ r, records = [r] ∧ HasFields r config.fullName 16 0x8001 ttl ∧
      ∃ strings : List CString, config.txtEntries = strings.map some ∧
        (∀ t ∈ strings, t.length ≤ 255) ∧ r.data = strings.flatMap labelBytes

/-- The records of an announcement. -/
inductive Announces (config : MdnsConfig) (ttl : UInt32) : List ResourceRecord → Prop
  | mk {pointer service : ResourceRecord} {addresses texts : List ResourceRecord}
      (pointerFields : HasFields pointer config.serviceType 12 1 ttl)
      (pointerData : NameData pointer [] config.fullName)
      (serviceFields : HasFields service config.fullName 33 0x8001 ttl)
      (serviceData : NameData service ([0, 0, 0, 0] ++ beBytes 2 config.port.toNat) config.hostname)
      (addressRecords : AddressRecords config ttl addresses)
      (textRecords : TextRecords config ttl texts) :
      Announces config ttl (pointer :: service :: (addresses ++ texts))

section Packets

variable {capacity : ℕ} (hcapacity : capacity ≤ 65535) (config : MdnsConfig) (ttl : UInt32)

theorem AddressRecords.length_le {config : MdnsConfig} {ttl : UInt32}
    {records : List ResourceRecord} (h : AddressRecords config ttl records) :
    records.length ≤ 1 := by
  rw [AddressRecords] at h
  split at h
  · obtain ⟨r, rfl, -⟩ := h
    exact Nat.le_refl 1
  · subst h
    exact Nat.zero_le 1

theorem TextRecords.length_le {config : MdnsConfig} {ttl : UInt32}
    {records : List ResourceRecord} (h : TextRecords config ttl records) :
    records.length ≤ 1 := by
  rw [TextRecords] at h
  split at h
  · subst h
    exact Nat.zero_le 1
  · obtain ⟨r, rfl, -⟩ := h
    exact Nat.le_refl 1

include hcapacity in
theorem writeAddressIfSet_meets {out : List UInt8} (hout : out.length ≤ capacity) :
    (writeAddressIfSet capacity config ttl out).Meets fun written =>
      ∃ records, AddressRecords config ttl records ∧
        written.1 = out ++ records.flatMap ResourceRecord.bytes ∧ written.2 = records.length ∧
        written.1.length ≤ capacity := by
  rw [writeAddressIfSet]
  split
  · rename_i hip
    apply meets_pure
    refine ⟨[], ?_, (List.append_nil out).symm, rfl, hout⟩
    rw [AddressRecords, hip]
  · rename_i hip
    apply meets_pure
    refine ⟨[], ?_, (List.append_nil out).symm, rfl, hout⟩
    rw [AddressRecords, hip]
  · rename_i c rest hip
    apply meets_bind (writeAddress_meets hcapacity config ttl (c :: rest))
    rintro written ⟨r, hr, hdata⟩
    apply meets_pure
    refine ⟨[r], ?_, ?_, rfl, hr.room⟩
    · rw [AddressRecords, hip]
      exact ⟨r, rfl, hr.fields, hdata⟩
    · rw [hr.bytes, List.flatMap_singleton]

include hcapacity in
theorem writeTextIfSet_meets {out : List UInt8} (hout : out.length ≤ capacity) :
    (writeTextIfSet capacity config ttl out).Meets fun written =>
      ∃ records, TextRecords config ttl records ∧
        written.1 = out ++ records.flatMap ResourceRecord.bytes ∧ written.2 = records.length ∧
        written.1.length ≤ capacity := by
  rw [writeTextIfSet]
  by_cases hentries : config.txtEntries = []
  · rw [if_pos hentries]
    apply meets_pure
    refine ⟨[], ?_, (List.append_nil out).symm, rfl, hout⟩
    rw [TextRecords, if_pos hentries]
  · rw [if_neg hentries]
    apply meets_bind (writeText_meets hcapacity config ttl)
    rintro written ⟨r, hr, strings, hstrings, hlengths, hdata⟩
    apply meets_pure
    refine ⟨[r], ?_, ?_, rfl, hr.room⟩
    · rw [TextRecords, if_neg hentries]
      exact ⟨r, rfl, hr.fields, strings, hstrings, hlengths, hdata⟩
    · rw [hr.bytes, List.flatMap_singleton]

/-- The number of answers is put into the header. -/
theorem patch_header (answers : List ResourceRecord) :
    patch (([0, 0] ++ (beBytes 2 0x8400 ++ [0, 0, 0, 0, 0, 0, 0, 0])) ++
        answers.flatMap ResourceRecord.bytes) 6 (beBytes 2 answers.length) =
      .ok (responseBytes 0x8400 answers) :=
  @patch_middle ([0, 0] ++ (beBytes 2 0x8400 ++ [0, 0])) [0, 0]
    ([0, 0, 0, 0] ++ answers.flatMap ResourceRecord.bytes) (beBytes 2 answers.length) rfl

include hcapacity in
/-- **A packet is a response with the records of its configuration.** -/
theorem buildPacket_meets :
    (buildPacket capacity config ttl).Meets fun packet =>
      packet.length ≤ capacity ∧ ∃ answers, Announces config ttl answers ∧ answers.length ≤ 4 ∧
        packet = responseBytes 0x8400 answers := by
  rw [buildPacket]
  apply meets_refuseIf
  intro htwelve
  have hheader : ([0, 0] ++ (beBytes 2 0x8400 ++ [0, 0, 0, 0, 0, 0, 0, 0])).length = 12 := rfl
  rw [emit_ok (by rw [hheader, List.length_nil]; omega), building_bind, List.nil_append]
  apply meets_refuseIf
  intro _
  -- the four records in the order in which they are written
  apply meets_bind (writePointer_meets hcapacity config ttl)
  rintro out ⟨pointer, hpointer, hpointerData⟩
  apply meets_bind (writeService_meets hcapacity config ttl)
  rintro served ⟨service, hservice, hserviceData⟩
  apply meets_bind (writeAddressIfSet_meets hcapacity config ttl hservice.room)
  rintro ⟨addressed, n⟩ ⟨addresses, haddresses, haddressed, hn, hroom⟩
  apply meets_bind (writeTextIfSet_meets hcapacity config ttl hroom)
  rintro ⟨texted, m⟩ ⟨texts, htexts, htexted, hm, hroom'⟩
  dsimp only at haddressed hn hroom htexted hm hroom' ⊢
  have hall : texted = ([0, 0] ++ (beBytes 2 0x8400 ++ [0, 0, 0, 0, 0, 0, 0, 0])) ++
      (pointer :: service :: (addresses ++ texts)).flatMap ResourceRecord.bytes := by
    rw [htexted, haddressed, hservice.bytes, hpointer.bytes, List.flatMap_cons, List.flatMap_cons,
      List.flatMap_append]
    simp only [List.append_assoc]
  -- the count in the header is patched in at the end
  have hcount : 2 + n + m = (pointer :: service :: (addresses ++ texts)).length := by
    rw [hn, hm, List.length_cons, List.length_cons, List.length_append]
    omega
  have haddress := haddresses.length_le
  have htext := htexts.length_le
  have hanswers : Announces config ttl (pointer :: service :: (addresses ++ texts)) :=
    .mk hpointer.fields hpointerData hservice.fields hserviceData haddresses htexts
  have hfour : (pointer :: service :: (addresses ++ texts)).length ≤ 4 := by
    rw [← hcount]
    omega
  rw [hcount, hall, patch_header]
  rw [hall] at hroom'
  exact ⟨hroom', _, hanswers, hfour, rfl⟩

end Packets

/-! ## Reading a packet -/

/-- A record that was read from a packet: its owner as text, and its fields. -/
structure Says (packet : List UInt8) (x : RecordAt) (owner : CString) (type recordClass : ℕ)
    (ttl : UInt32) : Prop where
  owner : ∃ stop, decodeName packet x.ownerAt 256 = some (trimDot owner, stop)
  type : x.type = type
  recordClass : x.recordClass = recordClass
  ttl : x.ttl = ttl.toNat

/-- A name in the data of a record, from the byte `i` of the data to its end. -/
def PointsTo (packet : List UInt8) (x : RecordAt) (i : ℕ) (name : CString) : Prop :=
  decodeName packet (x.dataAt + i) 256 = some (trimDot name, x.dataAt + x.data.length)

/-- The A records that were read. -/
def SaysAddress (config : MdnsConfig) (ttl : UInt32) (packet : List UInt8)
    (records : List RecordAt) : Prop :=
  match config.ipv4 with
  | some (c :: rest) =>
      ∃ x, records = [x] ∧ Says packet x config.hostname 1 0x8001 ttl ∧
        netStrToIpv4 (c :: rest) = some x.data
  | _ => records = []

/-- The TXT records that were read. -/
def SaysText (config : MdnsConfig) (ttl : UInt32) (packet : List UInt8)
    (records : List RecordAt) : Prop :=
  if config.txtEntries = [] then records = []
  else
    ∃ x, records = [x] ∧ Says packet x config.fullName 16 0x8001 ttl ∧
      ∃ strings : List CString, config.txtEntries = strings.map some ∧
        readStrings x.data.length x.data = some strings

/-- What the records of a packet say is its configuration. -/
inductive PacketDescribes (config : MdnsConfig) (ttl : UInt32) (packet : List UInt8) :
    List RecordAt → Prop
  | mk {pointer service : RecordAt} {addresses texts : List RecordAt}
      (pointerFields : Says packet pointer config.serviceType 12 1 ttl)
      (pointerData : PointsTo packet pointer 0 config.fullName)
      (serviceFields : Says packet service config.fullName 33 0x8001 ttl)
      (servicePort : service.data.take 6 = [0, 0, 0, 0] ++ beBytes 2 config.port.toNat)
      (serviceData : PointsTo packet service 6 config.hostname)
      (address : SaysAddress config ttl packet addresses)
      (text : SaysText config ttl packet texts) :
      PacketDescribes config ttl packet (pointer :: service :: (addresses ++ texts))

section Reading

variable {packet front post : List UInt8} {r : ResourceRecord}

theorem HasFields.told {owner : CString} {type recordClass : UInt16} {ttl : UInt32}
    (h : HasFields r owner type recordClass ttl) (hpacket : packet = front ++ (r.bytes ++ post)) :
    Says packet (r.located front.length) owner type.toNat recordClass.toNat ttl where
  owner := by
    refine ⟨front.length + r.owner.bytes.length, ?_⟩
    rw [hpacket, ResourceRecord.bytes, List.append_assoc, ← h.owner]
    exact decodeName_bytes front r.owner _
  type := congrArg UInt16.toNat h.type
  recordClass := congrArg UInt16.toNat h.recordClass
  ttl := congrArg UInt32.toNat h.ttl

theorem NameData.pointsTo {ahead : List UInt8} {name : CString} (h : NameData r ahead name)
    (hpacket : packet = front ++ (r.bytes ++ post)) :
    PointsTo packet (r.located front.length) ahead.length name := by
  obtain ⟨n, hdata, htext⟩ := h
  have hsplit : packet =
      (front ++ r.owner.bytes ++ r.fields ++ ahead) ++ (n.bytes ++ post) := by
    rw [hpacket, ResourceRecord.bytes, hdata]
    simp only [List.append_assoc]
  have hpos : (front ++ r.owner.bytes ++ r.fields ++ ahead).length =
      front.length + r.owner.bytes.length + 10 + ahead.length := by
    rw [List.length_append, List.length_append, List.length_append, fields_length]
  have hfound := decodeName_bytes (front ++ r.owner.bytes ++ r.fields ++ ahead) n post
  rw [← hsplit, hpos, htext] at hfound
  show decodeName packet (front.length + r.owner.bytes.length + 10 + ahead.length) 256 =
    some (trimDot name, front.length + r.owner.bytes.length + 10 + r.data.length)
  rw [hfound, hdata, List.length_append, Nat.add_assoc _ ahead.length]

theorem AddressRecords.told {config : MdnsConfig} {ttl : UInt32} {records : List ResourceRecord}
    (h : AddressRecords config ttl records)
    (hpacket : packet = front ++ (records.flatMap ResourceRecord.bytes ++ post)) :
    SaysAddress config ttl packet (locate front.length records) := by
  rw [AddressRecords] at h
  rw [SaysAddress]
  split
  · rename_i c rest hip
    rw [hip] at h
    obtain ⟨r, rfl, hfields, hdata⟩ := h
    rw [List.flatMap_singleton] at hpacket
    exact ⟨_, rfl, hfields.told hpacket, hdata⟩
  · rename_i hother
    split at h
    · rename_i c rest hip
      exact absurd hip (hother c rest)
    · rw [h]
      rfl

theorem TextRecords.told {config : MdnsConfig} {ttl : UInt32} {records : List ResourceRecord}
    (h : TextRecords config ttl records)
    (hpacket : packet = front ++ (records.flatMap ResourceRecord.bytes ++ post)) :
    SaysText config ttl packet (locate front.length records) := by
  rw [TextRecords] at h
  rw [SaysText]
  by_cases hentries : config.txtEntries = []
  · rw [if_pos hentries] at h ⊢
    rw [h]
    rfl
  · rw [if_neg hentries] at h ⊢
    obtain ⟨r, rfl, hfields, strings, hstrings, hlengths, hdata⟩ := h
    rw [List.flatMap_singleton] at hpacket
    refine ⟨_, rfl, hfields.told hpacket, strings, hstrings, ?_⟩
    show readStrings r.data.length r.data = some strings
    rw [hdata]
    exact readStrings_bytes hlengths (Nat.le_refl _)

/-- **What was announced is read.** -/
theorem Announces.describes {config : MdnsConfig} {ttl : UInt32} {answers : List ResourceRecord}
    (h : Announces config ttl answers) :
    PacketDescribes config ttl (responseBytes 0x8400 answers) (locate 12 answers) := by
  obtain @⟨pointer, service, addresses, texts, hpointer, hpointerData, hservice, hserviceData,
    haddresses, htexts⟩ := h
  let header := [0, 0] ++ (beBytes 2 0x8400 ++ ([0, 0] ++
    (beBytes 2 (pointer :: service :: (addresses ++ texts)).length ++ [0, 0, 0, 0])))
  have hheader : header.length = 12 := rfl
  have hpacket : responseBytes 0x8400 (pointer :: service :: (addresses ++ texts)) =
      header ++ (pointer.bytes ++ (service.bytes ++ (addresses.flatMap ResourceRecord.bytes ++
        (texts.flatMap ResourceRecord.bytes ++ [])))) := by
    rw [responseBytes, List.flatMap_cons, List.flatMap_cons, List.flatMap_append, List.append_nil]
    rfl
  generalize responseBytes 0x8400 (pointer :: service :: (addresses ++ texts)) = packet
    at hpacket ⊢
  generalize header = header at hheader hpacket
  have hservicePacket : packet = (header ++ pointer.bytes) ++ (service.bytes ++
      (addresses.flatMap ResourceRecord.bytes ++ (texts.flatMap ResourceRecord.bytes ++ []))) := by
    rw [hpacket, List.append_assoc]
  have haddressPacket : packet = (header ++ pointer.bytes ++ service.bytes) ++
      (addresses.flatMap ResourceRecord.bytes ++ (texts.flatMap ResourceRecord.bytes ++ [])) := by
    rw [hservicePacket, List.append_assoc _ service.bytes]
  have htextPacket : packet = (header ++ pointer.bytes ++ service.bytes ++
      addresses.flatMap ResourceRecord.bytes) ++ (texts.flatMap ResourceRecord.bytes ++ []) := by
    rw [haddressPacket, List.append_assoc _ (addresses.flatMap ResourceRecord.bytes)]
  -- the records stand behind one another in the packet
  have hserviceAt : 12 + pointer.bytes.length = (header ++ pointer.bytes).length := by
    rw [List.length_append, hheader]
  have haddressAt : (header ++ pointer.bytes).length + service.bytes.length =
      (header ++ pointer.bytes ++ service.bytes).length := List.length_append.symm
  have htextAt : (header ++ pointer.bytes ++ service.bytes).length +
      (addresses.flatMap ResourceRecord.bytes).length =
        (header ++ pointer.bytes ++ service.bytes ++
          addresses.flatMap ResourceRecord.bytes).length := List.length_append.symm
  have hport : service.data.take 6 = [0, 0, 0, 0] ++ beBytes 2 config.port.toNat := by
    obtain ⟨n, hdata, -⟩ := hserviceData
    rw [hdata]
    exact List.take_left' rfl
  rw [locate, locate, locate_append, hserviceAt, haddressAt, htextAt, ← hheader]
  exact .mk (hpointer.told hpacket) (hpointerData.pointsTo hpacket) (hservice.told hservicePacket)
    hport (hserviceData.pointsTo hservicePacket) (haddresses.told haddressPacket)
    (htexts.told htextPacket)

end Reading

/-- **A packet reads back as its configuration**, to its last byte, and the writer never
leaves its buffer. -/
theorem mdns_packet_reads_back (config : MdnsConfig) (ttl : UInt32) (capacity : ℕ)
    (hcapacity : capacity ≤ 65535) :
    (∀ fault, buildPacket capacity config ttl ≠ .error (.fault fault)) ∧
      ∀ packet, buildPacket capacity config ttl = .ok packet →
        packet.length ≤ capacity ∧ ∃ records,
          readResponse packet = some (⟨0, 0x8400, 0, records.length, 0, 0⟩, records, []) ∧
            PacketDescribes config ttl packet records := by
  have hmeets := buildPacket_meets hcapacity config ttl
  constructor
  · intro fault hfault
    rw [hfault] at hmeets
    exact hmeets
  · intro packet hpacket
    rw [hpacket] at hmeets
    obtain ⟨hlength, answers, hanswers, hfour, rfl⟩ := hmeets
    refine ⟨hlength, locate 12 answers, ?_, hanswers.describes⟩
    rw [readResponse_bytes 0x8400 (by omega), locate_length]
    rfl

/-- A speaker with an address and one TXT entry. -/
def speakerConfig : MdnsConfig where
  serviceType := ascii "_raop._tcp.local"
  instanceName := ascii "001122334455@TestSpeaker"
  hostname := ascii "TestSpeaker.local."
  port := 5000
  ipv4 := some (ascii "192.168.1.9")
  txtEntries := [some (ascii "txtvers=1")]

theorem mdns_packet_reads_back_speaker :
    ∃ packet records, buildPacket 1500 speakerConfig 60 = .ok packet ∧
      readResponse packet = some (⟨0, 0x8400, 0, 4, 0, 0⟩, records, []) ∧
        PacketDescribes speakerConfig 60 packet records := by
  have hbuilt : (buildPacket 1500 speakerConfig 60).toOption.isSome = true := by decide +kernel
  have hfour : (buildPacket 1500 speakerConfig 60).toOption.bind
      (fun packet => (readResponse packet).map fun r => r.2.1.length) = some 4 := by decide +kernel
  obtain ⟨-, hreads⟩ := mdns_packet_reads_back speakerConfig 60 1500 (by decide)
  cases hpacket : buildPacket 1500 speakerConfig 60 with
  | error stop =>
      rw [hpacket] at hbuilt
      exact absurd hbuilt Bool.false_ne_true
  | ok packet =>
      obtain ⟨-, records, hresponse, hdescribes⟩ := hreads packet hpacket
      have hcount : some records.length = some 4 := by
        rw [hpacket] at hfour
        rw [← hfour]
        show some records.length = (readResponse packet).map fun r => r.2.1.length
        rw [hresponse]
        rfl
      rw [Option.some.inj hcount] at hresponse
      exact ⟨packet, records, rfl, hresponse, hdescribes⟩

end PortableAirplay.Protocol
