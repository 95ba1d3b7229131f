import PortableAirplay.Library.RtpFormat
import PortableAirplay.Protocol.RtpReceiver

/-!
# The RTP parser and the format

`rtp_parse_packet` of `protocol/rtp.c` against the packets of `Library.RtpFormat`. It reads
every packet back (`rtpParseBody_bytes`), and what it accepts is the bytes of a packet
(`rtpParseBody_canonical`); `rtp_parser_inverts` adds the wrapper of retransmissions.
-/

set_option autoImplicit false

namespace PortableAirplay.Protocol

open PortableAirplay.Library

/-- The header that a packet is parsed to. -/
def messageHeader (m : RtpMessage) : RtpHeader where
  version := 2
  padding := if m.padding.isSome then 1 else 0
  extension := if m.extension.isSome then 1 else 0
  csrcCount := UInt8.ofNat m.contributors.length
  marker := if m.marker then 1 else 0
  payloadType := UInt8.ofNat m.payloadType.val
  sequence := m.sequence
  timestamp := m.timestamp
  ssrc := m.source

/-- The four bytes in front of a packet that is sent again. -/
def IsWrapper (front : List UInt8) : Prop :=
  front.length = 4 ∧ byteAt front 1 &&& 0x7f = 0x56

instance (front : List UInt8) : Decidable (IsWrapper front) :=
  inferInstanceAs (Decidable (_ ∧ _))

/-- `rtp_parse_packet` behind the wrapper. -/
def rtpParseBody (data : List UInt8) : Option RtpPacket :=
  if (rtpHeader data).version ≠ 2 then none
  else
    match rtpHeaderSize (rtpHeader data) data with
    | none => none
    | some size =>
        (rtpUnpad (rtpHeader data) (data.drop size)).map fun payload => ⟨rtpHeader data, payload⟩

/-! ## The first two bytes -/

theorem firstByte_fields (padding extension : Bool) {n : ℕ} (hn : n ≤ 15) :
    rtpFirstByte padding extension n >>> 6 &&& 3 = 2 ∧
      rtpFirstByte padding extension n >>> 5 &&& 1 = (if padding then 1 else 0) ∧
      rtpFirstByte padding extension n >>> 4 &&& 1 = (if extension then 1 else 0) ∧
      rtpFirstByte padding extension n &&& 0x0f = UInt8.ofNat n := by
  have hall : ∀ (p e : Bool) (k : Fin 16),
      rtpFirstByte p e k.val >>> 6 &&& 3 = 2 ∧
        rtpFirstByte p e k.val >>> 5 &&& 1 = (if p then 1 else 0) ∧
        rtpFirstByte p e k.val >>> 4 &&& 1 = (if e then 1 else 0) ∧
        rtpFirstByte p e k.val &&& 0x0f = UInt8.ofNat k.val := by decide +kernel
  exact hall padding extension ⟨n, by omega⟩

theorem firstByte_of_version {b : UInt8} (h : b >>> 6 &&& 3 = 2) :
    b = rtpFirstByte (b >>> 5 &&& 1 != 0) (b >>> 4 &&& 1 != 0) (b &&& 0x0f).toNat ∧
      (b &&& 0x0f).toNat ≤ 15 := by
  have hall : ∀ k : Fin 256, UInt8.ofNat k.val >>> 6 &&& 3 = 2 →
      UInt8.ofNat k.val = rtpFirstByte (UInt8.ofNat k.val >>> 5 &&& 1 != 0)
        (UInt8.ofNat k.val >>> 4 &&& 1 != 0) (UInt8.ofNat k.val &&& 0x0f).toNat ∧
        (UInt8.ofNat k.val &&& 0x0f).toNat ≤ 15 := by decide +kernel
  have hb := hall ⟨b.toNat, b.toNat_lt⟩
  rw [UInt8.ofNat_toNat] at hb
  exact hb h

theorem secondByte_fields (marker : Bool) (type : Fin 128) :
    rtpSecondByte marker type.val >>> 7 &&& 1 = (if marker then 1 else 0) ∧
      rtpSecondByte marker type.val &&& 0x7f = UInt8.ofNat type.val := by
  have hall : ∀ (m : Bool) (t : Fin 128),
      rtpSecondByte m t.val >>> 7 &&& 1 = (if m then 1 else 0) ∧
        rtpSecondByte m t.val &&& 0x7f = UInt8.ofNat t.val := by decide +kernel
  exact hall marker type

theorem secondByte_of_byte (b : UInt8) :
    b = rtpSecondByte (b >>> 7 &&& 1 != 0) (b &&& 0x7f).toNat ∧ (b &&& 0x7f).toNat < 128 := by
  have hall : ∀ k : Fin 256, UInt8.ofNat k.val =
      rtpSecondByte (UInt8.ofNat k.val >>> 7 &&& 1 != 0) (UInt8.ofNat k.val &&& 0x7f).toNat ∧
        (UInt8.ofNat k.val &&& 0x7f).toNat < 128 := by decide +kernel
  have hb := hall ⟨b.toNat, b.toNat_lt⟩
  rwa [UInt8.ofNat_toNat] at hb

/-- A bit that was read is set or not. -/
theorem bit_cases (b : UInt8) (k : UInt8) : b >>> k &&& 1 = 0 ∨ b >>> k &&& 1 = 1 := by
  have hone : (b >>> k &&& 1).toNat < 2 := by
    rw [UInt8.toNat_and]
    have hmod : (b >>> k).toNat &&& (1 : UInt8).toNat = (b >>> k).toNat % 2 :=
      Nat.and_two_pow_sub_one_eq_mod _ 1
    rw [hmod]
    exact Nat.mod_lt _ (by decide)
  rcases Nat.lt_or_ge (b >>> k &&& 1).toNat 1 with hzero | hset
  · exact .inl (UInt8.toNat_inj.mp (Nat.lt_one_iff.mp hzero))
  · exact .inr (UInt8.toNat_inj.mp (Nat.le_antisymm (Nat.le_of_lt_succ hone) hset))

/-! ## A packet is read back -/

theorem or_eq_read16 (data : List UInt8) (i : ℕ) :
    (byteAt data i).toNat <<< 8 ||| (byteAt data (i + 1)).toNat = (read16 data i).toNat := by
  rw [read16, toNat_bigEndian16, Nat.shiftLeft_eq, or_eq_add (byteAt data (i + 1)).toNat_lt]
  simp only [beNat, List.foldl_cons, List.foldl_nil]
  omega

section ReadBack

variable (m : RtpMessage)

theorem rtpHeader_bytes : rtpHeader m.bytes = messageHeader m := by
  obtain ⟨hversion, hpadding, hextension, hcount⟩ :=
    firstByte_fields m.padding.isSome m.extension.isSome m.contributors_le
  obtain ⟨hmarker, htype⟩ := secondByte_fields m.marker m.payloadType
  have hsequence : (byteAt m.bytes 2).toUInt16 <<< 8 ||| (byteAt m.bytes 3).toUInt16 =
      m.sequence := by
    rw [RtpMessage.bytes, RtpMessage.headerBytes, List.append_assoc, List.append_assoc]
    exact read16_beBytes rfl m.sequence _
  have htimestamp : read32 m.bytes 4 = m.timestamp := by
    rw [RtpMessage.bytes, RtpMessage.headerBytes, ← List.append_assoc, List.append_assoc,
      List.append_assoc]
    exact read32_beBytes (by simp) m.timestamp _
  have hsource : read32 m.bytes 8 = m.source := by
    rw [RtpMessage.bytes, RtpMessage.headerBytes, ← List.append_assoc, ← List.append_assoc,
      List.append_assoc]
    exact read32_beBytes (by simp) m.source _
  have hfirst : byteAt m.bytes 0 =
      rtpFirstByte m.padding.isSome m.extension.isSome m.contributors.length := rfl
  have hsecond : byteAt m.bytes 1 = rtpSecondByte m.marker m.payloadType := rfl
  rw [rtpHeader, hfirst, hsecond, hversion, hpadding, hextension, hcount, hmarker, htype,
    hsequence, htimestamp, hsource]
  rfl

theorem contributors_toNat : (UInt8.ofNat m.contributors.length).toNat = m.contributors.length := by
  have hle := m.contributors_le
  rw [UInt8.toNat_ofNat']
  omega

theorem rtpHeaderSize_bytes :
    rtpHeaderSize (messageHeader m) m.bytes =
      some (12 + 4 * m.contributors.length + (extensionBytes m.extension).length) := by
  have hlength : m.bytes.length = 12 + (4 * m.contributors.length +
      ((extensionBytes m.extension).length + (m.payload ++ paddingBytes m.padding).length)) := by
    rw [RtpMessage.bytes, RtpMessage.restBytes, List.length_append, List.length_append,
      List.length_append, RtpMessage.headerBytes_length, wordBytes_length]
  have hcount : (messageHeader m).csrcCount.toNat = m.contributors.length := contributors_toNat m
  rw [rtpHeaderSize, hcount]
  dsimp only
  rw [if_neg (by omega)]
  -- the bit of the extension decides whether its four bytes are read
  cases hextension : m.extension with
  | none =>
      have hnone : (messageHeader m).extension = 0 := by rw [messageHeader, hextension]; rfl
      rw [if_pos hnone, extensionBytes, List.length_nil, Nat.mul_comm]
      rfl
  | some e =>
      have hset : (messageHeader m).extension = 1 := by rw [messageHeader, hextension]; rfl
      have hsize := extensionBytes_length e
      have hwords := m.extension_le e hextension
      have htoNat : (UInt16.ofNat e.2.length).toNat = e.2.length := by
        rw [UInt16.toNat_ofNat']
        omega
      -- the count of the words stands behind the sources and the profile
      have hread : read16 m.bytes (12 + m.contributors.length * 4 + 2) =
          UInt16.ofNat e.2.length := by
        have hsplit : m.bytes = (m.headerBytes ++ (wordBytes m.contributors ++
            beBytes 2 e.1.toNat)) ++ (beBytes 2 (UInt16.ofNat e.2.length).toNat ++
              (wordBytes e.2 ++ (m.payload ++ paddingBytes m.padding))) := by
          rw [RtpMessage.bytes, RtpMessage.restBytes, hextension, htoNat, extensionBytes]
          simp only [List.append_assoc]
        rw [hsplit]
        refine read16_beBytes ?_ _ _
        rw [List.length_append, List.length_append, RtpMessage.headerBytes_length,
          wordBytes_length, beBytes_length]
        omega
      rw [hextension, hsize] at hlength
      rw [if_neg (by rw [hset]; decide), if_neg (by omega), or_eq_read16, hread, htoNat,
        if_neg (by omega), hsize, Option.some.injEq]
      omega

theorem rtpUnpad_bytes :
    rtpUnpad (messageHeader m) (m.payload ++ paddingBytes m.padding) = some m.payload := by
  cases hpadding : m.padding with
  | none =>
      have hnone : (messageHeader m).padding = 0 := by rw [messageHeader, hpadding]; rfl
      rw [rtpUnpad, if_pos hnone, paddingBytes, List.append_nil]
  | some fill =>
      have hset : (messageHeader m).padding = 1 := by rw [messageHeader, hpadding]; rfl
      have hfill := m.padding_le fill hpadding
      have hcount : (UInt8.ofNat (fill.length + 1)).toNat = fill.length + 1 := by
        rw [UInt8.toNat_ofNat']
        omega
      have hne : UInt8.ofNat (fill.length + 1) ≠ 0 := by
        intro hzero
        rw [hzero, UInt8.toNat_zero] at hcount
        omega
      have hlength : (m.payload ++ paddingBytes (some fill)).length =
          m.payload.length + (fill.length + 1) := by
        rw [List.length_append, paddingBytes_length]
      -- the last byte counts the padding, itself included
      have hlast : (m.payload ++ paddingBytes (some fill)).getLast? =
          some (UInt8.ofNat (fill.length + 1)) := by
        rw [paddingBytes, ← List.append_assoc, List.getLast?_append]
        rfl
      rw [rtpUnpad, if_neg (by rw [hset]; decide), hlast]
      dsimp only
      rw [hcount, hlength, if_neg, Nat.add_sub_cancel, List.take_left]
      rintro (hzero | hlong)
      · exact hne hzero
      · omega

/-- **A packet is read back.** -/
theorem rtpParseBody_bytes : rtpParseBody m.bytes = some ⟨messageHeader m, m.payload⟩ := by
  have hrest : m.bytes.drop (12 + 4 * m.contributors.length + (extensionBytes m.extension).length) =
      m.payload ++ paddingBytes m.padding := by
    have hsplit : m.bytes = (m.headerBytes ++ (wordBytes m.contributors ++
        extensionBytes m.extension)) ++ (m.payload ++ paddingBytes m.padding) := by
      rw [RtpMessage.bytes, RtpMessage.restBytes]
      simp only [List.append_assoc]
    rw [hsplit]
    apply List.drop_left'
    rw [List.length_append, List.length_append, RtpMessage.headerBytes_length, wordBytes_length]
    omega
  rw [rtpParseBody, rtpHeader_bytes, if_neg (fun hne => hne rfl), rtpHeaderSize_bytes]
  dsimp only
  rw [hrest, rtpUnpad_bytes]
  rfl

end ReadBack

/-! ## What is accepted is a packet -/

/-- Windows that follow each other. -/
theorem window_append (data : List UInt8) (i m n : ℕ) :
    (data.drop i).take m ++ (data.drop (i + m)).take n = (data.drop i).take (m + n) := by
  rw [List.take_add, List.drop_drop]

/-- A body is a payload with padding that says its length, or without. -/
theorem rtpUnpad_canonical {header : RtpHeader} {body payload : List UInt8}
    (hbit : header.padding = 0 ∨ header.padding = 1) (h : rtpUnpad header body = some payload) :
    ∃ padding : Option (List UInt8), (∀ fill ∈ padding, fill.length ≤ 254) ∧
      body = payload ++ paddingBytes padding ∧
      header.padding = if padding.isSome then 1 else 0 := by
  rw [rtpUnpad] at h
  -- without the bit all of the body is payload
  rcases hbit with hnone | hset
  · rw [if_pos hnone, Option.some.injEq] at h
    refine ⟨none, fun fill hfill => absurd hfill (Option.not_mem_none fill), ?_, hnone⟩
    rw [h, paddingBytes, List.append_nil]
  · rw [if_neg (by rw [hset]; decide)] at h
    cases hlast : body.getLast? with
    | none => simp [hlast] at h
    | some pad =>
        rw [hlast] at h
        dsimp only at h
        split at h
        · simp at h
        · -- the count is not zero and not more than there is, so it splits the body
          rename_i hpad
          rw [not_or, Nat.not_lt] at hpad
          rw [Option.some.injEq] at h
          have hlt := pad.toNat_lt
          have hpos : 0 < pad.toNat := Nat.pos_of_ne_zero fun hzero =>
            hpad.1 (UInt8.toNat_inj.mp hzero)
          obtain ⟨front, rfl⟩ := List.getLast?_eq_some_iff.mp hlast
          rw [List.length_append, List.length_singleton] at hpad h
          have hpayload : payload = front.take (front.length + 1 - pad.toNat) := by
            rw [← h, List.take_append_of_le_length (by omega)]
          have hfill : (front.drop (front.length + 1 - pad.toNat)).length + 1 = pad.toNat := by
            rw [List.length_drop]
            omega
          refine ⟨some (front.drop (front.length + 1 - pad.toNat)), ?_, ?_, hset⟩
          · intro fill hmem
            rw [Option.mem_some_iff] at hmem
            rw [← hmem]
            omega
          · rw [paddingBytes, hfill, UInt8.ofNat_toNat, hpayload, ← List.append_assoc,
              List.take_append_drop]

/-- Behind the sources stands an extension that says its length, or none. -/
theorem rtpHeaderSize_canonical {header : RtpHeader} {data : List UInt8} {size : ℕ}
    (hbit : header.extension = 0 ∨ header.extension = 1)
    (h : rtpHeaderSize header data = some size) :
    ∃ extension : Option (UInt16 × List UInt32), (∀ e ∈ extension, e.2.length ≤ 65535) ∧
      12 + 4 * header.csrcCount.toNat ≤ data.length ∧
      data.drop (12 + 4 * header.csrcCount.toNat) = extensionBytes extension ++ data.drop size ∧
      header.extension = if extension.isSome then 1 else 0 := by
  have hbase : 12 + header.csrcCount.toNat * 4 = 12 + 4 * header.csrcCount.toNat := by omega
  rw [rtpHeaderSize, hbase] at h
  dsimp only at h
  generalize 12 + 4 * header.csrcCount.toNat = base at h ⊢
  -- each test of the source that fails leaves no size
  by_cases hfixed : base > data.length
  · rw [if_pos hfixed] at h
    simp at h
  rw [if_neg hfixed] at h
  rcases hbit with hnone | hset
  · rw [if_pos hnone, Option.some.injEq] at h
    refine ⟨none, fun e he => absurd he (Option.not_mem_none e), Nat.le_of_not_lt hfixed, ?_, hnone⟩
    rw [h]
    rfl
  · rw [if_neg (by rw [hset]; decide), or_eq_read16] at h
    by_cases hfields : base + 4 > data.length
    · rw [if_pos hfields] at h
      simp at h
    rw [if_neg hfields] at h
    have hlt := (read16 data (base + 2)).toNat_lt
    by_cases hwords : base + 4 + (read16 data (base + 2)).toNat * 4 > data.length
    · rw [if_pos hwords] at h
      simp at h
    rw [if_neg hwords, Option.some.injEq] at h
    -- the words are those of the window that the count spans
    obtain ⟨words, hlength, hbytes⟩ := exists_wordBytes (read16 data (base + 2)).toNat
      ((data.drop (base + 4)).take (4 * (read16 data (base + 2)).toNat))
      (by rw [List.length_take, List.length_drop]; omega)
    refine ⟨some (read16 data base, words), ?_, Nat.le_of_not_lt hfixed, ?_, hset⟩
    · intro e he
      rw [Option.mem_some_iff] at he
      rw [← he, hlength]
      omega
    · rw [extensionBytes, hlength, hbytes, beBytes_read16 (by omega), beBytes_read16 (by omega),
        window_append, window_append, ← h]
      have hsize : base + 4 + (read16 data (base + 2)).toNat * 4 =
          base + (2 + (2 + 4 * (read16 data (base + 2)).toNat)) := by omega
      rw [hsize, ← List.drop_drop]
      exact (List.take_append_drop _ _).symm

/-- The first twelve bytes. -/
theorem headerBytes_of_data {data : List UInt8} (h : 12 ≤ data.length) :
    [byteAt data 0, byteAt data 1] ++ (beBytes 2 (read16 data 2).toNat ++
      (beBytes 4 (read32 data 4).toNat ++ beBytes 4 (read32 data 8).toNat)) = data.take 12 := by
  have htwo : (data.drop 0).take 2 = [byteAt data 0, byteAt data 1] := window_two (by omega)
  rw [beBytes_read16 (by omega), beBytes_read32 (by omega), beBytes_read32 (by omega), ← htwo,
    window_append, window_append, window_append]
  rfl

/-- A flag of the header is set exactly when its bit is. -/
theorem bit_ne_zero {bit : UInt8} {flag : Bool} (h : bit = if flag then 1 else 0) :
    (bit != 0) = flag := by
  cases flag with
  | false => rw [h]; rfl
  | true => rw [h]; rfl

/-- **What is accepted is the bytes of a packet.** -/
theorem rtpParseBody_canonical {data : List UInt8} {packet : RtpPacket} (hlong : 12 ≤ data.length)
    (h : rtpParseBody data = some packet) :
    ∃ m : RtpMessage, data = m.bytes ∧ packet = ⟨messageHeader m, m.payload⟩ := by
  rw [rtpParseBody] at h
  by_cases hversion : (rtpHeader data).version ≠ 2
  · rw [if_pos hversion] at h
    simp at h
  rw [if_neg hversion] at h
  cases hsize : rtpHeaderSize (rtpHeader data) data with
  | none => simp [hsize] at h
  | some size =>
      rw [hsize] at h
      dsimp only at h
      obtain ⟨payload, hunpad, rfl⟩ := Option.map_eq_some_iff.mp h
      -- the two bytes of flags, the extension, the padding and the sources, one after the other
      obtain ⟨hfirst, hcount⟩ := firstByte_of_version (Classical.not_not.mp hversion)
      obtain ⟨hsecond, htype⟩ := secondByte_of_byte (byteAt data 1)
      obtain ⟨extension, hextension, hfits, hrest, hhas⟩ :=
        rtpHeaderSize_canonical (bit_cases _ 4) hsize
      obtain ⟨padding, hpadding, hbody, hpadded⟩ := rtpUnpad_canonical (bit_cases _ 5) hunpad
      have hcsrc : (rtpHeader data).csrcCount.toNat = (byteAt data 0 &&& 0x0f).toNat := rfl
      rw [hcsrc] at hfits hrest
      obtain ⟨contributors, hlength, hwords⟩ := exists_wordBytes (byteAt data 0 &&& 0x0f).toNat
        ((data.drop 12).take (4 * (byteAt data 0 &&& 0x0f).toNat))
        (by rw [List.length_take, List.length_drop]; omega)
      have hpad : (byteAt data 0 >>> 5 &&& 1 != 0) = padding.isSome := bit_ne_zero hpadded
      have hext : (byteAt data 0 >>> 4 &&& 1 != 0) = extension.isSome := bit_ne_zero hhas
      rw [hpad, hext, ← hlength] at hfirst
      let m : RtpMessage :=
        { marker := byteAt data 1 >>> 7 &&& 1 != 0
          payloadType := ⟨(byteAt data 1 &&& 0x7f).toNat, htype⟩
          sequence := read16 data 2
          timestamp := read32 data 4
          source := read32 data 8
          contributors := contributors
          extension := extension
          payload := payload
          padding := padding
          contributors_le := by rw [hlength]; exact hcount
          extension_le := hextension
          padding_le := hpadding }
      -- the bytes of this message are those that were read
      have hdata : data = m.bytes := by
        have hheader : m.headerBytes = data.take 12 := by
          rw [← headerBytes_of_data hlong]
          show [rtpFirstByte padding.isSome extension.isSome contributors.length,
            rtpSecondByte (byteAt data 1 >>> 7 &&& 1 != 0) (byteAt data 1 &&& 0x7f).toNat] ++ _ = _
          rw [← hfirst, ← hsecond]
        have hafter : m.restBytes = data.drop 12 := by
          show wordBytes contributors ++ (extensionBytes extension ++
            (payload ++ paddingBytes padding)) = data.drop 12
          rw [hwords, ← hbody, ← hrest, ← List.drop_drop]
          exact List.take_append_drop _ _
        rw [RtpMessage.bytes, hheader, hafter, List.take_append_drop]
      refine ⟨m, hdata, ?_⟩
      rw [hdata, rtpHeader_bytes]

/-! ## The parser -/

theorem rtpParsePacket_bare {data : List UInt8} (h : byteAt data 1 &&& 0x7f ≠ 0x56) :
    rtpParsePacket data = if data.length < 12 then none else rtpParseBody data := by
  have hbare : (byteAt data 1 &&& 0x7f == 0x56) = false := beq_false_of_ne h
  rw [rtpParsePacket, hbare]
  rfl

theorem rtpParsePacket_wrapped {data : List UInt8} (h : byteAt data 1 &&& 0x7f = 0x56) :
    rtpParsePacket data = if data.length < 16 then none else rtpParseBody (data.drop 4) := by
  have hwrapped : (byteAt data 1 &&& 0x7f == 0x56) = true := beq_iff_eq.mpr h
  rw [rtpParsePacket, hwrapped]
  by_cases hlong : data.length < 16
  · rw [if_pos hlong]
    split
    · rfl
    · exact if_pos (by simpa using hlong)
  · rw [if_neg hlong, if_neg (by omega)]
    exact if_neg (by simpa using hlong)

theorem byteAt_bytes_one (m : RtpMessage) :
    byteAt m.bytes 1 &&& 0x7f = UInt8.ofNat m.payloadType.val :=
  (secondByte_fields m.marker m.payloadType).2

theorem payloadType_ne {m : RtpMessage} (h : m.payloadType.val ≠ 0x56) :
    byteAt m.bytes 1 &&& 0x7f ≠ 0x56 := by
  rw [byteAt_bytes_one]
  intro hsame
  have htoNat := congrArg UInt8.toNat hsame
  have hlt := m.payloadType.isLt
  rw [UInt8.toNat_ofNat'] at htoNat
  have hvalue : (0x56 : UInt8).toNat = 0x56 := rfl
  omega

theorem bytes_length_le (m : RtpMessage) : 12 ≤ m.bytes.length := by
  rw [RtpMessage.bytes, List.length_append, RtpMessage.headerBytes_length]
  exact Nat.le_add_right 12 _

/-- **The RTP parser inverts the format and accepts nothing else.** Every packet is read
back, with every field of its header and its payload, if its payload type is not that of the
wrapper, and every packet behind a wrapper; and every datagram that is accepted is such a
packet, bare or behind a wrapper, with the payload in it. -/
theorem rtp_parser_inverts :
    (∀ m : RtpMessage, m.payloadType.val ≠ 0x56 →
      rtpParsePacket m.bytes = some ⟨messageHeader m, m.payload⟩) ∧
    (∀ (m : RtpMessage) (front : List UInt8), IsWrapper front →
      rtpParsePacket (front ++ m.bytes) = some ⟨messageHeader m, m.payload⟩) ∧
    (∀ (data : List UInt8) (packet : RtpPacket), rtpParsePacket data = some packet →
      ∃ (m : RtpMessage) (front : List UInt8), data = front ++ m.bytes ∧
        (front = [] ∧ m.payloadType.val ≠ 0x56 ∨ IsWrapper front) ∧
        packet = ⟨messageHeader m, m.payload⟩ ∧
        ∃ before after, data = before ++ packet.payload ++ after) := by
  refine ⟨?_, ?_, ?_⟩
  · -- a bare packet
    intro m htype
    rw [rtpParsePacket_bare (payloadType_ne htype), if_neg (Nat.not_lt_of_le (bytes_length_le m)),
      rtpParseBody_bytes]
  · -- behind a wrapper, which the byte of the type shows
    rintro m front ⟨hlength, htype⟩
    have hlong := bytes_length_le m
    rw [← byteAt_append_left (by omega) m.bytes] at htype
    rw [rtpParsePacket_wrapped htype, if_neg, List.drop_left' hlength, rtpParseBody_bytes]
    rw [List.length_append]
    omega
  · intro data packet h
    -- the payload of a packet lies in it, so also behind a wrapper
    have hinside : ∀ (m : RtpMessage) (front : List UInt8), data = front ++ m.bytes →
        ∃ before after, data = before ++ m.payload ++ after := by
      intro m front hdata
      refine ⟨front ++ m.headerBytes ++ wordBytes m.contributors ++ extensionBytes m.extension,
        paddingBytes m.padding, ?_⟩
      rw [hdata, RtpMessage.bytes, RtpMessage.restBytes]
      simp only [List.append_assoc]
    -- the second byte of a datagram says whether four bytes are removed
    by_cases hwrapped : byteAt data 1 &&& 0x7f = 0x56
    · rw [rtpParsePacket_wrapped hwrapped] at h
      split at h
      · simp at h
      · rename_i hlong
        obtain ⟨m, hbody, rfl⟩ :=
          rtpParseBody_canonical (by rw [List.length_drop]; omega) h
        have hdata : data = data.take 4 ++ m.bytes := by rw [← hbody, List.take_append_drop]
        have hfront : IsWrapper (data.take 4) := by
          have hlength : (data.take 4).length = 4 := by
            rw [List.length_take]
            omega
          rw [hdata, byteAt_append_left (by omega)] at hwrapped
          exact ⟨hlength, hwrapped⟩
        exact ⟨m, data.take 4, hdata, .inr hfront, rfl, hinside m _ hdata⟩
    · rw [rtpParsePacket_bare hwrapped] at h
      split at h
      · simp at h
      · rename_i hlong
        obtain ⟨m, hdata, rfl⟩ := rtpParseBody_canonical (Nat.le_of_not_lt hlong) h
        refine ⟨m, [], hdata, .inl ⟨rfl, ?_⟩, rfl, hinside m [] hdata⟩
        intro htype
        apply hwrapped
        rw [hdata, byteAt_bytes_one, htype]
        rfl

end PortableAirplay.Protocol
