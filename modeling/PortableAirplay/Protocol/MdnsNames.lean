import PortableAirplay.Library.CompressedNames
import PortableAirplay.Protocol.Mdns

/-!
# Names in mDNS packets

`decode_name` of `protocol/mdns.c` against the grammar of compressed names.
`decodeName_iff` says that it finds exactly the names that a packet spells and whose labels,
each with a dot, are fewer bytes than the output has. The bound on its steps costs it none of
them, since a walk over a name stands at no byte twice (`mdns_names_decoded`).
-/

set_option autoImplicit false

namespace PortableAirplay.Protocol

open PortableAirplay.Library
open PortableAirplay.Platform
open PortableAirplay.Util

/-! ## The types of labels -/

theorem pointer_iff (b : UInt8) : b &&& 0xc0 = 0xc0 ↔ 192 ≤ b.toNat := by
  have hall : ∀ m : Fin 256, UInt8.ofNat m.val &&& 0xc0 = 0xc0 ↔ 192 ≤ m.val := by decide +kernel
  have hb := hall ⟨b.toNat, b.toNat_lt⟩
  rwa [UInt8.ofNat_toNat] at hb

theorem not_label_iff (b : UInt8) : b &&& 0xc0 ≠ 0 ↔ 64 ≤ b.toNat := by
  have hall : ∀ m : Fin 256, UInt8.ofNat m.val &&& 0xc0 ≠ 0 ↔ 64 ≤ m.val := by decide +kernel
  have hb := hall ⟨b.toNat, b.toNat_lt⟩
  rwa [UInt8.ofNat_toNat] at hb

theorem toNat_and_63 (b : UInt8) : (b &&& 0x3f).toNat = b.toNat % 64 := by
  rw [UInt8.toNat_and]
  exact Nat.and_two_pow_sub_one_eq_mod b.toNat 6

theorem getElem?_byteAt {data : List UInt8} {p : ℕ} (h : p < data.length) :
    data[p]? = some (byteAt data p) := by
  rw [byteAt, List.getD_eq_getElem _ _ h]
  exact List.getElem?_eq_getElem h

theorem byteAt_of_getElem? {data : List UInt8} {p : ℕ} {b : UInt8} (h : data[p]? = some b) :
    p < data.length ∧ byteAt data p = b := by
  obtain ⟨hp, -⟩ := List.getElem?_eq_some_iff.mp h
  rw [getElem?_byteAt hp, Option.some.injEq] at h
  exact ⟨hp, h⟩

/-! ## One step of the decoder -/

section Step

variable {data : List UInt8} {capacity steps p next : ℕ} {name : List UInt8}

theorem decodeLabels_empty (h : data[p]? = some 0) :
    decodeLabels data capacity (steps + 1) p next name =
      some (name.dropLast, if next ≠ 0 then next else p + 1) := by
  obtain ⟨hp, hbyte⟩ := byteAt_of_getElem? h
  rw [decodeLabels, if_neg (Nat.not_le_of_lt hp)]
  dsimp only
  rw [hbyte, if_pos rfl]

theorem decodeLabels_label {n : UInt8} (hlength : data[p]? = some n) (hpos : n ≠ 0)
    (hlabel : n.toNat < 64) (hfits : p + 1 + n.toNat ≤ data.length)
    (hroom : name.length + n.toNat + 1 < capacity) :
    decodeLabels data capacity (steps + 1) p next name =
      decodeLabels data capacity steps (p + 1 + n.toNat) next
        (name ++ (data.drop (p + 1)).take n.toNat ++ [nameDot]) := by
  obtain ⟨hp, hbyte⟩ := byteAt_of_getElem? hlength
  rw [decodeLabels, if_neg (Nat.not_le_of_lt hp)]
  dsimp only
  rw [hbyte, if_neg hpos, if_neg, if_neg]
  · rintro (htype | hdata | hfull)
    · have := (not_label_iff n).mp htype
      omega
    · omega
    · omega
  · intro hpointer
    have := (pointer_iff n).mp hpointer
    omega

theorem decodeLabels_pointer {high low : UInt8} (hhigh : data[p]? = some high)
    (hpointer : 192 ≤ high.toNat) (hlow : data[p + 1]? = some low) :
    decodeLabels data capacity (steps + 1) p next name =
      decodeLabels data capacity steps (pointerTarget high low)
        (if next = 0 then p + 2 else next) name := by
  obtain ⟨hp, hbyte⟩ := byteAt_of_getElem? hhigh
  obtain ⟨hp', hbyte'⟩ := byteAt_of_getElem? hlow
  have hne : high ≠ 0 := by
    rintro rfl
    rw [UInt8.toNat_zero] at hpointer
    omega
  rw [decodeLabels, if_neg (Nat.not_le_of_lt hp)]
  dsimp only
  rw [hbyte, hbyte', if_neg hne, if_pos ((pointer_iff high).mpr hpointer),
    if_neg (Nat.not_le_of_lt hp'), toNat_and_63]
  rfl

end Step

/-! ## Names are decoded -/

/-- The position behind the first pointer is kept. -/
theorem firstPointer_kept (first p next : ℕ) :
    (if (if first = 0 then p + 2 else first) ≠ 0 then (if first = 0 then p + 2 else first)
      else next) = if first ≠ 0 then first else p + 2 := by
  by_cases hfirst : first = 0
  · rw [if_pos hfirst, if_pos (Nat.succ_ne_zero (p + 1)), if_neg (fun hne => hne hfirst)]
  · rw [if_neg hfirst, if_pos hfirst, if_pos hfirst]

/-- The loop over a name that the packet spells, with steps for its walk. -/
theorem decodeLabels_of_spells {data : List UInt8} {p next : ℕ} {labels : List (List UInt8)}
    (h : Spells data p labels next) {capacity : ℕ} :
    ∀ (n q steps first : ℕ) (name : List UInt8), EndsAfter (followName data) n p q → n < steps →
      name.length + (dotted labels).length < capacity →
      decodeLabels data capacity steps p first name =
        some ((name ++ dotted labels).dropLast, if first ≠ 0 then first else next) := by
  -- the induction is on the name that is spelled, and the steps left of its walk bound the loop
  induction h with
  | root hempty =>
      -- the root label: the loop stops with what was written before
      intro n q steps first name _ hsteps _
      obtain ⟨steps, rfl⟩ : ∃ m, steps = m + 1 := ⟨steps - 1, by omega⟩
      rw [decodeLabels_empty hempty, dotted, List.flatMap_nil, List.append_nil]
  | @label p next b labels hlength hpos hlabel hfits _ ih =>
      intro n q steps first name hends hsteps hroom
      obtain ⟨steps, rfl⟩ : ∃ m, steps = m + 1 := ⟨steps - 1, by omega⟩
      -- a label: one step of the walk, and the room that it and its dot take
      obtain ⟨n, rfl, hrest⟩ := hends.behind (followName_label hlength hpos hlabel hfits)
      have htake : ((data.drop (p + 1)).take b.toNat).length = b.toNat := by
        rw [List.length_take, List.length_drop]
        omega
      rw [dotted_cons, List.length_append, List.length_cons, htake] at hroom
      rw [decodeLabels_label hlength hpos hlabel hfits (by omega), ih n q steps first _ hrest
        (by omega), dotted_cons, List.append_assoc, List.append_assoc]
      · rfl
      · rw [List.length_append, List.length_append, List.length_singleton, htake]
        omega
  | @pointer p next high low labels hhigh hpointer hlow _ ih =>
      intro n q steps first name hends hsteps hroom
      obtain ⟨steps, rfl⟩ : ∃ m, steps = m + 1 := ⟨steps - 1, by omega⟩
      -- a pointer: one step of the walk, and nothing is written
      obtain ⟨n, rfl, hrest⟩ := hends.behind (followName_pointer hhigh hpointer hlow)
      rw [decodeLabels_pointer hhigh hpointer hlow, ih n q steps _ _ hrest (by omega) hroom,
        firstPointer_kept]

/-- What the loop returns is a name that the packet spells. -/
theorem spells_of_decodeLabels {data : List UInt8} {capacity : ℕ} :
    ∀ (steps p first : ℕ) (name : List UInt8) (r : CString × ℕ), name.length < capacity →
      decodeLabels data capacity steps p first name = some r →
      ∃ labels next, Spells data p labels next ∧
        name.length + (dotted labels).length < capacity ∧
        r = ((name ++ dotted labels).dropLast, if first ≠ 0 then first else next) := by
  intro steps
  -- the induction is on the steps left, so a loop that returns gives the name that it read
  induction steps with
  | zero =>
      intro p first name r _ h
      simp [decodeLabels] at h
  | succ steps ih =>
      intro p first name r hname h
      have hread := h
      rw [decodeLabels] at hread
      -- each test of the loop that rejects leaves nothing to show
      by_cases hp : p ≥ data.length
      · rw [if_pos hp] at hread
        simp at hread
      have hbyte := getElem?_byteAt (Nat.lt_of_not_le hp)
      rw [if_neg hp] at hread
      dsimp only at hread
      -- the root label
      by_cases hempty : byteAt data p = 0
      · rw [hempty] at hbyte
        rw [decodeLabels_empty hbyte, Option.some.injEq] at h
        refine ⟨[], p + 1, Spells.root hbyte, hname, ?_⟩
        rw [← h, dotted, List.flatMap_nil, List.append_nil]
      rw [if_neg hempty] at hread
      -- a pointer, which must have its second byte in the packet
      by_cases hpointer : byteAt data p &&& 0xc0 = 0xc0
      · rw [if_pos hpointer] at hread
        by_cases hp' : p + 1 ≥ data.length
        · rw [if_pos hp'] at hread
          simp at hread
        have hlow := getElem?_byteAt (Nat.lt_of_not_le hp')
        have htype := (pointer_iff _).mp hpointer
        rw [decodeLabels_pointer hbyte htype hlow] at h
        obtain ⟨labels, next, hspells, hroom, hr⟩ := ih _ _ _ _ hname h
        rw [firstPointer_kept] at hr
        exact ⟨labels, p + 2, Spells.pointer hbyte htype hlow hspells, hroom, hr⟩
      · rw [if_neg hpointer] at hread
        split at hread
        · simp at hread
        · -- a label, of a type and a length that pass the three tests
          rename_i hfine
          rw [not_or, not_or, Classical.not_not, Nat.not_lt, Nat.not_le] at hfine
          obtain ⟨htype, hfits, hroom⟩ := hfine
          have hlabel : (byteAt data p).toNat < 64 := by
            by_contra hlarge
            exact (not_label_iff _).mpr (Nat.le_of_not_lt hlarge) htype
          have htake : ((data.drop (p + 1)).take (byteAt data p).toNat).length =
              (byteAt data p).toNat := by
            rw [List.length_take, List.length_drop]
            omega
          have hname' : (name ++ (data.drop (p + 1)).take (byteAt data p).toNat ++
              [nameDot]).length = name.length + (byteAt data p).toNat + 1 := by
            rw [List.length_append, List.length_append, List.length_singleton, htake]
          rw [decodeLabels_label hbyte hempty hlabel hfits hroom] at h
          obtain ⟨labels, next, hspells, hrest, rfl⟩ := ih _ _ _ _ (by omega) h
          refine ⟨_, next, Spells.label hbyte hempty hlabel hfits hspells, ?_, ?_⟩
          · rw [dotted_cons, List.length_append, List.length_cons, htake]
            omega
          · rw [dotted_cons, List.append_assoc, List.append_assoc]
            rfl

/-- The loop with any number of steps that is not below the length of the packet. -/
theorem decodeLabels_iff (data : List UInt8) (offset : ℕ) {capacity steps : ℕ}
    (hcapacity : 0 < capacity) (hsteps : data.length ≤ steps) (text : CString) (next : ℕ) :
    decodeLabels data capacity steps offset 0 [] = some (text, next) ↔
      ∃ labels, Spells data offset labels next ∧ (dotted labels).length < capacity ∧
        text = (dotted labels).dropLast := by
  constructor
  · intro h
    obtain ⟨labels, next', hspells, hroom, hr⟩ := spells_of_decodeLabels _ _ _ _ _ hcapacity h
    rw [Prod.mk.injEq, if_neg (fun hne => hne rfl)] at hr
    rw [List.length_nil, Nat.zero_add] at hroom
    exact ⟨labels, hr.2 ▸ hspells, hroom, hr.1⟩
  · rintro ⟨labels, hspells, hroom, rfl⟩
    obtain ⟨n, q, hends, hn⟩ := hspells.walk
    have hdecoded := decodeLabels_of_spells hspells n q steps 0 [] hends (by omega)
      (by rwa [List.length_nil, Nat.zero_add])
    rwa [if_neg (fun hne => hne rfl), List.nil_append] at hdecoded

/-- **`decode_name` finds exactly the names that fit.** -/
theorem decodeName_iff (data : List UInt8) (offset : ℕ) {capacity : ℕ} (hcapacity : 0 < capacity)
    (text : CString) (next : ℕ) :
    decodeName data offset capacity = some (text, next) ↔
      ∃ labels, Spells data offset labels next ∧ (dotted labels).length < capacity ∧
        text = (dotted labels).dropLast :=
  decodeLabels_iff data offset hcapacity (Nat.le_refl _) text next

/-- **Names are decoded completely, and the decoder stops.** For every packet and offset:
exactly the names are returned that the packet spells there, with a text of at most 254
bytes, which is the labels with dots between them; the returned offset, behind the first
pointer or behind the name, is not 0; any bound on the steps that is not below the length of
the packet gives the same; and a walk that comes back to a place is rejected. -/
theorem mdns_names_decoded (data : List UInt8) (offset : ℕ) :
    (∀ text next, decodeName data offset 256 = some (text, next) ↔
      ∃ labels, Spells data offset labels next ∧ text = [nameDot].intercalate labels ∧
        text.length < 255) ∧
    (∀ text next, decodeName data offset 256 = some (text, next) → next ≠ 0) ∧
    (∀ steps, data.length ≤ steps →
      decodeLabels data 256 steps offset 0 [] = decodeName data offset 256) ∧
    (∀ m k p, placeAfter (followName data) m offset = some p →
      placeAfter (followName data) (k + 1) p = some p → decodeName data offset 256 = none) := by
  have hcapacity : 0 < 256 := by decide
  refine ⟨?_, ?_, ?_, ?_⟩
  · -- what is decoded is what is spelled
    intro text next
    rw [decodeName_iff data offset hcapacity]
    constructor
    · rintro ⟨labels, hspells, hroom, rfl⟩
      exact ⟨labels, hspells, dotted_dropLast_eq_intercalate labels,
        (dotted_dropLast_lt (by decide)).mpr hroom⟩
    · rintro ⟨labels, hspells, rfl, hroom⟩
      rw [← dotted_dropLast_eq_intercalate] at hroom ⊢
      exact ⟨labels, hspells, (dotted_dropLast_lt (by decide)).mp hroom, rfl⟩
  · -- an offset of 0 is only the answer of a failed decoding
    intro text next h
    obtain ⟨labels, hspells, -, -⟩ := (decodeName_iff data offset hcapacity text next).mp h
    exact hspells.next_ne_zero
  · -- more steps than the packet has bytes change nothing
    intro steps hsteps
    apply Option.ext
    rintro ⟨text, next⟩
    rw [decodeLabels_iff data offset hcapacity hsteps, decodeName_iff data offset hcapacity]
  · -- a name of which the walk came back to a place would be spelled
    intro m k p hreach hreturn
    by_contra hfound
    obtain ⟨⟨text, next⟩, hr⟩ := Option.ne_none_iff_exists'.mp hfound
    obtain ⟨labels, hspells, -, -⟩ := (decodeName_iff data offset hcapacity text next).mp hr
    exact hspells.not_loop hreach hreturn

/-- Four labels of 63 bytes. -/
def longestLabels : List (List UInt8) := List.replicate 4 (List.replicate 63 97)

/-- A text of 255 bytes would fill the output with its terminating zero, and is rejected. -/
theorem mdns_name_of_255 :
    (∃ labels, Spells (nameBytes longestLabels) 0 labels (nameBytes longestLabels).length ∧
      ([nameDot].intercalate labels).length + 1 = 256) ∧
    decodeName (nameBytes longestLabels) 0 256 = none := by
  have hvalid : ∀ label ∈ longestLabels, ValidLabel label := by
    intro label hlabel
    rw [List.eq_of_mem_replicate hlabel]
    decide +kernel
  have hspells := spells_nameBytes hvalid [] []
  rw [List.nil_append, List.append_nil, List.length_nil, Nat.zero_add] at hspells
  exact ⟨⟨longestLabels, hspells, by decide +kernel⟩, by decide +kernel⟩

end PortableAirplay.Protocol
