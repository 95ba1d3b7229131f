import PortableAirplay.Library.CheckedMemory
import PortableAirplay.Protocol.Bplist

/-!
# Reading hostile property lists

The reader of `protocol/bplist.c` once more, with each read of a byte and each
computation of a size checked against the input and a size type. For every list that
`bplist_open` accepts, no call stops at a check, and each gives what the reader gives
(`plist_reader_safe`).
-/

set_option autoImplicit false

namespace PortableAirplay.Protocol

open PortableAirplay.Library
open PortableAirplay.Platform

/-! ## Lists that are accepted -/

/-- What `bplist_open` has checked about a list. -/
structure Bplist.WellFormed (p : Bplist) : Prop where
  table_ge : 8 ≤ p.table
  count_pos : 0 < p.count
  count_le : p.count ≤ 0xffffffff
  root_lt : p.root < p.count
  offsetSize_pos : 0 < p.offsetSize
  offsetSize_le : p.offsetSize ≤ 8
  refSize_pos : 0 < p.refSize
  refSize_le : p.refSize ≤ 8
  room : p.table + p.count * p.offsetSize + 32 ≤ p.data.length

theorem bplistOpen_wellFormed {data : List UInt8} {p : Bplist} (h : bplistOpen data = some p) :
    p.data = data ∧ p.WellFormed := by
  rw [bplistOpen] at h
  by_cases hstart : data.length < 40 ∨ data.take 8 ≠ ascii "bplist00"
  · rw [if_pos hstart] at h
    contradiction
  · rw [if_neg hstart] at h
    dsimp only at h
    split at h
    · contradiction
    · rename_i hchecks
      obtain rfl := Option.some.inj h
      have hroom : (readBe data (data.length - 32 + 8) 8).toNat *
          (byteAt data (data.length - 32 + 6)).toNat ≤
            data.length - 32 - (readBe data (data.length - 32 + 24) 8).toNat :=
        Nat.mul_le_of_le_div _ _ _ (by omega)
      refine ⟨rfl, ?_⟩
      constructor
      all_goals
        dsimp only
        omega

/-- An object lies before the table. -/
structure BplistObject.Within (o : BplistObject) (p : Bplist) : Prop where
  start_ge : 8 ≤ o.start
  fits : o.start + o.count * elementWidth p o.type ≤ p.table
  number : o.type = 1 ∨ o.type = 2 → o.count ≤ 8

section Objects

variable {p : Bplist} (hp : p.WellFormed)
include hp

theorem elementWidth_pos (type : ℕ) : 0 < elementWidth p type := by
  have hpos := hp.refSize_pos
  rw [elementWidth]
  split
  · omega
  · split
    · exact hpos
    · split
      · omega
      · omega

omit hp in
theorem longCount_within {pos n stop : ℕ} (h : longCount p pos = some (n, stop)) :
    pos < stop ∧ stop ≤ p.table := by
  rw [longCount] at h
  dsimp only at h
  split at h
  · contradiction
  · split at h
    · contradiction
    · obtain ⟨-, rfl⟩ := Prod.mk.inj (Option.some.inj h)
      have hpos : 0 < 2 ^ ((byteAt p.data pos).toNat % 16) := Nat.two_pow_pos _
      omega

omit hp in
/-- Behind the marker at `pos` and the length that may follow it, an object begins. -/
theorem sized_within {pos type low n stop : ℕ} (hpos : pos < p.table)
    (h : (if type = 1 ∨ type = 2 then (if low > 3 then none else some (2 ^ low, pos + 1))
        else if low = 15 then longCount p (pos + 1) else some (low, pos + 1)) = some (n, stop)) :
    pos < stop ∧ stop ≤ p.table ∧ (type = 1 ∨ type = 2 → n ≤ 8) := by
  split at h
  · split at h
    · contradiction
    · rename_i hlow
      obtain ⟨rfl, rfl⟩ := Prod.mk.inj (Option.some.inj h)
      have hpow : 2 ^ low ≤ 2 ^ 3 := Nat.pow_le_pow_right (by omega) (by omega)
      exact ⟨by omega, by omega, fun _ => hpow⟩
  · rename_i hother
    split at h
    · obtain ⟨hlt, hle⟩ := longCount_within h
      exact ⟨by omega, hle, fun htype => absurd htype hother⟩
    · obtain ⟨rfl, rfl⟩ := Prod.mk.inj (Option.some.inj h)
      exact ⟨by omega, by omega, fun htype => absurd htype hother⟩

omit hp in
theorem object_within {ref : ℕ} {o : BplistObject} (h : object p ref = some o) : o.Within p := by
  rw [object] at h
  split at h
  · contradiction
  · dsimp only at h
    split at h
    · contradiction
    · rename_i hpos
      generalize (readBe p.data (p.table + ref * p.offsetSize) p.offsetSize).toNat = pos at h hpos
      generalize (byteAt p.data pos).toNat = marker at h
      split at h
      · contradiction
      · rename_i n stop hsized
        split at h
        · contradiction
        · rename_i hcount
          obtain rfl := Option.some.inj h
          have hfits : n * elementWidth p (marker / 16) ≤ p.table - stop :=
            Nat.mul_le_of_le_div _ _ _ (by omega)
          obtain ⟨hlt, hle, hnumber⟩ := sized_within (by omega) hsized
          exact ⟨by dsimp only; omega, by dsimp only; omega, hnumber⟩

end Objects

/-! ## The checked reader -/

section Checked

variable (limit : ℕ)

/-- `read_be`. -/
def checkedReadBe (data : List UInt8) (pos n : ℕ) : Checked UInt64 := do
  let bytes ← loadBytes data pos n
  pure (bytes.foldl (fun v b => v <<< 8 ||| b.toUInt64) 0)

/-- `bplist_open`. -/
def checkedOpen (data : List UInt8) : Checked (Option Bplist) :=
  if data.length < 40 then pure none
  else do
    let magic ← loadBytes data 0 8
    if magic ≠ ascii "bplist00" then pure none
    else do
      let tail ← sizeSub data.length 32
      let count := (← checkedReadBe data (tail + 8) 8).toNat
      let root := (← checkedReadBe data (tail + 16) 8).toNat
      let table := (← checkedReadBe data (tail + 24) 8).toNat
      let offsetSize := (← loadByte data (tail + 6)).toNat
      let refSize := (← loadByte data (tail + 7)).toNat
      if offsetSize = 0 ∨ offsetSize > 8 ∨ refSize = 0 ∨ refSize > 8 ∨ count = 0 ∨
          count > 0xffffffff ∨ root ≥ count ∨ table < 8 ∨ table > tail then pure none
      else do
        -- the division keeps the product from wrapping around
        let most ← sizeDiv (← sizeSub tail table) offsetSize
        if count > most then pure none
        else pure (some ⟨data, table, count, root, offsetSize, refSize⟩)

variable (p : Bplist)

/-- The length behind a marker in `object`. -/
def checkedLongCount (pos : ℕ) : Checked (Option (ℕ × ℕ)) :=
  if pos ≥ p.table then pure none
  else do
    let marker := (← loadByte p.data pos).toNat
    if marker / 16 ≠ 1 ∨ marker % 16 > 3 then pure none
    else do
      let pos ← sizeAdd limit pos 1
      let bytes := 2 ^ (marker % 16)
      -- `pos` is at most the table here, so the difference does not wrap around
      if bytes > (← sizeSub p.table pos) then pure none
      else do
        let n ← checkedReadBe p.data pos bytes
        let stop ← sizeAdd limit pos bytes
        pure (some (n.toNat, stop))

/-- The length of an object whose marker has been read, with the position behind it. -/
def checkedSized (type low pos : ℕ) : Checked (Option (ℕ × ℕ)) :=
  if type = 1 ∨ type = 2 then pure (if low > 3 then none else some (2 ^ low, pos))
  else if low = 15 then checkedLongCount limit p pos
  else pure (some (low, pos))

/-- `object`. -/
def checkedObject (ref : ℕ) : Checked (Option BplistObject) :=
  if ref ≥ p.count then pure none
  else do
    let entry ← sizeAdd limit p.table (← sizeMul limit ref p.offsetSize)
    let pos := (← checkedReadBe p.data entry p.offsetSize).toNat
    if pos < 8 ∨ pos ≥ p.table then pure none
    else do
      let marker := (← loadByte p.data pos).toNat
      let pos ← sizeAdd limit pos 1
      let type := marker / 16
      match ← checkedSized limit p type (marker % 16) pos with
      | none => pure none
      | some (n, pos) => do
          let most ← sizeDiv (← sizeSub p.table pos) (elementWidth p type)
          if n > most then pure none else pure (some ⟨type, pos, n⟩)

/-- `reference` of element `i` of an array at `start`. -/
def checkedReference (start i : ℕ) : Checked ℕ := do
  let pos ← sizeAdd limit start (← sizeMul limit i p.refSize)
  let ref := (← checkedReadBe p.data pos p.refSize).toNat
  pure (if ref < p.count then ref else bplistNone)

/-- The key test of `bplist_get`; the bytes are compared where the lengths agree. -/
def checkedKeyMatches (dict : BplistObject) (key : CString) (i : ℕ) : Checked Bool := do
  let ref ← checkedReference limit p dict.start i
  match ← checkedObject limit p ref with
  | none => pure false
  | some k =>
      if k.type ≠ 5 ∨ k.count ≠ key.length then pure false
      else do
        let bytes ← loadBytes p.data k.start k.count
        pure (bytes == key)

/-- The loop of `bplist_get`. -/
def checkedFind (dict : BplistObject) (key : CString) : List ℕ → Checked (Option ℕ)
  | [] => pure none
  | i :: rest => do
      if ← checkedKeyMatches limit p dict key i then pure (some i)
      else checkedFind dict key rest

/-- `bplist_get`. -/
def checkedGet (dict : ℕ) (key : CString) : Checked ℕ := do
  match ← checkedObject limit p dict with
  | none => pure bplistNone
  | some d =>
      if d.type ≠ 13 then pure bplistNone
      else do
        match ← checkedFind limit p d key (List.range d.count) with
        | none => pure bplistNone
        | some i => checkedReference limit p d.start (← sizeAdd limit d.count i)

/-- `bplist_at`. -/
def checkedAt (array index : ℕ) : Checked ℕ := do
  match ← checkedObject limit p array with
  | none => pure bplistNone
  | some a =>
      if a.type ≠ 10 ∨ index ≥ a.count then pure bplistNone
      else checkedReference limit p a.start index

/-- `bplist_count`. -/
def checkedCount (ref : ℕ) : Checked ℕ := do
  match ← checkedObject limit p ref with
  | none => pure 0
  | some o => pure (if o.type ≠ 10 ∧ o.type ≠ 13 then 0 else o.count)

/-- `bplist_uint`; the count is converted to 32 bits. -/
def checkedUint (ref : ℕ) : Checked (Option UInt64) := do
  match ← checkedObject limit p ref with
  | none => pure none
  | some o =>
      if o.type ≠ 1 then pure none
      else do
        let value ← checkedReadBe p.data o.start (o.count % 2 ^ 32)
        pure (some value)

/-- `bplist_real`; the bits are read before the type is looked at. -/
def checkedReal (ref : ℕ) : Checked (Option BplistReal) := do
  match ← checkedObject limit p ref with
  | none => pure none
  | some o => do
      let bits ← checkedReadBe p.data o.start (o.count % 2 ^ 32)
      pure
        (if o.type = 1 then some (.integer bits)
        else if o.type ≠ 2 then none
        else if o.count = 8 then some (.double bits)
        else if o.count = 4 then some (.float bits.toUInt32)
        else none)

/-- `bplist_bytes`: the position and the size of the view. -/
def checkedBytes (ref : ℕ) : Checked (Option (ℕ × ℕ)) := do
  match ← checkedObject limit p ref with
  | none => pure none
  | some o => pure (if o.type ≠ 4 ∧ o.type ≠ 5 then none else some (o.start, o.count))

end Checked

/-! ## No check fails -/

theorem checkedReadBe_ok {data : List UInt8} {pos n : ℕ} (h : pos + n ≤ data.length) :
    checkedReadBe data pos n = .ok (readBe data pos n) := by
  rw [checkedReadBe, loadBytes_ok h]
  rfl

/-- **Any string can be opened.** -/
theorem checkedOpen_ok (data : List UInt8) : checkedOpen data = .ok (bplistOpen data) := by
  rw [checkedOpen, bplistOpen]
  by_cases hshort : data.length < 40
  · rw [if_pos hshort, if_pos (.inl hshort)]
    rfl
  · rw [if_neg hshort, loadBytes_ok (by omega), ok_bind, List.drop_zero]
    by_cases hmagic : data.take 8 ≠ ascii "bplist00"
    · rw [if_pos hmagic, if_pos (.inr hmagic)]
      rfl
    · rw [if_neg hmagic, if_neg (by rintro (h | h) <;> contradiction), sizeSub_ok (by omega), ok_bind,
        checkedReadBe_ok (by omega), ok_bind, checkedReadBe_ok (by omega), ok_bind,
        checkedReadBe_ok (by omega), ok_bind, loadByte_ok (by omega), ok_bind,
        loadByte_ok (by omega), ok_bind]
      dsimp only
      generalize (readBe data (data.length - 32 + 8) 8).toNat = count
      generalize (readBe data (data.length - 32 + 16) 8).toNat = root
      generalize (readBe data (data.length - 32 + 24) 8).toNat = table
      generalize (byteAt data (data.length - 32 + 6)).toNat = offsetSize
      generalize (byteAt data (data.length - 32 + 7)).toNat = refSize
      by_cases hchecks : offsetSize = 0 ∨ offsetSize > 8 ∨ refSize = 0 ∨ refSize > 8 ∨ count = 0 ∨
          count > 0xffffffff ∨ root ≥ count ∨ table < 8 ∨ table > data.length - 32
      · rw [if_pos hchecks, if_pos (by omega)]
        rfl
      · rw [if_neg hchecks, sizeSub_ok (by omega), ok_bind, sizeDiv_ok (by omega), ok_bind]
        by_cases hroom : count > (data.length - 32 - table) / offsetSize
        · rw [if_pos hroom, if_pos (by omega)]
          rfl
        · rw [if_neg hroom, if_neg (by omega)]
          rfl

/-- The view that `bplist_bytes` gives: a position and a size. -/
def bplistView (p : Bplist) (ref : ℕ) : Option (ℕ × ℕ) :=
  match object p ref with
  | none => none
  | some o => if o.type ≠ 4 ∧ o.type ≠ 5 then none else some (o.start, o.count)

section Reader

variable {limit : ℕ} {p : Bplist} (hp : p.WellFormed) (hlimit : p.data.length ≤ limit)
include hp hlimit

theorem checkedLongCount_ok (pos : ℕ) :
    checkedLongCount limit p pos = .ok (longCount p pos) := by
  have hroom := hp.room
  rw [checkedLongCount, longCount]
  by_cases hpos : pos ≥ p.table
  · rw [if_pos hpos, if_pos (.inl hpos)]
    rfl
  · rw [if_neg hpos, loadByte_ok (by omega), ok_bind]
    dsimp only
    by_cases hmarker : (byteAt p.data pos).toNat / 16 ≠ 1 ∨ (byteAt p.data pos).toNat % 16 > 3
    · rw [if_pos hmarker, if_pos (.inr hmarker)]
      rfl
    · rw [if_neg hmarker, if_neg (by tauto), sizeAdd_ok (by omega), ok_bind, sizeSub_ok (by omega),
        ok_bind]
      by_cases hbytes : 2 ^ ((byteAt p.data pos).toNat % 16) > p.table - (pos + 1)
      · rw [if_pos hbytes, if_pos hbytes]
        rfl
      · rw [if_neg hbytes, if_neg hbytes, checkedReadBe_ok (by omega), ok_bind,
          sizeAdd_ok (by omega), ok_bind]
        rfl

theorem checkedSized_ok (type low pos : ℕ) :
    checkedSized limit p type low pos =
      .ok (if type = 1 ∨ type = 2 then (if low > 3 then none else some (2 ^ low, pos))
        else if low = 15 then longCount p pos else some (low, pos)) := by
  rw [checkedSized]
  split
  · rfl
  · split
    · exact checkedLongCount_ok hp hlimit pos
    · rfl

/-- **An object is found without leaving the list.** -/
theorem checkedObject_ok (ref : ℕ) : checkedObject limit p ref = .ok (object p ref) := by
  have hroom := hp.room
  rw [checkedObject, object]
  by_cases href : ref ≥ p.count
  · rw [if_pos href, if_pos href]
    rfl
  · have hentry := element_within (Nat.lt_of_not_le href) (Nat.le_refl
      (p.table + p.count * p.offsetSize))
    rw [if_neg href, if_neg href, sizeMul_ok (by omega), ok_bind, sizeAdd_ok (by omega), ok_bind,
      checkedReadBe_ok (by omega), ok_bind]
    dsimp only
    generalize (readBe p.data (p.table + ref * p.offsetSize) p.offsetSize).toNat = pos
    by_cases hpos : pos < 8 ∨ pos ≥ p.table
    · rw [if_pos hpos, if_pos hpos]
      rfl
    · rw [if_neg hpos, if_neg hpos, loadByte_ok (by omega), ok_bind, sizeAdd_ok (by omega), ok_bind]
      generalize (byteAt p.data pos).toNat = marker
      rw [checkedSized_ok hp hlimit, ok_bind]
      cases hsized : (if marker / 16 = 1 ∨ marker / 16 = 2 then
          (if marker % 16 > 3 then none else some (2 ^ (marker % 16), pos + 1))
        else if marker % 16 = 15 then longCount p (pos + 1) else some (marker % 16, pos + 1)) with
      | none => rfl
      | some sized =>
          obtain ⟨n, stop⟩ := sized
          obtain ⟨-, hstop, -⟩ := sized_within (by omega) hsized
          dsimp only
          rw [sizeSub_ok hstop, ok_bind, sizeDiv_ok (elementWidth_pos hp _), ok_bind]
          split
          · rfl
          · rfl

/-- A reference among the first `count` ones behind `start` is read inside the list. -/
theorem checkedReference_ok {start count i : ℕ} (hi : i < count)
    (hfits : start + count * p.refSize ≤ p.table) :
    checkedReference limit p start i = .ok (reference p (start + i * p.refSize)) := by
  have hroom := hp.room
  have hwithin := element_within hi hfits
  rw [checkedReference, sizeMul_ok (by omega), ok_bind, sizeAdd_ok (by omega), ok_bind,
    checkedReadBe_ok (by omega), ok_bind]
  rfl

theorem checkedKeyMatches_ok {dict : BplistObject} (hdict : dict.Within p) (htype : dict.type = 13)
    (key : CString) {i : ℕ} (hi : i < dict.count) :
    checkedKeyMatches limit p dict key i = .ok (keyMatches p dict key i) := by
  have hroom := hp.room
  have hfits := hdict.fits
  have hwidth : elementWidth p dict.type = 2 * p.refSize := by rw [htype]; rfl
  have hkeys : dict.start + dict.count * p.refSize ≤ p.table := by
    rw [hwidth, Nat.mul_left_comm] at hfits
    omega
  rw [checkedKeyMatches, checkedReference_ok hp hlimit hi hkeys, ok_bind,
    checkedObject_ok hp hlimit, ok_bind, keyMatches]
  cases hkey : object p (reference p (dict.start + i * p.refSize)) with
  | none => rfl
  | some k =>
      dsimp only
      by_cases hother : k.type ≠ 5 ∨ k.count ≠ key.length
      · have hfalse : (k.type == 5 && k.count == key.length) = false := by
          rw [Bool.and_eq_false_iff, beq_eq_false_iff_ne, beq_eq_false_iff_ne]
          exact hother
        rw [if_pos hother, hfalse, Bool.false_and]
        rfl
      · rw [not_or, not_not, not_not] at hother
        obtain ⟨htype', hcount⟩ := hother
        have hwithin := (object_within hkey).fits
        rw [htype'] at hwithin
        have hone : elementWidth p 5 = 1 := rfl
        rw [hone, Nat.mul_one] at hwithin
        rw [if_neg (by rintro (h | h) <;> contradiction), loadBytes_ok (by omega), ok_bind, htype',
          hcount, beq_self_eq_true, beq_self_eq_true]
        rfl

theorem checkedFind_ok {dict : BplistObject} (hdict : dict.Within p) (htype : dict.type = 13)
    (key : CString) {positions : List ℕ} (hall : ∀ i ∈ positions, i < dict.count) :
    checkedFind limit p dict key positions = .ok (positions.find? (keyMatches p dict key)) := by
  induction positions with
  | nil => rfl
  | cons i rest ih =>
      rw [checkedFind, checkedKeyMatches_ok hp hlimit hdict htype key (hall i List.mem_cons_self),
        ok_bind, List.find?_cons]
      cases keyMatches p dict key i with
      | true => rfl
      | false => exact ih fun j hj => hall j (List.mem_cons_of_mem i hj)

theorem checkedGet_ok (dict : ℕ) (key : CString) :
    checkedGet limit p dict key = .ok (bplistGet p dict key) := by
  have hroom := hp.room
  have hpos := hp.refSize_pos
  rw [checkedGet, bplistGet, checkedObject_ok hp hlimit, ok_bind]
  cases hdict : object p dict with
  | none => rfl
  | some d =>
      dsimp only
      by_cases htype : d.type ≠ 13
      · rw [if_pos htype, if_pos htype]
        rfl
      · rw [if_neg htype, if_neg htype]
        rw [not_not] at htype
        have hwithin := object_within hdict
        have hfits := hwithin.fits
        have hwidth : elementWidth p d.type = 2 * p.refSize := by rw [htype]; rfl
        rw [hwidth, ← Nat.mul_assoc] at hfits
        rw [checkedFind_ok hp hlimit hwithin htype key fun i hi => List.mem_range.mp hi, ok_bind]
        cases hfound : (List.range d.count).find? (keyMatches p d key) with
        | none => rfl
        | some i =>
            have hi := List.mem_range.mp (List.mem_of_find?_eq_some hfound)
            have hcount : d.count * 2 ≤ d.count * 2 * p.refSize := Nat.le_mul_of_pos_right _ hpos
            dsimp only
            rw [sizeAdd_ok (by omega), ok_bind, checkedReference_ok hp hlimit _ hfits]
            omega

theorem checkedAt_ok (array index : ℕ) :
    checkedAt limit p array index = .ok (bplistAt p array index) := by
  rw [checkedAt, bplistAt, checkedObject_ok hp hlimit, ok_bind]
  cases harray : object p array with
  | none => rfl
  | some a =>
      dsimp only
      by_cases hother : a.type ≠ 10 ∨ index ≥ a.count
      · rw [if_pos hother, if_pos hother]
        rfl
      · rw [if_neg hother, if_neg hother]
        rw [not_or, not_not, Nat.not_le] at hother
        have hfits := (object_within harray).fits
        rw [hother.1] at hfits
        exact checkedReference_ok hp hlimit hother.2 hfits

theorem checkedCount_ok (ref : ℕ) : checkedCount limit p ref = .ok (bplistCount p ref) := by
  rw [checkedCount, bplistCount, checkedObject_ok hp hlimit, ok_bind]
  cases object p ref with
  | none => rfl
  | some o => rfl

omit hlimit in
/-- The bytes of a number of an object, with the count in 32 bits. -/
theorem checkedReadBe_object {ref : ℕ} {o : BplistObject} (h : object p ref = some o) :
    checkedReadBe p.data o.start (o.count % 2 ^ 32) =
      .ok (readBe p.data o.start (o.count % 2 ^ 32)) := by
  have hroom := hp.room
  have hfits := (object_within h).fits
  have hcount : o.count ≤ o.count * elementWidth p o.type :=
    Nat.le_mul_of_pos_right _ (elementWidth_pos hp _)
  have hmod := Nat.mod_le o.count (2 ^ 32)
  exact checkedReadBe_ok (by omega)

omit hp hlimit in
theorem number_count {ref : ℕ} {o : BplistObject} (h : object p ref = some o)
    (htype : o.type = 1 ∨ o.type = 2) : o.count % 2 ^ 32 = o.count :=
  Nat.mod_eq_of_lt (Nat.lt_of_le_of_lt ((object_within h).number htype) (by decide))

theorem checkedUint_ok (ref : ℕ) : checkedUint limit p ref = .ok (bplistUint p ref) := by
  rw [checkedUint, bplistUint, checkedObject_ok hp hlimit, ok_bind]
  cases hobject : object p ref with
  | none => rfl
  | some o =>
      dsimp only
      by_cases htype : o.type ≠ 1
      · rw [if_pos htype, if_pos htype]
        rfl
      · rw [if_neg htype, if_neg htype, checkedReadBe_object hp hobject, ok_bind,
          number_count hobject (.inl (not_not.mp htype))]
        rfl

theorem checkedReal_ok (ref : ℕ) : checkedReal limit p ref = .ok (bplistReal p ref) := by
  rw [checkedReal, bplistReal, checkedObject_ok hp hlimit, ok_bind]
  cases hobject : object p ref with
  | none => rfl
  | some o =>
      dsimp only
      rw [checkedReadBe_object hp hobject, ok_bind]
      by_cases htype : o.type = 1 ∨ o.type = 2
      · rw [number_count hobject htype]
        rfl
      · rw [not_or] at htype
        rw [if_neg htype.1, if_neg htype.1, if_pos htype.2, if_pos htype.2]
        rfl

theorem checkedBytes_ok (ref : ℕ) : checkedBytes limit p ref = .ok (bplistView p ref) := by
  rw [checkedBytes, bplistView, checkedObject_ok hp hlimit, ok_bind]
  cases object p ref with
  | none => rfl
  | some o => rfl

end Reader

/-! ## Sequences of calls -/

/-- A call of the reader, with any references. -/
inductive BplistCall where
  | get (dict : ℕ) (key : CString)
  | element (array index : ℕ)
  | count (ref : ℕ)
  | uint (ref : ℕ)
  | real (ref : ℕ)
  | bytes (ref : ℕ)

/-- What a call gives: a reference, a count, a number, or a view of some bytes. -/
inductive BplistAnswer where
  | reference (ref : ℕ)
  | count (n : ℕ)
  | uint (value : Option UInt64)
  | real (value : Option BplistReal)
  | view (view : Option (ℕ × ℕ))
  deriving DecidableEq

/-- A call of the reader. -/
def bplistAnswer (p : Bplist) : BplistCall → BplistAnswer
  | .get dict key => .reference (bplistGet p dict key)
  | .element array index => .reference (bplistAt p array index)
  | .count ref => .count (bplistCount p ref)
  | .uint ref => .uint (bplistUint p ref)
  | .real ref => .real (bplistReal p ref)
  | .bytes ref => .view (bplistView p ref)

/-- A call of the checked reader. -/
def checkedAnswer (limit : ℕ) (p : Bplist) : BplistCall → Checked BplistAnswer
  | .get dict key => do pure (.reference (← checkedGet limit p dict key))
  | .element array index => do pure (.reference (← checkedAt limit p array index))
  | .count ref => do pure (.count (← checkedCount limit p ref))
  | .uint ref => do pure (.uint (← checkedUint limit p ref))
  | .real ref => do pure (.real (← checkedReal limit p ref))
  | .bytes ref => do pure (.view (← checkedBytes limit p ref))

/-- A caller: it sees the answers so far, the last one first, and makes a call or stops. -/
abbrev BplistCaller := List BplistAnswer → Option BplistCall

/-- `n` calls at most of a caller, each checked. -/
def checkedCalls (limit : ℕ) (p : Bplist) (caller : BplistCaller) :
    ℕ → List BplistAnswer → Checked (List BplistAnswer)
  | 0, answers => pure answers
  | n + 1, answers =>
      match caller answers with
      | none => pure answers
      | some call => do
          let answer ← checkedAnswer limit p call
          checkedCalls limit p caller n (answer :: answers)

/-- The references and views that a call may give. -/
def BplistAnswer.Within (p : Bplist) : BplistAnswer → Prop
  | .reference ref => ref < p.count ∨ ref = bplistNone
  | .view (some (start, size)) => 8 ≤ start ∧ start + size ≤ p.table
  | _ => True

theorem reference_within (p : Bplist) (pos : ℕ) :
    (BplistAnswer.reference (reference p pos)).Within p := by
  show reference p pos < p.count ∨ reference p pos = bplistNone
  rw [reference]
  split
  · rename_i hlt
    exact .inl hlt
  · exact .inr rfl

theorem none_within (p : Bplist) : (BplistAnswer.reference bplistNone).Within p := .inr rfl

theorem bplistGet_within (p : Bplist) (dict : ℕ) (key : CString) :
    (BplistAnswer.reference (bplistGet p dict key)).Within p := by
  rw [bplistGet]
  split
  · exact none_within p
  · split
    · exact none_within p
    · split
      · exact none_within p
      · exact reference_within p _

theorem bplistAt_within (p : Bplist) (array index : ℕ) :
    (BplistAnswer.reference (bplistAt p array index)).Within p := by
  rw [bplistAt]
  split
  · exact none_within p
  · split
    · exact none_within p
    · exact reference_within p _

theorem bplistView_within {p : Bplist} (hp : p.WellFormed) (ref : ℕ) :
    (BplistAnswer.view (bplistView p ref)).Within p := by
  rw [bplistView]
  cases hobject : object p ref with
  | none => trivial
  | some o =>
      dsimp only
      split
      · trivial
      · have hwithin := object_within hobject
        have hcount : o.count ≤ o.count * elementWidth p o.type :=
          Nat.le_mul_of_pos_right _ (elementWidth_pos hp _)
        have hfits := hwithin.fits
        exact ⟨hwithin.start_ge, by omega⟩

/-- **One call**: no check fails, and what it gives is within the list. -/
theorem checkedAnswer_ok {limit : ℕ} {p : Bplist} (hp : p.WellFormed)
    (hlimit : p.data.length ≤ limit) (call : BplistCall) :
    checkedAnswer limit p call = .ok (bplistAnswer p call) ∧ (bplistAnswer p call).Within p := by
  cases call with
  | get dict key =>
      rw [checkedAnswer, checkedGet_ok hp hlimit]
      exact ⟨rfl, bplistGet_within p dict key⟩
  | element array index =>
      rw [checkedAnswer, checkedAt_ok hp hlimit]
      exact ⟨rfl, bplistAt_within p array index⟩
  | count ref =>
      rw [checkedAnswer, checkedCount_ok hp hlimit]
      exact ⟨rfl, trivial⟩
  | uint ref =>
      rw [checkedAnswer, checkedUint_ok hp hlimit]
      exact ⟨rfl, trivial⟩
  | real ref =>
      rw [checkedAnswer, checkedReal_ok hp hlimit]
      exact ⟨rfl, trivial⟩
  | bytes ref =>
      rw [checkedAnswer, checkedBytes_ok hp hlimit]
      exact ⟨rfl, bplistView_within hp ref⟩

theorem checkedCalls_ok {limit : ℕ} {p : Bplist} (hp : p.WellFormed)
    (hlimit : p.data.length ≤ limit) (caller : BplistCaller) (n : ℕ) {answers : List BplistAnswer}
    (hanswers : ∀ a ∈ answers, a.Within p) :
    ∃ all, checkedCalls limit p caller n answers = .ok all ∧ ∀ a ∈ all, a.Within p := by
  induction n generalizing answers with
  | zero => exact ⟨answers, rfl, hanswers⟩
  | succ n ih =>
      rw [checkedCalls]
      cases caller answers with
      | none => exact ⟨answers, rfl, hanswers⟩
      | some call =>
          obtain ⟨hok, hwithin⟩ := checkedAnswer_ok hp hlimit call
          dsimp only
          rw [hok, ok_bind]
          apply ih
          intro a ha
          rcases List.mem_cons.mp ha with rfl | ha'
          · exact hwithin
          · exact hanswers a ha'

/-- **No list that is accepted makes the reader leave it**: opening it, each call with any
reference, and any sequence of calls that a caller makes of the answers it has seen. -/
theorem plist_reader_safe (limit : ℕ) (data : List UInt8) (p : Bplist)
    (hsize : data.length ≤ limit) (hopen : bplistOpen data = some p) :
    checkedOpen data = .ok (some p) ∧ p.data = data ∧
      (∀ call, checkedAnswer limit p call = .ok (bplistAnswer p call)) ∧
      ∀ (caller : BplistCaller) (n : ℕ), ∃ answers,
        checkedCalls limit p caller n [] = .ok answers ∧ ∀ a ∈ answers, a.Within p := by
  obtain ⟨rfl, hp⟩ := bplistOpen_wellFormed hopen
  refine ⟨?_, rfl, fun call => (checkedAnswer_ok hp hsize call).1, ?_⟩
  · rw [checkedOpen_ok, hopen]
  · intro caller n
    exact checkedCalls_ok hp hsize caller n fun a ha => absurd ha List.not_mem_nil

/-- A dictionary with one key `a`, and a reference of the data that points nowhere. -/
def hostilePlist : List UInt8 :=
  ascii "bplist00" ++ [0xd1, 1, 9, 0x51, 0x61, 0x10, 1] ++ [8, 11, 13] ++
    ([0, 0, 0, 0, 0, 0, 1, 1] ++ beBytes 8 3 ++ beBytes 8 0 ++ beBytes 8 15)

theorem plist_reader_safe_hostile :
    hostilePlist.length ≤ 2 ^ 32 - 1 ∧
      bplistOpen hostilePlist = some ⟨hostilePlist, 15, 3, 0, 1, 1⟩ ∧
      checkedAnswer (2 ^ 32 - 1) ⟨hostilePlist, 15, 3, 0, 1, 1⟩ (.get 0 (ascii "a")) =
        .ok (.reference bplistNone) ∧
      checkedAnswer (2 ^ 32 - 1) ⟨hostilePlist, 15, 3, 0, 1, 1⟩ (.bytes 1) =
        .ok (.view (some (12, 1))) := by
  have hopen : bplistOpen hostilePlist = some ⟨hostilePlist, 15, 3, 0, 1, 1⟩ := by decide +kernel
  have hsafe := plist_reader_safe (2 ^ 32 - 1) hostilePlist _ (by decide) hopen
  refine ⟨by decide, hopen, ?_, ?_⟩
  · rw [hsafe.2.2.1]
    decide +kernel
  · rw [hsafe.2.2.1]
    decide +kernel

end PortableAirplay.Protocol
