import PortableAirplay.Airplay.PairSetup
import PortableAirplay.Library.BoundedWriter
import PortableAirplay.Library.Tlv8

/-!
# TLV8 messages

`tlv_put` and `tlv_get` of `airplay/pairing.c` against the format: `tlv_put` appends the
fragments of a value exactly when they fit (`tlvPut_eq`) and writes nothing outside its buffer,
also when it fails (`tlvPutWrites_eq`), and `tlv_get` is the gathering of a type from the
fragments of an input that is cut into fragments without a rest (`tlvGet_eq`). The main result
is `tlv_round_trip`.
-/

set_option autoImplicit false

namespace PortableAirplay.Airplay

open PortableAirplay.Library

/-! ## Writing -/

/-- The loop of `tlv_put` with its writes: the type, the length and the bytes of a fragment. -/
def tlvFragmentsWrites (capacity : ℕ) (type : UInt8) :
    ℕ → List UInt8 → List UInt8 → Building (List UInt8)
  | 0, _, _ => refuse
  | fuel + 1, out, data => do
      let n := min data.length 255
      refuseIf (out.length > capacity ∨ n + 2 > capacity - out.length)
      let out ← emit capacity out [type]
      let out ← emit capacity out [UInt8.ofNat n]
      let out ← emit capacity out (data.take n)
      let rest := data.drop n
      if rest = [] then pure out else tlvFragmentsWrites capacity type fuel out rest

/-- `tlv_put` with its writes. -/
def tlvPutWrites (capacity : ℕ) (out : List UInt8) (type : UInt8) (data : List UInt8) :
    Building (List UInt8) :=
  tlvFragmentsWrites capacity type (data.length + 1) out data

/-- The loop writes what it is said to write, and never outside its buffer. -/
theorem tlvFragmentsWrites_eq (capacity : ℕ) (type : UInt8) (fuel : ℕ) (out data : List UInt8) :
    tlvFragmentsWrites capacity type fuel out data =
      match tlvFragments capacity type fuel out data with
      | none => refuse
      | some out => .ok out := by
  -- fragment by fragment, with the test for the room in front of its three writes
  induction fuel generalizing out data with
  | zero => rfl
  | succ fuel ih =>
      rw [tlvFragmentsWrites, tlvFragments]
      dsimp only
      by_cases hfull : out.length > capacity ∨ min data.length 255 + 2 > capacity - out.length
      · rw [if_pos hfull, refuseIf, if_pos hfull]
        rfl
      · rw [if_neg hfull, refuseIf_neg hfull, building_bind]
        rw [not_or, Nat.not_lt, Nat.not_lt] at hfull
        have htake : (data.take (min data.length 255)).length = min data.length 255 := by
          rw [List.length_take]
          omega
        -- one byte, one byte and the bytes of the fragment: all three fit
        rw [emit_ok (by rw [List.length_singleton]; omega), building_bind,
          emit_ok (by simp only [List.length_append, List.length_singleton]; omega),
          building_bind,
          emit_ok (by simp only [List.length_append, List.length_singleton, htake]; omega),
          building_bind, List.append_assoc, List.append_assoc]
        change (if data.drop (min data.length 255) = [] then
          (pure (out ++ type :: UInt8.ofNat (min data.length 255) ::
            data.take (min data.length 255)) : Building (List UInt8)) else _) = _
        by_cases hrest : data.drop (min data.length 255) = []
        · rw [if_pos hrest, if_pos hrest]
          rfl
        · rw [if_neg hrest, if_neg hrest]
          exact ih _ _

/-- **`tlv_put` writes nothing outside its buffer,** whether it succeeds or fails. -/
theorem tlvPutWrites_eq (capacity : ℕ) (out : List UInt8) (type : UInt8) (data : List UInt8) :
    tlvPutWrites capacity out type data =
      match tlvPut capacity out type data with
      | none => refuse
      | some out => .ok out :=
  tlvFragmentsWrites_eq capacity type (data.length + 1) out data

theorem tlvFragments_eq {capacity : ℕ} {type : UInt8} {fuel : ℕ} {out data : List UInt8}
    (hfuel : data.length < fuel) :
    tlvFragments capacity type fuel out data =
      if out.length + tlvSize data.length ≤ capacity then
        some (out ++ fragmentBytes (fragmentsOf type data))
      else none := by
  -- the induction is on the fuel; each round takes the next 255 bytes
  induction fuel generalizing out data with
  | zero => omega
  | succ fuel ih =>
      rw [tlvFragments]
      dsimp only
      -- the last fragment, or a full one with more behind it
      by_cases hshort : data.length ≤ 255
      · have hbytes : fragmentBytes (fragmentsOf type data) =
            type :: UInt8.ofNat data.length :: data := by
          rw [fragmentsOf_short hshort, fragmentBytes_cons]
          exact congrArg (type :: UInt8.ofNat data.length :: ·) (List.append_nil data)
        have hsize := tlvSize_short hshort
        rw [Nat.min_eq_left hshort, List.take_length, List.drop_length, if_pos rfl, hbytes]
        by_cases hfits : out.length + tlvSize data.length ≤ capacity
        · rw [if_neg (by omega), if_pos hfits]
        · rw [if_pos (by omega), if_neg hfits]
      · have hlong : 255 < data.length := Nat.not_le.mp hshort
        have hsize := tlvSize_long hlong
        have htake : (data.take 255).length = 255 := by
          rw [List.length_take]
          omega
        have hrest : data.drop 255 ≠ [] := by
          rw [ne_eq, List.drop_eq_nil_iff]
          omega
        have hbytes : fragmentBytes (fragmentsOf type data) =
            (type :: UInt8.ofNat 255 :: data.take 255) ++
              fragmentBytes (fragmentsOf type (data.drop 255)) := by
          rw [fragmentsOf_long hlong, fragmentBytes_cons, htake]
          rfl
        have hlength : (out ++ type :: UInt8.ofNat 255 :: data.take 255).length =
            out.length + 257 := by
          rw [List.length_append, List.length_cons, List.length_cons, htake]
        rw [Nat.min_eq_right (Nat.le_of_lt hlong), if_neg hrest,
          ih (by rw [List.length_drop]; omega), hlength, List.length_drop, hbytes,
          List.append_assoc]
        by_cases hfits : out.length + tlvSize data.length ≤ capacity
        · rw [if_neg (by omega), if_pos (by omega), if_pos hfits]
        · rw [if_neg hfits]
          split
          · rfl
          · rw [if_neg (by omega)]

/-- **`tlv_put`** appends the fragments of a value, and fails exactly when they do not fit. -/
theorem tlvPut_eq (capacity : ℕ) (out : List UInt8) (type : UInt8) (data : List UInt8) :
    tlvPut capacity out type data =
      if out.length + tlvSize data.length ≤ capacity then
        some (out ++ fragmentBytes (fragmentsOf type data))
      else none :=
  tlvFragments_eq (Nat.lt_succ_self _)

/-- Successive calls of `tlv_put`. -/
def tlvPutAll (capacity : ℕ) (out : List UInt8) (fields : List (UInt8 × List UInt8)) :
    Option (List UInt8) :=
  fields.foldlM (fun out field => tlvPut capacity out field.1 field.2) out

theorem tlvPutAll_bytes {capacity : ℕ} {fields : List (UInt8 × List UInt8)}
    {out bytes : List UInt8} (h : tlvPutAll capacity out fields = some bytes) :
    bytes = out ++ fragmentBytes (fieldFragments fields) := by
  induction fields generalizing out with
  | nil =>
      rw [tlvPutAll, List.foldlM_nil] at h
      rw [← Option.some.inj h]
      exact (List.append_nil out).symm
  | cons field fields ih =>
      rw [tlvPutAll, List.foldlM_cons, Option.bind_eq_bind, Option.bind_eq_some_iff] at h
      obtain ⟨next, hput, hmore⟩ := h
      rw [tlvPut_eq] at hput
      split at hput
      · rw [ih hmore, ← Option.some.inj hput, List.append_assoc, ← fragmentBytes_append]
        rfl
      · cases hput

/-! ## Reading -/

/-- The input is no sequence of whole fragments: the last one lacks its length or a part of
its value. -/
def Truncated (input : List UInt8) : Prop := ∀ fragments, input ≠ fragmentBytes fragments

/-- What `tlv_get` keeps of the previous fragment. -/
def lastSeen (previous : Option TlvFragment) : Option (UInt8 × UInt8) :=
  previous.map fun f => (f.type, UInt8.ofNat f.value.length)

theorem lastSeen_eq_iff (type : UInt8) (previous : Option TlvFragment) :
    lastSeen previous = some (type, 255) ↔ Continues type previous := by
  rw [lastSeen, Option.map_eq_some_iff]
  constructor
  · rintro ⟨f, rfl, hf⟩
    rw [Prod.mk.injEq] at hf
    refine ⟨f, rfl, hf.1, ?_⟩
    have hlength := congrArg UInt8.toNat hf.2
    have hshort := f.short
    rw [UInt8.toNat_ofNat', Nat.mod_eq_of_lt (by omega)] at hlength
    exact hlength
  · rintro ⟨f, rfl, htype, hlength⟩
    exact ⟨f, rfl, by rw [htype, hlength]; rfl⟩

/-- Fragments are gathered as they are read. -/
theorem tlvLoop_eq {type : UInt8} {capacity fuel : ℕ} {used : List UInt8} {found : Bool}
    {previous : Option TlvFragment} {fragments : List TlvFragment}
    (hfuel : (fragmentBytes fragments).length < fuel) :
    tlvLoop type capacity fuel used found (lastSeen previous) (fragmentBytes fragments) =
      gather type capacity used found previous fragments := by
  -- one round of the loop reads one whole fragment
  induction fragments generalizing fuel used found previous with
  | nil =>
      obtain ⟨fuel, rfl⟩ : ∃ k, fuel = k + 1 := ⟨fuel - 1, by omega⟩
      rfl
  | cons f fragments ih =>
      obtain ⟨fuel, rfl⟩ : ∃ k, fuel = k + 1 := ⟨fuel - 1, by omega⟩
      have hshort := f.short
      have hlength : (UInt8.ofNat f.value.length).toNat = f.value.length := by
        rw [UInt8.toNat_ofNat', Nat.mod_eq_of_lt (by omega)]
      rw [fragmentBytes_cons, List.length_cons, List.length_cons, List.length_append] at hfuel
      have hmore : ∀ used found,
          tlvLoop type capacity fuel used found (lastSeen (some f)) (fragmentBytes fragments) =
            gather type capacity used found (some f) fragments := fun _ _ => ih (by omega)
      have hwhole : ¬f.value.length > (f.value ++ fragmentBytes fragments).length := by
        rw [List.length_append]
        omega
      rw [fragmentBytes_cons, tlvLoop, gather, hlength, if_neg hwhole, List.take_left, List.drop_left]
      by_cases htype : f.type = type
      · -- the test of the code for a gap, in the words of `gather`
        have hgap : (found = true ∧ lastSeen previous ≠ some (type, 255)) ∨
            f.value.length > capacity - used.length ↔
            (found = true ∧ ¬Continues type previous) ∨
              capacity - used.length < f.value.length := by
          rw [ne_eq, lastSeen_eq_iff]
        rw [if_pos htype, if_pos htype]
        by_cases hbad : (found = true ∧ ¬Continues type previous) ∨
            capacity - used.length < f.value.length
        · rw [if_pos (hgap.mpr hbad), if_pos hbad]
        · rw [if_neg (fun h => hbad (hgap.mp h)), if_neg hbad]
          exact hmore _ _
      · rw [if_neg htype, if_neg htype]
        exact hmore _ _

/-- What is read is a sequence of whole fragments. -/
theorem tlvLoop_whole {type : UInt8} {capacity fuel : ℕ} {used input value : List UInt8}
    {found : Bool} {previous : Option (UInt8 × UInt8)}
    (h : tlvLoop type capacity fuel used found previous input = some value) :
    ¬Truncated input := by
  -- a round that does not fail has read a whole fragment
  induction fuel generalizing used found previous input with
  | zero =>
      rw [tlvLoop] at h
      cases h
  | succ fuel ih =>
      match input with
      | [] => exact fun hcut => hcut [] rfl
      | [_] =>
          rw [tlvLoop] at h
          cases h
      | t :: n :: rest =>
          rw [tlvLoop] at h
          split at h
          · cases h
          · rename_i hwhole
            have hbound := n.toNat_lt
            have htake : (rest.take n.toNat).length = n.toNat := by
              rw [List.length_take]
              omega
            have hmore : ¬Truncated (rest.drop n.toNat) := by
              split at h
              · split at h
                · cases h
                · exact ih h
              · exact ih h
            -- the fragment read here goes in front of those behind it
            intro hcut
            apply hmore
            intro fragments hfragments
            apply hcut (⟨t, rest.take n.toNat, by omega⟩ :: fragments)
            have hlength : UInt8.ofNat (rest.take n.toNat).length = n := by
              rw [htake, UInt8.ofNat_toNat]
            calc t :: n :: rest
                = t :: n :: (rest.take n.toNat ++ rest.drop n.toNat) := by
                  rw [List.take_append_drop]
              _ = t :: UInt8.ofNat (rest.take n.toNat).length ::
                    (rest.take n.toNat ++ fragmentBytes fragments) := by
                  rw [hlength, hfragments]
              _ = fragmentBytes (⟨t, rest.take n.toNat, by omega⟩ :: fragments) := rfl

/-- **`tlv_get`** gathers a type from the fragments of an input, and fails on a truncated one. -/
theorem tlvGet_eq (fragments : List TlvFragment) (type : UInt8) (capacity : ℕ) :
    tlvGet (fragmentBytes fragments) type capacity =
      gather type capacity [] false none fragments := by
  show tlvLoop type capacity ((fragmentBytes fragments).length + 1) [] false (lastSeen none)
    (fragmentBytes fragments) = _
  exact tlvLoop_eq (Nat.lt_succ_self _)

theorem tlvGet_truncated {input : List UInt8} (h : Truncated input) (type : UInt8)
    (capacity : ℕ) : tlvGet input type capacity = none := by
  rw [Option.eq_none_iff_forall_ne_some]
  intro value hvalue
  exact tlvLoop_whole hvalue h

/-- The input is cut into fragments, none of them of the type. -/
def Absent (type : UInt8) (input : List UInt8) : Prop :=
  ∃ fragments, input = fragmentBytes fragments ∧ ∀ f ∈ fragments, f.type ≠ type

/-- The type recurs behind a fragment that is not a full one of its own. -/
def Recurs (type : UInt8) (input : List UInt8) : Prop :=
  ∃ before last again more, input = fragmentBytes (before ++ last :: again :: more) ∧
    again.type = type ∧ (∃ f ∈ before ++ [last], f.type = type) ∧
    ¬(last.type = type ∧ last.value.length = 255)

/-- **TLV8 encoding and decoding round-trip,** for every list of fields of pairwise distinct
types and every capacity; `tlv_put` never writes outside its buffer and fails exactly when the
fragments do not fit; and `tlv_get` fails on every input that is truncated, lacks the type or
has it in more than one place. -/
theorem tlv_round_trip (type : UInt8) (capacity : ℕ) :
    (∀ out data, tlvPutWrites capacity out type data =
        match tlvPut capacity out type data with
        | none => refuse
        | some out => .ok out) ∧
    (∀ out data, tlvPut capacity out type data = none ↔
      capacity < out.length + tlvSize data.length) ∧
    (∀ fields putCapacity bytes value, (fields.map Prod.fst).Nodup →
      tlvPutAll putCapacity [] fields = some bytes → (type, value) ∈ fields →
      tlvGet bytes type capacity = if value.length ≤ capacity then some value else none) ∧
    (∀ input, Truncated input ∨ Absent type input ∨ Recurs type input →
      tlvGet input type capacity = none) := by
  refine ⟨fun out data => tlvPutWrites_eq capacity out type data, ?_, ?_, ?_⟩
  · -- a failed call is one that has no room
    intro out data
    rw [tlvPut_eq]
    split
    · rename_i hfits
      constructor
      · intro h
        cases h
      · intro h
        omega
    · rename_i hfits
      exact ⟨fun _ => Nat.not_le.mp hfits, fun _ => rfl⟩
  · intro fields putCapacity bytes value hdistinct hput hfield
    rw [tlvPutAll_bytes hput, List.nil_append, tlvGet_eq, gather_field hdistinct hfield]
  · -- the three kinds of input that are refused
    rintro input (hcut | ⟨fragments, rfl, hnone⟩ |
      ⟨before, last, again, more, rfl, hagain, hseen, hgap⟩)
    · exact tlvGet_truncated hcut type capacity
    · rw [tlvGet_eq, gather_others hnone]
      rfl
    · rw [tlvGet_eq]
      apply gather_recurring before more hagain _ (Or.inr hseen)
      rintro ⟨f, hf, hfull⟩
      rw [Option.some.injEq] at hf
      exact hgap (hf ▸ hfull)

end PortableAirplay.Airplay
