import Mathlib.Data.List.Basic
import Mathlib.Data.List.Nodup
import Mathlib.Algebra.Order.Group.Nat

/-!
# TLV8

Fields of a type and a value of any length, as a list of fragments of at most 255 bytes
(`TlvFragment`). A longer value goes into fragments of 255 bytes and a last one; a value of
exactly 255 bytes, or a multiple, has no terminating empty fragment (`fragmentsOf`).

`gather` is the reader: it takes the fragments of one type, which must follow each other
without a gap, and each but the last must be full. It gathers exactly the value that was cut
into fragments, wherever these stand among fragments of other types (`gather_fragmentsOf`), and
nothing where the type recurs in any other way (`gather_recurring`).
-/

set_option autoImplicit false

namespace PortableAirplay.Library

/-! ## Fragments -/

/-- A fragment. -/
structure TlvFragment where
  type : UInt8
  value : List UInt8
  short : value.length ≤ 255

/-- The bytes of a fragment. -/
def TlvFragment.bytes (f : TlvFragment) : List UInt8 :=
  f.type :: UInt8.ofNat f.value.length :: f.value

/-- The bytes of fragments. -/
def fragmentBytes (fragments : List TlvFragment) : List UInt8 :=
  fragments.flatMap TlvFragment.bytes

/-- The fragments of a value. -/
def fragmentsOf (type : UInt8) (value : List UInt8) : List TlvFragment :=
  if h : value.length ≤ 255 then [⟨type, value, h⟩]
  else ⟨type, value.take 255, List.length_take_le 255 value⟩ :: fragmentsOf type (value.drop 255)
termination_by value.length
decreasing_by
  rw [List.length_drop]
  omega

/-- The size of a value with the type and the length of each of its fragments. -/
def tlvSize (length : ℕ) : ℕ := length + 2 * max 1 ((length + 254) / 255)

theorem fragmentBytes_append (xs ys : List TlvFragment) :
    fragmentBytes (xs ++ ys) = fragmentBytes xs ++ fragmentBytes ys := List.flatMap_append

theorem fragmentBytes_cons (f : TlvFragment) (more : List TlvFragment) :
    fragmentBytes (f :: more) =
      f.type :: UInt8.ofNat f.value.length :: (f.value ++ fragmentBytes more) := rfl

theorem fragmentsOf_short {type : UInt8} {value : List UInt8} (h : value.length ≤ 255) :
    fragmentsOf type value = [⟨type, value, h⟩] := by
  rw [fragmentsOf, dif_pos h]

theorem fragmentsOf_long {type : UInt8} {value : List UInt8} (h : 255 < value.length) :
    fragmentsOf type value =
      ⟨type, value.take 255, List.length_take_le 255 value⟩ ::
        fragmentsOf type (value.drop 255) := by
  rw [fragmentsOf, dif_neg (Nat.not_le.mpr h)]

theorem fragmentsOf_type (type : UInt8) (value : List UInt8) :
    ∀ f ∈ fragmentsOf type value, f.type = type := by
  induction value using fragmentsOf.induct with
  | case1 value h =>
      intro f hf
      rw [fragmentsOf_short h, List.mem_singleton] at hf
      rw [hf]
  | case2 value h ih =>
      intro f hf
      rw [fragmentsOf_long (Nat.not_le.mp h)] at hf
      rcases List.mem_cons.mp hf with rfl | hf
      · rfl
      · exact ih f hf

theorem tlvSize_short {length : ℕ} (h : length ≤ 255) : tlvSize length = length + 2 := by
  rw [tlvSize]
  omega

theorem tlvSize_long {length : ℕ} (h : 255 < length) :
    tlvSize length = 257 + tlvSize (length - 255) := by
  rw [tlvSize, tlvSize]
  omega

/-! ## Gathering -/

/-- The fragment behind this one may go on with its value. -/
def Continues (type : UInt8) (previous : Option TlvFragment) : Prop :=
  ∃ f, previous = some f ∧ f.type = type ∧ f.value.length = 255

instance (type : UInt8) (previous : Option TlvFragment) : Decidable (Continues type previous) :=
  match previous with
  | none => .isFalse (by rintro ⟨f, hf, -⟩; cases hf)
  | some f =>
      if h : f.type = type ∧ f.value.length = 255 then .isTrue ⟨f, rfl, h⟩
      else .isFalse (by rintro ⟨g, hg, hg'⟩; cases hg; exact h hg')

/-- The value of a type, from the bytes collected so far, whether the type has been found, and
the fragment before these. -/
def gather (type : UInt8) (capacity : ℕ) :
    List UInt8 → Bool → Option TlvFragment → List TlvFragment → Option (List UInt8)
  | used, found, _, [] => if found then some used else none
  | used, found, previous, f :: more =>
      if f.type = type then
        if (found = true ∧ ¬Continues type previous) ∨ capacity - used.length < f.value.length then
          none
        else gather type capacity (used ++ f.value) true (some f) more
      else gather type capacity used found (some f) more

section Gather

variable {type : UInt8} {capacity : ℕ} {used : List UInt8} {found : Bool}
  {previous : Option TlvFragment}

/-- Fragments of other types change nothing but the fragment before the next. -/
theorem gather_skip (capacity : ℕ) (used : List UInt8) (found : Bool)
    (previous : Option TlvFragment) {others : List TlvFragment}
    (hothers : ∀ f ∈ others, f.type ≠ type) (more : List TlvFragment) :
    ∃ previous', gather type capacity used found previous (others ++ more) =
      gather type capacity used found previous' more := by
  induction others generalizing previous with
  | nil => exact ⟨previous, rfl⟩
  | cons f others ih =>
      rw [List.forall_mem_cons] at hothers
      rw [List.cons_append, gather, if_neg hothers.1]
      exact ih (some f) hothers.2

/-- Only fragments of other types are left. -/
theorem gather_others {others : List TlvFragment} (hothers : ∀ f ∈ others, f.type ≠ type) :
    gather type capacity used found previous others = if found then some used else none := by
  obtain ⟨previous', hgather⟩ := gather_skip capacity used found previous hothers []
  rw [List.append_nil] at hgather
  rw [hgather, gather]

/-- **A value is gathered from its fragments,** if it fits. -/
theorem gather_fragmentsOf (value : List UInt8) {others : List TlvFragment}
    (hothers : ∀ f ∈ others, f.type ≠ type) (hused : used.length ≤ capacity)
    (hstart : found = true → Continues type previous) :
    gather type capacity used found previous (fragmentsOf type value ++ others) =
      if used.length + value.length ≤ capacity then some (used ++ value) else none := by
  -- the induction is on the cut of the value into fragments
  induction value using fragmentsOf.induct generalizing used found previous with
  | case1 value h =>
      have hgap : ¬(found = true ∧ ¬Continues type previous) := fun hno => hno.2 (hstart hno.1)
      rw [fragmentsOf_short h, List.singleton_append, gather, if_pos rfl]
      dsimp only
      by_cases hfits : used.length + value.length ≤ capacity
      · have hroom : ¬((found = true ∧ ¬Continues type previous) ∨
            capacity - used.length < value.length) := by
          rw [not_or]
          exact ⟨hgap, by omega⟩
        rw [if_neg hroom, gather_others hothers, if_pos rfl, if_pos hfits]
      · rw [if_pos (Or.inr (by omega)), if_neg hfits]
  | case2 value h ih =>
      have hlong : 255 < value.length := Nat.not_le.mp h
      have htake : (value.take 255).length = 255 := by
        rw [List.length_take]
        omega
      have hgap : ¬(found = true ∧ ¬Continues type previous) := fun hno => hno.2 (hstart hno.1)
      rw [fragmentsOf_long hlong, List.cons_append, gather, if_pos rfl]
      dsimp only
      -- a full fragment: the one behind it continues it
      by_cases hroom : capacity - used.length < (value.take 255).length
      · rw [if_pos (Or.inr hroom), if_neg (by omega)]
      · have hnext : (used ++ value.take 255).length ≤ capacity := by
          rw [List.length_append]
          omega
        have hsize : (used ++ value.take 255).length + (value.drop 255).length =
            used.length + value.length := by
          rw [List.length_append, List.length_drop]
          omega
        rw [if_neg (not_or.mpr ⟨hgap, hroom⟩), ih hnext fun _ => ⟨_, rfl, rfl, htake⟩, hsize,
          List.append_assoc, List.take_append_drop]

/-- **A type that recurs** behind anything but a full fragment of its own gives nothing. -/
theorem gather_recurring {again last : TlvFragment} (before more : List TlvFragment)
    (hagain : again.type = type) (hlast : ¬Continues type (some last))
    (hseen : found = true ∨ ∃ f ∈ before ++ [last], f.type = type) :
    gather type capacity used found previous (before ++ last :: again :: more) = none := by
  -- the induction is on the fragments in front of the two
  induction before generalizing used found previous with
  | nil =>
      rw [List.nil_append, gather]
      by_cases htype : last.type = type
      · rw [if_pos htype]
        split
        · rfl
        · rw [gather, if_pos hagain, if_pos (Or.inl ⟨rfl, hlast⟩)]
      · -- the type was seen before, and the last fragment is of another type
        have hfound : found = true := by
          rcases hseen with hfound | ⟨f, hf, hsame⟩
          · exact hfound
          · rw [List.nil_append, List.mem_singleton] at hf
            rw [hf] at hsame
            exact absurd hsame htype
        rw [if_neg htype, gather, if_pos hagain, if_pos (Or.inl ⟨hfound, hlast⟩)]
  | cons f before ih =>
      rw [List.cons_append, gather]
      by_cases htype : f.type = type
      · rw [if_pos htype]
        split
        · rfl
        · exact ih (Or.inl rfl)
      · rw [if_neg htype]
        apply ih
        rcases hseen with hfound | ⟨g, hg, hsame⟩
        · exact Or.inl hfound
        · rcases List.mem_cons.mp hg with rfl | hg
          · exact absurd hsame htype
          · exact Or.inr ⟨g, hg, hsame⟩

end Gather

/-! ## Fields -/

/-- The fragments of fields, one after another. -/
def fieldFragments (fields : List (UInt8 × List UInt8)) : List TlvFragment :=
  fields.flatMap fun field => fragmentsOf field.1 field.2

theorem fieldFragments_type {fields : List (UInt8 × List UInt8)} {type : UInt8}
    (h : ∀ field ∈ fields, field.1 ≠ type) : ∀ f ∈ fieldFragments fields, f.type ≠ type := by
  intro f hf
  obtain ⟨field, hfield, hmem⟩ := List.mem_flatMap.mp hf
  rw [fragmentsOf_type field.1 field.2 f hmem]
  exact h field hfield

/-- **Every field of pairwise distinct types is gathered.** -/
theorem gather_field {fields : List (UInt8 × List UInt8)} (hdistinct : (fields.map Prod.fst).Nodup)
    {type : UInt8} {value : List UInt8} (hfield : (type, value) ∈ fields) (capacity : ℕ) :
    gather type capacity [] false none (fieldFragments fields) =
      if value.length ≤ capacity then some value else none := by
  obtain ⟨before, after, rfl⟩ := List.mem_iff_append.mp hfield
  rw [List.map_append, List.map_cons, List.nodup_append, List.nodup_cons] at hdistinct
  obtain ⟨-, ⟨hafter, -⟩, hbefore⟩ := hdistinct
  have hothers : ∀ f ∈ fieldFragments after, f.type ≠ type := by
    apply fieldFragments_type
    intro field hmem heq
    exact hafter (List.mem_map.mpr ⟨field, hmem, heq⟩)
  -- the types differ, so the other fields are passed over
  have hfront : ∀ f ∈ fieldFragments before, f.type ≠ type := by
    apply fieldFragments_type
    intro field hmem
    exact hbefore field.1 (List.mem_map.mpr ⟨field, hmem, rfl⟩) type List.mem_cons_self
  have hsplit : fieldFragments (before ++ (type, value) :: after) =
      fieldFragments before ++ (fragmentsOf type value ++ fieldFragments after) := by
    rw [fieldFragments, List.flatMap_append, List.flatMap_cons]
    rfl
  obtain ⟨previous', hskip⟩ := gather_skip capacity [] false none hfront
    (fragmentsOf type value ++ fieldFragments after)
  rw [hsplit, hskip, gather_fragmentsOf value hothers (Nat.zero_le _)
    fun h => absurd h Bool.false_ne_true, List.length_nil, Nat.zero_add, List.nil_append]

end PortableAirplay.Library
