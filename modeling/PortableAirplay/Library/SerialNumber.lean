import Mathlib.Data.Int.ModEq
import Mathlib.Tactic.Positivity
import Mathlib.Data.BitVec
import Mathlib.Tactic.Ring

/-!
# Serial numbers

A counter that is sent as its low `w` bits. `serial w n` is the number sent for
the unbounded index `n`. Differences of serial numbers are differences of
indices as long as the indices are close: within `2 ^ w` when one is known to
be ahead (`toNat_serial_sub`), within `2 ^ (w - 1)` otherwise
(`toInt_serial_sub`). Of increasing indices, those that are missing in between are
counted by the gaps (`card_missing_concat`).
-/

set_option autoImplicit false

namespace PortableAirplay.Library

/-- The low `w` bits of the index `n`. -/
def serial (w : ℕ) (n : ℤ) : BitVec w := BitVec.ofInt w n

section Serial

variable {w : ℕ} {a b : ℤ}

theorem serial_sub_serial (w : ℕ) (a b : ℤ) : serial w a - serial w b = serial w (a - b) := by
  unfold serial
  rw [Int.sub_eq_add_neg, BitVec.ofInt_add, BitVec.ofInt_neg, BitVec.sub_eq_add_neg]

theorem serial_add_one (w : ℕ) (a : ℤ) : serial w (a + 1) = serial w a + 1 := by
  unfold serial
  rw [BitVec.ofInt_add]
  rfl

/-- The unsigned distance to an index that is not behind is the distance of the
indices. -/
theorem toNat_serial_sub (hle : b ≤ a) (hlt : a - b < 2 ^ w) :
    ((serial w a - serial w b).toNat : ℤ) = a - b := by
  rw [serial_sub_serial, serial, BitVec.toNat_ofInt]
  have hpos : (0 : ℤ) < 2 ^ w := by positivity
  have hmod : (a - b) % ((2 ^ w : ℕ) : ℤ) = a - b := by
    push_cast
    exact Int.emod_eq_of_lt (by omega) hlt
  rw [hmod]
  omega

/-- The signed distance of close indices is the distance of the indices. -/
theorem toInt_serial_sub (hlow : -(2 ^ w) ≤ 2 * (a - b)) (hhigh : 2 * (a - b) < 2 ^ w) :
    (serial w a - serial w b).toInt = a - b := by
  rw [serial_sub_serial, serial, BitVec.toInt_ofInt]
  apply Int.bmod_eq_of_le_mul_two
  · push_cast
    omega
  · push_cast
    omega

/-- Close indices with one serial number are equal. -/
theorem serial_inj (hlow : -(2 ^ w) < a - b) (hhigh : a - b < 2 ^ w) :
    serial w a = serial w b ↔ a = b := by
  constructor
  · intro h
    have hdvd : ((2 ^ w : ℕ) : ℤ) ∣ a - b := by
      have hzero : BitVec.ofInt w (a - b) = 0#w := by
        have := serial_sub_serial w a b
        rw [h] at this
        simpa [serial] using this.symm
      have hnat := congrArg BitVec.toNat hzero
      rw [BitVec.toNat_ofInt] at hnat
      have hnat0 : ((a - b) % ((2 ^ w : ℕ) : ℤ)).toNat = 0 := hnat.trans (by simp)
      have hnonneg : 0 ≤ (a - b) % ((2 ^ w : ℕ) : ℤ) := Int.emod_nonneg _ (by positivity)
      exact Int.dvd_of_emod_eq_zero (by omega)
    obtain ⟨k, hk⟩ := hdvd
    push_cast at hk
    have hpos : (0 : ℤ) < 2 ^ w := by positivity
    have hk0 : k = 0 := by
      by_contra hne
      rcases lt_or_gt_of_ne hne with hneg | hgt
      · have : (2 : ℤ) ^ w * k ≤ 2 ^ w * (-1) := mul_le_mul_of_nonneg_left (by omega) hpos.le
        omega
      · have : (2 : ℤ) ^ w * 1 ≤ 2 ^ w * k := mul_le_mul_of_nonneg_left (by omega) hpos.le
        omega
    rw [hk0] at hk
    omega
  · rintro rfl
    rfl

end Serial

/-! ## Gaps -/

/-- `length` numbers from `first` on. -/
def consecutive (first : ℤ) (length : ℕ) : Finset ℤ :=
  (Finset.range length).image fun i : ℕ => first + i

theorem mem_consecutive {first x : ℤ} {length : ℕ} :
    x ∈ consecutive first length ↔ first ≤ x ∧ x < first + length := by
  rw [consecutive, Finset.mem_image]
  constructor
  · rintro ⟨i, hi, rfl⟩
    have hlt := Finset.mem_range.mp hi
    omega
  · intro h
    exact ⟨(x - first).toNat, Finset.mem_range.mpr (by omega), by omega⟩

theorem card_consecutive (first : ℤ) (length : ℕ) : (consecutive first length).card = length := by
  have hinjective : Function.Injective fun i : ℕ => first + (i : ℤ) := by
    intro i j hij
    have hij : first + (i : ℤ) = first + (j : ℤ) := hij
    omega
  rw [consecutive, Finset.card_image_of_injective _ hinjective, Finset.card_range]

/-- The indices from the first to the last of a list that are not in it. -/
def missing (indices : List ℤ) : Finset ℤ :=
  match indices.head?, indices.getLast? with
  | some first, some last => consecutive first (last + 1 - first).toNat \ indices.toFinset
  | _, _ => ∅

@[simp] theorem missing_nil : missing [] = ∅ := rfl

@[simp] theorem missing_singleton (a : ℤ) : missing [a] = ∅ := by
  have hlength : (a + 1 - a).toNat = 1 := by omega
  rw [missing]
  dsimp only [List.head?, List.getLast?, List.getLast]
  rw [hlength]
  refine Finset.eq_empty_of_forall_notMem fun x hx => ?_
  rw [Finset.mem_sdiff, mem_consecutive, List.mem_toFinset, List.mem_singleton] at hx
  omega

/-- **One more index**, ahead of the others, leaves out what is between it and the last. -/
theorem card_missing_concat {front : List ℤ} {a b : ℤ}
    (h : (front ++ [a, b]).Pairwise (· < ·)) :
    (missing (front ++ [a, b])).card = (missing (front ++ [a])).card + (b - a - 1).toNat := by
  obtain ⟨-, hab, hfront⟩ := List.pairwise_append.mp h
  have hlt : a < b := List.rel_of_pairwise_cons hab List.mem_cons_self
  have hbefore : ∀ x ∈ front, x < a := fun x hx => hfront x hx a List.mem_cons_self
  obtain ⟨first, hfirst, hle⟩ : ∃ first, (front ++ [a]).head? = some first ∧ first ≤ a := by
    cases front with
    | nil => exact ⟨a, rfl, le_refl a⟩
    | cons x front => exact ⟨x, rfl, (hbefore x List.mem_cons_self).le⟩
  have hfirst' : (front ++ [a, b]).head? = some first := by
    rw [← hfirst]
    cases front with
    | nil => rfl
    | cons x front => rfl
  have hlast : (front ++ [a]).getLast? = some a := List.getLast?_concat
  have hlast' : (front ++ [a, b]).getLast? = some b := by
    rw [show front ++ [a, b] = front ++ [a] ++ [b] by simp]
    exact List.getLast?_concat
  have hsplit : missing (front ++ [a, b]) =
      missing (front ++ [a]) ∪ consecutive (a + 1) (b - a - 1).toNat := by
    rw [missing, missing, hfirst, hfirst', hlast, hlast']
    ext x
    have hmem := fun hx : x ∈ front => hbefore x hx
    simp only [Finset.mem_sdiff, mem_consecutive, List.mem_toFinset, List.mem_append,
      List.mem_cons, List.not_mem_nil, or_false, Finset.mem_union]
    by_cases hx : x ∈ front
    · have := hmem hx
      simp only [hx, true_or, not_true_eq_false, and_false, false_or, false_iff]
      omega
    · simp only [hx, false_or]
      omega
  have hdisjoint : Disjoint (missing (front ++ [a]))
      (consecutive (a + 1) (b - a - 1).toNat) := by
    rw [missing, hfirst, hlast, Finset.disjoint_left]
    intro x hx hbetween
    have hlow := (mem_consecutive.mp hbetween).1
    have hhigh := (mem_consecutive.mp (Finset.mem_sdiff.mp hx).1).2
    omega
  rw [hsplit, Finset.card_union_of_disjoint hdisjoint, card_consecutive]

/-- The cast to a signed number keeps a value below `2 ^ 63`. -/
theorem toInt64_of_lt {x : UInt64} (h : x.toNat < 2 ^ 63) : x.toInt64.toInt = x.toNat := by
  show x.toBitVec.toInt = x.toNat
  rw [BitVec.toInt_eq_toNat_of_lt (by rw [UInt64.toNat_toBitVec]; omega), UInt64.toNat_toBitVec]

end PortableAirplay.Library
