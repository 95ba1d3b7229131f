import PortableAirplay.Protocol.RtspRequest
import Mathlib.Tactic.IntervalCases

/-!
# Decimal numbers of 32 bits

What a decimal number means, and that `parse_uint32` of `protocol/rtsp.c` reads exactly those
that 32 bits hold: its test before every step of the loop is the test whether the next value
fits (`parseUint32_go_iff`, `parseUint32_iff`). What `%u` writes is the number again
(`decimal_value`).
-/

set_option autoImplicit false

namespace PortableAirplay.Protocol

open PortableAirplay.Platform
open PortableAirplay.Util

/-- The number behind more digits. -/
def decimalFrom (value : ℕ) (digits : CString) : ℕ :=
  digits.foldl (fun v c => v * 10 + digitValue c) value

/-- A text is a decimal number of 32 bits. -/
structure IsUint32 (text : CString) (value : UInt32) : Prop where
  digits : ∀ c ∈ text, isDigit c = true
  nonempty : text ≠ []
  value_eq : decimalFrom 0 text = value.toNat

theorem le_decimalFrom (value : ℕ) (digits : CString) : value ≤ decimalFrom value digits := by
  induction digits generalizing value with
  | nil => exact Nat.le_refl value
  | cons c digits ih =>
      rw [decimalFrom, List.foldl_cons]
      have hmore := ih (value * 10 + digitValue c)
      rw [decimalFrom] at hmore
      omega

theorem digitValue_le {c : UInt8} (hc : isDigit c = true) : digitValue c ≤ 9 := by
  rw [isDigit, Bool.and_eq_true, decide_eq_true_eq, decide_eq_true_eq, UInt8.le_iff_toNat_le,
    UInt8.le_iff_toNat_le] at hc
  have hupper : c.toNat ≤ 57 := hc.2
  rw [digitValue]
  omega

/-- The loop of `parse_uint32`, from any value so far. -/
theorem parseUint32_go_iff {value : ℕ} (hvalue : value < 2 ^ 32) (text : CString) (r : UInt32) :
    parseUint32.go value text = some r ↔
      (∀ c ∈ text, isDigit c = true) ∧ decimalFrom value text = r.toNat := by
  -- the induction is on the digits, with the value read so far below `2 ^ 32`
  induction text generalizing value with
  | nil =>
      rw [parseUint32.go, Option.some.injEq]
      constructor
      · rintro rfl
        refine ⟨fun c hc => absurd hc List.not_mem_nil, ?_⟩
        rw [UInt32.toNat_ofNat', Nat.mod_eq_of_lt hvalue]
        rfl
      · rintro ⟨-, hr⟩
        apply UInt32.toNat_inj.mp
        rw [UInt32.toNat_ofNat', Nat.mod_eq_of_lt hvalue, ← hr]
        rfl
  | cons c text ih =>
      rw [parseUint32.go]
      have hr := r.toNat_lt
      by_cases hdigit : isDigit c = true
      · have hle := digitValue_le hdigit
        by_cases hroom : value * 10 + digitValue c < 2 ^ 32
        · -- the test by division is the test whether the next value fits
          rw [if_neg (by simp only [hdigit, Bool.true_eq_false, false_or]; omega), ih hroom,
            List.forall_mem_cons]
          exact ⟨fun h => ⟨⟨hdigit, h.1⟩, h.2⟩, fun h => ⟨h.1.2, h.2⟩⟩
        · -- the value only grows from here, so it can not be that of a 32-bit number
          rw [if_pos (Or.inr (by omega))]
          constructor
          · intro h
            cases h
          · rintro ⟨-, hvalue'⟩
            have hgrows := le_decimalFrom (value * 10 + digitValue c) text
            rw [decimalFrom, List.foldl_cons, ← decimalFrom] at hvalue'
            omega
      · rw [if_pos (Or.inl (by simpa using hdigit))]
        constructor
        · intro h
          cases h
        · rintro ⟨hall, -⟩
          exact absurd (hall c List.mem_cons_self) hdigit

/-- **`parse_uint32` reads exactly the decimal numbers of 32 bits.** -/
theorem parseUint32_iff (text : CString) (r : UInt32) :
    parseUint32 text = some r ↔ IsUint32 text r := by
  rw [parseUint32]
  split
  · rename_i hempty
    constructor
    · intro h
      cases h
    · intro h
      exact absurd hempty h.nonempty
  · rename_i hne
    rw [parseUint32_go_iff (by decide)]
    exact ⟨fun h => ⟨h.1, hne, h.2⟩, fun h => ⟨h.digits, h.value_eq⟩⟩

/-! ## Written numbers -/

theorem digit_isDigit {n : ℕ} (h : n < 10) :
    isDigit (UInt8.ofNat (48 + n)) = true ∧ digitValue (UInt8.ofNat (48 + n)) = n := by
  interval_cases n <;> decide

/-- The digits of a number that has at most `fuel` of them. -/
theorem decimalDigits_value (fuel : ℕ) :
    ∀ n, n < 10 ^ fuel → 0 < fuel →
      decimalDigits fuel n ≠ [] ∧ (∀ c ∈ decimalDigits fuel n, isDigit c = true) ∧
        decimalFrom 0 (decimalDigits fuel n) = n := by
  induction fuel with
  | zero => exact fun n _ hpos => absurd hpos (Nat.lt_irrefl 0)
  | succ fuel ih =>
      intro n hn _
      rw [decimalDigits]
      by_cases hsmall : n < 10
      · obtain ⟨hdigit, hvalue⟩ := digit_isDigit hsmall
        rw [if_pos hsmall]
        refine ⟨List.cons_ne_nil _ _, fun c hc => ?_, ?_⟩
        · rw [List.mem_singleton.mp hc]
          exact hdigit
        · rw [decimalFrom, List.foldl_cons, List.foldl_nil, hvalue]
          omega
      · have hpos : 0 < fuel := by
          by_contra hzero
          have hnone : fuel = 0 := by omega
          rw [hnone] at hn
          omega
        have hfront : n / 10 < 10 ^ fuel := by
          rw [Nat.div_lt_iff_lt_mul (by decide), ← Nat.pow_succ]
          exact hn
        obtain ⟨-, hdigits, hvalue⟩ := ih (n / 10) hfront hpos
        obtain ⟨hdigit, hlast⟩ := digit_isDigit (Nat.mod_lt n (by decide : 0 < 10))
        rw [if_neg hsmall]
        refine ⟨by simp, fun c hc => ?_, ?_⟩
        · rcases List.mem_append.mp hc with hc | hc
          · exact hdigits c hc
          · rw [List.mem_singleton.mp hc]
            exact hdigit
        · rw [decimalFrom] at hvalue ⊢
          rw [List.foldl_append, hvalue, List.foldl_cons, List.foldl_nil, hlast]
          omega

/-- **What `%u` writes** are digits, and they give the number. -/
theorem decimal_value {n : ℕ} (h : n < 10 ^ 20) :
    decimal n ≠ [] ∧ (∀ c ∈ decimal n, isDigit c = true) ∧ decimalFrom 0 (decimal n) = n :=
  decimalDigits_value 20 n h (by decide)

end PortableAirplay.Protocol
