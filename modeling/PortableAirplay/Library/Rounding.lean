import Mathlib.Algebra.Order.Field.Rat
import Mathlib.Data.Rat.Cast.Order
import Mathlib.Tactic.FieldSimp
import Mathlib.Tactic.Linarith
import Mathlib.Tactic.Positivity
import Mathlib.Tactic.Ring

/-!
# Truncating division

C's division rounds towards zero. It is less than one away from the quotient
(`abs_tdiv_sub_lt_one`), and a number may be scaled before or after its multiples are
split off (`tdiv_mul_add_tmod_mul_tdiv`).
-/

set_option autoImplicit false

namespace PortableAirplay.Library

section Truncation

variable {b : ℤ}

/-- What is cut off is less than the divisor. -/
theorem abs_tmod_lt (a : ℤ) (hb : 0 < b) : |a.tmod b| < b := by
  have hlt : (a.tmod b).natAbs < b.natAbs := by
    rw [Int.natAbs_tmod]
    exact Nat.mod_lt _ (by omega)
  rw [abs_lt]
  omega

/-- **The error of one division** is below one. -/
theorem abs_tdiv_sub_lt_one (a : ℤ) (hb : 0 < b) : |((a.tdiv b : ℤ) : ℚ) - a / b| < 1 := by
  have hpos : (0 : ℚ) < b := by exact_mod_cast hb
  have hsplit : ((a.tmod b : ℤ) : ℚ) + (a.tdiv b : ℤ) * b = a := by
    exact_mod_cast Int.tmod_add_tdiv_mul a b
  have hrest : |((a.tmod b : ℤ) : ℚ)| < b := by exact_mod_cast abs_tmod_lt a hb
  have herror : ((a.tdiv b : ℤ) : ℚ) - a / b = -((a.tmod b : ℤ) / b) := by
    rw [← hsplit]
    field_simp
    ring
  rw [herror, abs_neg, abs_div, abs_of_pos hpos, div_lt_one hpos]
  exact hrest

/-- Scaling after the multiples of the divisor are split off. -/
theorem tdiv_mul_add_tmod_mul_tdiv (a c : ℤ) (hb : 0 < b) (hc : 0 ≤ c) :
    a.tdiv b * c + (a.tmod b * c).tdiv b = (a * c).tdiv b := by
  have hnonneg : ∀ n : ℤ, 0 ≤ n → n.tdiv b * c + (n.tmod b * c).tdiv b = (n * c).tdiv b := by
    intro n hn
    have hrest : 0 ≤ n.tmod b := Int.tmod_nonneg b hn
    rw [Int.tdiv_eq_ediv_of_nonneg (mul_nonneg hn hc),
      Int.tdiv_eq_ediv_of_nonneg (mul_nonneg hrest hc)]
    have hsplit : n * c = n.tmod b * c + n.tdiv b * c * b := by
      calc n * c = (n.tmod b + n.tdiv b * b) * c := by rw [Int.tmod_add_tdiv_mul]
        _ = n.tmod b * c + n.tdiv b * c * b := by ring
    rw [hsplit, Int.add_mul_ediv_right _ _ hb.ne', add_comm]
  rcases le_total 0 a with ha | ha
  · exact hnonneg a ha
  · -- both sides change their sign with `a`
    have hflip := hnonneg (-a) (by omega)
    rw [Int.neg_tdiv, Int.neg_tmod, neg_mul, neg_mul, neg_mul, Int.neg_tdiv, Int.neg_tdiv] at hflip
    omega

end Truncation

end PortableAirplay.Library
