import Mathlib.Logic.Function.Iterate
import Mathlib.Order.Basic
import Mathlib.Tactic.NormNum

/-!
# The history of the Rice decoding

The adaptive history of `entropy_rice_decode` grows most when every sample is `0xffff`, the
largest value that does not reset it. `historyPeak` is the history after such samples. It
never exceeds `historyLimit`, so the history itself fits `int`; its product with the multiplier
may not, and `HistoryFits` says when it does.
-/

set_option autoImplicit false

namespace PortableAirplay.Audio

/-- The history after one more sample of `0xffff`. -/
def historyStep (m h : ℕ) : ℕ := max 0xffff (h + 0xffff * m - h * m / 512)

/-- The history after `n` samples of `0xffff`. -/
def historyPeak (m initial n : ℕ) : ℕ := (historyStep m)^[n] initial

/-- The bound of the history. -/
def historyLimit : ℕ := 512 * 0xffff

/-- The product of the history with its multiplier fits `int` for every sample of a frame,
also with the largest Rice modifier of a packet. -/
def HistoryFits (historymult initial frames : ℕ) : Prop :=
  historyPeak (7 * historymult / 4) initial (frames - 1) * (7 * historymult / 4) < 2 ^ 31

instance (historymult initial frames : ℕ) : Decidable (HistoryFits historymult initial frames) :=
  inferInstanceAs (Decidable (_ < _))

section Peak

variable {m m' h h' n n' : ℕ}

theorem historyStep_mono (hm : m ≤ m') (hlimit : m' ≤ 512) (hh : h ≤ h') (hh' : h' ≤ historyLimit) :
    historyStep m h ≤ historyStep m' h' := by
  -- the history first, with the old multiplier, and then the multiplier
  have hhistory : h' * m ≤ h * m + (h' - h) * 512 := by
    have hsplit : h' * m = h * m + (h' - h) * m := by
      rw [← Nat.add_mul]
      congr 1
      omega
    rw [hsplit]
    exact Nat.add_le_add_left (Nat.mul_le_mul_left _ (hm.trans hlimit)) _
  have hmult : h' * m' ≤ h' * m + (512 * 0xffff) * (m' - m) := by
    have hsplit : h' * m' = h' * m + h' * (m' - m) := by
      rw [← Nat.mul_add]
      congr 1
      omega
    rw [hsplit]
    exact Nat.add_le_add_left (Nat.mul_le_mul_right _ hh') _
  rw [historyStep, historyStep]
  apply max_le_max (Nat.le_refl _)
  generalize h * m = a at hhistory ⊢
  generalize h' * m = b at hhistory hmult
  generalize h' * m' = c at hmult ⊢
  omega

theorem historyStep_le (hm : m ≤ 512) (hh : h ≤ historyLimit) : historyStep m h ≤ historyLimit := by
  have hmono := historyStep_mono (Nat.le_refl m) hm hh (Nat.le_refl historyLimit)
  refine hmono.trans ?_
  rw [historyStep, historyLimit]
  omega

theorem le_historyStep (hh : h ≤ historyLimit) : h ≤ historyStep m h := by
  have hproduct : h * m ≤ 512 * 0xffff * m := Nat.mul_le_mul_right m hh
  rw [historyStep]
  apply le_max_of_le_right
  generalize h * m = a at hproduct ⊢
  omega

theorem historyPeak_succ (m initial n : ℕ) :
    historyPeak m initial (n + 1) = historyStep m (historyPeak m initial n) :=
  Function.iterate_succ_apply' _ _ _

theorem historyPeak_le (hm : m ≤ 512) {initial : ℕ} (hinitial : initial ≤ historyLimit) (n : ℕ) :
    historyPeak m initial n ≤ historyLimit := by
  induction n with
  | zero => exact hinitial
  | succ n ih =>
      rw [historyPeak_succ]
      exact historyStep_le hm ih

theorem historyPeak_mono_mult (hm : m ≤ m') (hlimit : m' ≤ 512) {initial initial' : ℕ}
    (hinitial : initial ≤ initial') (hinitial' : initial' ≤ historyLimit) (n : ℕ) :
    historyPeak m initial n ≤ historyPeak m' initial' n := by
  induction n with
  | zero => exact hinitial
  | succ n ih =>
      rw [historyPeak_succ, historyPeak_succ]
      exact historyStep_mono hm hlimit ih (historyPeak_le hlimit hinitial' n)

theorem historyPeak_mono (hm : m ≤ 512) {initial : ℕ} (hinitial : initial ≤ historyLimit)
    (hn : n ≤ n') : historyPeak m initial n ≤ historyPeak m initial n' := by
  induction n', hn using Nat.le_induction with
  | base => exact Nat.le_refl _
  | succ k hk ih =>
      rw [historyPeak_succ]
      exact ih.trans (le_historyStep (historyPeak_le hm hinitial k))

/-- **The products of a frame**: with the product that `HistoryFits` bounds, all of them fit. -/
theorem HistoryFits.product {historymult initial frames : ℕ}
    (h : HistoryFits historymult initial frames) (hmult : historymult < 256)
    (hinitial : initial ≤ historyLimit) (hm : m ≤ 7 * historymult / 4) (hn : n < frames) :
    historyPeak m initial n * m < 2 ^ 31 := by
  have hlimit : 7 * historymult / 4 ≤ 512 := by omega
  have hsample : historyPeak m initial n ≤ historyPeak m initial (frames - 1) :=
    historyPeak_mono (hm.trans hlimit) hinitial (by omega)
  have hworst : historyPeak m initial (frames - 1) ≤
      historyPeak (7 * historymult / 4) initial (frames - 1) :=
    historyPeak_mono_mult hm hlimit (Nat.le_refl _) hinitial _
  exact lt_of_le_of_lt (Nat.mul_le_mul (hsample.trans hworst) hm) h

/-- **For frames of 27 samples and more the multiplier decides alone.** -/
theorem historyFits_iff {historymult initial frames : ℕ} (hmult : historymult < 256)
    (hinitial : initial ≤ historyLimit) (hframes : 27 ≤ frames) :
    HistoryFits historymult initial frames ↔ historymult ≤ 37 := by
  have hlimit : 7 * historymult / 4 ≤ 512 := by omega
  constructor
  · intro hfits
    by_contra hlarge
    -- the multiplier 66 of 38 is the smallest one above 64
    have hsmall : 66 ≤ 7 * historymult / 4 := by omega
    have hfirst : historyPeak 66 0 26 ≤ historyPeak (7 * historymult / 4) initial 26 :=
      historyPeak_mono_mult hsmall hlimit (Nat.zero_le _) hinitial 26
    have hlast : historyPeak (7 * historymult / 4) initial 26 ≤
        historyPeak (7 * historymult / 4) initial (frames - 1) :=
      historyPeak_mono hlimit hinitial (by omega)
    have hproduct := Nat.mul_le_mul (hfirst.trans hlast) hsmall
    have hvalue : 2 ^ 31 ≤ historyPeak 66 0 26 * 66 := by decide +kernel
    exact absurd (hvalue.trans hproduct) (Nat.not_le.mpr hfits)
  · intro hsmall
    have hpeak := historyPeak_le hlimit hinitial (frames - 1)
    have hproduct : historyPeak (7 * historymult / 4) initial (frames - 1) *
        (7 * historymult / 4) ≤ historyLimit * 64 := Nat.mul_le_mul hpeak (by omega)
    exact lt_of_le_of_lt hproduct (by decide)

end Peak

end PortableAirplay.Audio
