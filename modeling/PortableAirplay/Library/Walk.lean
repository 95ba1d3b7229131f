import Mathlib.Data.Finset.Card
import Mathlib.Data.Finset.Range

/-!
# Walks of a deterministic step

A step leads from a place to at most one other place. A walk that comes to an end never
stands at one place twice, so it takes fewer steps than there are places
(`steps_lt_card`); a walk that comes back to a place never ends (`never_ends`). A bound on
the number of steps may therefore be the number of places.
-/

set_option autoImplicit false

namespace PortableAirplay.Library

universe u

variable {α : Type u} (step : α → Option α)

/-- The place after `n` steps, if the walk goes on for that long. -/
def placeAfter : ℕ → α → Option α
  | 0, a => some a
  | n + 1, a => (step a).bind (placeAfter n)

/-- The walk from `a` ends at `b` after `n` steps. -/
structure EndsAfter (n : ℕ) (a b : α) : Prop where
  reached : placeAfter step n a = some b
  stops : step b = none

variable {step}

@[simp] theorem placeAfter_zero (a : α) : placeAfter step 0 a = some a := rfl

theorem placeAfter_succ (n : ℕ) (a : α) :
    placeAfter step (n + 1) a = (step a).bind (placeAfter step n) := rfl

theorem placeAfter_add (m n : ℕ) (a : α) :
    placeAfter step (m + n) a = (placeAfter step m a).bind (placeAfter step n) := by
  induction m generalizing a with
  | zero =>
      rw [Nat.zero_add]
      rfl
  | succ m ih =>
      rw [Nat.succ_add, placeAfter_succ, placeAfter_succ]
      cases step a with
      | none => rfl
      | some c => exact ih c

/-- A walk that goes on for `m + n` steps stands somewhere after `m` of them. -/
theorem placeAfter_split {m n : ℕ} {a b : α} (h : placeAfter step (m + n) a = some b) :
    ∃ c, placeAfter step m a = some c ∧ placeAfter step n c = some b := by
  rw [placeAfter_add] at h
  exact Option.bind_eq_some_iff.mp h

theorem placeAfter_stopped {b : α} (h : step b = none) (n : ℕ) :
    placeAfter step (n + 1) b = none := by
  rw [placeAfter_succ, h]
  rfl

/-- One more step before a walk that ends. -/
theorem EndsAfter.before {n : ℕ} {a b c : α} (h : EndsAfter step n b c) (hstep : step a = some b) :
    EndsAfter step (n + 1) a c := by
  refine ⟨?_, h.stops⟩
  rw [placeAfter_succ, hstep]
  exact h.reached

/-- A walk that ends and has not ended yet has a step less to go. -/
theorem EndsAfter.behind {n : ℕ} {a b c : α} (h : EndsAfter step n a c) (hstep : step a = some b) :
    ∃ m, n = m + 1 ∧ EndsAfter step m b c := by
  cases n with
  | zero =>
      have hend : some a = some c := h.reached
      rw [Option.some.injEq] at hend
      rw [hend, h.stops] at hstep
      simp at hstep
  | succ m =>
      have hreached := h.reached
      rw [placeAfter_succ, hstep] at hreached
      exact ⟨m, rfl, hreached, h.stops⟩

/-- A walk that ends does so after one number of steps. -/
theorem EndsAfter.steps_unique {m n : ℕ} {a b c : α} (hb : EndsAfter step m a b)
    (hc : EndsAfter step n a c) : m = n := by
  rcases Nat.lt_trichotomy m n with hlt | heq | hgt
  · obtain ⟨k, rfl⟩ := Nat.exists_eq_add_of_lt hlt
    have hpast := hc.reached
    rw [Nat.add_assoc, placeAfter_add, hb.reached] at hpast
    simp [placeAfter_stopped hb.stops] at hpast
  · exact heq
  · obtain ⟨k, rfl⟩ := Nat.exists_eq_add_of_lt hgt
    have hpast := hb.reached
    rw [Nat.add_assoc, placeAfter_add, hc.reached] at hpast
    simp [placeAfter_stopped hc.stops] at hpast

/-- What is left of a walk that ends. -/
theorem EndsAfter.rest {m n : ℕ} {a b c : α} (h : EndsAfter step (m + n) a b)
    (hc : placeAfter step m a = some c) : EndsAfter step n c b := by
  obtain ⟨d, hd, hrest⟩ := placeAfter_split h.reached
  rw [hc, Option.some.injEq] at hd
  rw [hd]
  exact ⟨hrest, h.stops⟩

/-- A walk that ends stands at a place only once. -/
theorem EndsAfter.injective {n i j : ℕ} {a b : α} (h : EndsAfter step n a b) (hi : i ≤ n)
    (hj : j ≤ n) (heq : placeAfter step i a = placeAfter step j a) : i = j := by
  obtain ⟨k, rfl⟩ := Nat.exists_eq_add_of_le hi
  obtain ⟨l, hl⟩ := Nat.exists_eq_add_of_le hj
  obtain ⟨c, hc, -⟩ := placeAfter_split h.reached
  have hfirst := h.rest hc
  rw [hl] at h
  have hsecond := h.rest (heq.symm.trans hc)
  -- from the place itself the walk has one number of steps to its end
  have hsame := hfirst.steps_unique hsecond
  omega

/-- **A walk that ends takes fewer steps than there are places.** -/
theorem steps_lt_card {n : ℕ} {a b : α} (h : EndsAfter step n a b) (s : Finset α)
    (hs : ∀ i ≤ n, ∀ c, placeAfter step i a = some c → c ∈ s) : n < s.card := by
  have hmaps : Set.MapsTo (fun i => placeAfter step i a) (Finset.range (n + 1))
      (s.map Function.Embedding.some) := by
    intro i hi
    rw [Finset.mem_coe, Finset.mem_range] at hi
    obtain ⟨k, rfl⟩ := Nat.exists_eq_add_of_le (Nat.le_of_lt_succ hi)
    obtain ⟨c, hc, -⟩ := placeAfter_split h.reached
    rw [Finset.mem_coe, Finset.mem_map]
    exact ⟨c, hs i (Nat.le_add_right i k) c hc, hc.symm⟩
  have hinjective : Set.InjOn (fun i => placeAfter step i a) (Finset.range (n + 1)) := by
    intro i hi j hj heq
    rw [Finset.mem_coe, Finset.mem_range] at hi hj
    exact h.injective (Nat.le_of_lt_succ hi) (Nat.le_of_lt_succ hj) heq
  have hcard := Finset.card_le_card_of_injOn _ hmaps hinjective
  rw [Finset.card_range, Finset.card_map] at hcard
  exact hcard

/-- **A walk that comes back to a place never ends.** -/
theorem never_ends {m k n : ℕ} {a b c : α} (hreach : placeAfter step m a = some c)
    (hreturn : placeAfter step (k + 1) c = some c) : ¬EndsAfter step n a b := by
  intro h
  -- round after round the walk goes on for as long as one likes
  have hrounds : ∀ r, placeAfter step (r * (k + 1)) c = some c := by
    intro r
    induction r with
    | zero => rw [Nat.zero_mul, placeAfter_zero]
    | succ r ih =>
        rw [Nat.succ_mul, placeAfter_add, ih]
        exact hreturn
  have hlong : placeAfter step (m + n.succ * (k + 1)) a = some c := by
    rw [placeAfter_add, hreach]
    exact hrounds n.succ
  have hpast : m + n.succ * (k + 1) = n + ((m + k + n * k) + 1) := by
    rw [Nat.succ_mul, Nat.mul_succ]
    omega
  rw [hpast, placeAfter_add, h.reached] at hlong
  simp [placeAfter_stopped h.stops] at hlong

end PortableAirplay.Library
