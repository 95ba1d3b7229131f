import Mathlib.Data.List.Basic

/-!
# Predictive coding

A predictor foresees the next symbol of a sequence from a state, and what is transmitted is
how far it was off. The state adapts to the residual and to the symbol, which both ends
know once the residual has arrived, so the receiver stays in step with the sender.
-/

set_option autoImplicit false

namespace PortableAirplay.Library

universe u v w

/-- The receiving end: the symbol that a residual stands for, and the state after both. -/
structure Predictor (σ : Type u) (ε : Type v) (α : Type w) where
  restore : σ → ε → α
  next : σ → ε → α → σ

namespace Predictor

variable {σ : Type u} {ε : Type v} {α : Type w} (p : Predictor σ ε α)

/-- The symbols of a sequence of residuals. -/
def synthesize : σ → List ε → List α
  | _, [] => []
  | s, e :: es => p.restore s e :: synthesize (p.next s e (p.restore s e)) es

/-- The residuals of a sequence of symbols; `difference` is the choice of the sender. -/
def analyze (difference : σ → α → ε) : σ → List α → List ε
  | _, [] => []
  | s, x :: xs => difference s x :: analyze difference (p.next s (difference s x) x) xs

@[simp] theorem synthesize_length (s : σ) (es : List ε) :
    (p.synthesize s es).length = es.length := by
  induction es generalizing s with
  | nil => rfl
  | cons e es ih => rw [synthesize, List.length_cons, ih, List.length_cons]

@[simp] theorem analyze_length (difference : σ → α → ε) (s : σ) (xs : List α) :
    (p.analyze difference s xs).length = xs.length := by
  induction xs generalizing s with
  | nil => rfl
  | cons x xs ih => rw [analyze, List.length_cons, ih, List.length_cons]

variable {p} {difference : σ → α → ε} {valid : α → Prop}

/-- **Analysis is undone**: where each residual restores its symbol, the sequence comes
back, whatever the states in between are. -/
theorem synthesize_analyze (h : ∀ s x, valid x → p.restore s (difference s x) = x) {xs : List α}
    (hxs : ∀ x ∈ xs, valid x) (s : σ) : p.synthesize s (p.analyze difference s xs) = xs := by
  induction xs generalizing s with
  | nil => rfl
  | cons x xs ih =>
      have hx := h s x (hxs x List.mem_cons_self)
      rw [analyze, synthesize, hx, ih fun y hy => hxs y (List.mem_cons_of_mem x hy)]

/-- What holds of the residual of every symbol holds of all residuals. -/
theorem analyze_forall {small : ε → Prop} (h : ∀ s x, small (difference s x)) (s : σ)
    (xs : List α) : ∀ e ∈ p.analyze difference s xs, small e := by
  induction xs generalizing s with
  | nil => exact fun e he => absurd he List.not_mem_nil
  | cons x xs ih =>
      intro e he
      rw [analyze] at he
      rcases List.mem_cons.mp he with rfl | hin
      · exact h s x
      · exact ih _ e hin

end Predictor

end PortableAirplay.Library
