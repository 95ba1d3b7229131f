import Mathlib.Data.List.Basic
import Mathlib.Data.List.Infix

/-!
# Handing over a buffer in parts

A loop that hands a buffer to something that takes a part of it at a time, or nothing for now,
until all is taken or a turn gives up. `transfer` runs such a loop on what the outside answers
turn by turn; where the answers run out the loop goes on.

What was accepted and what is left are the buffer (`transfer_accepted`), and buffers that are
handed over one after the other until one is not whole make a prefix of all of them
(`handOver_accepted`).
-/

set_option autoImplicit false

namespace PortableAirplay.Library

universe u v w x y

/-- A turn: the state after it, how much is accepted of what was left, and why the loop gives
up, if it does. -/
structure Turn (σ : Type u) (ω : Type v) where
  state : σ
  accepted : ℕ
  ends : Option ω

/-- A loop as far as it got. -/
structure Transferred (α : Type w) (σ : Type u) (ω : Type v) where
  state : σ
  accepted : List α
  left : List α
  ends : Option ω

section Transfer

variable {α : Type w} {σ : Type u} {ω : Type v} {ι : Type x}

/-- The loop; a turn knows how much is left. -/
def transfer (turn : σ → ℕ → ι → Turn σ ω) : σ → List α → List ι → Transferred α σ ω
  | s, data, [] => ⟨s, [], data, none⟩
  | s, [], _ :: _ => ⟨s, [], [], none⟩
  | s, a :: data, i :: is =>
      let t := turn s (a :: data).length i
      let rest := (a :: data).drop t.accepted
      match t.ends with
      | some why => ⟨t.state, (a :: data).take t.accepted, rest, some why⟩
      | none =>
          let r := transfer turn t.state rest is
          { r with accepted := (a :: data).take t.accepted ++ r.accepted }

/-- Along the loop every turn meets `guard` in the state before it. -/
def GuardedTurns (turn : σ → ℕ → ι → Turn σ ω) (guard : σ → ι → Prop) :
    σ → List α → List ι → Prop
  | _, _, [] => True
  | _, [], _ :: _ => True
  | s, a :: data, i :: is =>
      guard s i ∧ ((turn s (a :: data).length i).ends = none →
        GuardedTurns turn guard (turn s (a :: data).length i).state
          ((a :: data).drop (turn s (a :: data).length i).accepted) is)

variable (turn : σ → ℕ → ι → Turn σ ω)

/-- **What was accepted and what is left** are the buffer. -/
theorem transfer_accepted (is : List ι) : ∀ (s : σ) (data : List α),
    (transfer turn s data is).accepted ++ (transfer turn s data is).left = data := by
  induction is with
  | nil => exact fun _ _ => rfl
  | cons i is ih =>
      intro s data
      cases data with
      | nil => rfl
      | cons a data =>
          rw [transfer]
          dsimp only
          split
          · exact List.take_append_drop _ _
          · dsimp only
            rw [List.append_assoc, ih]
            exact List.take_append_drop _ _

/-- What the turns accept in multiples is accepted in a multiple. -/
theorem transfer_dvd {k : ℕ} (hturn : ∀ s left i, k ∣ left → k ∣ (turn s left i).accepted)
    (is : List ι) : ∀ (s : σ) (data : List α), k ∣ data.length →
      k ∣ (transfer turn s data is).accepted.length := by
  induction is with
  | nil => exact fun _ _ _ => Nat.dvd_zero k
  | cons i is ih =>
      intro s data hdata
      cases data with
      | nil => exact Nat.dvd_zero k
      | cons a data =>
          have haccepted := hturn s (a :: data).length i hdata
          have htaken : k ∣ ((a :: data).take (turn s (a :: data).length i).accepted).length := by
            rw [List.length_take, Nat.min_def]
            split
            · exact haccepted
            · exact hdata
          rw [transfer]
          dsimp only
          split
          · exact htaken
          · have hrest : k ∣
                ((a :: data).drop (turn s (a :: data).length i).accepted).length := by
              rw [List.length_drop]
              exact Nat.dvd_sub hdata haccepted
            dsimp only
            rw [List.length_append]
            exact Nat.dvd_add htaken (ih _ _ hrest)

/-- A turn that gives up leaves something: then a loop that ends with nothing left has not
given up. -/
theorem transfer_whole
    (hturn : ∀ s left i, 0 < left → (turn s left i).ends ≠ none →
      (turn s left i).accepted < left)
    (is : List ι) : ∀ (s : σ) (data : List α), (transfer turn s data is).left = [] →
      (transfer turn s data is).ends = none := by
  induction is with
  | nil => exact fun _ _ _ => rfl
  | cons i is ih =>
      intro s data
      cases data with
      | nil => exact fun _ => rfl
      | cons a data =>
          have hless := hturn s (a :: data).length i (Nat.zero_lt_succ _)
          rw [transfer]
          dsimp only
          split
          · rename_i why hends
            intro hleft
            rw [hends] at hless
            have hlength := List.drop_eq_nil_iff.mp hleft
            exact absurd (hless (Option.some_ne_none why)) (Nat.not_lt.mpr hlength)
          · exact ih _ _

/-- **The loop is over in time**: where each turn that does not give up uses up some of a
budget, turns for the whole budget are enough. -/
theorem transfer_over (budget : σ → ℕ)
    (hturn : ∀ s left i, (turn s left i).ends = none → (turn s left i).accepted < left →
      budget (turn s left i).state < budget s) (is : List ι) :
    ∀ (s : σ) (data : List α), budget s < is.length →
      (transfer turn s data is).left = [] ∨ (transfer turn s data is).ends ≠ none := by
  induction is with
  | nil => exact fun s _ h => absurd h (Nat.not_lt_zero _)
  | cons i is ih =>
      intro s data h
      cases data with
      | nil => exact Or.inl rfl
      | cons a data =>
          have hless := hturn s (a :: data).length i
          rw [transfer]
          dsimp only
          split
          · exact Or.inr (Option.some_ne_none _)
          · rename_i hends
            dsimp only
            by_cases hall : (turn s (a :: data).length i).accepted < (a :: data).length
            · have hbudget := hless hends hall
              rw [List.length_cons] at h
              exact ih _ _ (by omega)
            · -- everything is accepted, and no turn is needed any more
              rw [List.drop_eq_nil_of_le (Nat.not_lt.mp hall)]
              cases is with
              | nil => exact Or.inl rfl
              | cons j is => exact Or.inl rfl

/-- **Invariant rule**: `inv` holds before every turn, and `post` of wherever the loop is and
of why it gave up. -/
theorem transfer_invariant {guard : σ → ι → Prop} (inv : σ → Prop) (post : σ → Option ω → Prop)
    (hpost : ∀ s, inv s → post s none)
    (hturn : ∀ s left i, inv s → guard s i →
      post (turn s left i).state (turn s left i).ends)
    (hnext : ∀ s left i, inv s → guard s i → (turn s left i).ends = none →
      (turn s left i).accepted < left → inv (turn s left i).state) (is : List ι) :
    ∀ (s : σ) (data : List α), inv s → GuardedTurns turn guard s data is →
      post (transfer turn s data is).state (transfer turn s data is).ends := by
  induction is with
  | nil => exact fun s _ h _ => hpost s h
  | cons i is ih =>
      intro s data h hguarded
      cases data with
      | nil => exact hpost s h
      | cons a data =>
          obtain ⟨hguard, hrest⟩ := hguarded
          have hthis := hturn s (a :: data).length i h hguard
          have hinv := hnext s (a :: data).length i h hguard
          rw [transfer]
          dsimp only
          split
          · rename_i why hends
            rw [hends] at hthis
            exact hthis
          · rename_i hends
            rw [hends] at hthis
            dsimp only
            by_cases hall : (turn s (a :: data).length i).accepted < (a :: data).length
            · exact ih _ _ (hinv hends hall) (hrest hends)
            · rw [List.drop_eq_nil_of_le (Nat.not_lt.mp hall)]
              cases is with
              | nil => exact hthis
              | cons j is => exact hthis

end Transfer

/-! ## Buffers in turn -/

section HandOver

variable {α : Type w} {σ : Type u} {ω : Type v} {β : Type y}

/-- Buffers are handed over one after the other, up to the first that is not whole: what is
accepted, and whether all of them are whole. -/
def handOver (hand : β → Transferred α σ ω) : List β → List α × Bool
  | [] => ([], true)
  | b :: bs =>
      let r := hand b
      if r.left.isEmpty then (r.accepted ++ (handOver hand bs).1, (handOver hand bs).2)
      else (r.accepted, false)

variable {hand : β → Transferred α σ ω} {data : β → List α}

/-- **What is accepted is a prefix** of the buffers in their order. -/
theorem handOver_accepted (hhand : ∀ b, (hand b).accepted ++ (hand b).left = data b)
    (bs : List β) : (handOver hand bs).1 <+: (bs.map data).flatten := by
  induction bs with
  | nil => exact List.prefix_refl _
  | cons b bs ih =>
      have hbuffer := hhand b
      rw [handOver, List.map_cons, List.flatten_cons]
      split
      · rename_i hwhole
        rw [List.isEmpty_iff.mp hwhole, List.append_nil] at hbuffer
        rw [hbuffer]
        exact (List.prefix_append_right_inj _).mpr ih
      · rw [← hbuffer, List.append_assoc]
        exact List.prefix_append _ _

/-- It is all of them exactly where each is whole. -/
theorem handOver_whole (hhand : ∀ b, (hand b).accepted ++ (hand b).left = data b)
    (bs : List β) :
    (handOver hand bs).2 = true ↔ (handOver hand bs).1 = (bs.map data).flatten := by
  induction bs with
  | nil => exact ⟨fun _ => rfl, fun _ => rfl⟩
  | cons b bs ih =>
      have hbuffer := hhand b
      rw [handOver, List.map_cons, List.flatten_cons]
      split
      · rename_i hwhole
        rw [List.isEmpty_iff.mp hwhole, List.append_nil] at hbuffer
        rw [ih, hbuffer, List.append_cancel_left_eq]
      · rename_i hpart
        constructor
        · exact fun h => Bool.noConfusion h
        · intro h
          rw [← hbuffer, List.append_assoc, List.self_eq_append_right,
            List.append_eq_nil_iff] at h
          exact absurd (List.isEmpty_iff.mpr h.1) hpart

end HandOver

end PortableAirplay.Library
