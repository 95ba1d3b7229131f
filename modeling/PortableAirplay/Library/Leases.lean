import Mathlib.Data.Multiset.AddSub
import Mathlib.Data.Multiset.Count

/-!
# Leases

A program takes resources and gives them back. `replay` runs a list of such calls on what is
held, and stops where something is given back that is not held. A list of calls that leads
from nothing to nothing has given back all that it took, each resource as often as it took it
(`settled_count`).

A part of a program is replayed on what it uses; `replay_frame` puts the rest beside it.
-/

set_option autoImplicit false

namespace PortableAirplay.Library

universe u

/-- A call that takes a resource, or gives it back. -/
inductive Lease (ρ : Type u) where
  | take (r : ρ)
  | give (r : ρ)
  deriving DecidableEq, Repr

section Leases

variable {ρ : Type u} [DecidableEq ρ]

/-- What is held after some calls, or `none` where something is given back that is not held. -/
def replay : Multiset ρ → List (Lease ρ) → Option (Multiset ρ)
  | held, [] => some held
  | held, .take r :: calls => replay (r ::ₘ held) calls
  | held, .give r :: calls => if r ∈ held then replay (held.erase r) calls else none

@[simp] theorem replay_nil (held : Multiset ρ) : replay held [] = some held := rfl

@[simp] theorem replay_take (held : Multiset ρ) (r : ρ) (calls : List (Lease ρ)) :
    replay held (.take r :: calls) = replay (r ::ₘ held) calls := rfl

/-- A resource that is held is given back. -/
@[simp] theorem replay_give (held : Multiset ρ) (r : ρ) (calls : List (Lease ρ)) :
    replay (r ::ₘ held) (.give r :: calls) = replay held calls := by
  rw [replay, if_pos (Multiset.mem_cons_self r held), Multiset.erase_cons_head]

/-- Calls after calls. -/
theorem replay_append (calls calls' : List (Lease ρ)) :
    ∀ held : Multiset ρ, replay held (calls ++ calls') =
      (replay held calls).bind fun after => replay after calls' := by
  induction calls with
  | nil => exact fun _ => rfl
  | cons call calls ih =>
      intro held
      cases call with
      | take r => exact ih (r ::ₘ held)
      | give r =>
          rw [List.cons_append, replay, replay]
          split
          · exact ih _
          · rfl

/-- **Calls in turn**: what the first leave is held by the next. -/
theorem replay_trans {held middle after : Multiset ρ} {calls calls' : List (Lease ρ)}
    (h : replay held calls = some middle) (h' : replay middle calls' = some after) :
    replay held (calls ++ calls') = some after := by
  rw [replay_append, h]
  exact h'

/-- **Frame rule**: what else is held does not matter and stays. -/
theorem replay_frame (frame : Multiset ρ) (calls : List (Lease ρ)) :
    ∀ {held after : Multiset ρ}, replay held calls = some after →
      replay (held + frame) calls = some (after + frame) := by
  induction calls with
  | nil =>
      intro held after h
      rw [replay_nil, Option.some.injEq] at h
      rw [replay_nil, h]
  | cons call calls ih =>
      intro held after h
      cases call with
      | take r =>
          rw [replay_take, ← Multiset.cons_add]
          exact ih h
      | give r =>
          rw [replay] at h
          split at h
          · rename_i hmem
            rw [replay, if_pos (Multiset.mem_add.mpr (Or.inl hmem)),
              Multiset.erase_add_left_pos frame hmem]
            exact ih h
          · contradiction

/-- All of some resources are given back, in any order. -/
theorem replay_gives (resources : List ρ) :
    ∀ frame : Multiset ρ, replay ((resources : Multiset ρ) + frame) (resources.map Lease.give) =
      some frame := by
  induction resources with
  | nil =>
      intro frame
      rw [List.map_nil, replay_nil, Multiset.coe_nil, Multiset.zero_add]
  | cons r resources ih =>
      intro frame
      rw [← Multiset.cons_coe, Multiset.cons_add, List.map_cons, replay_give]
      exact ih frame

/-- How often a resource is taken. -/
def takes (r : ρ) (calls : List (Lease ρ)) : ℕ := calls.count (.take r)

/-- How often a resource is given back. -/
def gives (r : ρ) (calls : List (Lease ρ)) : ℕ := calls.count (.give r)

/-- What is held balances what was taken and given back. -/
theorem replay_count (r : ρ) (calls : List (Lease ρ)) :
    ∀ {held after : Multiset ρ}, replay held calls = some after →
      held.count r + takes r calls = after.count r + gives r calls := by
  induction calls with
  | nil =>
      intro held after h
      rw [replay_nil, Option.some.injEq] at h
      rw [h]
      rfl
  | cons call calls ih =>
      intro held after h
      rw [takes, gives]
      cases call with
      | take r' =>
          have hrest := ih h
          rw [takes, gives] at hrest
          have hgive : (Lease.take r' :: calls).count (.give r) = calls.count (.give r) :=
            List.count_cons_of_ne (by simp)
          rw [hgive]
          by_cases hr : r = r'
          · subst hr
            rw [List.count_cons_self]
            rw [Multiset.count_cons_self] at hrest
            omega
          · rw [List.count_cons_of_ne (fun heq => hr (Lease.take.inj heq).symm)]
            rw [Multiset.count_cons_of_ne hr] at hrest
            exact hrest
      | give r' =>
          rw [replay] at h
          split at h
          · rename_i hmem
            have hrest := ih h
            rw [takes, gives] at hrest
            have htake : (Lease.give r' :: calls).count (.take r) = calls.count (.take r) :=
              List.count_cons_of_ne (by simp)
            rw [htake]
            by_cases hr : r = r'
            · subst hr
              have hpos := Multiset.count_pos.mpr hmem
              rw [List.count_cons_self]
              rw [Multiset.count_erase_self] at hrest
              omega
            · rw [List.count_cons_of_ne (fun heq => hr (Lease.give.inj heq).symm)]
              rw [Multiset.count_erase_of_ne hr] at hrest
              exact hrest
          · contradiction

/-- **Settled calls**: what leads from nothing to nothing gave back each resource as often as it
took it. -/
theorem settled_count {calls : List (Lease ρ)} (h : replay 0 calls = some 0) (r : ρ) :
    takes r calls = gives r calls := by
  have hcount := replay_count r calls h
  rw [Multiset.count_zero] at hcount
  omega

end Leases

end PortableAirplay.Library
