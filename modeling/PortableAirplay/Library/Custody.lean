import Mathlib.Data.List.FinRange
import Mathlib.Data.List.Range
import Mathlib.Data.List.Perm.Basic
import Mathlib.Logic.Function.Basic

/-!
# Custody

Items enter one of `n` places, stay there for a while and leave for a reason. Each item
gets the next ticket when it enters, so that an item is told from an equal one that
comes later. `Settled` says that every ticket given out is in exactly one place or has
left exactly once; the three operations keep it.
-/

set_option autoImplicit false

namespace PortableAirplay.Library

universe u

/-- The tickets given out, the places that hold one, and the tickets that left, in
order, each with its reason. -/
structure Custody (n : ℕ) (φ : Type u) where
  given : ℕ
  held : Fin n → Option ℕ
  fates : List (ℕ × φ)

namespace Custody

variable {n : ℕ} {φ : Type u}

/-- Nothing has entered. -/
def empty : Custody n φ := ⟨0, fun _ => none, []⟩

/-- The tickets in the places. -/
def tickets (c : Custody n φ) : List ℕ := (List.finRange n).filterMap c.held

/-- An item enters a place. -/
def take (c : Custody n φ) (i : Fin n) : Custody n φ :=
  { c with given := c.given + 1, held := Function.update c.held i (some c.given) }

/-- The item of a place leaves. -/
def release (c : Custody n φ) (i : Fin n) (fate : φ) : Custody n φ :=
  match c.held i with
  | none => c
  | some t =>
      { c with held := Function.update c.held i none, fates := c.fates ++ [(t, fate)] }

/-- Every item leaves. -/
def releaseAll (c : Custody n φ) (fate : φ) : Custody n φ :=
  { c with held := fun _ => none, fates := c.fates ++ c.tickets.map fun t => (t, fate) }

/-- Every ticket given out has left once or is held in one place. -/
def Settled (c : Custody n φ) : Prop :=
  (c.fates.map Prod.fst ++ c.tickets).Perm (List.range c.given)

theorem settled_empty : (empty : Custody n φ).Settled := by
  have hnone : (empty : Custody n φ).tickets = [] := List.filterMap_eq_nil_iff.mpr fun _ _ => rfl
  rw [Settled, hnone]
  exact List.Perm.nil

/-- The tickets, with the one of a place in front. -/
theorem filterMap_perm (held : Fin n → Option ℕ) (i : Fin n) :
    ((List.finRange n).filterMap held).Perm
      ((held i).toList ++ ((List.finRange n).erase i).filterMap held) := by
  have hperm := (List.perm_cons_erase (List.mem_finRange i)).filterMap held
  rw [List.filterMap_cons] at hperm
  cases h : held i with
  | none => simpa [h] using hperm
  | some t => simpa [h] using hperm

/-- What the other places hold does not depend on the place. -/
theorem filterMap_erase_update (held : Fin n → Option ℕ) (i : Fin n) (entry : Option ℕ) :
    ((List.finRange n).erase i).filterMap (Function.update held i entry) =
      ((List.finRange n).erase i).filterMap held := by
  apply List.filterMap_congr
  intro j hj
  have hne : j ≠ i := ((List.nodup_finRange n).mem_erase_iff.mp hj).1
  exact Function.update_of_ne hne _ _

/-- **Entering** a free place. -/
theorem Settled.take {c : Custody n φ} (h : c.Settled) {i : Fin n} (hfree : c.held i = none) :
    (c.take i).Settled := by
  have hold := filterMap_perm c.held i
  have hnew := filterMap_perm (Function.update c.held i (some c.given)) i
  rw [hfree, Option.toList_none, List.nil_append] at hold
  rw [filterMap_erase_update, Function.update_self, Option.toList_some] at hnew
  have hrange : List.range (c.take i).given = List.range c.given ++ [c.given] :=
    List.range_succ
  have htickets : (c.take i).tickets.Perm (c.given :: c.tickets) := hnew.trans (hold.symm.cons _)
  rw [Settled, hrange]
  apply (htickets.append_left _).trans
  apply List.perm_middle.trans
  apply (h.cons _).trans
  exact (List.perm_append_singleton _ _).symm

/-- **Leaving** one place. -/
theorem Settled.release {c : Custody n φ} (h : c.Settled) (i : Fin n) (fate : φ) :
    (c.release i fate).Settled := by
  rw [Custody.release]
  cases ht : c.held i with
  | none => exact h
  | some t =>
      have hold := filterMap_perm c.held i
      have hnew := filterMap_perm (Function.update c.held i none) i
      rw [ht, Option.toList_some] at hold
      rw [filterMap_erase_update, Function.update_self, Option.toList_none,
        List.nil_append] at hnew
      rw [Settled, List.map_append, List.append_assoc]
      exact (((hnew.cons t).trans hold.symm).append_left _).trans h

/-- **Leaving** all places. -/
theorem Settled.releaseAll {c : Custody n φ} (h : c.Settled) (fate : φ) :
    (c.releaseAll fate).Settled := by
  have hnone : (c.releaseAll fate).tickets = [] :=
    List.filterMap_eq_nil_iff.mpr fun _ _ => rfl
  have hfates : (c.releaseAll fate).fates.map Prod.fst = c.fates.map Prod.fst ++ c.tickets := by
    rw [Custody.releaseAll, List.map_append, List.map_map]
    exact congrArg _ (List.map_id _)
  rw [Settled, hnone, List.append_nil, hfates]
  exact h

/-- What left stays on record. -/
theorem fates_subset_release (c : Custody n φ) (i : Fin n) (fate : φ) :
    c.fates ⊆ (c.release i fate).fates := by
  rw [Custody.release]
  split
  · exact List.Subset.refl _
  · exact List.subset_append_left _ _

/-- A ticket that was not given out is held nowhere. -/
theorem Settled.held_lt {c : Custody n φ} (h : c.Settled) {i : Fin n} {t : ℕ}
    (ht : c.held i = some t) : t < c.given := by
  have hmem : t ∈ c.tickets := List.mem_filterMap.mpr ⟨i, List.mem_finRange i, ht⟩
  exact List.mem_range.mp (h.subset (List.mem_append_right _ hmem))

end Custody

end PortableAirplay.Library
