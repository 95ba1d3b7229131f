import PortableAirplay.Library.CheckedMemory

/-!
# Writers into a bounded buffer

Programs that fill a buffer from its front and may refuse at any point. `Building` keeps
the two ways to stop apart: to refuse is part of such a program, and a `Fault` is a write
outside the buffer. `Building.Meets` is partial correctness with respect to refusals: a
program that meets a condition never stops with a fault, and what it gives satisfies the
condition. `Building.Gives` is total: the program does not refuse either.
-/

set_option autoImplicit false

namespace PortableAirplay.Library

/-- How a writer stops. -/
inductive Stop where
  | refused
  | fault (fault : Fault)
  deriving DecidableEq

/-- A writer. -/
abbrev Building (α : Type) := Except Stop α

/-- The writer refuses. -/
def refuse {α : Type} : Building α := .error .refused

/-- The writer refuses under a condition. -/
def refuseIf (c : Prop) [Decidable c] : Building Unit := if c then refuse else .ok ()

/-- Bytes are written behind those in the buffer. -/
def emit (capacity : ℕ) (out bytes : List UInt8) : Building (List UInt8) :=
  if out.length + bytes.length ≤ capacity then .ok (out ++ bytes)
  else .error (.fault (.outside out.length bytes.length))

/-- Bytes that have been written are replaced. -/
def patch (out : List UInt8) (pos : ℕ) (bytes : List UInt8) : Building (List UInt8) :=
  if pos + bytes.length ≤ out.length then
    .ok (out.take pos ++ bytes ++ out.drop (pos + bytes.length))
  else .error (.fault (.outside pos bytes.length))

/-- No fault, and what is given satisfies the condition. -/
def Building.Meets {α : Type} (x : Building α) (post : α → Prop) : Prop :=
  match x with
  | .ok a => post a
  | .error .refused => True
  | .error (.fault _) => False

/-- There is a result, and it satisfies the condition. -/
def Building.Gives {α : Type} (x : Building α) (post : α → Prop) : Prop :=
  ∃ a, x = .ok a ∧ post a

section Rules

variable {α β : Type} {x : Building α} {post : α → Prop}

theorem Building.Meets.cases (h : x.Meets post) :
    (∃ a, x = .ok a ∧ post a) ∨ x = .error .refused := by
  match x, h with
  | .ok a, h => exact .inl ⟨a, rfl, h⟩
  | .error .refused, _ => exact .inr rfl

theorem building_bind (a : α) (f : α → Building β) : (Except.ok a : Building α) >>= f = f a := rfl

theorem meets_pure {a : α} (h : post a) : (pure a : Building α).Meets post := h

theorem meets_refuse (post : α → Prop) : (refuse : Building α).Meets post := trivial

theorem meets_bind {f : α → Building β} {goal : β → Prop} (h : x.Meets post)
    (hnext : ∀ a, post a → (f a).Meets goal) : (x >>= f).Meets goal := by
  rcases h.cases with ⟨a, rfl, ha⟩ | rfl
  · exact hnext a ha
  · trivial

theorem meets_mono {goal : α → Prop} (h : x.Meets post) (himp : ∀ a, post a → goal a) :
    x.Meets goal := by
  rcases h.cases with ⟨a, rfl, ha⟩ | rfl
  · exact himp a ha
  · trivial

theorem meets_refuseIf {c : Prop} [Decidable c] {f : Unit → Building β} {goal : β → Prop}
    (h : ¬c → (f ()).Meets goal) : (refuseIf c >>= f).Meets goal := by
  rw [refuseIf]
  by_cases hc : c
  · rw [if_pos hc]
    trivial
  · rw [if_neg hc]
    exact h hc

theorem gives_pure {a : α} (h : post a) : (pure a : Building α).Gives post := ⟨a, rfl, h⟩

theorem gives_bind {f : α → Building β} {goal : β → Prop} (h : x.Gives post)
    (hnext : ∀ a, post a → (f a).Gives goal) : (x >>= f).Gives goal := by
  obtain ⟨a, rfl, ha⟩ := h
  exact hnext a ha

theorem gives_mono {goal : α → Prop} (h : x.Gives post) (himp : ∀ a, post a → goal a) :
    x.Gives goal := by
  obtain ⟨a, ha, hpost⟩ := h
  exact ⟨a, ha, himp a hpost⟩

theorem gives_refuseIf {c : Prop} [Decidable c] {f : Unit → Building β} {goal : β → Prop}
    (hc : ¬c) (h : (f ()).Gives goal) : (refuseIf c >>= f).Gives goal := by
  rw [refuseIf, if_neg hc]
  exact h

theorem refuseIf_neg {c : Prop} [Decidable c] (h : ¬c) : refuseIf c = .ok () := if_neg h

theorem emit_ok {capacity : ℕ} {out bytes : List UInt8}
    (h : out.length + bytes.length ≤ capacity) : emit capacity out bytes = .ok (out ++ bytes) :=
  if_pos h

theorem emit_gives {capacity n : ℕ} {out bytes : List UInt8} (hn : bytes.length = n)
    (h : out.length + n ≤ capacity) :
    (emit capacity out bytes).Gives fun written => written.length = out.length + n := by
  subst hn
  exact ⟨_, emit_ok h, List.length_append⟩

theorem patch_gives {out bytes : List UInt8} {pos : ℕ} (h : pos + bytes.length ≤ out.length) :
    (patch out pos bytes).Gives fun written => written.length = out.length := by
  refine ⟨_, if_pos h, ?_⟩
  dsimp only
  rw [List.length_append, List.length_append, List.length_take, List.length_drop]
  omega

/-- Bytes in the middle are replaced by as many others. -/
theorem patch_middle {out middle : List UInt8} (tail : List UInt8) {bytes : List UInt8}
    (h : bytes.length = middle.length) :
    patch (out ++ (middle ++ tail)) out.length bytes = .ok (out ++ (bytes ++ tail)) := by
  have hroom : out.length + bytes.length ≤ (out ++ (middle ++ tail)).length := by
    rw [List.length_append, List.length_append]
    omega
  rw [patch, if_pos hroom, List.take_left, h, ← List.drop_drop, List.drop_left, List.drop_left,
    List.append_assoc]

end Rules

end PortableAirplay.Library
