import Mathlib.Data.List.Basic

/-!
# Framing of a byte stream

A framing rule looks at the unread part of a stream and says that the next frame
is not complete yet, that the stream is malformed, or that a frame of known size
is complete. A rule is stable: once it has accepted or rejected, more input does
not change its answer.

`frames` cuts a whole stream. `frames_append` says that cutting a stream in
pieces as it arrives gives the same frames, so what a receiver extracts does not
depend on how the stream was split (`frames_resume`).
-/

set_option autoImplicit false

namespace PortableAirplay.Library

universe u v

variable {β : Type u} {φ : Type v}

/-- The answer of a framing rule. -/
inductive Verdict (φ : Type v) where
  | incomplete
  | reject
  | accept (frame : φ) (size : ℕ)
  deriving DecidableEq

/-- A stable framing rule. -/
structure Framing (β : Type u) (φ : Type v) where
  parse : List β → Verdict φ
  size_pos : ∀ {s f n}, parse s = .accept f n → 0 < n
  size_le : ∀ {s f n}, parse s = .accept f n → n ≤ s.length
  accept_append : ∀ {s f n}, parse s = .accept f n → ∀ t, parse (s ++ t) = .accept f n
  reject_append : ∀ {s}, parse s = .reject → ∀ t, parse (s ++ t) = .reject

/-- How the cutting of a stream ends: with bytes that are no frame yet, or at a
malformed place. -/
inductive Ending (β : Type u) where
  | waiting (rest : List β)
  | malformed
  deriving DecidableEq

/-! ## Frames and their bytes -/

/-- Frames whose bytes stand one after the other are told apart by the stream alone, if
more input does not change what was accepted. -/
theorem parts_unique {parse : List β → Verdict φ}
    (hpos : ∀ {s f n}, parse s = .accept f n → 0 < n)
    (hstable : ∀ {s f n}, parse s = .accept f n → ∀ t, parse (s ++ t) = .accept f n)
    (parts : List (φ × List β)) :
    ∀ others : List (φ × List β),
      (∀ part ∈ parts, parse part.2 = .accept part.1 part.2.length) →
      (∀ part ∈ others, parse part.2 = .accept part.1 part.2.length) →
      (parts.map Prod.snd).flatten <+: (others.map Prod.snd).flatten → parts <+: others := by
  induction parts with
  | nil => exact fun others _ _ _ => List.nil_prefix
  | cons part rest ih =>
      intro others hparts hothers hstart
      obtain ⟨hpart, hrest⟩ := List.forall_mem_cons.mp hparts
      obtain ⟨tail, htail⟩ := hstart
      rw [List.map_cons, List.flatten_cons, List.append_assoc] at htail
      cases others with
      | nil =>
          have hsize := hpos hpart
          have hempty := congrArg List.length htail
          rw [List.length_append, List.map_nil, List.flatten_nil, List.length_nil] at hempty
          omega
      | cons other others =>
          obtain ⟨hother, hothers⟩ := List.forall_mem_cons.mp hothers
          rw [List.map_cons, List.flatten_cons] at htail
          have hsame := hstable hpart ((rest.map Prod.snd).flatten ++ tail)
          rw [htail, hstable hother, Verdict.accept.injEq] at hsame
          obtain ⟨hbytes, hflatten⟩ := List.append_inj htail hsame.2.symm
          rw [Prod.ext hsame.1.symm hbytes, List.cons_prefix_cons]
          exact ⟨rfl, ih others hrest hothers ⟨tail, hflatten⟩⟩

/-! ## Cutting a stream -/

namespace Framing

variable (F : Framing β φ)

/-- At most `fuel` cuts. -/
def cut : ℕ → List β → List φ × Ending β
  | 0, s => ([], .waiting s)
  | fuel + 1, s =>
      match F.parse s with
      | .incomplete => ([], .waiting s)
      | .reject => ([], .malformed)
      | .accept f n =>
          let rest := cut fuel (s.drop n)
          (f :: rest.1, rest.2)

/-- The frames of a stream, and what comes after the last one. A frame takes at
least one byte, so the fuel does not run out (`cut_eq_frames`). -/
def frames (s : List β) : List φ × Ending β := F.cut (s.length + 1) s

/-- Go on with `t` after an earlier cut. -/
def resume (cut : List φ × Ending β) (t : List β) : List φ × Ending β :=
  match cut.2 with
  | .waiting rest =>
      let more := F.frames (rest ++ t)
      (cut.1 ++ more.1, more.2)
  | .malformed => (cut.1, .malformed)

/-- Induction along the cuts of a stream. -/
theorem cut_induction {motive : List β → Prop}
    (incomplete : ∀ s, F.parse s = .incomplete → motive s)
    (reject : ∀ s, F.parse s = .reject → motive s)
    (accept : ∀ s f n, F.parse s = .accept f n → motive (s.drop n) → motive s)
    (s : List β) : motive s := by
  generalize hk : s.length = k
  induction k using Nat.strongRecOn generalizing s with
  | ind k ih =>
      cases h : F.parse s with
      | incomplete => exact incomplete s h
      | reject => exact reject s h
      | accept f n =>
          have hpos := F.size_pos h
          have hle := F.size_le h
          exact accept s f n h (ih (s.length - n) (by omega) (s.drop n) (List.length_drop ..))

theorem cut_eq_frames (s : List β) : ∀ fuel, s.length < fuel → F.cut fuel s = F.frames s := by
  induction s using F.cut_induction with
  | incomplete s h =>
      intro fuel hfuel
      obtain ⟨k, rfl⟩ : ∃ k, fuel = k + 1 := ⟨fuel - 1, by omega⟩
      simp only [frames, cut, h]
  | reject s h =>
      intro fuel hfuel
      obtain ⟨k, rfl⟩ : ∃ k, fuel = k + 1 := ⟨fuel - 1, by omega⟩
      simp only [frames, cut, h]
  | accept s f n h ih =>
      intro fuel hfuel
      have hpos := F.size_pos h
      have hle := F.size_le h
      have hlen : (s.drop n).length = s.length - n := List.length_drop ..
      obtain ⟨k, rfl⟩ : ∃ k, fuel = k + 1 := ⟨fuel - 1, by omega⟩
      simp only [frames, cut, h]
      rw [ih k (by omega), ih s.length (by omega)]

theorem frames_incomplete {s : List β} (h : F.parse s = .incomplete) :
    F.frames s = ([], .waiting s) := by
  simp only [frames, cut, h]

theorem frames_reject {s : List β} (h : F.parse s = .reject) :
    F.frames s = ([], .malformed) := by
  simp only [frames, cut, h]

theorem frames_accept {s : List β} {f : φ} {n : ℕ} (h : F.parse s = .accept f n) :
    F.frames s = (f :: (F.frames (s.drop n)).1, (F.frames (s.drop n)).2) := by
  have hpos := F.size_pos h
  have hle := F.size_le h
  have hlen : (s.drop n).length = s.length - n := List.length_drop ..
  have hrest := F.cut_eq_frames (s.drop n) s.length (by omega)
  simp only [frames, cut, h] at hrest ⊢
  rw [hrest]

/-- Bytes left over are not a complete frame. -/
theorem parse_waiting {s rest : List β} (h : (F.frames s).2 = .waiting rest) :
    F.parse rest = .incomplete := by
  induction s using F.cut_induction with
  | incomplete s hs =>
      rw [F.frames_incomplete hs, Ending.waiting.injEq] at h
      rw [← h]
      exact hs
  | reject s hs =>
      rw [F.frames_reject hs] at h
      simp at h
  | accept s f n hs ih =>
      rw [F.frames_accept hs] at h
      exact ih h

/-- **Cutting a stream piecewise.** -/
theorem frames_append (s t : List β) : F.frames (s ++ t) = F.resume (F.frames s) t := by
  induction s using F.cut_induction with
  | incomplete s hs =>
      rw [F.frames_incomplete hs]
      simp [resume]
  | reject s hs => rw [F.frames_reject hs, F.frames_reject (F.reject_append hs t), resume]
  | accept s f n hs ih =>
      have hle := F.size_le hs
      rw [F.frames_accept hs, F.frames_accept (F.accept_append hs t),
        List.drop_append_of_le_length hle, ih]
      unfold resume
      cases (F.frames (s.drop n)).2 with
      | waiting rest => rfl
      | malformed => rfl

/-- After a malformed place nothing more is cut. -/
theorem frames_append_malformed {s : List β} (h : (F.frames s).2 = .malformed) (t : List β) :
    F.frames (s ++ t) = F.frames s := by
  rw [frames_append, resume, h]
  exact Prod.ext rfl h.symm

/-- More input keeps the frames already cut and goes on from the bytes left over. -/
theorem frames_append_waiting {s rest : List β} (h : (F.frames s).2 = .waiting rest)
    (t : List β) :
    F.frames (s ++ t) =
      ((F.frames s).1 ++ (F.frames (rest ++ t)).1, (F.frames (rest ++ t)).2) := by
  rw [frames_append, resume, h]

/-- **A stream of whole frames** is cut into these frames. -/
theorem frames_flatten (hnil : F.parse [] = .incomplete) (parts : List (φ × List β)) :
    (∀ part ∈ parts, F.parse part.2 = .accept part.1 part.2.length) →
      F.frames (parts.map Prod.snd).flatten = (parts.map Prod.fst, .waiting []) := by
  induction parts with
  | nil => exact fun _ => F.frames_incomplete hnil
  | cons part rest ih =>
      intro hparts
      obtain ⟨hpart, hrest⟩ := List.forall_mem_cons.mp hparts
      have hparse := F.accept_append hpart (rest.map Prod.snd).flatten
      rw [List.map_cons, List.flatten_cons, F.frames_accept hparse, List.drop_left, ih hrest]
      rfl

/-- How many bytes of the first `t` bytes of some parts belong to a part that is not
complete there. -/
def unfinished : List (List β) → ℕ → ℕ
  | [], t => t
  | part :: rest, t => if part.length ≤ t then unfinished rest (t - part.length) else t

/-- **What waits** before the end of a stream of whole frames is the start of the frame
that is not complete. -/
theorem frames_unfinished (hnil : F.parse [] = .incomplete) (parts : List (φ × List β)) :
    ∀ s : List β, (∀ part ∈ parts, F.parse part.2 = .accept part.1 part.2.length) →
      s <+: (parts.map Prod.snd).flatten →
      ∃ rest, (F.frames s).2 = .waiting rest ∧
        rest.length = unfinished (parts.map Prod.snd) s.length := by
  induction parts with
  | nil =>
      intro s _ hs
      have hempty : s = [] := List.prefix_nil.mp hs
      rw [hempty, F.frames_incomplete hnil]
      exact ⟨[], rfl, rfl⟩
  | cons part others ih =>
      intro s hparts hs
      obtain ⟨hpart, hothers⟩ := List.forall_mem_cons.mp hparts
      obtain ⟨tail, htail⟩ := hs
      rw [List.map_cons, List.flatten_cons] at htail
      rw [List.map_cons, unfinished]
      by_cases hcomplete : part.2.length ≤ s.length
      · obtain ⟨left, rfl⟩ : part.2 <+: s :=
          List.prefix_of_prefix_length_le ⟨_, rfl⟩ ⟨tail, htail⟩ hcomplete
        rw [List.append_assoc, List.append_cancel_left_eq] at htail
        obtain ⟨rest, hrest, hlength⟩ := ih left hothers ⟨tail, htail⟩
        rw [if_pos hcomplete, F.frames_accept (F.accept_append hpart left), List.drop_left]
        refine ⟨rest, hrest, ?_⟩
        rw [hlength, List.length_append, Nat.add_sub_cancel_left]
      · -- a verdict on a part of the frame would be the verdict on the frame
        obtain ⟨more, hmore⟩ : s <+: part.2 :=
          List.prefix_of_prefix_length_le ⟨tail, htail⟩ ⟨_, rfl⟩ (Nat.le_of_not_le hcomplete)
        have hincomplete : F.parse s = .incomplete := by
          cases hparse : F.parse s with
          | incomplete => rfl
          | reject =>
              rw [← hmore, F.reject_append hparse] at hpart
              contradiction
          | accept f n =>
              have hle := F.size_le hparse
              rw [← hmore, F.accept_append hparse, Verdict.accept.injEq, hmore] at hpart
              omega
        rw [if_neg hcomplete, F.frames_incomplete hincomplete]
        exact ⟨s, rfl, rfl⟩

end Framing

end PortableAirplay.Library
