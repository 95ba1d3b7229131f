import Mathlib.Data.List.Basic
import Mathlib.Data.List.Flatten
import Mathlib.Algebra.GroupWithZero.Nat

/-!
# Runs of a deterministic machine

A machine reads one input at a time, moves to a next state and emits an output.
What an environment may choose (the bytes a socket returns, the order of two
threads) is part of the input, so a statement about every list of inputs is a
statement about every run.

The rules below are the only inductions over runs that a development needs:
`run_invariant` for a property of state and history, `run_guarded_invariant`
when the steps of the run meet a guard, `guarded_iff_reached` where the guard is
exact, and `run_refines` for a forward simulation with equal observations. `run_budget`
bounds what a run may cost, and `run_congr` compares the runs over two lists of inputs that
each state takes alike. `Logged` states a property of each entry of a history that depends
on the entries before it.
-/

set_option autoImplicit false

namespace PortableAirplay.Library

universe u v w x y

/-! ## Logs -/

section Logs

variable {ε : Type u}

/-- `holds before e` for every entry `e` of a log and the entries `before` it. -/
def Logged (holds : List ε → ε → Prop) (log : List ε) : Prop :=
  ∀ before e after, log = before ++ e :: after → holds before e

variable {holds : List ε → ε → Prop}

theorem logged_nil : Logged holds [] := by
  intro before e after h
  simp at h

theorem logged_concat {log : List ε} {e : ε} (h : Logged holds log) (he : holds log e) :
    Logged holds (log ++ [e]) := by
  intro before e' after heq
  rcases List.eq_nil_or_concat after with rfl | ⟨front, last, rfl⟩
  · obtain ⟨rfl, hlast⟩ := List.append_inj' heq rfl
    rw [List.cons.injEq] at hlast
    rw [← hlast.1]
    exact he
  · rw [List.concat_eq_append, ← List.cons_append, ← List.append_assoc] at heq
    exact h before e' front (List.append_inj' heq rfl).1

end Logs

/-! ## Machines -/

/-- A deterministic machine with states `σ`, inputs `ι` and outputs `ο`. -/
structure Machine (σ : Type u) (ι : Type v) (ο : Type w) where
  step : σ → ι → σ × ο

namespace Machine

variable {σ : Type u} {ι : Type v} {ο : Type w}

/-- The state and the outputs, in order, after a list of inputs. -/
def run (m : Machine σ ι ο) : σ → List ι → σ × List ο
  | s, [] => (s, [])
  | s, i :: is =>
      let head := m.step s i
      let tail := m.run head.1 is
      (tail.1, head.2 :: tail.2)

/-- Every step of the run from `s` meets `guard` in the state before it. -/
def Guarded (m : Machine σ ι ο) (guard : σ → ι → Prop) : σ → List ι → Prop
  | _, [] => True
  | s, i :: is => guard s i ∧ m.Guarded guard (m.step s i).1 is

/-- Along the run over the first list, every state meets `same` with the input it takes and
the one at the same place of the second list. -/
def SameAlong (m : Machine σ ι ο) (same : σ → ι → ι → Prop) :
    σ → List ι → List ι → Prop
  | _, [], [] => True
  | s, i :: is, j :: js => same s i j ∧ m.SameAlong same (m.step s i).1 is js
  | _, _, _ => False

variable (m : Machine σ ι ο)

@[simp] theorem run_nil (s : σ) : m.run s [] = (s, []) := rfl

@[simp] theorem run_cons (s : σ) (i : ι) (is : List ι) :
    m.run s (i :: is) =
      ((m.run (m.step s i).1 is).1, (m.step s i).2 :: (m.run (m.step s i).1 is).2) := rfl

@[simp] theorem guarded_nil (guard : σ → ι → Prop) (s : σ) : m.Guarded guard s [] := trivial

@[simp] theorem guarded_cons (guard : σ → ι → Prop) (s : σ) (i : ι) (is : List ι) :
    m.Guarded guard s (i :: is) ↔ guard s i ∧ m.Guarded guard (m.step s i).1 is := Iff.rfl

instance decidableGuarded (guard : σ → ι → Prop) [∀ s i, Decidable (guard s i)] :
    ∀ (s : σ) (is : List ι), Decidable (m.Guarded guard s is)
  | _, [] => inferInstanceAs (Decidable True)
  | s, i :: is =>
      have := decidableGuarded guard (m.step s i).1 is
      inferInstanceAs (Decidable (guard s i ∧ m.Guarded guard (m.step s i).1 is))

/-- A run over two lists is the second run from where the first one ends. -/
theorem run_append (s : σ) (is js : List ι) :
    m.run s (is ++ js) =
      ((m.run (m.run s is).1 js).1, (m.run s is).2 ++ (m.run (m.run s is).1 js).2) := by
  induction is generalizing s with
  | nil => rfl
  | cons i is ih => simp only [List.cons_append, run_cons, ih]

/-- A guarded run stays guarded on each side of a cut. -/
theorem guarded_append (guard : σ → ι → Prop) (s : σ) (is js : List ι) :
    m.Guarded guard s (is ++ js) ↔
      m.Guarded guard s is ∧ m.Guarded guard (m.run s is).1 js := by
  induction is generalizing s with
  | nil => simp
  | cons i is ih => simp only [List.cons_append, guarded_cons, run_cons, ih, and_assoc]

/-- A guard that every input of the list meets in every state. -/
theorem guarded_of_forall {guard : σ → ι → Prop} (is : List ι) :
    ∀ s : σ, (∀ i ∈ is, ∀ s, guard s i) → m.Guarded guard s is := by
  induction is with
  | nil => exact fun _ _ => trivial
  | cons i is ih =>
      intro s h
      obtain ⟨hi, his⟩ := List.forall_mem_cons.mp h
      exact ⟨hi s, ih _ his⟩

/-- **Invariant rule with a guard and a history**: a relation between the state
and the outputs so far that each guarded step preserves holds at the end of a
guarded run. -/
theorem run_guarded_invariant {guard : σ → ι → Prop} (inv : σ → List ο → Prop)
    (hstep : ∀ s log i, inv s log → guard s i → inv (m.step s i).1 (log ++ [(m.step s i).2])) :
    ∀ (is : List ι) (s : σ) (log : List ο), inv s log → m.Guarded guard s is →
      inv (m.run s is).1 (log ++ (m.run s is).2) := by
  intro is
  induction is with
  | nil =>
      intro s log h _
      simpa using h
  | cons i is ih =>
      intro s log h hg
      have hnext := hstep s log i h hg.1
      have hrest := ih (m.step s i).1 (log ++ [(m.step s i).2]) hnext hg.2
      simpa [run_cons, List.append_assoc] using hrest

theorem guarded_true (s : σ) (is : List ι) : m.Guarded (fun _ _ => True) s is :=
  m.guarded_of_forall is s fun _ _ _ => trivial

/-- **Invariant rule with a history.** -/
theorem run_history_invariant (inv : σ → List ο → Prop)
    (hstep : ∀ s log i, inv s log → inv (m.step s i).1 (log ++ [(m.step s i).2]))
    (is : List ι) (s : σ) (log : List ο) (h : inv s log) :
    inv (m.run s is).1 (log ++ (m.run s is).2) :=
  m.run_guarded_invariant inv (fun s log i h _ => hstep s log i h) is s log h
    (m.guarded_true s is)

/-- **Invariant rule.** -/
theorem run_invariant (inv : σ → Prop) (hstep : ∀ s i, inv s → inv (m.step s i).1)
    (is : List ι) (s : σ) (h : inv s) : inv (m.run s is).1 :=
  m.run_history_invariant (fun s _ => inv s) (fun s _ i h => hstep s i h) is s [] h

/-- **Forward simulation**: if related states stay related under each guarded
abstract input, with outputs equal up to `g`, then a guarded abstract run and the
concrete run on the inputs it stands for give the same outputs up to `g`. -/
theorem run_refines {τ : Type x} {κ : Type y} {π : Type w} (a : Machine τ κ π)
    (related : σ → τ → Prop) {guard : τ → κ → Prop} (f : κ → ι) (g : π → ο)
    (hstep : ∀ s t k, related s t → guard t k →
      related (m.step s (f k)).1 (a.step t k).1 ∧ (m.step s (f k)).2 = g (a.step t k).2) :
    ∀ (ks : List κ) (s : σ) (t : τ), related s t → a.Guarded guard t ks →
      related (m.run s (ks.map f)).1 (a.run t ks).1 ∧
        (m.run s (ks.map f)).2 = (a.run t ks).2.map g := by
  intro ks
  induction ks with
  | nil =>
      intro s t h _
      exact ⟨h, rfl⟩
  | cons k ks ih =>
      intro s t h hg
      obtain ⟨hrel, hout⟩ := hstep s t k h hg.1
      obtain ⟨hrel', hout'⟩ := ih _ _ hrel hg.2
      refine ⟨hrel', ?_⟩
      simp only [List.map_cons, run_cons, hout, hout']

/-- **Two runs, until one of them fails**: if related states stay related under every
input and give equal outputs unless one of the steps fails, and what failed stays so,
then the same holds of the runs from them. -/
theorem run_related_until (failed : σ → Prop) (related : σ → σ → Prop)
    (hfailed : ∀ s i, failed s → failed (m.step s i).1)
    (hstep : ∀ s t i, related s t → failed (m.step s i).1 ∨ failed (m.step t i).1 ∨
      related (m.step s i).1 (m.step t i).1 ∧ (m.step s i).2 = (m.step t i).2) :
    ∀ (is : List ι) (s t : σ), related s t → failed (m.run s is).1 ∨ failed (m.run t is).1 ∨
      related (m.run s is).1 (m.run t is).1 ∧ (m.run s is).2 = (m.run t is).2 := by
  intro is
  induction is with
  | nil => exact fun s t h => Or.inr (Or.inr ⟨h, rfl⟩)
  | cons i is ih =>
      intro s t h
      rcases hstep s t i h with hs | ht | ⟨hrelated, hout⟩
      · exact Or.inl (m.run_invariant failed hfailed is _ hs)
      · exact Or.inr (Or.inl (m.run_invariant failed hfailed is _ ht))
      · rcases ih _ _ hrelated with hs | ht | ⟨hend, houts⟩
        · exact Or.inl hs
        · exact Or.inr (Or.inl ht)
        · refine Or.inr (Or.inr ⟨hend, ?_⟩)
          rw [run_cons, run_cons, hout, houts]

/-- **Two runs**: if related states stay related under every input and give equal
outputs, then so do the runs from them. -/
theorem run_related (related : σ → σ → Prop)
    (hstep : ∀ s t i, related s t →
      related (m.step s i).1 (m.step t i).1 ∧ (m.step s i).2 = (m.step t i).2)
    (is : List ι) (s t : σ) (h : related s t) :
    related (m.run s is).1 (m.run t is).1 ∧ (m.run s is).2 = (m.run t is).2 := by
  rcases m.run_related_until (fun _ => False) related (fun _ _ => id)
    (fun s t i hst => Or.inr (Or.inr (hstep s t i hst))) is s t h with hs | ht | hend
  · exact hs.elim
  · exact ht.elim
  · exact hend

/-- **Budget rule**: if each guarded step pays for its output out of a potential, then the
outputs of a guarded run cost no more than the potential at its start. -/
theorem run_budget {guard : σ → ι → Prop} (inv : σ → Prop) (cost : ο → ℕ) (potential : σ → ℕ)
    (hinv : ∀ s i, inv s → guard s i → inv (m.step s i).1)
    (hpays : ∀ s i, inv s → guard s i →
      cost (m.step s i).2 + potential (m.step s i).1 ≤ potential s) :
    ∀ (is : List ι) (s : σ), inv s → m.Guarded guard s is →
      ((m.run s is).2.map cost).sum ≤ potential s := by
  intro is
  induction is with
  | nil => exact fun s _ _ => Nat.zero_le _
  | cons i is ih =>
      intro s h hg
      have hrest := ih _ (hinv s i h hg.1) hg.2
      have hfirst := hpays s i h hg.1
      rw [run_cons, List.map_cons, List.sum_cons]
      omega

instance decidableSameAlong (same : σ → ι → ι → Prop) [∀ s i j, Decidable (same s i j)] :
    ∀ (s : σ) (is js : List ι), Decidable (m.SameAlong same s is js)
  | _, [], [] => inferInstanceAs (Decidable True)
  | s, i :: is, j :: js =>
      have := decidableSameAlong same (m.step s i).1 is js
      inferInstanceAs (Decidable (same s i j ∧ m.SameAlong same (m.step s i).1 is js))
  | _, [], _ :: _ => inferInstanceAs (Decidable False)
  | _, _ :: _, [] => inferInstanceAs (Decidable False)

/-- **Inputs that are taken alike** lead to one run: if, in the states of an invariant, inputs
that meet `same` have the same step, then lists that meet it all along have the same run. -/
theorem run_congr {same : σ → ι → ι → Prop} (inv : σ → Prop)
    (hinv : ∀ s i j, inv s → same s i j → inv (m.step s i).1)
    (hsame : ∀ s i j, inv s → same s i j → m.step s i = m.step s j) :
    ∀ (is js : List ι) (s : σ), inv s → m.SameAlong same s is js → m.run s is = m.run s js := by
  intro is
  induction is with
  | nil =>
      intro js s _ halong
      cases js with
      | nil => rfl
      | cons j js => exact halong.elim
  | cons i is ih =>
      intro js s h halong
      cases js with
      | nil => exact halong.elim
      | cons j js =>
          have hstep := hsame s i j h halong.1
          have hrest := ih js _ (hinv s i j h halong.1) halong.2
          rw [run_cons, run_cons, ← hstep, hrest]

/-! ## Monitors -/

/-- The machine with a monitor, which reads every step and keeps a value of its own. -/
def watched {ω : Type x} (f : ω → σ → ι → ο → ω) : Machine (σ × ω) ι ο where
  step s i := (((m.step s.1 i).1, f s.2 s.1 i (m.step s.1 i).2), (m.step s.1 i).2)

/-- A monitor does not disturb what it reads. -/
theorem watched_run {ω : Type x} (f : ω → σ → ι → ο → ω) (is : List ι) :
    ∀ s : σ × ω,
      ((m.watched f).run s is).1.1 = (m.run s.1 is).1 ∧
        ((m.watched f).run s is).2 = (m.run s.1 is).2 := by
  induction is with
  | nil => exact fun _ => ⟨rfl, rfl⟩
  | cons i is ih =>
      intro s
      obtain ⟨hstate, houtputs⟩ := ih ((m.watched f).step s i).1
      exact ⟨hstate, congrArg ((m.step s.1 i).2 :: ·) houtputs⟩

/-- **Invariant rule with a guard.** -/
theorem run_guarded {guard : σ → ι → Prop} (inv : σ → Prop)
    (hstep : ∀ s i, inv s → guard s i → inv (m.step s i).1)
    (is : List ι) (s : σ) (h : inv s) (hg : m.Guarded guard s is) : inv (m.run s is).1 :=
  m.run_guarded_invariant (fun s _ => inv s) (fun s _ i h hg => hstep s i h hg) is s [] h hg

/-- **A guard is exact** for a property of states if guarded steps keep an invariant that
has the property, and a step from the invariant to the property is guarded: then a run is
guarded if and only if it reaches states with the property only. -/
theorem guarded_iff_reached {guard : σ → ι → Prop} (inv good : σ → Prop)
    (hgood : ∀ s, inv s → good s) (hstep : ∀ s i, inv s → guard s i → inv (m.step s i).1)
    (hback : ∀ s i, inv s → good (m.step s i).1 → guard s i) (is : List ι) :
    ∀ s : σ, inv s → (m.Guarded guard s is ↔ ∀ front, front <+: is → good (m.run s front).1) := by
  induction is with
  | nil =>
      intro s h
      refine ⟨fun _ front hfront => ?_, fun _ => trivial⟩
      rw [List.prefix_nil.mp hfront]
      exact hgood s h
  | cons i is ih =>
      intro s h
      constructor
      · rintro ⟨hi, his⟩ front hfront
        cases front with
        | nil => exact hgood s h
        | cons j front =>
            obtain ⟨rfl, htail⟩ := List.cons_prefix_cons.mp hfront
            exact (ih _ (hstep s j h hi)).mp his front htail
      · intro hall
        have hi : guard s i :=
          hback s i h (hall [i] (List.cons_prefix_cons.mpr ⟨rfl, List.nil_prefix⟩))
        refine ⟨hi, (ih _ (hstep s i h hi)).mpr fun front hfront => ?_⟩
        exact hall (i :: front) (List.cons_prefix_cons.mpr ⟨rfl, hfront⟩)

end Machine

end PortableAirplay.Library
