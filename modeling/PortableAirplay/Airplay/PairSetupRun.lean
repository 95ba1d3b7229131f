import PortableAirplay.Airplay.PairSetup
import PortableAirplay.Library.Execution
import Mathlib.Data.List.Induction

/-!
# Pair-setup over many messages

A context gets messages in any order, well-formed or not. `PairEffect` says what one
of them can do: nothing, begin a session, finish the pairing, or fail and erase the
context. From it `pairRun_session` follows by induction: while a session is open, the
last message that was looked at is the one that began it. `pair_setup_runs` draws the
conclusions: one guess for each session, and no way to an established context but a
right proof.
-/

set_option autoImplicit false

namespace PortableAirplay.Airplay

open PortableAirplay.Library

/-! ## Messages -/

/-- A call of `pairing_setup`. -/
structure PairMessage where
  io : PairSetupIo
  input : List UInt8
  capacity : ℕ

/-- The state that the call dispatches on, or `none` where it returns -1 before. -/
def PairMessage.state (m : PairMessage) : Option UInt8 :=
  if m.io.memoryReady = false ∨ m.capacity < 6 then none
  else
    match tlvGet m.input 6 1 with
    | some [state] => some state
    | _ => none

/-- The call on a context. -/
def PairMessage.handle (m : PairMessage) (c : SrpPrimitives) (p : Pairing) :
    Pairing × Option (List UInt8) := pairingSetup c m.io p m.input m.capacity

/-- The second item of a reply is an error. -/
def isErrorReply (reply : List UInt8) : Bool := reply.getD 3 0 == 7

/-- A context with its messages; the outputs are the replies. -/
def pairMachine (c : SrpPrimitives) : Machine Pairing PairMessage (Option (List UInt8)) where
  step p m := m.handle c p

/-- A fresh context after some messages. -/
def pairRun (c : SrpPrimitives) (messages : List PairMessage) : Pairing :=
  ((pairMachine c).run pairingClose messages).1

/-- The message begins the session `s`: a state-1 message that is answered. -/
def PairMessage.Begins (m : PairMessage) (c : SrpPrimitives) (s : Srp) : Prop :=
  m.state = some 1 ∧
    ∃ p out, pairStart c m.io m.input m.capacity = some (p, out) ∧ p.srp = some s

/-- The message carries the proof of the session `s`. -/
def PairMessage.Proves (m : PairMessage) (c : SrpPrimitives) (s : Srp) : Prop :=
  ∃ a proof key, tlvGet m.input 3 srpBytes = some a ∧ tlvGet m.input 4 64 = some proof ∧
    proof.length = 64 ∧ srpKey c s a = some key ∧ srpProof c s a key = proof

/-! ## Replies -/

theorem tlvFragments_extends (capacity : ℕ) (type : UInt8) :
    ∀ (fuel : ℕ) (out data reply : List UInt8),
      tlvFragments capacity type fuel out data = some reply → ∃ rest, reply = out ++ rest := by
  intro fuel
  induction fuel with
  | zero =>
      intro out data reply h
      simp [tlvFragments] at h
  | succ fuel ih =>
      intro out data reply h
      rw [tlvFragments] at h
      dsimp only at h
      split at h
      · simp at h
      · split at h
        · rw [Option.some.injEq] at h
          exact ⟨_, h.symm⟩
        · obtain ⟨rest, hrest⟩ := ih _ _ _ h
          rw [List.append_assoc] at hrest
          exact ⟨_, hrest⟩

/-- An item starts with its type. -/
theorem tlvPut_type {capacity : ℕ} {out data reply : List UInt8} {type : UInt8}
    (h : tlvPut capacity out type data = some reply) : ∃ rest, reply = out ++ type :: rest := by
  rw [tlvPut, tlvFragments] at h
  dsimp only at h
  split at h
  · simp at h
  · split at h
    · rw [Option.some.injEq] at h
      exact ⟨_, h.symm⟩
    · obtain ⟨rest, hrest⟩ := tlvFragments_extends _ _ _ _ _ _ h
      rw [List.append_assoc] at hrest
      exact ⟨_, hrest⟩

/-- An item of one byte. -/
theorem tlvPut_byte {capacity : ℕ} {out : List UInt8} (type b : UInt8)
    (h : out.length + 3 ≤ capacity) :
    tlvPut capacity out type [b] = some (out ++ [type, 1, b]) := by
  have hroom : ¬ (out.length > capacity ∨ min [b].length 255 + 2 > capacity - out.length) := by
    simp only [List.length_singleton]
    omega
  rw [tlvPut, tlvFragments]
  dsimp only
  rw [if_neg hroom]
  rfl

theorem tlvPut_state {capacity : ℕ} {b : UInt8} {reply : List UInt8} (hcapacity : 6 ≤ capacity)
    (h : tlvPut capacity [] 6 [b] = some reply) : reply = [6, 1, b] := by
  rw [tlvPut_byte 6 b (Nat.le_trans (by decide) hcapacity), Option.some.injEq] at h
  exact h.symm

/-- The error reply always fits. -/
theorem pairError_eq (state : UInt8) {capacity : ℕ} (h : 6 ≤ capacity) :
    pairError state capacity = some [6, 1, if state = 3 then 4 else 2, 7, 1, 2] := by
  have hsecond : ∀ b : UInt8, tlvPut capacity [6, 1, b] 7 [2] = some [6, 1, b, 7, 1, 2] :=
    fun b => tlvPut_byte 7 2 h
  rw [pairError, tlvPut_byte 6 _ (Nat.le_trans (by decide) h)]
  exact hsecond _

/-! ## What a message does -/

/-- What a message does to a context, with the reply. -/
inductive PairEffect (c : SrpPrimitives) (p : Pairing) (m : PairMessage) :
    Pairing × Option (List UInt8) → Prop where
  | ignored (h : m.state = none ∨ p.established = true) : PairEffect c p m (p, none)
  | begun (s : Srp) (reply : List UInt8) (hopen : p.established = false)
      (hbegins : m.Begins c s) (hreply : isErrorReply reply = false) :
      PairEffect c p m ({ pairingClose with srp := some s }, some reply)
  | finished (s : Srp) (after : Pairing) (reply : List UInt8) (hstate : m.state = some 3)
      (hsrp : p.srp = some s) (hproves : m.Proves c s) (hconsumed : after.srp = none)
      (hreply : isErrorReply reply = false) : PairEffect c p m (after, some reply)
  | failed (reply : List UInt8) (hopen : p.established = false) (hstate : m.state ≠ none)
      (hreply : isErrorReply reply = true) : PairEffect c p m (pairingClose, some reply)

/-- A session that begins starts from an erased context. -/
theorem pairStart_eq_some {c : SrpPrimitives} {io : PairSetupIo} {input reply : List UInt8}
    {capacity : ℕ} {p : Pairing} (hcapacity : 6 ≤ capacity)
    (h : pairStart c io input capacity = some (p, reply)) :
    (∃ s, p = { pairingClose with srp := some s }) ∧ isErrorReply reply = false := by
  rw [pairStart] at h
  split at h
  · simp at h
  · simp only [Option.bind_eq_bind, Option.bind_eq_some_iff, Option.some.injEq, Prod.mk.injEq] at h
    obtain ⟨begun, hbegin, s, hsrp, first, hfirst, second, hsecond, last, hlast, rfl, rfl⟩ := h
    constructor
    · rw [pairBegin] at hbegin
      split at hbegin
      · simp at hbegin
      · rw [Option.some.injEq] at hbegin
        exact ⟨_, hbegin.symm⟩
    · obtain ⟨tail, rfl⟩ := tlvPut_type hlast
      obtain ⟨middle, rfl⟩ := tlvPut_type hsecond
      rw [tlvPut_state hcapacity hfirst]
      rfl

/-- A right proof uses up the session. -/
theorem pairFinish_eq_some {c : SrpPrimitives} {m : PairMessage} {p after : Pairing}
    {reply : List UInt8} (hcapacity : 6 ≤ m.capacity)
    (h : pairFinish c m.io p m.input m.capacity = some (after, reply)) :
    (∃ s, p.srp = some s ∧ m.Proves c s) ∧ after.srp = none ∧ isErrorReply reply = false := by
  rw [pairFinish] at h
  simp only [Option.bind_eq_bind, Option.bind_eq_some_iff] at h
  obtain ⟨a, ha, proof, hproof, h⟩ := h
  split at h
  · simp at h
  · rename_i hlength
    rw [ne_eq, not_not] at hlength
    simp only [Option.bind_eq_some_iff, Option.some.injEq, Prod.mk.injEq] at h
    obtain ⟨⟨verified, response⟩, hverify, first, hfirst, last, hlast, rfl, rfl⟩ := h
    refine ⟨?_, rfl, ?_⟩
    · -- `verify` succeeds in one place: the session is there, the key is good, the proofs agree
      rw [pairVerify] at hverify
      cases hsrp : p.srp with
      | none => simp [hsrp] at hverify
      | some s =>
          rw [hsrp] at hverify
          dsimp only at hverify
          split at hverify
          · simp at hverify
          · cases hkey : srpKey c s a with
            | none => simp [hkey] at hverify
            | some key =>
                rw [hkey] at hverify
                dsimp only at hverify
                split at hverify
                · simp at hverify
                · rename_i hequal
                  rw [ne_eq, not_not] at hequal
                  exact ⟨s, rfl, a, proof, key, ha, hproof, hlength, hkey, hequal⟩
    · obtain ⟨tail, rfl⟩ := tlvPut_type hlast
      rw [tlvPut_state hcapacity hfirst]
      rfl

/-- **Every message keeps to `PairEffect`.** -/
theorem handle_effect (c : SrpPrimitives) (p : Pairing) (m : PairMessage) :
    PairEffect c p m (m.handle c p) := by
  have hstate : m.state = if m.io.memoryReady = false ∨ m.capacity < 6 then none
      else match tlvGet m.input 6 1 with
        | some [state] => some state
        | _ => none := rfl
  rw [PairMessage.handle, pairingSetup]
  by_cases hready : m.io.memoryReady = false ∨ m.capacity < 6
  · rw [if_pos hready] at hstate ⊢
    exact PairEffect.ignored (Or.inl hstate)
  · have hcapacity : 6 ≤ m.capacity := Nat.not_lt.mp fun h => hready (Or.inr h)
    rw [if_neg hready] at hstate ⊢
    split
    · rename_i state hget
      rw [hget] at hstate
      dsimp only at hstate
      by_cases hestablished : p.established = true
      · rw [if_pos hestablished]
        exact PairEffect.ignored (Or.inr hestablished)
      · rw [if_neg hestablished]
        rw [Bool.not_eq_true] at hestablished
        -- a step that fails closes the pairing and answers with an error
        have hfailed : PairEffect c p m (pairingClose, pairError state m.capacity) := by
          rw [pairError_eq state hcapacity]
          exact PairEffect.failed _ hestablished (by simp [hstate]) rfl
        dsimp only
        -- only the messages of state 1 and state 3 are taken
        by_cases hone : state = 1
        · rw [if_pos hone]
          cases hstart : pairStart c m.io m.input m.capacity with
          | none => exact hfailed
          | some begun =>
              obtain ⟨after, reply⟩ := begun
              obtain ⟨⟨s, rfl⟩, hreply⟩ := pairStart_eq_some hcapacity hstart
              exact PairEffect.begun s reply hestablished
                ⟨by rw [hstate, hone], _, reply, hstart, rfl⟩ hreply
        · rw [if_neg hone]
          by_cases hthree : state = 3
          · rw [if_pos hthree]
            cases hfinish : pairFinish c m.io p m.input m.capacity with
            | none => exact hfailed
            | some finished =>
                obtain ⟨after, reply⟩ := finished
                obtain ⟨⟨s, hsrp, hproves⟩, hconsumed, hreply⟩ :=
                  pairFinish_eq_some hcapacity hfinish
                exact PairEffect.finished s after reply (by rw [hstate, hthree]) hsrp hproves
                  hconsumed hreply
          · rw [if_neg hthree]
            exact hfailed
    · rename_i hget
      apply PairEffect.ignored (Or.inl _)
      rw [hstate]
      split
      · rename_i state hsome
        exact absurd hsome (hget state)
      · rfl

/-! ## Runs -/

theorem pairRun_concat (c : SrpPrimitives) (messages : List PairMessage) (m : PairMessage) :
    pairRun c (messages ++ [m]) = (m.handle c (pairRun c messages)).1 := by
  rw [pairRun, Machine.run_append]
  rfl

/-- The messages end with one that began the session `s`, and none after it was looked
at. -/
def OpenedBy (c : SrpPrimitives) (messages : List PairMessage) (s : Srp) : Prop :=
  ∃ first begin between, messages = first ++ begin :: between ∧ begin.Begins c s ∧
    (begin.handle c (pairRun c first)).1.srp = some s ∧
    ∀ later ∈ between, later.state = none

/-- **An open session is that of the last message that was looked at**, and the
context is not established. -/
theorem pairRun_session (c : SrpPrimitives) (messages : List PairMessage) :
    ∀ s, (pairRun c messages).srp = some s →
      (pairRun c messages).established = false ∧ OpenedBy c messages s := by
  induction messages using List.reverseRecOn with
  | nil =>
      intro s h
      have hnone : (none : Option Srp) = some s := h
      contradiction
  | append_singleton messages m ih =>
      have heffect := handle_effect c (pairRun c messages) m
      intro s h
      rw [pairRun_concat] at h ⊢
      generalize hr : m.handle c (pairRun c messages) = r at heffect h ⊢
      cases heffect with
      | ignored hignored =>
          -- nothing happened, so the message joins those in between
          obtain ⟨hopen, first, begin, between, rfl, hbegins, hsrp, hlater⟩ := ih s h
          refine ⟨hopen, first, begin, between ++ [m], by simp, hbegins, hsrp, ?_⟩
          intro later hmem
          rcases List.mem_append.mp hmem with hmem | hmem
          · exact hlater later hmem
          · rw [List.mem_singleton.mp hmem]
            rcases hignored with hnone | hestablished
            · exact hnone
            · exact absurd (hopen.symm.trans hestablished) (by decide)
      | begun begun reply hopen hbegins hreply =>
          have hsame : begun = s := Option.some.inj h
          subst hsame
          exact ⟨rfl, messages, m, [], rfl, hbegins, by rw [hr], fun _ hmem => by simp at hmem⟩
      | finished before after reply hstate hsrp hproves hconsumed hreply =>
          exact absurd (hconsumed.symm.trans h) (by simp)
      | failed reply hopen hstate hreply =>
          have hnone : (none : Option Srp) = some s := h
          contradiction

/-! ## Main result -/

/-- **The pair-setup state machine.** After any messages, for the next one: the
context becomes established only by a state-3 message that proves the session of the
latest state-1 message that was answered, and nothing was looked at in between; a
state-3 message leaves no session behind, whatever its proof; an error reply leaves
the context erased; a call that returns -1 leaves it as it was, in particular where
the message is not looked at; and an established context answers nothing and does not
change. -/
theorem pair_setup_runs (c : SrpPrimitives) (messages : List PairMessage) (m : PairMessage) :
    let p := pairRun c messages
    let r := m.handle c p
    (p.established = false → r.1.established = true →
      m.state = some 3 ∧ ∃ s, OpenedBy c messages s ∧ m.Proves c s) ∧
    (m.state = some 3 → r.1.srp = none) ∧
    (∀ reply, r.2 = some reply → isErrorReply reply = true → r.1 = pairingClose) ∧
    (r.2 = none → r.1 = p) ∧
    (m.state = none → r = (p, none)) ∧
    (p.established = true → r = (p, none)) := by
  have hsession := pairRun_session c messages
  have heffect := handle_effect c (pairRun c messages) m
  dsimp only
  generalize pairRun c messages = p at hsession heffect ⊢
  generalize m.handle c p = r at heffect ⊢
  cases heffect with
  | ignored hignored =>
      refine ⟨fun hopen hestablished => ?_, fun hthree => ?_, fun reply h => ?_, fun _ => rfl,
        fun _ => rfl, fun _ => rfl⟩
      · exact absurd (hopen.symm.trans hestablished) (by decide)
      · -- no state was read, or the pairing was established before
        rcases hignored with hnone | hestablished
        · exact absurd (hnone.symm.trans hthree) (by simp)
        · cases hsrp : p.srp with
          | none => rfl
          | some s => exact absurd ((hsession s hsrp).1.symm.trans hestablished) (by decide)
      · exact absurd h (by simp)
  | begun s reply hopen hbegins hreply =>
      refine ⟨fun _ hestablished => ?_, fun hthree => ?_, fun error h herror => ?_,
        fun h => ?_, fun hnone => ?_, fun hestablished => ?_⟩
      · exact absurd hestablished (by simp [pairingClose])
      · exact absurd (hbegins.1.symm.trans hthree) (by simp)
      · rw [← Option.some.inj h] at herror
        exact absurd (hreply.symm.trans herror) (by decide)
      · exact absurd h (by simp)
      · exact absurd (hbegins.1.symm.trans hnone) (by simp)
      · exact absurd (hopen.symm.trans hestablished) (by decide)
  | finished s after reply hstate hsrp hproves hconsumed hreply =>
      obtain ⟨hopen, hopened⟩ := hsession s hsrp
      refine ⟨fun _ _ => ⟨hstate, s, hopened, hproves⟩, fun _ => hconsumed,
        fun error h herror => ?_, fun h => ?_, fun hnone => ?_, fun hestablished => ?_⟩
      · rw [← Option.some.inj h] at herror
        exact absurd (hreply.symm.trans herror) (by decide)
      · exact absurd h (by simp)
      · exact absurd (hstate.symm.trans hnone) (by simp)
      · exact absurd (hopen.symm.trans hestablished) (by decide)
  | failed reply hopen hstate hreply =>
      refine ⟨fun _ hestablished => ?_, fun _ => rfl, fun _ _ _ => rfl, fun h => ?_,
        fun hnone => ?_, fun hestablished => ?_⟩
      · exact absurd hestablished (by simp [pairingClose])
      · exact absurd h (by simp)
      · exact absurd hnone hstate
      · exact absurd (hopen.symm.trans hestablished) (by decide)

end PortableAirplay.Airplay
