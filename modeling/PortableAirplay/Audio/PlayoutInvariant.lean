import PortableAirplay.Audio.Playout
import PortableAirplay.Library.Execution
import Mathlib.Data.Finset.Card
import Mathlib.Data.Finset.Option
import Mathlib.Data.Fintype.Card

/-!
# The playout queue under arbitrary traffic

`playout_t` holds its packets in an unordered array and counts them in a field of its own.
`Playout.WellFormed` is what ties the two together: the counter counts the packets, no two of
them have the same sequence, and every payload has an admissible length. Nothing is assumed
about the packets that arrive.

`trafficMachine` is a caller of the queue that keeps the pointers `playout_peek` gave it. It
may pop each of them once, in any order and with other calls in between, until a call empties
the queue.
-/

set_option autoImplicit false

namespace PortableAirplay.Audio

open PortableAirplay.Library
open PortableAirplay.Protocol

/-! ## The counter of the queue -/

/-- The slots that hold a packet. -/
def Playout.validSlots (q : Playout) : Finset Slot :=
  Finset.univ.filter fun i => (q.packets i).valid = true

/-- The counter counts the packets. -/
def Playout.CountExact (q : Playout) : Prop := q.count.toNat = q.validSlots.card

section Counter

variable {q : Playout}

theorem mem_validSlots (i : Slot) : i ∈ q.validSlots ↔ (q.packets i).valid = true := by
  simp [Playout.validSlots]

theorem validSlots_card_le (q : Playout) : q.validSlots.card ≤ airplayPlayoutPackets := by
  have hle := Finset.card_le_univ q.validSlots
  rw [Fintype.card_fin] at hle
  exact hle

theorem countExact_of_empty (hempty : ∀ i, (q.packets i).valid = false) (hcount : q.count = 0) :
    q.CountExact := by
  have hnone : q.validSlots = ∅ := by
    apply Finset.eq_empty_of_forall_notMem
    intro i hi
    rw [mem_validSlots, hempty i] at hi
    exact Bool.false_ne_true hi
  rw [Playout.CountExact, hcount, hnone]
  rfl

theorem playoutReset_countExact (q : Playout) : (playoutReset q).CountExact :=
  countExact_of_empty (fun _ => rfl) rfl

theorem playoutSetFloor_countExact (q : Playout) (timestamp : UInt32) (exclusive : Bool) :
    (playoutSetFloor q timestamp exclusive).CountExact := countExact_of_empty (fun _ => rfl) rfl

/-- A packet is counted when it is stored. -/
theorem Playout.CountExact.store (h : q.CountExact) {slot : Slot} (hfree : q.freeSlot = some slot)
    (packet : RtpPacket) : (q.store slot packet).CountExact := by
  have hinvalid := freeSlot_eq_some hfree
  have hnew : slot ∉ q.validSlots := by
    rw [mem_validSlots, hinvalid]
    exact Bool.false_ne_true
  have hslots : (q.store slot packet).validSlots = insert slot q.validSlots := by
    ext i
    rw [Finset.mem_insert, mem_validSlots, mem_validSlots]
    by_cases hi : i = slot
    · have hself : (q.store slot packet).packets i = ⟨packet.header, packet.payload, true⟩ := by
        rw [hi]
        exact Function.update_self _ _ _
      rw [hself]
      exact ⟨fun _ => Or.inl hi, fun _ => rfl⟩
    · have hother : (q.store slot packet).packets i = q.packets i := Function.update_of_ne hi _ _
      rw [hother]
      exact ⟨Or.inr, fun h => h.resolve_left hi⟩
  have hcard := validSlots_card_le (q.store slot packet)
  rw [hslots, Finset.card_insert_of_notMem hnew] at hcard
  rw [Playout.CountExact, hslots, Finset.card_insert_of_notMem hnew]
  have hcount : (q.store slot packet).count = q.count + 1 := rfl
  have hexact : q.count.toNat = q.validSlots.card := h
  have hsize : airplayPlayoutPackets = 512 := rfl
  rw [hcount, UInt32.toNat_add, UInt32.toNat_one]
  omega

theorem Playout.CountExact.push (h : q.CountExact) (packet : RtpPacket) :
    (playoutPush q packet).1.CountExact := by
  have heffect := playoutPush_effect q packet
  generalize playoutPush q packet = r at heffect ⊢
  cases heffect with
  | refused code hcode => exact h
  | stored slot hfree hfresh hnew => exact h.store hfree packet

/-- A queue with a packet is counted as one. -/
theorem Playout.CountExact.pos (h : q.CountExact) {slot : Slot}
    (hvalid : (q.packets slot).valid = true) : 0 < q.count.toNat := by
  have hexact : q.count.toNat = q.validSlots.card := h
  rw [hexact]
  exact Finset.card_pos.mpr ⟨slot, (mem_validSlots slot).mpr hvalid⟩

/-- **A pop of a packet that is queued counts down by one**, and does not wrap. -/
theorem Playout.CountExact.pop_count (h : q.CountExact) {slot : Slot}
    (hvalid : (q.packets slot).valid = true) :
    (playoutPop q slot).count.toNat + 1 = q.count.toNat := by
  have hpos := h.pos hvalid
  have hcount : (playoutPop q slot).count = q.count - 1 := rfl
  rw [hcount, UInt32.toNat_sub_of_le _ _ (by rw [UInt32.le_iff_toNat_le, UInt32.toNat_one]; omega),
    UInt32.toNat_one]
  omega

/-- A packet is no longer counted when it is popped. -/
theorem Playout.CountExact.pop (h : q.CountExact) {slot : Slot}
    (hvalid : (q.packets slot).valid = true) : (playoutPop q slot).CountExact := by
  have hmem : slot ∈ q.validSlots := (mem_validSlots slot).mpr hvalid
  have hslots : (playoutPop q slot).validSlots = q.validSlots.erase slot := by
    ext i
    rw [Finset.mem_erase, mem_validSlots, mem_validSlots]
    by_cases hi : i = slot
    · have hself : ((playoutPop q slot).packets i).valid = false := by
        rw [hi]
        simp [playoutPop]
      rw [hself]
      exact ⟨fun hfalse => absurd hfalse Bool.false_ne_true, fun hother => absurd hi hother.1⟩
    · have hother : (playoutPop q slot).packets i = q.packets i := Function.update_of_ne hi _ _
      rw [hother]
      exact ⟨fun hi' => ⟨hi, hi'⟩, And.right⟩
  have hexact : q.count.toNat = q.validSlots.card := h
  have hcount := h.pop_count hvalid
  rw [Playout.CountExact, hslots, Finset.card_erase_of_mem hmem]
  omega

/-- While the counter is below the size of the queue, a slot is free. -/
theorem Playout.CountExact.freeSlot (h : q.CountExact)
    (hroom : q.count.toNat < airplayPlayoutPackets) : q.freeSlot ≠ none := by
  intro hfull
  have hall : q.validSlots = Finset.univ := by
    apply Finset.eq_univ_of_forall
    intro i
    exact (mem_validSlots i).mpr ((freeSlot_eq_none_iff q).mp hfull i)
  have hexact : q.count.toNat = q.validSlots.card := h
  rw [hall, Finset.card_univ, Fintype.card_fin] at hexact
  omega

/-- A queue with a front packet is not empty. -/
theorem Playout.CountExact.peek (h : q.CountExact) {slot : Slot}
    (hpeek : playoutPeek q = some slot) : q.count ≠ 0 := by
  intro hzero
  have hpos := h.pos (playoutPeek_eq_some hpeek).1
  rw [hzero] at hpos
  exact absurd hpos (Nat.lt_irrefl 0)

end Counter

/-! ## The packets of the queue -/

/-- The counter counts the packets, their sequences differ and their payloads fit. -/
structure Playout.WellFormed (q : Playout) : Prop where
  exact : q.CountExact
  distinct : ∀ i j, (q.packets i).valid = true → (q.packets j).valid = true →
    (q.packets i).header.sequence = (q.packets j).header.sequence → i = j
  lengths : ∀ i, (q.packets i).valid = true →
    1 ≤ (q.packets i).payload.length ∧ (q.packets i).payload.length ≤ playoutPayloadBytes

section WellFormed

variable {q : Playout}

theorem Playout.WellFormed.of_empty (hempty : ∀ i, (q.packets i).valid = false)
    (hcount : q.count = 0) : q.WellFormed where
  exact := countExact_of_empty hempty hcount
  distinct i _ hi _ _ := absurd ((hempty i).symm.trans hi) Bool.false_ne_true
  lengths i hi := absurd ((hempty i).symm.trans hi) Bool.false_ne_true

theorem playoutReset_wellFormed (q : Playout) : (playoutReset q).WellFormed :=
  Playout.WellFormed.of_empty (fun _ => rfl) rfl

theorem playoutSetFloor_wellFormed (q : Playout) (timestamp : UInt32) (exclusive : Bool) :
    (playoutSetFloor q timestamp exclusive).WellFormed :=
  Playout.WellFormed.of_empty (fun _ => rfl) rfl

theorem Playout.WellFormed.count_le (h : q.WellFormed) :
    q.count.toNat ≤ airplayPlayoutPackets := by
  have hexact : q.count.toNat = q.validSlots.card := h.exact
  rw [hexact]
  exact validSlots_card_le q

/-- A push that is accepted was given an admissible length. -/
theorem playoutPush_accepted {packet : RtpPacket} (h : (playoutPush q packet).2 = 1) :
    1 ≤ packet.payload.length ∧ packet.payload.length ≤ playoutPayloadBytes := by
  rw [playoutPush] at h
  split at h
  · have hrefused : (-1 : ℤ) ≠ 1 := by decide
    exact absurd h hrefused
  · omega

/-- The packet that is stored has a sequence of its own. -/
theorem Playout.WellFormed.store (h : q.WellFormed) {slot : Slot} (hfree : q.freeSlot = some slot)
    {packet : RtpPacket} (hnew : q.holds packet.header.sequence = false)
    (hlength : 1 ≤ packet.payload.length ∧ packet.payload.length ≤ playoutPayloadBytes) :
    (q.store slot packet).WellFormed := by
  have hself : (q.store slot packet).packets slot = ⟨packet.header, packet.payload, true⟩ :=
    Function.update_self _ _ _
  have hother : ∀ i, i ≠ slot → (q.store slot packet).packets i = q.packets i :=
    fun i hi => Function.update_of_ne hi _ _
  have hfresh : ∀ i, (q.packets i).valid = true →
      (q.packets i).header.sequence ≠ packet.header.sequence := by
    intro i hi hsame
    have hholds := (holds_eq_true_iff q packet.header.sequence).mpr ⟨i, hi, hsame⟩
    exact Bool.false_ne_true (hnew.symm.trans hholds)
  refine ⟨h.exact.store hfree packet, fun i j hi hj hsame => ?_, fun i hi => ?_⟩
  · -- of two slots at most one is new, and its sequence was in no other
    by_cases hislot : i = slot
    · by_cases hjslot : j = slot
      · exact hislot.trans hjslot.symm
      · rw [hother j hjslot] at hj hsame
        rw [hislot, hself] at hsame
        exact absurd hsame.symm (hfresh j hj)
    · rw [hother i hislot] at hi hsame
      by_cases hjslot : j = slot
      · rw [hjslot, hself] at hsame
        exact absurd hsame (hfresh i hi)
      · rw [hother j hjslot] at hj hsame
        exact h.distinct i j hi hj hsame
  · by_cases hislot : i = slot
    · rw [hislot, hself]
      exact hlength
    · rw [hother i hislot] at hi ⊢
      exact h.lengths i hi

theorem Playout.WellFormed.push (h : q.WellFormed) (packet : RtpPacket) :
    (playoutPush q packet).1.WellFormed := by
  have heffect := playoutPush_effect q packet
  have haccepted : (playoutPush q packet).2 = 1 →
      1 ≤ packet.payload.length ∧ packet.payload.length ≤ playoutPayloadBytes :=
    playoutPush_accepted
  generalize playoutPush q packet = r at heffect haccepted ⊢
  cases heffect with
  | refused code hcode => exact h
  | stored slot hfree hfresh hnew => exact h.store hfree hnew (haccepted rfl)

theorem playoutPop_valid {slot i : Slot} (hi : ((playoutPop q slot).packets i).valid = true) :
    (q.packets i).valid = true ∧ (playoutPop q slot).packets i = q.packets i := by
  by_cases hslot : i = slot
  · have hself : ((playoutPop q slot).packets slot).valid = false := by simp [playoutPop]
    rw [hslot, hself] at hi
    exact absurd hi Bool.false_ne_true
  · have hother : (playoutPop q slot).packets i = q.packets i := Function.update_of_ne hslot _ _
    rw [hother] at hi
    exact ⟨hi, hother⟩

theorem Playout.WellFormed.pop (h : q.WellFormed) {slot : Slot}
    (hvalid : (q.packets slot).valid = true) : (playoutPop q slot).WellFormed := by
  refine ⟨h.exact.pop hvalid, fun i j hi hj hsame => ?_, fun i hi => ?_⟩
  · obtain ⟨hi', hsamei⟩ := playoutPop_valid hi
    obtain ⟨hj', hsamej⟩ := playoutPop_valid hj
    rw [hsamei, hsamej] at hsame
    exact h.distinct i j hi' hj' hsame
  · obtain ⟨hi', hsamei⟩ := playoutPop_valid hi
    rw [hsamei]
    exact h.lengths i hi'

/-- **The front is null exactly when the counter is zero.** -/
theorem Playout.WellFormed.peek_eq_none_iff (h : q.WellFormed) :
    playoutPeek q = none ↔ q.count = 0 := by
  constructor
  · intro hnone
    have hempty := (playoutPeek_eq_none_iff q).mp hnone
    have hexact : q.count.toNat = q.validSlots.card := h.exact
    have hslots : q.validSlots = ∅ := by
      apply Finset.eq_empty_of_forall_notMem
      intro i hi
      exact Bool.false_ne_true ((hempty i).symm.trans ((mem_validSlots i).mp hi))
    rw [hslots, Finset.card_empty] at hexact
    exact UInt32.toNat_inj.mp hexact
  · intro hzero
    cases hpeek : playoutPeek q with
    | none => rfl
    | some slot => exact absurd hzero (h.exact.peek hpeek)

end WellFormed

/-! ## Runs of calls -/

/-- A call on the queue; a pop is given a pointer. -/
inductive TrafficCall where
  | reset
  | setFloor (timestamp : UInt32) (exclusive : Bool)
  | push (packet : RtpPacket)
  | peek
  | pop (slot : Slot)

/-- What a call returns. -/
inductive TrafficReply where
  | done
  | code (result : Int)
  | pointer (slot : Option Slot)
  deriving DecidableEq

/-- The queue, with the pointers that `playout_peek` returned and that were not popped since.
No pointer outlives a call that empties the queue. -/
structure Traffic where
  queue : Playout
  peeked : Finset Slot

/-- A queue that was just reset. -/
def Traffic.start (q : Playout) : Traffic := ⟨playoutReset q, ∅⟩

/-- One call. A pop of any other pointer is not made. -/
def trafficStep (t : Traffic) : TrafficCall → Traffic × TrafficReply
  | .reset => (⟨playoutReset t.queue, ∅⟩, .done)
  | .setFloor timestamp exclusive => (⟨playoutSetFloor t.queue timestamp exclusive, ∅⟩, .done)
  | .push packet =>
      let r := playoutPush t.queue packet
      (⟨r.1, t.peeked⟩, .code r.2)
  | .peek =>
      let front := playoutPeek t.queue
      (⟨t.queue, t.peeked ∪ front.toFinset⟩, .pointer front)
  | .pop slot =>
      if slot ∈ t.peeked then (⟨playoutPop t.queue slot, t.peeked.erase slot⟩, .done)
      else (t, .done)

/-- Runs of calls. -/
def trafficMachine : Machine Traffic TrafficCall TrafficReply := ⟨trafficStep⟩

/-- The queue is well formed, and every pointer that is kept is one to a queued packet. -/
structure Traffic.Sound (t : Traffic) : Prop where
  queue : t.queue.WellFormed
  peeked : ∀ slot ∈ t.peeked, (t.queue.packets slot).valid = true

theorem Traffic.start_sound (q : Playout) : (Traffic.start q).Sound :=
  ⟨playoutReset_wellFormed q, fun slot hslot => absurd hslot (Finset.notMem_empty slot)⟩

/-- The pointers after a peek. -/
theorem trafficStep_peek (t : Traffic) (slot : Slot) :
    slot ∈ (trafficStep t .peek).1.peeked ↔ slot ∈ t.peeked ∨ playoutPeek t.queue = some slot := by
  rw [trafficStep, Finset.mem_union, Option.mem_toFinset, Option.mem_def]

/-- Every call keeps the queue well formed. -/
theorem Traffic.Sound.step {t : Traffic} (h : t.Sound) (call : TrafficCall) :
    (trafficMachine.step t call).1.Sound := by
  cases call with
  | reset => exact Traffic.start_sound t.queue
  | setFloor timestamp exclusive =>
      exact ⟨playoutSetFloor_wellFormed t.queue timestamp exclusive,
        fun slot hslot => absurd hslot (Finset.notMem_empty slot)⟩
  | push packet =>
      refine ⟨h.queue.push packet, fun slot hslot => ?_⟩
      have hvalid := h.peeked slot hslot
      show ((playoutPush t.queue packet).1.packets slot).valid = true
      rw [playoutPush_keeps t.queue packet slot hvalid]
      exact hvalid
  | peek =>
      -- the pointer that is added is one to the front packet
      refine ⟨h.queue, fun slot hslot => ?_⟩
      rcases (trafficStep_peek t slot).mp hslot with hbefore | hfront
      · exact h.peeked slot hbefore
      · exact (playoutPeek_eq_some hfront).1
  | pop popped =>
      show (trafficStep t (.pop popped)).1.Sound
      rw [trafficStep]
      by_cases hpopped : popped ∈ t.peeked
      · -- the other pointers are to other slots, which a pop leaves alone
        rw [if_pos hpopped]
        refine ⟨h.queue.pop (h.peeked popped hpopped), fun slot hslot => ?_⟩
        obtain ⟨hne, hbefore⟩ := Finset.mem_erase.mp hslot
        have hother : (playoutPop t.queue popped).packets slot = t.queue.packets slot :=
          Function.update_of_ne hne _ _
        show ((playoutPop t.queue popped).packets slot).valid = true
        rw [hother]
        exact h.peeked slot hbefore
      · rw [if_neg hpopped]
        exact h

theorem Traffic.Sound.run {t : Traffic} (h : t.Sound) (calls : List TrafficCall) :
    (trafficMachine.run t calls).1.Sound :=
  trafficMachine.run_invariant Traffic.Sound (fun _ call hbefore => hbefore.step call) calls t h

/-- **The queue under arbitrary traffic**: after every run of calls, the counter is the number
of queued packets and at most the size of the queue, a pop that may be made counts down by one,
the queued sequences differ, the queued lengths are admissible, and the front is null exactly
when the counter is zero. -/
theorem playout_wellFormed (q : Playout) (calls : List TrafficCall) :
    let t := (trafficMachine.run (Traffic.start q) calls).1
    (t.queue.count.toNat = t.queue.validSlots.card ∧
        t.queue.count.toNat ≤ airplayPlayoutPackets) ∧
      (∀ slot ∈ t.peeked, (playoutPop t.queue slot).count.toNat + 1 = t.queue.count.toNat) ∧
      (∀ i j, (t.queue.packets i).valid = true → (t.queue.packets j).valid = true →
        (t.queue.packets i).header.sequence = (t.queue.packets j).header.sequence → i = j) ∧
      (∀ i, (t.queue.packets i).valid = true →
        1 ≤ (t.queue.packets i).payload.length ∧
          (t.queue.packets i).payload.length ≤ playoutPayloadBytes) ∧
      (playoutPeek t.queue = none ↔ t.queue.count = 0) := by
  intro t
  have hsound : t.Sound := (Traffic.start_sound q).run calls
  exact ⟨⟨hsound.queue.exact, hsound.queue.count_le⟩,
    fun slot hslot => hsound.queue.exact.pop_count (hsound.peeked slot hslot),
    hsound.queue.distinct, hsound.queue.lengths, hsound.queue.peek_eq_none_iff⟩

end PortableAirplay.Audio
