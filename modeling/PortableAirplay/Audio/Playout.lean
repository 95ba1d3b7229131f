import PortableAirplay.Protocol.Rtp
import Mathlib.Logic.Function.Basic
import Mathlib.Data.List.FinRange
import Mathlib.Data.List.Induction

/-!
# The playout queue

`audio/playout.c`: a fixed array of packet slots ordered by 16-bit RTP sequence.
A slot keeps its last header and payload when it is freed; only `valid` tells
whether it is queued. Pointers to slots are slot indices.
-/

set_option autoImplicit false

namespace PortableAirplay.Audio

open PortableAirplay.Protocol

/-- A slot index, the model of `playout_packet_t *`. -/
abbrev Slot := Fin airplayPlayoutPackets

/-- `playout_packet_t`; `length` is the length of `payload`. -/
structure PlayoutPacket where
  header : RtpHeader
  payload : List UInt8
  valid : Bool
  deriving DecidableEq, Repr

/-- The packet a slot holds. -/
def PlayoutPacket.packet (slot : PlayoutPacket) : RtpPacket := ⟨slot.header, slot.payload⟩

/-- `playout_t`. -/
structure Playout where
  packets : Slot → PlayoutPacket
  nextSequence : UInt16
  count : UInt32
  started : Bool
  haveSequence : Bool
  haveFloor : Bool
  floorExclusive : Bool
  timestampFloor : UInt32

/-- `playout_reset`: the boundary's timestamp and its kind keep their values. -/
def playoutReset (q : Playout) : Playout :=
  { q with
    packets := fun i => { q.packets i with valid := false }
    count := 0
    nextSequence := 0
    started := false
    haveSequence := false
    haveFloor := false }

/-- `playout_set_floor`. -/
def playoutSetFloor (q : Playout) (timestamp : UInt32) (exclusive : Bool) : Playout :=
  { playoutReset q with
    timestampFloor := timestamp
    floorExclusive := exclusive
    haveFloor := true }

/-- The boundary test of `playout_push`: the packet lies before the boundary. -/
def Playout.beforeFloor (q : Playout) (timestamp : UInt32) : Bool :=
  let delta := (timestamp - q.timestampFloor).toInt32.toInt
  q.haveFloor && (decide (delta < 0) || (decide (delta = 0) && q.floorExclusive))

/-- `distance` in `playout_push`: how far a sequence is ahead of the next one. -/
def Playout.distance (q : Playout) (sequence : UInt16) : Int :=
  (sequence - q.nextSequence).toInt16.toInt

/-- A valid slot already holds the sequence. -/
def Playout.holds (q : Playout) (sequence : UInt16) : Bool :=
  (List.finRange airplayPlayoutPackets).any fun i =>
    (q.packets i).valid && (q.packets i).header.sequence == sequence

/-- The first free slot. -/
def Playout.freeSlot (q : Playout) : Option Slot :=
  (List.finRange airplayPlayoutPackets).find? fun i => !(q.packets i).valid

/-- Store a packet in a free slot, with the bookkeeping of an accepted push. -/
def Playout.store (q : Playout) (slot : Slot) (packet : RtpPacket) : Playout :=
  { q with
    nextSequence :=
      if q.haveSequence = false ∨ (q.started = false ∧ q.distance packet.header.sequence < 0) then
        packet.header.sequence
      else q.nextSequence
    haveSequence := true
    packets := Function.update q.packets slot ⟨packet.header, packet.payload, true⟩
    count := q.count + 1 }

/-- `playout_push`: 1 accepted, 0 duplicate or stale, -1 capacity or payload limit.
The C loop looks at every slot before it stores, so a duplicate wins over a free
slot that comes first. -/
def playoutPush (q : Playout) (packet : RtpPacket) : Playout × Int :=
  if packet.payload.length = 0 ∨ packet.payload.length > playoutPayloadBytes then (q, -1)
  else if q.beforeFloor packet.header.timestamp then (q, 0)
  else if q.haveSequence ∧ q.started ∧ q.distance packet.header.sequence < 0 then (q, 0)
  else if q.holds packet.header.sequence then (q, 0)
  else
    match q.freeSlot with
    | none => (q, -1)
    | some slot => (q.store slot packet, 1)

/-- One iteration of the loop of `playout_peek`. -/
def Playout.nearer (q : Playout) (first : Option Slot) (i : Slot) : Option Slot :=
  if (q.packets i).valid then
    match first with
    | none => some i
    | some f =>
        if (q.packets i).header.sequence - q.nextSequence <
            (q.packets f).header.sequence - q.nextSequence then some i
        else some f
  else first

/-- `playout_peek`: the valid slot whose sequence is nearest after the next one. -/
def playoutPeek (q : Playout) : Option Slot :=
  (List.finRange airplayPlayoutPackets).foldl q.nearer none

/-- `playout_pop`. -/
def playoutPop (q : Playout) (slot : Slot) : Playout :=
  { q with
    nextSequence := (q.packets slot).header.sequence + 1
    started := true
    haveFloor := false
    packets := Function.update q.packets slot { q.packets slot with valid := false }
    count := q.count - 1 }

/-! ## What one call does -/

theorem holds_eq_true_iff (q : Playout) (sequence : UInt16) :
    q.holds sequence = true ↔
      ∃ i, (q.packets i).valid = true ∧ (q.packets i).header.sequence = sequence := by
  simp [Playout.holds]

theorem freeSlot_eq_none_iff (q : Playout) :
    q.freeSlot = none ↔ ∀ i, (q.packets i).valid = true := by
  simp [Playout.freeSlot]

theorem freeSlot_eq_some {q : Playout} {slot : Slot} (h : q.freeSlot = some slot) :
    (q.packets slot).valid = false := by
  simpa using List.find?_some h

/-- What the loop of `playout_peek` keeps: nothing while no valid slot was seen,
else a valid slot at least as near as every valid slot seen. -/
theorem foldl_nearer (q : Playout) (seen : List Slot) :
    match seen.foldl q.nearer none with
    | none => ∀ i ∈ seen, (q.packets i).valid = false
    | some f => (q.packets f).valid = true ∧ ∀ i ∈ seen, (q.packets i).valid = true →
        (q.packets f).header.sequence - q.nextSequence ≤
          (q.packets i).header.sequence - q.nextSequence := by
  induction seen using List.reverseRecOn with
  | nil => simp
  | append_singleton seen j ih =>
      rw [List.foldl_append, List.foldl_cons, List.foldl_nil]
      -- the slot `j` is compared with the nearest of those before it, if there is one
      cases hf : seen.foldl q.nearer none with
      | none =>
          simp only [hf] at ih
          by_cases hv : (q.packets j).valid = true
          · simp only [Playout.nearer, hv, if_true, List.mem_append, List.mem_singleton, true_and]
            rintro i (hi | rfl) hvi
            · simp [ih i hi] at hvi
            · exact UInt16.le_refl _
          · simp only [Playout.nearer, hv, Bool.false_eq_true, if_false, List.mem_append,
              List.mem_singleton]
            rintro i (hi | rfl)
            · exact ih i hi
            · simpa using hv
      | some f =>
          simp only [hf] at ih
          obtain ⟨hvf, hle⟩ := ih
          by_cases hv : (q.packets j).valid = true
          · -- `j` wins only where it is strictly nearer
            by_cases hlt : (q.packets j).header.sequence - q.nextSequence <
                (q.packets f).header.sequence - q.nextSequence
            · simp only [Playout.nearer, hv, hlt, if_true, List.mem_append, List.mem_singleton,
                true_and]
              rintro i (hi | rfl) hvi
              · exact UInt16.le_trans (UInt16.le_of_lt hlt) (hle i hi hvi)
              · exact UInt16.le_refl _
            · simp only [Playout.nearer, hv, hlt, if_true, if_false, hvf, List.mem_append,
                List.mem_singleton, true_and]
              rintro i (hi | rfl) hvi
              · exact hle i hi hvi
              · exact UInt16.not_lt.mp hlt
          · simp only [Playout.nearer, hv, Bool.false_eq_true, if_false, hvf, List.mem_append,
              List.mem_singleton, true_and]
            rintro i (hi | rfl) hvi
            · exact hle i hi hvi
            · exact absurd hvi hv

theorem foldl_nearer_eq_some (q : Playout) (seen : List Slot) {f : Slot}
    (h : seen.foldl q.nearer none = some f) :
    (q.packets f).valid = true ∧ ∀ i ∈ seen, (q.packets i).valid = true →
      (q.packets f).header.sequence - q.nextSequence ≤
        (q.packets i).header.sequence - q.nextSequence := by
  simpa only [h] using foldl_nearer q seen

theorem foldl_nearer_mem (q : Playout) (seen : List Slot) {f : Slot}
    (h : seen.foldl q.nearer none = some f) : f ∈ seen := by
  induction seen using List.reverseRecOn generalizing f with
  | nil => simp at h
  | append_singleton seen j ih =>
      rw [List.foldl_append, List.foldl_cons, List.foldl_nil] at h
      rw [List.mem_append, List.mem_singleton]
      unfold Playout.nearer at h
      split at h
      · split at h
        · exact Or.inr (Option.some.inj h).symm
        · rename_i g hg
          split at h
          · exact Or.inr (Option.some.inj h).symm
          · exact Or.inl (ih (hg.trans h))
      · exact Or.inl (ih h)

theorem foldl_nearer_eq_none_iff (q : Playout) (seen : List Slot) :
    seen.foldl q.nearer none = none ↔ ∀ i ∈ seen, (q.packets i).valid = false := by
  have h := foldl_nearer q seen
  constructor
  · intro hn
    simpa only [hn] using h
  · intro hall
    cases hf : seen.foldl q.nearer none with
    | none => rfl
    | some f =>
        simp only [hf] at h
        by_cases hmem : f ∈ seen
        · simp [hall f hmem] at h
        · exact absurd (foldl_nearer_mem q seen hf) hmem

theorem playoutPeek_eq_none_iff (q : Playout) :
    playoutPeek q = none ↔ ∀ i, (q.packets i).valid = false := by
  rw [playoutPeek, foldl_nearer_eq_none_iff]
  exact ⟨fun h i => h i (List.mem_finRange i), fun h i _ => h i⟩

/-- **A packet that `playout_peek` returns is valid and nearest.** -/
theorem playoutPeek_eq_some {q : Playout} {f : Slot} (h : playoutPeek q = some f) :
    (q.packets f).valid = true ∧ ∀ i, (q.packets i).valid = true →
      (q.packets f).header.sequence - q.nextSequence ≤
        (q.packets i).header.sequence - q.nextSequence := by
  obtain ⟨hvalid, hle⟩ := foldl_nearer_eq_some q _ h
  exact ⟨hvalid, fun i hi => hle i (List.mem_finRange i) hi⟩

/-- What a push does: it is refused and changes nothing, or stores the packet in a free
slot. -/
inductive PushEffect (q : Playout) (packet : RtpPacket) : Playout × Int → Prop where
  | refused (code : Int) (hcode : code ≤ 0) : PushEffect q packet (q, code)
  | stored (slot : Slot) (hfree : q.freeSlot = some slot)
      (hfresh : q.haveSequence = true → q.started = true →
        0 ≤ q.distance packet.header.sequence)
      (hnew : q.holds packet.header.sequence = false) : PushEffect q packet (q.store slot packet, 1)

theorem playoutPush_effect (q : Playout) (packet : RtpPacket) :
    PushEffect q packet (playoutPush q packet) := by
  rw [playoutPush]
  split
  · exact PushEffect.refused _ (by decide)
  · split
    · exact PushEffect.refused _ (by decide)
    · split
      · exact PushEffect.refused _ (by decide)
      · rename_i hstale
        split
        · exact PushEffect.refused _ (by decide)
        · rename_i hnew
          cases hfree : q.freeSlot with
          | none => exact PushEffect.refused _ (by decide)
          | some slot =>
              refine PushEffect.stored slot hfree (fun hhave hstarted => ?_) ?_
              · exact not_lt.mp fun hlt => hstale ⟨hhave, hstarted, hlt⟩
              · exact Bool.eq_false_iff.mpr hnew

/-- Every queued packet stays in its slot. -/
def Playout.Keeps (q after : Playout) : Prop :=
  ∀ i, (q.packets i).valid = true → after.packets i = q.packets i

theorem Playout.Keeps.refl (q : Playout) : q.Keeps q := fun _ _ => rfl

theorem Playout.Keeps.trans {q r s : Playout} (hqr : q.Keeps r) (hrs : r.Keeps s) :
    q.Keeps s := by
  intro i hi
  have hr := hqr i hi
  rw [← hr] at hi
  rw [hrs i hi, hr]

/-- A push stores its packet in a slot that was free. -/
theorem playoutPush_keeps (q : Playout) (packet : RtpPacket) :
    q.Keeps (playoutPush q packet).1 := by
  have heffect := playoutPush_effect q packet
  generalize playoutPush q packet = r at heffect ⊢
  cases heffect with
  | refused code hcode => exact Playout.Keeps.refl q
  | stored slot hfree hfresh hnew =>
      intro i hi
      have hne : i ≠ slot := by
        rintro rfl
        rw [freeSlot_eq_some hfree] at hi
        exact Bool.false_ne_true hi
      exact Function.update_of_ne hne _ _

end PortableAirplay.Audio
