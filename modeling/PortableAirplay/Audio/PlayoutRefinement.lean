import PortableAirplay.Audio.Playout
import PortableAirplay.Library.PriorityQueue
import PortableAirplay.Library.SerialNumber
import Mathlib.Data.Finset.Card
import Mathlib.Data.Fintype.Card

/-!
# The playout queue refines a bounded priority queue

A sender numbers its packets with unbounded indices and writes the low 16 bits of
each index as the RTP sequence. While every pushed index stays within `2 ^ 15` of
the expected one and of every queued one, the slot array behaves as the priority
queue over the indices themselves (`playout_refines_priorityQueue`).

`Represents` is the simulation relation. A slot does not store its index, so the
relation asks for a labelling of the valid slots.
-/

set_option autoImplicit false

namespace PortableAirplay.Audio

open PortableAirplay.Protocol
open PortableAirplay.Library

/-! ## The two machines -/

/-- Calls on a playout queue. A pop is given the packet that peek returned. -/
inductive PlayoutCall where
  | push (packet : RtpPacket)
  | peek
  | pop

/-- What a call returns; `packet none` is a null pointer. -/
inductive PlayoutReply where
  | code (result : Int)
  | packet (entry : Option RtpPacket)
  deriving DecidableEq

/-- The packet that `playout_peek` points to. -/
def playoutFront (q : Playout) : Option RtpPacket :=
  (playoutPeek q).map fun i => (q.packets i).packet

/-- The playout queue as a machine. -/
def playoutMachine : Machine Playout PlayoutCall PlayoutReply where
  step q
    | .push packet =>
        let r := playoutPush q packet
        (r.1, .code r.2)
    | .peek => (q, .packet (playoutFront q))
    | .pop =>
        match playoutPeek q with
        | none => (q, .packet none)
        | some i => (playoutPop q i, .packet (some (q.packets i).packet))

/-- The payload sizes that the queue stores. -/
def admissiblePayload (packet : RtpPacket) : Bool :=
  decide (0 < packet.payload.length ∧ packet.payload.length ≤ playoutPayloadBytes)

/-- The abstract queue: packets keyed by their unbounded index. -/
abbrev IndexQueue := PriorityQueue ℤ RtpPacket

/-- The abstract machine. -/
def indexMachine : Machine IndexQueue (QueueOp ℤ RtpPacket) (QueueEvent ℤ RtpPacket) :=
  PriorityQueue.machine airplayPlayoutPackets admissiblePayload

/-- The call that an operation on indices stands for. -/
def callOf : QueueOp ℤ RtpPacket → PlayoutCall
  | .push _ packet => .push packet
  | .peek => .peek
  | .pop => .pop

/-- The return code of a push. -/
def codeOf : PushResult → Int
  | .refused => -1
  | .stale => 0
  | .full => -1
  | .accepted => 1

/-- The reply that an event of the abstract queue stands for. -/
def replyOf : QueueEvent ℤ RtpPacket → PlayoutReply
  | .pushed _ _ result => .code (codeOf result)
  | .peeked entry => .packet (entry.map Prod.snd)
  | .popped entry => .packet (entry.map Prod.snd)

/-- The index expected next: after the last popped one, or the least queued one
before the first pop. -/
def expected (s : IndexQueue) : Option ℤ :=
  match s.popped with
  | some p => some (p + 1)
  | none => s.least

/-- A push carries an index that its sequence is the low 16 bits of, within
`2 ^ 15` of the expected index and of every queued index. -/
def Windowed (s : IndexQueue) : QueueOp ℤ RtpPacket → Prop
  | .push n packet =>
      (packet.header.sequence.toNat : ℤ) = n % 2 ^ 16 ∧
        (∀ e ∈ expected s, |n - e| < 2 ^ 15) ∧ ∀ k ∈ s.keys, |n - k| < 2 ^ 15
  | .peek => True
  | .pop => True

instance (s : IndexQueue) (op : QueueOp ℤ RtpPacket) : Decidable (Windowed s op) :=
  match op with
  | .push n packet =>
      inferInstanceAs (Decidable ((packet.header.sequence.toNat : ℤ) = n % 2 ^ 16 ∧
        (∀ e ∈ expected s, |n - e| < 2 ^ 15) ∧ ∀ k ∈ s.keys, |n - k| < 2 ^ 15))
  | .peek => inferInstanceAs (Decidable True)
  | .pop => inferInstanceAs (Decidable True)

/-! ## The simulation relation -/

/-- The slot array holds the abstract queue, under a labelling of valid slots. -/
structure Represents (q : Playout) (s : IndexQueue) (index : Slot → ℤ) : Prop where
  sequence : ∀ i, (q.packets i).valid = true →
    (q.packets i).header.sequence.toBitVec = serial 16 (index i)
  sound : ∀ i, (q.packets i).valid = true →
    index i ∈ s.keys ∧ s.value (index i) = (q.packets i).packet
  complete : ∀ k ∈ s.keys, ∃ i, (q.packets i).valid = true ∧ index i = k
  injective : ∀ i j, (q.packets i).valid = true → (q.packets j).valid = true →
    index i = index j → i = j
  noFloor : q.haveFloor = false
  started : q.started = s.popped.isSome
  haveSequence : q.haveSequence = (expected s).isSome
  next : ∀ e ∈ expected s, q.nextSequence.toBitVec = serial 16 e
  window : ∀ e ∈ expected s, ∀ k ∈ s.keys, e ≤ k ∧ k < e + 2 ^ 15

theorem toBitVec_eq_serial {x : UInt16} {n : ℤ} (h : (x.toNat : ℤ) = n % 2 ^ 16) :
    x.toBitVec = serial 16 n := by
  apply BitVec.eq_of_toNat_eq
  rw [serial, BitVec.toNat_ofInt, UInt16.toNat_toBitVec]
  omega

/-- After `playout_reset` the queue represents the empty one. -/
theorem represents_reset (q : Playout) :
    Represents (playoutReset q) (PriorityQueue.empty : IndexQueue) fun _ => 0 where
  sequence := by simp [playoutReset]
  sound := by simp [playoutReset]
  complete := by simp [PriorityQueue.empty]
  injective := by simp [playoutReset]
  noFloor := rfl
  started := rfl
  haveSequence := by simp [expected, PriorityQueue.empty, PriorityQueue.least, playoutReset]
  next := by simp [expected, PriorityQueue.empty, PriorityQueue.least]
  window := by simp [expected, PriorityQueue.empty, PriorityQueue.least]

section Related

variable {q : Playout} {s : IndexQueue} {index : Slot → ℤ}

/-- The signed distance of the code is the distance of the indices. -/
theorem Represents.distance_eq (h : Represents q s index) {e n : ℤ} (he : e ∈ expected s)
    {x : UInt16} (hx : x.toBitVec = serial 16 n) (hn : |n - e| < 2 ^ 15) :
    q.distance x = n - e := by
  obtain ⟨hlow, hhigh⟩ := abs_lt.mp hn
  show (x.toBitVec - q.nextSequence.toBitVec).toInt = n - e
  rw [hx, h.next e he]
  exact toInt_serial_sub (by norm_num at hlow ⊢; omega) (by norm_num at hhigh ⊢; omega)

/-- An index near the last one popped is after it, unless the code counts its sequence
as late. -/
theorem Represents.ahead_of_popped (h : Represents q s index) {n p : ℤ} {x : UInt16}
    (hx : x.toBitVec = serial 16 n) (hp : p ∈ s.popped) (hn : |n - p| < 2 ^ 15)
    (hfresh : q.haveSequence = true → q.started = true → 0 ≤ q.distance x) : p + 1 ≤ n := by
  obtain ⟨hlow, hhigh⟩ := abs_lt.mp hn
  have hexpected : expected s = some (p + 1) := by simp [expected, Option.mem_def.mp hp]
  have hhave : q.haveSequence = true :=
    h.haveSequence.trans (by rw [hexpected, Option.isSome_some])
  have hstarted : q.started = true := h.started.trans (by rw [hp, Option.isSome_some])
  -- one below `p` may be half the circle from `p + 1`, where the distance is still negative
  have hdistance : q.distance x = n - (p + 1) := by
    show (x.toBitVec - q.nextSequence.toBitVec).toInt = _
    rw [hx, h.next _ hexpected]
    exact toInt_serial_sub (by norm_num at hlow ⊢; omega) (by norm_num at hhigh ⊢; omega)
  have hahead := hfresh hhave hstarted
  omega

/-- The index expected is near one that is near the queued indices and the last popped one. -/
theorem expected_near {n : ℤ} (hkeys : ∀ k ∈ s.keys, |n - k| < 2 ^ 15)
    (hpopped : ∀ p ∈ s.popped, |n - (p + 1)| < 2 ^ 15) : ∀ e ∈ expected s, |n - e| < 2 ^ 15 := by
  intro e he
  rw [expected] at he
  cases hp : s.popped with
  | none =>
      rw [hp] at he
      exact hkeys e ((s.least_eq_some_iff e).mp he).1
  | some p =>
      rw [hp] at he
      obtain rfl : p + 1 = e := Option.some.inj he
      exact hpopped p hp

/-- A new index differs from every queued one exactly when its sequence does. -/
theorem Represents.holds_iff (h : Represents q s index) {n : ℤ} {x : UInt16}
    (hx : x.toBitVec = serial 16 n) (hn : ∀ k ∈ s.keys, |n - k| < 2 ^ 15) :
    q.holds x = true ↔ n ∈ s.keys := by
  have hsame : ∀ k ∈ s.keys, serial 16 k = serial 16 n → k = n := by
    intro k hk hkn
    obtain ⟨hlow, hhigh⟩ := abs_lt.mp (hn k hk)
    exact (serial_inj (by norm_num at hlow hhigh ⊢; omega)
      (by norm_num at hlow hhigh ⊢; omega)).mp hkn
  rw [holds_eq_true_iff]
  constructor
  · rintro ⟨i, hvalid, hseq⟩
    have hmem := (h.sound i hvalid).1
    have heq := hsame _ hmem (by rw [← h.sequence i hvalid, hseq, hx])
    exact heq ▸ hmem
  · intro hmem
    obtain ⟨i, hvalid, hi⟩ := h.complete n hmem
    refine ⟨i, hvalid, UInt16.toBitVec_inj.mp ?_⟩
    rw [h.sequence i hvalid, hi, hx]

/-- The queued indices are as many as the valid slots. -/
theorem Represents.card_keys (h : Represents q s index) :
    s.keys.card = (Finset.univ.filter fun i => (q.packets i).valid = true).card := by
  have himage : s.keys = (Finset.univ.filter fun i => (q.packets i).valid = true).image index := by
    ext k
    simp only [Finset.mem_image, Finset.mem_filter, Finset.mem_univ, true_and]
    constructor
    · exact fun hk => h.complete k hk
    · rintro ⟨i, hvalid, rfl⟩
      exact (h.sound i hvalid).1
  rw [himage]
  refine Finset.card_image_of_injOn ?_
  intro i hi j hj hij
  simp only [Finset.coe_filter, Finset.mem_univ, true_and, Set.mem_ofPred_eq] at hi hj
  exact h.injective i j hi hj hij

/-- No slot is free exactly when the abstract queue is full. -/
theorem Represents.freeSlot_none_iff (h : Represents q s index) :
    q.freeSlot = none ↔ s.keys.card = airplayPlayoutPackets := by
  have hall : (Finset.univ : Finset Slot).card = airplayPlayoutPackets := Finset.card_fin _
  rw [freeSlot_eq_none_iff, h.card_keys]
  constructor
  · intro hvalid
    rw [Finset.filter_true_of_mem fun i _ => hvalid i, hall]
  · intro hcard i
    have huniv := Finset.eq_univ_of_card _ (hcard.trans (Fintype.card_fin _).symm)
    simpa using (Finset.eq_univ_iff_forall.mp huniv) i

/-- A queue that holds something expects an index. -/
theorem exists_expected {k : ℤ} (hk : k ∈ s.keys) : ∃ e, e ∈ expected s := by
  unfold expected
  cases s.popped with
  | some p => exact ⟨p + 1, rfl⟩
  | none =>
      cases hl : s.least with
      | some m => exact ⟨m, rfl⟩
      | none =>
          rw [s.least_eq_none_iff.mp hl] at hk
          simp at hk

/-- The packet that peek returns is the one of least index. -/
theorem Represents.peek_eq (h : Represents q s index) {i : Slot} (hi : playoutPeek q = some i) :
    s.least = some (index i) := by
  obtain ⟨hvalid, hnear⟩ := playoutPeek_eq_some hi
  obtain ⟨hmem, -⟩ := h.sound i hvalid
  rw [PriorityQueue.least_eq_some_iff]
  refine ⟨hmem, fun k hk => ?_⟩
  obtain ⟨j, hj, rfl⟩ := h.complete k hk
  obtain ⟨e, he⟩ := exists_expected hmem
  -- both distances are counted from the index expected next, where the window starts
  have hoff : ∀ x, (q.packets x).valid = true →
      (((q.packets x).header.sequence - q.nextSequence).toNat : ℤ) = index x - e := by
    intro x hx
    obtain ⟨hle, hlt⟩ := h.window e he _ (h.sound x hx).1
    show (((q.packets x).header.sequence.toBitVec - q.nextSequence.toBitVec).toNat : ℤ) = _
    rw [h.sequence x hx, h.next e he]
    exact toNat_serial_sub hle (by norm_num at hlt ⊢; omega)
  have hle := UInt16.le_iff_toNat_le.mp (hnear j hj)
  have hi' := hoff i hvalid
  have hj' := hoff j hj
  omega

theorem Represents.peek_none_iff (h : Represents q s index) :
    playoutPeek q = none ↔ s.least = none := by
  rw [playoutPeek_eq_none_iff, PriorityQueue.least_eq_none_iff]
  constructor
  · intro hall
    refine Finset.eq_empty_of_forall_notMem fun k hk => ?_
    obtain ⟨i, hvalid, -⟩ := h.complete k hk
    simp [hall i] at hvalid
  · intro hempty i
    by_contra hvalid
    have hmem := (h.sound i (by simpa using hvalid)).1
    simp [hempty] at hmem

/-- The index expected after an accepted push: unchanged once a packet was
popped, else the least of the old one and the new index. -/
theorem expected_insert (s : IndexQueue) {n : ℤ} (packet : RtpPacket) (h : ¬ s.Passed n) :
    expected (s.insert n packet h) =
      match s.popped, s.least with
      | some p, _ => some (p + 1)
      | none, none => some n
      | none, some m => some (min n m) := by
  unfold expected
  cases hp : s.popped with
  | some p => simp only [PriorityQueue.insert, hp]
  | none =>
      simp only [show (s.insert n packet h).popped = none from hp]
      cases hl : s.least with
      | none => exact PriorityQueue.least_insert_of_none h hl
      | some m => exact PriorityQueue.least_insert_of_some h hl

/-- The sequence that the code expects next follows the index expected next: it only moves
back, to a packet that comes before the first one was popped. -/
theorem Represents.store_next (h : Represents q s index) {n : ℤ} {packet : RtpPacket}
    {slot : Slot} (hw : Windowed s (.push n packet)) (hpassed : ¬ s.Passed n) :
    ∀ e ∈ expected (s.insert n packet hpassed),
      (q.store slot packet).nextSequence.toBitVec = serial 16 e := by
  obtain ⟨hlabel, hexp, -⟩ := hw
  have hseq := toBitVec_eq_serial hlabel
  intro e he
  rw [expected_insert] at he
  cases hp : s.popped with
  | some p =>
      -- once a packet was popped, a push does not touch the sequence
      have hexpd : expected s = some (p + 1) := by simp [expected, hp]
      have hkeep : (q.store slot packet).nextSequence = q.nextSequence := by
        simp [Playout.store, h.haveSequence, h.started, hexpd, hp]
      rw [hkeep]
      refine h.next e ?_
      simpa [hp, hexpd] using he
  | none =>
      have hstart : q.started = false := by simp [h.started, hp]
      cases hl : s.least with
      | none =>
          -- the first packet of an empty queue sets it
          have hexpd : expected s = none := by simp [expected, hp, hl]
          have hseq0 : (q.store slot packet).nextSequence = packet.header.sequence := by
            simp [Playout.store, h.haveSequence, hexpd]
          obtain rfl : n = e := by simpa [hp, hl] using he
          rw [hseq0, hseq]
      | some m =>
          -- before the first pop a packet that comes earlier moves it back
          have hexpd : expected s = some m := by simp [expected, hp, hl]
          have hdist := h.distance_eq (hexpd ▸ rfl : m ∈ expected s) hseq (hexp m hexpd)
          obtain rfl : min n m = e := by simpa [hp, hl] using he
          by_cases hlt : n < m
          · have hseq1 : (q.store slot packet).nextSequence = packet.header.sequence := by
              simp [Playout.store, hstart, hdist, hlt]
            rw [hseq1, hseq, min_eq_left hlt.le]
          · have hkeep : (q.store slot packet).nextSequence = q.nextSequence := by
              simp [Playout.store, h.haveSequence, hexpd, hdist, hlt]
            rw [hkeep, min_eq_right (not_lt.mp hlt)]
            exact h.next m hexpd

/-- The window stays: the new index lies in it, or before it and then nothing was popped. -/
theorem Represents.store_window (h : Represents q s index) {n : ℤ} {packet : RtpPacket}
    (hw : Windowed s (.push n packet)) (hpassed : ¬ s.Passed n) :
    ∀ e ∈ expected (s.insert n packet hpassed),
      ∀ k ∈ (s.insert n packet hpassed).keys, e ≤ k ∧ k < e + 2 ^ 15 := by
  obtain ⟨-, hexp, hnear⟩ := hw
  intro e he k hk
  rw [expected_insert] at he
  cases hp : s.popped with
  | some p =>
      have hexpd : expected s = some (p + 1) := by simp [expected, hp]
      obtain rfl : p + 1 = e := by simpa [hp] using he
      rcases Finset.mem_insert.mp hk with rfl | hk
      · -- past the last key popped, and within half the range of the one expected
        have hlt : p < k := lt_of_not_ge fun hle => hpassed ⟨p, hp, hle⟩
        have habs := abs_lt.mp (hexp _ hexpd)
        omega
      · exact h.window _ hexpd k hk
  | none =>
      cases hl : s.least with
      | none =>
          obtain rfl : n = e := by simpa [hp, hl] using he
          have hempty := s.least_eq_none_iff.mp hl
          rcases Finset.mem_insert.mp hk with rfl | hk
          · omega
          · simp [hempty] at hk
      | some m =>
          have hexpd : expected s = some m := by simp [expected, hp, hl]
          -- before the first pop the window starts at the least key
          obtain rfl : min n m = e := by simpa [hp, hl] using he
          have habs := abs_lt.mp (hexp _ hexpd)
          rcases Finset.mem_insert.mp hk with rfl | hk
          · omega
          · have hwin := h.window _ hexpd k hk
            have hk' := abs_lt.mp (hnear k hk)
            omega

/-- An accepted push stores the packet under its index. -/
theorem Represents.store (h : Represents q s index) {n : ℤ} {packet : RtpPacket} {slot : Slot}
    (hw : Windowed s (.push n packet)) (hpassed : ¬ s.Passed n) (hnew : n ∉ s.keys)
    (hfree : (q.packets slot).valid = false) :
    Represents (q.store slot packet) (s.insert n packet hpassed)
      (Function.update index slot n) := by
  have hseq := toBitVec_eq_serial hw.1
  have hother : ∀ i, i ≠ slot → ((q.store slot packet).packets i) = q.packets i :=
    fun i hi => Function.update_of_ne hi _ _
  have hself : (q.store slot packet).packets slot = ⟨packet.header, packet.payload, true⟩ :=
    Function.update_self _ _ _
  -- the slots in use are others than the free one
  have hne : ∀ i, (q.packets i).valid = true → i ≠ slot := by
    rintro i hi rfl
    simp [hfree] at hi
  refine
    { sequence := ?_, sound := ?_, complete := ?_, injective := ?_, noFloor := h.noFloor,
      started := h.started, haveSequence := ?_, next := h.store_next hw hpassed,
      window := h.store_window hw hpassed }
  · intro i hi
    by_cases hs : i = slot
    · subst hs
      rw [hself, Function.update_self]
      exact hseq
    · rw [hother i hs] at hi ⊢
      rw [Function.update_of_ne hs]
      exact h.sequence i hi
  · intro i hi
    by_cases hs : i = slot
    · subst hs
      rw [Function.update_self, hself]
      exact ⟨Finset.mem_insert_self _ _, Function.update_self _ _ _⟩
    · rw [hother i hs] at hi ⊢
      rw [Function.update_of_ne hs]
      obtain ⟨hmem, hval⟩ := h.sound i hi
      have hin : index i ≠ n := fun he => hnew (he ▸ hmem)
      exact ⟨Finset.mem_insert_of_mem hmem, (Function.update_of_ne hin _ _).trans hval⟩
  · intro k hk
    rcases Finset.mem_insert.mp hk with rfl | hk
    · exact ⟨slot, by rw [hself], Function.update_self _ _ _⟩
    · obtain ⟨i, hi, rfl⟩ := h.complete k hk
      exact ⟨i, by rw [hother i (hne i hi)]; exact hi, Function.update_of_ne (hne i hi) _ _⟩
  · -- the new slot is the only one with the new index
    have hfresh : ∀ i, i ≠ slot → ((q.store slot packet).packets i).valid = true →
        Function.update index slot n i ≠ n := by
      intro i hs hi he
      rw [hother i hs] at hi
      rw [Function.update_of_ne hs] at he
      exact hnew (he ▸ (h.sound i hi).1)
    intro i j hi hj hij
    by_cases hsi : i = slot
    · by_cases hsj : j = slot
      · rw [hsi, hsj]
      · rw [hsi, Function.update_self] at hij
        exact absurd hij.symm (hfresh j hsj hj)
    · by_cases hsj : j = slot
      · rw [hsj, Function.update_self] at hij
        exact absurd hij (hfresh i hsi hi)
      · rw [hother i hsi] at hi
        rw [hother j hsj] at hj
        rw [Function.update_of_ne hsi, Function.update_of_ne hsj] at hij
        exact h.injective i j hi hj hij
  · rw [expected_insert]
    cases s.popped with
    | some p => rfl
    | none => cases s.least <;> rfl

/-- Popping the packet that peek returned gives out the least index. -/
theorem Represents.pop (h : Represents q s index) {i : Slot} (hi : playoutPeek q = some i)
    (hl : s.least = some (index i)) :
    Represents (playoutPop q i) (s.remove (index i) hl) index := by
  obtain ⟨hvalid, -⟩ := playoutPeek_eq_some hi
  obtain ⟨hmem, -⟩ := h.sound i hvalid
  have hself : ((playoutPop q i).packets i).valid = false := by simp [playoutPop]
  have hother : ∀ j, j ≠ i → (playoutPop q i).packets j = q.packets j :=
    fun j hj => Function.update_of_ne hj _ _
  -- what is still valid was so before, in another slot
  have hstill : ∀ j, ((playoutPop q i).packets j).valid = true →
      j ≠ i ∧ (q.packets j).valid = true := by
    intro j hj
    have hne : j ≠ i := by
      rintro rfl
      simp [hself] at hj
    exact ⟨hne, by rwa [hother j hne] at hj⟩
  have hexpd : expected (s.remove (index i) hl) = some (index i + 1) := rfl
  refine
    { sequence := ?_, sound := ?_, complete := ?_, injective := ?_, noFloor := rfl,
      started := rfl, haveSequence := ?_, next := ?_, window := ?_ }
  · intro j hj
    obtain ⟨hne, hv⟩ := hstill j hj
    rw [hother j hne]
    exact h.sequence j hv
  · intro j hj
    obtain ⟨hne, hv⟩ := hstill j hj
    obtain ⟨hk, hval⟩ := h.sound j hv
    rw [hother j hne]
    exact ⟨Finset.mem_erase_of_ne_of_mem (fun he => hne (h.injective j i hv hvalid he)) hk, hval⟩
  · intro k hk
    obtain ⟨hne, hk⟩ := Finset.mem_erase.mp hk
    obtain ⟨j, hv, rfl⟩ := h.complete k hk
    have hji : j ≠ i := by
      rintro rfl
      exact hne rfl
    exact ⟨j, by rwa [hother j hji], rfl⟩
  · intro j j' hj hj' he
    exact h.injective j j' (hstill j hj).2 (hstill j' hj').2 he
  · rw [hexpd]
    show q.haveSequence = true
    rw [h.haveSequence]
    unfold expected
    cases s.popped with
    | some p => rfl
    | none => rw [hl]; rfl
  · intro e he
    obtain rfl : index i + 1 = e := by simpa [hexpd] using he
    show (q.packets i).header.sequence.toBitVec + 1 = _
    rw [h.sequence i hvalid, serial_add_one]
  · intro e he k hk
    obtain rfl : index i + 1 = e := by simpa [hexpd] using he
    obtain ⟨hne, hk⟩ := Finset.mem_erase.mp hk
    have hlt : index i ≤ k := ((s.least_eq_some_iff _).mp hl).2 k hk
    obtain ⟨e, he⟩ := exists_expected hmem
    have hlow := h.window e he _ hmem
    have hhigh := h.window e he _ hk
    omega

end Related

/-! ## Refinement of runs -/

/-- A push in window gives the abstract answer and keeps the relation. -/
theorem represents_push {q : Playout} {s : IndexQueue} (h : ∃ index, Represents q s index)
    (n : ℤ) (packet : RtpPacket) (hw : Windowed s (.push n packet)) :
    (∃ index, Represents (playoutPush q packet).1
        (s.push airplayPlayoutPackets admissiblePayload n packet).1 index) ∧
      (playoutPush q packet).2 =
        codeOf (s.push airplayPlayoutPackets admissiblePayload n packet).2 := by
  obtain ⟨index, h⟩ := h
  have hseq := toBitVec_eq_serial hw.1
  unfold playoutPush PriorityQueue.push
  by_cases hsize : packet.payload.length = 0 ∨ packet.payload.length > playoutPayloadBytes
  · have hadm : admissiblePayload packet = false := by
      simp only [admissiblePayload, decide_eq_false_iff_not]
      omega
    rw [if_pos hsize, if_pos hadm]
    exact ⟨⟨index, h⟩, rfl⟩
  · have hadm : ¬ admissiblePayload packet = false := by
      simp only [admissiblePayload, decide_eq_false_iff_not, not_not]
      omega
    have hfloor : ¬ q.beforeFloor packet.header.timestamp = true := by
      simp [Playout.beforeFloor, h.noFloor]
    -- behind the last one that left is below the expected index
    have hpast : (q.haveSequence = true ∧ q.started = true ∧
        q.distance packet.header.sequence < 0) ↔ s.Passed n := by
      unfold PriorityQueue.Passed
      cases hp : s.popped with
      | none => simp [h.started, hp]
      | some p =>
          have hexpd : expected s = some (p + 1) := by simp [expected, hp]
          rw [h.distance_eq hexpd hseq (hw.2.1 _ hexpd)]
          simp only [h.haveSequence, h.started, hexpd, hp, Option.isSome_some, true_and,
            Option.mem_def, Option.some.injEq, exists_eq_left']
          omega
    rw [if_neg hsize, if_neg hfloor, if_neg hadm]
    -- from here on both queues ask the same questions in the same order
    by_cases hpassed : s.Passed n
    · rw [if_pos (hpast.mpr hpassed), dif_pos hpassed]
      exact ⟨⟨index, h⟩, rfl⟩
    · rw [if_neg (fun hc => hpassed (hpast.mp hc)), dif_neg hpassed]
      by_cases hdup : n ∈ s.keys
      · rw [if_pos ((h.holds_iff hseq hw.2.2).mpr hdup), if_pos hdup]
        exact ⟨⟨index, h⟩, rfl⟩
      · rw [if_neg (fun hc => hdup ((h.holds_iff hseq hw.2.2).mp hc)), if_neg hdup]
        cases hfree : q.freeSlot with
        | none =>
            rw [if_pos (h.freeSlot_none_iff.mp hfree)]
            exact ⟨⟨index, h⟩, rfl⟩
        | some slot =>
            have hroom : ¬ s.keys.card = airplayPlayoutPackets := by
              intro hc
              rw [h.freeSlot_none_iff.mpr hc] at hfree
              simp at hfree
            rw [if_neg hroom]
            exact ⟨⟨_, h.store hw hpassed hdup (freeSlot_eq_some hfree)⟩, rfl⟩

/-- The packet at the front is the abstract one. -/
theorem represents_front {q : Playout} {s : IndexQueue} {index : Slot → ℤ}
    (h : Represents q s index) : playoutFront q = s.peek.map Prod.snd := by
  unfold playoutFront PriorityQueue.peek
  cases hi : playoutPeek q with
  | none => rw [h.peek_none_iff.mp hi]; rfl
  | some i =>
      obtain ⟨hvalid, -⟩ := playoutPeek_eq_some hi
      rw [h.peek_eq hi]
      simp [(h.sound i hvalid).2]

/-- One call is one operation of the abstract queue. -/
theorem represents_step {q : Playout} {s : IndexQueue} (h : ∃ index, Represents q s index)
    (op : QueueOp ℤ RtpPacket) (hw : Windowed s op) :
    (∃ index, Represents (playoutMachine.step q (callOf op)).1 (indexMachine.step s op).1 index) ∧
      (playoutMachine.step q (callOf op)).2 = replyOf (indexMachine.step s op).2 := by
  cases op with
  | push n packet =>
      obtain ⟨hrel, hcode⟩ := represents_push h n packet hw
      exact ⟨hrel, congrArg PlayoutReply.code hcode⟩
  | peek =>
      obtain ⟨index, h⟩ := h
      exact ⟨⟨index, h⟩, congrArg PlayoutReply.packet (represents_front h)⟩
  | pop =>
      obtain ⟨index, h⟩ := h
      cases hi : playoutPeek q with
      | none =>
          have hl := h.peek_none_iff.mp hi
          simp only [playoutMachine, callOf, indexMachine, PriorityQueue.machine, hi,
            PriorityQueue.pop_of_least_none hl, replyOf]
          exact ⟨⟨index, h⟩, rfl⟩
      | some i =>
          have hl := h.peek_eq hi
          obtain ⟨hvalid, -⟩ := playoutPeek_eq_some hi
          simp only [playoutMachine, callOf, indexMachine, PriorityQueue.machine, hi,
            PriorityQueue.pop_of_least_some hl, replyOf, Option.map_some]
          exact ⟨⟨index, h.pop hi hl⟩, by rw [(h.sound i hvalid).2]⟩

/-- **The playout queue refines the bounded priority queue over unbounded
indices.** After `playout_reset`, a run in window returns what the abstract queue
returns: in particular it gives out indices in strictly increasing order, and
every accepted packet is given out once or still queued, unaltered. -/
theorem playout_refines_priorityQueue (q : Playout) (ops : List (QueueOp ℤ RtpPacket))
    (hops : indexMachine.Guarded Windowed PriorityQueue.empty ops) :
    (playoutMachine.run (playoutReset q) (ops.map callOf)).2 =
        (indexMachine.run PriorityQueue.empty ops).2.map replyOf ∧
      ((poppedEntries (indexMachine.run PriorityQueue.empty ops).2).map Prod.fst).Pairwise
        (· < ·) ∧
      (acceptedEntries (indexMachine.run PriorityQueue.empty ops).2 : Multiset (ℤ × RtpPacket)) =
        poppedEntries (indexMachine.run PriorityQueue.empty ops).2 +
          (indexMachine.run PriorityQueue.empty ops).1.queuedEntries := by
  obtain ⟨-, hreply⟩ := playoutMachine.run_refines indexMachine
    (fun q s => ∃ index, Represents q s index) callOf replyOf
    (fun q s op h hw => represents_step h op hw) ops (playoutReset q) PriorityQueue.empty
    ⟨_, represents_reset q⟩ hops
  have hacc := PriorityQueue.accounted_run airplayPlayoutPackets admissiblePayload ops
  exact ⟨hreply, List.pairwise_map.mpr hacc.increasing, hacc.balance⟩

/-- A queue that never held a packet. -/
def blankPlayout : Playout :=
  ⟨fun _ => ⟨RtpHeader.zero, [], false⟩, 0, 0, false, false, false, false, 0⟩

/-- A one-byte packet. -/
def oneByte (sequence : UInt16) (byte : UInt8) : RtpPacket :=
  ⟨{ RtpHeader.zero with sequence := sequence }, [byte]⟩

/-- The indices 65536 and 65535 arrive in this order, are popped, and 65535
arrives again. -/
def lateArrival : List (QueueOp ℤ RtpPacket) :=
  [.push 65536 (oneByte 0 2), .push 65535 (oneByte 65535 1), .pop, .pop,
    .push 65535 (oneByte 65535 1)]

theorem playout_lateArrival :
    (playoutMachine.run (playoutReset blankPlayout) (lateArrival.map callOf)).2 =
      [.code 1, .code 1, .packet (some (oneByte 65535 1)), .packet (some (oneByte 0 2)),
        .code 0] := by
  rw [(playout_refines_priorityQueue blankPlayout lateArrival (by decide)).1]
  decide

end PortableAirplay.Audio
