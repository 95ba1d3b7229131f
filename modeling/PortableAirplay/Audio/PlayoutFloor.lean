import PortableAirplay.Audio.PlayoutRefinement

/-!
# The RTP boundary

`playout_set_floor` arms a boundary that `playout_push` tests until the first pop, which
disarms it. From then on the sequence filter keeps old packets out: what is accepted
follows the packet popped last, and in a stream whose timestamps increase with its
sequence numbers it is no earlier than that packet. `FloorKept` is the invariant on both
sides of the hand-over, and `playout_floor_kept` the result for runs.
-/

set_option autoImplicit false

namespace PortableAirplay.Audio

open PortableAirplay.Protocol
open PortableAirplay.Library

/-- A packet of a stream, with its sequence number and timestamp before they are cut to
16 and 32 bits. -/
structure Numbered where
  index : ℤ
  time : ℤ
  packet : RtpPacket

/-- The packets of a stream near the boundary `floor`: timestamps increase strictly with
sequence numbers, which span less than `2 ^ 15`. -/
structure NearFloor (floor : ℤ) (stream : List Numbered) : Prop where
  sequence : ∀ n ∈ stream, (n.packet.header.sequence.toNat : ℤ) = n.index % 2 ^ 16
  timestamp : ∀ n ∈ stream, (n.packet.header.timestamp.toNat : ℤ) = n.time % 2 ^ 32
  increasing : ∀ n ∈ stream, ∀ m ∈ stream, n.index < m.index → n.time < m.time
  span : ∀ n ∈ stream, ∀ m ∈ stream, |n.index - m.index| < 2 ^ 15
  near : ∀ n ∈ stream, |n.time - floor| ≤ 2 ^ 31

/-- At or after the boundary; strictly after it if it is exclusive. -/
def AfterFloor (floor : ℤ) (exclusive : Bool) (n : Numbered) : Prop :=
  floor ≤ n.time ∧ (exclusive = true → floor < n.time)

/-- The packet belongs to the stream and follows the boundary. -/
def InStream (floor : ℤ) (exclusive : Bool) (stream : List Numbered) (packet : RtpPacket) : Prop :=
  ∃ n ∈ stream, n.packet = packet ∧ AfterFloor floor exclusive n

/-- The boundary is still armed, and no packet was popped. -/
structure Armed (timestamp : UInt32) (exclusive : Bool) (q : Playout) : Prop where
  haveFloor : q.haveFloor = true
  timestampFloor : q.timestampFloor = timestamp
  floorExclusive : q.floorExclusive = exclusive

/-- The queue expects the sequence number after that of a packet that follows the
boundary. -/
structure HandedOver (floor : ℤ) (exclusive : Bool) (stream : List Numbered) (q : Playout) : Prop where
  started : q.started = true
  haveSequence : q.haveSequence = true
  next : ∃ n ∈ stream, AfterFloor floor exclusive n ∧
    q.nextSequence.toBitVec = serial 16 (n.index + 1)

/-- **The invariant of the boundary.** -/
structure FloorKept (floor : ℤ) (timestamp : UInt32) (exclusive : Bool) (stream : List Numbered)
    (q : Playout) : Prop where
  queued : ∀ i, (q.packets i).valid = true →
    q.haveSequence = true ∧ InStream floor exclusive stream (q.packets i).packet
  guard : Armed timestamp exclusive q ∨ HandedOver floor exclusive stream q

section Kept

variable {floor : ℤ} {timestamp : UInt32} {exclusive : Bool} {stream : List Numbered}
  {q : Playout}

theorem floorKept_setFloor (floor : ℤ) (timestamp : UInt32) (exclusive : Bool)
    (stream : List Numbered) (q : Playout) :
    FloorKept floor timestamp exclusive stream (playoutSetFloor q timestamp exclusive) where
  queued := fun _ hvalid => absurd hvalid Bool.false_ne_true
  guard := Or.inl ⟨rfl, rfl, rfl⟩

/-- While the boundary is armed, a packet that passes its test follows it. -/
theorem Armed.follows (h : Armed timestamp exclusive q)
    (hfloor : (timestamp.toNat : ℤ) = floor % 2 ^ 32) (hnear : NearFloor floor stream)
    {n : Numbered} (hn : n ∈ stream)
    (hpass : q.beforeFloor n.packet.header.timestamp = false) : AfterFloor floor exclusive n := by
  have htime := hnear.timestamp n hn
  obtain ⟨hlow, hhigh⟩ := abs_le.mp (hnear.near n hn)
  have hstamp : n.packet.header.timestamp.toBitVec = serial 32 n.time := by
    apply BitVec.eq_of_toNat_eq
    rw [serial, BitVec.toNat_ofInt, UInt32.toNat_toBitVec]
    omega
  have hbase : timestamp.toBitVec = serial 32 floor := by
    apply BitVec.eq_of_toNat_eq
    rw [serial, BitVec.toNat_ofInt, UInt32.toNat_toBitVec]
    omega
  rw [Playout.beforeFloor, h.haveFloor, h.timestampFloor, h.floorExclusive] at hpass
  -- at a distance of `2 ^ 31` the time is after the boundary, or looks as if before it
  rcases eq_or_lt_of_le hhigh with hfar | hclose
  · exact ⟨by omega, fun _ => by omega⟩
  · have hdelta : (n.packet.header.timestamp - timestamp).toInt32.toInt = n.time - floor := by
      show (n.packet.header.timestamp.toBitVec - timestamp.toBitVec).toInt = _
      rw [hstamp, hbase]
      exact toInt_serial_sub (by norm_num; omega) (by norm_num at hclose ⊢; omega)
    rw [hdelta] at hpass
    simp only [Bool.true_and, Bool.or_eq_false_iff, decide_eq_false_iff_not, Bool.and_eq_false_iff,
      not_lt] at hpass
    obtain ⟨hnonneg, hequal⟩ := hpass
    refine ⟨by omega, fun hexclusive => ?_⟩
    rcases hequal with hne | hinclusive
    · omega
    · exact Bool.noConfusion (hexclusive.symm.trans hinclusive)

/-- After the first pop, a packet that passes the sequence filter follows the boundary,
because it follows the packet popped last. -/
theorem HandedOver.follows (h : HandedOver floor exclusive stream q) (hnear : NearFloor floor stream)
    {n : Numbered} (hn : n ∈ stream) (hfresh : 0 ≤ q.distance n.packet.header.sequence) :
    AfterFloor floor exclusive n := by
  obtain ⟨m, hm, hfollows, hnext⟩ := h.next
  have hspan := abs_lt.mp (hnear.span n hn m hm)
  have hdistance : q.distance n.packet.header.sequence = n.index - (m.index + 1) := by
    show (n.packet.header.sequence.toBitVec - q.nextSequence.toBitVec).toInt = _
    rw [toBitVec_eq_serial (hnear.sequence n hn), hnext]
    exact toInt_serial_sub (by norm_num at hspan ⊢; omega) (by norm_num at hspan ⊢; omega)
  have hlater : m.time < n.time := hnear.increasing m hm n hn (by omega)
  obtain ⟨hle, -⟩ := hfollows
  exact ⟨by omega, fun _ => by omega⟩

theorem playoutPush_beforeFloor {packet : RtpPacket}
    (h : q.beforeFloor packet.header.timestamp = true) : (playoutPush q packet).1 = q := by
  rw [playoutPush]
  split
  · rfl
  · rfl

/-- **A push keeps the invariant.** -/
theorem FloorKept.push (h : FloorKept floor timestamp exclusive stream q)
    (hfloor : (timestamp.toNat : ℤ) = floor % 2 ^ 32) (hnear : NearFloor floor stream)
    {n : Numbered} (hn : n ∈ stream) :
    FloorKept floor timestamp exclusive stream (playoutPush q n.packet).1 := by
  by_cases hbefore : q.beforeFloor n.packet.header.timestamp = true
  · rw [playoutPush_beforeFloor hbefore]
    exact h
  · rw [Bool.not_eq_true] at hbefore
    have heffect := playoutPush_effect q n.packet
    generalize playoutPush q n.packet = r at heffect ⊢
    cases heffect with
    | refused code hcode => exact h
    | stored slot hfree hfresh hnew =>
        have hafter : AfterFloor floor exclusive n := by
          rcases h.guard with harmed | hover
          · exact harmed.follows hfloor hnear hn hbefore
          · exact hover.follows hnear hn (hfresh hover.haveSequence hover.started)
        refine ⟨fun i hi => ⟨rfl, ?_⟩, ?_⟩
        · by_cases hslot : i = slot
          · have hself : (q.store slot n.packet).packets i =
                ⟨n.packet.header, n.packet.payload, true⟩ := by
              rw [hslot]
              exact Function.update_self _ _ _
            rw [hself]
            exact ⟨n, hn, rfl, hafter⟩
          · have hother : (q.store slot n.packet).packets i = q.packets i :=
              Function.update_of_ne hslot _ _
            rw [hother] at hi ⊢
            exact (h.queued i hi).2
        · rcases h.guard with harmed | ⟨hstarted, hsequence, hnext⟩
          · exact Or.inl ⟨harmed.haveFloor, harmed.timestampFloor, harmed.floorExclusive⟩
          · -- the expected sequence number moves only before the first pop
            have hkeep : (q.store slot n.packet).nextSequence = q.nextSequence := by
              simp [Playout.store, hstarted, hsequence]
            refine Or.inr ⟨hstarted, rfl, ?_⟩
            rw [hkeep]
            exact hnext

/-- **A pop keeps the invariant**, and hands over from the boundary to the filter. -/
theorem FloorKept.pop (h : FloorKept floor timestamp exclusive stream q)
    (hnear : NearFloor floor stream) {i : Slot} (hvalid : (q.packets i).valid = true) :
    FloorKept floor timestamp exclusive stream (playoutPop q i) := by
  obtain ⟨hsequence, n, hn, hpacket, hfollows⟩ := h.queued i hvalid
  refine ⟨fun j hj => ?_, Or.inr ⟨rfl, hsequence, n, hn, hfollows, ?_⟩⟩
  · have hne : j ≠ i := by
      rintro rfl
      have hfreed : ((playoutPop q j).packets j).valid = false := by simp [playoutPop]
      exact Bool.noConfusion (hfreed.symm.trans hj)
    have hsame : (playoutPop q i).packets j = q.packets j := Function.update_of_ne hne _ _
    rw [hsame] at hj ⊢
    exact h.queued j hj
  · show (q.packets i).header.sequence.toBitVec + 1 = _
    have hheader : (q.packets i).header = n.packet.header := congrArg RtpPacket.header hpacket.symm
    rw [hheader, toBitVec_eq_serial (hnear.sequence n hn), serial_add_one]

/-- **A call keeps the invariant**, and what it returns follows the boundary. -/
theorem FloorKept.step (h : FloorKept floor timestamp exclusive stream q)
    (hfloor : (timestamp.toNat : ℤ) = floor % 2 ^ 32) (hnear : NearFloor floor stream)
    {call : PlayoutCall} (hcall : ∀ packet, call = .push packet → ∃ n ∈ stream, n.packet = packet) :
    FloorKept floor timestamp exclusive stream (playoutMachine.step q call).1 ∧
      ∀ packet, (playoutMachine.step q call).2 = .packet (some packet) →
        InStream floor exclusive stream packet := by
  -- what is at the front is queued, and what is queued is in the stream
  have hfront : ∀ i, playoutPeek q = some i →
      InStream floor exclusive stream (q.packets i).packet := fun i hi =>
    (h.queued i (playoutPeek_eq_some hi).1).2
  cases call with
  | push packet =>
      obtain ⟨n, hn, rfl⟩ := hcall packet rfl
      refine ⟨h.push hfloor hnear hn, fun packet hreply => ?_⟩
      have hcode : PlayoutReply.code (playoutPush q n.packet).2 = .packet (some packet) := hreply
      exact PlayoutReply.noConfusion hcode
  | peek =>
      refine ⟨h, fun packet hreply => ?_⟩
      have hpacket : PlayoutReply.packet (playoutFront q) = .packet (some packet) := hreply
      rw [PlayoutReply.packet.injEq, playoutFront, Option.map_eq_some_iff] at hpacket
      obtain ⟨i, hi, rfl⟩ := hpacket
      exact hfront i hi
  | pop =>
      simp only [playoutMachine]
      cases hi : playoutPeek q with
      | none =>
          refine ⟨h, fun packet hreply => ?_⟩
          rw [PlayoutReply.packet.injEq] at hreply
          exact absurd hreply (Option.some_ne_none packet).symm
      | some i =>
          refine ⟨h.pop hnear (playoutPeek_eq_some hi).1, fun packet hreply => ?_⟩
          rw [PlayoutReply.packet.injEq, Option.some.injEq] at hreply
          rw [← hreply]
          exact hfront i hi

end Kept

/-- **The boundary holds even after it is disarmed.** From `playout_set_floor` on, every
packet that a peek or a pop returns follows the boundary, in whatever order the packets
of the stream arrive. -/
theorem playout_floor_kept (q : Playout) (floor : ℤ) (timestamp : UInt32) (exclusive : Bool)
    (hfloor : (timestamp.toNat : ℤ) = floor % 2 ^ 32) (stream : List Numbered)
    (hnear : NearFloor floor stream) (calls : List PlayoutCall)
    (hcalls : ∀ packet, .push packet ∈ calls → ∃ n ∈ stream, n.packet = packet) :
    ∀ packet, .packet (some packet) ∈
        (playoutMachine.run (playoutSetFloor q timestamp exclusive) calls).2 →
      InStream floor exclusive stream packet := by
  have hguard : playoutMachine.Guarded
      (fun _ call => ∀ packet, call = .push packet → ∃ n ∈ stream, n.packet = packet)
      (playoutSetFloor q timestamp exclusive) calls := by
    apply playoutMachine.guarded_of_forall
    intro call hcall _ packet hpush
    rw [hpush] at hcall
    exact hcalls packet hcall
  have hrun := playoutMachine.run_guarded_invariant
    (fun q log => FloorKept floor timestamp exclusive stream q ∧
      ∀ packet, .packet (some packet) ∈ log → InStream floor exclusive stream packet)
    (fun q log call h hcall => ?_) calls (playoutSetFloor q timestamp exclusive) []
    ⟨floorKept_setFloor floor timestamp exclusive stream q, fun _ h => absurd h List.not_mem_nil⟩
    hguard
  · exact hrun.2
  · obtain ⟨hkept, hlog⟩ := h
    obtain ⟨hnext, hreply⟩ := hkept.step hfloor hnear hcall
    refine ⟨hnext, fun packet hmem => ?_⟩
    rw [List.mem_append, List.mem_singleton] at hmem
    rcases hmem with hmem | hmem
    · exact hlog packet hmem
    · exact hreply packet hmem.symm

/-- A packet with the given sequence number and timestamp. -/
def numbered (index time : ℤ) : Numbered :=
  ⟨index, time, ⟨{ RtpHeader.zero with
    sequence := UInt16.ofInt index, timestamp := UInt32.ofInt time }, [1]⟩⟩

/-- Four packets, the second at the boundary, where both numbers wrap. -/
def wrappingStream : List Numbered :=
  [numbered 65534 4294966944, numbered 65535 4294967296, numbered 65536 4294967648,
    numbered 65537 4294968000]

/-- The third is popped first; the second comes late, and the fourth is due next. -/
theorem playout_floor_late :
    InStream 4294967296 true wrappingStream (numbered 65537 4294968000).packet :=
  playout_floor_kept blankPlayout 4294967296 0 true (by decide) wrappingStream
    ⟨by decide, by decide, by decide, by decide, by decide⟩
    [.push (numbered 65536 4294967648).packet, .pop, .push (numbered 65535 4294967296).packet,
      .push (numbered 65537 4294968000).packet, .peek]
    (by
      intro packet hmem
      simp only [List.mem_cons, PlayoutCall.push.injEq, reduceCtorEq, List.not_mem_nil, or_false,
        false_or] at hmem
      rcases hmem with rfl | rfl | rfl
      · exact ⟨_, by simp [wrappingStream], rfl⟩
      · exact ⟨_, by simp [wrappingStream], rfl⟩
      · exact ⟨_, by simp [wrappingStream], rfl⟩)
    _ (by decide +kernel)

end PortableAirplay.Audio
