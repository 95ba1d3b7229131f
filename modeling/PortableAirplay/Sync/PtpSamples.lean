import PortableAirplay.Library.Execution
import PortableAirplay.Sync.PtpSync
import Mathlib.Data.List.Induction

/-!
# Samples of the PTP clock

Messages of many clocks, ports and domains arrive in any order, and another clock may
be selected at any time. `PtpEffect` says what one packet can do: nothing, record a
Sync, or give a sample, from a Sync alone or from a Follow_Up that matches the recorded
one. From it the runs follow: the pending flag stands for the last Sync that was
recorded, with nothing in between that would use it up (`pending_history`), and the
ready flag for a sample of the selected clock (`ready_history`).

`SamePtp` relates two states that no later call tells apart. Selecting another clock
leads to related states from any two pasts (`setClock_same`), so what was measured
before is forgotten.
-/

set_option autoImplicit false

namespace PortableAirplay.Sync

open PortableAirplay.Library
open PortableAirplay.Platform

/-! ## Runs -/

/-- A call on the clock: a sender clock is selected, or a packet arrives. -/
inductive PtpCall where
  | setClock (clockId : UInt64)
  | packet (data : List UInt8) (now : UInt64)

/-- The clock under its calls; the output is the result of `ptp_sync_packet`. -/
def ptpMachine : Machine PtpSync PtpCall ℤ where
  step
    | p, .setClock clockId => (ptpSyncSetClock p clockId, 0)
    | p, .packet data now => ptpSyncPacket p data now

/-- The clock after some calls. -/
def ptpRun (calls : List PtpCall) : PtpSync := (ptpMachine.run ptpSyncInit calls).1

/-- The clock that was selected last. -/
def selectedClock (calls : List PtpCall) : UInt64 :=
  calls.foldl
    (fun selected call =>
      match call with
      | .setClock clockId => clockId
      | .packet _ _ => selected) 0

/-- The times at which packets arrived. -/
def arrivalTimes (calls : List PtpCall) : List UInt64 :=
  calls.filterMap fun call =>
    match call with
    | .setClock _ => none
    | .packet _ now => some now

theorem ptpRun_append (first second : List PtpCall) :
    ptpRun (first ++ second) = (ptpMachine.run (ptpRun first) second).1 := by
  rw [ptpRun, Machine.run_append]
  rfl

theorem ptpRun_concat (calls : List PtpCall) (call : PtpCall) :
    ptpRun (calls ++ [call]) = (ptpMachine.step (ptpRun calls) call).1 := ptpRun_append calls [call]

/-! ## Messages -/

/-- A well-formed PTP message of the selected clock. -/
def FromSelected (p : PtpSync) (data : List UInt8) : Prop :=
  ¬ (data.length < 44 ∨ byteAt data 1 &&& 15 ≠ 2) ∧
    ¬ ((ptpField data 2 2).toNat < 44 ∨ (ptpField data 2 2).toNat > data.length) ∧
    p.clockId ≠ 0 ∧ ptpField data 20 8 = p.clockId

/-- The message is a Sync that will be recorded. -/
def Records (p : PtpSync) (data : List UInt8) : Prop :=
  FromSelected p data ∧ byteAt data 0 &&& 15 = 0

/-- The message is a Follow_Up that matches the pending Sync. -/
structure Follows (p : PtpSync) (data : List UInt8) (now : UInt64) : Prop where
  selected : FromSelected p data
  type : byteAt data 0 &&& 15 = 8
  pending : p.pending = true
  sequence : (ptpField data 30 2).toUInt16 = p.sequence
  domain : byteAt data 4 = p.domain
  source : (data.drop 20).take 10 = p.sourcePort
  recent : now - p.syncReceivedUs ≤ 1000000

/-- A Sync is recorded. -/
def PtpSync.record (p : PtpSync) (data : List UInt8) (now : UInt64) : PtpSync :=
  { p with
    sequence := (ptpField data 30 2).toUInt16
    domain := byteAt data 4
    syncReceivedUs := now
    sourcePort := (data.drop 20).take 10
    syncCorrection := (ptpField data 8 8).toInt64.toInt.tdiv 65536000
    pending := true }

/-- A sample is taken. -/
def PtpSync.sampled (p : PtpSync) (offset : ℤ) (now : UInt64) : PtpSync :=
  { p with offsetUs := offset, ready := true, pending := false, updatedUs := now }

/-- What a packet does, with its result. -/
inductive PtpEffect (p : PtpSync) (data : List UInt8) (now : UInt64) : PtpSync × ℤ → Prop where
  | idle (r : ℤ) (hr : r ≠ 1) (hrecords : ¬ Records p data) : PtpEffect p data now (p, r)
  | recorded (r : ℤ) (hr : r ≠ 1) (hrecords : Records p data) :
      PtpEffect p data now (p.record data now, r)
  | oneStep (offset : ℤ) (hrecords : Records p data) (hflag : byteAt data 6 &&& 2 = 0) :
      PtpEffect p data now ((p.record data now).sampled offset now, 1)
  | followed (offset : ℤ) (hfollows : Follows p data now) :
      PtpEffect p data now (p.sampled offset now, 1)

theorem ptpSample_cases (p : PtpSync) (data : List UInt8) (correction : ℤ) (now : UInt64) :
    ptpSample p data correction now = (p, -1) ∨
      ∃ offset, ptpSample p data correction now = (p.sampled offset now, 1) := by
  rw [ptpSample]
  dsimp only
  split
  · exact Or.inl rfl
  · exact Or.inr ⟨_, rfl⟩

/-- Which guard of `ptp_sync_packet` stops a packet, or what the guards let through. -/
inductive PtpGuards (p : PtpSync) (data : List UInt8) (now : UInt64) : Prop where
  | short (hshort : data.length < 44 ∨ byteAt data 1 &&& 15 ≠ 2)
  | cut (hlong : ¬ (data.length < 44 ∨ byteAt data 1 &&& 15 ≠ 2))
      (hcut : (ptpField data 2 2).toNat < 44 ∨ (ptpField data 2 2).toNat > data.length)
  | other (hlong : ¬ (data.length < 44 ∨ byteAt data 1 &&& 15 ≠ 2))
      (hwhole : ¬ ((ptpField data 2 2).toNat < 44 ∨ (ptpField data 2 2).toNat > data.length))
      (hother : (byteAt data 0 &&& 15 ≠ 0 ∧ byteAt data 0 &&& 15 ≠ 8) ∨ p.clockId = 0 ∨
        ptpField data 20 8 ≠ p.clockId)
  | sync (hrecords : Records p data)
  | stale (hselected : FromSelected p data) (htype : byteAt data 0 &&& 15 = 8)
      (hclock : ¬ ((byteAt data 0 &&& 15 ≠ 0 ∧ byteAt data 0 &&& 15 ≠ 8) ∨ p.clockId = 0 ∨
        ptpField data 20 8 ≠ p.clockId))
      (hstale : p.pending = false ∨ (ptpField data 30 2).toUInt16 ≠ p.sequence ∨
        byteAt data 4 ≠ p.domain ∨ p.sourcePort ≠ (data.drop 20).take 10 ∨
        now - p.syncReceivedUs > 1000000)
  | followUp (hfollows : Follows p data now)

/-- One of the guards decides every packet. -/
theorem ptpGuards (p : PtpSync) (data : List UInt8) (now : UInt64) : PtpGuards p data now := by
  by_cases hshort : data.length < 44 ∨ byteAt data 1 &&& 15 ≠ 2
  · exact .short hshort
  by_cases hcut : (ptpField data 2 2).toNat < 44 ∨ (ptpField data 2 2).toNat > data.length
  · exact .cut hshort hcut
  by_cases hother : (byteAt data 0 &&& 15 ≠ 0 ∧ byteAt data 0 &&& 15 ≠ 8) ∨ p.clockId = 0 ∨
      ptpField data 20 8 ≠ p.clockId
  · exact .other hshort hcut hother
  -- the packet is of the selected clock, so its type decides
  have hclock := hother
  rw [not_or, not_or, ne_eq (ptpField data 20 8), not_not] at hclock
  obtain ⟨htypes, hzero, hsame⟩ := hclock
  have hselected : FromSelected p data := ⟨hshort, hcut, hzero, hsame⟩
  by_cases hsync : byteAt data 0 &&& 15 = 0
  · exact .sync ⟨hselected, hsync⟩
  have htype : byteAt data 0 &&& 15 = 8 := by
    by_contra h
    exact htypes ⟨hsync, h⟩
  by_cases hstale : p.pending = false ∨ (ptpField data 30 2).toUInt16 ≠ p.sequence ∨
      byteAt data 4 ≠ p.domain ∨ p.sourcePort ≠ (data.drop 20).take 10 ∨
      now - p.syncReceivedUs > 1000000
  · exact .stale hselected htype hother hstale
  · simp only [not_or, ne_eq, not_not, Bool.not_eq_false, gt_iff_lt, UInt64.not_lt] at hstale
    obtain ⟨hpending, hsequence, hdomain, hsource, hrecent⟩ := hstale
    exact .followUp ⟨hselected, htype, hpending, hsequence, hdomain, hsource.symm, hrecent⟩

/-- A packet of another clock or another type is no Sync. -/
theorem Records.not_other {p : PtpSync} {data : List UInt8} (h : Records p data) :
    ¬ ((byteAt data 0 &&& 15 ≠ 0 ∧ byteAt data 0 &&& 15 ≠ 8) ∨ p.clockId = 0 ∨
      ptpField data 20 8 ≠ p.clockId) := by
  rintro (⟨htype, -⟩ | hzero | hclock)
  · exact htype h.2
  · exact h.1.2.2.1 hzero
  · exact hclock h.1.2.2.2

/-- Nor is it a Follow_Up. -/
theorem Follows.not_other {p : PtpSync} {data : List UInt8} {now : UInt64}
    (h : Follows p data now) :
    ¬ ((byteAt data 0 &&& 15 ≠ 0 ∧ byteAt data 0 &&& 15 ≠ 8) ∨ p.clockId = 0 ∨
      ptpField data 20 8 ≠ p.clockId) := by
  rintro (⟨-, htype⟩ | hzero | hclock)
  · exact htype h.type
  · exact h.selected.2.2.1 hzero
  · exact hclock h.selected.2.2.2

/-- A Follow_Up that matches its Sync is not stale. -/
theorem Follows.not_stale {p : PtpSync} {data : List UInt8} {now : UInt64}
    (h : Follows p data now) :
    ¬ (p.pending = false ∨ (ptpField data 30 2).toUInt16 ≠ p.sequence ∨
      byteAt data 4 ≠ p.domain ∨ p.sourcePort ≠ (data.drop 20).take 10 ∨
      now - p.syncReceivedUs > 1000000) := by
  rintro (hpending | hsequence | hdomain | hsource | hlate)
  · exact Bool.noConfusion (hpending.symm.trans h.pending)
  · exact hsequence h.sequence
  · exact hdomain h.domain
  · exact hsource h.source.symm
  · exact absurd h.recent (UInt64.not_le.mpr hlate)

/-- **Where a packet leads**: a Sync is recorded and, in one step, gives a sample; a
Follow_Up that matches gives one; any other packet does nothing. -/
theorem ptpSyncPacket_shape (p : PtpSync) (data : List UInt8) (now : UInt64) :
    (Records p data ∧ ptpSyncPacket p data now =
        if byteAt data 6 &&& 2 ≠ 0 then (p.record data now, 0)
        else ptpSample (p.record data now) data
          ((ptpField data 8 8).toInt64.toInt.tdiv 65536000) now) ∨
      (Follows p data now ∧ ptpSyncPacket p data now =
        ptpSample p data ((ptpField data 8 8).toInt64.toInt.tdiv 65536000 + p.syncCorrection)
          now) ∨
      (¬ Records p data ∧ ¬ Follows p data now ∧
        ∃ r, r ≠ 1 ∧ ptpSyncPacket p data now = (p, r)) := by
  rw [ptpSyncPacket]
  cases ptpGuards p data now with
  | short hshort =>
      rw [if_pos hshort]
      exact Or.inr (Or.inr
        ⟨fun h => h.1.1 hshort, fun h => h.selected.1 hshort, -1, by decide, rfl⟩)
  | cut hlong hcut =>
      rw [if_neg hlong]
      dsimp only
      rw [if_pos hcut]
      exact Or.inr (Or.inr
        ⟨fun h => h.1.2.1 hcut, fun h => h.selected.2.1 hcut, -1, by decide, rfl⟩)
  | other hlong hwhole hother =>
      rw [if_neg hlong]
      dsimp only
      rw [if_neg hwhole, if_pos hother]
      exact Or.inr (Or.inr
        ⟨fun h => h.not_other hother, fun h => h.not_other hother, 0, by decide, rfl⟩)
  | sync hrecords =>
      -- the only branch that writes what a later Follow_Up is compared with
      rw [if_neg hrecords.1.1]
      dsimp only
      rw [if_neg hrecords.1.2.1, if_neg hrecords.not_other, if_pos hrecords.2]
      exact Or.inl ⟨hrecords, rfl⟩
  -- a Follow_Up passes the type and the clock, but not the pending Sync
  | stale hselected htype hclock hstale =>
      have hsync : ¬ byteAt data 0 &&& 15 = 0 := by
        rw [htype]
        decide
      rw [if_neg hselected.1]
      dsimp only
      rw [if_neg hselected.2.1, if_neg hclock, if_neg hsync, if_pos hstale]
      exact Or.inr (Or.inr
        ⟨fun h => hsync h.2, fun h => h.not_stale hstale, 0, by decide, rfl⟩)
  | followUp hfollows =>
      have hsync : ¬ byteAt data 0 &&& 15 = 0 := by
        rw [hfollows.type]
        decide
      rw [if_neg hfollows.selected.1]
      dsimp only
      rw [if_neg hfollows.selected.2.1, if_neg hfollows.not_other, if_neg hsync,
        if_neg hfollows.not_stale]
      exact Or.inr (Or.inl ⟨hfollows, rfl⟩)

/-- A Sync is not a Follow_Up. -/
theorem Follows.not_records {p : PtpSync} {data : List UInt8} {now : UInt64}
    (h : Follows p data now) : ¬ Records p data := fun hrecords =>
  absurd (hrecords.2.symm.trans h.type) (by decide)

/-- **Every packet keeps to `PtpEffect`.** -/
theorem ptpSyncPacket_effect (p : PtpSync) (data : List UInt8) (now : UInt64) :
    PtpEffect p data now (ptpSyncPacket p data now) := by
  rcases ptpSyncPacket_shape p data now with ⟨hrecords, hshape⟩ | ⟨hfollows, hshape⟩ |
    ⟨hrecords, -, r, hr, hshape⟩
  · rw [hshape]
    by_cases htwo : byteAt data 6 &&& 2 ≠ 0
    · rw [if_pos htwo]
      exact PtpEffect.recorded _ (by decide) hrecords
    · rw [if_neg htwo]
      rcases ptpSample_cases (p.record data now) data
          ((ptpField data 8 8).toInt64.toInt.tdiv 65536000) now with h | ⟨offset, h⟩
      · rw [h]
        exact PtpEffect.recorded _ (by decide) hrecords
      · rw [h]
        exact PtpEffect.oneStep offset hrecords (not_not.mp htwo)
  · rw [hshape]
    rcases ptpSample_cases p data
        ((ptpField data 8 8).toInt64.toInt.tdiv 65536000 + p.syncCorrection) now with
      h | ⟨offset, h⟩
    · rw [h]
      exact PtpEffect.idle _ (by decide) hfollows.not_records
    · rw [h]
      exact PtpEffect.followed offset hfollows
  · rw [hshape]
    exact PtpEffect.idle r hr hrecords

/-- Packets do not select a clock. -/
theorem ptpSyncPacket_clockId (p : PtpSync) (data : List UInt8) (now : UInt64) :
    (ptpSyncPacket p data now).1.clockId = p.clockId := by
  have heffect := ptpSyncPacket_effect p data now
  generalize ptpSyncPacket p data now = r at heffect ⊢
  cases heffect with
  | idle r hr hrecords => rfl
  | recorded r hr hrecords => rfl
  | oneStep offset hrecords hflag => rfl
  | followed offset hfollows => rfl

theorem ptpSyncSetClock_clockId (p : PtpSync) (clockId : UInt64) :
    (ptpSyncSetClock p clockId).clockId = clockId := by
  rw [ptpSyncSetClock]
  split
  · rfl
  · rename_i hsame
    exact not_not.mp hsame

theorem ptpSyncSetClock_other {p : PtpSync} {clockId : UInt64} (h : clockId ≠ p.clockId) :
    ptpSyncSetClock p clockId = { p with clockId := clockId, pending := false, ready := false } :=
  if_pos (Ne.symm h)

theorem ptpSyncSetClock_same (p : PtpSync) : ptpSyncSetClock p p.clockId = p :=
  if_neg (not_not.mpr rfl)

theorem ptpRun_clockId (calls : List PtpCall) : (ptpRun calls).clockId = selectedClock calls := by
  induction calls using List.reverseRecOn with
  | nil => rfl
  | append_singleton calls call ih =>
      rw [ptpRun_concat, selectedClock, List.foldl_append]
      cases call with
      | setClock clockId => exact ptpSyncSetClock_clockId _ _
      | packet data now => exact (ptpSyncPacket_clockId _ _ _).trans ih

/-! ## The pending Sync -/

/-- The call selects no other clock, records no Sync and gives no sample. -/
def Quiet (p : PtpSync) : PtpCall → Prop
  | .setClock clockId => clockId = p.clockId
  | .packet data now => ¬ Records p data ∧ (ptpSyncPacket p data now).2 ≠ 1

/-- The last Sync that was recorded arrived at `now` and has given no sample, and the
clock is selected still. -/
def Awaiting (calls : List PtpCall) (data : List UInt8) (now : UInt64) : Prop :=
  ∃ first between, calls = first ++ .packet data now :: between ∧
    Records (ptpRun first) data ∧ (ptpSyncPacket (ptpRun first) data now).2 ≠ 1 ∧
    ptpMachine.Guarded Quiet (ptpRun (first ++ [.packet data now])) between

/-- The state holds what was recorded of the Sync. -/
structure HoldsSync (p : PtpSync) (data : List UInt8) (now : UInt64) : Prop where
  clock : ptpField data 20 8 = p.clockId
  sequence : p.sequence = (ptpField data 30 2).toUInt16
  domain : p.domain = byteAt data 4
  source : p.sourcePort = (data.drop 20).take 10
  received : p.syncReceivedUs = now

theorem Awaiting.concat {calls : List PtpCall} {data : List UInt8} {now : UInt64}
    (h : Awaiting calls data now) {call : PtpCall} (hquiet : Quiet (ptpRun calls) call) :
    Awaiting (calls ++ [call]) data now := by
  obtain ⟨first, between, rfl, hrecords, hnone, hguard⟩ := h
  refine ⟨first, between ++ [call], by simp, hrecords, hnone, ?_⟩
  rw [Machine.guarded_append]
  refine ⟨hguard, ?_, trivial⟩
  rw [← ptpRun_append, List.append_assoc, List.singleton_append]
  exact hquiet

/-- **The pending flag stands for the last Sync that was recorded**, if nothing since
has used it up. -/
theorem pending_history (calls : List PtpCall) (h : (ptpRun calls).pending = true) :
    ∃ data now, Awaiting calls data now ∧ HoldsSync (ptpRun calls) data now := by
  induction calls using List.reverseRecOn with
  | nil => exact absurd h Bool.false_ne_true
  | append_singleton calls call ih =>
      rw [ptpRun_concat] at h ⊢
      cases call with
      | setClock clockId =>
          replace h : (ptpSyncSetClock (ptpRun calls) clockId).pending = true := h
          show ∃ data now, Awaiting _ data now ∧
            HoldsSync (ptpSyncSetClock (ptpRun calls) clockId) data now
          -- selecting the present clock again keeps the Sync, another one drops it
          by_cases hsame : clockId = (ptpRun calls).clockId
          · have hquiet : Quiet (ptpRun calls) (.setClock clockId) := hsame
            rw [hsame, ptpSyncSetClock_same] at h ⊢
            obtain ⟨data, now, hawaiting, hholds⟩ := ih h
            exact ⟨data, now, hawaiting.concat rfl, hholds⟩
          · rw [ptpSyncSetClock_other hsame] at h
            exact absurd h Bool.false_ne_true
      | packet data now =>
          have heffect := ptpSyncPacket_effect (ptpRun calls) data now
          have hresult : (ptpMachine.step (ptpRun calls) (.packet data now)) =
              ptpSyncPacket (ptpRun calls) data now := rfl
          rw [hresult] at h ⊢
          generalize hr : ptpSyncPacket (ptpRun calls) data now = r at heffect h ⊢
          cases heffect with
          | idle r hne hrecords =>
              obtain ⟨first, at_, hawaiting, hholds⟩ := ih h
              refine ⟨first, at_, hawaiting.concat ⟨hrecords, ?_⟩, hholds⟩
              rw [hr]
              exact hne
          | recorded r hne hrecords =>
              refine ⟨data, now, ⟨calls, [], rfl, hrecords, ?_, trivial⟩,
                ⟨hrecords.1.2.2.2, rfl, rfl, rfl, rfl⟩⟩
              rw [hr]
              exact hne
          | oneStep offset hrecords hflag => exact absurd h Bool.false_ne_true
          | followed offset hfollows => exact absurd h Bool.false_ne_true

/-! ## Samples -/

/-- The call selects no other clock. -/
def KeepsClock (p : PtpSync) : PtpCall → Prop
  | .setClock clockId => clockId = p.clockId
  | .packet _ _ => True

/-- A packet has given a sample, and its clock is selected still. -/
def Sampled (calls : List PtpCall) : Prop :=
  ∃ first data now rest, calls = first ++ .packet data now :: rest ∧
    (ptpSyncPacket (ptpRun first) data now).2 = 1 ∧
    ptpMachine.Guarded KeepsClock (ptpRun (first ++ [.packet data now])) rest

theorem Sampled.concat {calls : List PtpCall} (h : Sampled calls) {call : PtpCall}
    (hkeeps : KeepsClock (ptpRun calls) call) : Sampled (calls ++ [call]) := by
  obtain ⟨first, data, now, rest, rfl, hsample, hguard⟩ := h
  refine ⟨first, data, now, rest ++ [call], by simp, hsample, ?_⟩
  rw [Machine.guarded_append]
  refine ⟨hguard, ?_, trivial⟩
  rw [← ptpRun_append, List.append_assoc, List.singleton_append]
  exact hkeeps

/-- **The ready flag stands for a sample of the selected clock.** -/
theorem ready_history (calls : List PtpCall) (h : (ptpRun calls).ready = true) :
    Sampled calls := by
  induction calls using List.reverseRecOn with
  | nil => exact absurd h Bool.false_ne_true
  | append_singleton calls call ih =>
      rw [ptpRun_concat] at h
      cases call with
      | setClock clockId =>
          replace h : (ptpSyncSetClock (ptpRun calls) clockId).ready = true := h
          by_cases hsame : clockId = (ptpRun calls).clockId
          · rw [hsame, ptpSyncSetClock_same] at h
            exact (ih h).concat hsame
          · rw [ptpSyncSetClock_other hsame] at h
            exact absurd h Bool.false_ne_true
      | packet data now =>
          by_cases hsample : (ptpSyncPacket (ptpRun calls) data now).2 = 1
          · exact ⟨calls, data, now, [], rfl, hsample, trivial⟩
          · have heffect := ptpSyncPacket_effect (ptpRun calls) data now
            have hresult : (ptpMachine.step (ptpRun calls) (.packet data now)) =
                ptpSyncPacket (ptpRun calls) data now := rfl
            rw [hresult] at h
            generalize ptpSyncPacket (ptpRun calls) data now = r at heffect h hsample
            cases heffect with
            | idle r hne hrecords => exact (ih h).concat trivial
            | recorded r hne hrecords => exact (ih h).concat trivial
            | oneStep offset hrecords hflag => exact absurd rfl hsample
            | followed offset hfollows => exact absurd rfl hsample

/-- The call records no Sync. -/
def RecordsNone (p : PtpSync) : PtpCall → Prop
  | .setClock _ => True
  | .packet data _ => ¬ Records p data

/-- Without a Sync there is at most the sample of the pending one. -/
theorem samples_without_sync (calls : List PtpCall) :
    ∀ p : PtpSync, ptpMachine.Guarded RecordsNone p calls →
      (ptpMachine.run p calls).2.count 1 ≤ if p.pending then 1 else 0 := by
  induction calls with
  | nil => exact fun p _ => by simp
  | cons call rest ih =>
      intro p hguard
      obtain ⟨hnone, hrest⟩ := hguard
      have hlater := ih _ hrest
      rw [Machine.run_cons]
      cases call with
      | setClock clockId =>
          show List.count 1 ((0 : ℤ) :: (ptpMachine.run (ptpSyncSetClock p clockId) rest).2) ≤ _
          rw [List.count_cons_of_ne (by decide)]
          refine Nat.le_trans hlater ?_
          show (if (ptpSyncSetClock p clockId).pending then 1 else 0) ≤ _
          -- another clock takes the pending Sync away
          by_cases hsame : clockId = p.clockId
          · rw [hsame, ptpSyncSetClock_same]
          · rw [ptpSyncSetClock_other hsame]
            exact Nat.zero_le _
      | packet data now =>
          have heffect := ptpSyncPacket_effect p data now
          have hresult : ptpMachine.step p (.packet data now) = ptpSyncPacket p data now := rfl
          rw [hresult] at hlater ⊢
          generalize ptpSyncPacket p data now = r at heffect hlater ⊢
          cases heffect with
          | idle r hne hrecords =>
              rw [List.count_cons_of_ne hne]
              exact hlater
          | recorded r hne hrecords => exact absurd hrecords hnone
          | oneStep offset hrecords hflag => exact absurd hrecords hnone
          -- the one sample that the pending Sync pays for
          | followed offset hfollows =>
              rw [List.count_cons_self, hfollows.pending]
              exact Nat.succ_le_succ hlater

/-- **A Sync gives at most one sample**: from its arrival until the next Sync is
recorded there is at most one. -/
theorem samples_of_sync (p : PtpSync) (data : List UInt8) (now : UInt64) (rest : List PtpCall)
    (hrecords : Records p data)
    (hguard : ptpMachine.Guarded RecordsNone (ptpSyncPacket p data now).1 rest) :
    (ptpMachine.run p (.packet data now :: rest)).2.count 1 ≤ 1 := by
  have hlater := samples_without_sync rest _ hguard
  have heffect := ptpSyncPacket_effect p data now
  have hresult : ptpMachine.step p (.packet data now) = ptpSyncPacket p data now := rfl
  rw [Machine.run_cons, hresult]
  generalize ptpSyncPacket p data now = r at heffect hlater ⊢
  cases heffect with
  | idle r hne hnone => exact absurd hrecords hnone
  | recorded r hne hrecords =>
      rw [List.count_cons_of_ne hne]
      exact hlater
  | oneStep offset hrecords hflag =>
      rw [List.count_cons_self]
      exact Nat.succ_le_succ hlater
  | followed offset hfollows =>
      exact absurd (hrecords.2.symm.trans hfollows.type) (by decide)

/-! ## Forgetting -/

/-- Two states that no later call tells apart: what is recorded counts while a Sync is
pending, and what is measured while the clock is ready. -/
structure SamePtp (p q : PtpSync) : Prop where
  clockId : p.clockId = q.clockId
  pending : p.pending = q.pending
  ready : p.ready = q.ready
  recorded : p.pending = true →
    p.sequence = q.sequence ∧ p.domain = q.domain ∧ p.sourcePort = q.sourcePort ∧
      p.syncReceivedUs = q.syncReceivedUs ∧ p.syncCorrection = q.syncCorrection
  measured : p.ready = true → p.offsetUs = q.offsetUs ∧ p.updatedUs = q.updatedUs

/-- Selecting another clock leaves nothing of the past. -/
theorem setClock_same {p q : PtpSync} {clockId : UInt64} (hp : clockId ≠ p.clockId)
    (hpending : q.pending = false) (hready : q.ready = false) :
    SamePtp (ptpSyncSetClock p clockId) (ptpSyncSetClock q clockId) := by
  rw [ptpSyncSetClock_other hp]
  by_cases hq : clockId = q.clockId
  · rw [hq, ptpSyncSetClock_same]
    exact ⟨rfl, hpending.symm, hready.symm, fun h => absurd h Bool.false_ne_true,
      fun h => absurd h Bool.false_ne_true⟩
  · rw [ptpSyncSetClock_other hq]
    exact ⟨rfl, rfl, rfl, fun h => absurd h Bool.false_ne_true,
      fun h => absurd h Bool.false_ne_true⟩

theorem SamePtp.setClock {p q : PtpSync} (h : SamePtp p q) (clockId : UInt64) :
    SamePtp (ptpSyncSetClock p clockId) (ptpSyncSetClock q clockId) := by
  by_cases hsame : clockId = p.clockId
  · have hp := ptpSyncSetClock_same p
    have hq := ptpSyncSetClock_same q
    rw [← h.clockId] at hq
    rw [hsame, hp, hq]
    exact h
  · have hother : clockId ≠ q.clockId := fun heq => hsame (heq.trans h.clockId.symm)
    rw [ptpSyncSetClock_other hsame, ptpSyncSetClock_other hother]
    exact ⟨rfl, rfl, rfl, fun h => absurd h Bool.false_ne_true,
      fun h => absurd h Bool.false_ne_true⟩

/-- A sample of related states that hold the same Sync. -/
theorem SamePtp.sample {p q : PtpSync} (h : SamePtp p q)
    (hreceived : p.syncReceivedUs = q.syncReceivedUs) (data : List UInt8) (correction : ℤ)
    (now : UInt64) :
    SamePtp (ptpSample p data correction now).1 (ptpSample q data correction now).1 ∧
      (ptpSample p data correction now).2 = (ptpSample q data correction now).2 := by
  have hoffset : ∀ offset : ℤ,
      (if p.ready = false ∨ now - p.updatedUs > 2000000 ∨ offset > p.offsetUs then offset
        else p.offsetUs + (offset - p.offsetUs).tdiv 64) =
      (if q.ready = false ∨ now - q.updatedUs > 2000000 ∨ offset > q.offsetUs then offset
        else q.offsetUs + (offset - q.offsetUs).tdiv 64) := by
    intro offset
    cases hready : p.ready with
    | false => rw [if_pos (Or.inl rfl), if_pos (Or.inl (h.ready ▸ hready))]
    | true =>
        obtain ⟨hsame, hupdated⟩ := h.measured hready
        rw [h.ready] at hready
        rw [hsame, hupdated, hready]
  rw [ptpSample, ptpSample]
  dsimp only
  split
  · exact ⟨h, rfl⟩
  · rw [hreceived, hoffset]
    exact ⟨⟨h.clockId, rfl, rfl, fun hpending => absurd hpending Bool.false_ne_true,
      fun _ => ⟨rfl, rfl⟩⟩, rfl⟩

/-- **Related states stay related under packets**, with equal results. -/
theorem SamePtp.packet {p q : PtpSync} (h : SamePtp p q) (data : List UInt8) (now : UInt64) :
    SamePtp (ptpSyncPacket p data now).1 (ptpSyncPacket q data now).1 ∧
      (ptpSyncPacket p data now).2 = (ptpSyncPacket q data now).2 := by
  rw [ptpSyncPacket, ptpSyncPacket]
  split
  · exact ⟨h, rfl⟩
  · dsimp only
    split
    · exact ⟨h, rfl⟩
    · by_cases hother : (byteAt data 0 &&& 15 ≠ 0 ∧ byteAt data 0 &&& 15 ≠ 8) ∨ p.clockId = 0 ∨
          ptpField data 20 8 ≠ p.clockId
      · have hsame := hother
        rw [h.clockId] at hsame
        rw [if_pos hother, if_pos hsame]
        exact ⟨h, rfl⟩
      · have hsame := hother
        rw [h.clockId] at hsame
        rw [if_neg hother, if_neg hsame]
        split
        · have hrecorded : SamePtp (p.record data now) (q.record data now) :=
            ⟨h.clockId, rfl, h.ready, fun _ => ⟨rfl, rfl, rfl, rfl, rfl⟩, h.measured⟩
          split
          · exact ⟨hrecorded, rfl⟩
          · exact hrecorded.sample rfl data _ now
        · -- without a pending Sync nothing recorded is looked at
          cases hpending : p.pending with
          | false =>
              rw [if_pos (Or.inl rfl), if_pos (Or.inl (h.pending ▸ hpending))]
              exact ⟨h, rfl⟩
          | true =>
              obtain ⟨hsequence, hdomain, hsource, hreceived, hcorrection⟩ := h.recorded hpending
              rw [h.pending] at hpending
              rw [hsequence, hdomain, hsource, hreceived, hcorrection, hpending]
              split
              · exact ⟨h, rfl⟩
              · exact h.sample hreceived data _ now

theorem SamePtp.step {p q : PtpSync} (h : SamePtp p q) (call : PtpCall) :
    SamePtp (ptpMachine.step p call).1 (ptpMachine.step q call).1 ∧
      (ptpMachine.step p call).2 = (ptpMachine.step q call).2 := by
  cases call with
  | setClock clockId => exact ⟨h.setClock clockId, rfl⟩
  | packet data now => exact h.packet data now

/-- Related states give the same deadlines. -/
theorem SamePtp.deadline {p q : PtpSync} (h : SamePtp p q) (a : AirplayAnchor)
    (timestamp rate latency : UInt32) (now : UInt64) :
    ptpSyncDeadline p a timestamp rate latency now =
      ptpSyncDeadline q a timestamp rate latency now := by
  rw [ptpSyncDeadline, ptpSyncDeadline]
  cases hready : p.ready with
  | false => rw [if_pos (Or.inl rfl), if_pos (Or.inl (h.ready ▸ hready))]
  | true =>
      obtain ⟨hoffset, hupdated⟩ := h.measured hready
      rw [h.ready] at hready
      rw [hoffset, hupdated, h.clockId, hready]

/-! ## Main result -/

/-- Where a sample comes from: a Sync of one step, or a Follow_Up that completes the
last recorded Sync of its clock, at most a second after it. -/
inductive SampleSource (calls : List PtpCall) (data : List UInt8) (now : UInt64) : Prop where
  | sync (hrecords : Records (ptpRun calls) data) (hflag : byteAt data 6 &&& 2 = 0)
  | followUp (sync : List UInt8) (received : UInt64) (hawaiting : Awaiting calls sync received)
      (htype : byteAt data 0 &&& 15 = 8)
      (hclock : ptpField data 20 8 = ptpField sync 20 8)
      (hsource : (data.drop 20).take 10 = (sync.drop 20).take 10)
      (hsequence : (ptpField data 30 2).toUInt16 = (ptpField sync 30 2).toUInt16)
      (hdomain : byteAt data 4 = byteAt sync 4)
      (hrecent : received ≤ now ∧ now.toNat ≤ received.toNat + 1000000)

theorem mem_arrivalTimes {first rest : List PtpCall} {data : List UInt8} {now : UInt64} :
    now ∈ arrivalTimes (first ++ .packet data now :: rest) := by
  rw [arrivalTimes, List.mem_filterMap]
  exact ⟨.packet data now, by simp, rfl⟩

/-- Within a second on the counter, in order of arrival, is within a second. -/
theorem recent_of_le {received now : UInt64} (hle : received ≤ now)
    (h : now - received ≤ 1000000) : now.toNat ≤ received.toNat + 1000000 := by
  rw [UInt64.le_iff_toNat_le] at h
  rw [UInt64.toNat_sub_of_le _ _ hle] at h
  rw [UInt64.le_iff_toNat_le] at hle
  have hsecond : (1000000 : UInt64).toNat = 1000000 := rfl
  omega

/-- **Samples come from matched messages of the selected clock.** After any calls whose
packets arrived in order of time, for a packet that arrives then: it gives a sample
only if it is of the selected clock, which is not 0, and has a source. A recorded
Sync gives at most one sample. The clock is ready only after a sample of the clock
that is selected still, and a deadline is given only by the clock that the anchor
names. Nothing after the selection of another clock depends on what was before. -/
theorem ptp_samples_matched (calls : List PtpCall) (data : List UInt8) (now : UInt64)
    (htimes : (arrivalTimes (calls ++ [.packet data now])).Pairwise (· ≤ ·)) :
    let p := ptpRun calls
    p.clockId = selectedClock calls ∧
    ((ptpSyncPacket p data now).2 = 1 →
      p.clockId ≠ 0 ∧ ptpField data 20 8 = p.clockId ∧ SampleSource calls data now) ∧
    (∀ rest, Records p data →
      ptpMachine.Guarded RecordsNone (ptpSyncPacket p data now).1 rest →
        (ptpMachine.run p (.packet data now :: rest)).2.count 1 ≤ 1) ∧
    (p.ready = true → Sampled calls) ∧
    (∀ a timestamp rate latency at_ deadline,
      ptpSyncDeadline p a timestamp rate latency at_ = some deadline →
        p.ready = true ∧ a.clockId = p.clockId) ∧
    (∀ clockId rest, clockId ≠ p.clockId →
      let next := ptpRun (calls ++ .setClock clockId :: rest)
      let fresh := (ptpMachine.run (ptpSyncSetClock ptpSyncInit clockId) rest).1
      next.ready = fresh.ready ∧ ∀ a timestamp rate latency at_,
        ptpSyncDeadline next a timestamp rate latency at_ =
          ptpSyncDeadline fresh a timestamp rate latency at_) := by
  refine ⟨ptpRun_clockId calls, ?_, samples_of_sync _ data now, ready_history calls, ?_, ?_⟩
  · intro hsample
    have heffect := ptpSyncPacket_effect (ptpRun calls) data now
    generalize ptpSyncPacket (ptpRun calls) data now = r at heffect hsample
    cases heffect with
    | idle r hne hrecords => exact absurd hsample hne
    | recorded r hne hrecords => exact absurd hsample hne
    | oneStep offset hrecords hflag =>
        exact ⟨hrecords.1.2.2.1, hrecords.1.2.2.2, SampleSource.sync hrecords hflag⟩
    | followed offset hfollows =>
        -- the Sync that it follows is the one still pending
        obtain ⟨sync, received, hawaiting, hholds⟩ := pending_history calls hfollows.pending
        -- packets arrive in the order of their times
        have hle : received ≤ now := by
          obtain ⟨first, between, hcalls, -⟩ := hawaiting
          have hmem : received ∈ arrivalTimes calls := by
            rw [hcalls]
            exact mem_arrivalTimes
          rw [arrivalTimes, List.filterMap_append, List.pairwise_append] at htimes
          exact htimes.2.2 received hmem now (by simp)
        have hrecent := hfollows.recent
        rw [hholds.received] at hrecent
        refine ⟨hfollows.selected.2.2.1, hfollows.selected.2.2.2,
          SampleSource.followUp sync received hawaiting hfollows.type ?_ ?_ ?_ ?_
            ⟨hle, recent_of_le hle hrecent⟩⟩
        · rw [hfollows.selected.2.2.2, hholds.clock]
        · rw [hfollows.source, hholds.source]
        · rw [hfollows.sequence, hholds.sequence]
        · rw [hfollows.domain, hholds.domain]
  · intro a timestamp rate latency at_ deadline hdeadline
    rw [ptpSyncDeadline] at hdeadline
    split at hdeadline
    · simp at hdeadline
    · rename_i husable
      simp only [not_or, ne_eq, not_not, Bool.not_eq_false] at husable
      exact ⟨husable.1, husable.2.2.2.2.1⟩
  · intro clockId rest hother
    have hrelated := ptpMachine.run_related SamePtp (fun _ _ call h => h.step call) rest _ _
      (setClock_same hother (rfl : ptpSyncInit.pending = false) rfl)
    rw [ptpRun_append, Machine.run_cons]
    exact ⟨hrelated.1.ready, fun a timestamp rate latency at_ =>
      hrelated.1.deadline a timestamp rate latency at_⟩

/-- A message of clock 42 with the given type, flags, sequence and seconds. -/
def clockMessage (type flags sequence seconds : UInt8) : List UInt8 :=
  [type, 2, 0, 44, 0, 0, flags] ++ List.replicate 20 0 ++ [42, 0, 1, 0, sequence] ++
    List.replicate 7 0 ++ [seconds, 0, 0, 0, 0]

/-- A Sync of two steps and its Follow_Up. -/
theorem ptp_follow_up_sampled :
    let calls : List PtpCall := [.setClock 42, .packet (clockMessage 0x10 2 7 0) 10000000]
    (ptpSyncPacket (ptpRun calls) (clockMessage 0x18 0 7 2) 10000100).2 = 1 ∧
      SampleSource calls (clockMessage 0x18 0 7 2) 10000100 := by
  have hsample : (ptpSyncPacket
      (ptpRun [.setClock 42, .packet (clockMessage 0x10 2 7 0) 10000000])
      (clockMessage 0x18 0 7 2) 10000100).2 = 1 := by decide +kernel
  exact ⟨hsample, ((ptp_samples_matched
    [.setClock 42, .packet (clockMessage 0x10 2 7 0) 10000000] (clockMessage 0x18 0 7 2) 10000100
    (by decide +kernel)).2.1 hsample).2.2⟩

end PortableAirplay.Sync
