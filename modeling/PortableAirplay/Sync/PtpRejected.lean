import PortableAirplay.Sync.PtpSamples

/-!
# Rejected PTP packets

A packet that `ptp_sync_packet` rejects should leave no trace. A Sync is recorded before
its timestamp is looked at, so one kind of packet does: a one-step Sync of the selected
clock with a timestamp out of range. `ptpSyncPacket_rejected` says that it is the only
one. Where it does not occur, a Follow_Up is combined with a Sync that was accepted as
the first half of a two-step pair (`rejected_no_trace`).
-/

set_option autoImplicit false

namespace PortableAirplay.Sync

open PortableAirplay.Library
open PortableAirplay.Platform

/-! ## One packet -/

/-- The nanoseconds or the seconds of a message are out of range. -/
def BadTimestamp (data : List UInt8) : Prop :=
  (ptpField data 40 4).toUInt32 ≥ 1000000000 ∨
    ptpField data 34 6 > 0x7fffffffffffffff / 1000000

instance (data : List UInt8) : Decidable (BadTimestamp data) :=
  inferInstanceAs (Decidable (_ ∨ _))

/-- A one-step Sync of the selected clock with a timestamp out of range. -/
structure RejectedSync (p : PtpSync) (data : List UInt8) : Prop where
  records : Records p data
  oneStep : byteAt data 6 &&& 2 = 0
  timestamp : BadTimestamp data

/-- What is rejected has not to be recorded, or was recorded before. -/
def LeavesNoTrace (p : PtpSync) (data : List UInt8) (now : UInt64) : Prop :=
  RejectedSync p data → p.record data now = p

theorem ptpSample_bad {p : PtpSync} {data : List UInt8} (h : BadTimestamp data) (correction : ℤ)
    (now : UInt64) : ptpSample p data correction now = (p, -1) := if_pos h

theorem ptpSample_good {p : PtpSync} {data : List UInt8} (h : ¬ BadTimestamp data)
    (correction : ℤ) (now : UInt64) : (ptpSample p data correction now).2 = 1 := by
  have hgood : ¬ ((ptpField data 40 4).toUInt32 ≥ 1000000000 ∨
      ptpField data 34 6 > 0x7fffffffffffffff / 1000000) := h
  rw [ptpSample]
  dsimp only
  rw [if_neg hgood]

/-- A Sync that is recorded: the first half of a pair, or rejected, or a sample. -/
theorem ptpSyncPacket_sync {p : PtpSync} {data : List UInt8} (h : Records p data) (now : UInt64) :
    (byteAt data 6 &&& 2 ≠ 0 ∧ ptpSyncPacket p data now = (p.record data now, 0)) ∨
      (RejectedSync p data ∧ ptpSyncPacket p data now = (p.record data now, -1)) ∨
      (¬ BadTimestamp data ∧ (ptpSyncPacket p data now).2 = 1) := by
  rcases ptpSyncPacket_shape p data now with ⟨-, hshape⟩ | ⟨hfollows, -⟩ | ⟨hrecords, -⟩
  · rw [hshape]
    by_cases htwo : byteAt data 6 &&& 2 ≠ 0
    · rw [if_pos htwo]
      exact Or.inl ⟨htwo, rfl⟩
    · rw [if_neg htwo]
      by_cases hbad : BadTimestamp data
      · rw [ptpSample_bad hbad]
        exact Or.inr (Or.inl ⟨⟨h, not_not.mp htwo, hbad⟩, rfl⟩)
      · exact Or.inr (Or.inr ⟨hbad, ptpSample_good hbad _ _⟩)
  · exact absurd h hfollows.not_records
  · exact absurd h hrecords

/-- A packet that records no Sync and gives no sample does nothing. -/
theorem ptpSyncPacket_idle {p : PtpSync} {data : List UInt8} {now : UInt64}
    (h : ¬ Records p data) (hnone : (ptpSyncPacket p data now).2 ≠ 1) :
    (ptpSyncPacket p data now).1 = p := by
  have heffect := ptpSyncPacket_effect p data now
  generalize ptpSyncPacket p data now = r at heffect hnone ⊢
  cases heffect with
  | idle r hr hrecords => rfl
  | recorded r hr hrecords => exact absurd hrecords h
  | oneStep offset hrecords hflag => exact absurd rfl hnone
  | followed offset hfollows => exact absurd rfl hnone

/-- A sample leaves no Sync pending. -/
theorem ptpSyncPacket_sampled {p : PtpSync} {data : List UInt8} {now : UInt64}
    (h : (ptpSyncPacket p data now).2 = 1) : (ptpSyncPacket p data now).1.pending = false := by
  have heffect := ptpSyncPacket_effect p data now
  generalize ptpSyncPacket p data now = r at heffect h ⊢
  cases heffect with
  | idle r hr hrecords => exact absurd h hr
  | recorded r hr hrecords => exact absurd h hr
  | oneStep offset hrecords hflag => rfl
  | followed offset hfollows => rfl

/-- **A rejected packet leaves no trace**, unless it is a one-step Sync with a timestamp
out of range that was not recorded before. -/
theorem ptpSyncPacket_rejected (p : PtpSync) (data : List UInt8) (now : UInt64) :
    ((ptpSyncPacket p data now).2 = -1 → (ptpSyncPacket p data now).1 = p) ↔
      LeavesNoTrace p data now := by
  by_cases hrecords : Records p data
  · rcases ptpSyncPacket_sync hrecords now with ⟨htwo, hresult⟩ | ⟨hrejected, hresult⟩ |
      ⟨hgood, hresult⟩
    · rw [hresult]
      refine ⟨fun _ hrejected => absurd hrejected.oneStep htwo, fun _ hfalse => ?_⟩
      have hzero : (0 : ℤ) = -1 := hfalse
      exact absurd hzero (by decide)
    · rw [hresult]
      exact ⟨fun h _ => h rfl, fun h _ => h hrejected⟩
    · refine ⟨fun _ hrejected => absurd hrejected.timestamp hgood, fun _ hfalse => ?_⟩
      have hone : (1 : ℤ) = -1 := hresult.symm.trans hfalse
      exact absurd hone (by decide)
  · refine ⟨fun _ hrejected => absurd hrejected.records hrecords, fun _ hresult => ?_⟩
    apply ptpSyncPacket_idle hrecords
    rw [hresult]
    decide

/-! ## Runs -/

/-- The condition for a call. -/
def CallLeavesNoTrace (p : PtpSync) : PtpCall → Prop
  | .setClock _ => True
  | .packet data now => LeavesNoTrace p data now

/-- A Sync was accepted as the first half of a two-step pair. -/
structure FirstHalf (p : PtpSync) (data : List UInt8) (now : UInt64) : Prop where
  records : Records p data
  twoStep : byteAt data 6 &&& 2 ≠ 0
  accepted : (ptpSyncPacket p data now).2 = 0

/-- What is recorded is a Sync that arrived in the run and was accepted as the first half
of a pair. -/
def HoldsFirstHalf (calls : List PtpCall) : Prop :=
  ∃ first data now rest, calls = first ++ .packet data now :: rest ∧
    FirstHalf (ptpRun first) data now ∧ HoldsSync (ptpRun calls) data now ∧
    (ptpRun calls).syncCorrection = (ptpField data 8 8).toInt64.toInt.tdiv 65536000

theorem HoldsFirstHalf.concat {calls : List PtpCall} (h : HoldsFirstHalf calls) {call : PtpCall}
    (hsame : ptpRun (calls ++ [call]) = ptpRun calls) : HoldsFirstHalf (calls ++ [call]) := by
  obtain ⟨first, data, now, rest, hcalls, hhalf, hholds, hcorrection⟩ := h
  refine ⟨first, data, now, rest ++ [call], ?_, hhalf, ?_, ?_⟩
  · rw [hcalls, List.append_assoc, List.cons_append]
  · rw [hsame]
    exact hholds
  · rw [hsame]
    exact hcorrection

/-- **The pending Sync was accepted**, if no rejected packet left a trace. -/
theorem pending_firstHalf (calls : List PtpCall)
    (hguard : ptpMachine.Guarded CallLeavesNoTrace ptpSyncInit calls)
    (h : (ptpRun calls).pending = true) : HoldsFirstHalf calls := by
  induction calls using List.reverseRecOn with
  | nil => exact absurd h Bool.false_ne_true
  | append_singleton calls call ih =>
      rw [Machine.guarded_append] at hguard
      obtain ⟨hbefore, hcall, -⟩ := hguard
      cases call with
      | setClock clockId =>
          have hstep : ptpRun (calls ++ [.setClock clockId]) =
              ptpSyncSetClock (ptpRun calls) clockId := ptpRun_concat calls _
          by_cases hsame : clockId = (ptpRun calls).clockId
          · rw [hsame, ptpSyncSetClock_same] at hstep
            rw [← hsame] at hstep
            rw [hstep] at h
            exact (ih hbefore h).concat hstep
          · rw [hstep, ptpSyncSetClock_other hsame] at h
            exact absurd h Bool.false_ne_true
      | packet data now =>
          have hstep : ptpRun (calls ++ [.packet data now]) =
              (ptpSyncPacket (ptpRun calls) data now).1 := ptpRun_concat calls _
          by_cases hrecords : Records (ptpRun calls) data
          · rcases ptpSyncPacket_sync hrecords now with ⟨htwo, hresult⟩ |
              ⟨hrejected, hresult⟩ | ⟨-, hresult⟩
            · refine ⟨calls, data, now, [], rfl, ⟨hrecords, htwo, by rw [hresult]⟩, ?_, ?_⟩
              · rw [hstep, hresult]
                exact ⟨hrecords.1.2.2.2, rfl, rfl, rfl, rfl⟩
              · rw [hstep, hresult]
                rfl
            · -- it was recorded before, so the earlier Sync is pending still
              have hsame : (ptpRun calls).record data now = ptpRun calls := hcall hrejected
              rw [hresult, hsame] at hstep
              rw [hstep] at h
              exact (ih hbefore h).concat hstep
            · rw [hstep, ptpSyncPacket_sampled hresult] at h
              exact absurd h Bool.false_ne_true
          · rw [hstep] at h
            by_cases hresult : (ptpSyncPacket (ptpRun calls) data now).2 = 1
            · rw [ptpSyncPacket_sampled hresult] at h
              exact absurd h Bool.false_ne_true
            · rw [ptpSyncPacket_idle hrecords hresult] at hstep h
              exact (ih hbefore h).concat hstep

/-- **Rejected packets leave no trace** exactly if no one-step Sync with a timestamp out of
range is recorded. In a run without such a Sync, a Follow_Up is combined with a Sync that
was accepted as the first half of a two-step pair. -/
theorem rejected_no_trace (p : PtpSync) (calls : List PtpCall) (data : List UInt8)
    (now : UInt64) :
    (((ptpSyncPacket p data now).2 = -1 → (ptpSyncPacket p data now).1 = p) ↔
      LeavesNoTrace p data now) ∧
    (ptpMachine.Guarded CallLeavesNoTrace ptpSyncInit calls → byteAt data 0 &&& 15 = 8 →
      (ptpSyncPacket (ptpRun calls) data now).2 = 1 → HoldsFirstHalf calls) := by
  refine ⟨ptpSyncPacket_rejected p data now, fun hguard htype hresult => ?_⟩
  apply pending_firstHalf calls hguard
  have heffect := ptpSyncPacket_effect (ptpRun calls) data now
  generalize ptpSyncPacket (ptpRun calls) data now = r at heffect hresult
  cases heffect with
  | idle r hr hnone => exact absurd hresult hr
  | recorded r hr hrecords => exact absurd hresult hr
  | oneStep offset hrecords hflag =>
      exact absurd (hrecords.2.symm.trans htype) (by decide)
  | followed offset hfollows => exact hfollows.pending

/-- A one-step Sync of clock 1 with a whole second of nanoseconds. -/
def badSync : List UInt8 :=
  [0, 2, 0, 44] ++ List.replicate 23 0 ++ [1] ++ List.replicate 12 0 ++ [0x3b, 0x9a, 0xca, 0]

/-- It is rejected, and it is pending. -/
theorem rejected_sync_pending :
    ¬ ∀ (p : PtpSync) (data : List UInt8) (now : UInt64),
      (ptpSyncPacket p data now).2 = -1 → (ptpSyncPacket p data now).1 = p := by
  intro hclaim
  have hsame := hclaim (ptpSyncSetClock ptpSyncInit 1) badSync 5 (by decide)
  have hpending := congrArg PtpSync.pending hsame
  exact absurd hpending (by decide)

end PortableAirplay.Sync
