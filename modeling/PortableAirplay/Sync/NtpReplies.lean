import PortableAirplay.Library.Execution
import PortableAirplay.Sync.NtpSync

/-!
# Replies are used once

Runs of `ntp_sync_request`, `ntp_sync_process_packet` and `ntp_sync_control` in any order, with
any packets and any readings of the clock. `ntpHistory` is what came of them: the requests that
were sent and the replies that were accepted. `ntp_replies_single_use` says that an accepted
reply stands directly behind the request it answers, so that no request is answered twice, and
that a rejected packet leaves no trace.

A request is known by its transmit timestamp alone, of which the seconds have 32 bits. So a reply
to an earlier request is accepted again where the latest one was sent at the same microsecond of
a second that agrees with that of the earlier one modulo `2 ^ 32` (`ntp_replay_after_era`).
-/

set_option autoImplicit false

namespace PortableAirplay.Sync

open PortableAirplay.Library

/-! ## Runs -/

/-- A call, with the reading of the clock that it makes. -/
inductive NtpCall where
  | request (now : UInt64)
  | packet (data : List UInt8) (now : UInt64)
  | control (data : List UInt8) (rate : UInt32)

/-- What comes of a call: a request was sent at a reading of the clock, or a reply with an
originate timestamp was accepted. -/
inductive NtpEvent where
  | requested (sent : UInt64)
  | accepted (origin : NtpTimestamp)
  deriving DecidableEq

/-- A timing packet is accepted. -/
def Accepts (sync : NtpSync) (data : List UInt8) (now : UInt64) : Prop :=
  (ntpSyncProcessPacket sync data now).2 = 0

instance (sync : NtpSync) (data : List UInt8) (now : UInt64) :
    Decidable (Accepts sync data now) :=
  inferInstanceAs (Decidable (_ = _))

/-- One call. -/
def ntpStep (sync : NtpSync) : NtpCall → NtpSync × List NtpEvent
  | .request now =>
      ((ntpSyncRequest sync now).1,
        if (ntpSyncRequest sync now).2.isSome then [.requested now] else [])
  | .packet data now =>
      ((ntpSyncProcessPacket sync data now).1,
        if Accepts sync data now then [.accepted (readTime data 8)] else [])
  | .control data rate => ((ntpSyncControl sync data rate).1, [])

/-- The clock of a session. -/
def ntpMachine : Machine NtpSync NtpCall (List NtpEvent) := ⟨ntpStep⟩

/-- The state after some calls. -/
def ntpAfter (calls : List NtpCall) : NtpSync := (ntpMachine.run ntpSyncInit calls).1

/-- What came of some calls, in order. -/
def ntpHistory (calls : List NtpCall) : List NtpEvent :=
  (ntpMachine.run ntpSyncInit calls).2.flatten

/-! ## Single calls -/

/-- Nothing but the estimate of the clock has changed, and no request is pending. -/
def ClockUpdated (sync next : NtpSync) : Prop :=
  ∃ clockOffsetUs rttUs bestSampleUs samples synchronized, next =
    { sync with
      clockOffsetUs := clockOffsetUs
      rttUs := rttUs
      bestSampleUs := bestSampleUs
      samples := samples
      synchronized := synchronized
      requestPending := false }

/-- Nothing but the anchor has changed. -/
def AnchorUpdated (sync next : NtpSync) : Prop :=
  ∃ rtpBase ntpBase latencyFrames, next =
    { sync with
      rtpBase := rtpBase
      ntpBase := ntpBase
      latencyFrames := latencyFrames
      anchorValid := true }

/-- What `ntp_sync_process_packet` can do. -/
theorem ntpSyncProcessPacket_cases (sync : NtpSync) (data : List UInt8) (now : UInt64) :
    ntpSyncProcessPacket sync data now = (sync, -1) ∨
      (ntpSyncProcessPacket sync data now).2 = 0 ∧ sync.requestPending = true ∧
        readTime data 8 = sync.requestTime ∧
        ClockUpdated sync (ntpSyncProcessPacket sync data now).1 := by
  rw [ntpSyncProcessPacket]
  -- the form and the pending request, then the origin, then the two times of the server
  split
  · exact Or.inl rfl
  · rename_i hform
    rw [not_or, not_or, not_or, Bool.not_eq_false] at hform
    obtain ⟨-, -, -, hpending⟩ := hform
    dsimp only
    split
    · exact Or.inl rfl
    · rename_i horigin
      rw [not_or, not_not, not_not] at horigin
      split
      · exact Or.inl rfl
      · have hsame : readTime data 8 = sync.requestTime := by
          calc readTime data 8 = ⟨(readTime data 8).seconds, (readTime data 8).fraction⟩ := rfl
            _ = ⟨sync.requestTime.seconds, sync.requestTime.fraction⟩ := by
                rw [horigin.1, horigin.2]
            _ = sync.requestTime := rfl
        right
        -- the bound on the round trip only changes the values of the estimate
        generalize (if (now - sync.requestLocalUs).toInt64.toInt -
          ntpSyncDiffUs (readTime data 16) (readTime data 24) < 0 then 0 else
          (now - sync.requestLocalUs).toInt64.toInt -
            ntpSyncDiffUs (readTime data 16) (readTime data 24)) = rtt
        split
        · exact ⟨rfl, hpending, hsame, _, _, _, _, _, rfl⟩
        · exact ⟨rfl, hpending, hsame, _, _, _, _, _, rfl⟩

theorem not_accepts {sync : NtpSync} {data : List UInt8} {now : UInt64}
    (h : ntpSyncProcessPacket sync data now = (sync, -1)) : ¬Accepts sync data now := by
  have hno : (-1 : ℤ) ≠ 0 := by decide
  rw [Accepts, h]
  exact hno

/-- What `ntp_sync_control` can do. -/
theorem ntpSyncControl_cases (sync : NtpSync) (data : List UInt8) (rate : UInt32) :
    ntpSyncControl sync data rate = (sync, -1) ∨
      (ntpSyncControl sync data rate).2 = 0 ∧
        AnchorUpdated sync (ntpSyncControl sync data rate).1 := by
  rw [ntpSyncControl]
  split
  · exact Or.inl rfl
  · dsimp only
    split
    · exact Or.inl rfl
    · exact Or.inr ⟨rfl, _, _, _, rfl⟩

/-- What `ntp_sync_request` can do. -/
theorem ntpSyncRequest_cases (sync : NtpSync) (now : UInt64) :
    ((ntpSyncRequest sync now).2 = none ∧ (ntpSyncRequest sync now).1 = sync) ∨
      ((ntpSyncRequest sync now).2.isSome = true ∧
        (ntpSyncRequest sync now).1.requestTime = fromUs now) := by
  rw [ntpSyncRequest]
  split
  · exact Or.inl ⟨rfl, rfl⟩
  · exact Or.inr ⟨rfl, rfl⟩

/-! ## Timestamps -/

/-- Readings of the clock with the same timestamp: the same microsecond of seconds that agree
modulo `2 ^ 32`. -/
def SameTimestamp (a b : UInt64) : Prop :=
  a.toNat / 1000000 % 2 ^ 32 = b.toNat / 1000000 % 2 ^ 32 ∧
    a.toNat % 1000000 = b.toNat % 1000000

theorem fromUs_eq_iff (a b : UInt64) : fromUs a = fromUs b ↔ SameTimestamp a b := by
  have hseconds := toNat_fromUs_seconds a
  have hseconds' := toNat_fromUs_seconds b
  have hfraction := toNat_fromUs_fraction a
  have hfraction' := toNat_fromUs_fraction b
  constructor
  · intro h
    rw [h] at hseconds hfraction
    rw [hseconds] at hseconds'
    rw [hfraction] at hfraction'
    constructor
    · omega
    · -- a microsecond is more than one unit of the fraction
      omega
  · rintro ⟨hs, hf⟩
    have hs' : (fromUs a).seconds = (fromUs b).seconds := by
      apply UInt32.toNat_inj.mp
      omega
    have hf' : (fromUs a).fraction = (fromUs b).fraction := by
      apply UInt32.toNat_inj.mp
      rw [hfraction, hfraction', hf]
    calc fromUs a = ⟨(fromUs a).seconds, (fromUs a).fraction⟩ := rfl
      _ = ⟨(fromUs b).seconds, (fromUs b).fraction⟩ := by rw [hs', hf']
      _ = fromUs b := rfl

/-! ## Whole runs -/

/-- An accepted reply stands directly behind the request that it answers. -/
def AnswersLast (before : List NtpEvent) (e : NtpEvent) : Prop :=
  ∀ origin, e = .accepted origin →
    ∃ earlier sent, before = earlier ++ [.requested sent] ∧ origin = fromUs sent

/-- The history of a run, and what the state keeps of it: while a request is pending, it is the
last event, and its timestamp is that of the state. -/
structure KeepsRequest (sync : NtpSync) (log : List (List NtpEvent)) : Prop where
  answers : Logged AnswersLast log.flatten
  pending : sync.requestPending = true →
    ∃ earlier sent, log.flatten = earlier ++ [.requested sent] ∧ sync.requestTime = fromUs sent

/-- An idle call. -/
theorem KeepsRequest.idle {sync next : NtpSync} {log : List (List NtpEvent)}
    (h : KeepsRequest sync log) (hpending : next.requestPending = sync.requestPending)
    (htime : next.requestTime = sync.requestTime) : KeepsRequest next (log ++ [[]]) where
  answers := by
    rw [List.flatten_append]
    simpa using h.answers
  pending hnext := by
    rw [hpending] at hnext
    rw [htime, List.flatten_append]
    simpa using h.pending hnext

/-- What one call preserves. -/
theorem ntpStep_keeps (sync : NtpSync) (log : List (List NtpEvent)) (call : NtpCall)
    (h : KeepsRequest sync log) :
    KeepsRequest (ntpStep sync call).1 (log ++ [(ntpStep sync call).2]) := by
  -- one case a call; what is rejected or does nothing leaves the request where it was
  cases call with
  | request now =>
      rw [ntpStep]
      rcases ntpSyncRequest_cases sync now with ⟨hnone, hsame⟩ | ⟨hsome, htime⟩
      · rw [hnone, hsame]
        exact h.idle rfl rfl
      · rw [if_pos hsome]
        have hlog : (log ++ [[NtpEvent.requested now]]).flatten =
            log.flatten ++ [.requested now] := by simp
        refine ⟨?_, fun _ => ⟨log.flatten, now, hlog, htime⟩⟩
        rw [hlog]
        apply logged_concat h.answers
        intro origin horigin
        cases horigin
  | packet data now =>
      rw [ntpStep]
      rcases ntpSyncProcessPacket_cases sync data now with hsame |
        ⟨hok, hpending, horigin, hupdated⟩
      · rw [if_neg (not_accepts hsame), hsame]
        exact h.idle rfl rfl
      · have haccepts : Accepts sync data now := hok
        rw [if_pos haccepts]
        obtain ⟨_, _, _, _, _, hnext⟩ := hupdated
        -- the accepted reply answers the last request of the log
        obtain ⟨earlier, sent, hlast, htime⟩ := h.pending hpending
        have hlog : (log ++ [[NtpEvent.accepted (readTime data 8)]]).flatten =
            log.flatten ++ [.accepted (readTime data 8)] := by simp
        constructor
        · rw [hlog]
          apply logged_concat h.answers
          intro origin hevent
          rw [NtpEvent.accepted.injEq] at hevent
          exact ⟨earlier, sent, hlast, by rw [← hevent, horigin, htime]⟩
        · intro hstill
          rw [hnext] at hstill
          cases hstill
  | control data rate =>
      rw [ntpStep]
      rcases ntpSyncControl_cases sync data rate with hsame | ⟨-, _, _, _, hnext⟩
      · rw [hsame]
        exact h.idle rfl rfl
      · rw [hnext]
        exact h.idle rfl rfl

/-- **What a run preserves.** -/
theorem ntpRun_keeps (calls : List NtpCall) :
    KeepsRequest (ntpAfter calls) (ntpMachine.run ntpSyncInit calls).2 := by
  have hstart : KeepsRequest ntpSyncInit [] :=
    ⟨logged_nil, fun h => absurd h Bool.false_ne_true⟩
  have hrun := ntpMachine.run_history_invariant KeepsRequest ntpStep_keeps calls ntpSyncInit []
    hstart
  rwa [List.nil_append] at hrun

/-- An accepted packet answers the request that was sent last, which is still pending. -/
theorem accepted_last {calls : List NtpCall} {data : List UInt8} {now : UInt64}
    (h : Accepts (ntpAfter calls) data now) :
    (ntpAfter calls).requestPending = true ∧
      ∃ earlier sent, ntpHistory calls = earlier ++ [.requested sent] ∧
        readTime data 8 = fromUs sent := by
  rcases ntpSyncProcessPacket_cases (ntpAfter calls) data now with hsame |
    ⟨-, hpending, horigin, -⟩
  · exact absurd h (not_accepts hsame)
  · obtain ⟨earlier, sent, hlast, htime⟩ := (ntpRun_keeps calls).pending hpending
    exact ⟨hpending, earlier, sent, hlast, by rw [horigin, htime]⟩

/-- **Replies are used once, and rejected packets leave no trace.** For every run: an accepted
reply stands directly behind the request that it answers; a packet is accepted only while a
request is pending, and only with the timestamp of the latest request; a reply to a request that
is not the last event, because it has been answered or another one was sent, is accepted only if
the latest request has the same timestamp; a rejected packet leaves the state as it is; and an
accepted one changes the anchor, or the estimate of the clock and that a request is pending. -/
theorem ntp_replies_single_use (calls : List NtpCall) :
    Logged AnswersLast (ntpHistory calls) ∧
    (∀ data now, Accepts (ntpAfter calls) data now →
      (ntpAfter calls).requestPending = true ∧
        ∃ earlier sent, ntpHistory calls = earlier ++ [.requested sent] ∧
          readTime data 8 = fromUs sent) ∧
    (∀ data now before sent after, ntpHistory calls = before ++ .requested sent :: after →
      after ≠ [] → readTime data 8 = fromUs sent → Accepts (ntpAfter calls) data now →
      ∃ earlier last, after = earlier ++ [.requested last] ∧ SameTimestamp sent last) ∧
    (∀ data now, ¬Accepts (ntpAfter calls) data now →
      (ntpSyncProcessPacket (ntpAfter calls) data now).1 = ntpAfter calls) ∧
    (∀ data rate, (ntpSyncControl (ntpAfter calls) data rate).2 ≠ 0 →
      (ntpSyncControl (ntpAfter calls) data rate).1 = ntpAfter calls) ∧
    (∀ data now, Accepts (ntpAfter calls) data now →
      ClockUpdated (ntpAfter calls) (ntpSyncProcessPacket (ntpAfter calls) data now).1) ∧
    (∀ data rate, (ntpSyncControl (ntpAfter calls) data rate).2 = 0 →
      AnchorUpdated (ntpAfter calls) (ntpSyncControl (ntpAfter calls) data rate).1) := by
  refine ⟨(ntpRun_keeps calls).answers, fun data now => accepted_last, ?_, ?_, ?_, ?_, ?_⟩
  · -- the reply to an older request has the time of the last one
    intro data now before sent after hhistory hafter horigin haccepts
    obtain ⟨-, earlier, last, hlast, hsame⟩ := accepted_last haccepts
    obtain ⟨front, final, rfl⟩ := (List.eq_nil_or_concat after).resolve_left hafter
    rw [List.concat_eq_append] at hhistory ⊢
    rw [hhistory, ← List.cons_append, ← List.append_assoc] at hlast
    obtain ⟨-, hfinal⟩ := List.append_inj' hlast rfl
    rw [List.cons.injEq] at hfinal
    refine ⟨front, last, by rw [hfinal.1], ?_⟩
    rw [← fromUs_eq_iff, ← horigin, hsame]
  · -- what is rejected leaves the state unchanged
    intro data now hno
    rcases ntpSyncProcessPacket_cases (ntpAfter calls) data now with hsame | ⟨hok, -⟩
    · rw [hsame]
    · exact absurd hok hno
  · intro data rate hno
    rcases ntpSyncControl_cases (ntpAfter calls) data rate with hsame | ⟨hok, -⟩
    · rw [hsame]
    · exact absurd hok hno
  · -- what is accepted changes its own fields only
    intro data now haccepts
    rcases ntpSyncProcessPacket_cases (ntpAfter calls) data now with hsame | ⟨-, -, -, hupdated⟩
    · exact absurd haccepts (not_accepts hsame)
    · exact hupdated
  · intro data rate hok
    rcases ntpSyncControl_cases (ntpAfter calls) data rate with hsame | ⟨-, hupdated⟩
    · have hno : (-1 : ℤ) ≠ 0 := by decide
      rw [hsame] at hok
      exact absurd hok hno
    · exact hupdated

/-- A reply to the request that was sent when the clock read 0. -/
def firstReply : List UInt8 :=
  [0x80, 0xd3, 0, 7] ++ List.replicate 4 0 ++ writeTime (fromUs 0) ++ writeTime (fromUs 0) ++
    writeTime (fromUs 0)

/-- The second request is sent `2 ^ 32` seconds after the first one, and the reply to the first
one is accepted twice. -/
theorem ntp_replay_after_era :
    ¬∀ (calls more : List NtpCall) (data : List UInt8) (now later : UInt64),
      Accepts (ntpAfter calls) data now →
        ¬Accepts (ntpAfter (calls ++ .packet data now :: more)) data later := by
  intro h
  exact h [.request 0] [.request 4294967296000000] firstReply 1000 4294967296001000
    (by decide +kernel) (by decide +kernel)

end PortableAirplay.Sync
