import PortableAirplay.Service.Boundaries
import PortableAirplay.Service.SessionIsolation

/-!
# Playing while the sender records

The control plane stops a recording while the audio thread is anywhere in its loop. The thread
looks at the stream state once for each poll, and a poll submits at most sixteen packets, so
that is what may still be played (`submits_after_recording`). What is played at all is played
in the poll of an iteration that found a recording (`submits_while_recording`).
-/

set_option autoImplicit false

namespace PortableAirplay.Service

open PortableAirplay.Airplay
open PortableAirplay.Audio
open PortableAirplay.Library
open PortableAirplay.Platform
open PortableAirplay.Protocol
open PortableAirplay.Sync

/-! ## The budget of a poll -/

/-- How many packets a poll may still submit. -/
def roundLeft : PollPhase → ℕ
  | .inputs => 16
  | .receiving _ _ => 16
  | .playing batch => 16 - batch
  | .done _ => 0

/-- How many packets the poll may still submit, for a pipeline that plays. -/
def pollLeft (p : AudioPipeline) (phase : PollPhase) : ℕ :=
  if p.state = .playing then roundLeft phase else 0

/-- How many packets the thread may submit before it looks at the stream state again. -/
def AudioThread.submitsLeft (t : AudioThread) : ℕ :=
  match t.phase with
  | .polling phase => pollLeft t.pipeline phase
  | .iteration => 0
  | .finished => 0

/-- The number of packets that an event submits. -/
def submits : ServerEvent → ℕ
  | .turn (.submitted _ _) => 1
  | _ => 0

theorem roundLeft_le (phase : PollPhase) : roundLeft phase ≤ 16 := by
  cases phase with
  | inputs => exact le_refl 16
  | receiving i limit => exact le_refl 16
  | playing batch => exact Nat.sub_le 16 batch
  | done ok => exact Nat.zero_le 16

theorem pollLeft_le (p : AudioPipeline) (phase : PollPhase) : pollLeft p phase ≤ 16 := by
  rw [pollLeft]
  split
  · exact roundLeft_le phase
  · exact Nat.zero_le 16

theorem submitsLeft_le (t : AudioThread) : t.submitsLeft ≤ 16 := by
  rw [AudioThread.submitsLeft]
  split
  · exact pollLeft_le t.pipeline _
  · exact Nat.zero_le 16
  · exact Nat.zero_le 16

/-- A turn of the loop over ready packets submits one packet of its batch, at most, and only
where the pipeline plays. -/
theorem playTurn_pays (io : PlayIo) (p : AudioPipeline) (batch : ℕ) :
    submits (.turn (playTurn io p batch).event) + roundLeft (playTurn io p batch).phase ≤
        16 - batch ∧
      (p.state ≠ .playing → submits (.turn (playTurn io p batch).event) = 0) := by
  rw [playTurn]
  by_cases hplays : batch < 16 ∧ p.state = .playing
  · rw [if_pos hplays]
    have hbatch := hplays.1
    refine ⟨?_, fun hstopped => absurd hplays.2 hstopped⟩
    cases playVerdict p io with
    | wait => exact Nat.zero_le _
    | fail => exact Nat.zero_le _
    | late slot =>
        show 0 + (16 - (batch + 1)) ≤ 16 - batch
        omega
    | submit slot =>
        show 1 + (16 - (batch + 1)) ≤ 16 - batch
        omega
  · rw [if_neg hplays]
    exact ⟨Nat.zero_le _, fun _ => rfl⟩

/-- Reading a record submits nothing. -/
theorem receiveTurn_submits (aead : Aead) (io : RecordIo) (p : AudioPipeline) (i limit : ℕ) :
    submits (.turn (Audio.receiveTurn aead io p i limit).event) = 0 := by
  rw [Audio.receiveTurn]
  split
  · dsimp only
    split
    · rfl
    · split
      · rfl
      · dsimp only
        rw [completedRecord]
        split
        · rfl
        · rfl
  · rfl

/-- **A turn pays for what it submits** out of what its poll has left. -/
theorem pollTurn_pays (aead : Aead) (io : TurnIo) (p : AudioPipeline) (phase : PollPhase) :
    submits (.turn (pollTurn aead io p phase).event) +
        pollLeft (pollTurn aead io p phase).pipeline (pollTurn aead io p phase).phase ≤
      pollLeft p phase := by
  have hstate := (pollTurn_effect aead io p phase).setting.state
  rw [pollLeft, pollLeft, hstate]
  cases phase with
  | inputs =>
      have hquiet : submits (.turn (inputsTurn aead io.inputs p).event) = 0 := by
        rw [inputsTurn_event]
        rfl
      show submits (.turn (inputsTurn aead io.inputs p).event) + _ ≤ _
      rw [hquiet, Nat.zero_add]
      split
      · exact roundLeft_le _
      · exact le_refl 0
  | receiving i limit =>
      show submits (.turn (Audio.receiveTurn aead io.record p i limit).event) + _ ≤ _
      rw [receiveTurn_submits, Nat.zero_add]
      split
      · exact roundLeft_le _
      · exact le_refl 0
  | playing batch =>
      obtain ⟨hpays, hstopped⟩ := playTurn_pays io.play p batch
      show submits (.turn (playTurn io.play p batch).event) + _ ≤ _
      split
      · exact hpays
      · rename_i hidle
        rw [hstopped hidle]
  | done ok =>
      show 0 + (if p.state = .playing then 0 else 0) ≤ (if p.state = .playing then 0 else 0)
      rw [Nat.zero_add]

/-! ## A stream state that is not recorded -/

/-- What holds of the audio thread in every run of the receiver. -/
theorem serverStep_settled (prim : Primitives) {listener : NetSocket} {s : AirplayServer}
    (h : Settled listener s.audio) (step : ServerStep) :
    Settled listener (serverStep prim s step).1.audio := by
  cases step with
  | control step => exact h
  | stop => exact h
  | fail => exact h
  | audio io =>
      have hstep : (serverStep prim s (.audio io)).1.audio =
          (audioRunStep prim.aead s.audioRun (.step io s.stream)).1.thread :=
        congrArg AudioRun.thread (audioStep_audioRun prim io s)
      rw [hstep]
      exact audioRunStep_settled prim.aead h (.step io s.stream)

/-- An iteration that finds no recording leaves a pipeline that does not play. -/
theorem applyStream_stops {listener : NetSocket} {t : AudioThread} {stream : StreamState}
    (h : Settled listener t) (io : SessionIo) (hwants : wantsAudio stream = false) :
    (applyStream io t stream).ok = true ∧
      (applyStream io t stream).thread.pipeline.state ≠ .playing := by
  have hclosed : (applyStream io t stream).ok = true ∧
      (applyStream io t stream).thread.audio = false := by
    have happlication := applyStream_application t stream io
    generalize applyStream io t stream = r at happlication ⊢
    cases happlication with
    | idle after hnot hbefore hafter hqueue => exact ⟨rfl, hafter⟩
    | stopped after hnot hbefore hafter hqueue => exact ⟨rfl, hafter⟩
    | kept after hdoes hbefore hcurrent hqueue =>
        exact absurd (hdoes.symm.trans hwants) (by decide)
    | restarted after hdoes hbefore hcurrent hqueue =>
        exact absurd (hdoes.symm.trans hwants) (by decide)
    | failed after calls hdoes hbefore hcalls =>
        exact absurd (hdoes.symm.trans hwants) (by decide)
  exact ⟨hclosed.1, applyStream_idle stream h io hclosed.1 hclosed.2⟩

/-- **A step pays for what it submits** while nothing is recorded: the next iteration does
not open the budget again. -/
theorem serverStep_pays (prim : Primitives) {listener : NetSocket} {s : AirplayServer}
    (h : Settled listener s.audio) (step : ServerStep) (hwants : wantsAudio s.stream = false) :
    submits (serverStep prim s step).2 + (serverStep prim s step).1.audio.submitsLeft ≤
      s.audio.submitsLeft := by
  have hquiet : ∀ n : ℕ, 0 + n ≤ n := fun n => (Nat.zero_add n).le
  cases step with
  | control step => exact hquiet _
  | stop => exact hquiet _
  | fail => exact hquiet _
  | audio io =>
      have heffect := audioStep_effect prim io s
      show submits (audioStep prim io s).2 + (audioStep prim io s).1.audio.submitsLeft ≤ _
      generalize audioStep prim io s = r at heffect ⊢
      cases heffect with
      | finished hphase => exact hquiet _
      | turn phase hphase =>
          have hbudget : s.audio.submitsLeft = pollLeft s.audio.pipeline phase := by
            rw [AudioThread.submitsLeft, hphase]
          have hpays := pollTurn_pays prim.aead io.turn s.audio.pipeline phase
          rw [turnStep_audio, hbudget]
          refine le_trans (Nat.add_le_add_left ?_ _) hpays
          rw [AudioThread.submitsLeft]
          cases (pollTurn prim.aead io.turn s.audio.pipeline phase).phase with
          | inputs => exact le_refl _
          | receiving i limit => exact le_refl _
          | playing batch => exact le_refl _
          | done ok => exact Nat.zero_le _
      | ended hphase hstopping => exact Nat.zero_le _
      | failed r hphase hstopping hr hok => exact Nat.zero_le _
      | applied r hphase hstopping hr hok =>
          -- the poll that begins has nothing to play
          have hidle := (applyStream_stops h io.session hwants).2
          rw [hr] at hidle
          show 0 + pollLeft r.thread.pipeline .inputs ≤ _
          rw [pollLeft, if_neg hidle]
          exact Nat.zero_le _

/-- The number of packets submitted in a list of events. -/
def submitted (events : List ServerEvent) : ℕ := (events.map submits).sum

/-- **Playing stops with the recording**: in every run, from the moment when the stream state
asks for no audio and for as long as it does so, at most the sixteen packets of the poll in
progress are submitted. -/
theorem submits_after_recording (prim : Primitives) (listener buffered : NetSocket)
    (localIp localMacHex deviceName : CString) (before after : List ServerStep)
    (hstopped : (serverMachine prim).Guarded (fun s _ => wantsAudio s.stream = false)
      ((serverMachine prim).run
        (AirplayServer.initial listener buffered localIp localMacHex deviceName) before).1 after) :
    submitted ((serverMachine prim).run ((serverMachine prim).run
      (AirplayServer.initial listener buffered localIp localMacHex deviceName) before).1
        after).2 ≤ 16 := by
  have hreached := (serverMachine prim).run_invariant (fun s => Settled buffered s.audio)
    (fun _ step h => serverStep_settled prim h step) before
    (AirplayServer.initial listener buffered localIp localMacHex deviceName)
    (start_settled buffered)
  have hbudget := (serverMachine prim).run_budget (fun s => Settled buffered s.audio) submits
    (fun s => s.audio.submitsLeft)
    (fun _ step h _ => serverStep_settled prim h step)
    (fun _ step h hwants => serverStep_pays prim h step hwants) after _ hreached hstopped
  exact hbudget.trans (submitsLeft_le _)

/-- A datagram with two samples. -/
def pcmDatagram (n : ℕ) : UdpOffer :=
  .datagram ⟨[0x80, 96, 0, UInt8.ofNat n] ++ write32 (UInt32.ofNat (352 * n)) ++
    [0, 0, 0, 1, 0, 1, 0, 2], ⟨ascii "10.0.0.2", 6000⟩, 1000000, 0⟩

/-- A client records; three packets are queued, and then the client pauses. -/
def pausedRun : List ServerStep :=
  recordRun ++ [.audio idleAudio,
    .audio { idleAudio with
      turn :=
        { idleAudio.turn with
          inputs := ⟨0, ⟨false, [], [], [pcmDatagram 4, pcmDatagram 5, pcmDatagram 6]⟩, ([], [])⟩ } },
    ask .pause [] []]

/-- A step of the audio thread at the time when the packets are due. -/
def dueStep : ServerStep :=
  .audio { idleAudio with
    turn := { idleAudio.turn with play := ⟨3100000, 3100000, 0, some [1, 2], id⟩ } }

/-- The three packets are played after the pause. -/
theorem submits_after_recording_paused :
    let s := ((serverMachine idlePrimitives).run
      (AirplayServer.initial ⟨some 1, 5000⟩ ⟨some 2, 7000⟩ [] [] []) pausedRun).1
    let events := ((serverMachine idlePrimitives).run s (List.replicate 6 dueStep)).2
    submitted events = 3 ∧ submitted events ≤ 16 :=
  ⟨by decide +kernel, submits_after_recording idlePrimitives ⟨some 1, 5000⟩ ⟨some 2, 7000⟩ [] [] []
    pausedRun (List.replicate 6 dueStep) (by decide +kernel)⟩

/-! ## The iteration before -/

/-- The stream state of the last iteration that went on to its poll. -/
def lastIteration (events : List ServerEvent) : Option StreamState :=
  events.foldl (fun last event =>
    match event with
    | .iteration stream true _ => some stream
    | _ => last) none

theorem lastIteration_concat (events : List ServerEvent) (event : ServerEvent) :
    lastIteration (events ++ [event]) =
      match event with
      | .iteration stream true _ => some stream
      | _ => lastIteration events := by
  rw [lastIteration, List.foldl_append]
  rfl

/-- The poll of the audio thread follows an iteration; where the pipeline plays, that
iteration found a recording. -/
def FollowsIteration (s : AirplayServer) (log : List ServerEvent) : Prop :=
  ∀ phase, s.audio.phase = .polling phase →
    ∃ stream, lastIteration log = some stream ∧
      (s.audio.pipeline.state = .playing → wantsAudio stream = true)

/-- A packet is submitted in the poll of an iteration that found a recording. -/
def PlaysRecorded (before : List ServerEvent) (event : ServerEvent) : Prop :=
  0 < submits event → ∃ stream, lastIteration before = some stream ∧ wantsAudio stream = true

/-- A step that is neither an iteration nor a turn, on a thread that stays as it is. -/
theorem FollowsIteration.quiet {s after : AirplayServer} {log : List ServerEvent}
    (h : FollowsIteration s log) (hsame : after.audio = s.audio) :
    FollowsIteration after (log ++ [.quiet]) := by
  intro phase hphase
  rw [hsame] at hphase ⊢
  rw [lastIteration_concat]
  exact h phase hphase

/-- A turn goes on in the poll of its iteration, and submits only where the pipeline plays. -/
theorem FollowsIteration.turn (prim : Primitives) {s : AirplayServer} {log : List ServerEvent}
    (h : FollowsIteration s log) (io : AudioIo) {phase : PollPhase}
    (hphase : s.audio.phase = .polling phase) :
    FollowsIteration (turnStep prim io s phase).1 (log ++ [(turnStep prim io s phase).2]) ∧
      PlaysRecorded log (turnStep prim io s phase).2 := by
  obtain ⟨stream, hlast, hplays⟩ := h phase hphase
  have hpays := pollTurn_pays prim.aead io.turn s.audio.pipeline phase
  have hstate := (pollTurn_effect prim.aead io.turn s.audio.pipeline phase).setting.state
  have hthread : (turnStep prim io s phase).1.audio.pipeline =
      (pollTurn prim.aead io.turn s.audio.pipeline phase).pipeline := by
    rw [turnStep_audio]
  constructor
  · intro phase' hphase'
    refine ⟨stream, ?_, fun hplaying => hplays ?_⟩
    · rw [lastIteration_concat]
      exact hlast
    · rw [hthread, hstate] at hplaying
      exact hplaying
  · intro hsubmits
    refine ⟨stream, hlast, hplays ?_⟩
    by_contra hidle
    have hnone : pollLeft s.audio.pipeline phase = 0 := if_neg hidle
    have hsome : 0 < submits (.turn (pollTurn prim.aead io.turn s.audio.pipeline phase).event) :=
      hsubmits
    omega

/-- **What one step does**: the poll follows its iteration, and what the step submits was
recorded. -/
theorem FollowsIteration.step (prim : Primitives) {listener : NetSocket} {s : AirplayServer}
    {log : List ServerEvent} (h : FollowsIteration s log) (hsettled : Settled listener s.audio)
    (step : ServerStep) :
    FollowsIteration (serverStep prim s step).1 (log ++ [(serverStep prim s step).2]) ∧
      PlaysRecorded log (serverStep prim s step).2 := by
  have hnothing : PlaysRecorded log .quiet := fun hsubmits => absurd hsubmits (lt_irrefl 0)
  cases step with
  | control step => exact ⟨h.quiet rfl, hnothing⟩
  | stop => exact ⟨h.quiet rfl, hnothing⟩
  | fail => exact ⟨h.quiet rfl, hnothing⟩
  | audio io =>
      have heffect := audioStep_effect prim io s
      show FollowsIteration (audioStep prim io s).1 (log ++ [(audioStep prim io s).2]) ∧
        PlaysRecorded log (audioStep prim io s).2
      generalize audioStep prim io s = r at heffect ⊢
      cases heffect with
      | finished hphase => exact ⟨h.quiet rfl, hnothing⟩
      | turn phase hphase => exact h.turn prim io hphase
      | ended hphase hstopping =>
          refine ⟨fun phase hpolling => ?_, fun hsubmits => absurd hsubmits (lt_irrefl 0)⟩
          have hfinished : AudioPhase.finished = .polling phase := hpolling
          contradiction
      | failed r hphase hstopping hr hok =>
          refine ⟨fun phase hpolling => ?_, fun hsubmits => absurd hsubmits (lt_irrefl 0)⟩
          have hfinished : AudioPhase.finished = .polling phase := hpolling
          contradiction
      | applied r hphase hstopping hr hok =>
          refine ⟨fun phase hpolling => ?_, fun hsubmits => absurd hsubmits (lt_irrefl 0)⟩
          refine ⟨s.stream, by rw [lastIteration_concat], fun hplaying => ?_⟩
          by_contra hwants
          rw [Bool.not_eq_true] at hwants
          have hidle := (applyStream_stops hsettled io.session hwants).2
          rw [hr] at hidle
          exact hidle hplaying

/-- **Only a recording is played**: in every run, each packet is submitted in the poll of an
iteration of the audio thread whose copy of the stream state was recording a session. -/
theorem submits_while_recording (prim : Primitives) (listener buffered : NetSocket)
    (localIp localMacHex deviceName : CString) (steps : List ServerStep) :
    Logged PlaysRecorded ((serverMachine prim).run
      (AirplayServer.initial listener buffered localIp localMacHex deviceName) steps).2 := by
  have hrun := (serverMachine prim).run_history_invariant
    (fun s log => Settled buffered s.audio ∧ FollowsIteration s log ∧ Logged PlaysRecorded log)
    (fun s log step ⟨hsettled, hfollows, hlogged⟩ =>
      have hstep := hfollows.step prim hsettled step
      ⟨serverStep_settled prim hsettled step, hstep.1, logged_concat hlogged hstep.2⟩)
    steps (AirplayServer.initial listener buffered localIp localMacHex deviceName) []
    ⟨start_settled buffered, fun phase hphase => by contradiction, logged_nil⟩
  exact hrun.2.2

end PortableAirplay.Service
