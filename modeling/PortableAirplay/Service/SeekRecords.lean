import PortableAirplay.Audio.PlayedOnce
import PortableAirplay.Protocol.Fragmentation
import PortableAirplay.Service.BackPressure

/-!
# Records around a seek

A FLUSHBUFFERED stores a boundary in the stream state, and the audio thread gives it to
the connection when it next starts the session anew. Until then its poll goes on under
the stream state that it copied before: it reads records after the boundary too and
queues them. The start empties the queue, and the records that the sender wrote after
the seek are lost with the old ones (`seek_loses_record`).

A ledger follows the packets through the queue. From the storing of a flush to its
application a watch notes the ticket of every record after the boundary, and
`seek_keeps_records` says which runs keep them all.
-/

set_option autoImplicit false

namespace PortableAirplay.Service

open PortableAirplay.Airplay
open PortableAirplay.Audio
open PortableAirplay.Library
open PortableAirplay.Platform
open PortableAirplay.Protocol

/-! ## The flush and the records after it -/

/-- The sequence that a FLUSHBUFFERED of the stream owner stores. -/
def storedFlush (c : ControlState) : ControlStep → Option UInt32
  | .request i request _ =>
      if (c.server.clients i).socket.isOpen = true ∧ request.method = .flushBuffered ∧
          isBinaryPlist request = true ∧ (c.server.clients i).encrypted = true ∧
          c.server.streamOwner = some i then
        (bplistOpen request.body).bind flushUntilSequence
      else none
  | _ => none

/-- It is what the stream state has afterwards. -/
theorem storedFlush_stream (prim : Primitives) {c : ControlState} {step : ControlStep}
    {sequence : UInt32} (h : storedFlush c step = some sequence) :
    (controlStep prim c step).server.stream = bufferedFlushStream c.server sequence := by
  cases step with
  | accept handle peer => exact absurd h (by simp [storedFlush])
  | close i => exact absurd h (by simp [storedFlush])
  | receive i pairing record eventClient rx => exact absurd h (by simp [storedFlush])
  | request i request io =>
      rw [storedFlush] at h
      split at h
      · rename_i haccepted
        obtain ⟨hopen, hmethod, hbinary, hencrypted, howner⟩ := haccepted
        obtain ⟨p, hp, hsequence⟩ := Option.bind_eq_some_iff.mp h
        have howner' : (withVersion c.server i request).streamOwner = some i := howner
        rw [controlStep, requestStep, if_neg (by simp [hopen])]
        dsimp only
        rw [handleRequest, routeRequest, hmethod]
        dsimp only
        rw [if_pos hbinary, airplay2FlushBuffered, openEncryptedPlist, withVersion_encrypted,
          if_neg (by simp [hencrypted]), hp]
        dsimp only
        rw [flushBuffered, hsequence]
        dsimp only
        rw [if_pos howner']
        rfl
      · exact absurd h (by simp)

/-- The sequence of a record is after the boundary, on the circle of 24 bits. -/
def afterBoundary (boundary sequence : UInt32) : Bool :=
  let distance := (sequence - boundary) &&& 0xffffff
  decide (distance ≠ 0) && decide (distance < 0x800000)

/-- It is the test by which the connection keeps records back while it discards. -/
theorem staleRecord_eq (b : BufferedAudio) :
    b.staleRecord =
      (b.discarding && !afterBoundary b.discardSequence (recordSequence b.data)) := by
  rw [BufferedAudio.staleRecord, afterBoundary]
  generalize (recordSequence b.data - b.discardSequence) &&& 0xffffff = distance
  congr 1
  by_cases hzero : distance = 0
  · simp [hzero]
  · by_cases hfar : 0x800000 ≤ distance
    · simp [hzero, hfar]
    · simp [hzero, hfar, UInt32.not_le.mp hfar]

/-! ## The watch -/

/-- Where the flush stands that was stored last. -/
inductive FlushStage where
  | absent
  | pending (sequence : UInt32)
  | applied
  deriving DecidableEq

/-- The record authenticates, and the queue has room for its packet. -/
def receivable (aead : Aead) (p : AudioPipeline) (data : List UInt8) : Bool :=
  (p.decryptPacket aead (recordPacket data)).2.isSome && p.playout.freeSlot.isSome

/-- The ledger of the queue, and of every receivable record after the boundary that was
read while the flush was pending the ticket of its packet, or `none` if the packet was
not queued. -/
structure SeekWatch where
  stage : FlushStage
  records : List (Option ℕ)
  ledger : PlayLedger

/-- The ticket that was given between two ledgers. -/
def newTicket (before after : PlayLedger) : Option ℕ :=
  if before.custody.given < after.custody.given then some before.custody.given else none

namespace SeekWatch

/-- No flush was stored, and the queue is empty. -/
def start : SeekWatch := ⟨.absent, [], PlayLedger.empty⟩

/-- A flush is stored. -/
def store (w : SeekWatch) : Option UInt32 → SeekWatch
  | none => w
  | some sequence => { w with stage := .pending sequence, records := [] }

/-- An iteration starts the session anew or stops it, unless it makes no calls. -/
def iteration (w : SeekWatch) (ok : Bool) (calls : List PipelineCall) : SeekWatch :=
  { w with
    stage :=
      match w.stage with
      | .pending sequence =>
          if ok = true ∧ .seek sequence ∈ calls then .applied else .pending sequence
      | stage => stage
    ledger := if ok = true ∧ calls = [] then w.ledger else w.ledger.reset }

/-- What a turn adds to the records. -/
def noted (aead : Aead) (w : SeekWatch) (p : AudioPipeline) (after : PlayLedger)
    (event : TurnEvent) : List (Option ℕ) :=
  match w.stage, event with
  | .pending sequence, .record data _ =>
      if afterBoundary sequence (recordSequence data) = true ∧ receivable aead p data = true then
        [newTicket w.ledger after]
      else []
  | _, _ => []

/-- A turn of a poll that stands at `phase`. -/
def turn (aead : Aead) (w : SeekWatch) (io : TurnIo) (p : AudioPipeline) (phase : PollPhase)
    (event : TurnEvent) : SeekWatch :=
  let ledger := w.ledger.watch aead ⟨p, some phase⟩ (.turn io) event
  { w with records := w.records ++ w.noted aead p ledger event, ledger := ledger }

end SeekWatch

/-- Where the poll of the audio thread stands. -/
def AudioPhase.poll : AudioPhase → PollPhase
  | .polling phase => phase
  | _ => .inputs

/-- The monitor that keeps the watch. -/
def seekMonitor (prim : Primitives) (w : SeekWatch) (s : AirplayServer) :
    ServerStep → ServerEvent → SeekWatch
  | .control step, _ => w.store (storedFlush s.control step)
  | .audio io, .turn event => w.turn prim.aead io.turn s.audio.pipeline s.audio.phase.poll event
  | .audio _, .iteration _ ok calls => w.iteration ok calls
  | .audio _, .ended => { w with ledger := w.ledger.reset }
  | _, _ => w

/-- The receiver with that monitor. -/
def seekMachine (prim : Primitives) :
    Machine (AirplayServer × SeekWatch) ServerStep ServerEvent :=
  (serverMachine prim).watched (seekMonitor prim)

/-- The watch does not disturb the receiver. -/
theorem seekMachine_server (prim : Primitives) (w : AirplayServer × SeekWatch)
    (steps : List ServerStep) :
    ((seekMachine prim).run w steps).1.1 = ((serverMachine prim).run w.1 steps).1 :=
  ((serverMachine prim).watched_run (seekMonitor prim) steps w).1

/-! ## The property -/

/-- A slot of the queue holds the packet of a ticket. -/
def Queued (w : AirplayServer × SeekWatch) (t : ℕ) : Prop :=
  ∃ i, (w.1.audio.pipeline.playout.packets i).valid = true ∧
    w.2.ledger.custody.held i = some t ∧
      w.2.ledger.accepted[t]? = some (w.1.audio.pipeline.playout.packets i).packet

/-- The packet of a ticket was handed to the decoder. -/
def Played (w : SeekWatch) (t : ℕ) : Prop := (t, Fate.handed) ∈ w.ledger.custody.fates

instance (w : AirplayServer × SeekWatch) (t : ℕ) : Decidable (Queued w t) :=
  inferInstanceAs (Decidable (∃ _, _))

instance (w : SeekWatch) (t : ℕ) : Decidable (Played w t) := inferInstanceAs (Decidable (_ ∈ _))

/-- Once the flush is applied, every record noted is in the queue or was played. -/
def KeepsRecords (w : AirplayServer × SeekWatch) : Prop :=
  w.2.stage = .applied → ∀ r ∈ w.2.records, ∃ t ∈ r, Queued w t ∨ Played w.2 t

instance (w : AirplayServer × SeekWatch) : Decidable (KeepsRecords w) :=
  -- by the option of each record, not by an enumeration of all tickets
  have : ∀ r : Option ℕ, Decidable (∃ t ∈ r, Queued w t ∨ Played w.2 t) := fun _ =>
    Option.decidableExistsMem _
  inferInstanceAs (Decidable (_ → ∀ r ∈ w.2.records, ∃ t ∈ r, Queued w t ∨ Played w.2 t))

/-- Every record noted was played. -/
def AllPlayed (w : SeekWatch) : Prop := ∀ r ∈ w.records, ∃ t ∈ r, Played w t

/-! ## The condition -/

/-- `start_audio_session` succeeds where it does not return at once. -/
def sessionStarts (io : SessionIo) (t : AudioThread) (stream : StreamState) : Bool :=
  let configured := audioPipelineConfigure io.configure (closeAudio t).pipeline stream.session
  configured.2 && io.deviceOpens && (audioPipelineStart configured.1).2

/-- The next step of the audio thread starts the session anew with this seek. -/
def appliesFlush (io : SessionIo) (s : AirplayServer) (sequence : UInt32) : Bool :=
  decide (s.audio.phase = .iteration) && !s.stopping && wantsAudio s.stream &&
    !upToDate s.audio s.stream &&
    sessionStarts io (updateAudioTransport s.audio s.stream) s.stream &&
    seeks s.stream && s.stream.bufferedFlushSequence == sequence

/-- The condition on a step: an iteration that applies the pending flush finds every
record noted played, none waiting in the queue. -/
def SparesRecords (w : AirplayServer × SeekWatch) : ServerStep → Prop
  | .audio io =>
      ∀ sequence, w.2.stage = .pending sequence →
        appliesFlush io.session w.1 sequence = true → AllPlayed w.2
  | _ => True

section Starts

variable {io : SessionIo} {t : AudioThread} {stream : StreamState}

theorem restartAudioSession_starts :
    (restartAudioSession io t stream).ok = sessionStarts io t stream := by
  rw [restartAudioSession, sessionStarts]
  dsimp only
  generalize audioPipelineConfigure io.configure (closeAudio t).pipeline stream.session = configured
  obtain ⟨p, ok⟩ := configured
  cases ok with
  | false => rfl
  | true =>
      dsimp only
      rw [if_neg (by simp)]
      cases hopens : io.deviceOpens with
      | false => rfl
      | true =>
          rw [if_neg (by simp)]
          cases hstarted : (audioPipelineStart p).2 with
          | false => rfl
          | true => rfl

/-- Where audio is wanted on a session that is not current, an iteration is as
successful as the start of the session. -/
theorem applyStream_starts (hwants : wantsAudio stream = true) (hnot : upToDate t stream = false) :
    (applyStream io t stream).ok = sessionStarts io (updateAudioTransport t stream) stream := by
  obtain ⟨haudio, hgeneration, hflush, -⟩ := updateAudioTransport_same t stream
  have hold : upToDate (updateAudioTransport t stream) stream = false := by
    rw [upToDate, haudio, hgeneration, hflush]
    exact hnot
  have hanew : startAudioSession io (updateAudioTransport t stream) stream =
      restartAudioSession io (updateAudioTransport t stream) stream := by
    rw [startAudioSession, if_neg (by simp [hold])]
  have hswitch : (switchAudio io (updateAudioTransport t stream) stream).ok =
      (restartAudioSession io (updateAudioTransport t stream) stream).ok := by
    rw [switchAudio, if_neg (by simp [hwants]), hanew]
    dsimp only
    split
    · rfl
    · rfl
  rw [← restartAudioSession_starts, ← hswitch, applyStream]
  split
  · rfl
  · rfl

theorem mem_restartCalls {sequence : UInt32} :
    .seek sequence ∈ PipelineCall.stop :: (floorCalls stream ++ seekCalls stream) ↔
      seeks stream = true ∧ stream.bufferedFlushSequence = sequence := by
  have hfloor : PipelineCall.seek sequence ∉ floorCalls stream := by
    rw [floorCalls]
    split
    · simp
    · simp
  have hseek : PipelineCall.seek sequence ∈ seekCalls stream ↔
      seeks stream = true ∧ stream.bufferedFlushSequence = sequence := by
    rw [seekCalls]
    split
    · rename_i hseeks
      rw [List.mem_singleton, PipelineCall.seek.injEq]
      exact ⟨fun h => ⟨hseeks, h.symm⟩, fun h => h.2.symm⟩
    · rename_i hseeks
      exact ⟨fun h => absurd h List.not_mem_nil, fun h => absurd h.1 hseeks⟩
  rw [List.mem_cons, List.mem_append, ← hseek]
  constructor
  · rintro (h | h | h)
    · exact PipelineCall.noConfusion h
    · exact absurd h hfloor
    · exact h
  · exact fun h => Or.inr (Or.inr h)

end Starts

/-- **When a flush is applied**: an iteration succeeds and makes the call exactly where
`appliesFlush` says so. -/
theorem appliesFlush_iff {io : SessionIo} {s : AirplayServer} {sequence : UInt32}
    (hphase : s.audio.phase = .iteration) (hstopping : s.stopping = false) :
    appliesFlush io s sequence = true ↔
      (applyStream io s.audio s.stream).ok = true ∧
        .seek sequence ∈ (applyStream io s.audio s.stream).calls := by
  -- an iteration that starts a session anew, whose stream seeks
  have hopen : appliesFlush io s sequence = true ↔ wantsAudio s.stream = true ∧
      upToDate s.audio s.stream = false ∧
        sessionStarts io (updateAudioTransport s.audio s.stream) s.stream = true ∧
          seeks s.stream = true ∧ s.stream.bufferedFlushSequence = sequence := by
    simp [appliesFlush, hphase, hstopping, and_assoc]
  have happlied := applyStream_application s.audio s.stream io
  rw [hopen]
  constructor
  · rintro ⟨hwants, hold, hstarts, hseeks⟩
    have hok := (applyStream_starts hwants hold).trans hstarts
    have hnot : ¬ Current s.audio s.stream := fun h =>
      absurd (hold.symm.trans ((upToDate_iff _ _).mpr h)) (by decide)
    refine ⟨hok, ?_⟩
    generalize applyStream io s.audio s.stream = r at happlied hok
    cases happlied with
    | idle after hfalse => exact absurd (hwants.symm.trans hfalse) (by decide)
    | stopped after hfalse => exact absurd (hwants.symm.trans hfalse) (by decide)
    | kept after hwants hbefore => exact absurd hbefore hnot
    -- only a restart calls the seek
    | restarted after => exact mem_restartCalls.mpr hseeks
    | failed after calls => exact absurd hok (by simp)
  · rintro ⟨hok, hcall⟩
    have hstarts : wantsAudio s.stream = true → upToDate s.audio s.stream = false →
        (applyStream io s.audio s.stream).ok =
          sessionStarts io (updateAudioTransport s.audio s.stream) s.stream := applyStream_starts
    generalize applyStream io s.audio s.stream = r at happlied hok hcall hstarts
    cases happlied with
    | idle after => exact absurd hcall List.not_mem_nil
    | stopped after => exact absurd hcall (by simp)
    | kept after => exact absurd hcall List.not_mem_nil
    | restarted after hwants hbefore =>
        have hold : upToDate s.audio s.stream = false :=
          Bool.eq_false_iff.mpr fun h => hbefore ((upToDate_iff _ _).mp h)
        exact ⟨hwants, hold, (hstarts hwants hold).symm.trans hok, mem_restartCalls.mp hcall⟩
    | failed after calls => exact absurd hok (by simp)

/-! ## The watch along a run -/

theorem AllPlayed.keeps {w : AirplayServer × SeekWatch} (h : AllPlayed w.2) : KeepsRecords w := by
  intro _ r hr
  obtain ⟨t, ht, hplayed⟩ := h r hr
  exact ⟨t, ht, Or.inr hplayed⟩

/-- What was played stays so. -/
theorem AllPlayed.mono {w after : SeekWatch} (h : AllPlayed w)
    (hrecords : after.records = w.records)
    (hfates : w.ledger.custody.fates ⊆ after.ledger.custody.fates) : AllPlayed after := by
  intro r hr
  rw [hrecords] at hr
  obtain ⟨t, ht, hplayed⟩ := h r hr
  exact ⟨t, ht, hfates hplayed⟩

/-- While no flush is pending, a turn notes nothing. -/
theorem SeekWatch.noted_applied {w : SeekWatch} (h : w.stage = .applied) (aead : Aead)
    (p : AudioPipeline) (after : PlayLedger) (event : TurnEvent) :
    w.noted aead p after event = [] := by
  unfold SeekWatch.noted
  rw [h]

/-- **The invariant**: the ledger follows the queue, and the records of an applied flush
were all played. -/
structure Watching (w : AirplayServer × SeekWatch) : Prop where
  tracks : w.2.ledger.Tracks w.1.audio.pipeline.playout
  played : w.2.stage = .applied → AllPlayed w.2

section Watching

variable (prim : Primitives) {w : AirplayServer × SeekWatch}

theorem Watching.store (h : Watching w) (control : ControlState) (flush : Option UInt32) :
    Watching ({ w.1 with control := control }, w.2.store flush) := by
  cases flush with
  | none => exact ⟨h.tracks, h.played⟩
  | some sequence => exact ⟨h.tracks, fun happlied => FlushStage.noConfusion happlied⟩

/-- The thread ends with an empty queue, and applies nothing. -/
theorem Watching.ended (h : Watching w) {after : AirplayServer} {stage : FlushStage}
    (hqueue : ∀ i, (after.audio.pipeline.playout.packets i).valid = false)
    (hstage : stage = .applied → w.2.stage = .applied) :
    Watching (after, { w.2 with stage := stage, ledger := w.2.ledger.reset }) where
  tracks := h.tracks.reset hqueue
  played happlied := (h.played (hstage happlied)).mono rfl (List.subset_append_left _ _)

/-- A turn keeps the ledger in step and leaves the records of an applied flush alone. -/
theorem Watching.turn (h : Watching w) (io : AudioIo) (phase : PollPhase) :
    Watching ((turnStep prim io w.1 phase).1,
      w.2.turn prim.aead io.turn w.1.audio.pipeline phase
        (pollTurn prim.aead io.turn w.1.audio.pipeline phase).event) := by
  have hledger := ledgerStep_effect prim.aead (⟨w.1.audio.pipeline, some phase⟩, w.2.ledger)
    (.turn io.turn)
  have hqueue : (turnStep prim io w.1 phase).1.audio.pipeline =
      (pollTurn prim.aead io.turn w.1.audio.pipeline phase).pipeline := by
    rw [turnStep_audio]
  refine ⟨?_, fun happlied => ?_⟩
  · dsimp only
    rw [hqueue]
    exact hledger.tracks h.tracks
  · have happlied : w.2.stage = .applied := happlied
    refine (h.played happlied).mono ?_ hledger.fates_subset
    dsimp only
    rw [SeekWatch.turn, SeekWatch.noted_applied happlied]
    exact List.append_nil _

/-- A successful iteration. If it applies the pending flush, the condition says that
nothing of the records is left to lose. -/
theorem Watching.applied (h : Watching w) {r : Applied} (hr : Application w.1.audio w.1.stream r)
    (hok : r.ok = true) (phase : AudioPhase)
    (hguard : ∀ sequence, w.2.stage = .pending sequence → .seek sequence ∈ r.calls →
      AllPlayed w.2) :
    Watching ({ w.1 with audio := { r.thread with phase := phase } },
      w.2.iteration true r.calls) := by
  -- what was played before the iteration is played after it
  have hplayed : AllPlayed w.2 → AllPlayed (w.2.iteration true r.calls) := by
    intro hall
    refine hall.mono rfl ?_
    rw [SeekWatch.iteration]
    dsimp only
    split
    · exact List.Subset.refl _
    · exact List.subset_append_left _ _
  refine ⟨?_, fun happlied => ?_⟩
  · -- the ledger is reset where the calls begin with a stop
    cases hr with
    | idle after hwants hbefore haudio hqueue =>
        show w.2.ledger.Tracks after.pipeline.playout
        rw [hqueue]
        exact h.tracks
    | stopped after hwants hbefore haudio hqueue => exact h.tracks.reset hqueue
    | kept after hwants hbefore hcurrent hqueue =>
        show w.2.ledger.Tracks after.pipeline.playout
        rw [hqueue]
        exact h.tracks
    | restarted after hwants hbefore hcurrent hqueue => exact h.tracks.reset hqueue
    | failed after calls hwants hbefore hcalls => exact absurd hok (by simp)
  · -- the stage becomes `applied` by the call only
    apply hplayed
    cases hstage : w.2.stage with
    | absent =>
        rw [SeekWatch.iteration, hstage] at happlied
        exact FlushStage.noConfusion happlied
    | applied => exact h.played hstage
    | pending sequence =>
        apply hguard sequence hstage
        rw [SeekWatch.iteration, hstage] at happlied
        dsimp only at happlied
        split at happlied
        · rename_i hcall
          exact hcall.2
        · exact FlushStage.noConfusion happlied

theorem Watching.audio (h : Watching w) (io : AudioIo) (hguard : SparesRecords w (.audio io)) :
    Watching ((seekMachine prim).step w (.audio io)).1 := by
  have hstep : ((seekMachine prim).step w (.audio io)).1 =
      ((audioStep prim io w.1).1,
        seekMonitor prim w.2 w.1 (.audio io) (audioStep prim io w.1).2) := rfl
  have heffect := audioStep_effect prim io w.1
  rw [hstep]
  generalize audioStep prim io w.1 = next at heffect ⊢
  cases heffect with
  | finished hphase => exact h
  | turn phase hphase =>
      have hturn := h.turn prim io phase
      show Watching ((turnStep prim io w.1 phase).1,
        w.2.turn prim.aead io.turn w.1.audio.pipeline w.1.audio.phase.poll _)
      rw [hphase]
      exact hturn
  | ended hphase hstopping => exact h.ended (fun i => playoutReset_empty _ i) id
  | failed r hphase hstopping hr hok =>
      refine h.ended (fun i => playoutReset_empty _ i) fun hstage => ?_
      -- a flush that is pending stays so where the start fails
      split at hstage
      · rw [if_neg (by simp)] at hstage
        exact FlushStage.noConfusion hstage
      · exact hstage
  | applied r hphase hstopping hr hok =>
      have happlied := applyStream_application w.1.audio w.1.stream io.session
      have hiff := @appliesFlush_iff io.session w.1
      rw [hr] at happlied hiff
      refine h.applied happlied hok _ fun sequence hstage hcall => ?_
      exact hguard sequence hstage ((hiff hphase hstopping).mpr ⟨hok, hcall⟩)

theorem Watching.step (h : Watching w) (step : ServerStep) (hguard : SparesRecords w step) :
    Watching ((seekMachine prim).step w step).1 := by
  cases step with
  | control step => exact h.store (controlStep prim w.1.control step) _
  | audio io => exact h.audio prim io hguard
  | stop => exact ⟨h.tracks, h.played⟩
  | fail => exact ⟨h.tracks, h.played⟩

/-- The receiver and the watch after a successful iteration. -/
theorem seekMachine_iteration (io : AudioIo) (hphase : w.1.audio.phase = .iteration)
    (hstopping : w.1.stopping = false)
    (hok : (applyStream io.session w.1.audio w.1.stream).ok = true) :
    ((seekMachine prim).step w (.audio io)).1 =
      ({ w.1 with
        audio := { (applyStream io.session w.1.audio w.1.stream).thread with
          phase := .polling .inputs } },
        w.2.iteration true (applyStream io.session w.1.audio w.1.stream).calls) := by
  have hstep : ((seekMachine prim).step w (.audio io)).1 =
      ((audioStep prim io w.1).1,
        seekMonitor prim w.2 w.1 (.audio io) (audioStep prim io w.1).2) := rfl
  rw [hstep, audioStep, hphase]
  dsimp only
  rw [iterationStep_eq, if_neg (by simp [hstopping])]
  dsimp only
  rw [if_neg (by simp [hok])]
  rfl

/-- What a restart leaves of the records was played before: the queue is empty after it,
and no ticket is handed over by a reset. -/
theorem allPlayed_of_restart {after : AirplayServer} {calls : List PipelineCall}
    {sequence : UInt32} (hstage : w.2.stage = .pending sequence)
    (hcall : .seek sequence ∈ calls)
    (hqueue : ∀ i, (after.audio.pipeline.playout.packets i).valid = false)
    (hkeeps : KeepsRecords (after, w.2.iteration true calls)) : AllPlayed w.2 := by
  have hcalls : calls ≠ [] := List.ne_nil_of_mem hcall
  have happlied : (w.2.iteration true calls).stage = .applied := by
    rw [SeekWatch.iteration, hstage]
    exact if_pos ⟨rfl, hcall⟩
  have hledger : (w.2.iteration true calls).ledger = w.2.ledger.reset :=
    if_neg fun h => hcalls h.2
  intro r hr
  obtain ⟨t, ht, hqueued | hplayed⟩ := hkeeps happlied r hr
  · obtain ⟨i, hvalid, -⟩ := hqueued
    exact absurd (hvalid.symm.trans (hqueue i)) (by decide)
  · refine ⟨t, ht, ?_⟩
    rw [Played, hledger] at hplayed
    rcases List.mem_append.mp hplayed with hbefore | hreset
    · exact hbefore
    · obtain ⟨u, -, hu⟩ := List.mem_map.mp hreset
      exact Fate.noConfusion (Prod.mk.inj hu).2

/-- A step after which every record noted is kept meets the condition. -/
theorem sparesRecords_of_keeps (step : ServerStep)
    (hkeeps : KeepsRecords ((seekMachine prim).step w step).1) : SparesRecords w step := by
  cases step with
  | control step => trivial
  | stop => trivial
  | fail => trivial
  | audio io =>
      intro sequence hstage happlies
      have hopen := happlies
      simp only [appliesFlush, Bool.and_eq_true, decide_eq_true_eq, Bool.not_eq_true'] at hopen
      obtain ⟨⟨⟨⟨⟨⟨hphase, hstopping⟩, -⟩, -⟩, -⟩, -⟩, -⟩ := hopen
      obtain ⟨hok, hcall⟩ := (appliesFlush_iff hphase hstopping).mp happlies
      rw [seekMachine_iteration prim io hphase hstopping hok] at hkeeps
      refine allPlayed_of_restart hstage hcall ?_ hkeeps
      have happlied := applyStream_application w.1.audio w.1.stream io.session
      dsimp only
      generalize applyStream io.session w.1.audio w.1.stream = r at happlied hok hcall ⊢
      cases happlied with
      | idle after => exact absurd hcall List.not_mem_nil
      | stopped after => exact absurd hcall (by simp)
      | kept after => exact absurd hcall List.not_mem_nil
      | restarted after hwants hbefore hcurrent hqueue => exact hqueue
      | failed after calls => exact absurd hok (by simp)

end Watching

/-! ## Main result -/

/-- **Which runs lose no record to a seek.** In any run from any state of the control
plane, every receivable record after the boundary that was read between the storing of a
flush and its application is in the queue or was played once the flush is applied, if and
only if each iteration that applies a pending flush finds these records played. -/
theorem seek_keeps_records (prim : Primitives) (control : ControlState) (listener : NetSocket)
    (steps : List ServerStep) :
    (∀ front, front <+: steps →
      KeepsRecords ((seekMachine prim).run
        (⟨⟨false, false⟩, control, AudioThread.start listener⟩, SeekWatch.start) front).1) ↔
      (seekMachine prim).Guarded SparesRecords
        (⟨⟨false, false⟩, control, AudioThread.start listener⟩, SeekWatch.start) steps := by
  have hstart : Watching
      ((⟨⟨false, false⟩, control, AudioThread.start listener⟩, SeekWatch.start) :
        AirplayServer × SeekWatch) :=
    ⟨empty_tracks listener, fun happlied => FlushStage.noConfusion happlied⟩
  symm
  refine (seekMachine prim).guarded_iff_reached Watching KeepsRecords ?_ ?_ ?_ steps _ hstart
  · exact fun w h happlied => (h.played happlied).keeps happlied
  · exact fun w step h hguard => h.step prim step hguard
  · exact fun w step _ hkeeps => sparesRecords_of_keeps prim step hkeeps

/-! ## A record that is lost -/

/-- A control plane that has just paired the client in its first slot. -/
def pairedControl : ControlState where
  server := acceptedServer.setClient firstSlot
    { acceptedServer.clients firstSlot with
      encrypted := true
      pairing := { pairingClose with established := true } }
  accepted _ := 0
  installer := none

/-- A request of the client in the first slot with a property list as its body. -/
def askPlist (method : RtspMethod) (list : BplistWriter × ℕ) : ServerStep :=
  .control (.request firstSlot
    { RtspRequest.zero with method := method, body := bplistFinish list.1 list.2 }
    ⟨none, none, ⟨false, none, false⟩⟩)

/-- SETUP of a buffered ALAC stream. -/
def setupBuffered : ServerStep :=
  let d : DictWriter := ⟨bplistWriterInit 512, []⟩
  let d := (d.addInt (ascii "type") 103).addInt (ascii "ct") 2
  let (w, key) := bplistAddString d.writer (ascii "shk")
  let (w, data) := bplistAddData w (List.replicate 32 0)
  let (w, dict) := bplistAddDict w (d.refs ++ [(key, data)])
  askPlist .setup (streamsRoot w dict)

/-- FLUSHBUFFERED through a sequence. -/
def flushThrough (sequence : UInt64) : ServerStep :=
  let d : DictWriter := ⟨bplistWriterInit 512, []⟩
  askPlist .flushBuffered
    ((d.addInt (ascii "flushUntilTS") 0).addInt (ascii "flushUntilSeq") sequence).close

/-- The session starts and its poll reads records. A FLUSHBUFFERED through 7 is stored, the
poll reads record 8, finds nothing to play and ends, and the next iteration seeks. -/
def overtakenSeek : List ServerStep :=
  [setupBuffered, .audio startingAudio, .audio startingAudio, flushThrough 7,
    .audio { startingAudio with turn := boundaryRecord }, .audio startingAudio,
    .audio startingAudio, .audio startingAudio]

/-- Record 8 was queued after the flush was stored, and the seek has thrown it away. -/
theorem seek_loses_record :
    let w := ((seekMachine openingPrimitives).run
      (⟨⟨false, false⟩, pairedControl, AudioThread.start ⟨some 2, 7000⟩⟩, SeekWatch.start)
      overtakenSeek).1
    (w.2.stage = .applied ∧ w.2.records = [some 0] ∧
      w.2.ledger.custody.fates = [(0, Fate.reset)]) ∧ ¬ KeepsRecords w := by
  decide +kernel

end PortableAirplay.Service
