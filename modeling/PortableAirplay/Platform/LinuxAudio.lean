import PortableAirplay.Config
import PortableAirplay.Library.Execution
import PortableAirplay.Library.Transfer

/-!
# The ALSA device

`audio_write` of `platform/linux/audio.c`: a block of samples is handed to a device that takes
as many frames as it has room for, runs dry, is suspended, or has a signal interrupt it. The
loop prepares the device again or waits for room, for 120 ms and 64 turns at most.

`output_pcm` of `service/server.c` writes a block where the device is open and the server is not
stopping, and a write that fails stops the server. `device_takes` says what has reached the
device by then.
-/

set_option autoImplicit false

namespace PortableAirplay.Platform.Alsa

open PortableAirplay.Library

/-- What `snd_pcm_writei` answers: a number of frames, `EPIPE` or `ESTRPIPE`, `EAGAIN` or
`EINTR`, or another error. -/
inductive WriteAnswer where
  | took (frames : ℕ)
  | broken
  | again
  | failed

/-- What the system does in a turn: its answer, whether `snd_pcm_prepare` succeeds, whether
`snd_pcm_wait` does or is interrupted or finds the device broken, and the clock after it. -/
structure WriteIo where
  answer : WriteAnswer
  prepares : Bool
  waits : Bool
  now : ℕ

/-- What a turn gets written, or `none` where it gives up. -/
def written (channels left : ℕ) (io : WriteIo) : Option ℕ :=
  match io.answer with
  | .took (frames + 1) => some (min (frames + 1) (left / channels) * channels)
  | .broken => if io.prepares then some 0 else none
  | .failed => none
  | _ => if io.waits then some 0 else none

/-- A turn of `audio_write`; the state is the number of turns that did not finish. -/
def writeTurn (channels deadline attempts left : ℕ) (io : WriteIo) : Turn ℕ Unit :=
  match written channels left io with
  | none => ⟨attempts, 0, some ()⟩
  | some accepted =>
      ⟨attempts + 1, accepted,
        if accepted < left ∧ (io.now ≥ deadline ∨ attempts + 1 ≥ 64) then some () else none⟩

/-- `audio_write`, started at `start`. It returns the number of samples where nothing is
left. -/
def audioWrite (channels start : ℕ) (samples : List Int16) (io : List WriteIo) :
    Transferred Int16 ℕ Unit :=
  if samples.length % channels ≠ 0 ∨ samples.length > intMax then ⟨0, [], samples, some ()⟩
  else transfer (writeTurn channels (start + 120)) 0 samples io

variable {channels : ℕ}

theorem audioWrite_accepted (start : ℕ) (samples : List Int16) (io : List WriteIo) :
    (audioWrite channels start samples io).accepted ++
      (audioWrite channels start samples io).left = samples := by
  rw [audioWrite]
  split
  · rfl
  · exact transfer_accepted _ io 0 samples

/-- A turn accepts whole frames. -/
theorem written_dvd {left accepted : ℕ} {io : WriteIo}
    (h : written channels left io = some accepted) : channels ∣ accepted := by
  rw [written] at h
  split at h
  · rw [← Option.some.inj h]
    exact Nat.dvd_mul_left channels _
  · split at h
    · rw [← Option.some.inj h]
      exact Nat.dvd_zero channels
    · contradiction
  · contradiction
  · split at h
    · rw [← Option.some.inj h]
      exact Nat.dvd_zero channels
    · contradiction

theorem writeTurn_dvd (deadline attempts left : ℕ) (io : WriteIo) :
    channels ∣ (writeTurn channels deadline attempts left io).accepted := by
  rw [writeTurn]
  split
  · exact Nat.dvd_zero channels
  · rename_i accepted haccepted
    exact written_dvd haccepted

/-- A turn that neither finishes nor gives up counts. -/
theorem writeTurn_counts {deadline attempts left : ℕ} {io : WriteIo}
    (hends : (writeTurn channels deadline attempts left io).ends = none)
    (hless : (writeTurn channels deadline attempts left io).accepted < left) :
    63 - (writeTurn channels deadline attempts left io).state < 63 - attempts := by
  rw [writeTurn] at hends hless ⊢
  cases haccepted : written channels left io with
  | none =>
      rw [haccepted] at hends
      contradiction
  | some accepted =>
      rw [haccepted] at hends hless
      dsimp only at hends hless ⊢
      by_cases hlast : accepted < left ∧ (io.now ≥ deadline ∨ attempts + 1 ≥ 64)
      · rw [if_pos hlast] at hends
        contradiction
      · omega

theorem audioWrite_dvd (start : ℕ) (samples : List Int16) (io : List WriteIo) :
    channels ∣ (audioWrite channels start samples io).accepted.length := by
  rw [audioWrite]
  split
  · exact Nat.dvd_zero channels
  · rename_i hchecked
    apply transfer_dvd
    · exact fun attempts left i _ => writeTurn_dvd _ attempts left i
    · exact Nat.dvd_of_mod_eq_zero (not_ne_iff.mp fun hpart => hchecked (Or.inl hpart))

/-- **A write is over within 64 turns.** -/
theorem audioWrite_over (start : ℕ) (samples : List Int16) {io : List WriteIo}
    (hturns : 64 ≤ io.length) :
    (audioWrite channels start samples io).left = [] ∨
      (audioWrite channels start samples io).ends ≠ none := by
  rw [audioWrite]
  split
  · exact Or.inr (Option.some_ne_none ())
  · apply transfer_over _ fun attempts => 63 - attempts
    · exact fun attempts left i hends hless => writeTurn_counts hends hless
    · exact hturns

/-! ## The blocks of a session -/

/-- A block that `output_pcm` is given, with what the system does while it is written. -/
structure Block where
  samples : List Int16
  start : ℕ
  io : List WriteIo

/-- The block is written. -/
def Block.write (channels : ℕ) (b : Block) : Transferred Int16 ℕ Unit :=
  audioWrite channels b.start b.samples b.io

/-- What `output_pcm` knows of the server: the channels of the device, if it is open, whether the
server is stopping, and whether a write has made it fail. -/
structure Output where
  audio : Option ℕ
  stopping : Bool
  failed : Bool
  deriving DecidableEq, Repr

/-- A server that starts. -/
def Output.start : Output := ⟨none, false, false⟩

/-- A call of `audio_write`: the channels of the device, and the samples it took. -/
structure Write where
  channels : ℕ
  samples : List Int16
  deriving DecidableEq, Repr

/-- `output_pcm`: the server, and the write, if there is one. -/
def outputPcm (s : Output) (b : Block) : Output × Option Write :=
  match s.audio with
  | none => (s, none)
  | some channels =>
      if s.stopping then (s, none)
      else
        let r := b.write channels
        (if r.left.isEmpty then s else { s with stopping := true, failed := true },
          some ⟨channels, r.accepted⟩)

/-- What happens to the output: the device is opened or closed, the server is to stop, because
its owner says so or another task has failed, or a block is played. -/
inductive OutputStep where
  | opens (channels : ℕ)
  | closes
  | stop
  | block (b : Block)

/-- The output as a machine. -/
def outputMachine : Machine Output OutputStep (Option Write) where
  step s
    | .opens channels => ({ s with audio := some channels }, none)
    | .closes => ({ s with audio := none }, none)
    | .stop => ({ s with stopping := true }, none)
    | .block b => outputPcm s b

/-- The blocks that are due: those that come while a device is open, up to the first stop, each
with the channels of its device. -/
def dueBlocks : Option ℕ → List OutputStep → List (ℕ × Block)
  | _, [] => []
  | _, .opens channels :: steps => dueBlocks (some channels) steps
  | _, .closes :: steps => dueBlocks none steps
  | _, .stop :: _ => []
  | none, .block _ :: steps => dueBlocks none steps
  | some channels, .block b :: steps => (channels, b) :: dueBlocks (some channels) steps

/-- The samples that the writes of a log have taken. -/
def samplesTaken (log : List (Option Write)) : List Int16 :=
  ((log.filterMap id).map Write.samples).flatten

theorem samplesTaken_some (w : Write) (log : List (Option Write)) :
    samplesTaken (some w :: log) = w.samples ++ samplesTaken log := by
  rw [samplesTaken, List.filterMap_cons_some (f := id) rfl, List.map_cons, List.flatten_cons,
    samplesTaken]

/-- A server that is stopping plays nothing more. -/
theorem outputRun_stopping (steps : List OutputStep) : ∀ s : Output, s.stopping = true →
    samplesTaken (outputMachine.run s steps).2 = [] ∧
      (outputMachine.run s steps).1.failed = s.failed := by
  induction steps with
  | nil => exact fun _ _ => ⟨rfl, rfl⟩
  | cons step steps ih =>
      intro s hstopping
      rw [Machine.run_cons]
      dsimp only
      cases step with
      | opens channels => exact ih { s with audio := some channels } hstopping
      | closes => exact ih { s with audio := none } hstopping
      | stop => exact ih { s with stopping := true } rfl
      | block b =>
          have hdropped : outputPcm s b = (s, none) := by
            rw [outputPcm]
            split
            · rfl
            · exact if_pos hstopping
          change samplesTaken ((outputPcm s b).2 :: (outputMachine.run (outputPcm s b).1 steps).2) =
              [] ∧ (outputMachine.run (outputPcm s b).1 steps).1.failed = s.failed
          rw [hdropped]
          exact ih s hstopping

/-- **A run hands over the due blocks**, one after the other until a write fails. -/
theorem outputRun_handOver (steps : List OutputStep) : ∀ s : Output, s.stopping = false →
    samplesTaken (outputMachine.run s steps).2 =
        (handOver (fun due => due.2.write due.1) (dueBlocks s.audio steps)).1 ∧
      (outputMachine.run s steps).1.failed =
        (s.failed || !(handOver (fun due => due.2.write due.1) (dueBlocks s.audio steps)).2) := by
  induction steps with
  | nil => exact fun s _ => ⟨rfl, (Bool.or_false s.failed).symm⟩
  | cons step steps ih =>
      intro s hgoes
      cases step with
      | opens channels => exact ih { s with audio := some channels } hgoes
      | closes => exact ih { s with audio := none } hgoes
      | stop =>
          obtain ⟨htaken, hfailed⟩ := outputRun_stopping steps { s with stopping := true } rfl
          refine ⟨htaken, hfailed.trans ?_⟩
          rw [dueBlocks, handOver]
          exact (Bool.or_false s.failed).symm
      | block b =>
          change samplesTaken ((outputPcm s b).2 :: (outputMachine.run (outputPcm s b).1 steps).2) =
              _ ∧ (outputMachine.run (outputPcm s b).1 steps).1.failed = _
          rw [outputPcm]
          cases haudio : s.audio with
          | none =>
              have hrest := ih s hgoes
              rw [haudio] at hrest
              exact hrest
          | some channels =>
              have hrest := ih s hgoes
              rw [haudio] at hrest
              dsimp only
              rw [if_neg (by rw [hgoes]; exact Bool.false_ne_true), samplesTaken_some, dueBlocks,
                handOver]
              dsimp only
              split
              · exact ⟨congrArg _ hrest.1, hrest.2⟩
              · -- the write fails, and nothing is played after it
                obtain ⟨htaken, hfailed⟩ := outputRun_stopping steps
                  ⟨some channels, true, true⟩ rfl
                rw [htaken, hfailed, List.append_nil]
                exact ⟨rfl, (Bool.or_true s.failed).symm⟩

/-- A write takes whole frames. -/
theorem outputStep_dvd (s : Output) (step : OutputStep) :
    ∀ w ∈ (outputMachine.step s step).2, w.channels ∣ w.samples.length := by
  have hnone : ∀ w ∈ (none : Option Write), w.channels ∣ w.samples.length :=
    fun w hw => absurd hw (Option.not_mem_none w)
  cases step with
  | opens channels => exact hnone
  | closes => exact hnone
  | stop => exact hnone
  | block b =>
      change ∀ w ∈ (outputPcm s b).2, w.channels ∣ w.samples.length
      rw [outputPcm]
      split
      · exact hnone
      · rename_i channels _
        split
        · exact hnone
        · intro w hw
          rw [← Option.some.inj hw]
          exact audioWrite_dvd b.start b.samples b.io

theorem outputRun_dvd (steps : List OutputStep) (s : Output) :
    ∀ w, some w ∈ (outputMachine.run s steps).2 → w.channels ∣ w.samples.length := by
  refine outputMachine.run_history_invariant
    (fun _ log => ∀ w, some w ∈ log → w.channels ∣ w.samples.length) ?_ steps s []
    fun w hw => absurd hw List.not_mem_nil
  intro t log step hlog w hw
  rcases List.mem_append.mp hw with hbefore | hnow
  · exact hlog w hbefore
  · exact outputStep_dvd t step w (List.mem_singleton.mp hnow).symm

/-- **What the device takes** is a prefix of the blocks that are due, in their order, and all of
them exactly where no write fails; each write takes whole frames, and none takes more than 64
turns. A block that comes while no device is open, or once the server is to stop, is dropped and
fails nothing. -/
theorem device_takes (steps : List OutputStep) :
    let r := outputMachine.run Output.start steps
    let due := ((dueBlocks none steps).map fun due => due.2.samples).flatten
    samplesTaken r.2 <+: due ∧ (r.1.failed = false ↔ samplesTaken r.2 = due) ∧
      (∀ w, some w ∈ r.2 → w.channels ∣ w.samples.length) ∧
      ∀ due ∈ dueBlocks none steps, 64 ≤ due.2.io.length →
        (due.2.write due.1).left = [] ∨ (due.2.write due.1).ends ≠ none := by
  have haccepted : ∀ due : ℕ × Block, (due.2.write due.1).accepted ++ (due.2.write due.1).left =
      due.2.samples := fun due => audioWrite_accepted due.2.start due.2.samples due.2.io
  obtain ⟨htaken, hfailed⟩ := outputRun_handOver steps Output.start rfl
  have hflag : (outputMachine.run Output.start steps).1.failed = false ↔
      (handOver (fun due => due.2.write due.1) (dueBlocks none steps)).2 = true := by
    rw [hfailed]
    exact iff_of_eq (Bool.not_eq_false' _)
  refine ⟨?_, hflag.trans ?_, outputRun_dvd steps Output.start,
    fun due _ hturns => audioWrite_over due.2.start due.2.samples hturns⟩
  · rw [htaken]
    exact handOver_accepted haccepted _
  · rw [htaken]
    exact handOver_whole haccepted _

end PortableAirplay.Platform.Alsa
