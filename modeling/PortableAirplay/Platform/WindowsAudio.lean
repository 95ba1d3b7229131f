import PortableAirplay.Config
import PortableAirplay.Library.Execution
import PortableAirplay.Library.SerialNumber

/-!
# The waveOut device

`audio_open`, `audio_write` and `audio_delay_frames` of `platform/windows/audio.c`. The device
counts the frames that it has played in 32 bits; the delay is what was written less that count,
which the code carries on in 64 bits. In `waveOut_delay` this is exact over every run in which the
position is read before it has gone once around.
-/

set_option autoImplicit false

namespace PortableAirplay.Platform.WaveOut

open PortableAirplay.Library

/-- `audio_device`, with the samples of the headers. -/
structure Device where
  channels : ℕ
  sampleRate : ℕ
  samples : Buffer → List Int16
  next : Buffer
  lastPosition : BitVec 32
  submittedFrames : BitVec 64
  playedFrames : BitVec 64

/-- What a turn of `audio_write` meets: whether the header is in the queue, whether
`waveOutWrite` takes it, and whether the deadline has passed. -/
structure WriteTurn where
  inQueue : Bool
  accepts : Bool
  late : Bool

/-- The loop of `audio_write`: the device, whether the block was written, and the result where
the call is over. -/
def writeTurns (device : Device) (samples : List Int16) :
    List WriteTurn → Device × Bool × Option ℤ
  | [] => (device, false, none)
  | turn :: turns =>
      if turn.inQueue = false then
        let filled := { device with
          samples := Function.update device.samples device.next samples }
        if turn.accepts = false then (filled, false, some (-1))
        else
          ({ filled with
              next := device.next + 1
              submittedFrames := device.submittedFrames +
                BitVec.ofNat 64 (samples.length / device.channels) }, true, some samples.length)
      else if turn.late then (device, false, some (-1))
      else writeTurns device samples turns

/-- `audio_write`. -/
def audioWrite (device : Device) (samples : List Int16) (turns : List WriteTurn) :
    Device × Bool × Option ℤ :=
  if samples.length % device.channels ≠ 0 ∨ samples.length > outputBufferSamples then
    (device, false, some (-1))
  else if samples = [] then (device, false, some 0)
  else writeTurns device samples turns

/-- `MMTIME`. -/
inductive MmTime where
  | samples (sample : BitVec 32)
  | bytes (cb : BitVec 32)
  | ms (ms : BitVec 32)
  | other

/-- The position in frames. -/
def positionFrames (device : Device) : MmTime → Option (BitVec 32)
  | .samples sample => some sample
  | .bytes cb => some (BitVec.ofNat 32 (cb.toNat / (2 * device.channels)))
  | .ms ms => some (BitVec.ofNat 32 (ms.toNat * device.sampleRate / 1000))
  | .other => none

/-- `audio_delay_frames`; there is no position where `waveOutGetPosition` fails. -/
def audioDelayFrames (device : Device) (position : Option MmTime) : Device × ℤ :=
  match position.bind (positionFrames device) with
  | none => (device, -1)
  | some frames =>
      let playedFrames :=
        device.playedFrames + (frames - device.lastPosition).setWidth 64
      let delay :=
        if device.submittedFrames.toNat > playedFrames.toNat then
          (device.submittedFrames - playedFrames).toNat
        else 0
      ({ device with playedFrames := playedFrames, lastPosition := frames },
        if delay > intMax then intMax else delay)

/-! ## The device and its position -/

/-- The device with the frames that it has been given and has played, and those that it had
played when its position was last read. -/
structure System where
  device : Device
  submitted : ℕ
  position : ℕ
  asked : ℕ

/-- A call of `audio_write`, frames that are played, or a call of `audio_delay_frames`. -/
inductive Step where
  | write (samples : List Int16) (turns : List WriteTurn)
  | advance (frames : ℕ)
  | delay (position : Option MmTime)

/-- A step of the device, with the result of a call. -/
def step (s : System) : Step → System × Option ℤ
  | .write samples turns =>
      let r := audioWrite s.device samples turns
      let frames := if r.2.1 then samples.length / s.device.channels else 0
      ({ s with device := r.1, submitted := s.submitted + frames }, r.2.2)
  | .advance frames => ({ s with position := s.position + frames }, none)
  | .delay position =>
      let r := audioDelayFrames s.device position
      let asked := if (position.bind (positionFrames s.device)).isSome then s.position else s.asked
      ({ s with device := r.1, asked := asked }, some r.2)

/-- The device as a machine. -/
def machine : Machine System Step (Option ℤ) where
  step := step

/-- waveOut tells the position in samples, or in bytes while these fit into 32 bits. -/
def Tells (channels position : ℕ) : MmTime → Prop
  | .samples sample => sample = BitVec.ofNat 32 position
  | .bytes cb => cb.toNat = position * (2 * channels)
  | .ms _ => False
  | .other => False

/-- The position of a call of `audio_delay_frames` is right and less than 32 bits ahead of the
one that was read before. -/
def Answers (s : System) (position : MmTime) : Prop :=
  Tells s.device.channels s.position position ∧ s.position < s.asked + 2 ^ 32

/-- What is counted fits into 64 bits, and waveOut answers calls or lets them fail. -/
def Contract (s : System) : Step → Prop
  | .write samples _ => s.submitted + samples.length < 2 ^ 64
  | .advance frames => s.position + frames < 2 ^ 64
  | .delay none => True
  | .delay (some .other) => True
  | .delay (some position) => Answers s position

instance decidableTells (channels position : ℕ) :
    ∀ told, Decidable (Tells channels position told)
  | .samples sample => inferInstanceAs (Decidable (sample = BitVec.ofNat 32 position))
  | .bytes cb => inferInstanceAs (Decidable (cb.toNat = position * (2 * channels)))
  | .ms _ => inferInstanceAs (Decidable False)
  | .other => inferInstanceAs (Decidable False)

instance decidableAnswers (s : System) (told : MmTime) : Decidable (Answers s told) :=
  inferInstanceAs (Decidable (_ ∧ _))

instance decidableContract (s : System) : ∀ i, Decidable (Contract s i)
  | .write samples _ => inferInstanceAs (Decidable (s.submitted + samples.length < 2 ^ 64))
  | .advance frames => inferInstanceAs (Decidable (s.position + frames < 2 ^ 64))
  | .delay none => inferInstanceAs (Decidable True)
  | .delay (some .other) => inferInstanceAs (Decidable True)
  | .delay (some (.samples sample)) => decidableAnswers s (.samples sample)
  | .delay (some (.bytes cb)) => decidableAnswers s (.bytes cb)
  | .delay (some (.ms ms)) => decidableAnswers s (.ms ms)

/-- The counters are those of the device. -/
structure Counted (s : System) : Prop where
  channels : 0 < s.device.channels
  submitted : s.device.submittedFrames = BitVec.ofNat 64 s.submitted
  played : s.device.playedFrames = BitVec.ofNat 64 s.asked
  last : s.device.lastPosition = BitVec.ofNat 32 s.asked
  asked : s.asked ≤ s.position
  fits : s.submitted < 2 ^ 64 ∧ s.position < 2 ^ 64

/-- The device after `audio_open`. -/
def System.opened (device : Device) : System := ⟨device, 0, 0, 0⟩

section Steps

variable {s : System}

/-- The position that is told is the one of the device, in 32 bits. -/
theorem Tells.frames {device : Device} {position : ℕ} {told : MmTime}
    (hchannels : 0 < device.channels) (h : Tells device.channels position told) :
    positionFrames device told = some (BitVec.ofNat 32 position) := by
  cases told with
  | samples sample => exact congrArg some h
  | bytes cb =>
      have hcb : cb.toNat / (2 * device.channels) = position := by
        rw [h]
        exact Nat.mul_div_cancel _ (Nat.mul_pos Nat.two_pos hchannels)
      rw [positionFrames, hcb]
  | ms _ => exact h.elim
  | other => exact h.elim

/-- **The count is carried on**: the distance of two positions in 32 bits is that of the frames
played. -/
theorem Counted.carried (h : Counted s) (hnear : s.position < s.asked + 2 ^ 32) :
    s.device.playedFrames + (BitVec.ofNat 32 s.position - s.device.lastPosition).setWidth 64 =
      BitVec.ofNat 64 s.position := by
  have hasked := h.asked
  have hdistance : (BitVec.ofNat 32 s.position - s.device.lastPosition).toNat =
      s.position - s.asked := by
    have hserial := toNat_serial_sub (w := 32) (a := s.position) (b := s.asked)
      (by omega) (by omega)
    rw [serial, serial, BitVec.ofInt_natCast, BitVec.ofInt_natCast] at hserial
    rw [h.last]
    omega
  have hsum : s.asked + (s.position - s.asked) = s.position := Nat.add_sub_of_le hasked
  rw [h.played]
  apply BitVec.eq_of_toNat_eq
  rw [BitVec.toNat_add, BitVec.toNat_setWidth, hdistance, BitVec.toNat_ofNat, BitVec.toNat_ofNat,
    ← Nat.add_mod, hsum]

/-- **The delay** is what was written less what has been played. -/
theorem Counted.delay (h : Counted s) {told : MmTime} (hanswers : Answers s told) :
    audioDelayFrames s.device (some told) =
      ({ s.device with
          playedFrames := BitVec.ofNat 64 s.position
          lastPosition := BitVec.ofNat 32 s.position },
        ((min (s.submitted - s.position) intMax : ℕ) : ℤ)) := by
  have hsubmitted : s.device.submittedFrames.toNat = s.submitted := by
    rw [h.submitted, BitVec.toNat_ofNat, Nat.mod_eq_of_lt h.fits.1]
  have hposition : (BitVec.ofNat 64 s.position).toNat = s.position := by
    rw [BitVec.toNat_ofNat, Nat.mod_eq_of_lt h.fits.2]
  have hdelay : (if s.submitted > s.position then
      (s.device.submittedFrames - BitVec.ofNat 64 s.position).toNat else 0) =
        s.submitted - s.position := by
    split
    · rename_i hmore
      rw [BitVec.toNat_sub_of_le, hsubmitted, hposition]
      rw [BitVec.le_def, hsubmitted, hposition]
      exact hmore.le
    · rename_i hless
      exact (Nat.sub_eq_zero_of_le (Nat.not_lt.mp hless)).symm
  rw [audioDelayFrames, Option.bind_some, hanswers.1.frames h.channels]
  dsimp only
  rw [h.carried hanswers.2, hsubmitted, hposition, hdelay]
  congr 1
  split
  · rename_i hlong
    rw [Nat.min_eq_right hlong.le]
  · rename_i hshort
    rw [Nat.min_eq_left (Nat.not_lt.mp hshort)]

/-- A delay that is answered keeps the counters. -/
theorem Counted.answered (h : Counted s) {told : MmTime} (hanswers : Answers s told) :
    Counted (step s (.delay (some told))).1 := by
  have hframes := hanswers.1.frames h.channels
  rw [step, h.delay hanswers, Option.bind_some, hframes]
  exact ⟨h.channels, h.submitted, rfl, rfl, le_rfl, h.fits⟩

/-- The loop of `audio_write` counts the block where it is written, and nothing else. -/
theorem writeTurns_counts (device : Device) (samples : List Int16) (turns : List WriteTurn) :
    let r := writeTurns device samples turns
    let frames := if r.2.1 then samples.length / device.channels else 0
    r.1.channels = device.channels ∧ r.1.playedFrames = device.playedFrames ∧
      r.1.lastPosition = device.lastPosition ∧
      r.1.submittedFrames = device.submittedFrames + BitVec.ofNat 64 frames := by
  induction turns with
  | nil => exact ⟨rfl, rfl, rfl, (BitVec.add_zero _).symm⟩
  | cons turn turns ih =>
      rw [writeTurns]
      split
      · dsimp only
        split
        · exact ⟨rfl, rfl, rfl, (BitVec.add_zero _).symm⟩
        · exact ⟨rfl, rfl, rfl, rfl⟩
      · split
        · exact ⟨rfl, rfl, rfl, (BitVec.add_zero _).symm⟩
        · exact ih

theorem audioWrite_counts (device : Device) (samples : List Int16) (turns : List WriteTurn) :
    let r := audioWrite device samples turns
    let frames := if r.2.1 then samples.length / device.channels else 0
    r.1.channels = device.channels ∧ r.1.playedFrames = device.playedFrames ∧
      r.1.lastPosition = device.lastPosition ∧
      r.1.submittedFrames = device.submittedFrames + BitVec.ofNat 64 frames := by
  rw [audioWrite]
  split
  · exact ⟨rfl, rfl, rfl, (BitVec.add_zero _).symm⟩
  · split
    · exact ⟨rfl, rfl, rfl, (BitVec.add_zero _).symm⟩
    · exact writeTurns_counts device samples turns

theorem Counted.write (h : Counted s) (samples : List Int16) (turns : List WriteTurn)
    (hfits : s.submitted + samples.length < 2 ^ 64) :
    Counted (step s (.write samples turns)).1 := by
  obtain ⟨hchannels, hplayed, hlast, hsubmitted⟩ := audioWrite_counts s.device samples turns
  rw [step]
  generalize audioWrite s.device samples turns = r at hchannels hplayed hlast hsubmitted ⊢
  have hframes : (if r.2.1 then samples.length / s.device.channels else 0) ≤ samples.length := by
    split
    · exact Nat.div_le_self _ _
    · exact Nat.zero_le _
  refine ⟨hchannels.symm ▸ h.channels, ?_, hplayed.trans h.played, hlast.trans h.last, h.asked,
    ?_, h.fits.2⟩
  · dsimp only
    rw [hsubmitted, h.submitted, BitVec.ofNat_add]
  · exact (Nat.add_le_add_left hframes s.submitted).trans_lt hfits

/-- **Every step** under the contract keeps the counters. -/
theorem Counted.step (h : Counted s) (i : Step) (hcontract : Contract s i) :
    Counted (WaveOut.step s i).1 := by
  cases i with
  | write samples turns => exact h.write samples turns hcontract
  | advance frames =>
      exact ⟨h.channels, h.submitted, h.played, h.last, h.asked.trans (Nat.le_add_right _ _),
        h.fits.1, hcontract⟩
  | delay position =>
      cases position with
      | none => exact h
      | some told =>
          cases told with
          | samples sample => exact h.answered hcontract
          | bytes cb => exact h.answered hcontract
          | ms ms => exact hcontract.1.elim
          | other => exact h

end Steps

end PortableAirplay.Platform.WaveOut
