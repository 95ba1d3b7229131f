import PortableAirplay.Audio.AlacSamples
import PortableAirplay.Audio.RiceOverflow

/-!
# The size of the output of an ALAC packet

`set_output_size_checked` fixes `*outputsize` before the samples are decoded. A frame that
is not refused has written exactly as many samples, whatever its bytes are: its Rice
decoding fills the buffers, and every step behind it keeps the number of samples. So the
adapter reports the samples of this packet and none of an earlier one.
-/

set_option autoImplicit false

namespace PortableAirplay.Audio

open PortableAirplay.Library
open PortableAirplay.Library.Recorded
open PortableAirplay.Protocol

/-! ## Errors stay -/

/-- `decode_error` stays set. -/
def KeepsError {α : Type} (m : Alac α) : Prop :=
  Leads (fun r => r.decodeError = true) m fun _ r => r.decodeError = true

/-- The statement holds unless `decode_error` is set. -/
def BitReader.Unless (holds : Prop) (r : BitReader) : Prop := r.decodeError = false → holds

section Errors

variable {α β : Type}

/-- What holds unless there is an error goes on to hold. -/
theorem KeepsError.unless {m : Alac α} (h : KeepsError m) (holds : Prop) :
    Leads (BitReader.Unless holds) m fun _ => BitReader.Unless holds := by
  intro r hr hclear
  apply hr
  cases herror : r.decodeError with
  | false => rfl
  | true => exact absurd ((h r herror).symm.trans hclear) Bool.true_eq_false_eq_False

theorem keepsError_return (a : α) : KeepsError (pure a) := leads_return fun _ h => h

theorem keepsError_record (entries : List Arithmetic) : KeepsError (record entries) :=
  leads_record

theorem keepsError_fails (value : α) : KeepsError (decodeFails value) := fun _ _ => rfl

theorem keepsError_decodeError : KeepsError decodeError := fun _ h => h

theorem KeepsError.bind {m : Alac α} {f : α → Alac β} (hm : KeepsError m)
    (hf : ∀ a, KeepsError (f a)) : KeepsError (m >>= f) := Leads.bind hm hf

theorem KeepsError.ite {p : Prop} [Decidable p] {m n : Alac α} (hm : KeepsError m)
    (hn : KeepsError n) : KeepsError (if p then m else n) :=
  Leads.ite (fun _ => hm) fun _ => hn

end Errors

section Reading

theorem keepsError_readbits16 (bits : ℤ) : KeepsError (readbits16 bits) := by
  intro r herror
  rw [readbits16, if_pos (Or.inr (Or.inr (Or.inl herror)))]
  rfl

theorem keepsError_readbits (bits : ℤ) : KeepsError (readbits bits) := by
  rw [readbits]
  refine KeepsError.ite (keepsError_fails 0) (KeepsError.ite ?_ (keepsError_readbits16 bits))
  refine (keepsError_readbits16 16).bind fun high => (keepsError_record _).bind fun _ => ?_
  exact (keepsError_readbits16 _).bind fun low => keepsError_return _

theorem keepsError_unreadbits (bits : ℤ) : KeepsError (unreadbits bits) := by
  intro r herror
  rw [unreadbits]
  split
  · rfl
  · exact herror

theorem keepsError_ricePrefix (fuel : ℕ) (x : ℤ) : KeepsError (ricePrefix fuel x) := by
  induction fuel generalizing x with
  | zero => exact keepsError_return x
  | succ fuel ih =>
      refine KeepsError.ite ?_ (keepsError_return x)
      exact (keepsError_readbits16 1).bind fun bit => KeepsError.ite (ih _) (keepsError_return x)

theorem keepsError_entropyDecodeValue (size k : ℤ) (mask : UInt32) :
    KeepsError (entropyDecodeValue size k mask) := by
  refine (keepsError_ricePrefix _ 0).bind fun x => KeepsError.ite ?_ (KeepsError.ite ?_ ?_)
  · refine (keepsError_readbits size).bind fun value => ?_
    exact (keepsError_record _).bind fun _ => keepsError_return _
  · refine (keepsError_readbits k).bind fun extraBits => (keepsError_record _).bind fun _ => ?_
    refine KeepsError.ite ((keepsError_record _).bind fun _ => keepsError_return _) ?_
    exact (keepsError_unreadbits 1).bind fun _ => keepsError_return _
  · exact keepsError_return x

variable (c : RiceCoding)

theorem keepsError_zeroBlock (outputCount history : ℤ) :
    KeepsError (zeroBlock c outputCount history) := by
  refine (keepsError_record _).bind fun _ => ?_
  refine (keepsError_entropyDecodeValue 16 _ _).bind fun size => ?_
  refine keepsError_decodeError.bind fun failed => ?_
  exact KeepsError.ite (keepsError_fails none) (keepsError_return (some size))

theorem keepsError_ricePass (s : RiceState) : KeepsError (ricePass c s) := by
  refine (keepsError_record _).bind fun _ => ?_
  refine (keepsError_entropyDecodeValue _ _ _).bind fun value => ?_
  refine keepsError_decodeError.bind fun failed => KeepsError.ite (keepsError_return _) ?_
  refine (keepsError_record _).bind fun _ => KeepsError.ite ?_ (keepsError_return _)
  refine (keepsError_zeroBlock c _ _).bind fun block => ?_
  cases block with
  | none => exact keepsError_return _
  | some size => exact keepsError_return _

theorem keepsError_riceLoop (fuel : ℕ) (s : RiceState) : KeepsError (riceLoop c fuel s) := by
  induction fuel generalizing s with
  | zero => exact keepsError_return s
  | succ fuel ih =>
      refine KeepsError.ite ?_ (keepsError_return s)
      exact (keepsError_ricePass c s).bind fun next =>
        KeepsError.ite (ih next.1) (keepsError_return next.1)

end Reading

/-! ## The residuals -/

/-- The samples that are written are counted, and there are no more than asked for. -/
def RiceState.Counted (c : RiceCoding) (s : RiceState) : Prop :=
  (s.output.length : ℤ) = s.outputCount ∧ s.outputCount ≤ c.outputSize

section Residuals

variable {c : RiceCoding}

/-- A block of zeros that is accepted fits the buffer; another one is an error. -/
theorem leads_zeroBlock (outputCount history : ℤ) :
    Leads (fun _ => True) (zeroBlock c outputCount history) fun block r =>
      match block with
      | none => r.decodeError = true
      | some size => 0 ≤ size ∧ size ≤ c.outputSize - outputCount - 1 := by
  refine (leads_record).bind fun _ => leads_true.bind ?_
  intro size
  refine leads_true.bind fun failed => Leads.ite ?_ ?_
  · exact fun _ _ _ => rfl
  · intro haccepted
    refine leads_return fun _ _ => ?_
    dsimp only
    omega

/-- An iteration keeps the count, or it ends in an error. -/
theorem leads_ricePass {s : RiceState} (hs : s.Counted c) (hroom : s.outputCount < c.outputSize) :
    Leads (fun _ => True) (ricePass c s) fun next r =>
      if next.2 = true then next.1.Counted c else r.decodeError = true := by
  obtain ⟨hlength, -⟩ := hs
  refine leads_record.bind fun _ => leads_true.bind ?_
  intro value
  refine Leads.bind (q := fun failed r => r.decodeError = failed) (fun _ _ => rfl) ?_
  intro failed
  apply Leads.ite
  · rintro rfl
    exact leads_return fun r herror => by rwa [if_neg Bool.false_ne_true]
  · intro _
    refine leads_true.bind fun _ => Leads.ite ?_ ?_
    · intro _
      refine (leads_zeroBlock s.outputCount _).bind fun block => ?_
      cases block with
      | none => exact leads_return fun r herror => by rwa [if_neg Bool.false_ne_true]
      | some size =>
          refine leads_return fun r hsize => ?_
          rw [if_pos rfl, RiceState.Counted]
          simp only [List.length_append, List.length_cons, List.length_nil,
            List.length_replicate]
          dsimp only at hsize
          omega
    · intro _
      refine leads_return fun r _ => ?_
      rw [if_pos rfl, RiceState.Counted]
      simp only [List.length_append, List.length_cons, List.length_nil]
      omega

/-- **The Rice decoding fills its buffer**, or it sets `decode_error`. -/
theorem leads_riceLoop {fuel : ℕ} {s : RiceState} (hs : s.Counted c)
    (hfuel : c.outputSize - s.outputCount ≤ fuel) :
    Leads (fun _ => True) (riceLoop c fuel s) fun s' =>
      BitReader.Unless ((s'.output.length : ℤ) = c.outputSize) := by
  induction fuel generalizing s with
  | zero =>
      refine leads_return fun r _ _ => ?_
      have hlength := hs.1
      have hle := hs.2
      omega
  | succ fuel ih =>
      rw [riceLoop]
      apply Leads.ite
      · intro hroom
        have hwrites := ricePass_writes c s
        refine Leads.bind (q := fun next r =>
          (if next.2 = true then next.1.Counted c else r.decodeError = true) ∧
            (next.2 = true → s.outputCount < next.1.outputCount))
          (fun r hr => ⟨leads_ricePass hs hroom r hr, (hwrites r).2⟩) fun next => ?_
        apply Leads.ite
        · intro hgoes r hr
          rw [if_pos hgoes] at hr
          have hcount := hr.2 hgoes
          exact ih hr.1 (by omega) r trivial
        · intro hstops
          refine leads_return fun r hr hclear => ?_
          rw [if_neg hstops] at hr
          exact absurd (hr.1.symm.trans hclear) Bool.true_eq_false_eq_False
      · intro hfull
        refine leads_return fun r _ _ => ?_
        have hlength := hs.1
        have hle := hs.2
        omega

end Residuals

section Channels

variable {a : AlacFile} {outputsamples readsamplesize : ℤ}

theorem keepsError_riceDecodeChannel (modifier : ℤ) :
    KeepsError (riceDecodeChannel a outputsamples readsamplesize modifier) := by
  refine (keepsError_record _).bind fun _ => ?_
  exact (keepsError_riceLoop _ _ _).bind fun s => keepsError_return _

theorem keepsError_riceDecodeChannels (modifiers : List ℤ) :
    KeepsError (riceDecodeChannels a outputsamples readsamplesize modifiers) := by
  induction modifiers with
  | nil => exact keepsError_return []
  | cons modifier modifiers ih =>
      refine (keepsError_riceDecodeChannel modifier).bind fun residuals => ?_
      exact ih.bind fun rest => keepsError_return _

theorem leads_riceDecodeChannel (hpos : 0 ≤ outputsamples) (modifier : ℤ) :
    Leads (fun _ => True) (riceDecodeChannel a outputsamples readsamplesize modifier)
      fun residuals => BitReader.Unless (residuals.length = outputsamples.toNat) := by
  refine leads_record.bind fun _ => Leads.bind (leads_riceLoop ⟨rfl, hpos⟩ ?_) fun s => ?_
  · dsimp only
    omega
  · refine leads_return fun r hs hclear => ?_
    have hlength := hs hclear
    dsimp only at hlength
    omega

/-- Every channel has as many residuals as the frame has samples. -/
theorem leads_riceDecodeChannels (hpos : 0 ≤ outputsamples) (modifiers : List ℤ) :
    Leads (fun _ => True) (riceDecodeChannels a outputsamples readsamplesize modifiers)
      fun channels => BitReader.Unless
        (channels.map List.length = modifiers.map fun _ => outputsamples.toNat) := by
  induction modifiers with
  | nil => exact leads_return fun _ _ _ => rfl
  | cons modifier modifiers ih =>
      refine (leads_riceDecodeChannel hpos modifier).bind fun residuals => ?_
      -- the channels that follow keep the count of this one, or fail
      have hkeeps : KeepsError (riceDecodeChannels a outputsamples readsamplesize modifiers) :=
        keepsError_riceDecodeChannels modifiers
      have hclears := hkeeps.unless (residuals.length = outputsamples.toNat)
      refine Leads.bind (Leads.weaken (hclears.and ih) fun r hr => ⟨hr, trivial⟩) fun rest => ?_
      refine leads_return fun r hr hclear => ?_
      rw [List.map_cons, List.map_cons, hr.1 hclear, hr.2 hclear]

end Channels

/-! ## The samples -/

theorem predictorDecompressFirAdapt_length (errorBuffer : List Int32) (readsamplesize : ℤ)
    (coefTable : List Int16) (quantitization : ℕ) :
    (predictorDecompressFirAdapt errorBuffer readsamplesize coefTable quantitization).length =
      errorBuffer.length := by
  cases errorBuffer with
  | nil => rfl
  | cons first errors =>
      rw [predictorDecompressFirAdapt]
      split
      · rfl
      · split
        · rw [List.length_cons, Predictor.synthesize_length, List.length_cons]
        · simp only [List.length_append, List.length_cons, Predictor.synthesize_length,
            List.length_take, List.length_drop]
          omega

theorem deinterlacePair_length (shift leftweight : UInt8) (a b : Int32) :
    (deinterlacePair shift leftweight a b).length = 2 := by
  rw [deinterlacePair]
  split
  · rfl
  · rfl

theorem deinterlace16_length {bufferA bufferB : List Int32}
    (hlength : bufferA.length = bufferB.length) (shift leftweight : UInt8) :
    (deinterlace16 bufferA bufferB shift leftweight).length = bufferA.length * 2 := by
  induction bufferA generalizing bufferB with
  | nil => rfl
  | cons a bufferA ih =>
      cases bufferB with
      | nil => exact absurd hlength (Nat.succ_ne_zero _)
      | cons b bufferB =>
          have hrest := ih (Nat.succ.inj hlength)
          rw [deinterlace16] at hrest ⊢
          rw [List.zipWith_cons_cons, List.flatten_cons, List.length_append,
            deinterlacePair_length, hrest, List.length_cons]
          omega

section Frame

variable {a : AlacFile} {channels outputsize outputsamples : ℤ}

/-- `*outputsize` is `size`, and the samples fill it. -/
def AlacOutput.Fills (size : ℤ) (o : AlacOutput) : Prop :=
  o.frame.outputsize = size ∧ (o.samples.length : ℤ) * 2 = size

theorem outputSamples_mono (hsize : a.sampleSize = 16) (bufferA : List Int32)
    (shift leftweight : UInt8) :
    (outputSamples a [bufferA] shift leftweight).length = bufferA.length := by
  rw [outputSamples, if_pos hsize, List.length_map]

theorem outputSamples_stereo (hsize : a.sampleSize = 16) {bufferA bufferB : List Int32}
    (hlength : bufferA.length = bufferB.length) (shift leftweight : UInt8) :
    (outputSamples a [bufferA, bufferB] shift leftweight).length = bufferA.length * 2 := by
  rw [outputSamples, if_pos hsize, deinterlace16_length hlength]

theorem Prediction.samples_length (p : Prediction) (readsamplesize : ℤ) (residuals : List ℤ) :
    (p.samples readsamplesize residuals).length = residuals.length := by
  rw [Prediction.samples, predictorDecompressFirAdapt_length, List.length_map]

/-- The predictors and the interlacing keep the number of samples. -/
theorem leads_decodeResidualsOutput (hsize : a.sampleSize = 16) (hpos : 0 ≤ outputsamples)
    {predictions : List Prediction} (hcount : predictions.length = 1 ∨ predictions.length = 2)
    (houtput : outputsize = outputsamples * (2 * predictions.length))
    (readsamplesize uncompressedBytes : ℤ) (shift leftweight : UInt8) :
    Leads (fun _ => True) (decodeResidualsOutput a outputsize outputsamples readsamplesize
      uncompressedBytes shift leftweight predictions) fun o => BitReader.Unless (o.Fills outputsize) := by
  refine leads_true.bind fun _ => (leads_riceDecodeChannels hpos _).bind fun residuals => ?_
  refine leads_return fun r hlengths hclear => ?_
  have hlengths := hlengths hclear
  refine ⟨rfl, ?_⟩
  rw [houtput]
  dsimp only
  -- one channel or two
  rcases hcount with hone | htwo
  · obtain ⟨p, rfl⟩ := List.length_eq_one_iff.mp hone
    obtain ⟨channel, rfl⟩ := List.length_eq_one_iff.mp
      ((List.length_map (f := List.length)).symm.trans (congrArg List.length hlengths))
    have hchannel : channel.length = outputsamples.toNat := List.head_eq_of_cons_eq hlengths
    have hlength := outputSamples_mono hsize (p.samples readsamplesize channel) shift leftweight
    rw [Prediction.samples_length, hchannel] at hlength
    rw [List.zipWith_cons_cons, List.zipWith_nil_left, hlength, hone]
    omega
  · obtain ⟨p, q, rfl⟩ := List.length_eq_two.mp htwo
    obtain ⟨channel, channel', rfl⟩ := List.length_eq_two.mp
      ((List.length_map (f := List.length)).symm.trans (congrArg List.length hlengths))
    have hchannel : channel.length = outputsamples.toNat := List.head_eq_of_cons_eq hlengths
    have hchannel' : channel'.length = outputsamples.toNat :=
      List.head_eq_of_cons_eq (List.tail_eq_of_cons_eq hlengths)
    have hequal : (p.samples readsamplesize channel).length =
        (q.samples readsamplesize channel').length := by
      rw [Prediction.samples_length, Prediction.samples_length, hchannel, hchannel']
    have hlength := outputSamples_stereo hsize hequal shift leftweight
    rw [Prediction.samples_length, hchannel] at hlength
    rw [List.zipWith_cons_cons, List.zipWith_cons_cons, List.zipWith_nil_left, hlength, htwo]
    omega

/-- A header that is refused is an error. -/
theorem leads_readPredictor : Leads (fun _ => True) (readPredictor outputsamples)
    fun prediction r => prediction = none → r.decodeError = true := by
  refine leads_true.bind fun type => leads_true.bind fun quantitization => ?_
  refine leads_true.bind fun ricemodifier => leads_true.bind fun num => Leads.ite ?_ ?_
  · exact fun _ _ _ _ => rfl
  · intro _
    exact leads_true.bind fun _ => leads_return fun _ _ hnone =>
      absurd hnone (Option.some_ne_none _)

/-- What ends in an error has no size to keep. -/
theorem leads_failed {o : AlacOutput} :
    Leads (fun r => r.decodeError = true) (pure o : Alac AlacOutput)
      fun o => BitReader.Unless (o.Fills outputsize) :=
  leads_return fun _ herror hclear =>
    absurd (herror.symm.trans hclear) Bool.true_eq_false_eq_False

theorem leads_decodeCompressedOutput (hsize : a.sampleSize = 16) (hpos : 0 ≤ outputsamples)
    (hchannels : channels = 0 ∨ channels = 1)
    (houtput : outputsize = outputsamples * (2 * (channels + 1)))
    (readsamplesize uncompressedBytes : ℤ) :
    Leads (fun _ => True) (decodeCompressedOutput a channels outputsize outputsamples
      readsamplesize uncompressedBytes) fun o => BitReader.Unless (o.Fills outputsize) := by
  refine leads_true.bind fun shift => leads_true.bind fun leftweight => Leads.ite ?_ ?_
  · exact fun _ _ _ hclear => absurd hclear Bool.true_eq_false_eq_False
  · intro _
    refine leads_readPredictor.bind fun predictionA => ?_
    cases predictionA with
    | none => exact leads_failed.weaken fun r h => h rfl
    | some predictionA =>
        apply Leads.ite
        · intro hmono
          exact (leads_decodeResidualsOutput hsize hpos (Or.inl rfl) (by rw [houtput, hmono]; rfl)
            _ _ _ _).weaken fun _ _ => trivial
        · intro hstereo
          have hone : channels = 1 := hchannels.resolve_left hstereo
          refine (leads_readPredictor.weaken fun _ _ => trivial).bind fun predictionB => ?_
          cases predictionB with
          | none => exact leads_failed.weaken fun r h => h rfl
          | some predictionB =>
              exact (leads_decodeResidualsOutput hsize hpos (Or.inr rfl)
                (by rw [houtput, hone]; rfl) _ _ _ _).weaken fun _ _ => trivial

theorem leads_readMono (count : ℕ) :
    Leads (fun _ => True) (readMono a count) fun samples _ => samples.length = count := by
  induction count with
  | zero => exact leads_return fun _ _ => rfl
  | succ count ih =>
      refine leads_true.bind fun sample => ih.bind fun rest => leads_return fun _ hrest => ?_
      rw [List.length_cons, hrest]

theorem leads_readStereo (count : ℕ) :
    Leads (fun _ => True) (readStereo a count) fun samples _ =>
      samples.1.length = count ∧ samples.2.length = count := by
  induction count with
  | zero => exact leads_return fun _ _ => ⟨rfl, rfl⟩
  | succ count ih =>
      refine leads_true.bind fun sampleA => leads_true.bind fun sampleB => ?_
      refine ih.bind fun rest => leads_return fun _ hrest => ?_
      rw [List.length_cons, List.length_cons, hrest.1, hrest.2]
      exact ⟨rfl, rfl⟩

theorem leads_decodeUncompressedOutput (hsize : a.sampleSize = 16) (hpos : 0 ≤ outputsamples)
    (hchannels : channels = 0 ∨ channels = 1)
    (houtput : outputsize = outputsamples * (2 * (channels + 1))) :
    Leads (fun _ => True) (decodeUncompressedOutput a channels outputsize outputsamples)
      fun o => BitReader.Unless (o.Fills outputsize) := by
  apply Leads.ite
  · intro hmono
    refine (leads_readMono _).bind fun bufferA => leads_return fun _ hlength _ => ⟨rfl, ?_⟩
    rw [houtput, hmono, outputSamples_mono hsize, hlength]
    omega
  · intro hstereo
    refine (leads_readStereo _).bind fun buffers => leads_return fun _ hlength _ => ⟨rfl, ?_⟩
    rw [houtput, hchannels.resolve_left hstereo,
      outputSamples_stereo hsize (hlength.1.trans hlength.2.symm), hlength.1]
    omega

theorem leads_decodeSamplesOutput (hsize : a.sampleSize = 16) (hpos : 0 ≤ outputsamples)
    (hchannels : channels = 0 ∨ channels = 1)
    (houtput : outputsize = outputsamples * (2 * (channels + 1))) (uncompressedBytes : ℤ)
    (isnotcompressed : Bool) :
    Leads (fun _ => True) (decodeSamplesOutput a channels outputsize outputsamples
      uncompressedBytes isnotcompressed) fun o => BitReader.Unless (o.Fills outputsize) := by
  refine Leads.ite ?_ fun _ => Leads.ite ?_ ?_
  · exact fun _ _ _ hclear => absurd hclear Bool.true_eq_false_eq_False
  · exact fun _ => leads_decodeUncompressedOutput hsize hpos hchannels houtput
  · exact fun _ => leads_decodeCompressedOutput hsize hpos hchannels houtput _ _

/-- A size that is accepted is that of the samples, and it fits the buffer. -/
theorem setOutputSizeChecked_eq {capacity size : ℤ}
    (h : setOutputSizeChecked a outputsamples capacity = some size) :
    0 < outputsamples ∧ outputsamples ≤ a.maxSamplesPerFrame ∧
      size = outputsamples * a.bytespersample ∧ 0 < size ∧ size ≤ capacity := by
  rw [setOutputSizeChecked] at h
  split at h
  · exact absurd h.symm (Option.some_ne_none _)
  · dsimp only at h
    split at h
    · exact absurd h.symm (Option.some_ne_none _)
    · have hsize := Option.some.inj h
      omega

/-- What a frame may leave: nothing, or the samples of a size that was checked. -/
def AlacOutput.Checked (a : AlacFile) (capacity : ℤ) (o : AlacOutput) : Prop :=
  o.Fills 0 ∨ ∃ outputsamples size,
    setOutputSizeChecked a outputsamples capacity = some size ∧ o.Fills size

theorem leads_refused {pre : BitReader → Prop} {capacity : ℤ} :
    Leads pre (pure ⟨⟨0, []⟩, []⟩ : Alac AlacOutput)
      fun o => BitReader.Unless (o.Checked a capacity) :=
  leads_return fun _ _ _ => Or.inl ⟨rfl, rfl⟩

/-- The samples of a size that was checked. -/
theorem leads_checked (hsize : a.sampleSize = 16) (hbytes : a.bytespersample = 2 * (channels + 1))
    (hchannels : channels = 0 ∨ channels = 1) {capacity : ℤ}
    (hchecked : setOutputSizeChecked a outputsamples capacity = some outputsize)
    (uncompressedBytes : ℤ) (isnotcompressed : Bool) :
    Leads (fun _ => True) (decodeSamplesOutput a channels outputsize outputsamples
      uncompressedBytes isnotcompressed) fun o => BitReader.Unless (o.Checked a capacity) := by
  obtain ⟨hpos, -, houtput, -⟩ := setOutputSizeChecked_eq hchecked
  rw [hbytes] at houtput
  refine (leads_decodeSamplesOutput hsize hpos.le hchannels houtput _ _).mono ?_
  exact fun o r hfills hclear => Or.inr ⟨outputsamples, outputsize, hchecked, hfills hclear⟩

theorem leads_decodeChannelsOutput (hsize : a.sampleSize = 16)
    (hbytes : a.bytespersample = 2 * (channels + 1)) (hchannels : channels = 0 ∨ channels = 1)
    {capacity : ℤ}
    (hchecked : setOutputSizeChecked a a.maxSamplesPerFrame capacity = some outputsize) :
    Leads (fun _ => True) (decodeChannelsOutput a channels capacity outputsize)
      fun o => BitReader.Unless (o.Checked a capacity) := by
  refine leads_true.bind fun _ => leads_true.bind fun _ => leads_true.bind fun hassize => ?_
  refine leads_true.bind fun uncompressedBytes => leads_true.bind fun isnotcompressed => ?_
  apply Leads.ite
  · intro _
    refine leads_true.bind fun samples => ?_
    dsimp only
    cases hframe : setOutputSizeChecked a samples.toInt32.toInt capacity with
    | none => exact leads_refused
    | some size => exact leads_checked hsize hbytes hchannels hframe _ _
  · exact fun _ => leads_checked hsize hbytes hchannels hchecked _ _

/-- **A frame that is not refused fills `*outputsize`**, and that size was checked. -/
theorem leads_decodeFrameOutput (hsize : a.sampleSize = 16)
    (hbytes : a.bytespersample = 2 * a.numchannels) (capacity : ℤ) :
    Leads (fun _ => True) (decodeFrameOutput a capacity)
      fun o => BitReader.Unless (o.Checked a capacity) := by
  refine leads_true.bind fun channels => Leads.ite ?_ ?_
  · exact fun _ _ _ hclear => absurd hclear Bool.true_eq_false_eq_False
  · intro haccepted
    have hle : channels.toNat ≤ 1 :=
      UInt32.le_iff_toNat_le.mp (UInt32.not_lt.mp fun h => haccepted (Or.inl h))
    have hnum : a.numchannels = (channels.toNat : ℤ) + 1 := by
      by_contra hother
      exact haccepted (Or.inr (Ne.symm hother))
    cases hchecked : setOutputSizeChecked a a.maxSamplesPerFrame capacity with
    | none => exact leads_refused
    | some size =>
        exact leads_decodeChannelsOutput hsize (hbytes.trans (by rw [hnum])) (by omega) hchecked

end Frame

/-! ## The adapter -/

section Adapter

variable {a : AlacFile}

/-- A call of `alac_decode_frame` and its residuals: one frame, seen twice. -/
theorem alacDecodeFrameOutput_size (input : List UInt8) (outputsize : ℤ) :
    (alacDecodeFrameOutput a input outputsize).1 =
      (alacDecodeFrame a input outputsize).1.outputsize := by
  have hframe := congrFun (decodeFrameOutput_frame a outputsize) ⟨input, 0, false⟩
  have hvalue : (decodeFrameOutput a outputsize ⟨input, 0, false⟩).value.frame =
      (decodeFrame a outputsize ⟨input, 0, false⟩).value := congrArg Outcome.value hframe
  have hstate : (decodeFrameOutput a outputsize ⟨input, 0, false⟩).state =
      (decodeFrame a outputsize ⟨input, 0, false⟩).state := congrArg Outcome.state hframe
  rw [alacDecodeFrameOutput, alacDecodeFrame]
  split
  · rfl
  · dsimp only
    rw [hstate]
    split
    · rfl
    · rw [hvalue]

/-- The samples of `alac_decode_frame` fill `*outputsize`. -/
theorem alacDecodeFrameOutput_fills (hsize : a.sampleSize = 16)
    (hbytes : a.bytespersample = 2 * a.numchannels) (input : List UInt8) (capacity : ℤ) :
    ((alacDecodeFrameOutput a input capacity).2.length : ℤ) * 2 =
        (alacDecodeFrameOutput a input capacity).1 ∧
      ((alacDecodeFrameOutput a input capacity).1 = 0 ∨ ∃ outputsamples,
        setOutputSizeChecked a outputsamples capacity =
          some (alacDecodeFrameOutput a input capacity).1) := by
  rw [alacDecodeFrameOutput]
  split
  · exact ⟨rfl, Or.inl rfl⟩
  · have hframe := leads_decodeFrameOutput hsize hbytes capacity ⟨input, 0, false⟩ trivial
    dsimp only
    split
    · exact ⟨rfl, Or.inl rfl⟩
    · rename_i hclear
      rcases hframe (Bool.eq_false_of_not_eq_true hclear) with
        ⟨hzero, hlength⟩ | ⟨outputsamples, size, hchecked, hfills, hlength⟩
      · exact ⟨hlength.trans hzero.symm, Or.inl hzero⟩
      · exact ⟨hlength.trans hfills.symm, Or.inr ⟨outputsamples, hchecked.trans (by rw [hfills])⟩⟩

/-- **The samples of a packet.** For every packet and every buffer, `alac_decoder_decode_frame`
writes exactly the samples it reports: at least one, no more than the buffer holds, and whole
frames of all channels, at most `frame_length` of them. -/
theorem alacDecoderDecodeFrame_samples {used used' : ℕ} {fmtp : List UInt32}
    {framesPerPacket : UInt32} {bitDepth channels : UInt8} {sampleRate : UInt32}
    {decoder : AlacDecoder}
    (hinit : alacDecoderInit used fmtp framesPerPacket bitDepth channels sampleRate =
      (decoder, used', true)) (hdepth : decoder.bitDepth = 16) (input : List UInt8)
    (maxOutputSamples : UInt64) :
    (alacDecoderDecodeFrameOutput decoder input maxOutputSamples).map List.length =
        (alacDecoderDecodeFrame decoder input maxOutputSamples).outputSamples ∧
      ∀ samples, alacDecoderDecodeFrameOutput decoder input maxOutputSamples = some samples →
        samples ≠ [] ∧ samples.length ≤ maxOutputSamples.toNat ∧
          ∃ frames ≤ decoder.frameLength.toNat,
            samples.length = frames * decoder.channels.toNat := by
  obtain ⟨c, haccepted⟩ := alacDecoderInit_accepted hinit hdepth
  have hsize : decoder.alacFile.sampleSize = 16 := by
    rw [AlacDecoder.alacFile, hdepth]
    rfl
  have hbytes : decoder.alacFile.bytespersample = 2 * decoder.alacFile.numchannels := by
    rw [AlacDecoder.alacFile, hdepth]
    rfl
  have hmax : decoder.alacFile.maxSamplesPerFrame = decoder.frameLength.toNat := rfl
  have hnum : decoder.alacFile.numchannels = decoder.channels.toNat := rfl
  rw [alacDecoderDecodeFrameOutput, alacDecoderDecodeFrame]
  split
  · exact ⟨rfl, fun samples h => absurd h.symm (Option.some_ne_none _)⟩
  · dsimp only
    generalize ((min (maxOutputSamples * 2).toNat intMax : ℕ) : ℤ) = capacity
    obtain ⟨hfills, hchecked⟩ := alacDecodeFrameOutput_fills hsize hbytes input capacity
    have hequal := alacDecodeFrameOutput_size (a := decoder.alacFile) input capacity
    rw [← hequal]
    generalize alacDecodeFrameOutput decoder.alacFile input capacity = r at hfills hchecked
    split
    · exact ⟨rfl, fun samples h => absurd h.symm (Option.some_ne_none _)⟩
    · rename_i hreported
      refine ⟨congrArg some (by omega), fun samples h => ?_⟩
      obtain rfl := Option.some.inj h
      obtain hzero | ⟨outputsamples, hchecked⟩ := hchecked
      · omega
      · obtain ⟨hpos, hle, hrequired, -⟩ := setOutputSizeChecked_eq hchecked
        rw [hbytes, hnum] at hrequired
        refine ⟨fun hempty => ?_, by omega, outputsamples.toNat, by omega, ?_⟩
        · rw [hempty, List.length_nil] at hfills
          omega
        · have hlength : ((r.2.length : ℕ) : ℤ) = outputsamples * decoder.channels.toNat := by
            have hproduct : outputsamples * (2 * (decoder.channels.toNat : ℤ)) =
                outputsamples * decoder.channels.toNat * 2 := by ring
            omega
          have hframes : (outputsamples.toNat : ℤ) = outputsamples := Int.toNat_of_nonneg hpos.le
          rw [← hframes] at hlength
          exact_mod_cast hlength

/-- A packet of one frame, not compressed, with its own number of samples. -/
theorem alacDecoderDecodeFrame_samples_pair :
    alacDecoderDecodeFrameOutput (negotiatedDecoder 14)
        [0x20, 0, 0x12, 0, 0, 0, 2, 0, 0xb, 0xff, 0xf3, 0xc0] 704 = some [5, -7] ∧
      (alacDecoderDecodeFrame (negotiatedDecoder 14)
        [0x20, 0, 0x12, 0, 0, 0, 2, 0, 0xb, 0xff, 0xf3, 0xc0] 704).outputSamples = some 2 := by
  have hinit : alacDecoderInit 0 [352, 0, 16, 40, 10, 14, 2, 255, 0, 0, 44100] 352 16 2 44100 =
      (negotiatedDecoder 14, 1, true) := by decide
  have hsamples : alacDecoderDecodeFrameOutput (negotiatedDecoder 14)
      [0x20, 0, 0x12, 0, 0, 0, 2, 0, 0xb, 0xff, 0xf3, 0xc0] 704 = some [5, -7] := by
    decide +kernel
  have hlength := (alacDecoderDecodeFrame_samples hinit (by decide)
    [0x20, 0, 0x12, 0, 0, 0, 2, 0, 0xb, 0xff, 0xf3, 0xc0] 704).1
  rw [hsamples] at hlength
  exact ⟨hsamples, hlength.symm⟩

end Adapter

end PortableAirplay.Audio
