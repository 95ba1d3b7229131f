import PortableAirplay.Audio.AlacOutputSize
import PortableAirplay.Audio.PredictorRoundTrip

/-!
# The decoder is lossless

A packet of the encoder is decoded to the samples that went into it: one channel or two,
compressed or not, of the negotiated length or shorter, for all coefficients, weights and
Rice modifiers that a header can say, and for every negotiated history, as long as the products
of the history fit `int` (`FrameCoding.HistoryFits`). On the way no arithmetic of the Rice
decoding is undefined, so the numbers of the model are those of the code.
-/

set_option autoImplicit false

namespace PortableAirplay.Audio

open PortableAirplay.Library
open PortableAirplay.Library.Recorded
open PortableAirplay.Protocol
open BitReader
open Arithmetic (Defined)

theorem fieldBits_append (fields fields' : List (ℕ × ℕ)) (rest : List Bool) :
    fieldBits (fields ++ fields') rest = fieldBits fields (fieldBits fields' rest) :=
  List.foldr_append

/-! ## The header of a channel -/

section Header

variable {rest : List Bool}

theorem runs_field {n v : ℕ} {fields : List (ℕ × ℕ)} (hn : 0 < n ∧ n ≤ 16) (hv : v < 2 ^ n) :
    Runs Defined (Ahead (fieldBits ((n, v) :: fields) rest)) (readbits n) (UInt32.ofNat v)
      (Ahead (fieldBits fields rest)) :=
  (gives_field hn hv).runs (meets_readbits (fun _ hop => hop) n)

theorem runs_field_wide {n v : ℕ} {fields : List (ℕ × ℕ)} (hn : 0 < n ∧ n ≤ 32)
    (hv : v < 2 ^ n) :
    Runs Defined (Ahead (fieldBits ((n, v) :: fields) rest)) (readbits n) (UInt32.ofNat v)
      (Ahead (fieldBits fields rest)) :=
  (gives_field_wide hn hv).runs (meets_readbits (fun _ hop => hop) n)

/-- A coefficient or a sample that was read as a field. -/
theorem field_toInt16 (x : Int16) : (UInt32.ofNat x.toUInt16.toNat).toUInt16.toInt16 = x := by
  rw [UInt32.toUInt16_ofNat', UInt16.ofNat_toNat, Int16.toInt16_toUInt16]

theorem runs_readCoefTable (coefTable : List Int16) :
    Runs Defined (Ahead (fieldBits (coefTable.map fun coef => (16, coef.toUInt16.toNat)) rest))
      (readCoefTable coefTable.length) coefTable (Ahead rest) := by
  induction coefTable with
  | nil => exact runs_return []
  | cons coef coefTable ih =>
      refine (runs_field (by decide) coef.toUInt16.toNat_lt).bind (ih.bind ?_)
      rw [field_toInt16]
      exact runs_return _

/-- **The header of a channel is read back.** -/
theorem runs_readPredictor {coding : ChannelCoding} {n : ℕ} (h : coding.Valid n) :
    Runs Defined (Ahead (fieldBits coding.fields rest)) (readPredictor n)
      (some ⟨coding.quantitization, coding.ricemodifier, coding.coefTable⟩) (Ahead rest) := by
  have hlength : coding.coefTable.length < 32 := by
    have hcoefs := h.coefficients
    omega
  have hword : ∀ v < 32, (UInt32.ofNat v).toNat = v := fun v hv => by
    rw [UInt32.toNat_ofNat', Nat.mod_eq_of_lt (by omega)]
  have hq := hword coding.quantitization (by have := h.quantitization; omega)
  have hrice := hword coding.ricemodifier (by have := h.ricemodifier; omega)
  have hnum := hword coding.coefTable.length hlength
  have haccepted : ¬ (UInt32.ofNat 0 ≠ 0 ∨
      (UInt32.ofNat coding.coefTable.length ≠ 0 ∧ UInt32.ofNat coding.quantitization = 0) ∨
      (UInt32.ofNat coding.coefTable.length ≠ 31 ∧
        ((UInt32.ofNat coding.coefTable.length).toNat : ℤ) ≥ n)) := by
    rintro (hzero | ⟨hcoefs, hquantized⟩ | ⟨hcoefs, hmany⟩)
    · exact hzero rfl
    · -- coefficients come with a quantization
      have hnone : coding.quantitization = 0 := by rw [← hq, hquantized]; rfl
      exact h.quantized (fun hnil => hcoefs (by rw [hnil]; rfl)) hnone
    · rw [hnum] at hmany
      have h31 : coding.coefTable.length ≠ 31 := fun heq => hcoefs (by rw [heq]; rfl)
      have hcoefs := h.coefficients
      omega
  rw [ChannelCoding.fields, fieldBits_append]
  refine (runs_field (by decide) (by decide)).bind ?_
  refine (runs_field (by decide) h.quantitization).bind ?_
  refine (runs_field (by decide) h.ricemodifier).bind ?_
  refine (runs_field (by decide) hlength).bind ?_
  rw [if_neg haccepted, hq, hrice, hnum]
  exact (runs_readCoefTable coding.coefTable).bind (runs_return _)

end Header

/-! ## Channels -/

/-- The context of a decoder for 16-bit samples with `c + 1` channels and `frames` samples in
a packet. -/
structure AlacFile.Coded (a : AlacFile) (c frames : ℕ) : Prop where
  depth : a.samplesize = 16
  size : a.sampleSize = 16
  channels : a.numchannels = (c : ℤ) + 1
  mono_or_stereo : c = 0 ∨ c = 1
  bytes : a.bytespersample = 2 * ((c : ℤ) + 1)
  maxSamples : a.maxSamplesPerFrame = frames
  frames_le : frames ≤ 2 ^ 16
  historymult : 0 ≤ a.riceHistorymult ∧ a.riceHistorymult < 256
  initialhistory : InHistory a.riceInitialhistory
  kmodifier : 1 ≤ a.riceKmodifier ∧ a.riceKmodifier ≤ 30

section Channel

variable {a : AlacFile} {c frames : ℕ} (ha : a.Coded c frames) {rest : List Bool}

include ha

/-- Every header of a channel leads to parameters that have a code. -/
theorem AlacFile.Coded.codes {n : ℤ} {size modifier : ℕ} (hsize : 0 < size ∧ size ≤ 31)
    (hmodifier : modifier < 8) :
    (a.riceCoding n size modifier).Codes (modifier * a.riceHistorymult.toNat / 4) size := by
  have hkmodifier := ha.kmodifier.1
  obtain ⟨m, hm⟩ := Int.eq_ofNat_of_zero_le ha.historymult.1
  have hbyte := ha.historymult.2
  have hproduct : modifier * m ≤ 7 * m := Nat.mul_le_mul_right m (by omega)
  refine ⟨?_, ?_, hkmodifier, rfl, hsize, ?_⟩
  · show ((modifier : ℤ) * a.riceHistorymult).tdiv 4 = _
    rw [hm, Int.toNat_natCast]
    rfl
  · rw [hm, Int.toNat_natCast]
    omega
  · show (UInt32.ofInt (2 ^ a.riceKmodifier.toNat - 1)).toNat % 2 = 1
    obtain ⟨k, hk⟩ : ∃ k, a.riceKmodifier.toNat = k + 1 := ⟨a.riceKmodifier.toNat - 1, by omega⟩
    rw [hk, UInt32.ofInt, UInt32.toNat_ofNat', pow_succ]
    omega

/-- The arithmetic of a channel is defined. -/
theorem AlacFile.Coded.defined {n size : ℕ} (hsize : 0 < size ∧ size ≤ 17)
    {coding : ChannelCoding} (hcoding : coding.ricemodifier < 8) (hfits : coding.HistoryFits a n) :
    Meets Defined (riceDecodeChannel a n size coding.ricemodifier) fun _ => True := by
  obtain ⟨m, hm⟩ := Int.eq_ofNat_of_zero_le ha.historymult.1
  obtain ⟨initial, hinitial⟩ := Int.eq_ofNat_of_zero_le ha.initialhistory.1
  have hstartle := ha.initialhistory.2
  have hlt := ha.historymult.2
  have hkmodifier := ha.kmodifier
  have hpow : (2 : ℤ) ^ a.riceKmodifier.toNat ≤ 2 ^ 30 :=
    pow_le_pow_right₀ (by decide) (by omega)
  have hone : (1 : ℤ) ≤ 2 ^ a.riceKmodifier.toNat := one_le_pow₀ (by decide)
  have hproduct : coding.ricemodifier * m ≤ 7 * m := Nat.mul_le_mul_right m (by omega)
  have hmask : (Arithmetic.result (2 ^ a.riceKmodifier.toNat)).Defined := ⟨by omega, by omega⟩
  refine meets_riceDecodeChannel_fits (fun _ hop => hop) hmask hm (by omega) hinitial (by omega)
    ⟨by omega, by omega⟩ ⟨by omega, by omega⟩ hcoding fun k hk => ?_
  -- the last sample has the largest product
  rw [ChannelCoding.HistoryFits, ChannelCoding.historymult, hm, hinitial, Int.toNat_natCast,
    Int.toNat_natCast] at hfits
  have hpeak : historyPeak (coding.ricemodifier * m / 4) initial k ≤
      historyPeak (coding.ricemodifier * m / 4) initial (n - 1) :=
    historyPeak_mono (by omega) (by omega) (by omega)
  exact lt_of_le_of_lt (Nat.mul_le_mul_right _ hpeak) hfits

/-- **The samples of a channel are read back.** -/
theorem runs_riceDecodeChannel {size : ℕ} (hsize : 0 < size ∧ size ≤ 17) {coding : ChannelCoding}
    (hcoding : coding.ricemodifier < 8) {samples : List Int32}
    (hfits : coding.HistoryFits a samples.length)
    (hsamples : ∀ x ∈ samples, FitsSample size x) (hlength : samples.length ≤ frames)
    (hrest : rest ≠ []) :
    Runs Defined (Ahead (coding.encode a size samples ++ rest))
      (riceDecodeChannel a samples.length size coding.ricemodifier)
      ((predictorCompress samples size coding.coefTable coding.quantitization).map Int32.toInt)
      (Ahead rest) := by
  have hsize' : 0 < size ∧ size ≤ 31 := by omega
  have hcodes := ha.codes (n := samples.length) hsize' hcoding
  have hle := ha.frames_le
  refine Gives.runs ((gives_record _).bind ?_) (ha.defined hsize hcoding hfits)
  refine gives_entropyRiceDecode hcodes ?_ ?_ ha.initialhistory ?_ hrest
  · rw [List.length_map, predictorCompress_length]
    rfl
  · rw [List.length_map, predictorCompress_length]
    omega
  · intro e he
    obtain ⟨x, hx, rfl⟩ := List.mem_map.mp he
    exact predictorCompress_fits ⟨hsize.1, by omega⟩ hsamples _ _ x hx

omit ha in
/-- The buffer of a channel holds its samples again. -/
theorem samples_restored {size : ℕ} (hsize : 0 < size ∧ size ≤ 17) (coding : ChannelCoding)
    {samples : List Int32} (hsamples : ∀ x ∈ samples, FitsSample size x) :
    Prediction.samples ⟨coding.quantitization, coding.ricemodifier, coding.coefTable⟩ size
      ((predictorCompress samples size coding.coefTable coding.quantitization).map Int32.toInt) =
      samples := by
  have hcast : (Int32.ofInt ∘ Int32.toInt) = id := funext Int32.ofInt_toInt
  rw [Prediction.samples, List.map_map, hcast, List.map_id]
  exact predictorDecompress_compress ⟨hsize.1, by omega⟩ hsamples _ _

end Channel

/-! ## Frames -/

section Frame

variable {a : AlacFile} {c frames : ℕ} (ha : a.Coded c frames) {rest : List Bool}

theorem fitsSample_toInt32 {bits : ℕ} (hbits : 16 ≤ bits) (x : Int16) :
    FitsSample bits x.toInt32 := by
  have hpow : (2 : ℤ) ^ 15 ≤ 2 ^ (bits - 1) := pow_le_pow_right₀ (by decide) (by omega)
  have hlow := x.le_toInt
  have hhigh := x.toInt_lt
  rw [FitsSample, FitsBits, Int16.toInt_toInt32]
  omega

theorem deinterlace16_interlace (shift leftweight : UInt8) (samples : List (Int16 × Int16)) :
    deinterlace16 ((samples.map fun pair => interlacePair shift leftweight pair.1 pair.2).map
        Prod.fst)
      ((samples.map fun pair => interlacePair shift leftweight pair.1 pair.2).map Prod.snd)
      shift leftweight = samples.flatMap fun pair => [pair.1, pair.2] := by
  induction samples with
  | nil => rfl
  | cons pair samples ih =>
      rw [deinterlace16] at ih ⊢
      simp only [List.map_cons, List.zipWith_cons_cons, List.flatten_cons, List.flatMap_cons]
      rw [deinterlacePair_interlacePair, ih]

include ha

/-- One channel behind its header. -/
theorem runs_decodeResiduals_mono {coding : ChannelCoding} (hcoding : coding.ricemodifier < 8)
    {samples : List Int16} (hfits : coding.HistoryFits a samples.length)
    (hlength : samples.length ≤ frames) (outputsize : ℤ) (shift leftweight : UInt8)
    (hrest : rest ≠ []) :
    ∃ residuals, Runs Defined (Ahead (coding.encode a 16 (samples.map Int16.toInt32) ++ rest))
      (decodeResidualsOutput a outputsize samples.length 16 0 shift leftweight
        [⟨coding.quantitization, coding.ricemodifier, coding.coefTable⟩])
      ⟨⟨outputsize, residuals⟩, samples⟩ (Ahead rest) := by
  have hsize : 0 < 16 ∧ 16 ≤ 17 := by decide
  have hsamples : ∀ x ∈ samples.map Int16.toInt32, FitsSample 16 x := by
    intro x hx
    obtain ⟨sample, -, rfl⟩ := List.mem_map.mp hx
    exact fitsSample_toInt32 (Nat.le_refl 16) sample
  have hread := runs_riceDecodeChannel ha hsize hcoding (by rwa [List.length_map]) hsamples
    (by rwa [List.length_map]) hrest
  have hrestored := samples_restored hsize coding hsamples
  rw [List.length_map] at hread
  generalize (predictorCompress (samples.map Int16.toInt32) (16 : ℕ) coding.coefTable
    coding.quantitization).map Int32.toInt = residuals at hread hrestored
  refine ⟨[residuals], ?_⟩
  have hback : Int32.toInt16 ∘ Int16.toInt32 = id := funext Int16.toInt16_toInt32
  refine Runs.bind (runs_return _) (Runs.bind (hread.bind ((runs_return _).bind
    (runs_return _))) ?_)
  have houtput : outputSamples a (List.zipWith (fun p : Prediction => p.samples 16)
      [⟨coding.quantitization, coding.ricemodifier, coding.coefTable⟩] [residuals])
      shift leftweight = samples := by
    rw [List.zipWith_cons_cons, List.zipWith_nil_left, outputSamples, if_pos ha.size]
    exact (congrArg (List.map Int32.toInt16) hrestored).trans
      (by rw [List.map_map, hback, List.map_id])
  dsimp only
  rw [houtput]
  exact runs_return _

/-- Two channels behind their headers. -/
theorem runs_decodeResiduals_stereo {codingA codingB : ChannelCoding}
    (hcodingA : codingA.ricemodifier < 8) (hcodingB : codingB.ricemodifier < 8)
    {samples : List (Int16 × Int16)} (hfitsA : codingA.HistoryFits a samples.length)
    (hfitsB : codingB.HistoryFits a samples.length) (hlength : samples.length ≤ frames)
    (outputsize : ℤ)
    (shift leftweight : UInt8) (hrest : rest ≠ []) :
    ∃ residuals, Runs Defined
      (Ahead (codingA.encode a 17 ((samples.map fun pair =>
          interlacePair shift leftweight pair.1 pair.2).map Prod.fst) ++
        (codingB.encode a 17 ((samples.map fun pair =>
          interlacePair shift leftweight pair.1 pair.2).map Prod.snd) ++ rest)))
      (decodeResidualsOutput a outputsize samples.length 17 0 shift leftweight
        [⟨codingA.quantitization, codingA.ricemodifier, codingA.coefTable⟩,
          ⟨codingB.quantitization, codingB.ricemodifier, codingB.coefTable⟩])
      ⟨⟨outputsize, residuals⟩, samples.flatMap fun pair => [pair.1, pair.2]⟩ (Ahead rest) := by
  have hsize : 0 < 17 ∧ 17 ≤ 17 := by decide
  have hinterlaced := deinterlace16_interlace shift leftweight samples
  have hfits : ∀ pair ∈ samples.map fun pair => interlacePair shift leftweight pair.1 pair.2,
      FitsSample 17 pair.1 ∧ FitsSample 17 pair.2 := by
    intro pair hpair
    obtain ⟨sample, -, rfl⟩ := List.mem_map.mp hpair
    exact interlacePair_fits shift leftweight sample.1 sample.2
  have hcount : (samples.map fun pair => interlacePair shift leftweight pair.1 pair.2).length =
      samples.length := List.length_map _
  generalize (samples.map fun pair => interlacePair shift leftweight pair.1 pair.2) = pairs
    at hinterlaced hfits hcount ⊢
  have hfst : ∀ x ∈ pairs.map Prod.fst, FitsSample 17 x := by
    intro x hx
    obtain ⟨pair, hpair, rfl⟩ := List.mem_map.mp hx
    exact (hfits pair hpair).1
  have hsnd : ∀ x ∈ pairs.map Prod.snd, FitsSample 17 x := by
    intro x hx
    obtain ⟨pair, hpair, rfl⟩ := List.mem_map.mp hx
    exact (hfits pair hpair).2
  have hlonger : codingB.encode a 17 (pairs.map Prod.snd) ++ rest ≠ [] := fun h =>
    hrest (List.append_eq_nil_iff.mp h).2
  have hreadA := runs_riceDecodeChannel ha hsize hcodingA (by rwa [List.length_map, hcount]) hfst
    (by rwa [List.length_map, hcount]) hlonger
  have hreadB := runs_riceDecodeChannel ha hsize hcodingB (by rwa [List.length_map, hcount]) hsnd
    (by rwa [List.length_map, hcount]) hrest
  have hrestoredA := samples_restored hsize codingA hfst
  have hrestoredB := samples_restored hsize codingB hsnd
  rw [List.length_map, hcount] at hreadA hreadB
  generalize (predictorCompress (pairs.map Prod.fst) (17 : ℕ) codingA.coefTable
    codingA.quantitization).map Int32.toInt = residualsA at hreadA hrestoredA
  generalize (predictorCompress (pairs.map Prod.snd) (17 : ℕ) codingB.coefTable
    codingB.quantitization).map Int32.toInt = residualsB at hreadB hrestoredB
  refine ⟨[residualsA, residualsB], ?_⟩
  have hlast : Runs Defined (Ahead (codingB.encode a (17 : ℕ) (pairs.map Prod.snd) ++ rest))
      (riceDecodeChannels a samples.length (17 : ℕ) [codingB.ricemodifier]) [residualsB]
      (Ahead rest) := hreadB.bind ((runs_return _).bind (runs_return _))
  refine Runs.bind (runs_return _) (Runs.bind (hreadA.bind (hlast.bind (runs_return _))) ?_)
  have houtput : outputSamples a (List.zipWith (fun p : Prediction => p.samples 17)
      [⟨codingA.quantitization, codingA.ricemodifier, codingA.coefTable⟩,
        ⟨codingB.quantitization, codingB.ricemodifier, codingB.coefTable⟩]
      [residualsA, residualsB]) shift leftweight =
      samples.flatMap fun pair => [pair.1, pair.2] := by
    rw [List.zipWith_cons_cons, List.zipWith_cons_cons, List.zipWith_nil_left, outputSamples,
      if_pos ha.size, ← hinterlaced]
    exact congrArg₂ (fun bufferA bufferB => deinterlace16 bufferA bufferB shift leftweight)
      hrestoredA hrestoredB
  dsimp only
  rw [houtput]
  exact runs_return _

/-- **A compressed frame.** -/
theorem runs_decodeCompressedOutput {pcm : AlacPcm} (hc : pcm.channels = c)
    (hlength : pcm.length ≤ frames) {shift leftweight : UInt8} {codingA codingB : ChannelCoding}
    (hcoding : (FrameCoding.compressed shift leftweight codingA codingB).Valid pcm.length)
    (hfits : (FrameCoding.compressed shift leftweight codingA codingB).HistoryFits a pcm.length)
    (outputsize : ℤ) :
    ∃ residuals, Runs Defined
      (Ahead (fieldBits [(8, shift.toNat), (8, leftweight.toNat)]
        (channelCode a shift leftweight codingA codingB pcm)))
      (decodeCompressedOutput a c outputsize pcm.length (16 + c) 0)
      ⟨⟨outputsize, residuals⟩, pcm.interleaved⟩ (Ahead endTag) := by
  obtain ⟨hshift, hcodingA, hcodingB⟩ := hcoding
  obtain ⟨hfitsA, hfitsB⟩ := hfits
  have hbyte : ∀ x : UInt8, (UInt32.ofNat x.toNat).toUInt8 = x := fun x => by
    rw [UInt32.toUInt8_ofNat', UInt8.ofNat_toNat]
  have haccepted : ¬ ((c : ℤ) = 1 ∧ (UInt32.ofNat shift.toNat).toUInt8 > 31) := by
    rw [hbyte]
    rintro ⟨-, hlarge⟩
    exact absurd hlarge (UInt8.not_lt.mpr hshift)
  have hend : endTag ≠ [] := List.cons_ne_nil _ _
  cases pcm with
  | mono samples =>
      subst hc
      obtain ⟨residuals, hgives⟩ := runs_decodeResiduals_mono ha hcodingA.ricemodifier hfitsA
        hlength outputsize shift leftweight hend
      refine ⟨residuals, ?_⟩
      refine (runs_field (by decide) shift.toNat_lt).bind ?_
      refine (runs_field (by decide) leftweight.toNat_lt).bind ?_
      rw [if_neg haccepted, hbyte, hbyte]
      refine (runs_readPredictor hcodingA).bind ?_
      have hzero : ((AlacPcm.mono samples).channels : ℤ) = 0 := rfl
      dsimp only
      rw [if_pos hzero]
      exact hgives
  | stereo samples =>
      subst hc
      obtain ⟨residuals, hgives⟩ := runs_decodeResiduals_stereo ha hcodingA.ricemodifier
        hcodingB.ricemodifier hfitsA hfitsB hlength outputsize shift leftweight hend
      refine ⟨residuals, ?_⟩
      refine (runs_field (by decide) shift.toNat_lt).bind ?_
      refine (runs_field (by decide) leftweight.toNat_lt).bind ?_
      rw [if_neg haccepted, hbyte, hbyte]
      refine (runs_readPredictor hcodingA).bind ?_
      have hone : ((AlacPcm.stereo samples).channels : ℤ) ≠ 0 := one_ne_zero
      dsimp only
      rw [if_neg hone]
      refine (runs_readPredictor hcodingB).bind ?_
      exact hgives

/-- A sample of 16 bits. -/
theorem runs_readSample (x : Int16) (fields : List (ℕ × ℕ)) :
    Runs Defined (Ahead (fieldBits ((16, x.toUInt16.toNat) :: fields) rest)) (readSample a)
      x.toInt32 (Ahead (fieldBits fields rest)) := by
  have hvalue : signExtended32 (UInt32.ofNat x.toUInt16.toNat).toInt32 16 = x.toInt32 := by
    have hlt : x.toUInt16.toNat < 2 ^ 16 := x.toUInt16.toNat_lt
    have hword : (UInt32.ofNat x.toUInt16.toNat).toNat = x.toUInt16.toNat := by
      rw [UInt32.toNat_ofNat', Nat.mod_eq_of_lt (by omega)]
    have hextended := signExtended32_toInt (UInt32.ofNat x.toUInt16.toNat).toInt32
      (by decide : 0 < 16 ∧ 16 ≤ 32)
    apply Int32.toInt_inj.mp
    rw [Nat.cast_ofNat, toInt32_toInt (by omega), hword] at hextended
    rw [hextended, Int16.toInt_toInt32, ← Int16.toInt_toBitVec, BitVec.toInt_eq_toNat_bmod]
    rfl
  rw [readSample, ha.size]
  refine (runs_field (by decide) x.toUInt16.toNat_lt).bind ?_
  rw [hvalue]
  exact runs_return _

theorem runs_readMono (samples : List Int16) :
    Runs Defined (Ahead (fieldBits (sampleFields samples) rest)) (readMono a samples.length)
      (samples.map Int16.toInt32) (Ahead rest) := by
  induction samples with
  | nil => exact runs_return []
  | cons x samples ih => exact (runs_readSample ha x _).bind (ih.bind (runs_return _))

theorem runs_readStereo (samples : List (Int16 × Int16)) :
    Runs Defined
      (Ahead (fieldBits (sampleFields (samples.flatMap fun pair => [pair.1, pair.2])) rest))
      (readStereo a samples.length)
      (samples.map fun pair => pair.1.toInt32, samples.map fun pair => pair.2.toInt32)
      (Ahead rest) := by
  induction samples with
  | nil => exact runs_return _
  | cons pair samples ih =>
      exact (runs_readSample ha pair.1 _).bind ((runs_readSample ha pair.2 _).bind
        (ih.bind (runs_return _)))

/-- **A frame that is not compressed.** -/
theorem runs_decodeUncompressedOutput {pcm : AlacPcm} (hc : pcm.channels = c) (outputsize : ℤ) :
    Runs Defined (Ahead (fieldBits (sampleFields pcm.interleaved) rest))
      (decodeUncompressedOutput a c outputsize pcm.length)
      ⟨⟨outputsize, []⟩, pcm.interleaved⟩ (Ahead rest) := by
  have hback : Int32.toInt16 ∘ Int16.toInt32 = id := funext Int16.toInt16_toInt32
  subst hc
  cases pcm with
  | mono samples =>
      have hzero : ((AlacPcm.mono samples).channels : ℤ) = 0 := rfl
      have houtput : outputSamples a [samples.map Int16.toInt32] 0 0 = samples := by
        rw [outputSamples, if_pos ha.size, List.map_map, hback, List.map_id]
      rw [decodeUncompressedOutput, if_pos hzero]
      refine (runs_readMono ha samples).bind ?_
      rw [houtput]
      exact runs_return _
  | stereo samples =>
      have hone : ((AlacPcm.stereo samples).channels : ℤ) ≠ 0 := one_ne_zero
      have houtput : outputSamples a [samples.map fun pair => pair.1.toInt32,
          samples.map fun pair => pair.2.toInt32] 0 0 =
          samples.flatMap fun pair => [pair.1, pair.2] := by
        have hplain := deinterlace16_interlace 0 0 samples
        rw [List.map_map, List.map_map] at hplain
        rw [outputSamples, if_pos ha.size]
        exact hplain
      rw [decodeUncompressedOutput, if_neg hone]
      refine (runs_readStereo ha samples).bind ?_
      rw [houtput]
      exact runs_return _

/-- The sizes of a frame and of a whole packet are accepted. -/
theorem AlacFile.Coded.sizeChecked {n : ℕ} (hpos : 0 < n) (hlength : n ≤ frames) {capacity : ℕ}
    (hcapacity : frames * (2 * (c + 1)) ≤ capacity) (hmax : capacity ≤ intMax) :
    setOutputSizeChecked a n capacity = some ((n * (2 * (c + 1)) : ℕ) : ℤ) := by
  have hframes := ha.maxSamples
  have hrequired : n * (2 * (c + 1)) ≤ frames * (2 * (c + 1)) := Nat.mul_le_mul_right _ hlength
  have hpositive : 0 < n * (2 * (c + 1)) := Nat.mul_pos hpos (by omega)
  have hbytes : (n : ℤ) * a.bytespersample = ((n * (2 * (c + 1)) : ℕ) : ℤ) := by
    rw [ha.bytes]
    push_cast
    ring
  rw [setOutputSizeChecked, if_neg (by omega), hbytes]
  exact if_neg (by omega)

/-- **The header of a frame is read back**, with the length of a shorter frame. -/
theorem runs_header {pcm : AlacPcm} (hc : pcm.channels = c) (hpos : 0 < pcm.length)
    (hlength : pcm.length ≤ frames) {capacity : ℕ} (hcapacity : frames * (2 * (c + 1)) ≤ capacity)
    (hmax : capacity ≤ intMax) {isnotcompressed : Bool} {body : List Bool} {o : AlacOutput}
    (hbody : Runs Defined (Ahead body) (decodeSamplesOutput a c
      ((pcm.length * (2 * (c + 1)) : ℕ) : ℤ) pcm.length 0 isnotcompressed) o (Ahead rest)) :
    Runs Defined (Ahead (fieldBits (headerFields a pcm isnotcompressed) body))
      (decodeFrameOutput a capacity) o (Ahead rest) := by
  have hsmall : c < 2 ^ 3 := by
    have hchannels := ha.mono_or_stereo
    omega
  have hvalue : (UInt32.ofNat c).toNat = c := by
    rw [UInt32.toNat_ofNat', Nat.mod_eq_of_lt (by omega)]
  have haccepted : ¬ (UInt32.ofNat c > 1 ∨ ((UInt32.ofNat c).toNat : ℤ) + 1 ≠ a.numchannels) := by
    rw [hvalue, ha.channels]
    rintro (h | h)
    · rcases ha.mono_or_stereo with rfl | rfl
      · exact absurd h (by decide)
      · exact absurd h (by decide)
    · exact h rfl
  have hframe := ha.sizeChecked hpos hlength hcapacity hmax
  have hpacket := ha.sizeChecked (hpos.trans_le hlength) (Nat.le_refl frames) hcapacity hmax
  have hmaxSamples := ha.maxSamples
  have hle := ha.frames_le
  have hbool : ∀ b : Bool, decide (UInt32.ofNat b.toNat ≠ 0) = b := by decide
  have hbit : ∀ b : Bool, b.toNat < 2 ^ 1 := by decide
  have hwide : pcm.length < 2 ^ 32 := by omega
  have hsamples : (UInt32.ofNat pcm.length).toInt32.toInt = pcm.length := by
    rw [toInt32_toInt, UInt32.toNat_ofNat', Nat.mod_eq_of_lt hwide]
    rw [UInt32.toNat_ofNat', Nat.mod_eq_of_lt hwide]
    omega
  have hzero : ((UInt32.ofNat 0).toNat : ℤ) = 0 := rfl
  rw [headerFields, hc, fieldBits_append]
  refine (runs_field (by decide) hsmall).bind ?_
  rw [if_neg haccepted, hmaxSamples, hpacket, hvalue]
  refine (runs_field (by decide) (by decide)).bind ?_
  refine (runs_field (by decide) (by decide)).bind ?_
  refine (runs_field (by decide) (hbit _)).bind ?_
  refine (runs_field (by decide) (by decide)).bind ?_
  refine (runs_field (by decide) (hbit _)).bind ?_
  rw [hbool, hzero]
  by_cases hfull : (pcm.length : ℤ) = frames
  · -- the frame has the length of a packet
    rw [decide_eq_false (not_not_intro hfull)]
    rw [if_neg (by decide), if_neg (by decide), hmaxSamples, ← hfull]
    rw [← Int.ofNat_inj.mp hfull]
    exact hbody
  · rw [decide_eq_true hfull, if_pos rfl, if_pos (by decide)]
    refine (runs_field_wide (by decide) hwide).bind ?_
    dsimp only
    rw [hsamples, hframe]
    exact hbody

/-- **Every frame of the encoder is decoded to its samples.** -/
theorem runs_decodeFrameOutput {pcm : AlacPcm} (hc : pcm.channels = c) (hpos : 0 < pcm.length)
    (hlength : pcm.length ≤ frames) {coding : FrameCoding} (hcoding : coding.Valid pcm.length)
    (hfits : coding.HistoryFits a pcm.length) {capacity : ℕ}
    (hcapacity : frames * (2 * (c + 1)) ≤ capacity) (hmax : capacity ≤ intMax) :
    ∃ residuals, Runs Defined (Ahead (frameCode a pcm coding)) (decodeFrameOutput a capacity)
      ⟨⟨((pcm.length * (2 * (c + 1)) : ℕ) : ℤ), residuals⟩, pcm.interleaved⟩ (Ahead endTag) := by
  have hchannels := ha.mono_or_stereo
  have hread : a.sampleSize - 0 * 8 + (c : ℤ) = 16 + c := by
    rw [ha.size]
    omega
  have hrange : ¬ ((16 : ℤ) + c ≤ 0 ∨ (16 : ℤ) + c > 32) := by omega
  cases coding with
  | uncompressed =>
      refine ⟨[], runs_header ha hc hpos hlength hcapacity hmax ?_⟩
      rw [decodeSamplesOutput, hread, if_neg hrange, if_pos rfl]
      exact runs_decodeUncompressedOutput ha hc _
  | compressed shift leftweight codingA codingB =>
      obtain ⟨residuals, hgives⟩ := runs_decodeCompressedOutput ha hc hlength hcoding hfits
        ((pcm.length * (2 * (c + 1)) : ℕ) : ℤ)
      refine ⟨residuals, runs_header ha hc hpos hlength hcapacity hmax ?_⟩
      rw [decodeSamplesOutput, hread, if_neg hrange, if_neg Bool.false_ne_true]
      exact hgives

end Frame

/-! ## Packets -/

/-- The context of an accepted decoder, with a modifier of `k` that a packet can use. -/
theorem AlacDecoder.Accepted.coded {decoder : AlacDecoder} {c : ℕ} (h : decoder.Accepted c)
    (hmodifier : 1 ≤ (decoder.fmtpByte 5 14).toNat ∧ (decoder.fmtpByte 5 14).toNat ≤ 30) :
    decoder.alacFile.Coded c decoder.frameLength.toNat where
  depth := by rw [alacFile, h.depth]; rfl
  size := by rw [alacFile, h.depth]; rfl
  channels := by rw [alacFile, h.channels]; rfl
  mono_or_stereo := h.mono_or_stereo
  bytes := by rw [alacFile, h.depth, h.channels]; rfl
  maxSamples := rfl
  frames_le := h.frames_le.trans (by decide)
  historymult := ⟨Int.natCast_nonneg _, Int.ofNat_lt.mpr (decoder.fmtpByte 3 40).toNat_lt⟩
  initialhistory := by
    have hbyte := (decoder.fmtpByte 4 10).toNat_lt
    have hlimit : historyLimit = 512 * 0xffff := rfl
    refine ⟨Int.natCast_nonneg _, ?_⟩
    show ((decoder.fmtpByte 4 10).toNat : ℤ) ≤ historyLimit
    omega
  kmodifier := ⟨Int.ofNat_le.mpr hmodifier.1, Int.ofNat_le.mpr hmodifier.2⟩

/-- A packet is not empty. -/
theorem encodePacket_ne_nil (a : AlacFile) (coding : FrameCoding) (pcm : AlacPcm) :
    encodePacket a coding pcm ≠ [] := by
  cases coding with
  | uncompressed => exact packBits_ne_nil
  | compressed shift leftweight codingA codingB => exact packBits_ne_nil

/-- The two forms of the decoder record the same arithmetic. -/
theorem decodeFrameOutput_log (a : AlacFile) (outputsize : ℤ) (r : BitReader) :
    (decodeFrame a outputsize r).log = (decodeFrameOutput a outputsize r).log := by
  rw [← decodeFrameOutput_frame]
  exact List.append_nil _

/-- A packet of the encoder gives back its samples, and its arithmetic is defined. -/
theorem AlacDecoder.Accepted.lossless {decoder : AlacDecoder} {c : ℕ}
    (haccepted : decoder.Accepted c)
    (hmodifier : 1 ≤ (decoder.fmtpByte 5 14).toNat ∧ (decoder.fmtpByte 5 14).toNat ≤ 30)
    {pcm : AlacPcm} (hc : pcm.channels = c) (hpos : 0 < pcm.length)
    (hlength : pcm.length ≤ decoder.frameLength.toNat) {coding : FrameCoding}
    (hcoding : coding.Valid pcm.length) (hfits : coding.HistoryFits decoder.alacFile pcm.length)
    {maxOutputSamples : UInt64}
    (hcapacity : decoder.frameLength.toNat * decoder.channels.toNat ≤ maxOutputSamples.toNat)
    (hsize : maxOutputSamples.toNat < 2 ^ 63) :
    alacDecoderDecodeFrameOutput decoder (encodePacket decoder.alacFile coding pcm)
        maxOutputSamples = some pcm.interleaved ∧
      ∀ op ∈ (alacDecoderDecodeFrame decoder (encodePacket decoder.alacFile coding pcm)
        maxOutputSamples).arithmetic, op.Defined := by
  have ha := haccepted.coded hmodifier
  have hframes := haccepted.frames_le
  have hlimit : alacMaxSamplesPerFrame = 352 := rfl
  have htwo : (2 : UInt64).toNat = 2 := rfl
  have hbytes : (maxOutputSamples * 2).toNat = maxOutputSamples.toNat * 2 := by
    rw [UInt64.toNat_mul, htwo]
    exact Nat.mod_eq_of_lt (by omega)
  have hproduct : decoder.frameLength.toNat * (2 * (c + 1)) =
      decoder.frameLength.toNat * decoder.channels.toNat * 2 := by
    rw [haccepted.channels]
    ring
  have hbuffer : decoder.frameLength.toNat * (2 * (c + 1)) ≤
      min (maxOutputSamples * 2).toNat intMax := by
    have hmax : intMax = 2147483647 := rfl
    have hsmall : decoder.frameLength.toNat * (2 * (c + 1)) ≤ 352 * (2 * (1 + 1)) :=
      Nat.mul_le_mul (by omega) (by have := haccepted.mono_or_stereo; omega)
    rw [hbytes]
    omega
  obtain ⟨residuals, hruns⟩ := runs_decodeFrameOutput ha hc hpos hlength hcoding hfits hbuffer
    (Nat.min_le_right _ _)
  -- the packet is not refused, and its samples fill the size that was checked
  obtain ⟨hdefined, hvalue, hclear, -⟩ := hruns _ (packBits_ahead _)
  have hnonempty := encodePacket_ne_nil decoder.alacFile coding pcm
  have hroom : maxOutputSamples ≠ 0 := by
    rintro rfl
    have hframe := haccepted.frames_pos
    have hchannels := haccepted.channels
    have hproduct' := Nat.mul_pos hframe (by omega : 0 < decoder.channels.toNat)
    exact absurd (hproduct'.trans_le hcapacity) (by decide)
  have hsamples : pcm.length * (2 * (c + 1)) = pcm.length * decoder.channels.toNat * 2 := by
    rw [haccepted.channels]
    ring
  have hfits : pcm.length * decoder.channels.toNat ≤
      decoder.frameLength.toNat * decoder.channels.toNat := Nat.mul_le_mul_right _ hlength
  have hpositive : 0 < pcm.length * decoder.channels.toNat :=
    Nat.mul_pos hpos (by rw [haccepted.channels]; omega)
  have hdecode : alacDecodeFrameOutput decoder.alacFile
      (encodePacket decoder.alacFile coding pcm) (min (maxOutputSamples * 2).toNat intMax : ℕ) =
      (((pcm.length * decoder.channels.toNat * 2 : ℕ) : ℤ), pcm.interleaved) := by
    rw [alacDecodeFrameOutput, if_neg (by rintro (h | h); exacts [hnonempty h, h ha.depth])]
    dsimp only
    rw [encodePacket, hclear, hvalue, if_neg Bool.false_ne_true, ← hsamples]
  refine ⟨?_, ?_⟩
  · rw [alacDecoderDecodeFrameOutput, if_neg]
    · dsimp only
      rw [hdecode, if_neg]
      dsimp only
      rw [Int.toNat_natCast, Nat.mul_div_cancel _ (by decide : 0 < 2), Nat.mul_mod_left]
      omega
    · rintro (hclosed | hempty | hzero)
      · exact Bool.false_ne_true (hclosed.symm.trans haccepted.impl)
      · exact hnonempty hempty
      · exact hroom hzero
  · rw [alacDecoderDecodeFrame_arithmetic haccepted.impl hnonempty hroom,
      alacDecodeFrame_arithmetic hnonempty ha.depth, decodeFrameOutput_log]
    exact hdefined

/-- **The decoder is lossless.** For every 16-bit decoder that `alac_decoder_init` accepts, with
a modifier of `k` for which a value has a code and the shifts are defined, every frame of one
or two channels that is not longer than the negotiated length, and every choice of an encoder
whose Rice modifiers leave the products of the history in `int`, `alac_decoder_decode_frame`
gives back exactly the samples that were encoded, and all arithmetic of the Rice decoding is
defined. -/
theorem alacDecoder_lossless {used used' : ℕ} {fmtp : List UInt32} {framesPerPacket : UInt32}
    {bitDepth channels : UInt8} {sampleRate : UInt32} {decoder : AlacDecoder}
    (hinit : alacDecoderInit used fmtp framesPerPacket bitDepth channels sampleRate =
      (decoder, used', true)) (hdepth : decoder.bitDepth = 16)
    (hmodifier : 1 ≤ (decoder.fmtpByte 5 14).toNat ∧ (decoder.fmtpByte 5 14).toNat ≤ 30)
    {pcm : AlacPcm} (hchannels : pcm.channels + 1 = decoder.channels.toNat)
    (hpos : 0 < pcm.length) (hlength : pcm.length ≤ decoder.frameLength.toNat)
    {coding : FrameCoding} (hcoding : coding.Valid pcm.length)
    (hfits : coding.HistoryFits decoder.alacFile pcm.length) {maxOutputSamples : UInt64}
    (hcapacity : decoder.frameLength.toNat * decoder.channels.toNat ≤ maxOutputSamples.toNat)
    (hsize : maxOutputSamples.toNat < 2 ^ 63) :
    alacDecoderDecodeFrameOutput decoder (encodePacket decoder.alacFile coding pcm)
        maxOutputSamples = some pcm.interleaved ∧
      ∀ op ∈ (alacDecoderDecodeFrame decoder (encodePacket decoder.alacFile coding pcm)
        maxOutputSamples).arithmetic, op.Defined := by
  obtain ⟨c, haccepted⟩ := alacDecoderInit_accepted hinit hdepth
  have hc : pcm.channels = c := by
    have hnum := haccepted.channels
    omega
  exact haccepted.lossless hmodifier hc hpos hlength hcoding hfits hcapacity hsize

/-- A short frame of two channels, with coefficients and weights. -/
theorem alacDecoder_lossless_weighted :
    alacDecoderDecodeFrameOutput (negotiatedDecoder 14)
        (encodePacket (negotiatedDecoder 14).alacFile
          (.compressed 2 3 ⟨9, 4, [160, -190]⟩ ⟨4, 7, [16]⟩)
          (.stereo [(5, -7), (-32768, 32767), (0, 0), (6, -8)])) 704 =
        some [5, -7, -32768, 32767, 0, 0, 6, -8] ∧
      ∀ op ∈ (alacDecoderDecodeFrame (negotiatedDecoder 14)
        (encodePacket (negotiatedDecoder 14).alacFile
          (.compressed 2 3 ⟨9, 4, [160, -190]⟩ ⟨4, 7, [16]⟩)
          (.stereo [(5, -7), (-32768, 32767), (0, 0), (6, -8)])) 704).arithmetic, op.Defined := by
  have hinit : alacDecoderInit 0 [352, 0, 16, 40, 10, 14, 2, 255, 0, 0, 44100] 352 16 2 44100 =
      (negotiatedDecoder 14, 1, true) := by decide
  exact alacDecoder_lossless hinit (by decide) (by decide) (by decide) (by decide) (by decide)
    (by decide) (by decide) (by decide) (by decide)

end PortableAirplay.Audio
