import PortableAirplay.Audio.RiceBounds

/-!
# Negotiated parameters of the Rice decoding

`alac_decoder_init` takes the parameters of the Rice decoding from the `fmtp` line as they
are. The packets built here drive the decoder to its worst: one with a modifier of `k` above
31, and one with `0xffff` in every sample, whose history is `historyPeak`. So the arithmetic
is defined for every packet exactly where the bounds of the parameters hold
(`alac_arithmetic_defined`).
-/

set_option autoImplicit false

namespace PortableAirplay.Audio

open PortableAirplay.Library
open PortableAirplay.Library.Recorded
open PortableAirplay.Protocol

/-! ## Reading known bits -/

/-- The bits come next, and no error has occurred. -/
def BitReader.Ahead (bits : List Bool) (r : BitReader) : Prop :=
  r.decodeError = false ∧ bits <+: (bitsOf r.input).drop r.offset

/-- Fields of given widths in front of other bits. -/
def fieldBits (fields : List (ℕ × ℕ)) (rest : List Bool) : List Bool :=
  fields.foldr (fun field bits => natBits field.1 field.2 ++ bits) rest

section Reading

open BitReader

variable {rest : List Bool}

theorem gives_readbits16 {n v : ℕ} (hn : 0 < n ∧ n ≤ 16) (hv : v < 2 ^ n) :
    Gives (Ahead (natBits n v ++ rest)) (readbits16 n) (UInt32.ofNat v) (Ahead rest) := by
  rintro r ⟨herror, after, hbits⟩
  -- the bits that come next lie within the input
  have hlength := congrArg List.length hbits
  rw [List.length_append, List.length_append, natBits_length, List.length_drop,
    bitsOf_length] at hlength
  have hwindow : ((bitsOf r.input).drop r.offset).take n = natBits n v := by
    rw [← hbits, List.append_assoc, List.take_append_of_le_length (by rw [natBits_length]),
      List.take_of_length_le (by rw [natBits_length])]
  have hpow : (2 : ℕ) ^ n ≤ 2 ^ 16 := Nat.pow_le_pow_right (by decide) hn.2
  have hvalue : readBitsLoop r.input n r.offset 0 = UInt32.ofNat v := by
    apply UInt32.toNat_inj.mp
    rw [readBitsLoop_toNat (by omega) (by rw [UInt32.toNat_zero]; omega), hwindow,
      bitsNat_natBits, UInt32.toNat_zero, Nat.zero_mul, Nat.zero_add, UInt32.toNat_ofNat',
      Nat.mod_eq_of_lt hv, Nat.mod_eq_of_lt (by omega)]
  have hin : ¬ ((n : ℤ) < 0 ∨ (n : ℤ) > 16 ∨ r.decodeError = true ∨
      8 * r.input.length < r.offset + (n : ℤ).toNat) := by
    rw [herror, Int.toNat_natCast]
    rintro (h | h | h | h)
    · omega
    · omega
    · exact Bool.false_ne_true h
    · omega
  rw [readbits16, if_neg hin, Int.toNat_natCast]
  refine ⟨hvalue, herror, after, ?_⟩
  rw [← List.drop_drop, ← hbits, List.append_assoc,
    List.drop_append_of_le_length (by rw [natBits_length]),
    List.drop_of_length_le (by rw [natBits_length]), List.nil_append]

theorem gives_readbits {n v : ℕ} (hn : 0 < n ∧ n ≤ 16) (hv : v < 2 ^ n) :
    Gives (Ahead (natBits n v ++ rest)) (readbits n) (UInt32.ofNat v) (Ahead rest) := by
  rw [readbits, if_neg (by omega), if_neg (by omega)]
  exact gives_readbits16 hn hv

theorem gives_field {n v : ℕ} {fields : List (ℕ × ℕ)} (hn : 0 < n ∧ n ≤ 16) (hv : v < 2 ^ n) :
    Gives (Ahead (fieldBits ((n, v) :: fields) rest)) (readbits n) (UInt32.ofNat v)
      (Ahead (fieldBits fields rest)) := gives_readbits hn hv

theorem gives_decodeError {bits : List Bool} :
    Gives (Ahead bits) decodeError false (Ahead bits) := fun _ h => ⟨h.1, h⟩

/-- The prefix of a value is above the threshold with nine ones. -/
theorem gives_ricePrefix (n : ℕ) {x : ℤ} (hx : x + n ≤ 9) :
    Gives (Ahead (List.replicate n true ++ rest)) (ricePrefix n x) (x + n) (Ahead rest) := by
  have hthreshold : (riceThreshold : ℤ) = 8 := rfl
  induction n generalizing x with
  | zero =>
      rw [Nat.cast_zero, Int.add_zero]
      exact gives_return x
  | succ n ih =>
      rw [ricePrefix, if_pos (by omega)]
      refine Gives.bind (gives_readbits16 (n := 1) (v := 1) ⟨by decide, by decide⟩ (by decide)) ?_
      rw [if_pos (by decide)]
      have hrest := ih (x := x + 1) (by omega)
      have hsum : x + ((n + 1 : ℕ) : ℤ) = x + 1 + n := by omega
      rw [hsum]
      exact hrest

/-- A value of 16 or 17 bits behind such a prefix. -/
theorem gives_entropyDecodeValue {size : ℕ} (hsize : size = 16 ∨ size = 17) (k : ℤ)
    (mask : UInt32) :
    Gives (Ahead (List.replicate 9 true ++ (natBits size 0xffff ++ rest)))
      (entropyDecodeValue size k mask) 0xffff (Ahead rest) := by
  refine (gives_ricePrefix 9 (by decide)).bind ?_
  rw [if_pos (by decide), rawValue]
  rcases hsize with rfl | rfl
  · exact (gives_readbits (by decide) (by decide)).bind ((gives_record _).bind (gives_return _))
  · -- 17 bits are read as 16 and one
    have hsplit : natBits 17 0xffff ++ rest = natBits 16 32767 ++ (natBits 1 1 ++ rest) := by
      rw [← List.append_assoc]
      rfl
    have hread : Gives (Ahead (natBits 17 0xffff ++ rest)) (readbits (17 : ℕ)) 0xffff
        (Ahead rest) := by
      rw [hsplit, readbits, if_neg (by decide), if_pos (by decide)]
      refine (gives_readbits16 (by decide) (by decide)).bind ((gives_record _).bind ?_)
      exact (gives_readbits16 (by decide) (by decide)).bind (gives_return _)
    exact hread.bind ((gives_record _).bind (gives_return _))

end Reading

/-! ## The largest history -/

/-- `n` samples of `0xffff` in `size` bits each. -/
def loudSamples (size : ℕ) : ℕ → List Bool
  | 0 => []
  | n + 1 => List.replicate 9 true ++ (natBits size 0xffff ++ loudSamples size n)

section Loop

open BitReader

variable {c : RiceCoding} {m size : ℕ} {rest : List Bool}

/-- A sample of `0xffff` raises the history to the next peak. -/
theorem gives_riceUpdate (hmult : c.historymult = m) (hpos : 0 < m) (hlimit : m ≤ 512) {count : ℤ}
    {h : ℕ} {output : List ℤ} :
    Gives (Ahead rest) (riceUpdate c ⟨count, h, 0, output⟩ 0xffff)
      (⟨count + 1, historyStep m h, 0, output ++ [finalValue 0xffff]⟩, true) (Ahead rest) := by
  have hproduct : h * m ≤ h * 512 := Nat.mul_le_mul_left h hlimit
  have hstep : historyStep m h = h + 0xffff * m - h * m / 512 := by
    rw [historyStep]
    apply max_eq_right
    omega
  have hupdate : (if (0xffff : ℤ) + 0 > 0xffff then 0xffff else c.updatedHistory h (0xffff + 0)) =
      historyStep m h := by
    rw [if_neg (by decide), hstep]
    exact RiceCoding.updatedHistory_eq hmult hlimit h 0xffff
  have hlarge : 0xffff ≤ historyStep m h := by
    rw [historyStep]
    exact Nat.le_max_left _ _
  rw [riceUpdate]
  refine (gives_record _).bind ?_
  dsimp only
  rw [hupdate, if_neg (by omega)]
  exact gives_return _

theorem gives_ricePass (hmult : c.historymult = m) (hpos : 0 < m) (hlimit : m ≤ 512)
    (hsample : c.readSampleSize = size) (hsize : size = 16 ∨ size = 17) {count : ℤ} {h : ℕ}
    {output : List ℤ} :
    Gives (Ahead (List.replicate 9 true ++ (natBits size 0xffff ++ rest)))
      (ricePass c ⟨count, h, 0, output⟩)
      (⟨count + 1, historyStep m h, 0, output ++ [finalValue 0xffff]⟩, true) (Ahead rest) := by
  rw [ricePass, hsample]
  refine (gives_record _).bind ((gives_entropyDecodeValue hsize _ _).bind ?_)
  refine gives_decodeError.bind ?_
  rw [if_neg Bool.false_ne_true]
  exact gives_riceUpdate hmult hpos hlimit

/-- The product of the history is computed in every pass that decodes a value. -/
theorem shows_ricePass (hmult : c.historymult = m) (hsample : c.readSampleSize = size)
    (hsize : size = 16 ∨ size = 17) {count : ℤ} {h : ℕ} {output : List ℤ} :
    Shows (Ahead (List.replicate 9 true ++ (natBits size 0xffff ++ rest)))
      (ricePass c ⟨count, h, 0, output⟩) (.history (h * m : ℕ)) := by
  have hproduct : Arithmetic.history (h * m : ℕ) ∈ c.updates h (0xffff + 0) := by
    rw [RiceCoding.updates, hmult, Int.natCast_mul]
    simp only [List.mem_cons, true_or, or_true]
  rw [ricePass, hsample]
  refine (gives_record _).shows ((gives_entropyDecodeValue hsize _ _).shows ?_)
  refine gives_decodeError.shows ?_
  rw [if_neg Bool.false_ne_true, riceUpdate]
  exact (shows_record hproduct).first

/-- **The peak is reached**: with samples of `0xffff`, the product in pass `i` is that of the
history after `i` of them. -/
theorem shows_riceLoop (hmult : c.historymult = m) (hpos : 0 < m) (hlimit : m ≤ 512)
    (hsample : c.readSampleSize = size) (hsize : size = 16 ∨ size = 17) (i : ℕ) :
    ∀ (fuel h : ℕ) (count : ℤ) (output : List ℤ), i < fuel → count + i < c.outputSize →
      Shows (Ahead (loudSamples size (i + 1))) (riceLoop c fuel ⟨count, h, 0, output⟩)
        (.history (historyPeak m h i * m : ℕ)) := by
  -- by the pass: the first one raises the history, and the rest starts from there
  induction i with
  | zero =>
      intro fuel h count output hfuel hcount
      obtain ⟨fuel, rfl⟩ : ∃ n, fuel = n + 1 := ⟨fuel - 1, by omega⟩
      rw [riceLoop, if_pos (by dsimp only; omega)]
      exact (shows_ricePass hmult hsample hsize).first
  | succ i ih =>
      intro fuel h count output hfuel hcount
      obtain ⟨fuel, rfl⟩ : ∃ n, fuel = n + 1 := ⟨fuel - 1, by omega⟩
      have hnext := ih fuel (historyStep m h) (count + 1) (output ++ [finalValue 0xffff])
        (by omega) (by omega)
      rw [riceLoop, if_pos (by dsimp only; omega)]
      refine (gives_ricePass hmult hpos hlimit hsample hsize).shows ?_
      rw [if_pos rfl]
      exact hnext

end Loop

/-! ## The header of a frame -/

/-- The prediction header of a channel without coefficients. -/
def predictionFields (modifier : ℕ) : List (ℕ × ℕ) := [(4, 0), (4, 0), (3, modifier), (5, 0)]

/-- A compressed frame with all samples of the session; `c` is 0 for one channel and 1 for two,
and the channels have one Rice modifier. -/
def frameBits (c modifier : ℕ) (samples : List Bool) : List Bool :=
  fieldBits [(3, c), (4, 0), (12, 0), (1, 0), (2, 0), (1, 0), (8, 0), (8, 0)]
    (fieldBits (predictionFields modifier)
      (if c = 0 then samples else fieldBits (predictionFields modifier) samples))

section Frame

open BitReader

variable {a : AlacFile} {c modifier : ℕ} {rest samples : List Bool} {e : Arithmetic}

theorem gives_readPrediction {outputsamples : ℤ} (hpos : 0 < outputsamples)
    (hmodifier : modifier < 8) :
    Gives (Ahead (fieldBits (predictionFields modifier) rest)) (readPrediction outputsamples)
      (some (modifier : ℤ)) (Ahead rest) := by
  have hvalue : (UInt32.ofNat modifier).toNat = modifier := by
    rw [UInt32.toNat_ofNat', Nat.mod_eq_of_lt (by omega)]
  have haccepted : ¬ (UInt32.ofNat 0 ≠ 0 ∨ (UInt32.ofNat 0 ≠ 0 ∧ UInt32.ofNat 0 = 0) ∨
      (UInt32.ofNat 0 ≠ 31 ∧ ((UInt32.ofNat 0).toNat : ℤ) ≥ outputsamples)) := by
    rintro (h | h | h)
    · exact h rfl
    · exact h.1 rfl
    · have hzero : ((UInt32.ofNat 0).toNat : ℤ) = 0 := rfl
      omega
  refine (gives_field (by decide) (by decide)).bind ?_
  refine (gives_field (by decide) (by decide)).bind ?_
  refine (gives_field (by decide) hmodifier).bind ?_
  refine (gives_field (by decide) (by decide)).bind ?_
  rw [if_neg haccepted, hvalue]
  exact Gives.bind (gives_return _) (gives_return _)

/-- What the first channel shows, the frame shows. -/
theorem shows_decodeCompressed (hc : c = 0 ∨ c = 1) {outputsize outputsamples : ℤ}
    (hpos : 0 < outputsamples) (hmodifier : modifier < 8)
    (hshows : Shows (Ahead samples)
      (riceDecodeChannel a outputsamples ((16 + c : ℕ) : ℤ) modifier) e) :
    Shows (Ahead (fieldBits [(8, 0), (8, 0)] (fieldBits (predictionFields modifier)
        (if c = 0 then samples else fieldBits (predictionFields modifier) samples))))
      (decodeCompressed a c outputsize outputsamples ((16 + c : ℕ) : ℤ) 0) e := by
  have hresiduals : ∀ modifiers, Shows (Ahead samples)
      (decodeResiduals a outputsize outputsamples ((16 + c : ℕ) : ℤ) 0
        ((modifier : ℤ) :: modifiers)) e :=
    fun modifiers => Gives.shows (gives_return _) hshows.first.first
  have hinterlacing : ¬ ((c : ℤ) = 1 ∧ (UInt32.ofNat 0).toUInt8 > 31) :=
    fun h => absurd h.2 (by decide)
  refine (gives_field (by decide) (by decide)).shows ?_
  refine (gives_field (by decide) (by decide)).shows ?_
  rw [if_neg hinterlacing]
  refine (gives_readPrediction hpos hmodifier).shows ?_
  -- the second channel has a header of its own in front of the samples
  rcases hc with rfl | rfl
  · exact hresiduals []
  · exact (gives_readPrediction hpos hmodifier).shows (hresiduals _)

theorem shows_decodeSamples (hc : c = 0 ∨ c = 1) (hsize : a.sampleSize = 16)
    {outputsize outputsamples : ℤ} (hpos : 0 < outputsamples) (hmodifier : modifier < 8)
    (hshows : Shows (Ahead samples)
      (riceDecodeChannel a outputsamples ((16 + c : ℕ) : ℤ) modifier) e) :
    Shows (Ahead (fieldBits [(8, 0), (8, 0)] (fieldBits (predictionFields modifier)
        (if c = 0 then samples else fieldBits (predictionFields modifier) samples))))
      (decodeSamples a c outputsize outputsamples 0 false) e := by
  have hreadsample : a.sampleSize - 0 * 8 + (c : ℤ) = ((16 + c : ℕ) : ℤ) := by
    rw [hsize]
    omega
  have hrange : ¬ (((16 + c : ℕ) : ℤ) ≤ 0 ∨ ((16 + c : ℕ) : ℤ) > 32) := by omega
  rw [decodeSamples, hreadsample, if_neg hrange, if_neg Bool.false_ne_true]
  exact shows_decodeCompressed hc hpos hmodifier hshows

/-- **What the first channel shows, a packet shows.** -/
theorem shows_decodeFrame (hc : c = 0 ∨ c = 1) (hchannels : a.numchannels = (c : ℤ) + 1)
    (hsize : a.sampleSize = 16) (hpos : 0 < a.maxSamplesPerFrame) {capacity size : ℤ}
    (hchecked : setOutputSizeChecked a a.maxSamplesPerFrame capacity = some size)
    (hmodifier : modifier < 8)
    (hshows : Shows (Ahead samples)
      (riceDecodeChannel a a.maxSamplesPerFrame ((16 + c : ℕ) : ℤ) modifier) e) :
    Shows (Ahead (frameBits c modifier samples)) (decodeFrame a capacity) e := by
  have hlt : c < 2 ^ 3 := by omega
  have hvalue : (UInt32.ofNat c).toNat = c := by
    rw [UInt32.toNat_ofNat', Nat.mod_eq_of_lt (by omega)]
  have haccepted : ¬ (UInt32.ofNat c > 1 ∨ ((UInt32.ofNat c).toNat : ℤ) + 1 ≠ a.numchannels) := by
    rw [hvalue, hchannels]
    rintro (h | h)
    · rcases hc with rfl | rfl
      · exact absurd h (by decide)
      · exact absurd h (by decide)
    · exact h rfl
  have hzero : UInt32.ofNat 0 = 0 := rfl
  have hclear : ¬ ((0 : UInt32) ≠ 0) := fun h => h rfl
  -- the fields of `frameBits` are read one by one
  refine (gives_field (by decide) hlt).shows ?_
  rw [if_neg haccepted, hchecked, hvalue]
  dsimp only
  rw [decodeChannels]
  refine (gives_field (by decide) (by decide)).shows ?_
  refine (gives_field (by decide) (by decide)).shows ?_
  refine (gives_field (by decide) (by decide)).shows ?_
  refine (gives_field (by decide) (by decide)).shows ?_
  refine (gives_field (by decide) (by decide)).shows ?_
  rw [hzero, if_neg hclear, decide_eq_false hclear, UInt32.toNat_zero, Nat.cast_zero]
  exact shows_decodeSamples hc hsize hpos hmodifier hshows

end Frame

theorem packBits_ahead (bits : List Bool) : BitReader.Ahead bits ⟨packBits bits, 0, false⟩ := by
  refine ⟨rfl, natBits (8 * bytesFor bits.length - bits.length) 0, ?_⟩
  rw [List.drop_zero]
  exact (bitsOf_packBits bits).symm

theorem packBits_ne_nil {b : Bool} {bits : List Bool} : packBits (b :: bits) ≠ [] := by
  intro hempty
  have hlength := packBits_length (b :: bits)
  rw [hempty, List.length_nil, List.length_cons, bytesFor] at hlength
  omega

/-! ## The negotiated parameters -/

/-- The condition on the negotiated parameters of the history. -/
def AlacDecoder.HistoryFits (decoder : AlacDecoder) : Prop :=
  Audio.HistoryFits (decoder.fmtpByte 3 40).toNat (decoder.fmtpByte 4 10).toNat
    decoder.frameLength.toNat

instance (decoder : AlacDecoder) : Decidable decoder.HistoryFits :=
  inferInstanceAs (Decidable (Audio.HistoryFits _ _ _))

/-- What `alac_decoder_init` accepts, of 16-bit samples. -/
structure AlacDecoder.Accepted (decoder : AlacDecoder) (c : ℕ) : Prop where
  impl : decoder.impl = true
  depth : decoder.bitDepth = 16
  channels : decoder.channels.toNat = c + 1
  mono_or_stereo : c = 0 ∨ c = 1
  frames_pos : 0 < decoder.frameLength.toNat
  frames_le : decoder.frameLength.toNat ≤ alacMaxSamplesPerFrame

theorem alacDecoderInit_accepted {used used' : ℕ} {fmtp : List UInt32} {framesPerPacket : UInt32}
    {bitDepth channels : UInt8} {sampleRate : UInt32} {decoder : AlacDecoder}
    (hinit : alacDecoderInit used fmtp framesPerPacket bitDepth channels sampleRate =
      (decoder, used', true)) (hdepth : decoder.bitDepth = 16) : ∃ c, decoder.Accepted c := by
  rw [alacDecoderInit] at hinit
  dsimp only at hinit
  split at hinit
  · exact absurd (congrArg (fun r => r.2.2) hinit) Bool.false_ne_true
  · rename_i hframes
    split at hinit
    · exact absurd (congrArg (fun r => r.2.2) hinit) Bool.false_ne_true
    · have hdecoder := congrArg Prod.fst hinit
      dsimp only at hdecoder
      -- values outside the range are replaced before they reach the decoder
      have hchannels : decoder.channels = if channels = 0 ∨ channels > 2 then 2 else channels := by
        rw [← hdecoder]
        rfl
      have hlength : decoder.frameLength =
          if framesPerPacket = 0 then defaultFramesPerPacket else framesPerPacket := by
        rw [← hdecoder]
        rfl
      have hpos : 0 < decoder.frameLength.toNat := by
        rw [hlength]
        split
        · decide
        · rename_i hzero
          exact Nat.pos_of_ne_zero fun h => hzero (UInt32.toNat_inj.mp h)
      have hle : decoder.frameLength.toNat ≤ alacMaxSamplesPerFrame := by
        rw [← hdecoder]
        exact Nat.not_lt.mp hframes
      have hcount : decoder.channels.toNat = 1 ∨ decoder.channels.toNat = 2 := by
        rw [hchannels]
        split
        · exact Or.inr rfl
        · rename_i hrange
          have hne : channels.toNat ≠ 0 := fun h => hrange (Or.inl (UInt8.toNat_inj.mp h))
          have hle : channels.toNat ≤ 2 :=
            UInt8.le_iff_toNat_le.mp (UInt8.not_lt.mp fun h => hrange (Or.inr h))
          omega
      refine ⟨decoder.channels.toNat - 1, ?_, hdepth, by omega, by omega, hpos, hle⟩
      rw [← hdecoder]

namespace AlacDecoder.Accepted

open BitReader

variable {decoder : AlacDecoder} {c : ℕ} (h : decoder.Accepted c)

include h

/-- A call that decodes records the arithmetic of the frame. -/
theorem arithmetic_defined {ok : Arithmetic → Prop} (hok : ∀ op : Arithmetic, op.Defined → ok op)
    (hmask : ok (.result (2 ^ (decoder.fmtpByte 5 14).toNat)))
    (hmodifier : (decoder.fmtpByte 5 14).toNat ≤ 31) (hfits : decoder.HistoryFits)
    (payload : List UInt8) (maxOutputSamples : UInt64) :
    ∀ op ∈ (alacDecoderDecodeFrame decoder payload maxOutputSamples).arithmetic, ok op := by
  -- the parameters are bytes of the cookie, which bounds them
  have hrange : decoder.alacFile.InRange (decoder.fmtpByte 3 40).toNat
      (decoder.fmtpByte 4 10).toNat decoder.frameLength.toNat :=
    { size := by
        rw [alacFile, h.depth]
        rfl
      mult := rfl
      mult_lt := (decoder.fmtpByte 3 40).toNat_lt
      start := rfl
      start_le := by
        have hbyte := (decoder.fmtpByte 4 10).toNat_lt
        rw [historyLimit]
        omega
      modifier := ⟨Int.natCast_nonneg _, Int.ofNat_le.mpr hmodifier⟩
      samples := rfl
      fits := hfits }
  have hframe := fun outputsize r =>
    (meets_decodeFrame (a := decoder.alacFile) hok hmask hrange outputsize r).1
  have hnone : ∀ op ∈ ([] : List Arithmetic), ok op := fun op hop => absurd hop List.not_mem_nil
  -- a frame that is refused at once does no arithmetic
  have hcall : ∀ outputsize, ∀ op ∈ (alacDecodeFrame decoder.alacFile payload outputsize).2,
      ok op := by
    intro outputsize
    rw [alacDecodeFrame]
    split
    · exact hnone
    · exact hframe outputsize _
  rw [alacDecoderDecodeFrame]
  split
  · exact hnone
  · dsimp only
    split
    · exact hcall _
    · exact hcall _

theorem outputSize : setOutputSizeChecked decoder.alacFile decoder.alacFile.maxSamplesPerFrame
    4096 = some ((decoder.frameLength.toNat : ℤ) * (2 * ((c : ℤ) + 1))) := by
  have hsamples : decoder.alacFile.maxSamplesPerFrame = decoder.frameLength.toNat := rfl
  have hbytes : decoder.alacFile.bytespersample = 2 * ((c : ℤ) + 1) := by
    rw [alacFile, h.depth, h.channels]
    rfl
  have hpos := h.frames_pos
  have hle := h.frames_le
  have hlimit : alacMaxSamplesPerFrame = 352 := rfl
  have hmax : (intMax : ℤ) = 2 ^ 31 - 1 := rfl
  have hrequired : 0 < (decoder.frameLength.toNat : ℤ) * (2 * ((c : ℤ) + 1)) ∧
      (decoder.frameLength.toNat : ℤ) * (2 * ((c : ℤ) + 1)) ≤ 4096 := by
    rcases h.mono_or_stereo with rfl | rfl
    · omega
    · omega
  rw [setOutputSizeChecked, hsamples, if_neg (by omega), hbytes]
  exact if_neg (by omega)

/-- What the first channel of a packet shows is recorded by the call that decodes it. -/
theorem shows_packet {modifier : ℕ} (hmodifier : modifier < 8) {samples : List Bool}
    {e : Arithmetic} (hshows : Shows (Ahead samples) (riceDecodeChannel decoder.alacFile
      decoder.alacFile.maxSamplesPerFrame ((16 + c : ℕ) : ℤ) modifier) e) :
    e ∈ (alacDecoderDecodeFrame decoder (packBits (frameBits c modifier samples))
      2048).arithmetic := by
  have hdepth : decoder.alacFile.samplesize = 16 := by
    rw [alacFile, h.depth]
    rfl
  have hchannels : decoder.alacFile.numchannels = (c : ℤ) + 1 := by
    rw [alacFile, h.channels]
    rfl
  have hsamples : 0 < decoder.alacFile.maxSamplesPerFrame := Int.ofNat_lt.mpr h.frames_pos
  have hframe := shows_decodeFrame h.mono_or_stereo hchannels hdepth hsamples h.outputSize
    hmodifier hshows _ (packBits_ahead (frameBits c modifier samples))
  have hnonempty : packBits (frameBits c modifier samples) ≠ [] := packBits_ne_nil
  have hbuffer : ((min (2048 * 2 : UInt64).toNat intMax : ℕ) : ℤ) = 4096 := by decide
  rw [alacDecoderDecodeFrame_arithmetic h.impl hnonempty (by decide), hbuffer,
    alacDecodeFrame_arithmetic hnonempty hdepth]
  exact hframe

/-- The shift and the mask by the modifier of `k` are computed for every compressed packet. -/
theorem shows_modifier {e : Arithmetic}
    (he : e = .shift (decoder.fmtpByte 5 14).toNat ∨
      e = .result (2 ^ (decoder.fmtpByte 5 14).toNat)) :
    e ∈ (alacDecoderDecodeFrame decoder (packBits (frameBits c 0 [])) 2048).arithmetic := by
  apply h.shows_packet (by decide)
  apply Shows.first
  apply shows_record
  rcases he with rfl | rfl
  · exact List.mem_cons_of_mem _ List.mem_cons_self
  · exact List.mem_cons_of_mem _ (List.mem_cons_of_mem _ List.mem_cons_self)

/-- With samples of `0xffff` and the largest Rice modifier, the last product of the history is
the one of `HistoryFits`. -/
theorem shows_history (hpos : 0 < 7 * (decoder.fmtpByte 3 40).toNat / 4) :
    Arithmetic.history (historyPeak (7 * (decoder.fmtpByte 3 40).toNat / 4)
        (decoder.fmtpByte 4 10).toNat (decoder.frameLength.toNat - 1) *
      (7 * (decoder.fmtpByte 3 40).toNat / 4) : ℕ) ∈
      (alacDecoderDecodeFrame decoder (packBits (frameBits c 7
        (loudSamples (16 + c) (decoder.frameLength.toNat - 1 + 1)))) 2048).arithmetic := by
  have hframes := h.frames_pos
  have hbyte := (decoder.fmtpByte 3 40).toNat_lt
  have hsize : 16 + c = 16 ∨ 16 + c = 17 := by
    have hc := h.mono_or_stereo
    omega
  apply h.shows_packet (by decide)
  refine Gives.shows (gives_record _) ?_
  apply Shows.first
  refine shows_riceLoop rfl hpos (by omega) rfl hsize _ _ _ 0 [] ?_ ?_
  · show decoder.frameLength.toNat - 1 < (decoder.frameLength.toNat : ℤ).toNat
    omega
  · show (0 : ℤ) + (decoder.frameLength.toNat - 1 : ℕ) < (decoder.frameLength.toNat : ℤ)
    omega

/-- The product fits where every history of every packet does. -/
theorem historyFits (hdefined : ∀ payload maxOutputSamples,
    ∀ op ∈ (alacDecoderDecodeFrame decoder payload maxOutputSamples).arithmetic,
      op.isRice = true → op.Defined) : decoder.HistoryFits := by
  rw [AlacDecoder.HistoryFits, Audio.HistoryFits]
  by_cases hzero : 7 * (decoder.fmtpByte 3 40).toNat / 4 = 0
  · -- with no multiplier there are no products
    rw [hzero, Nat.mul_zero]
    decide
  · have hfits := (hdefined _ _ _ (h.shows_history (Nat.pos_of_ne_zero hzero)) rfl).2
    exact_mod_cast hfits

end AlacDecoder.Accepted

/-- **The arithmetic of the decoder and the negotiated parameters.** The shifts of the decoder
and the products and updates of its history are defined for every packet if and only if the
modifier of `k` is at most 31 and the history fits. All arithmetic of the Rice decoding is, the
mask of `decode_frame` included, if and only if the modifier is at most 30. With 27 samples
or more in a packet, the history fits if and only if its multiplier is at most 37. -/
theorem alac_arithmetic_defined {used used' : ℕ} {fmtp : List UInt32} {framesPerPacket : UInt32}
    {bitDepth channels : UInt8} {sampleRate : UInt32} {decoder : AlacDecoder}
    (hinit : alacDecoderInit used fmtp framesPerPacket bitDepth channels sampleRate =
      (decoder, used', true)) (hdepth : decoder.bitDepth = 16) :
    ((∀ payload maxOutputSamples,
        ∀ op ∈ (alacDecoderDecodeFrame decoder payload maxOutputSamples).arithmetic,
          op.isRice = true → op.Defined) ↔
      (decoder.fmtpByte 5 14).toNat ≤ 31 ∧ decoder.HistoryFits) ∧
    ((∀ payload maxOutputSamples,
        ∀ op ∈ (alacDecoderDecodeFrame decoder payload maxOutputSamples).arithmetic, op.Defined) ↔
      (decoder.fmtpByte 5 14).toNat ≤ 30 ∧ decoder.HistoryFits) ∧
    (27 ≤ decoder.frameLength.toNat →
      (decoder.HistoryFits ↔ (decoder.fmtpByte 3 40).toNat ≤ 37)) := by
  obtain ⟨c, haccepted⟩ := alacDecoderInit_accepted hinit hdepth
  refine ⟨⟨fun hdefined => ⟨?_, haccepted.historyFits hdefined⟩, ?_⟩,
    ⟨fun hdefined => ⟨?_, haccepted.historyFits fun payload size op hop _ =>
      hdefined payload size op hop⟩, ?_⟩, fun hframes => ?_⟩
  · have hshift := (hdefined _ _ _ (haccepted.shows_modifier (Or.inl rfl)) rfl).2
    exact_mod_cast hshift
  · rintro ⟨hmodifier, hfits⟩ payload maxOutputSamples op hop hrice
    -- the mask is the one operation that may be undefined here, and it is no shift
    have hbounds := @AlacDecoder.Accepted.arithmetic_defined decoder c haccepted
      (fun op => op.isRice = true → op.Defined) (fun _ hop _ => hop)
      (fun hmask => absurd hmask Bool.false_ne_true) hmodifier hfits
    exact hbounds payload maxOutputSamples op hop hrice
  · have hmask := (hdefined _ _ _ (haccepted.shows_modifier (Or.inr rfl))).2
    by_contra hlarge
    have hpow : (2 : ℤ) ^ 31 ≤ 2 ^ (decoder.fmtpByte 5 14).toNat :=
      pow_le_pow_right₀ (by decide) (by omega)
    exact absurd hmask (Int.not_lt.mpr hpow)
  · rintro ⟨hmodifier, hfits⟩
    have hpow : (2 : ℤ) ^ (decoder.fmtpByte 5 14).toNat ≤ 2 ^ 30 :=
      pow_le_pow_right₀ (by decide) hmodifier
    have hone : (1 : ℤ) ≤ 2 ^ (decoder.fmtpByte 5 14).toNat := one_le_pow₀ (by decide)
    exact haccepted.arithmetic_defined (fun _ hop => hop) ⟨by omega, by omega⟩ (by omega) hfits
  · have hbyte := (decoder.fmtpByte 4 10).toNat_lt
    have hlimit : historyLimit = 512 * 0xffff := rfl
    exact historyFits_iff (decoder.fmtpByte 3 40).toNat_lt (by omega) hframes

/-- The decoder of a session with the parameters of the `fmtp` line as senders write them, and
with another modifier of `k`. -/
def negotiatedDecoder (kmodifier : UInt32) : AlacDecoder :=
  (alacDecoderInit 0 [352, 0, 16, 40, 10, kmodifier, 2, 255, 0, 0, 44100] 352 16 2 44100).1

/-- The usual parameters let a packet drive the history out of its range. -/
theorem alac_arithmetic_defined_usual :
    ¬ ∀ payload maxOutputSamples,
      ∀ op ∈ (alacDecoderDecodeFrame (negotiatedDecoder 14) payload maxOutputSamples).arithmetic,
        op.isRice = true → op.Defined := by
  have hinit : alacDecoderInit 0 [352, 0, 16, 40, 10, 14, 2, 255, 0, 0, 44100] 352 16 2 44100 =
      (negotiatedDecoder 14, 1, true) := by decide
  obtain ⟨hrice, -, hmult⟩ := alac_arithmetic_defined hinit (by decide)
  intro hdefined
  have hsmall := (hmult (by decide)).mp (hrice.mp hdefined).2
  exact absurd hsmall (by decide)

/-- With a modifier of `k` of 32, which the adapter accepts, a packet of one byte shifts by
32. -/
theorem alac_shift_undefined :
    alacDecoderInit 0 [352, 0, 16, 40, 10, 32, 2, 255, 0, 0, 44100] 352 16 2 44100 =
        (negotiatedDecoder 32, 1, true) ∧
      (negotiatedDecoder 32).bitDepth = 16 ∧
      ¬ ∀ op ∈ (alacDecoderDecodeFrame (negotiatedDecoder 32) [0x20] 704).arithmetic,
        op.isRice = true → op.Defined := by
  decide

end PortableAirplay.Audio
