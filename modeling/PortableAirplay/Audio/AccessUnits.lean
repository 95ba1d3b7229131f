import PortableAirplay.Audio.AacDecoding

/-!
# Access units of an AAC packet

The layout of `mpeg4-generic` packets, and which of them `audio_pipeline_decode_aac`
splits as they were packed. The header section is a bit string, and the loop of the
decoder takes fields from its front (`decodeUnits_eq`). Which sizes it finds there does
not depend on the units: that is the relation `SizesFound`.
-/

set_option autoImplicit false

namespace PortableAirplay.Audio

open PortableAirplay.Library
open PortableAirplay.Protocol

/-! ## Fields of a bit string -/

theorem shiftIn_toNat {r : UInt32} (h : r.toNat < 2 ^ 31) (b : UInt8) {k : ℕ} (hk : k < 8) :
    (r <<< 1 ||| b.toUInt32 >>> UInt32.ofNat k &&& 1).toNat =
      r.toNat * 2 + (b.toNat.testBit k).toNat := by
  have hshift : (UInt32.ofNat k).toNat % 32 = k := by
    rw [UInt32.toNat_ofNat']
    omega
  have hleft : (r <<< 1).toNat = r.toNat * 2 ^ 1 := by
    have hone : (1 : UInt32).toNat % 32 = 1 := rfl
    rw [UInt32.toNat_shiftLeft, Nat.shiftLeft_eq, hone]
    exact Nat.mod_eq_of_lt (by omega)
  have hbit : (b.toUInt32 >>> UInt32.ofNat k &&& 1).toNat = (b.toNat.testBit k).toNat := by
    rw [UInt32.toNat_and, UInt32.toNat_shiftRight, hshift, UInt8.toNat_toUInt32,
      Nat.shiftRight_eq_div_pow, Nat.toNat_testBit]
    exact Nat.and_one_is_mod _
  have hlt : (b.toNat.testBit k).toNat < 2 ^ 1 := Nat.lt_succ_of_le (Bool.toNat_le _)
  rw [UInt32.toNat_or, hleft, hbit, or_eq_add hlt]
  rfl

/-- The bits of a byte string from a position on begin with the bit there. -/
theorem bits_window_succ {data : List UInt8} {i : ℕ} (h : i < 8 * data.length) (count : ℕ) :
    ((bitsOf data).drop i).take (count + 1) =
      (byteAt data (i / 8)).toNat.testBit (7 - i % 8) ::
        ((bitsOf data).drop (i + 1)).take count := by
  have hi : i < (bitsOf data).length := by rwa [bitsOf_length]
  have hbit := bitsOf_getElem? h
  rw [List.getElem?_eq_getElem hi] at hbit
  rw [List.drop_eq_getElem_cons hi, List.take_succ_cons, Option.some.inj hbit]

/-- The loop shifts the bits of the window into the result. -/
theorem readBitsLoop_toNat {data : List UInt8} {count i : ℕ} (hin : i + count ≤ 8 * data.length)
    {r : UInt32} (hr : (r.toNat + 1) * 2 ^ count ≤ 2 ^ 32) :
    (readBitsLoop data count i r).toNat =
      r.toNat * 2 ^ count + bitsNat (((bitsOf data).drop i).take count) := by
  induction count generalizing i r with
  | zero =>
      rw [readBitsLoop, List.take_zero, pow_zero, Nat.mul_one]
      rfl
  | succ count ih =>
      rw [pow_succ'] at hr
      have hone : 2 * 1 ≤ 2 * 2 ^ count := Nat.mul_le_mul_left 2 Nat.one_le_two_pow
      have hsmall : r.toNat < 2 ^ 31 := by
        have hle := (Nat.mul_le_mul_left (r.toNat + 1) hone).trans hr
        omega
      have hstep := shiftIn_toNat hsmall (byteAt data (i / 8)) (k := 7 - i % 8) (by omega)
      have hbit := Bool.toNat_le ((byteAt data (i / 8)).toNat.testBit (7 - i % 8))
      have hnext : (r.toNat * 2 + ((byteAt data (i / 8)).toNat.testBit (7 - i % 8)).toNat + 1) *
          2 ^ count ≤ 2 ^ 32 := by
        rw [← Nat.mul_assoc] at hr
        exact (Nat.mul_le_mul_right _ (by omega)).trans hr
      have hwindow : (((bitsOf data).drop (i + 1)).take count).length = count := by
        rw [List.length_take, List.length_drop, bitsOf_length]
        omega
      rw [readBitsLoop, ih (by omega) (by rwa [hstep]), hstep,
        bits_window_succ (by omega), bitsNat_cons, hwindow]
      ring

/-- A field is taken from the front of a bit string. -/
def takeField (bits : List Bool) (count : ℕ) : Option (ℕ × List Bool) :=
  if count > 24 ∨ count > bits.length then none
  else some (bitsNat (bits.take count), bits.drop count)

theorem takeField_eq_some {bits rest : List Bool} {count value : ℕ} :
    takeField bits count = some (value, rest) ↔
      count ≤ 24 ∧ count ≤ bits.length ∧ value = bitsNat (bits.take count) ∧
        rest = bits.drop count := by
  rw [takeField]
  by_cases h : count > 24 ∨ count > bits.length
  · rw [if_pos h]
    constructor
    · intro hsome
      contradiction
    · rintro ⟨hwidth, hlength, -⟩
      omega
  · rw [if_neg h, Option.some.injEq, Prod.mk.injEq]
    constructor
    · rintro ⟨rfl, rfl⟩
      exact ⟨by omega, by omega, rfl, rfl⟩
    · rintro ⟨-, -, rfl, rfl⟩
      exact ⟨rfl, rfl⟩

theorem takeField_natBits {width : ℕ} (h : width ≤ 24) (n : ℕ) (rest : List Bool) :
    takeField (natBits width n ++ rest) width = some (n % 2 ^ width, rest) := by
  have htake : (natBits width n ++ rest).take width = natBits width n :=
    List.take_left' (natBits_length width n)
  have hdrop : (natBits width n ++ rest).drop width = rest :=
    List.drop_left' (natBits_length width n)
  rw [takeField_eq_some, htake, hdrop, bitsNat_natBits, List.length_append, natBits_length]
  exact ⟨h, Nat.le_add_right _ _, rfl, rfl⟩

/-- The bits that the headers of a packet occupy. -/
def headerStream (headers : List UInt8) (headerBits : ℕ) : List Bool :=
  (bitsOf headers).take headerBits

section Reading

variable {headers : List UInt8} {headerBits bitOffset count : ℕ}

theorem headerStream_length (h : headerBits ≤ 8 * headers.length) :
    (headerStream headers headerBits).length = headerBits := by
  rw [headerStream, List.length_take, bitsOf_length, Nat.min_eq_left h]

theorem readBits_none (h : headerBits ≤ 8 * headers.length)
    (hnone : takeField ((headerStream headers headerBits).drop bitOffset) count = none) :
    audioPipelineReadBits headers headerBits bitOffset count = none := by
  rw [takeField, List.length_drop, headerStream_length h] at hnone
  rw [audioPipelineReadBits]
  by_cases hrefused : count > 24 ∨ count > headerBits - bitOffset
  · rw [if_pos (by omega)]
  · rw [if_neg hrefused] at hnone
    contradiction

/-- **A field is read at the offset as from the front of the bits there.** -/
theorem readBits_some (h : headerBits ≤ 8 * headers.length) (hoffset : bitOffset ≤ headerBits)
    {value : ℕ} {rest : List Bool}
    (hsome : takeField ((headerStream headers headerBits).drop bitOffset) count =
      some (value, rest)) :
    ∃ read, audioPipelineReadBits headers headerBits bitOffset count =
        some (read, bitOffset + count) ∧ read.toNat = value ∧
      rest = (headerStream headers headerBits).drop (bitOffset + count) ∧
        bitOffset + count ≤ headerBits := by
  rw [takeField_eq_some, List.length_drop, headerStream_length h, List.drop_drop] at hsome
  obtain ⟨hwidth, hlength, hvalue, hrest⟩ := hsome
  refine ⟨readBitsLoop headers count bitOffset 0, ?_, ?_, hrest, by omega⟩
  · rw [audioPipelineReadBits, if_neg (by omega)]
  · have hroom : ((0 : UInt32).toNat + 1) * 2 ^ count ≤ 2 ^ 32 := by
      rw [UInt32.toNat_zero, Nat.zero_add, Nat.one_mul]
      exact Nat.pow_le_pow_right (by omega) (by omega)
    have hwindow : ((headerStream headers headerBits).drop bitOffset).take count =
        ((bitsOf headers).drop bitOffset).take count := by
      rw [headerStream, List.drop_take, List.take_take, Nat.min_eq_left hlength]
    rw [readBitsLoop_toNat (by omega) hroom, UInt32.toNat_zero, Nat.zero_mul, Nat.zero_add, hvalue,
      hwindow]

end Reading

/-! ## The loop over a bit string -/

/-- The negotiated widths of the fields of a header. -/
structure FieldWidths where
  size : ℕ
  index : ℕ
  indexDelta : ℕ

/-- The widths of a session. -/
def AudioPipeline.fieldWidths (p : AudioPipeline) : FieldWidths where
  size := p.session.aacSizeLength.toNat
  index := p.session.aacIndexLength.toNat
  indexDelta := p.session.aacIndexDeltaLength.toNat

/-- What the loop reads before a unit: the size, and an index that it ignores. -/
def takeSize (w : FieldWidths) (bits : List Bool) : Option (ℕ × List Bool) :=
  match takeField bits w.size with
  | none => none
  | some (size, bits) => (takeField bits w.index).map fun field => (size, field.2)

/-- What the loop reads after a unit when bits are left. -/
def skipDelta (w : FieldWidths) (bits : List Bool) : Option (List Bool) :=
  if bits = [] then some [] else (takeField bits w.indexDelta).map Prod.snd

/-- After a unit, the decoder and the bit string agree on where the next header begins. -/
theorem skipDelta_cases {headers : List UInt8} {headerBits bitOffset : ℕ} (w : FieldWidths)
    (h : headerBits ≤ 8 * headers.length) (hoffset : bitOffset ≤ headerBits) :
    ((if bitOffset < headerBits then
          (audioPipelineReadBits headers headerBits bitOffset w.indexDelta).map Prod.snd
        else some bitOffset) = none ∧
      skipDelta w ((headerStream headers headerBits).drop bitOffset) = none) ∨
    ∃ offset, (if bitOffset < headerBits then
          (audioPipelineReadBits headers headerBits bitOffset w.indexDelta).map Prod.snd
        else some bitOffset) = some offset ∧
      skipDelta w ((headerStream headers headerBits).drop bitOffset) =
        some ((headerStream headers headerBits).drop offset) ∧ offset ≤ headerBits := by
  have hempty : (headerStream headers headerBits).drop bitOffset = [] ↔ headerBits ≤ bitOffset := by
    rw [List.drop_eq_nil_iff, headerStream_length h]
  rw [skipDelta]
  by_cases hmore : bitOffset < headerBits
  · rw [if_pos hmore, if_neg (by rw [hempty]; omega)]
    cases hfield : takeField ((headerStream headers headerBits).drop bitOffset) w.indexDelta with
    | none => exact .inl ⟨by rw [readBits_none h hfield]; rfl, rfl⟩
    | some field =>
        obtain ⟨read, hread, -, hrest, hle⟩ := readBits_some h hoffset hfield
        refine .inr ⟨bitOffset + w.indexDelta, by rw [hread]; rfl, ?_, hle⟩
        rw [Option.map_some, hrest]
  · have hdone : (headerStream headers headerBits).drop bitOffset = [] := hempty.mpr (by omega)
    rw [if_neg hmore, if_pos hdone]
    exact .inr ⟨bitOffset, rfl, by rw [hdone], hoffset⟩

section Loop

variable {σ : Type} (lib : AacLibrary σ) (p : AudioPipeline)

/-- One unit of the given size is passed to the decoder, and the loop goes on. -/
def passUnit (s : σ) (size : ℕ) (frames : List UInt8) (output : List Int16)
    (next : σ → List UInt8 → List Int16 → AacRun σ) : AacRun σ :=
  if size > frames.length ∨ output.length ≥ maxAudioBufferSamples then ⟨s, [], none⟩
  else
    let r := aacDecoderDecode lib p.aacDecoder s (frames.take size)
      (maxAudioBufferSamples - output.length)
    match r.2 with
    | none => ⟨r.1, [frames.take size], none⟩
    | some decoded =>
        (next r.1 (frames.drop size) (output ++ decoded)).after (frames.take size)

/-- The loop of `audio_pipeline_decode_aac` with the headers as a bit string. -/
def unitsOver : ℕ → σ → List Bool → List UInt8 → List Int16 → AacRun σ
  | 0, s, _, _, _ => ⟨s, [], none⟩
  | fuel + 1, s, bits, frames, output =>
      if bits = [] then ⟨s, [], finishPacket frames output⟩
      else
        match takeSize p.fieldWidths bits with
        | none => ⟨s, [], none⟩
        | some (size, bits) =>
            passUnit lib p s size frames output fun s frames output =>
              match skipDelta p.fieldWidths bits with
              | none => ⟨s, [], none⟩
              | some bits => unitsOver fuel s bits frames output

/-- **The loop over offsets is the loop over the bits from there on.** -/
theorem decodeUnits_eq {headers : List UInt8} {headerBits : ℕ}
    (h : headerBits ≤ 8 * headers.length) (fuel : ℕ) (s : σ) {bitOffset : ℕ}
    (hoffset : bitOffset ≤ headerBits) (frames : List UInt8) (output : List Int16) :
    decodeUnits lib p headers headerBits fuel s bitOffset frames output =
      unitsOver lib p fuel s ((headerStream headers headerBits).drop bitOffset) frames output := by
  induction fuel generalizing s bitOffset frames output with
  | zero => rfl
  | succ fuel ih =>
      -- the bits run out exactly at the end of the header section
      have hempty : ∀ {offset : ℕ}, (headerStream headers headerBits).drop offset = [] ↔
          offset ≥ headerBits := by
        intro offset
        rw [List.drop_eq_nil_iff, headerStream_length h]
      rw [decodeUnits, unitsOver]
      by_cases hdone : bitOffset ≥ headerBits
      · rw [if_pos hdone, if_pos (hempty.mpr hdone)]
      · rw [if_neg hdone, if_neg (mt hempty.mp hdone), takeSize]
        dsimp only [AudioPipeline.fieldWidths]
        -- size, index and delta are read from one offset to the next
        cases hsize : takeField ((headerStream headers headerBits).drop bitOffset)
            p.session.aacSizeLength.toNat with
        | none => rw [readBits_none h hsize]
        | some field =>
            obtain ⟨read, hread, hvalue, hrest, hle⟩ := readBits_some h hoffset hsize
            rw [hread]
            dsimp only
            rw [hrest]
            cases hindex : takeField
                ((headerStream headers headerBits).drop (bitOffset + p.session.aacSizeLength.toNat))
                p.session.aacIndexLength.toNat with
            | none =>
                rw [readBits_none h hindex]
                rfl
            | some index =>
                obtain ⟨_, hread', -, hrest', hle'⟩ := readBits_some h hle hindex
                rw [hread', Option.map_some]
                dsimp only
                rw [passUnit, ← hvalue, hrest']
                by_cases hrefused : read.toNat > frames.length ∨
                    output.length ≥ maxAudioBufferSamples
                · rw [if_pos hrefused, if_pos hrefused]
                · rw [if_neg hrefused, if_neg hrefused]
                  generalize aacDecoderDecode lib p.aacDecoder s (frames.take read.toNat)
                    (maxAudioBufferSamples - output.length) = r
                  obtain ⟨s', _ | decoded⟩ := r
                  · rfl
                  · dsimp only
                    obtain ⟨hnext, hskip⟩ | ⟨offset, hnext, hskip, hle''⟩ :=
                      skipDelta_cases p.fieldWidths h hle'
                    · dsimp only [AudioPipeline.fieldWidths] at hnext hskip
                      rw [hnext, hskip]
                      rfl
                    · dsimp only [AudioPipeline.fieldWidths] at hnext hskip
                      rw [hnext, hskip]
                      dsimp only
                      rw [ih _ hle'']

/-- A unit of a successful run has the announced size, is decoded and leaves the rest of
the bytes to the run behind it. -/
theorem passUnit_isSome {s : σ} {size : ℕ} {frames : List UInt8} {output : List Int16}
    {next : σ → List UInt8 → List Int16 → AacRun σ}
    (h : (passUnit lib p s size frames output next).result.isSome = true) :
    ∃ s' decoded, size ≤ frames.length ∧ frames.take size ≠ [] ∧
      (next s' (frames.drop size) (output ++ decoded)).result.isSome = true ∧
      (passUnit lib p s size frames output next).units =
        frames.take size :: (next s' (frames.drop size) (output ++ decoded)).units := by
  rw [passUnit] at h ⊢
  by_cases hrefused : size > frames.length ∨ output.length ≥ maxAudioBufferSamples
  · rw [if_pos hrefused] at h
    contradiction
  · rw [if_neg hrefused] at h ⊢
    cases hdecoded : aacDecoderDecode lib p.aacDecoder s (frames.take size)
        (maxAudioBufferSamples - output.length) with
    | mk s' result =>
        rw [hdecoded] at h
        cases result with
        | none => contradiction
        | some decoded =>
            obtain ⟨hunit, -, -⟩ := aacDecoderDecode_some lib (congrArg Prod.snd hdecoded)
            exact ⟨s', decoded, by omega, hunit, h, rfl⟩

/-- A unit that is decoded is passed, and the loop goes on behind it. -/
theorem passUnit_of_decoded {s : σ} {unit rest : List UInt8} {output decoded : List Int16}
    {next : σ → List UInt8 → List Int16 → AacRun σ}
    (h : (aacDecoderDecode lib p.aacDecoder s unit (maxAudioBufferSamples - output.length)).2 =
      some decoded) :
    passUnit lib p s unit.length (unit ++ rest) output next =
      (next (aacDecoderDecode lib p.aacDecoder s unit (maxAudioBufferSamples - output.length)).1
        rest (output ++ decoded)).after unit := by
  obtain ⟨-, hpos, hroom⟩ := aacDecoderDecode_some lib h
  have hroom' : ¬(unit.length > (unit ++ rest).length ∨
      output.length ≥ maxAudioBufferSamples) := by
    rw [List.length_append]
    omega
  rw [passUnit, if_neg hroom', List.take_left, List.drop_left]
  dsimp only
  rw [h]

end Loop

/-! ## The sizes that the loop finds -/

/-- The sizes that the loop reads from a bit string, if every unit is decoded. -/
inductive SizesFound (w : FieldWidths) : List Bool → List ℕ → Prop
  | done : SizesFound w [] []
  | unit {bits rest next : List Bool} {size : ℕ} {sizes : List ℕ} (hbits : bits ≠ [])
      (hsize : takeSize w bits = some (size, rest)) (hnext : skipDelta w rest = some next)
      (hsizes : SizesFound w next sizes) : SizesFound w bits (size :: sizes)

theorem SizesFound.unique {w : FieldWidths} {bits : List Bool} {sizes sizes' : List ℕ}
    (h : SizesFound w bits sizes) (h' : SizesFound w bits sizes') : sizes = sizes' := by
  induction h generalizing sizes' with
  | done =>
      cases h' with
      | done => rfl
      | unit hbits => contradiction
  | unit hbits hsize hnext _ ih =>
      cases h' with
      | done => contradiction
      | unit _ hsize' hnext' hsizes' =>
          rw [hsize, Option.some.injEq, Prod.mk.injEq] at hsize'
          obtain ⟨rfl, rfl⟩ := hsize'
          rw [hnext, Option.some.injEq] at hnext'
          subst hnext'
          rw [ih hsizes']

section Runs

variable {σ : Type} (lib : AacLibrary σ) (p : AudioPipeline)

/-- Each of the units is decoded, into what the ones before it leave of the buffer. -/
def DecodesAll (decoder : AacDecoder) : σ → ℕ → List (List UInt8) → Prop
  | _, _, [] => True
  | s, written, unit :: units =>
      ∃ decoded, (aacDecoderDecode lib decoder s unit (maxAudioBufferSamples - written)).2 =
          some decoded ∧
        DecodesAll decoder
          (aacDecoderDecode lib decoder s unit (maxAudioBufferSamples - written)).1
          (written + decoded.length) units

/-- **A successful run has split the bytes at the sizes found.** -/
theorem unitsOver_sound {fuel : ℕ} {s : σ} {bits : List Bool} {frames : List UInt8}
    {output : List Int16}
    (h : (unitsOver lib p fuel s bits frames output).result.isSome = true) :
    SizesFound p.fieldWidths bits
        ((unitsOver lib p fuel s bits frames output).units.map List.length) ∧
      (unitsOver lib p fuel s bits frames output).units.flatten = frames ∧
      ∀ unit ∈ (unitsOver lib p fuel s bits frames output).units, unit ≠ [] := by
  induction fuel generalizing s bits frames output with
  | zero => contradiction
  | succ fuel ih =>
      rw [unitsOver] at h ⊢
      by_cases hbits : bits = []
      · rw [if_pos hbits] at h ⊢
        dsimp only at h ⊢
        have hframes : frames = [] := by
          by_contra hne
          rw [finishPacket, if_pos (.inl hne)] at h
          contradiction
        subst hbits hframes
        exact ⟨.done, rfl, fun unit hunit => absurd hunit List.not_mem_nil⟩
      · rw [if_neg hbits] at h ⊢
        cases hsize : takeSize p.fieldWidths bits with
        | none =>
            rw [hsize] at h
            contradiction
        | some found =>
            obtain ⟨size, rest⟩ := found
            rw [hsize] at h
            dsimp only at h ⊢
            obtain ⟨s', decoded, hle, hunit, hrun, hunits⟩ := passUnit_isSome lib p h
            rw [hunits]
            cases hskip : skipDelta p.fieldWidths rest with
            | none =>
                rw [hskip] at hrun
                contradiction
            | some next =>
                rw [hskip] at hrun
                dsimp only at hrun ⊢
                -- this unit is taken off the front of what the run decodes
                obtain ⟨hsizes, hflat, hunits'⟩ := ih hrun
                refine ⟨?_, ?_, ?_⟩
                · rw [List.map_cons, List.length_take_of_le hle]
                  exact .unit hbits hsize hskip hsizes
                · rw [List.flatten_cons, hflat, List.take_append_drop]
                · intro unit hmem
                  rcases List.mem_cons.mp hmem with rfl | hmem'
                  · exact hunit
                  · exact hunits' unit hmem'

/-- **Units of the sizes found are passed one by one.** -/
theorem unitsOver_complete {units : List (List UInt8)} {bits : List Bool} {fuel : ℕ} {s : σ}
    {output : List Int16} (hdecodes : DecodesAll lib p.aacDecoder s output.length units)
    (hsizes : SizesFound p.fieldWidths bits (units.map List.length))
    (hfuel : units.flatten.length < fuel) (hsome : output ≠ [] ∨ units ≠ []) :
    (unitsOver lib p fuel s bits units.flatten output).units = units ∧
      (unitsOver lib p fuel s bits units.flatten output).result.isSome = true := by
  induction units generalizing bits fuel s output with
  | nil =>
      obtain ⟨fuel, rfl⟩ : ∃ n, fuel = n + 1 := ⟨fuel - 1, by omega⟩
      rw [List.map_nil] at hsizes
      cases hsizes
      have houtput : output ≠ [] := hsome.resolve_right fun hne => hne rfl
      rw [unitsOver, if_pos rfl, List.flatten_nil, finishPacket, if_neg]
      · exact ⟨rfl, rfl⟩
      · rintro (hframes | hempty)
        · exact hframes rfl
        · exact houtput hempty
  | cons unit units ih =>
      obtain ⟨fuel, rfl⟩ : ∃ n, fuel = n + 1 := ⟨fuel - 1, by omega⟩
      obtain ⟨decoded, hdecoded, hrest⟩ := hdecodes
      obtain ⟨hunit, hpos, -⟩ := aacDecoderDecode_some lib hdecoded
      rw [List.map_cons] at hsizes
      cases hsizes with
      | unit hbits hsize hnext hsizes' =>
          rw [List.flatten_cons, List.length_append] at hfuel
          have hlength := List.length_pos_iff.mpr hunit
          have hfuel' : units.flatten.length < fuel := by omega
          rw [unitsOver, if_neg hbits, hsize, List.flatten_cons]
          dsimp only
          rw [passUnit_of_decoded lib p hdecoded, hnext]
          dsimp only
          have hne : output ++ decoded ≠ [] := by
            apply List.ne_nil_of_length_pos
            rw [List.length_append]
            omega
          -- the units that follow are decoded behind these samples
          obtain ⟨hunits, hresult⟩ := ih (by rwa [List.length_append]) hsizes' hfuel'
            (.inl hne)
          exact ⟨by rw [AacRun.after, hunits], hresult⟩

end Runs

/-! ## What the sizes found say about the bits -/

section Layout

variable {w : FieldWidths}

theorem takeSize_eq_some {bits rest : List Bool} {size : ℕ} :
    takeSize w bits = some (size, rest) ↔
      w.size ≤ 24 ∧ w.index ≤ 24 ∧ w.size + w.index ≤ bits.length ∧
        size = bitsNat (bits.take w.size) ∧ rest = bits.drop (w.size + w.index) := by
  rw [takeSize]
  cases hfield : takeField bits w.size with
  | none =>
      dsimp only
      constructor
      · intro hsome
        contradiction
      · rintro ⟨hwidth, -, hlength, -⟩
        -- the size itself does not fit
        rw [takeField, if_neg (by omega)] at hfield
        contradiction
  | some field =>
      obtain ⟨hwidth, hlength, hsize, hrest⟩ := takeField_eq_some.mp hfield
      dsimp only
      cases hindex : takeField field.2 w.index with
      | none =>
          constructor
          · intro hsome
            contradiction
          · rintro ⟨-, hwidth', hlength', -⟩
            -- the size fits, the index behind it does not
            rw [takeField, hrest, List.length_drop, if_neg (by omega)] at hindex
            contradiction
      | some index =>
          obtain ⟨hwidth', hlength', -, hrest'⟩ := takeField_eq_some.mp hindex
          rw [hrest, List.length_drop] at hlength'
          rw [hrest, List.drop_drop] at hrest'
          rw [Option.map_some, Option.some.injEq, Prod.mk.injEq, hsize, hrest']
          constructor
          · rintro ⟨rfl, rfl⟩
            exact ⟨hwidth, hwidth', by omega, rfl, rfl⟩
          · rintro ⟨-, -, -, rfl, rfl⟩
            exact ⟨rfl, rfl⟩

theorem skipDelta_eq_some {bits next : List Bool} (hbits : bits ≠ []) :
    skipDelta w bits = some next ↔
      w.indexDelta ≤ 24 ∧ w.indexDelta ≤ bits.length ∧ next = bits.drop w.indexDelta := by
  rw [skipDelta, if_neg hbits, takeField]
  by_cases h : w.indexDelta > 24 ∨ w.indexDelta > bits.length
  · rw [if_pos h]
    constructor
    · intro hsome
      contradiction
    · rintro ⟨hwidth, hlength, -⟩
      omega
  · rw [if_neg h, Option.map_some, Option.some.injEq]
    constructor
    · rintro rfl
      exact ⟨by omega, by omega, rfl⟩
    · rintro ⟨-, -, rfl⟩
      rfl

/-- What the bits must have had for some sizes to be found: fields of at most 24 bits, and
room for all of them. -/
structure FieldsFit (w : FieldWidths) (bits : List Bool) (sizes : List ℕ) : Prop where
  size : w.size ≤ 24
  index : w.index ≤ 24
  indexDelta : 2 ≤ sizes.length → w.indexDelta ≤ 24
  room : sizes.length * (w.size + w.index) + (sizes.length - 1) * w.indexDelta ≤ bits.length
  bound : ∀ size ∈ sizes, size < 2 ^ w.size

theorem SizesFound.fieldsFit {bits : List Bool} {sizes : List ℕ} (h : SizesFound w bits sizes)
    (hne : sizes ≠ []) : FieldsFit w bits sizes := by
  induction h with
  | done => contradiction
  | @unit bits rest next size sizes hbits hsize hnext hsizes ih =>
      obtain ⟨hwidth, hwidth', hlength, hvalue, hrest⟩ := takeSize_eq_some.mp hsize
      have hbound : size < 2 ^ w.size := by
        have hlt := bitsNat_lt (bits.take w.size)
        rwa [List.length_take_of_le (by omega), ← hvalue] at hlt
      -- no delta follows the last size
      by_cases hlast : sizes = []
      · subst hlast
        refine ⟨hwidth, hwidth', ?_, ?_, ?_⟩
        · rw [List.length_singleton]
          omega
        · rw [List.length_singleton]
          omega
        · intro found hfound
          rw [List.mem_singleton] at hfound
          rwa [hfound]
      · -- sizes that follow have bits of their own
        have hmore : rest ≠ [] := by
          rintro rfl
          rw [skipDelta, if_pos rfl, Option.some.injEq] at hnext
          subst hnext
          cases hsizes with
          | done => exact hlast rfl
          | unit hbits' => exact hbits' rfl
        have hfit := ih hlast
        obtain ⟨hdelta, hdelta', hnext'⟩ := (skipDelta_eq_some hmore).mp hnext
        have hroom := hfit.room
        obtain ⟨k, hk⟩ : ∃ k, sizes.length = k + 1 :=
          ⟨sizes.length - 1, by have := List.length_pos_iff.mpr hlast; omega⟩
        rw [hnext', hrest, List.length_drop, List.length_drop, hk] at hroom
        rw [hrest, List.length_drop] at hdelta'
        refine ⟨hwidth, hwidth', fun _ => hdelta, ?_, ?_⟩
        · rw [List.length_cons, hk, Nat.add_sub_cancel, Nat.succ_mul (k + 1) (w.size + w.index),
            Nat.succ_mul k w.indexDelta]
          rw [Nat.add_sub_cancel] at hroom
          omega
        · intro found hfound
          rcases List.mem_cons.mp hfound with rfl | hfound'
          · exact hbound
          · exact hfit.bound found hfound'

end Layout

/-! ## Packed headers -/

/-- The header of a unit: its size, and its index or the difference to the one before. -/
structure AuHeader where
  size : ℕ
  index : ℕ

/-- A header behind the first. -/
def AuHeader.laterBits (w : FieldWidths) (h : AuHeader) : List Bool :=
  natBits w.size h.size ++ natBits w.indexDelta h.index

/-- The header section of a packet. -/
def headerSection (w : FieldWidths) : List AuHeader → List Bool
  | [] => []
  | h :: later =>
      natBits w.size h.size ++ (natBits w.index h.index ++ later.flatMap (AuHeader.laterBits w))

/-- A packet: the length of the header section in bits, the section filled up to a byte,
and the units back to back. -/
def packAccessUnits (w : FieldWidths) (headers : List AuHeader) (body : List UInt8) : List UInt8 :=
  beBytes 2 (headerSection w headers).length ++ (packBits (headerSection w headers) ++ body)

/-- The size that the decoder sees in a header behind the first where indices have no
bits: it takes the index difference from the front of the header. -/
def AuHeader.sizeSeen (w : FieldWidths) (h : AuHeader) : ℕ :=
  (h.size * 2 ^ w.indexDelta + h.index % 2 ^ w.indexDelta) % 2 ^ w.size

/-- The header sections that the decoder reads as they were packed: fields of at most 24
bits, and either one header, or no bits for an index and later headers that begin with
their size also after an index difference. -/
def Readable (w : FieldWidths) (headers : List AuHeader) : Prop :=
  w.size ≤ 24 ∧ w.index ≤ 24 ∧
    (headers.length = 1 ∨
      w.index = 0 ∧ w.indexDelta ≤ 24 ∧ ∀ h ∈ headers.tail, h.sizeSeen w = h.size)

instance (w : FieldWidths) (headers : List AuHeader) : Decidable (Readable w headers) :=
  inferInstanceAs (Decidable (_ ∧ _ ∧ (_ ∨ _ ∧ _ ∧ _)))

section Packed

variable {w : FieldWidths}

theorem headerSection_length (h : AuHeader) (later : List AuHeader) :
    (headerSection w (h :: later)).length =
      w.size + w.index + later.length * (w.size + w.indexDelta) := by
  have hlater : (later.flatMap (AuHeader.laterBits w)).length =
      later.length * (w.size + w.indexDelta) := by
    rw [List.length_flatMap]
    have hall : later.map (fun h => (AuHeader.laterBits w h).length) =
        List.replicate later.length (w.size + w.indexDelta) := by
      rw [List.eq_replicate_iff]
      constructor
      · rw [List.length_map]
      · intro n hn
        obtain ⟨h, -, rfl⟩ := List.mem_map.mp hn
        rw [AuHeader.laterBits, List.length_append, natBits_length, natBits_length]
    rw [hall, List.sum_replicate_nat]
  rw [headerSection, List.length_append, List.length_append, natBits_length, natBits_length, hlater]
  omega

theorem natBits_append_ne_nil {width : ℕ} (h : 0 < width) (n : ℕ) (rest : List Bool) :
    natBits width n ++ rest ≠ [] := by
  apply List.ne_nil_of_length_pos
  rw [List.length_append, natBits_length]
  omega

theorem takeSize_natBits (hsize : w.size ≤ 24) (hindex : w.index ≤ 24) (n x : ℕ)
    (rest : List Bool) :
    takeSize w (natBits w.size n ++ (natBits w.index x ++ rest)) = some (n % 2 ^ w.size, rest) := by
  rw [takeSize, takeField_natBits hsize]
  dsimp only
  rw [takeField_natBits hindex]
  rfl

/-- A header behind the first is as many bits from another angle: an index difference, and
the size that the decoder sees. -/
theorem laterBits_eq (h : AuHeader) :
    h.laterBits w =
      natBits w.indexDelta ((h.size * 2 ^ w.indexDelta + h.index % 2 ^ w.indexDelta) / 2 ^ w.size) ++
        natBits w.size (h.size * 2 ^ w.indexDelta + h.index % 2 ^ w.indexDelta) := by
  have hlt : h.index % 2 ^ w.indexDelta < 2 ^ w.indexDelta :=
    Nat.mod_lt _ (Nat.two_pow_pos w.indexDelta)
  have hquotient : (h.size * 2 ^ w.indexDelta + h.index % 2 ^ w.indexDelta) / 2 ^ w.indexDelta =
      h.size := by
    rw [Nat.add_comm, Nat.add_mul_div_right _ _ (Nat.two_pow_pos w.indexDelta),
      Nat.div_eq_of_lt hlt, Nat.zero_add]
  have hremainder : natBits w.indexDelta
      (h.size * 2 ^ w.indexDelta + h.index % 2 ^ w.indexDelta) = natBits w.indexDelta h.index := by
    rw [← natBits_mod (Nat.le_refl w.indexDelta), Nat.add_comm, Nat.add_mul_mod_self_right,
      Nat.mod_mod, natBits_mod (Nat.le_refl w.indexDelta)]
  have hleft := natBits_add w.size w.indexDelta
    (h.size * 2 ^ w.indexDelta + h.index % 2 ^ w.indexDelta)
  rw [hquotient, hremainder] at hleft
  rw [AuHeader.laterBits, ← hleft, Nat.add_comm, natBits_add]

/-- Of one header the size is found. -/
theorem sizesFound_one (hpos : 0 < w.size) (hsize : w.size ≤ 24) (hindex : w.index ≤ 24)
    (n x : ℕ) : SizesFound w (natBits w.size n ++ (natBits w.index x ++ [])) [n % 2 ^ w.size] :=
  .unit (natBits_append_ne_nil hpos n _) (takeSize_natBits hsize hindex n x []) (if_pos rfl) .done

/-- **Where indices have no bits, the first size is found, and the sizes seen behind it.** -/
theorem sizesFound_later (hpos : 0 < w.size) (hsize : w.size ≤ 24) (hindex : w.index = 0)
    (hdelta : w.indexDelta ≤ 24) (n : ℕ) (later : List AuHeader) :
    SizesFound w (natBits w.size n ++ later.flatMap (AuHeader.laterBits w))
      (n % 2 ^ w.size :: later.map (AuHeader.sizeSeen w)) := by
  have hindex' : w.index ≤ 24 := by omega
  have hnone : ∀ rest : List Bool, natBits w.index 0 ++ rest = rest := by
    intro rest
    rw [hindex]
    rfl
  induction later generalizing n with
  | nil =>
      have hone := sizesFound_one hpos hsize hindex' n 0
      rwa [hnone] at hone
  | cons h later ih =>
      have hfront := takeSize_natBits hsize hindex' n 0
        ((h :: later).flatMap (AuHeader.laterBits w))
      rw [hnone] at hfront
      rw [List.flatMap_cons, laterBits_eq, List.append_assoc] at hfront ⊢
      have hnext := ih (h.size * 2 ^ w.indexDelta + h.index % 2 ^ w.indexDelta)
      refine .unit (natBits_append_ne_nil hpos n _) hfront ?_ hnext
      have hmore := natBits_append_ne_nil hpos
        (h.size * 2 ^ w.indexDelta + h.index % 2 ^ w.indexDelta)
        (later.flatMap (AuHeader.laterBits w))
      rw [skipDelta, if_neg (List.append_ne_nil_of_right_ne_nil _ hmore), takeField_natBits hdelta]
      rfl

/-- **Readable headers are read as they were packed**, and no others. -/
theorem sizesFound_iff {headers : List AuHeader} (hpos : 0 < w.size) (hne : headers ≠ [])
    (hfits : ∀ h ∈ headers, h.size < 2 ^ w.size) :
    SizesFound w (headerSection w headers) (headers.map AuHeader.size) ↔ Readable w headers := by
  obtain ⟨first, later, rfl⟩ := List.exists_cons_of_ne_nil hne
  have hfirst : first.size % 2 ^ w.size = first.size :=
    Nat.mod_eq_of_lt (hfits first List.mem_cons_self)
  have hseen : w.index = 0 → w.size ≤ 24 → w.indexDelta ≤ 24 →
      SizesFound w (headerSection w (first :: later))
        (first.size :: later.map (AuHeader.sizeSeen w)) := by
    intro hindex hsize hdelta
    have hfound := sizesFound_later hpos hsize hindex hdelta first.size later
    rw [hfirst] at hfound
    rw [headerSection, hindex]
    exact hfound
  constructor
  · intro hfound
    have hfit := hfound.fieldsFit (List.cons_ne_nil _ _)
    refine ⟨hfit.size, hfit.index, ?_⟩
    -- a single header may carry an index, several may not
    cases later with
    | nil => exact .inl rfl
    | cons h later =>
        have htwo : 2 ≤ ((first :: h :: later).map AuHeader.size).length := by
          rw [List.length_map, List.length_cons, List.length_cons]
          omega
        have hroom := hfit.room
        rw [List.length_map, headerSection_length, List.length_cons, Nat.add_sub_cancel,
          Nat.mul_add, Nat.mul_add, Nat.succ_mul (h :: later).length w.size,
          Nat.succ_mul (h :: later).length w.index] at hroom
        -- The later headers have no room for the index that is read with each size.
        have hnone : (h :: later).length * w.index = 0 := by omega
        have hindex : w.index = 0 := by
          rcases Nat.mul_eq_zero.mp hnone with hlength | hindex
          · rw [List.length_cons] at hlength
            omega
          · exact hindex
        have heq := hfound.unique (hseen hindex hfit.size (hfit.indexDelta htwo))
        rw [List.map_cons, List.cons.injEq] at heq
        refine .inr ⟨hindex, hfit.indexDelta htwo, ?_⟩
        intro header hmem
        exact (List.map_inj_left.mp heq.2 header hmem).symm
  · rintro ⟨hsize, hindex, hone | ⟨hzero, hdelta, hsizes⟩⟩
    · obtain rfl : later = [] := by
        rw [List.length_cons, Nat.add_eq_right] at hone
        exact List.length_eq_zero_iff.mp hone
      have hfound := sizesFound_one hpos hsize hindex first.size first.index
      rwa [hfirst] at hfound
    · have hfound := hseen hzero hsize hdelta
      rw [List.tail_cons] at hsizes
      rwa [List.map_congr_left hsizes] at hfound

end Packed

/-! ## Whole packets -/

section Packets

variable {σ : Type} {lib : AacLibrary σ} {aes : AesCbc} {p : AudioPipeline} {s : σ}

theorem aacInput_length (haes : aes.KeepsLength) {payload input : List UInt8}
    (h : aacInput p aes payload = some input) : input.length = payload.length := by
  rw [aacInput] at h
  by_cases hplain : p.session.hasEncryption = false
  · rw [if_pos hplain, Option.some.injEq] at h
    rw [h]
  · rw [if_neg hplain] at h
    dsimp only at h
    split at h
    · contradiction
    · obtain ⟨output, houtput, rfl⟩ := Option.map_eq_some_iff.mp h
      rw [cryptoAesDecrypt] at houtput
      split at houtput
      · contradiction
      · have hlength := haes _ _ _ _ houtput
        rw [List.length_append, hlength, List.length_take, List.length_drop]
        omega

/-- A packet that was packed goes through the decoder's own checks. -/
theorem decodeAac_packed (haes : aes.KeepsLength) (hopen : p.aacDecoder.impl = true)
    (htype : p.session.streamType = 0) {w : FieldWidths} {headers : List AuHeader}
    {payload body : List UInt8}
    (h : aacInput p aes payload = some (packAccessUnits w headers body)) :
    audioPipelineDecodeAac lib p aes s payload =
      decodeAacInput lib p s (packAccessUnits w headers body) := by
  have hlength := aacInput_length haes h
  rw [packAccessUnits, List.length_append, beBytes_length] at hlength
  rw [audioPipelineDecodeAac, if_neg, if_neg (fun hne => hne htype), h]
  rintro (hshort | hclosed)
  · omega
  · rw [hopen] at hclosed
    contradiction

/-- The first two bytes are the number of header bits. -/
theorem decodeAacInput_cons {b b' : UInt8} {rest : List UInt8} {headerBits : ℕ}
    (hbits : b.toNat * 256 + b'.toNat = headerBits) :
    decodeAacInput lib p s (b :: b' :: rest) =
      if headerBits = 0 ∨ (headerBits + 7) / 8 > rest.length then ⟨s, [], none⟩
      else
        decodeUnits lib p rest headerBits ((rest.drop ((headerBits + 7) / 8)).length + 1) s 0
          (rest.drop ((headerBits + 7) / 8)) [] := by
  subst hbits
  rfl

/-- **Behind its length, a packed header section is the bit string that was packed.** -/
theorem decodeAacInput_packed {w : FieldWidths} {headers : List AuHeader} {body : List UInt8}
    (hfits : (headerSection w headers).length < 2 ^ 16)
    (hpos : 0 < (headerSection w headers).length) :
    decodeAacInput lib p s (packAccessUnits w headers body) =
      unitsOver lib p (body.length + 1) s (headerSection w headers) body [] := by
  rw [packAccessUnits]
  generalize headerSection w headers = bits at *
  have hbytes : beBytes 2 bits.length =
      [UInt8.ofNat (bits.length / 256), UInt8.ofNat bits.length] := rfl
  have hnumber : (UInt8.ofNat (bits.length / 256)).toNat * 256 + (UInt8.ofNat bits.length).toNat =
      bits.length := by
    rw [UInt8.toNat_ofNat', UInt8.toNat_ofNat']
    omega
  have hlength : (packBits bits).length = (bits.length + 7) / 8 := packBits_length bits
  have hframes : (packBits bits ++ body).drop ((bits.length + 7) / 8) = body :=
    List.drop_left' hlength
  have hroom : bits.length ≤ 8 * (packBits bits ++ body).length := by
    rw [List.length_append, hlength]
    omega
  have hstream : headerStream (packBits bits ++ body) bits.length = bits := by
    rw [headerStream, bitsOf_append, List.take_append_of_le_length, bitsOf_packBits_take]
    rw [bitsOf_length, hlength]
    omega
  have hchecks : ¬(bits.length = 0 ∨ (bits.length + 7) / 8 > (packBits bits ++ body).length) := by
    rw [List.length_append, hlength]
    omega
  rw [hbytes, List.cons_append, List.cons_append, List.nil_append, decodeAacInput_cons hnumber,
    if_neg hchecks, hframes, decodeUnits_eq lib p hroom _ _ (Nat.zero_le _), hstream,
    List.drop_zero]

theorem decodeAacInput_no_headers {w : FieldWidths} {headers : List AuHeader} {body : List UInt8}
    (hempty : (headerSection w headers).length = 0) :
    decodeAacInput lib p s (packAccessUnits w headers body) = ⟨s, [], none⟩ := by
  have hbytes : beBytes 2 0 = [0, 0] := rfl
  rw [packAccessUnits, hempty, hbytes, List.cons_append, List.cons_append, List.nil_append,
    decodeAacInput_cons rfl]
  exact if_pos (.inl rfl)

/-- A unit that is found has a byte, and so sizes have bits. -/
theorem SizesFound.size_pos {w : FieldWidths} {bits : List Bool} {units : List (List UInt8)}
    (h : SizesFound w bits (units.map List.length)) (hbits : bits ≠ [])
    (hunits : ∀ unit ∈ units, unit ≠ []) : 0 < w.size := by
  cases units with
  | nil =>
      rw [List.map_nil] at h
      cases h
      contradiction
  | cons unit units =>
      have hbound := (h.fieldsFit (List.cons_ne_nil _ _)).bound unit.length List.mem_cons_self
      have hlength := List.length_pos_iff.mpr (hunits unit List.mem_cons_self)
      by_contra hzero
      rw [Nat.eq_zero_of_not_pos hzero, pow_zero] at hbound
      omega

theorem size_pos_of_decodesAll {units : List (List UInt8)} {headers : List AuHeader}
    (hunits : units ≠ []) (hdecodes : DecodesAll lib p.aacDecoder s 0 units)
    (hlengths : units.map List.length = headers.map AuHeader.size)
    (hsizes : ∀ h ∈ headers, h.size < 2 ^ p.fieldWidths.size) : 0 < p.fieldWidths.size := by
  obtain ⟨unit, units, rfl⟩ := List.exists_cons_of_ne_nil hunits
  obtain ⟨decoded, hdecoded, -⟩ := hdecodes
  have hlength := List.length_pos_iff.mpr (aacDecoderDecode_some lib hdecoded).1
  have hmem : unit.length ∈ headers.map AuHeader.size := by
    rw [← hlengths]
    exact List.mem_cons_self
  obtain ⟨header, hheader, hsize⟩ := List.mem_map.mp hmem
  have hbound := hsizes header hheader
  by_contra hzero
  rw [Nat.eq_zero_of_not_pos hzero, pow_zero] at hbound
  omega

theorem headerSection_pos {w : FieldWidths} {headers : List AuHeader} (hne : headers ≠ [])
    (hpos : 0 < w.size) : 0 < (headerSection w headers).length := by
  obtain ⟨first, later, rfl⟩ := List.exists_cons_of_ne_nil hne
  rw [headerSection_length]
  omega

end Packets

/-! ## A library for examples -/

/-- A library that decodes every unit into 480 silent stereo frames. -/
def silentLibrary : AacLibrary Unit where
  fill _ _ := ((), true)
  decodeFrame _ _ := ((), some fun _ => 0)
  streamInfo _ := some ⟨2, 480⟩

/-- A cipher that is not asked in a session without encryption. -/
def unusedCipher : AesCbc := ⟨fun _ _ input => some input⟩

/-- A pipeline in a plain RAOP session with AAC and these widths. -/
def aacSession (sizeLength indexLength indexDeltaLength : UInt8) : AudioPipeline :=
  { audioPipelineCreate ⟨some 1, 7000⟩ with
    session := { SdpSession.zero with
      codec := .aac
      sampleRate := 44100
      channels := 2
      bitsPerSample := 16
      framesPerPacket := 480
      aacSizeLength := sizeLength
      aacIndexLength := indexLength
      aacIndexDeltaLength := indexDeltaLength }
    aacDecoder := ⟨2, 44100, true⟩ }

theorem silentLibrary_decode {decoder : AacDecoder} (hopen : decoder.impl = true)
    (hchannels : decoder.channels = 2) {unit : List UInt8} (hunit : unit ≠ []) {capacity : ℕ}
    (hroom : 960 ≤ capacity) (hint : capacity ≤ intMax) :
    aacDecoderDecode silentLibrary decoder () unit capacity =
      ((), some ((List.range 960).map fun _ => 0)) := by
  rw [aacDecoderDecode, if_neg]
  · dsimp only [silentLibrary]
    rw [if_neg Bool.false_ne_true.symm, hchannels, if_neg]
    · rfl
    · have hsamples : (480 : ℤ).toNat * (2 : ℤ).toNat = 960 := rfl
      rw [hsamples]
      rintro (hnone | hmany | hother | hempty | hlarge)
      · omega
      · omega
      · exact hother rfl
      · omega
      · omega
  · rintro (hclosed | hempty | hlarge)
    · rw [hopen] at hclosed
      contradiction
    · exact hunit hempty
    · omega

theorem silentLibrary_decodesTwo (sizeLength indexLength indexDeltaLength : UInt8)
    {first second : List UInt8} (hfirst : first ≠ []) (hsecond : second ≠ []) :
    DecodesAll silentLibrary (aacSession sizeLength indexLength indexDeltaLength).aacDecoder () 0
      [first, second] := by
  refine ⟨_, congrArg Prod.snd (silentLibrary_decode rfl rfl hfirst (by decide) (by decide)), ?_⟩
  rw [List.length_map, List.length_range]
  exact ⟨_, congrArg Prod.snd (silentLibrary_decode rfl rfl hsecond (by decide) (by decide)),
    trivial⟩

/-! ## The result -/

/-- **Access units come out as they went in exactly where their headers are readable.** -/
theorem access_units_split {σ : Type} (lib : AacLibrary σ) (aes : AesCbc) (p : AudioPipeline) (s : σ)
    (headers : List AuHeader) (haes : aes.KeepsLength) (hopen : p.aacDecoder.impl = true)
    (htype : p.session.streamType = 0) (hne : headers ≠ [])
    (hsizes : ∀ h ∈ headers, h.size < 2 ^ p.fieldWidths.size)
    (hfits : (headerSection p.fieldWidths headers).length < 2 ^ 16) :
    (∀ payload units,
      aacInput p aes payload = some (packAccessUnits p.fieldWidths headers units.flatten) →
      units.map List.length = headers.map AuHeader.size →
      DecodesAll lib p.aacDecoder s 0 units →
        (((audioPipelineDecodeAac lib p aes s payload).units = units ∧
            (audioPipelineDecodeAac lib p aes s payload).result.isSome = true) ↔
          Readable p.fieldWidths headers)) ∧
    (Readable p.fieldWidths headers →
      ∀ payload body, aacInput p aes payload = some (packAccessUnits p.fieldWidths headers body) →
        body.length ≠ (headers.map AuHeader.size).sum →
          (audioPipelineDecodeAac lib p aes s payload).result = none) := by
  constructor
  · intro payload units hinput hlengths hdecodes
    have hunits : units ≠ [] := by
      rintro rfl
      rw [List.map_nil] at hlengths
      exact hne (List.map_eq_nil_iff.mp hlengths.symm)
    have hpos := size_pos_of_decodesAll hunits hdecodes hlengths hsizes
    have hsection := headerSection_pos hne hpos
    have hiff := sizesFound_iff hpos hne hsizes
    rw [← hlengths] at hiff
    rw [decodeAac_packed haes hopen htype hinput, decodeAacInput_packed hfits hsection]
    constructor
    · rintro ⟨hrun, hsome⟩
      obtain ⟨hfound, -, -⟩ := unitsOver_sound lib p hsome
      rw [hrun] at hfound
      exact hiff.mp hfound
    · intro hreadable
      exact unitsOver_complete lib p hdecodes (hiff.mpr hreadable) (Nat.lt_succ_self _)
        (.inr hunits)
  · intro hreadable payload body hinput hlength
    rw [decodeAac_packed haes hopen htype hinput]
    by_cases hsection : (headerSection p.fieldWidths headers).length = 0
    · rw [decodeAacInput_no_headers hsection]
    · rw [decodeAacInput_packed hfits (by omega)]
      -- a run that succeeds takes the announced sizes, which the body has not
      by_contra hsome
      rw [← ne_eq, Option.ne_none_iff_isSome] at hsome
      obtain ⟨hfound, hflat, hunits⟩ := unitsOver_sound lib p hsome
      have hbits : headerSection p.fieldWidths headers ≠ [] := fun hempty =>
        hsection (by rw [hempty]; rfl)
      have hpos := hfound.size_pos hbits hunits
      have heq := hfound.unique ((sizesFound_iff hpos hne hsizes).mpr hreadable)
      rw [← heq, ← List.length_flatten, hflat] at hlength
      exact hlength rfl

/-- Sizes of 16 bits and no other fields: two units are found again. -/
theorem access_units_split_sizes_only :
    (audioPipelineDecodeAac silentLibrary (aacSession 16 0 0) unusedCipher ()
        (packAccessUnits ⟨16, 0, 0⟩ [⟨2, 0⟩, ⟨1, 0⟩] [10, 11, 12])).units = [[10, 11], [12]] ∧
      (audioPipelineDecodeAac silentLibrary (aacSession 16 0 0) unusedCipher ()
        (packAccessUnits ⟨16, 0, 0⟩ [⟨2, 0⟩, ⟨1, 0⟩] [10, 11, 12])).result.isSome = true := by
  have hkeeps : unusedCipher.KeepsLength := by
    intro key iv input output houtput
    rw [Option.some.inj houtput]
  have hresult := access_units_split silentLibrary unusedCipher (aacSession 16 0 0) ()
    [⟨2, 0⟩, ⟨1, 0⟩] hkeeps rfl rfl (List.cons_ne_nil _ _) (by decide) (by decide)
  have hdecodes := silentLibrary_decodesTwo 16 0 0 (List.cons_ne_nil 10 [11])
    (List.cons_ne_nil 12 [])
  exact (hresult.1 _ [[10, 11], [12]] rfl rfl hdecodes).mpr (by decide)

/-- With the usual fields of 13, 3 and 3 bits the second unit of two is never passed. -/
theorem access_units_second_lost :
    (headerSection ⟨13, 3, 3⟩ [⟨2, 0⟩, ⟨1, 0⟩]).length = 32 ∧
      aacInput (aacSession 13 3 3) unusedCipher
          (packAccessUnits ⟨13, 3, 3⟩ [⟨2, 0⟩, ⟨1, 0⟩] [10, 11, 12]) =
        some [0, 32, 0, 16, 0, 8, 10, 11, 12] ∧
      DecodesAll silentLibrary (aacSession 13 3 3).aacDecoder () 0 [[10, 11], [12]] ∧
      (audioPipelineDecodeAac silentLibrary (aacSession 13 3 3) unusedCipher ()
        (packAccessUnits ⟨13, 3, 3⟩ [⟨2, 0⟩, ⟨1, 0⟩] [10, 11, 12])).units = [[10, 11]] ∧
      (audioPipelineDecodeAac silentLibrary (aacSession 13 3 3) unusedCipher ()
        (packAccessUnits ⟨13, 3, 3⟩ [⟨2, 0⟩, ⟨1, 0⟩] [10, 11, 12])).result = none := by
  refine ⟨rfl, by decide, ?_, by decide +kernel, by decide +kernel⟩
  exact silentLibrary_decodesTwo 13 3 3 (List.cons_ne_nil 10 [11]) (List.cons_ne_nil 12 [])

end PortableAirplay.Audio
