import PortableAirplay.Library.Base64
import PortableAirplay.Protocol.Sdp
import Mathlib.Data.Int.Init
import Mathlib.Data.List.TakeWhile

/-!
# Decoding base64

`sdp_base64_decode` of `protocol/sdp.c` keeps up to six bits of the letters read so far in an
accumulator. `base64Loop_spec` is its invariant: the bytes written and the pending bits are the
bits of the letters read, whatever white space stands between them. From it: decoding inverts
the encoding, exactly what cannot be decoded is refused, and no more than the output holds is
written (`base64_decoded`).

The function returns an `int`, so that a length of `2 ^ 31` or more does not come back
(`base64_length_of_two_gib`).
-/

set_option autoImplicit false

namespace PortableAirplay.Protocol

open PortableAirplay.Library
open PortableAirplay.Platform
open PortableAirplay.Util

/-! ## What is decoded -/

/-- A size that is returned as an `int`. -/
def toInt (n : ℕ) : ℤ :=
  if n % 2 ^ 32 < 2 ^ 31 then (n % 2 ^ 32 : ℕ) else (n % 2 ^ 32 : ℕ) - 2 ^ 32

/-- What `sdp_base64_decode` returns. -/
def sdpBase64Return (input : CString) (outputSize : ℕ) : ℤ :=
  match (sdpBase64Decode input outputSize).2 with
  | none => -1
  | some length => toInt length

/-- The characters before the first `=`, without white space. -/
def base64Data (input : CString) : CString :=
  (input.filter fun c => !isSpace c).takeWhile fun c => c != 61

/-- A text of a byte string: its encoding, with or without the padding, and white space put in
anywhere. -/
def Base64Text (bytes : List UInt8) (input : CString) : Prop :=
  (input.filter fun c => !isSpace c) = base64Encode bytes ∨
    (input.filter fun c => !isSpace c) = base64Letters bytes

theorem toInt_eq {n : ℕ} (h : n ≤ intMax) : toInt n = n := by
  rw [intMax] at h
  rw [toInt, Nat.mod_eq_of_lt (by omega), if_pos (by omega)]

/-! ## The alphabet -/

theorem base64Letter_mem : ∀ n < 64, base64Letter n ∈ base64Chars := by decide +kernel

theorem idxOf_base64Letter : ∀ n < 64, base64Chars.idxOf (base64Letter n) = n := by
  decide +kernel

theorem base64Letter_plain : ∀ n < 64, isSpace (base64Letter n) = false ∧ base64Letter n ≠ 61 := by
  decide

theorem base64Chars_length : base64Chars.length = 64 := by decide

/-! ## The loop -/

theorem base64Data_cons_space {c : UInt8} (hc : isSpace c = true) (input : CString) :
    base64Data (c :: input) = base64Data input := by
  rw [base64Data, List.filter_cons_of_neg (by simp [hc]), base64Data]

theorem base64Data_cons_end (input : CString) : base64Data (61 :: input) = [] := rfl

theorem base64Data_cons {c : UInt8} (hc : isSpace c = false) (hend : c ≠ 61) (input : CString) :
    base64Data (c :: input) = c :: base64Data input := by
  rw [base64Data, List.filter_cons_of_pos (by simp [hc]), List.takeWhile_cons_of_pos (by simp [hend]),
    base64Data]

/-- The bits of letters. -/
def letterBits (letters : CString) : List Bool :=
  letters.flatMap fun c => natBits 6 (base64Chars.idxOf c)

theorem letterBits_cons (c : UInt8) (letters : CString) :
    letterBits (c :: letters) = natBits 6 (base64Chars.idxOf c) ++ letterBits letters :=
  List.flatMap_cons

theorem letterBits_length (letters : CString) : (letterBits letters).length = 6 * letters.length := by
  induction letters with
  | nil => rfl
  | cons c letters ih =>
      rw [letterBits_cons, List.length_append, natBits_length, ih, List.length_cons]
      omega

/-- What the loop does with the letters that are left, from any state of the accumulator. -/
structure LoopSpec (outputSize bits : ℕ) (pending : List Bool) (output data : List UInt8)
    (r : List UInt8 × Bool) : Prop where
  succeeds : r.2 = true ↔ (∀ c ∈ data, c ∈ base64Chars) ∧
    output.length + (bits + 6 * data.length) / 8 ≤ outputSize
  decoded : r.2 = true → ∃ rest, rest.length < 8 ∧
    bitsOf r.1 ++ rest = bitsOf output ++ (pending ++ letterBits data)
  room : r.1.length ≤ outputSize

/-- The next letter goes into the accumulator. -/
theorem natBits_accumulate (bits buffer letter : ℕ) (hletter : letter < 64) :
    natBits (bits + 6) (buffer * 64 + letter) = natBits bits buffer ++ natBits 6 letter := by
  have hhigh : (buffer * 64 + letter) / 2 ^ 6 = buffer := by omega
  have hlow : (buffer * 64 + letter) % 2 ^ 6 = letter := by omega
  rw [natBits_add, hhigh, ← natBits_mod (Nat.le_refl 6) (buffer * 64 + letter), hlow]

/-- A byte goes from the accumulator to the output. -/
theorem natBits_emit {bits buffer : ℕ} (hbits : 8 ≤ bits) :
    natBits bits buffer =
      byteBits (UInt8.ofNat (buffer / 2 ^ (bits - 8))) ++
        natBits (bits - 8) (buffer % 2 ^ (bits - 8)) := by
  obtain ⟨low, rfl⟩ : ∃ k, bits = 8 + k := ⟨bits - 8, by omega⟩
  rw [Nat.add_sub_cancel_left, natBits_add, natBits_mod (Nat.le_refl low), byteBits,
    UInt8.toNat_ofNat', natBits_mod (Nat.le_refl 8)]

/-- No letters are left. -/
theorem LoopSpec.done {outputSize bits buffer : ℕ} {output : List UInt8} (hbits : bits < 8)
    (hroom : output.length ≤ outputSize) :
    LoopSpec outputSize bits (natBits bits buffer) output [] (output, true) where
  succeeds := by
    rw [List.length_nil]
    refine ⟨fun _ => ⟨fun c hc => absurd hc List.not_mem_nil, ?_⟩, fun _ => rfl⟩
    omega
  decoded _ := by
    refine ⟨natBits bits buffer, by rwa [natBits_length], ?_⟩
    rw [letterBits, List.flatMap_nil, List.append_nil]
  room := hroom

/-- One more letter in front, when the accumulator and the output then hold the same bits. -/
theorem LoopSpec.cons {outputSize bits bits' : ℕ} {pending pending' : List Bool}
    {output output' data : List UInt8} {c : UInt8} {r : List UInt8 × Bool}
    (hc : c ∈ base64Chars)
    (hlength : 8 * output'.length + bits' = 8 * output.length + (bits + 6))
    (hsame : bitsOf output' ++ pending' =
      bitsOf output ++ (pending ++ natBits 6 (base64Chars.idxOf c)))
    (h : LoopSpec outputSize bits' pending' output' data r) :
    LoopSpec outputSize bits pending output (c :: data) r where
  succeeds := by
    rw [h.succeeds, List.forall_mem_cons, List.length_cons]
    have hsize : output'.length + (bits' + 6 * data.length) / 8 =
        output.length + (bits + 6 * (data.length + 1)) / 8 := by omega
    rw [hsize]
    exact ⟨fun hall => ⟨⟨hc, hall.1⟩, hall.2⟩, fun hall => ⟨hall.1.2, hall.2⟩⟩
  decoded hok := by
    obtain ⟨rest, hrest, hbits⟩ := h.decoded hok
    refine ⟨rest, hrest, ?_⟩
    rw [hbits, ← List.append_assoc, hsame, letterBits_cons]
    simp only [List.append_assoc]
  room := h.room

/-- **The invariant of the loop.** The bytes written and the pending bits are the bits of the
letters read. -/
theorem base64Loop_spec {outputSize bits buffer : ℕ} {output : List UInt8} (hbits : bits < 8)
    (hroom : output.length ≤ outputSize) (input : CString) :
    LoopSpec outputSize bits (natBits bits buffer) output (base64Data input)
      (base64Loop outputSize buffer bits output input) := by
  -- the induction follows the loop; the pending bits are the low ones of the buffer
  induction input generalizing bits buffer output with
  | nil =>
      rw [base64Loop]
      exact .done hbits hroom
  | cons c input ih =>
      rw [base64Loop]
      -- a blank is passed over, `=` ends the loop, and a letter brings six bits
      by_cases hspace : isSpace c = true
      · rw [if_pos hspace, base64Data_cons_space hspace]
        exact ih hbits hroom
      · rw [if_neg hspace]
        by_cases hend : c = 61
        · rw [if_pos hend, hend, base64Data_cons_end]
          exact .done hbits hroom
        · rw [if_neg hend, base64Data_cons (by simpa using hspace) hend]
          by_cases hmem : c ∈ base64Chars
          · have hletter : base64Chars.idxOf c < 64 := by
              rw [← base64Chars_length]
              exact List.idxOf_lt_length_of_mem hmem
            have hpending := natBits_accumulate bits buffer _ hletter
            rw [if_neg (not_not.mpr hmem)]
            dsimp only
            by_cases hfew : bits + 6 < 8
            · -- no whole byte yet
              rw [if_pos hfew]
              apply LoopSpec.cons hmem _ _ (ih hfew hroom)
              · omega
              · rw [hpending]
            · rw [if_neg hfew]
              -- a whole byte, which needs room in the output
              by_cases hfull : outputSize ≤ output.length
              · rw [if_pos hfull]
                refine ⟨⟨fun h => absurd h Bool.false_ne_true, ?_⟩,
                  fun h => absurd h Bool.false_ne_true, hroom⟩
                rintro ⟨-, hfits⟩
                rw [List.length_cons] at hfits
                omega
              · rw [if_neg hfull]
                have hroom' : (output ++ [UInt8.ofNat
                    ((buffer * 64 + base64Chars.idxOf c) / 2 ^ (bits + 6 - 8))]).length ≤
                    outputSize := by
                  rw [List.length_append, List.length_singleton]
                  omega
                apply LoopSpec.cons hmem _ _ (ih (by omega) hroom')
                · rw [List.length_append, List.length_singleton]
                  omega
                · rw [← hpending, natBits_emit (by omega : 8 ≤ bits + 6), bitsOf_append,
                    List.append_assoc]
                  rfl
          · -- not a letter: the data is no base64
            rw [if_pos hmem]
            refine ⟨⟨fun h => absurd h Bool.false_ne_true, ?_⟩,
              fun h => absurd h Bool.false_ne_true, hroom⟩
            rintro ⟨hall, -⟩
            exact absurd (hall c List.mem_cons_self) hmem

/-! ## Decoding -/

/-- **What `sdp_base64_decode` does** with an output of some size. -/
theorem sdpBase64Decode_spec {outputSize : ℕ} (hsize : 0 < outputSize) (input : CString) :
    ∃ r, LoopSpec outputSize 0 [] [] (base64Data input) r ∧
      sdpBase64Decode input outputSize = (r.1, if r.2 then some r.1.length else none) := by
  refine ⟨base64Loop outputSize 0 0 [] input, base64Loop_spec (by decide) (Nat.zero_le _) input, ?_⟩
  rw [sdpBase64Decode, if_neg (by omega)]

/-- No more than the output holds is written. -/
theorem base64_room (input : CString) (outputSize : ℕ) :
    (sdpBase64Decode input outputSize).1.length ≤ outputSize := by
  by_cases hzero : outputSize = 0
  · rw [sdpBase64Decode, if_pos hzero]
    exact Nat.zero_le _
  · obtain ⟨r, hspec, hdecode⟩ := sdpBase64Decode_spec (by omega : 0 < outputSize) input
    rw [hdecode]
    exact hspec.room

/-- The text stands for the bytes: its letters are all in the alphabet, and give these whole
bytes. -/
def Base64Of (text : CString) (bytes : List UInt8) : Prop :=
  (∀ c ∈ base64Data text, c ∈ base64Chars) ∧
    ∃ rest : List Bool, rest.length < 8 ∧ bitsOf bytes ++ rest = letterBits (base64Data text)

/-- **A text is decoded** to the bytes that it stands for, if they fit. -/
theorem sdpBase64Decode_iff {outputSize : ℕ} (hsize : 0 < outputSize) {text : CString}
    {bytes : List UInt8} :
    sdpBase64Decode text outputSize = (bytes, some bytes.length) ↔
      Base64Of text bytes ∧ bytes.length ≤ outputSize := by
  obtain ⟨r, hspec, hdecode⟩ := sdpBase64Decode_spec hsize text
  rw [hdecode, Prod.mk.injEq]
  constructor
  · -- a length is returned only by a loop that came to the end
    rintro ⟨hbytes, hsome⟩
    subst hbytes
    have hok : r.2 = true := by
      by_contra hno
      rw [if_neg hno] at hsome
      contradiction
    obtain ⟨rest, hrest, hbits⟩ := hspec.decoded hok
    exact ⟨⟨(hspec.succeeds.mp hok).1, rest, hrest, hbits⟩, hspec.room⟩
  · rintro ⟨⟨hall, rest, hrest, hbits⟩, hfits⟩
    have hlength := congrArg List.length hbits
    rw [List.length_append, bitsOf_length, letterBits_length] at hlength
    have hok : r.2 = true := by
      apply hspec.succeeds.mpr
      refine ⟨hall, ?_⟩
      rw [List.length_nil]
      omega
    obtain ⟨rest', hrest', hbits'⟩ := hspec.decoded hok
    have hsame : bitsOf r.1 ++ rest' = bitsOf bytes ++ rest := hbits'.trans hbits.symm
    have hlength' := congrArg List.length hsame
    rw [List.length_append, List.length_append, bitsOf_length, bitsOf_length] at hlength'
    -- both leave less than a byte behind, so they are cut at the same place
    have hbytes : r.1 = bytes :=
      bitsOf_injective (List.append_inj hsame (by rw [bitsOf_length, bitsOf_length]; omega)).1
    rw [hok, if_pos rfl, hbytes]
    exact ⟨rfl, rfl⟩

/-- Letters of a byte string, with white space and what starts with `=` behind them. -/
theorem base64Data_of_text {bytes : List UInt8} {input : CString} (h : Base64Text bytes input) :
    base64Data input = base64Letters bytes := by
  have hplain : ∀ c ∈ base64Letters bytes, (c != 61) = true := by
    intro c hc
    obtain ⟨n, hn, rfl⟩ := List.mem_map.mp hc
    exact bne_iff_ne.mpr (base64Letter_plain n (base64Numbers_lt bytes n hn)).2
  rw [base64Data]
  rcases h with h | h
  · rw [h, base64Encode, List.takeWhile_append_of_pos hplain]
    have hpad : ∀ k, (List.replicate k (61 : UInt8)).takeWhile (fun c => c != 61) = [] := by
      intro k
      cases k with
      | zero => rfl
      | succ k => rfl
    rw [hpad, List.append_nil]
  · rw [h]
    exact List.takeWhile_eq_self_iff.mpr hplain

theorem letterBits_letters (bytes : List UInt8) :
    letterBits (base64Letters bytes) = (base64Numbers bytes).flatMap (natBits 6) := by
  rw [letterBits, base64Letters, List.flatMap_map]
  apply List.flatMap_congr
  intro n hn
  rw [idxOf_base64Letter n (base64Numbers_lt bytes n hn)]

/-- **Decoding inverts the encoding.** -/
theorem base64_round_trip {bytes : List UInt8} {input : CString} {outputSize : ℕ}
    (hsize : max 1 bytes.length ≤ outputSize) (htext : Base64Text bytes input) :
    sdpBase64Decode input outputSize = (bytes, some bytes.length) := by
  apply (sdpBase64Decode_iff (by omega)).mpr
  refine ⟨?_, by omega⟩
  rw [Base64Of, base64Data_of_text htext]
  constructor
  · intro c hc
    obtain ⟨n, hn, rfl⟩ := List.mem_map.mp hc
    exact base64Letter_mem n (base64Numbers_lt bytes n hn)
  · obtain ⟨pad, hpad, hnumbers⟩ := base64Numbers_bits bytes
    refine ⟨natBits pad 0, ?_, ?_⟩
    · rw [natBits_length]
      omega
    · rw [letterBits_letters, hnumbers]

/-- **Base64 decoding inverts base64 encoding** for every byte string of a length that an `int`
holds, with or without padding and with white space anywhere; it never writes more than the
output holds, and it returns -1 for a character outside the alphabet before the first `=` and
for more data than the output holds. -/
theorem base64_decoded (input : CString) (outputSize : ℕ) :
    (∀ bytes, bytes.length ≤ intMax → max 1 bytes.length ≤ outputSize → Base64Text bytes input →
      (sdpBase64Decode input outputSize).1 = bytes ∧
        sdpBase64Return input outputSize = bytes.length) ∧
    (sdpBase64Decode input outputSize).1.length ≤ outputSize ∧
    ((∃ c ∈ base64Data input, c ∉ base64Chars) ∨ outputSize < 6 * (base64Data input).length / 8 →
      sdpBase64Return input outputSize = -1) := by
  refine ⟨?_, ?_, ?_⟩
  · intro bytes hint hsize htext
    rw [sdpBase64Return, base64_round_trip hsize htext]
    exact ⟨rfl, toInt_eq hint⟩
  · exact base64_room input outputSize
  · -- what makes the loop succeed is exactly that neither happens
    intro hbad
    by_cases hzero : outputSize = 0
    · rw [sdpBase64Return, sdpBase64Decode, if_pos hzero]
    · obtain ⟨r, hspec, hdecode⟩ := sdpBase64Decode_spec (by omega : 0 < outputSize) input
      have hno : r.2 = false := by
        rw [Bool.eq_false_iff]
        intro hok
        obtain ⟨hall, hfits⟩ := hspec.succeeds.mp hok
        rw [List.length_nil] at hfits
        rcases hbad with ⟨c, hc, hout⟩ | hlong
        · exact hout (hall c hc)
        · omega
      rw [sdpBase64Return, hdecode, hno]
      rfl

/-- A length of 2 GiB is decoded, but returned as a negative number. -/
theorem base64_length_of_two_gib :
    ¬∀ (bytes : List UInt8) (input : CString) (outputSize : ℕ), max 1 bytes.length ≤ outputSize →
      Base64Text bytes input → sdpBase64Return input outputSize = bytes.length := by
  intro hall
  have hlen : (List.replicate (2 ^ 31) (0 : UInt8)).length = 2 ^ 31 := List.length_replicate
  have htext : Base64Text (List.replicate (2 ^ 31) 0)
      (base64Letters (List.replicate (2 ^ 31) 0)) := by
    right
    rw [List.filter_eq_self]
    intro c hc
    obtain ⟨n, hn, rfl⟩ := List.mem_map.mp hc
    rw [(base64Letter_plain n (base64Numbers_lt _ n hn)).1]
    rfl
  have hsize : max 1 (List.replicate (2 ^ 31) (0 : UInt8)).length ≤ 2 ^ 31 := by
    rw [hlen]
    decide
  have hreturn := hall _ _ _ hsize htext
  rw [sdpBase64Return, base64_round_trip hsize htext] at hreturn
  dsimp only at hreturn
  rw [hlen] at hreturn
  exact absurd hreturn (by decide)

end PortableAirplay.Protocol
