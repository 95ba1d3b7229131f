import PortableAirplay.Protocol.Base64Decoding
import PortableAirplay.Protocol.SdpInForce

/-!
# Which key and IV a description brings

Key and IV stand on lines of their own, in any order and number. The definitions here say, of
the lines read so far with the latest one first, what is then in the session: the bytes of the
last key that was decoded, under what later keys wrote before they turned out malformed
(`keyInForce`), and what the IV lines wrote over each other, whole or not (`ivInForce`).
`sdpParse_ciphered` says that the parser keeps to them. Only where every value is whole are
they the values of lines (`keyInForce_whole`, `ivInForce_whole`).
-/

set_option autoImplicit false

namespace PortableAirplay.Protocol

open PortableAirplay.Platform
open PortableAirplay.Util

/-! ## Lines -/

/-- The value of an `a=aesiv:` line. -/
def ivText (line : CString) : Option CString :=
  match sdpAttribute line with
  | .iv => some ((sdpGetLineValue line).drop 6)
  | _ => none

/-- The value of an `a=rsaaeskey:` line. -/
def keyText (line : CString) : Option CString :=
  match sdpAttribute line with
  | .key _ => some ((sdpGetLineValue line).drop 10)
  | _ => none

/-- The values of the `a=aesiv:` lines of a description. -/
def ivTexts (body : List UInt8) : List CString := (sdpLines body).filterMap ivText

/-- The values of the `a=rsaaeskey:` lines of a description. -/
def keyTexts (body : List UInt8) : List CString := (sdpLines body).filterMap keyText

/-- `sizeof(session->aes_iv)`. -/
def ivSize : ℕ := 16

/-- `sizeof(session->aes_key_encrypted)`. -/
def keySize : ℕ := 512

/-- The text is base64 of a whole IV. -/
def IvOf (text : CString) (iv : List UInt8) : Prop := Base64Of text iv ∧ iv.length = ivSize

/-- The text is base64 of some bytes that fit the session. -/
def KeyOf (text : CString) (key : List UInt8) : Prop :=
  Base64Of text key ∧ 0 < key.length ∧ key.length ≤ keySize

/-- A value that is decoded is the key of these bytes only. -/
theorem keyOf_iff {text : CString} {key : List UInt8}
    (hdecode : sdpBase64Decode text keySize = (key, some key.length)) (hpos : 0 < key.length)
    (encrypted : List UInt8) : KeyOf text encrypted ↔ encrypted = key := by
  obtain ⟨hkey, hfits⟩ := (sdpBase64Decode_iff (by decide : 0 < keySize)).mp hdecode
  constructor
  · rintro ⟨hof, -, hroom⟩
    have hsame := (sdpBase64Decode_iff (by decide : 0 < keySize)).mpr ⟨hof, hroom⟩
    rw [hdecode, Prod.mk.injEq] at hsame
    exact hsame.1.symm
  · rintro rfl
    exact ⟨hkey, hpos, hfits⟩

/-- The IV that the lines leave in the session, the latest line first. -/
def ivInForce : List CString → List UInt8
  | [] => List.replicate ivSize 0
  | line :: earlier =>
      match ivText line with
      | some text => overwrite (ivInForce earlier) (sdpBase64Decode text ivSize).1
      | none => ivInForce earlier

/-- The key bytes that the lines leave in the session, the latest line first. A value that is
not decoded is written over the start of the key before it. -/
def keyInForce : List CString → List UInt8
  | [] => []
  | line :: earlier =>
      match keyText line with
      | some text =>
          let r := sdpBase64Decode text keySize
          if 0 < r.2.getD 0 then r.1
          else (overwrite (keyInForce earlier) r.1).take (keyInForce earlier).length
      | none => keyInForce earlier

/-! ## The parser keeps to them -/

/-- What of a session goes into its cipher. -/
structure Ciphered (session : SdpSession) (earlier : List CString) : Prop where
  iv : session.aesIv = ivInForce earlier
  ivLength : session.aesIv.length = ivSize
  key : session.aesKeyEncrypted.take session.aesKeyEncryptedLen = keyInForce earlier
  keyLength : session.aesKeyEncrypted.length = keySize
  keyFits : session.aesKeyEncryptedLen ≤ keySize

theorem start_ciphered : Ciphered SdpSession.start [] where
  iv := rfl
  ivLength := rfl
  key := rfl
  keyLength := List.length_replicate
  keyFits := Nat.zero_le _

/-- The same key and IV. -/
structure SameCipher (before after : SdpSession) : Prop where
  iv : after.aesIv = before.aesIv
  key : after.aesKeyEncrypted = before.aesKeyEncrypted
  keyLen : after.aesKeyEncryptedLen = before.aesKeyEncryptedLen

theorem Ciphered.same {session after : SdpSession} {earlier : List CString}
    (h : Ciphered session earlier) (hsame : SameCipher session after) :
    Ciphered after earlier where
  iv := hsame.iv.trans h.iv
  ivLength := by
    rw [hsame.iv]
    exact h.ivLength
  key := by
    rw [hsame.key, hsame.keyLen]
    exact h.key
  keyLength := by
    rw [hsame.key]
    exact h.keyLength
  keyFits := by
    rw [hsame.keyLen]
    exact h.keyFits

section Lines

variable (session : SdpSession) (line : CString)

theorem rtpmapLine_cipher (value : CString) : SameCipher session (rtpmapLine session value) := by
  rw [rtpmapLine]
  cases scanRtpmap (value.drop 7) with
  | none => exact ⟨rfl, rfl, rfl⟩
  | some fields =>
      dsimp only
      cases codecOfName fields.1 with
      | unknown => exact ⟨rfl, rfl, rfl⟩
      | alac => exact ⟨rfl, rfl, rfl⟩
      | aac => exact ⟨rfl, rfl, rfl⟩
      | pcm => exact ⟨rfl, rfl, rfl⟩

theorem fmtpLine_cipher (value : CString) : SameCipher session (fmtpLine session value) := by
  rw [fmtpLine]
  cases fmtpParams value with
  | none => exact ⟨rfl, rfl, rfl⟩
  | some params =>
      dsimp only
      by_cases haac : session.codec = .aac
      · rw [if_pos haac, aacFmtp]
        cases strstr (ascii "config=") params with
        | none => exact ⟨rfl, rfl, rfl⟩
        | some config => exact ⟨rfl, rfl, rfl⟩
      · rw [if_neg haac, alacFmtp]
        split
        · exact ⟨rfl, rfl, rfl⟩
        · exact ⟨rfl, rfl, rfl⟩

theorem mediaLine_cipher (value : CString) : SameCipher session (mediaLine session value) := by
  rw [mediaLine]
  split
  · cases afterLast 32 value with
    | none => exact ⟨rfl, rfl, rfl⟩
    | some text => exact ⟨rfl, rfl, rfl⟩
  · exact ⟨rfl, rfl, rfl⟩

/-- What a line may do to the cipher of a session: nothing, or one of its two values is
written. -/
inductive CipherStep : SdpSession → Prop where
  | other {after : SdpSession} (hkey : keyText line = none) (hiv : ivText line = none)
      (hsame : SameCipher session after) : CipherStep after
  | key (hkey : keyText line = some ((sdpGetLineValue line).drop 10)) (hiv : ivText line = none) :
      CipherStep (rsaaeskeyLine session (sdpGetLineValue line))
  | iv (hkey : keyText line = none) (hiv : ivText line = some ((sdpGetLineValue line).drop 6)) :
      CipherStep (aesivLine session (sdpGetLineValue line))

/-- A line about something else. -/
theorem texts_of_attribute {about : SdpAttribute} (h : sdpAttribute line = about)
    (hkey : ∀ length, about ≠ .key length) (hiv : about ≠ .iv) :
    keyText line = none ∧ ivText line = none := by
  rw [keyText, ivText, h]
  -- only the two attributes that are excluded bring a value
  cases about with
  | rtpmap codec => exact ⟨rfl, rfl⟩
  | fmtp params => exact ⟨rfl, rfl⟩
  | key length => exact absurd rfl (hkey length)
  | iv => exact absurd rfl hiv
  | other => exact ⟨rfl, rfl⟩

/-- An rtpmap attribute brings no key and no IV. -/
theorem attributeOf_rtpmap {value : CString} (hrtpmap : startsWith value (ascii "rtpmap:") = true) :
    (∀ length, attributeOf value ≠ .key length) ∧ attributeOf value ≠ .iv := by
  rw [attributeOf, if_pos hrtpmap]
  split
  · exact ⟨fun _ => SdpAttribute.noConfusion, SdpAttribute.noConfusion⟩
  · split
    · exact ⟨fun _ => SdpAttribute.noConfusion, SdpAttribute.noConfusion⟩
    · exact ⟨fun _ => SdpAttribute.noConfusion, SdpAttribute.noConfusion⟩

/-- Nor does an fmtp attribute. -/
theorem attributeOf_fmtp {value : CString} (hrtpmap : ¬ startsWith value (ascii "rtpmap:") = true)
    (hfmtp : startsWith value (ascii "fmtp:") = true) :
    (∀ length, attributeOf value ≠ .key length) ∧ attributeOf value ≠ .iv := by
  rw [attributeOf, if_neg hrtpmap, if_pos hfmtp]
  split
  · exact ⟨fun _ => SdpAttribute.noConfusion, SdpAttribute.noConfusion⟩
  · exact ⟨fun _ => SdpAttribute.noConfusion, SdpAttribute.noConfusion⟩

/-- **What a line may do to the cipher.** -/
theorem sdpLine_cipher : CipherStep session line (sdpLine session line) := by
  have hstep := sdpLine_step session line
  generalize sdpLine session line = after at hstep
  -- two of the lines write a value, the others leave both
  cases hstep with
  | passed hattribute =>
      obtain ⟨hkey, hiv⟩ := texts_of_attribute line hattribute
        (fun _ => SdpAttribute.noConfusion) SdpAttribute.noConfusion
      exact .other hkey hiv ⟨rfl, rfl, rfl⟩
  | media hattribute =>
      obtain ⟨hkey, hiv⟩ := texts_of_attribute line hattribute
        (fun _ => SdpAttribute.noConfusion) SdpAttribute.noConfusion
      exact .other hkey hiv (mediaLine_cipher session _)
  | rtpmap hattribute hrtpmap =>
      obtain ⟨hnokey, hnoiv⟩ := attributeOf_rtpmap hrtpmap
      obtain ⟨hkey, hiv⟩ := texts_of_attribute line hattribute hnokey hnoiv
      exact .other hkey hiv (rtpmapLine_cipher session _)
  | fmtp hattribute hrtpmap hfmtp =>
      obtain ⟨hnokey, hnoiv⟩ := attributeOf_fmtp hrtpmap hfmtp
      obtain ⟨hkey, hiv⟩ := texts_of_attribute line hattribute hnokey hnoiv
      exact .other hkey hiv (fmtpLine_cipher session _)
  | key hattribute =>
      apply CipherStep.key
      · rw [keyText, hattribute]
      · rw [ivText, hattribute]
  | iv hattribute =>
      apply CipherStep.iv
      · rw [keyText, hattribute]
      · rw [ivText, hattribute]

end Lines

/-- A length that is returned is that of what was written. -/
theorem sdpBase64Decode_cases (text : CString) (outputSize : ℕ) :
    (sdpBase64Decode text outputSize).2 = none ∨
      (sdpBase64Decode text outputSize).2 = some (sdpBase64Decode text outputSize).1.length := by
  rw [sdpBase64Decode]
  split
  · exact Or.inl rfl
  · dsimp only
    split
    · exact Or.inr rfl
    · exact Or.inl rfl

theorem overwrite_length {α : Type} {array values : List α} (h : values.length ≤ array.length) :
    (overwrite array values).length = array.length := by
  rw [overwrite, List.length_append, List.length_drop]
  omega

/-- The start of an array that is written over. -/
theorem overwrite_take {α : Type} (array values : List α) (n : ℕ) :
    (overwrite array values).take n = (overwrite (array.take n) values).take n := by
  rw [overwrite, overwrite, List.take_append, List.take_append, List.drop_take, List.take_take,
    Nat.min_self]

section Keeps

variable {session : SdpSession} {line : CString} {earlier : List CString}

/-- An IV line. -/
theorem Ciphered.ivLine (h : Ciphered session earlier) (hkey : keyText line = none)
    (hiv : ivText line = some ((sdpGetLineValue line).drop 6)) :
    Ciphered (aesivLine session (sdpGetLineValue line)) (line :: earlier) where
  iv := by
    rw [ivInForce, hiv, ← h.iv]
    rfl
  ivLength := by
    have hroom := base64_room ((sdpGetLineValue line).drop 6) ivSize
    exact (overwrite_length (by rw [h.ivLength]; exact hroom)).trans h.ivLength
  key := by
    rw [keyInForce, hkey]
    exact h.key
  keyLength := h.keyLength
  keyFits := h.keyFits

/-- A key line: its value is there alone if it was decoded, else over the key before. -/
theorem Ciphered.keyLine (h : Ciphered session earlier) (hiv : ivText line = none)
    (hkey : keyText line = some ((sdpGetLineValue line).drop 10)) :
    Ciphered (rsaaeskeyLine session (sdpGetLineValue line)) (line :: earlier) := by
  have hroom := base64_room ((sdpGetLineValue line).drop 10) keySize
  have hcases := sdpBase64Decode_cases ((sdpGetLineValue line).drop 10) keySize
  have hline : rsaaeskeyLine session (sdpGetLineValue line) =
      let r := sdpBase64Decode ((sdpGetLineValue line).drop 10) keySize
      { session with
        aesKeyEncrypted := overwrite session.aesKeyEncrypted r.1
        aesKeyEncryptedLen := if 0 < r.2.getD 0 then r.2.getD 0 else session.aesKeyEncryptedLen
        hasEncryption := true } := rfl
  have hforce : keyInForce (line :: earlier) =
      let r := sdpBase64Decode ((sdpGetLineValue line).drop 10) keySize
      if 0 < r.2.getD 0 then r.1
      else (overwrite (keyInForce earlier) r.1).take (keyInForce earlier).length := by
    rw [keyInForce, hkey]
  -- a key that is not decoded leaves the length, and writes over the start
  have hkept : (keyInForce earlier).length = session.aesKeyEncryptedLen := by
    rw [← h.key, List.length_take, h.keyLength, Nat.min_eq_left h.keyFits]
  rw [hline]
  generalize sdpBase64Decode ((sdpGetLineValue line).drop 10) keySize = r at hroom hcases hforce ⊢
  dsimp only at hforce ⊢
  refine ⟨?_, h.ivLength, ?_, ?_, ?_⟩
  · rw [ivInForce, hiv]
    exact h.iv
  · rw [hforce]
    dsimp only
    by_cases hdecoded : 0 < r.2.getD 0
    · rw [if_pos hdecoded, if_pos hdecoded]
      have hlength : r.2.getD 0 = r.1.length := by
        rcases hcases with hnone | hsome
        · rw [hnone] at hdecoded
          exact absurd hdecoded (Nat.lt_irrefl 0)
        · rw [hsome]
          rfl
      rw [hlength, overwrite, List.take_left]
    · -- the length is the one before, so that much of the array is taken
      rw [if_neg hdecoded, if_neg hdecoded, hkept, ← h.key]
      exact overwrite_take _ _ _
  · exact (overwrite_length (by rw [h.keyLength]; exact hroom)).trans h.keyLength
  · dsimp only
    split
    · rcases hcases with hnone | hsome
      · rw [hnone]
        exact Nat.zero_le _
      · rw [hsome]
        exact hroom
    · exact h.keyFits

/-- **Every line keeps to the key and the IV in force.** -/
theorem sdpLine_ciphered (h : Ciphered session earlier) (line : CString) :
    Ciphered (sdpLine session line) (line :: earlier) := by
  have hstep := sdpLine_cipher session line
  generalize sdpLine session line = after at hstep
  -- the values in force change exactly as the fields of the session do
  cases hstep with
  | other hkey hiv hsame =>
      have hafter := h.same hsame
      refine ⟨?_, hafter.ivLength, ?_, hafter.keyLength, hafter.keyFits⟩
      · rw [ivInForce, hiv]
        exact hafter.iv
      · rw [keyInForce, hkey]
        exact hafter.key
  | key hkey hiv => exact h.keyLine hiv hkey
  | iv hkey hiv => exact h.ivLine hkey hiv

/-- All lines. -/
theorem sdpLines_ciphered (lines : List CString) :
    ∀ {first : SdpSession} {before : List CString}, Ciphered first before →
      Ciphered (lines.foldl sdpLine first) (lines.reverse ++ before) := by
  induction lines with
  | nil => exact fun h => h
  | cons line rest ih =>
      intro first before h
      rw [List.foldl_cons, List.reverse_cons, List.append_assoc]
      exact ih (sdpLine_ciphered h line)

/-- **The parser keeps to the key and the IV in force.** -/
theorem sdpParse_ciphered {body : List UInt8} {scratchLen : ℕ}
    (h : sdpParse body scratchLen = some session) : Ciphered session (latestLines body) := by
  have hlines := sdpLines_ciphered (sdpLines body) start_ciphered
  rw [List.append_nil] at hlines
  rw [sdpParse] at h
  split at h
  · contradiction
  · rw [Option.some.injEq] at h
    subst h
    apply hlines.same
    rw [inferCodec]
    split
    · exact ⟨rfl, rfl, rfl⟩
    · exact ⟨rfl, rfl, rfl⟩

end Keeps

/-! ## Whole values -/

/-- A whole IV is there alone. -/
theorem overwrite_whole {α : Type} {array values : List α} (h : array.length ≤ values.length) :
    overwrite array values = values := by
  rw [overwrite, List.drop_eq_nil_of_le h, List.append_nil]

theorem ivInForce_length (lines : List CString) : (ivInForce lines).length = ivSize := by
  induction lines with
  | nil => exact List.length_replicate
  | cons line earlier ih =>
      rw [ivInForce]
      cases ivText line with
      | none => exact ih
      | some text =>
          have hroom := base64_room text ivSize
          exact (overwrite_length (by rw [ih]; exact hroom)).trans ih

/-- **Where every IV is whole, the one in force is the IV of a line.** -/
theorem ivInForce_whole (lines : List CString) :
    (∀ text ∈ lines.filterMap ivText, ∃ iv, IvOf text iv) → lines.filterMap ivText ≠ [] →
      ∃ text ∈ lines.filterMap ivText, IvOf text (ivInForce lines) := by
  induction lines with
  | nil => exact fun _ hsome => absurd rfl hsome
  | cons line earlier ih =>
      intro hwhole hsome
      rw [ivInForce]
      cases htext : ivText line with
      | none =>
          rw [List.filterMap_cons_none htext] at hwhole hsome ⊢
          exact ih hwhole hsome
      | some text =>
          rw [List.filterMap_cons_some htext] at hwhole ⊢
          obtain ⟨iv, hof, hlength⟩ := hwhole text List.mem_cons_self
          have hdecode := (sdpBase64Decode_iff (by decide : 0 < ivSize)).mpr ⟨hof, hlength.le⟩
          refine ⟨text, List.mem_cons_self, ?_⟩
          dsimp only
          rw [hdecode, overwrite_whole (by rw [ivInForce_length, hlength])]
          exact ⟨hof, hlength⟩

/-- **Where every key is whole, the one in force is the key of a line.** -/
theorem keyInForce_whole (lines : List CString) :
    (∀ text ∈ lines.filterMap keyText, ∃ key, KeyOf text key) → keyInForce lines ≠ [] →
      ∃ text ∈ lines.filterMap keyText, KeyOf text (keyInForce lines) := by
  induction lines with
  | nil => exact fun _ hsome => absurd rfl hsome
  | cons line earlier ih =>
      intro hwhole hsome
      rw [keyInForce] at hsome ⊢
      cases htext : keyText line with
      | none =>
          rw [htext] at hsome
          rw [List.filterMap_cons_none htext] at hwhole ⊢
          exact ih hwhole hsome
      | some text =>
          rw [List.filterMap_cons_some htext] at hwhole ⊢
          obtain ⟨key, hof, hpos, hfits⟩ := hwhole text List.mem_cons_self
          have hdecode := (sdpBase64Decode_iff (by decide : 0 < keySize)).mpr ⟨hof, hfits⟩
          refine ⟨text, List.mem_cons_self, ?_⟩
          dsimp only
          rw [hdecode]
          dsimp only [Option.getD_some]
          rw [if_pos hpos]
          exact ⟨hof, hpos, hfits⟩

end PortableAirplay.Protocol
