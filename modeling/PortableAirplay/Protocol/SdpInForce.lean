import PortableAirplay.Protocol.Sdp

/-!
# Which lines of a description are in force

Attribute lines may override each other in any order. The definitions here say, of
the lines read so far with the latest one first, which codec, sample size and packet
length they ask for, and whether they ask for decryption and bring a key.
`sdpParse_describes` says that the parser keeps to them: each of these values comes
from the last line that speaks of it, and numbers in an fmtp line speak of nothing
while the codec is AAC.
-/

set_option autoImplicit false

namespace PortableAirplay.Protocol

open PortableAirplay.Platform
open PortableAirplay.Util

/-! ## Lines -/

/-- What a line of the description is about. -/
inductive SdpAttribute where
  | rtpmap (codec : SdpCodec)
  | fmtp (params : CString)
  | key (length : ℕ)
  | iv
  | other
  deriving DecidableEq

/-- What an attribute is about, by its value. -/
def attributeOf (value : CString) : SdpAttribute :=
  if startsWith value (ascii "rtpmap:") then
    match scanRtpmap (value.drop 7) with
    | none => .other
    | some (name, _, _) =>
        if codecOfName name = .unknown then .other else .rtpmap (codecOfName name)
  else if startsWith value (ascii "fmtp:") then
    match fmtpParams value with
    | none => .other
    | some params => .fmtp params
  else if startsWith value (ascii "rsaaeskey:") then
    .key ((sdpBase64Decode (value.drop 10) 512).2.getD 0)
  else if startsWith value (ascii "aesiv:") then .iv
  else .other

/-- What a line is about. -/
def sdpAttribute (line : CString) : SdpAttribute :=
  if line.length < 2 then .other
  else if line.head? = some 97 then attributeOf (sdpGetLineValue line)
  else .other

/-- What a line does to a session. -/
inductive LineStep (session : SdpSession) (line : CString) : SdpSession → Prop where
  | passed (hattribute : sdpAttribute line = .other) : LineStep session line session
  | media (hattribute : sdpAttribute line = .other) :
      LineStep session line (mediaLine session (sdpGetLineValue line))
  | rtpmap (hattribute : sdpAttribute line = attributeOf (sdpGetLineValue line))
      (hrtpmap : startsWith (sdpGetLineValue line) (ascii "rtpmap:") = true) :
      LineStep session line (rtpmapLine session (sdpGetLineValue line))
  | fmtp (hattribute : sdpAttribute line = attributeOf (sdpGetLineValue line))
      (hrtpmap : ¬ startsWith (sdpGetLineValue line) (ascii "rtpmap:") = true)
      (hfmtp : startsWith (sdpGetLineValue line) (ascii "fmtp:") = true) :
      LineStep session line (fmtpLine session (sdpGetLineValue line))
  | key (hattribute : sdpAttribute line =
        .key ((sdpBase64Decode ((sdpGetLineValue line).drop 10) 512).2.getD 0)) :
      LineStep session line (rsaaeskeyLine session (sdpGetLineValue line))
  | iv (hattribute : sdpAttribute line = .iv) :
      LineStep session line (aesivLine session (sdpGetLineValue line))

/-- **What a line does is told by what it is about.** -/
theorem sdpLine_step (session : SdpSession) (line : CString) :
    LineStep session line (sdpLine session line) := by
  rw [sdpLine]
  by_cases hshort : line.length < 2
  · rw [if_pos hshort]
    exact .passed (by rw [sdpAttribute, if_pos hshort])
  rw [if_neg hshort]
  dsimp only
  by_cases hhead : line.head? = some 97
  · -- the tests of an attribute line, in the order of the source
    have hattribute : sdpAttribute line = attributeOf (sdpGetLineValue line) := by
      rw [sdpAttribute, if_neg hshort, if_pos hhead]
    rw [hhead]
    rw [attributeLine]
    by_cases hrtpmap : startsWith (sdpGetLineValue line) (ascii "rtpmap:") = true
    · rw [if_pos hrtpmap]
      exact .rtpmap hattribute hrtpmap
    rw [if_neg hrtpmap]
    by_cases hfmtp : startsWith (sdpGetLineValue line) (ascii "fmtp:") = true
    · rw [if_pos hfmtp]
      exact .fmtp hattribute hrtpmap hfmtp
    rw [if_neg hfmtp]
    rw [attributeOf, if_neg hrtpmap, if_neg hfmtp] at hattribute
    by_cases hkey : startsWith (sdpGetLineValue line) (ascii "rsaaeskey:") = true
    · rw [if_pos hkey] at hattribute ⊢
      exact .key hattribute
    rw [if_neg hkey] at hattribute ⊢
    by_cases hiv : startsWith (sdpGetLineValue line) (ascii "aesiv:") = true
    · rw [if_pos hiv] at hattribute ⊢
      exact .iv hattribute
    · rw [if_neg hiv] at hattribute ⊢
      exact .passed hattribute
  · -- a media line, or one that the parser passes over
    have hattribute : sdpAttribute line = .other := by
      rw [sdpAttribute, if_neg hshort, if_neg hhead]
    split
    · exact .media hattribute
    · next hattributeLine => exact absurd hattributeLine hhead
    · exact .passed hattribute

/-- The numbers of an fmtp line, if there are enough of them. -/
def fmtpNumbers (params : CString) : Option (List UInt32) :=
  if (scanNumbers 11 params).length < 3 then none else some (scanNumbers 11 params)

/-! ## Values in force -/

/-- The codec that the lines ask for, the latest line first. -/
def codecInForce : List CString → SdpCodec
  | [] => .unknown
  | line :: earlier =>
      match sdpAttribute line with
      | .rtpmap codec => codec
      | _ => codecInForce earlier

/-- The numbers that a line gives an ALAC or unnamed stream. -/
def numbersOf (line : CString) (earlier : List CString) : Option (List UInt32) :=
  match sdpAttribute line with
  | .fmtp params => if codecInForce earlier = .aac then none else fmtpNumbers params
  | _ => none

/-- The sample size that the lines ask for, before it is replaced. -/
def bitsInForce : List CString → UInt16
  | [] => defaultBitsPerSample
  | line :: earlier =>
      if sdpAttribute line = .rtpmap .pcm then 16
      else
        match numbersOf line earlier with
        | some vals => (vals.getD 2 0).toUInt16
        | none => bitsInForce earlier

/-- The frames of a packet that the lines ask for, before they are replaced. -/
def framesInForce : List CString → UInt32
  | [] => 0
  | line :: earlier =>
      if sdpAttribute line = .rtpmap .aac then 1024
      else
        match numbersOf line earlier with
        | some vals => vals.getD 0 0
        | none => framesInForce earlier

/-- The line asks for decryption. -/
def asksDecryption (line : CString) : Bool :=
  match sdpAttribute line with
  | .key _ => true
  | .iv => true
  | _ => false

/-- The line brings a key of at least one byte. -/
def bringsKey (line : CString) : Bool :=
  match sdpAttribute line with
  | .key length => decide (length > 0)
  | _ => false

/-! ## The parser keeps to them -/

/-- The session has the values in force, and the numbers of an unnamed stream are the
ones that were written with them. -/
structure Describes (session : SdpSession) (earlier : List CString) : Prop where
  codec : session.codec = codecInForce earlier
  bits : session.bitsPerSample = bitsInForce earlier
  frames : session.framesPerPacket = framesInForce earlier
  aac : session.codec = .aac → session.framesPerPacket = 1024
  numbers : session.codec = .unknown → session.alacFmtpCount ≥ 3 →
    session.alacFmtp.getD 0 0 = session.framesPerPacket ∧
      (session.alacFmtp.getD 2 0).toUInt16 = session.bitsPerSample
  encryption : session.hasEncryption = earlier.any asksDecryption
  key : decide (session.aesKeyEncryptedLen > 0) = earlier.any bringsKey

theorem start_describes : Describes SdpSession.start [] where
  codec := rfl
  bits := rfl
  frames := rfl
  aac h := absurd h (by decide)
  numbers _ h := absurd h (by decide)
  encryption := rfl
  key := rfl

section Lines

variable {session : SdpSession} {line : CString} {earlier : List CString}

/-- The line leaves the codec, the packet and the sample size in force as they were. -/
structure LeavesFormat (line : CString) (earlier : List CString) : Prop where
  codec : codecInForce (line :: earlier) = codecInForce earlier
  bits : bitsInForce (line :: earlier) = bitsInForce earlier
  frames : framesInForce (line :: earlier) = framesInForce earlier

/-- Only the codec of an rtpmap line and the numbers of an fmtp line touch the format. -/
theorem leavesFormat_of_silent (hcodec : ∀ codec, sdpAttribute line ≠ .rtpmap codec)
    (hnumbers : numbersOf line earlier = none) : LeavesFormat line earlier where
  codec := by
    rw [codecInForce]
    split
    · rename_i codec hattribute
      exact absurd hattribute (hcodec codec)
    · rfl
  bits := by
    rw [bitsInForce, if_neg (hcodec .pcm), hnumbers]
  frames := by
    rw [framesInForce, if_neg (hcodec .aac), hnumbers]

/-- A line that leaves the format alone, on a session with the same format. -/
theorem Describes.kept (h : Describes session earlier) (hleaves : LeavesFormat line earlier)
    {after : SdpSession} (hcodec : after.codec = session.codec)
    (hbits : after.bitsPerSample = session.bitsPerSample)
    (hframes : after.framesPerPacket = session.framesPerPacket)
    (hcount : after.alacFmtpCount = session.alacFmtpCount)
    (hfmtp : after.alacFmtp = session.alacFmtp)
    (hencryption : after.hasEncryption = (asksDecryption line || session.hasEncryption))
    (hkey : decide (after.aesKeyEncryptedLen > 0) =
      (bringsKey line || decide (session.aesKeyEncryptedLen > 0))) :
    Describes after (line :: earlier) where
  codec := by
    rw [hcodec, hleaves.codec]
    exact h.codec
  bits := by
    rw [hbits, hleaves.bits]
    exact h.bits
  frames := by
    rw [hframes, hleaves.frames]
    exact h.frames
  aac hafter := by
    rw [hframes]
    exact h.aac (hcodec ▸ hafter)
  numbers hafter hmany := by
    rw [hfmtp, hframes, hbits]
    exact h.numbers (hcodec ▸ hafter) (hcount ▸ hmany)
  encryption := by
    rw [hencryption, List.any_cons, h.encryption]
  key := by
    rw [hkey, List.any_cons, h.key]

/-- A line that says nothing of the values, on a session with the same values. -/
theorem Describes.other (h : Describes session earlier) (hline : sdpAttribute line = .other)
    {after : SdpSession} (hcodec : after.codec = session.codec)
    (hbits : after.bitsPerSample = session.bitsPerSample)
    (hframes : after.framesPerPacket = session.framesPerPacket)
    (hcount : after.alacFmtpCount = session.alacFmtpCount)
    (hfmtp : after.alacFmtp = session.alacFmtp)
    (hencryption : after.hasEncryption = session.hasEncryption)
    (hkey : after.aesKeyEncryptedLen = session.aesKeyEncryptedLen) :
    Describes after (line :: earlier) := by
  have hleaves : LeavesFormat line earlier :=
    leavesFormat_of_silent (by simp [hline]) (by rw [numbersOf, hline])
  refine h.kept hleaves hcodec hbits hframes hcount hfmtp ?_ ?_
  · rw [hencryption, asksDecryption, hline, Bool.false_or]
  · rw [hkey, bringsKey, hline, Bool.false_or]

theorem codecOfName_cases (name : CString) :
    codecOfName name = .unknown ∨ codecOfName name = .alac ∨ codecOfName name = .aac ∨
      codecOfName name = .pcm := by
  cases codecOfName name with
  | unknown => exact Or.inl rfl
  | alac => exact Or.inr (Or.inl rfl)
  | aac => exact Or.inr (Or.inr (Or.inl rfl))
  | pcm => exact Or.inr (Or.inr (Or.inr rfl))

/-- An rtpmap line names the codec; AAC fixes the packet and PCM the sample size. -/
theorem Describes.rtpmap (h : Describes session earlier) {codec : SdpCodec}
    (hline : sdpAttribute line = .rtpmap codec) {after : SdpSession}
    (hcodec : after.codec = codec) (hknown : codec ≠ .unknown)
    (hbits : after.bitsPerSample = if codec = .pcm then 16 else session.bitsPerSample)
    (hframes : after.framesPerPacket = if codec = .aac then 1024 else session.framesPerPacket)
    (hencryption : after.hasEncryption = session.hasEncryption)
    (hkey : after.aesKeyEncryptedLen = session.aesKeyEncryptedLen) :
    Describes after (line :: earlier) where
  codec := by
    rw [hcodec, codecInForce, hline]
  bits := by
    rw [hbits, bitsInForce, numbersOf, hline, ← h.bits]
    simp only [SdpAttribute.rtpmap.injEq]
  frames := by
    rw [hframes, framesInForce, numbersOf, hline, ← h.frames]
    simp only [SdpAttribute.rtpmap.injEq]
  aac hafter := by
    rw [hframes, if_pos (hcodec.symm.trans hafter)]
  numbers hafter := absurd (hcodec.symm.trans hafter) hknown
  encryption := by
    rw [hencryption, List.any_cons, asksDecryption, hline]
    exact h.encryption
  key := by
    rw [hkey, List.any_cons, bringsKey, hline]
    exact h.key

theorem rtpmapLine_describes (h : Describes session earlier)
    (hattribute : sdpAttribute line = attributeOf (sdpGetLineValue line))
    (hrtpmap : startsWith (sdpGetLineValue line) (ascii "rtpmap:") = true) :
    Describes (rtpmapLine session (sdpGetLineValue line)) (line :: earlier) := by
  rw [attributeOf, if_pos hrtpmap] at hattribute
  rw [rtpmapLine]
  cases hscan : scanRtpmap ((sdpGetLineValue line).drop 7) with
  | none =>
      rw [hscan] at hattribute
      exact h.other hattribute rfl rfl rfl rfl rfl rfl rfl
  | some fields =>
      obtain ⟨name, rate, channels⟩ := fields
      rw [hscan] at hattribute
      dsimp only at hattribute ⊢
      rcases codecOfName_cases name with hname | hname | hname | hname
      · rw [hname] at hattribute ⊢
        exact h.other hattribute rfl rfl rfl rfl rfl rfl rfl
      · rw [hname] at hattribute ⊢
        exact h.rtpmap hattribute rfl (by decide) rfl rfl rfl rfl
      · rw [hname] at hattribute ⊢
        exact h.rtpmap hattribute rfl (by decide) rfl rfl rfl rfl
      · rw [hname] at hattribute ⊢
        exact h.rtpmap hattribute rfl (by decide) rfl rfl rfl rfl

theorem getD_overwrite (array values : List UInt32) {i : ℕ} (h : i < values.length) :
    (overwrite array values).getD i 0 = values.getD i 0 := by
  rw [overwrite, List.getD_eq_getElem?_getD, List.getElem?_append_left h,
    ← List.getD_eq_getElem?_getD]

/-- A line whose numbers are taken gives the packet and the sample size. -/
theorem Describes.numbered (h : Describes session earlier) {vals : List UInt32}
    (hnumbers : numbersOf line earlier = some vals) (hmany : ¬ vals.length < 3)
    {after : SdpSession} (hcodec : after.codec = session.codec)
    (hbits : after.bitsPerSample = (vals.getD 2 0).toUInt16)
    (hframes : after.framesPerPacket = vals.getD 0 0)
    (hfmtp : after.alacFmtp = overwrite session.alacFmtp vals)
    (hencryption : after.hasEncryption = session.hasEncryption)
    (hkey : after.aesKeyEncryptedLen = session.aesKeyEncryptedLen) :
    Describes after (line :: earlier) := by
  -- only an fmtp line has numbers, and for AAC they are not read
  have hline : ∃ params, sdpAttribute line = .fmtp params ∧ codecInForce earlier ≠ .aac := by
    rw [numbersOf] at hnumbers
    cases hattribute : sdpAttribute line with
    | fmtp params =>
        rw [hattribute] at hnumbers
        dsimp only at hnumbers
        split at hnumbers
        · simp at hnumbers
        · rename_i hnot
          exact ⟨params, rfl, hnot⟩
    | rtpmap codec => simp [hattribute] at hnumbers
    | key length => simp [hattribute] at hnumbers
    | iv => simp [hattribute] at hnumbers
    | other => simp [hattribute] at hnumbers
  obtain ⟨params, hattribute, hnot⟩ := hline
  refine
    { codec := ?_, bits := ?_, frames := ?_, aac := ?_, numbers := ?_, encryption := ?_, key := ?_ }
  · rw [hcodec, codecInForce, hattribute]
    exact h.codec
  · rw [hbits, bitsInForce, hnumbers, hattribute]
    rfl
  · rw [hframes, framesInForce, hnumbers, hattribute]
    rfl
  · intro hafter
    -- the codec did not change, and was not AAC
    rw [hcodec, h.codec] at hafter
    exact absurd hafter hnot
  · intro _ _
    rw [hfmtp, hframes, hbits, getD_overwrite _ _ (by omega), getD_overwrite _ _ (by omega)]
    exact ⟨rfl, rfl⟩
  · rw [hencryption, List.any_cons, asksDecryption, hattribute]
    exact h.encryption
  · rw [hkey, List.any_cons, bringsKey, hattribute]
    exact h.key

/-- An fmtp line whose numbers are not taken says nothing of the values. -/
theorem Describes.unnumbered (h : Describes session earlier) {params : CString}
    (hattribute : sdpAttribute line = .fmtp params) (hnumbers : numbersOf line earlier = none)
    {after : SdpSession} (hcodec : after.codec = session.codec)
    (hbits : after.bitsPerSample = session.bitsPerSample)
    (hframes : after.framesPerPacket = session.framesPerPacket)
    (hcount : after.alacFmtpCount = session.alacFmtpCount)
    (hfmtp : after.alacFmtp = session.alacFmtp)
    (hencryption : after.hasEncryption = session.hasEncryption)
    (hkey : after.aesKeyEncryptedLen = session.aesKeyEncryptedLen) :
    Describes after (line :: earlier) := by
  have hleaves : LeavesFormat line earlier :=
    leavesFormat_of_silent (by simp [hattribute]) hnumbers
  refine h.kept hleaves hcodec hbits hframes hcount hfmtp ?_ ?_
  · rw [hencryption, asksDecryption, hattribute, Bool.false_or]
  · rw [hkey, bringsKey, hattribute, Bool.false_or]

theorem fmtpLine_describes (h : Describes session earlier)
    (hattribute : sdpAttribute line = attributeOf (sdpGetLineValue line))
    (hrtpmap : ¬ startsWith (sdpGetLineValue line) (ascii "rtpmap:") = true)
    (hfmtp : startsWith (sdpGetLineValue line) (ascii "fmtp:") = true) :
    Describes (fmtpLine session (sdpGetLineValue line)) (line :: earlier) := by
  rw [attributeOf, if_neg hrtpmap, if_pos hfmtp] at hattribute
  rw [fmtpLine]
  cases hparams : fmtpParams (sdpGetLineValue line) with
  | none =>
      rw [hparams] at hattribute
      exact h.other hattribute rfl rfl rfl rfl rfl rfl rfl
  | some params =>
      rw [hparams] at hattribute
      dsimp only at hattribute ⊢
      have hnumbers : numbersOf line earlier =
          if codecInForce earlier = .aac then none else fmtpNumbers params := by
        rw [numbersOf, hattribute]
      -- for AAC the numbers say nothing; else there must be enough of them
      by_cases haac : session.codec = .aac
      · rw [if_pos haac, aacFmtp]
        rw [← h.codec, if_pos haac] at hnumbers
        cases strstr (ascii "config=") params with
        | none => exact h.unnumbered hattribute hnumbers rfl rfl rfl rfl rfl rfl rfl
        | some config => exact h.unnumbered hattribute hnumbers rfl rfl rfl rfl rfl rfl rfl
      · rw [if_neg haac, alacFmtp]
        rw [← h.codec, if_neg haac, fmtpNumbers] at hnumbers
        by_cases hfew : (scanNumbers 11 params).length < 3
        · rw [if_pos hfew] at hnumbers ⊢
          exact h.unnumbered hattribute hnumbers rfl rfl rfl rfl rfl rfl rfl
        · rw [if_neg hfew] at hnumbers ⊢
          exact h.numbered hnumbers hfew rfl rfl rfl rfl rfl rfl

/-- A line about decryption says nothing of the format. -/
theorem Describes.encrypted (h : Describes session earlier)
    (hline : (∃ length, sdpAttribute line = .key length) ∨ sdpAttribute line = .iv)
    {after : SdpSession} (hcodec : after.codec = session.codec)
    (hbits : after.bitsPerSample = session.bitsPerSample)
    (hframes : after.framesPerPacket = session.framesPerPacket)
    (hcount : after.alacFmtpCount = session.alacFmtpCount)
    (hfmtp : after.alacFmtp = session.alacFmtp)
    (hencryption : after.hasEncryption = true)
    (hkey : decide (after.aesKeyEncryptedLen > 0) =
      (bringsKey line || decide (session.aesKeyEncryptedLen > 0))) :
    Describes after (line :: earlier) := by
  have hsays : LeavesFormat line earlier ∧ asksDecryption line = true := by
    rcases hline with ⟨length, hattribute⟩ | hattribute
    · exact ⟨leavesFormat_of_silent (by simp [hattribute]) (by rw [numbersOf, hattribute]),
        by rw [asksDecryption, hattribute]⟩
    · exact ⟨leavesFormat_of_silent (by simp [hattribute]) (by rw [numbersOf, hattribute]),
        by rw [asksDecryption, hattribute]⟩
  obtain ⟨hleaves, hasks⟩ := hsays
  refine h.kept hleaves hcodec hbits hframes hcount hfmtp ?_ hkey
  rw [hencryption, hasks, Bool.true_or]

/-- A media line leaves the values alone. -/
theorem mediaLine_describes (h : Describes session earlier) (hattribute : sdpAttribute line = .other)
    (value : CString) : Describes (mediaLine session value) (line :: earlier) := by
  rw [mediaLine]
  split
  · cases afterLast 32 value with
    | none => exact h.other hattribute rfl rfl rfl rfl rfl rfl rfl
    | some text => exact h.other hattribute rfl rfl rfl rfl rfl rfl rfl
  · exact h.other hattribute rfl rfl rfl rfl rfl rfl rfl

/-- **Every line keeps to the values in force.** -/
theorem sdpLine_describes (h : Describes session earlier) (line : CString) :
    Describes (sdpLine session line) (line :: earlier) := by
  have hstep := sdpLine_step session line
  generalize sdpLine session line = after at hstep
  -- one case for each kind of line
  cases hstep with
  | passed hattribute => exact h.other hattribute rfl rfl rfl rfl rfl rfl rfl
  | media hattribute => exact mediaLine_describes h hattribute _
  | rtpmap hattribute hrtpmap => exact rtpmapLine_describes h hattribute hrtpmap
  | fmtp hattribute hrtpmap hfmtp => exact fmtpLine_describes h hattribute hrtpmap hfmtp
  | key hattribute =>
      refine h.encrypted (Or.inl ⟨_, hattribute⟩) rfl rfl rfl rfl rfl rfl ?_
      rw [bringsKey, hattribute, rsaaeskeyLine]
      dsimp only
      by_cases hlength : (sdpBase64Decode ((sdpGetLineValue line).drop 10) 512).2.getD 0 > 0
      · rw [if_pos hlength]
        simp [hlength]
      · rw [if_neg hlength]
        simp [hlength]
  | iv hattribute =>
      refine h.encrypted (Or.inr hattribute) rfl rfl rfl rfl rfl rfl ?_
      rw [bringsKey, hattribute, aesivLine]
      rfl

/-- All lines. -/
theorem sdpLines_describes (lines : List CString) :
    ∀ {first : SdpSession} {before : List CString}, Describes first before →
      Describes (lines.foldl sdpLine first) (lines.reverse ++ before) := by
  induction lines with
  | nil => exact fun h => h
  | cons line rest ih =>
      intro first before h
      rw [List.foldl_cons, List.reverse_cons, List.append_assoc]
      exact ih (sdpLine_describes h line)

end Lines

/-- The lines of a description, the latest first. -/
def latestLines (body : List UInt8) : List CString := (sdpLines body).reverse

/-- What the parser makes of the values in force. -/
structure ParsedFrom (session : SdpSession) (body : List UInt8) : Prop where
  codec : session.codec = .aac ↔ codecInForce (latestLines body) = .aac
  bits : session.bitsPerSample =
    if bitsInForce (latestLines body) = 24 then 24 else 16
  frames : session.framesPerPacket =
    if framesInForce (latestLines body) = 0 ∨ framesInForce (latestLines body) > 8192 then
      defaultFramesPerPacket
    else framesInForce (latestLines body)
  aac : session.codec = .aac → session.framesPerPacket = 1024
  rate : session.sampleRate ≠ 0
  channels : session.channels ≠ 0 ∧ session.channels ≤ 2
  encryption : session.hasEncryption = (latestLines body).any asksDecryption
  key : decide (session.aesKeyEncryptedLen > 0) = (latestLines body).any bringsKey

/-- Inferring the codec does not change what the lines ask for. -/
theorem inferCodec_describes {session : SdpSession} {lines : List CString}
    (h : Describes session lines) :
    (inferCodec session).bitsPerSample = session.bitsPerSample ∧
      (inferCodec session).framesPerPacket = session.framesPerPacket ∧
      ((inferCodec session).codec = .aac ↔ session.codec = .aac) ∧
      (inferCodec session).hasEncryption = session.hasEncryption ∧
      (inferCodec session).aesKeyEncryptedLen = session.aesKeyEncryptedLen := by
  rw [inferCodec]
  split
  · rename_i hunnamed
    obtain ⟨hframes, hbits⟩ := h.numbers hunnamed.1 hunnamed.2
    refine ⟨?_, ?_, ?_, rfl, rfl⟩
    · dsimp only
      rw [hbits, ite_self]
    · dsimp only
      rw [hframes, ite_self]
    · rw [hunnamed.1]
      exact ⟨fun hfalse => absurd hfalse (by simp), fun hfalse => absurd hfalse (by simp)⟩
  · exact ⟨rfl, rfl, Iff.rfl, rfl, rfl⟩

/-- **The parser keeps to the values in force.** -/
theorem sdpParse_describes {body : List UInt8} {scratchLen : ℕ} {session : SdpSession}
    (h : sdpParse body scratchLen = some session) : ParsedFrom session body := by
  have hlines := sdpLines_describes (sdpLines body) start_describes
  rw [List.append_nil] at hlines
  rw [sdpParse] at h
  split at h
  · simp at h
  · rw [Option.some.injEq] at h
    subst h
    -- what `sanitize` makes of the values after all lines
    generalize (sdpLines body).foldl sdpLine SdpSession.start = parsed at hlines
    obtain ⟨hbits, hframes, hcodec, hencryption, hkey⟩ := inferCodec_describes hlines
    refine
      { codec := ?_, bits := ?_, frames := ?_, aac := ?_, rate := ?_, channels := ?_,
        encryption := ?_, key := ?_ }
    · rw [latestLines, ← hlines.codec]
      exact hcodec
    · rw [latestLines, ← hlines.bits, sanitize]
      dsimp only
      rw [hbits]
      by_cases htwentyfour : parsed.bitsPerSample = 24
      · rw [if_pos htwentyfour, if_neg (by simp [htwentyfour]), htwentyfour]
      · rw [if_neg htwentyfour]
        by_cases hsixteen : parsed.bitsPerSample = 16
        · rw [if_neg (by simp [hsixteen]), hsixteen]
        · rw [if_pos ⟨hsixteen, htwentyfour⟩]
          rfl
    · rw [latestLines, ← hlines.frames, sanitize]
      dsimp only
      rw [hframes]
    · intro haac
      have hfixed := hlines.aac (hcodec.mp haac)
      rw [sanitize]
      dsimp only
      rw [hframes, hfixed]
      rfl
    · rw [sanitize]
      dsimp only
      split
      · decide
      · rename_i hrange
        intro hzero
        rw [hzero] at hrange
        exact hrange (Or.inl (by decide))
    · rw [sanitize]
      dsimp only
      split
      · exact ⟨by decide, by decide⟩
      · rename_i hrange
        rw [not_or] at hrange
        exact ⟨hrange.1, UInt16.not_lt.mp hrange.2⟩
    · rw [latestLines, ← hlines.encryption]
      exact hencryption
    · rw [latestLines, ← hlines.key]
      exact congrArg (fun length => decide (length > 0)) hkey

end PortableAirplay.Protocol
