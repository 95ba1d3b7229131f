import PortableAirplay.Config
import PortableAirplay.Util.Text
import Mathlib.Algebra.Group.Int.Defs

/-!
# Session descriptions

`protocol/sdp.c`: the session that an ANNOUNCE body describes. The parser works on
a copy of the body up to its first zero byte, line by line (`sdpLine`), and
finally replaces values that no sender uses (`sanitize`). An array of the session
keeps the bytes it had where a shorter value is written over it.
-/

set_option autoImplicit false

namespace PortableAirplay.Protocol

open PortableAirplay.Platform
open PortableAirplay.Util

/-! ## Sessions -/

/-- `sdp_codec_t`. -/
inductive SdpCodec where
  | unknown
  | alac
  | aac
  | pcm
  deriving DecidableEq, Repr

/-- `sdp_session_t`. -/
structure SdpSession where
  codec : SdpCodec
  sampleRate : UInt32
  channels : UInt16
  bitsPerSample : UInt16
  framesPerPacket : UInt32
  alacFmtp : List UInt32
  alacFmtpCount : ℕ
  aacConfig : List UInt8
  aacConfigLen : ℕ
  aacSizeLength : UInt8
  aacIndexLength : UInt8
  aacIndexDeltaLength : UInt8
  aesKeyEncrypted : List UInt8
  aesKeyEncryptedLen : ℕ
  aesIv : List UInt8
  hasEncryption : Bool
  payloadType : UInt8
  streamType : UInt16
  audioKey : List UInt8
  latencyFrames : UInt32
  deriving DecidableEq, Repr

/-- The session after `memset(session, 0, sizeof(sdp_session_t))`. -/
def SdpSession.zero : SdpSession where
  codec := .unknown
  sampleRate := 0
  channels := 0
  bitsPerSample := 0
  framesPerPacket := 0
  alacFmtp := List.replicate 12 0
  alacFmtpCount := 0
  aacConfig := List.replicate 64 0
  aacConfigLen := 0
  aacSizeLength := 0
  aacIndexLength := 0
  aacIndexDeltaLength := 0
  aesKeyEncrypted := List.replicate 512 0
  aesKeyEncryptedLen := 0
  aesIv := List.replicate 16 0
  hasEncryption := false
  payloadType := 0
  streamType := 0
  audioKey := List.replicate 32 0
  latencyFrames := 0

/-- `AIRPLAY_STREAM_TYPE_REALTIME`. -/
def streamTypeRealtime : UInt16 := 96

/-- `AIRPLAY_STREAM_TYPE_BUFFERED`. -/
def streamTypeBuffered : UInt16 := 103

/-- `AIRPLAY_DEFAULT_SAMPLE_RATE`. -/
def defaultSampleRate : UInt32 := 44100

/-- `AIRPLAY_DEFAULT_CHANNELS`. -/
def defaultChannels : UInt16 := 2

/-- `AIRPLAY_DEFAULT_BITS_PER_SAMPLE`. -/
def defaultBitsPerSample : UInt16 := 16

/-- `AIRPLAY_DEFAULT_FRAMES_PER_PACKET`. -/
def defaultFramesPerPacket : UInt32 := 352

/-- The first elements of an array are overwritten. -/
def overwrite {α : Type} (array values : List α) : List α :=
  values ++ array.drop values.length

/-! ## Values -/

/-- A hexadecimal digit. -/
def hexDigit (c : UInt8) : Option ℕ :=
  if isDigit c then some (digitValue c)
  else if 97 ≤ c ∧ c ≤ 102 then some (c.toNat - 97 + 10)
  else if 65 ≤ c ∧ c ≤ 70 then some (c.toNat - 65 + 10)
  else none

/-- The loop of `parse_hex_bytes`: the bytes written, and whether they fit. -/
def hexBytes (capacity : ℕ) : List UInt8 → CString → List UInt8 × Bool
  | written, high :: low :: text =>
      match hexDigit high, hexDigit low with
      | some h, some l =>
          if written.length ≥ capacity then (written, false)
          else hexBytes capacity (written ++ [UInt8.ofNat (h * 16 + l)]) text
      | _, _ => (written, true)
  | written, _ => (written, true)

/-- `parse_hex_bytes`: the bytes written and the result, `none` for -1. -/
def parseHexBytes (text : CString) (capacity : ℕ) : List UInt8 × Option ℕ :=
  let r := hexBytes capacity [] text
  (r.1, if r.2 = true ∧ r.1 ≠ [] then some r.1.length else none)

/-- `base64_chars`. -/
def base64Chars : CString :=
  ascii "ABCDEFGHIJKLMNOPQRSTUVWXYZabcdefghijklmnopqrstuvwxyz0123456789+/"

/-- The loop of `sdp_base64_decode`: the bytes written and whether it succeeded. -/
def base64Loop (outputSize : ℕ) (buffer bits : ℕ) (output : List UInt8) :
    CString → List UInt8 × Bool
  | [] => (output, true)
  | c :: input =>
      if isSpace c then base64Loop outputSize buffer bits output input
      -- padding ends the text, with or without bits left over
      else if c = 61 then (output, true)
      else if c ∉ base64Chars then (output, false)
      else
        let buffer := buffer * 64 + base64Chars.idxOf c
        let bits := bits + 6
        -- no byte is complete yet
        if bits < 8 then base64Loop outputSize buffer bits output input
        else if output.length ≥ outputSize then (output, false)
        else
          base64Loop outputSize (buffer % 2 ^ (bits - 8)) (bits - 8)
            (output ++ [UInt8.ofNat (buffer / 2 ^ (bits - 8))]) input

/-- `sdp_base64_decode`: the bytes written and the result, `none` for -1. -/
def sdpBase64Decode (input : CString) (outputSize : ℕ) : List UInt8 × Option ℕ :=
  if outputSize = 0 then ([], none)
  else
    let r := base64Loop outputSize 0 0 [] input
    (r.1, if r.2 then some r.1.length else none)

/-- `atoi`, through `strtol` on a 64-bit target. -/
def atoi (text : CString) : ℤ :=
  let start := text.dropWhile isSpace
  let negative := start.head? = some 45
  let body := if negative ∨ start.head? = some 43 then start.drop 1 else start
  let value : ℤ := (body.takeWhile isDigit).foldl (fun v c => v * 10 + digitValue c) (0 : ℕ)
  if negative then max (-value) (-2 ^ 63) else min value (2 ^ 63 - 1)

/-- The `%*d` conversion of `sscanf`: the rest of the input. -/
def skipInt (text : CString) : Option CString :=
  let start := text.dropWhile isSpace
  let body := if start.head? = some 45 ∨ start.head? = some 43 then start.drop 1 else start
  let digits := body.takeWhile isDigit
  if digits = [] then none else some (body.drop digits.length)

/-- `sdp_get_line_value`. -/
def sdpGetLineValue (line : CString) : CString :=
  match strchr 61 line with
  | some eq => eq.drop 1
  | none =>
      match strchr 58 line with
      | some colon => colon.drop 1
      | none => line

/-! ## Lines -/

/-- `sscanf(value, "%*d %63[^/]/%u/%u", …)` with at least two conversions: the
codec, the rate and the channels. Where it makes fewer, so does the second
attempt without the channels. -/
def scanRtpmap (text : CString) : Option (CString × UInt32 × Option UInt32) := do
  let rest ← skipInt text
  let rest := rest.dropWhile isSpace
  let codec := (rest.takeWhile (· ≠ 47)).take 63
  if codec = [] then none
  else
    let rest := rest.drop codec.length
    if rest.head? ≠ some 47 then none
    else
      let (rate, rest) ← scanUnsigned (rest.drop 1)
      if rest.head? = some 47 then
        some (codec, rate, (scanUnsigned (rest.drop 1)).map Prod.fst)
      else some (codec, rate, none)

/-- `sscanf(params, "%u %u …", …)`: at most `fuel` numbers. -/
def scanNumbers : ℕ → CString → List UInt32
  | 0, _ => []
  | fuel + 1, text =>
      match scanUnsigned text with
      | none => []
      | some (value, rest) => value :: scanNumbers fuel rest

/-- The codec that the name of an rtpmap line stands for. -/
def codecOfName (name : CString) : SdpCodec :=
  let name := name.map asciiLower
  let named := fun key => (strstr key name).isSome
  if named (ascii "applelossless") || named (ascii "alac") then .alac
  else if named (ascii "aac") || named (ascii "mpeg4-generic") || named (ascii "mp4a") then .aac
  else if named (ascii "l16") || named (ascii "pcm") then .pcm
  else .unknown

/-- An `a=rtpmap:` line. -/
def rtpmapLine (session : SdpSession) (value : CString) : SdpSession :=
  match scanRtpmap (value.drop 7) with
  | none => session
  | some (name, rate, channels) =>
      -- without a third field the channels stay as they are
      let channels := (channels.map UInt32.toUInt16).getD session.channels
      match codecOfName name with
      | .alac => { session with codec := .alac, sampleRate := rate, channels := channels }
      | .aac =>
          { session with
            codec := .aac, sampleRate := rate, framesPerPacket := 1024, channels := channels }
      | .pcm =>
          { session with
            codec := .pcm, sampleRate := rate, channels := channels, bitsPerSample := 16 }
      -- a codec that is not known leaves the rate alone, too
      | .unknown => session

/-- The number after `key` in the parameters of an AAC fmtp line. -/
def aacLength (params key : CString) (fallback : UInt8) : UInt8 :=
  match strstr key params with
  -- the value is cast to a `uint8_t`, so larger numbers wrap around
  | some found => UInt8.ofInt (atoi (found.drop key.length))
  | none => fallback

/-- An `a=fmtp:` line of an AAC session. -/
def aacFmtp (session : SdpSession) (params : CString) : SdpSession :=
  let session :=
    match strstr (ascii "config=") params with
    | none => session
    | some config =>
        -- bytes are written even where the text does not parse; then the length is 0
        let r := parseHexBytes (config.drop 7) 64
        { session with
          aacConfig := overwrite session.aacConfig r.1, aacConfigLen := r.2.getD 0 }
  { session with
    aacSizeLength := aacLength params (ascii "sizelength=") 13
    aacIndexLength := aacLength params (ascii "indexlength=") 3
    aacIndexDeltaLength := aacLength params (ascii "indexdeltalength=") 3 }

/-- An `a=fmtp:` line with numbers. -/
def alacFmtp (session : SdpSession) (params : CString) : SdpSession :=
  let vals := scanNumbers 11 params
  if vals.length < 3 then session
  else
    { session with
      alacFmtpCount := vals.length
      alacFmtp := overwrite session.alacFmtp vals
      framesPerPacket := vals.getD 0 0
      bitsPerSample := (vals.getD 2 0).toUInt16
      -- the later numbers are optional
      channels := if vals.length ≥ 7 then (vals.getD 6 0).toUInt16 else session.channels
      sampleRate := if vals.length ≥ 11 then vals.getD 10 0 else session.sampleRate }

/-- The parameters of an fmtp line: what follows the first blank. -/
def fmtpParams (value : CString) : Option CString :=
  (strchr 32 (value.drop 5)).map fun text => text.drop 1

/-- An `a=fmtp:` line. -/
def fmtpLine (session : SdpSession) (value : CString) : SdpSession :=
  match fmtpParams value with
  | none => session
  | some params =>
      if session.codec = .aac then aacFmtp session params else alacFmtp session params

/-- An `a=rsaaeskey:` line. -/
def rsaaeskeyLine (session : SdpSession) (value : CString) : SdpSession :=
  let r := sdpBase64Decode (value.drop 10) 512
  let length := r.2.getD 0
  { session with
    aesKeyEncrypted := overwrite session.aesKeyEncrypted r.1
    -- a key that does not decode keeps the old length, over new bytes
    aesKeyEncryptedLen := if length > 0 then length else session.aesKeyEncryptedLen
    hasEncryption := true }

/-- An `a=aesiv:` line. -/
def aesivLine (session : SdpSession) (value : CString) : SdpSession :=
  { session with
    aesIv := overwrite session.aesIv (sdpBase64Decode (value.drop 6) 16).1
    hasEncryption := true }

/-- An attribute line. -/
def attributeLine (session : SdpSession) (value : CString) : SdpSession :=
  if startsWith value (ascii "rtpmap:") then rtpmapLine session value
  else if startsWith value (ascii "fmtp:") then fmtpLine session value
  else if startsWith value (ascii "rsaaeskey:") then rsaaeskeyLine session value
  else if startsWith value (ascii "aesiv:") then aesivLine session value
  else session

/-- `sscanf(value, "%31s %u", …) >= 2` for `audio`. -/
def isAudioMedia (value : CString) : Bool :=
  match scanWord 31 value with
  | none => false
  | some (media, rest) => (scanUnsigned rest).isSome && media == ascii "audio"

/-- A media line: the payload type after the last blank. -/
def mediaLine (session : SdpSession) (value : CString) : SdpSession :=
  if isAudioMedia value then
    match afterLast 32 value with
    | some text => { session with payloadType := UInt8.ofInt (atoi text) }
    | none => session
  else session

/-- One line of the description. -/
def sdpLine (session : SdpSession) (line : CString) : SdpSession :=
  -- a type and its `=`
  if line.length < 2 then session
  else
    let value := sdpGetLineValue line
    match line.head? with
    | some 109 => mediaLine session value
    | some 97 => attributeLine session value
    | _ => session

/-- The tokens of `strtok(scratch, "\r\n")`. -/
def sdpLines (data : List UInt8) : List CString :=
  ((data.takeWhile (· ≠ 0)).splitOnP fun c => c == 13 || c == 10).filter (· ≠ [])

/-! ## The parser -/

/-- The defaults of `sdp_parse`. -/
def SdpSession.start : SdpSession :=
  { SdpSession.zero with
    sampleRate := defaultSampleRate
    channels := defaultChannels
    bitsPerSample := defaultBitsPerSample
    payloadType := 96 }

/-- An ALAC fmtp without a codec stands for ALAC. -/
def inferCodec (session : SdpSession) : SdpSession :=
  if session.codec = .unknown ∧ session.alacFmtpCount ≥ 3 then
    { session with
      codec := .alac
      framesPerPacket :=
        if session.framesPerPacket = 0 then session.alacFmtp.getD 0 0
        else session.framesPerPacket
      bitsPerSample :=
        if session.bitsPerSample = 0 then (session.alacFmtp.getD 2 0).toUInt16
        else session.bitsPerSample
      channels :=
        if session.alacFmtpCount ≥ 7 ∧ session.channels = 0 then
          (session.alacFmtp.getD 6 0).toUInt16
        else session.channels
      sampleRate :=
        if session.alacFmtpCount ≥ 11 ∧ session.sampleRate = 0 then session.alacFmtp.getD 10 0
        else session.sampleRate }
  else session

/-- The replacement of values outside the ranges that senders use. -/
def sanitize (session : SdpSession) : SdpSession :=
  { session with
    framesPerPacket :=
      if session.framesPerPacket = 0 ∨ session.framesPerPacket > 8192 then defaultFramesPerPacket
      else session.framesPerPacket
    sampleRate :=
      if session.sampleRate < 8000 ∨ session.sampleRate > 192000 then defaultSampleRate
      else session.sampleRate
    channels :=
      if session.channels = 0 ∨ session.channels > 2 then defaultChannels else session.channels
    bitsPerSample :=
      if session.bitsPerSample ≠ 16 ∧ session.bitsPerSample ≠ 24 then defaultBitsPerSample
      else session.bitsPerSample }

/-- `sdp_parse` with a scratch buffer of `scratchLen` bytes; `none` for -1. -/
def sdpParse (data : List UInt8) (scratchLen : ℕ) : Option SdpSession :=
  if data = [] ∨ scratchLen = 0 ∨ scratchLen < data.length + 1 then none
  else some (sanitize (inferCodec ((sdpLines data).foldl sdpLine SdpSession.start)))

/-! ## The stream type -/

theorem rtpmapLine_streamType (session : SdpSession) (value : CString) :
    (rtpmapLine session value).streamType = session.streamType := by
  rw [rtpmapLine]
  cases scanRtpmap (value.drop 7) with
  | none => rfl
  | some fields =>
      dsimp only
      cases codecOfName fields.1 with
      | unknown => rfl
      | alac => rfl
      | aac => rfl
      | pcm => rfl

theorem fmtpLine_streamType (session : SdpSession) (value : CString) :
    (fmtpLine session value).streamType = session.streamType := by
  rw [fmtpLine]
  cases fmtpParams value with
  | none => rfl
  | some params =>
      dsimp only
      by_cases haac : session.codec = .aac
      · rw [if_pos haac, aacFmtp]
        cases strstr (ascii "config=") params with
        | none => rfl
        | some config => rfl
      · rw [if_neg haac, alacFmtp]
        split
        · rfl
        · rfl

theorem sdpLine_streamType (session : SdpSession) (line : CString) :
    (sdpLine session line).streamType = session.streamType := by
  rw [sdpLine]
  dsimp only
  split
  · rfl
  · split
    · rw [mediaLine]
      split
      · cases afterLast 32 (sdpGetLineValue line) with
        | none => rfl
        | some text => rfl
      · rfl
    · rw [attributeLine]
      split
      · exact rtpmapLine_streamType _ _
      · split
        · exact fmtpLine_streamType _ _
        · split
          · rfl
          · split
            · rfl
            · rfl
    · rfl

/-- A session that was announced has no AirPlay 2 stream type. -/
theorem sdpParse_streamType {data : List UInt8} {scratchLen : ℕ} {session : SdpSession}
    (h : sdpParse data scratchLen = some session) : session.streamType = 0 := by
  have hlines : ∀ (lines : List CString) (first : SdpSession),
      (lines.foldl sdpLine first).streamType = first.streamType := by
    intro lines
    induction lines with
    | nil => exact fun _ => rfl
    | cons line rest ih =>
        intro first
        rw [List.foldl_cons, ih, sdpLine_streamType]
  have hinfer : ∀ first : SdpSession, (inferCodec first).streamType = first.streamType := by
    intro first
    rw [inferCodec]
    split
    · rfl
    · rfl
  rw [sdpParse] at h
  split at h
  · simp at h
  · rw [Option.some.injEq] at h
    rw [← h]
    exact (hinfer _).trans (hlines _ _)

end PortableAirplay.Protocol
