import PortableAirplay.Protocol.SdpCipher
import PortableAirplay.Service.Admission

/-!
# The cipher of a session

`sdp_parse` takes notice of a key that it cannot decode, and of an IV that it cannot decode it
takes none; `audio_pipeline_configure` binds what is in the session. So a session may come out
under an IV of zeros, or under one that is whole in its first bytes only. The cipher is the
one that the description brings exactly where all its values are whole, or where the session
does not start for another reason (`session_cipher_bound`).
-/

set_option autoImplicit false

namespace PortableAirplay.Service

open PortableAirplay.Airplay
open PortableAirplay.Audio
open PortableAirplay.Platform
open PortableAirplay.Protocol
open PortableAirplay.Util

/-! ## Keys and IVs of a description -/

/-- A cipher that the description brings: its IV is the value of an IV line, its key is
unwrapped from the value of a key line, and no line has a value that is none. -/
structure CipherFrom (rsa : List UInt8 → Option (List UInt8)) (body : List UInt8)
    (context : AesContext) : Prop where
  iv : ∃ text ∈ ivTexts body, IvOf text context.iv
  key : ∃ text ∈ keyTexts body, ∃ key, KeyOf text key ∧ rsa key = some context.key
  ivs : ∀ text ∈ ivTexts body, ∃ iv, IvOf text iv
  keys : ∀ text ∈ keyTexts body, ∃ key, KeyOf text key

/-- There is an IV, and every IV and every key of the description is whole. -/
structure WholeValues (body : List UInt8) : Prop where
  present : ivTexts body ≠ []
  ivs : ∀ text ∈ ivTexts body, ∃ iv, IvOf text iv
  keys : ∀ text ∈ keyTexts body, ∃ key, KeyOf text key

/-- The description is parsed, keeps to the limits of the pipeline and asks for decryption,
and RSA unwraps the key in force. -/
structure StartsEncrypted (rsa : List UInt8 → Option (List UInt8)) (body : List UInt8) :
    Prop where
  nonempty : body ≠ []
  length : body.length < sdpScratchMax
  fits : FitsPipeline body
  asks : (latestLines body).any asksDecryption = true
  key : keyInForce (latestLines body) ≠ []
  unwraps : (rsa (keyInForce (latestLines body))).isSome = true

section Cipher

variable {session : SdpSession} {body : List UInt8}

/-- What is unwrapped is the key in force. -/
theorem unwrapAesKey_inForce (io : ConfigureIo) {lines : List CString}
    (h : Ciphered session lines) :
    unwrapAesKey io session =
      if keyInForce lines = [] then none else io.rsaDecrypt (keyInForce lines) := by
  have hlength : (keyInForce lines).length = session.aesKeyEncryptedLen := by
    rw [← h.key, List.length_take, h.keyLength, Nat.min_eq_left h.keyFits]
  rw [unwrapAesKey, h.key]
  by_cases hkey : keyInForce lines = []
  · rw [hkey, List.length_nil] at hlength
    rw [if_pos hkey, if_neg (by omega)]
  · have hpos := List.length_pos_iff.mpr hkey
    rw [if_neg hkey, if_pos (by omega)]

/-- A description that is parsed is not empty, and fits. -/
theorem sdpParse_length {scratchLen : ℕ} (h : sdpParse body scratchLen = some session) :
    body ≠ [] ∧ body.length < scratchLen := by
  rw [sdpParse] at h
  split at h
  · contradiction
  · next hbody =>
      rw [not_or, not_or] at hbody
      exact ⟨hbody.1, by omega⟩

theorem sdpParse_some {scratchLen : ℕ} (hbody : body ≠ []) (hlength : body.length < scratchLen) :
    ∃ session, sdpParse body scratchLen = some session := by
  rw [sdpParse, if_neg]
  · exact ⟨_, rfl⟩
  · rintro (hempty | hzero | hshort)
    · exact hbody hempty
    · omega
    · omega

variable {rsa : List UInt8 → Option (List UInt8)}

/-- A session that is configured was to start. -/
theorem configured_starts (hparse : sdpParse body sdpScratchMax = some session)
    (hencrypted : session.hasEncryption = true) {io : ConfigureIo} {p : AudioPipeline}
    (hrsa : io.rsaDecrypt = rsa) (hok : (audioPipelineConfigure io p session).2 = true) :
    StartsEncrypted rsa body := by
  obtain ⟨hbody, hlength⟩ := sdpParse_length hparse
  obtain ⟨key, hkey, -⟩ := audioPipelineConfigure_cipher hok hencrypted
  rw [unwrapAesKey_inForce io (sdpParse_ciphered hparse), hrsa] at hkey
  have hsome : keyInForce (latestLines body) ≠ [] := by
    intro hnone
    rw [if_pos hnone] at hkey
    contradiction
  rw [if_neg hsome] at hkey
  exact
    { nonempty := hbody
      length := hlength
      fits := (sdpParse_accepted hparse).mp (audioPipelineConfigure_accepts hok)
      asks := (sdpParse_describes hparse).encryption.symm.trans hencrypted
      key := hsome
      unwraps := by
        rw [hkey]
        rfl }

/-- Where all values are whole, the cipher is one that the description brings. -/
theorem configured_whole (hwhole : WholeValues body)
    (hparse : sdpParse body sdpScratchMax = some session)
    (hencrypted : session.hasEncryption = true) {io : ConfigureIo} {p : AudioPipeline}
    (hrsa : io.rsaDecrypt = rsa) (hok : (audioPipelineConfigure io p session).2 = true) :
    CipherFrom rsa body (audioPipelineConfigure io p session).1.aesContext := by
  have hciphered := sdpParse_ciphered hparse
  have hstarts := configured_starts hparse hencrypted hrsa hok
  obtain ⟨key, hkey, hcontext⟩ := audioPipelineConfigure_cipher hok hencrypted
  rw [unwrapAesKey_inForce io hciphered, hrsa, if_neg hstarts.key] at hkey
  have hivs : (latestLines body).filterMap ivText = (ivTexts body).reverse :=
    List.filterMap_reverse
  have hkeys : (latestLines body).filterMap keyText = (keyTexts body).reverse :=
    List.filterMap_reverse
  rw [hcontext]
  -- whole values are not mixed, so what is in force is the value of one line
  refine ⟨?_, ?_, hwhole.ivs, hwhole.keys⟩
  · have hiv := ivInForce_whole (latestLines body)
    rw [hivs] at hiv
    obtain ⟨text, htext, hof⟩ := hiv
      (fun text htext => hwhole.ivs text (List.mem_reverse.mp htext))
      (fun hnone => hwhole.present (List.reverse_eq_nil_iff.mp hnone))
    refine ⟨text, List.mem_reverse.mp htext, ?_⟩
    rw [hciphered.iv]
    exact hof
  · have hline := keyInForce_whole (latestLines body)
    rw [hkeys] at hline
    obtain ⟨text, htext, hof⟩ := hline
      (fun text htext => hwhole.keys text (List.mem_reverse.mp htext)) hstarts.key
    exact ⟨text, List.mem_reverse.mp htext, _, hof, hkey⟩

/-- A session that is to start can be configured. -/
theorem starts_configured (hstarts : StartsEncrypted rsa body) :
    ∃ session io p, sdpParse body sdpScratchMax = some session ∧ session.hasEncryption = true ∧
      io.rsaDecrypt = rsa ∧ (audioPipelineConfigure io p session).2 = true := by
  obtain ⟨session, hparse⟩ := sdpParse_some hstarts.nonempty hstarts.length
  have hencrypted : session.hasEncryption = true :=
    (sdpParse_describes hparse).encryption.trans hstarts.asks
  refine ⟨session, ⟨some (⟨some 3, 319⟩, ⟨some 4, 320⟩), true, rsa⟩,
    audioPipelineCreate netSocketInit, hparse, hencrypted, rfl, ?_⟩
  rw [audioPipelineConfigure_opens rfl rfl (create_poolOwned netSocketInit),
    (sdpParse_accepted hparse).mpr hstarts.fits, hencrypted,
    unwrapAesKey_inForce _ (sdpParse_ciphered hparse), if_neg hstarts.key]
  exact hstarts.unwraps

end Cipher

/-- **The cipher of an encrypted session is the one that its description brings**, whatever
RSA unwraps and however the pipeline stands, if and only if there is an IV and all values are
whole, or the session does not start: the description is empty or too long for the parser,
does not keep to the limits of the pipeline or asks for no decryption, or RSA does not unwrap
the key in force. -/
theorem session_cipher_bound (rsa : List UInt8 → Option (List UInt8)) (body : List UInt8) :
    (∀ session, sdpParse body sdpScratchMax = some session → session.hasEncryption = true →
      ∀ (io : ConfigureIo) (p : AudioPipeline), io.rsaDecrypt = rsa →
        (audioPipelineConfigure io p session).2 = true →
        CipherFrom rsa body (audioPipelineConfigure io p session).1.aesContext) ↔
      (StartsEncrypted rsa body → WholeValues body) := by
  constructor
  · intro hbound hstarts
    obtain ⟨session, io, p, hparse, hencrypted, hrsa, hok⟩ := starts_configured hstarts
    have hcipher := hbound session hparse hencrypted io p hrsa hok
    obtain ⟨text, htext, -⟩ := hcipher.iv
    exact ⟨List.ne_nil_of_mem htext, hcipher.ivs, hcipher.keys⟩
  · intro hwhole session hparse hencrypted io p hrsa hok
    exact configured_whole (hwhole (configured_starts hparse hencrypted hrsa hok)) hparse hencrypted
      hrsa hok

/-! ## A session without an IV -/

/-- ANNOUNCE of an encrypted ALAC stream with a key and no IV. -/
def announceWithoutIv : RtspRequest :=
  { RtspRequest.zero with
    method := .announce
    body := ascii "a=rtpmap:96 AppleLossless/44100\r\na=rsaaeskey:AAAAAAAAAAAAAAAAAAAAAA==\r\n" }

/-- RSA that unwraps the key of that description, and nothing else. -/
def unwrapZeros (encrypted : List UInt8) : Option (List UInt8) :=
  if encrypted = List.replicate 16 0 then some (List.replicate 16 1) else none

/-- The ANNOUNCE is answered with 200, and its session is configured under an IV of zeros. -/
theorem announced_without_iv :
    let r := airplayRtspAnnounce idlePrimitives ⟨none, none, ⟨false, none, false⟩⟩ acceptedServer
      firstSlot announceWithoutIv
    let session := r.server.stream.session
    let configured := audioPipelineConfigure ⟨some (⟨some 3, 319⟩, ⟨some 4, 320⟩), true, unwrapZeros⟩
      (audioPipelineCreate ⟨some 2, 7000⟩) session
    (∀ encrypted, (unwrapZeros encrypted).isSome = true ↔
        ∃ text ∈ keyTexts announceWithoutIv.body, KeyOf text encrypted) ∧
      (r.status = 200 ∧ sdpParse announceWithoutIv.body sdpScratchMax = some session ∧
        session.hasEncryption = true ∧ configured.2 = true ∧
        configured.1.aesContext = ⟨List.replicate 16 1, List.replicate 16 0⟩ ∧
        ivTexts announceWithoutIv.body = []) ∧
      ¬ CipherFrom unwrapZeros announceWithoutIv.body configured.1.aesContext := by
  intro r session configured
  refine ⟨?_, by decide +kernel, ?_⟩
  · -- the primitive unwraps exactly the key that the body brings
    have htexts : keyTexts announceWithoutIv.body = [ascii "AAAAAAAAAAAAAAAAAAAAAA=="] := by
      decide +kernel
    have hdecode : sdpBase64Decode (ascii "AAAAAAAAAAAAAAAAAAAAAA==") keySize =
        (List.replicate 16 0, some (List.replicate 16 (0 : UInt8)).length) := by decide +kernel
    have hpos : 0 < (List.replicate 16 (0 : UInt8)).length := by decide
    intro encrypted
    rw [htexts, unwrapZeros]
    constructor
    · intro hsome
      refine ⟨_, List.mem_singleton_self _, (keyOf_iff hdecode hpos encrypted).mpr ?_⟩
      by_contra hother
      rw [if_neg hother] at hsome
      exact Bool.false_ne_true hsome
    · rintro ⟨text, htext, hof⟩
      rw [List.mem_singleton] at htext
      rw [htext] at hof
      rw [if_pos ((keyOf_iff hdecode hpos encrypted).mp hof)]
      rfl
  · intro hcipher
    obtain ⟨text, htext, -⟩ := hcipher.iv
    have hnone : ivTexts announceWithoutIv.body = [] := by decide +kernel
    rw [hnone] at htext
    exact absurd htext List.not_mem_nil

end PortableAirplay.Service
