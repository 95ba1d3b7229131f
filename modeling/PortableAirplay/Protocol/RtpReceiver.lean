import PortableAirplay.Library.BigEndian
import PortableAirplay.Platform.Net
import PortableAirplay.Protocol.Rtp
import PortableAirplay.Util.Text

/-!
# Receiving RTP

`protocol/rtp.c`: the packet parser and the receive loops over the audio, control
and timing sockets. What a socket has for the calls of one poll is a list of
offers; after the last one the calls time out, and a socket that is not ready has
none. The callbacks of the receiver are arguments of the loops.
-/

set_option autoImplicit false

namespace PortableAirplay.Protocol

open PortableAirplay.Library
open PortableAirplay.Platform
open PortableAirplay.Util

/-! ## Packets -/

/-- The header of a packet from its first twelve bytes. -/
def rtpHeader (data : List UInt8) : RtpHeader where
  version := byteAt data 0 >>> 6 &&& 3
  padding := byteAt data 0 >>> 5 &&& 1
  extension := byteAt data 0 >>> 4 &&& 1
  csrcCount := byteAt data 0 &&& 0x0f
  marker := byteAt data 1 >>> 7 &&& 1
  payloadType := byteAt data 1 &&& 0x7f
  sequence := (byteAt data 2).toUInt16 <<< 8 ||| (byteAt data 3).toUInt16
  timestamp := read32 data 4
  ssrc := read32 data 8

/-- The length of the fixed header, the sources and the extension, or `none` where
they do not fit. -/
def rtpHeaderSize (header : RtpHeader) (data : List UInt8) : Option ℕ :=
  let size := 12 + header.csrcCount.toNat * 4
  if size > data.length then none
  else if header.extension = 0 then some size
  else if size + 4 > data.length then none
  else
    let words := (byteAt data (size + 2)).toNat <<< 8 ||| (byteAt data (size + 3)).toNat
    let size := size + 4 + words * 4
    if size > data.length then none else some size

/-- The payload without its padding. -/
def rtpUnpad (header : RtpHeader) (payload : List UInt8) : Option (List UInt8) :=
  if header.padding = 0 then some payload
  else
    match payload.getLast? with
    | none => none
    | some pad =>
        if pad = 0 ∨ pad.toNat > payload.length then none
        else some (payload.take (payload.length - pad.toNat))

/-- `rtp_parse_packet`. A retransmitted packet follows a four-byte wrapper. -/
def rtpParsePacket (data : List UInt8) : Option RtpPacket :=
  if data.length < 12 then none
  else
    let wrapped := byteAt data 1 &&& 0x7f == 0x56
    if wrapped && data.length < 16 then none
    else
      let data := if wrapped then data.drop 4 else data
      let header := rtpHeader data
      if header.version ≠ 2 then none
      else
        match rtpHeaderSize header data with
        | none => none
        | some size => (rtpUnpad header (data.drop size)).map fun payload => ⟨header, payload⟩

/-! ## Sockets -/

/-- A datagram with the clock readings while it is handled. -/
structure Datagram where
  data : List UInt8
  peer : NetAddr
  now : UInt64
  sent : UInt64
  deriving DecidableEq, Repr

/-- What a UDP socket has for a receive call. -/
inductive UdpOffer where
  | datagram (d : Datagram)
  | error
  deriving DecidableEq, Repr

section Receiver

variable {σ : Type}

/-- A receive loop of at most `fuel` calls of `net_udp_recv` with a buffer of `capacity` bytes:
the state after the datagrams, and whether no call failed. A datagram that is too large is
discarded and reported as a timeout, which ends the loop. -/
def udpBatch (handle : σ → Datagram → σ) (capacity : ℕ) : ℕ → List UdpOffer → σ → σ × Bool
  | 0, _, s => (s, true)
  | _ + 1, [], s => (s, true)
  | _ + 1, .error :: _, s => (s, false)
  | fuel + 1, .datagram d :: rest, s =>
      if capacity < d.data.length then (s, true)
      else udpBatch handle capacity fuel rest (handle s d)

/-- What the network has for one `rtp_receiver_poll`. -/
structure ReceiverIo where
  waitFails : Bool
  timing : List UdpOffer
  control : List UdpOffer
  audio : List UdpOffer

/-- The callbacks of `rtp_receiver_config_t`. -/
structure RtpCallbacks (σ : Type) where
  audio : σ → RtpPacket → UInt64 → σ
  control : σ → List UInt8 → σ
  timing : σ → Datagram → σ

/-- Empty datagrams and those of other peers are skipped. -/
def acceptsPeer (peerIp : CString) (d : Datagram) : Bool :=
  d.data ≠ [] && (peerIp = [] || d.peer.ip = peerIp)

/-- The audio callback, if the datagram is a packet. -/
def RtpCallbacks.handleAudio (callbacks : RtpCallbacks σ) (s : σ) (d : Datagram) : σ :=
  match rtpParsePacket d.data with
  | none => s
  | some packet => callbacks.audio s packet d.now

/-- The body of the receive loop of the audio socket. -/
def RtpCallbacks.onAudio (callbacks : RtpCallbacks σ) (peerIp : CString) (s : σ) (d : Datagram) :
    σ :=
  if acceptsPeer peerIp d then callbacks.handleAudio s d else s

/-- The body of the receive loop of the control socket, which carries retransmitted
audio as well. -/
def RtpCallbacks.onControl (callbacks : RtpCallbacks σ) (peerIp : CString) (s : σ)
    (d : Datagram) : σ :=
  if acceptsPeer peerIp d then
    if 2 ≤ d.data.length ∧ byteAt d.data 1 &&& 0x7f = 0x56 then callbacks.handleAudio s d
    else callbacks.control s d.data
  else s

/-- The body of the receive loop of the timing socket. -/
def RtpCallbacks.onTiming (callbacks : RtpCallbacks σ) (peerIp : CString) (s : σ) (d : Datagram) :
    σ :=
  if acceptsPeer peerIp d then callbacks.timing s d else s

/-- `rtp_receiver_poll`: timing and anchors are handled before an audio burst. The
result is `false` for -1. -/
def rtpReceiverPoll (callbacks : RtpCallbacks σ) (peerIp : CString) (io : ReceiverIo) (s : σ) :
    σ × Bool :=
  if io.waitFails then (s, false)
  else
    let timing := udpBatch (callbacks.onTiming peerIp) rtpBufferSize 32 io.timing s
    if timing.2 = false then timing
    else
      let control := udpBatch (callbacks.onControl peerIp) rtpBufferSize 32 io.control timing.1
      if control.2 = false then control
      else udpBatch (callbacks.onAudio peerIp) rtpBufferSize 32 io.audio control.1

/-! ## Rules -/

/-- A batch keeps what each datagram keeps. -/
theorem udpBatch_invariant {handle : σ → Datagram → σ} (inv : σ → Prop)
    (hstep : ∀ s d, inv s → inv (handle s d)) (capacity : ℕ) :
    ∀ (fuel : ℕ) (offers : List UdpOffer) (s : σ), inv s →
      inv (udpBatch handle capacity fuel offers s).1 := by
  intro fuel
  induction fuel with
  | zero => exact fun _ _ h => h
  | succ fuel ih =>
      intro offers s h
      cases offers with
      | nil => exact h
      | cons offer rest =>
          cases offer with
          | error => exact h
          | datagram d =>
              rw [udpBatch]
              split
              · exact h
              · exact ih rest _ (hstep s d h)

/-- A batch without errors does not fail. -/
theorem udpBatch_ok (handle : σ → Datagram → σ) (capacity : ℕ) :
    ∀ (fuel : ℕ) (offers : List UdpOffer) (s : σ), UdpOffer.error ∉ offers →
      (udpBatch handle capacity fuel offers s).2 = true := by
  intro fuel
  induction fuel with
  | zero => exact fun _ _ _ => rfl
  | succ fuel ih =>
      intro offers s h
      cases offers with
      | nil => rfl
      | cons offer rest =>
          rw [List.mem_cons, not_or] at h
          cases offer with
          | error => exact absurd rfl h.1
          | datagram d =>
              rw [udpBatch]
              split
              · rfl
              · exact ih rest _ h.2

/-- What the three callbacks keep. -/
structure RtpCallbacks.Keeps (callbacks : RtpCallbacks σ) (inv : σ → Prop) : Prop where
  audio : ∀ s packet now, inv s → inv (callbacks.audio s packet now)
  control : ∀ s data, inv s → inv (callbacks.control s data)
  timing : ∀ s d, inv s → inv (callbacks.timing s d)

theorem RtpCallbacks.Keeps.handleAudio {callbacks : RtpCallbacks σ} {inv : σ → Prop}
    (h : callbacks.Keeps inv) (s : σ) (d : Datagram) (hs : inv s) :
    inv (callbacks.handleAudio s d) := by
  rw [RtpCallbacks.handleAudio]
  cases rtpParsePacket d.data with
  | none => exact hs
  | some packet => exact h.audio s packet d.now hs

/-- A poll keeps what the callbacks keep. -/
theorem rtpReceiverPoll_invariant {callbacks : RtpCallbacks σ} {inv : σ → Prop}
    (h : callbacks.Keeps inv) (peerIp : CString) (io : ReceiverIo) {s : σ} (hs : inv s) :
    inv (rtpReceiverPoll callbacks peerIp io s).1 := by
  have haudio : ∀ s d, inv s → inv (callbacks.onAudio peerIp s d) := by
    intro s d hs
    rw [RtpCallbacks.onAudio]
    split
    · exact h.handleAudio s d hs
    · exact hs
  have hcontrol : ∀ s d, inv s → inv (callbacks.onControl peerIp s d) := by
    intro s d hs
    rw [RtpCallbacks.onControl]
    split
    · split
      · exact h.handleAudio s d hs
      · exact h.control s _ hs
    · exact hs
  have htiming : ∀ s d, inv s → inv (callbacks.onTiming peerIp s d) := by
    intro s d hs
    rw [RtpCallbacks.onTiming]
    split
    · exact h.timing s d hs
    · exact hs
  rw [rtpReceiverPoll]
  dsimp only
  split
  · exact hs
  · have hfirst := udpBatch_invariant inv htiming rtpBufferSize 32 io.timing s hs
    split
    · exact hfirst
    · have hsecond := udpBatch_invariant inv hcontrol rtpBufferSize 32 io.control _ hfirst
      split
      · exact hsecond
      · exact udpBatch_invariant inv haudio rtpBufferSize 32 io.audio _ hsecond

/-- No call of the poll fails. -/
structure ReceiverIo.Succeeds (io : ReceiverIo) : Prop where
  wait : io.waitFails = false
  timing : UdpOffer.error ∉ io.timing
  control : UdpOffer.error ∉ io.control
  audio : UdpOffer.error ∉ io.audio

theorem rtpReceiverPoll_ok (callbacks : RtpCallbacks σ) (peerIp : CString) {io : ReceiverIo}
    (h : io.Succeeds) (s : σ) : (rtpReceiverPoll callbacks peerIp io s).2 = true := by
  have htiming := udpBatch_ok (callbacks.onTiming peerIp) rtpBufferSize 32 _ s h.timing
  have hcontrol := udpBatch_ok (callbacks.onControl peerIp) rtpBufferSize 32 _
    (udpBatch (callbacks.onTiming peerIp) rtpBufferSize 32 io.timing s).1 h.control
  rw [rtpReceiverPoll, if_neg (by simp [h.wait])]
  dsimp only
  rw [if_neg (by simp [htiming]), if_neg (by simp [hcontrol])]
  exact udpBatch_ok _ _ _ _ _ h.audio

/-! ## Datagrams of other hosts -/

/-- Two offers that differ in nothing that came from `host`: they are equal, or datagrams of
other hosts. A datagram that is too large for the buffer ends a batch whoever sent it, so both
fit or neither does. -/
def SameFrom (host : CString) (capacity : ℕ) : UdpOffer → UdpOffer → Prop
  | .datagram d, .datagram e =>
      d = e ∨ (d.peer.ip ≠ host ∧ e.peer.ip ≠ host ∧
        (d.data.length ≤ capacity ↔ e.data.length ≤ capacity))
  | .error, .error => True
  | .datagram _, .error => False
  | .error, .datagram _ => False

instance (host : CString) (capacity : ℕ) :
    ∀ offer offer', Decidable (SameFrom host capacity offer offer')
  | .datagram d, .datagram e =>
      inferInstanceAs (Decidable (d = e ∨ (d.peer.ip ≠ host ∧ e.peer.ip ≠ host ∧
        (d.data.length ≤ capacity ↔ e.data.length ≤ capacity))))
  | .error, .error => inferInstanceAs (Decidable True)
  | .datagram _, .error => inferInstanceAs (Decidable False)
  | .error, .datagram _ => inferInstanceAs (Decidable False)

theorem SameFrom.refl (host : CString) (capacity : ℕ) (offer : UdpOffer) :
    SameFrom host capacity offer offer := by
  cases offer with
  | datagram d => exact Or.inl rfl
  | error => trivial

/-- A batch that skips the datagrams of other hosts does not depend on them. -/
theorem udpBatch_sameFrom {handle : σ → Datagram → σ} {host : CString}
    (hskips : ∀ s d, d.peer.ip ≠ host → handle s d = s) (capacity : ℕ) :
    ∀ (fuel : ℕ) (offers offers' : List UdpOffer) (s : σ),
      List.Forall₂ (SameFrom host capacity) offers offers' →
        udpBatch handle capacity fuel offers s = udpBatch handle capacity fuel offers' s := by
  intro fuel
  induction fuel with
  | zero => exact fun _ _ _ _ => rfl
  | succ fuel ih =>
      intro offers offers' s h
      cases h with
      | nil => rfl
      | @cons offer offer' rest rest' hfirst hrest =>
          cases offer with
          | error =>
              cases offer' with
              | error => rfl
              | datagram e => exact hfirst.elim
          | datagram d =>
              cases offer' with
              | error => exact hfirst.elim
              | datagram e =>
                  have hfits : capacity < d.data.length ↔ capacity < e.data.length := by
                    rcases hfirst with rfl | ⟨-, -, hfits⟩
                    · exact Iff.rfl
                    · rw [← Nat.not_le, ← Nat.not_le, hfits]
                  have hstep : handle s d = handle s e := by
                    rcases hfirst with rfl | ⟨hd, he, -⟩
                    · rfl
                    · exact (hskips s d hd).trans (hskips s e he).symm
                  rw [udpBatch, udpBatch, hstep, ih rest rest' _ hrest]
                  exact if_congr hfits rfl rfl

/-- The network has the same for a poll, but for datagrams of hosts other than `host`, those that
fit the buffer in place of those that do. -/
structure ReceiverIo.SameFrom (host : CString) (io io' : ReceiverIo) : Prop where
  waitFails : io.waitFails = io'.waitFails
  timing : List.Forall₂ (Protocol.SameFrom host rtpBufferSize) io.timing io'.timing
  control : List.Forall₂ (Protocol.SameFrom host rtpBufferSize) io.control io'.control
  audio : List.Forall₂ (Protocol.SameFrom host rtpBufferSize) io.audio io'.audio

/-- **A receiver of one peer does not depend on other hosts.** -/
theorem rtpReceiverPoll_sameFrom (callbacks : RtpCallbacks σ) {host : CString} (hhost : host ≠ [])
    {io io' : ReceiverIo} (h : io.SameFrom host io') (s : σ) :
    rtpReceiverPoll callbacks host io s = rtpReceiverPoll callbacks host io' s := by
  have hother : ∀ d : Datagram, d.peer.ip ≠ host → acceptsPeer host d = false := by
    intro d hd
    rw [acceptsPeer, decide_eq_false hhost, decide_eq_false hd]
    simp
  have htiming : ∀ s d, d.peer.ip ≠ host → callbacks.onTiming host s d = s := by
    intro s d hd
    rw [RtpCallbacks.onTiming, if_neg (by rw [hother d hd]; exact Bool.false_ne_true)]
  have hcontrol : ∀ s d, d.peer.ip ≠ host → callbacks.onControl host s d = s := by
    intro s d hd
    rw [RtpCallbacks.onControl, if_neg (by rw [hother d hd]; exact Bool.false_ne_true)]
  have haudio : ∀ s d, d.peer.ip ≠ host → callbacks.onAudio host s d = s := by
    intro s d hd
    rw [RtpCallbacks.onAudio, if_neg (by rw [hother d hd]; exact Bool.false_ne_true)]
  have hfirst := udpBatch_sameFrom htiming rtpBufferSize 32 io.timing io'.timing s h.timing
  rw [rtpReceiverPoll, rtpReceiverPoll, h.waitFails]
  dsimp only
  rw [hfirst]
  generalize udpBatch (callbacks.onTiming host) rtpBufferSize 32 io'.timing s = first
  rw [udpBatch_sameFrom hcontrol rtpBufferSize 32 io.control io'.control first.1 h.control]
  generalize udpBatch (callbacks.onControl host) rtpBufferSize 32 io'.control first.1 = second
  rw [udpBatch_sameFrom haudio rtpBufferSize 32 io.audio io'.audio second.1 h.audio]

/-! ## Two receivers -/

variable {τ : Type}

/-- Two batches over the same offers keep a relation that each datagram keeps, and fail
together. -/
theorem udpBatch_related {handle : σ → Datagram → σ} {handle' : τ → Datagram → τ}
    (related : σ → τ → Prop)
    (hstep : ∀ s t d, related s t → related (handle s d) (handle' t d)) (capacity : ℕ) :
    ∀ (fuel : ℕ) (offers : List UdpOffer) (s : σ) (t : τ), related s t →
      related (udpBatch handle capacity fuel offers s).1
          (udpBatch handle' capacity fuel offers t).1 ∧
        (udpBatch handle capacity fuel offers s).2 =
          (udpBatch handle' capacity fuel offers t).2 := by
  intro fuel
  induction fuel with
  | zero => exact fun _ _ _ h => ⟨h, rfl⟩
  | succ fuel ih =>
      intro offers s t h
      cases offers with
      | nil => exact ⟨h, rfl⟩
      | cons offer rest =>
          cases offer with
          | error => exact ⟨h, rfl⟩
          | datagram d =>
              rw [udpBatch, udpBatch]
              split
              · exact ⟨h, rfl⟩
              · exact ih rest _ _ (hstep s t d h)

/-- What each pair of callbacks keeps. -/
structure RtpCallbacks.Related (callbacks : RtpCallbacks σ) (callbacks' : RtpCallbacks τ)
    (related : σ → τ → Prop) : Prop where
  audio : ∀ s t packet now, related s t →
    related (callbacks.audio s packet now) (callbacks'.audio t packet now)
  control : ∀ s t data, related s t →
    related (callbacks.control s data) (callbacks'.control t data)
  timing : ∀ s t d, related s t → related (callbacks.timing s d) (callbacks'.timing t d)

theorem RtpCallbacks.Related.handleAudio {callbacks : RtpCallbacks σ}
    {callbacks' : RtpCallbacks τ} {related : σ → τ → Prop}
    (h : callbacks.Related callbacks' related) (s : σ) (t : τ) (d : Datagram)
    (hst : related s t) : related (callbacks.handleAudio s d) (callbacks'.handleAudio t d) := by
  rw [RtpCallbacks.handleAudio, RtpCallbacks.handleAudio]
  cases rtpParsePacket d.data with
  | none => exact hst
  | some packet => exact h.audio s t packet d.now hst

/-- Two polls on the same network keep a relation that the callbacks keep, and fail
together. -/
theorem rtpReceiverPoll_related {callbacks : RtpCallbacks σ} {callbacks' : RtpCallbacks τ}
    {related : σ → τ → Prop} (h : callbacks.Related callbacks' related) (peerIp : CString)
    (io : ReceiverIo) {s : σ} {t : τ} (hst : related s t) :
    related (rtpReceiverPoll callbacks peerIp io s).1
        (rtpReceiverPoll callbacks' peerIp io t).1 ∧
      (rtpReceiverPoll callbacks peerIp io s).2 = (rtpReceiverPoll callbacks' peerIp io t).2 := by
  have haudio : ∀ s t d, related s t →
      related (callbacks.onAudio peerIp s d) (callbacks'.onAudio peerIp t d) := by
    intro s t d hst
    rw [RtpCallbacks.onAudio, RtpCallbacks.onAudio]
    split
    · exact h.handleAudio s t d hst
    · exact hst
  have hcontrol : ∀ s t d, related s t →
      related (callbacks.onControl peerIp s d) (callbacks'.onControl peerIp t d) := by
    intro s t d hst
    rw [RtpCallbacks.onControl, RtpCallbacks.onControl]
    split
    · split
      · exact h.handleAudio s t d hst
      · exact h.control s t _ hst
    · exact hst
  have htiming : ∀ s t d, related s t →
      related (callbacks.onTiming peerIp s d) (callbacks'.onTiming peerIp t d) := by
    intro s t d hst
    rw [RtpCallbacks.onTiming, RtpCallbacks.onTiming]
    split
    · exact h.timing s t d hst
    · exact hst
  -- timing, then control, then audio, each batch on what the one before has left
  have hfirst := udpBatch_related related htiming rtpBufferSize 32 io.timing s t hst
  have hsecond := udpBatch_related related hcontrol rtpBufferSize 32 io.control _ _ hfirst.1
  have hthird := udpBatch_related related haudio rtpBufferSize 32 io.audio _ _ hsecond.1
  rw [rtpReceiverPoll, rtpReceiverPoll]
  dsimp only
  rw [hfirst.2, hsecond.2]
  split
  · exact ⟨hst, rfl⟩
  · split
    · exact hfirst
    · split
      · exact hsecond
      · exact hthird

end Receiver

end PortableAirplay.Protocol
