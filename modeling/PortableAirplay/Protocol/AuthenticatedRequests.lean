import PortableAirplay.Protocol.RequestEffect

/-!
# Encrypted requests are authenticated

What an encrypted connection may do rests on one fact about the whole connection:
every request that is handled while it is encrypted was cut from plaintext of
records that `pairing_open` accepted under the keys of its own pairing. `channel`
reads from the log which plaintext that is. `SlotAuthentic` ties it to the receive
buffer, every turn keeps it, and `encrypted_requests_authentic` says it of every
run of polls, together with what only such requests do to the stream.
-/

set_option autoImplicit false

namespace PortableAirplay.Protocol

open PortableAirplay.Airplay
open PortableAirplay.Library
open PortableAirplay.Platform
open PortableAirplay.Sync
open PortableAirplay.Util

/-! ## The channel of a pairing -/

/-- A paired connection as the log shows it: its key, the plaintext opened under
that key since the pairing was completed, and the bytes of the requests handled
since then. -/
structure Channel where
  key : List UInt8
  opened : List UInt8
  handled : List UInt8

/-- One event of a connection. The channel ends with the connection. Plaintext
counts only under the key of the channel, and bytes received in the clear never
do. -/
def channelEvent (channel : Option Channel) : RtspEvent → Option Channel
  | .accepted _ => none
  | .received _ _ => channel
  | .opened _ key data =>
      channel.map fun c => if key = c.key then { c with opened := c.opened ++ data } else c
  | .dispatched _ _ raw _ _ _ => channel.map fun c => { c with handled := c.handled ++ raw }
  | .paired _ key => some ⟨key, [], []⟩
  | .rejected _ => channel
  | .closed _ _ _ => none

/-- An event, as slot `i` sees it. -/
def channelStep (i : Slot) (channel : Option Channel) (e : RtspEvent) : Option Channel :=
  if e.slot = i then channelEvent channel e else channel

/-- The channel of the connection in slot `i` after a log. -/
def channel (i : Slot) (log : List RtspEvent) : Option Channel :=
  log.foldl (channelStep i) none

theorem channel_append_one (i : Slot) (log : List RtspEvent) (e : RtspEvent) :
    channel i (log ++ [e]) = channelStep i (channel i log) e := by
  rw [channel, List.foldl_append]
  rfl

theorem channel_same {i : Slot} {e : RtspEvent} (h : e.slot = i) (log : List RtspEvent) :
    channel i (log ++ [e]) = channelEvent (channel i log) e := by
  rw [channel_append_one]
  exact if_pos h

theorem channel_other {i : Slot} {e : RtspEvent} (h : e.slot ≠ i) (log : List RtspEvent) :
    channel i (log ++ [e]) = channel i log := by
  rw [channel_append_one]
  exact if_neg h

theorem channel_closed (i : Slot) (log : List RtspEvent) (first last : StreamState) :
    channel i (log ++ [.closed i first last]) = none :=
  channel_same (e := .closed i first last) rfl log

theorem channel_accepted (i : Slot) (log : List RtspEvent) :
    channel i (log ++ [.accepted i]) = none :=
  channel_same (e := .accepted i) rfl log

theorem channel_paired (i : Slot) (log : List RtspEvent) (key : List UInt8) :
    channel i (log ++ [.paired i key]) = some ⟨key, [], []⟩ :=
  channel_same (e := .paired i key) rfl log

theorem channel_dispatched (i : Slot) (log : List RtspEvent) (request : RtspRequest)
    (raw : List UInt8) (encrypted : Bool) (first last : StreamState) :
    channel i (log ++ [.dispatched i request raw encrypted first last]) =
      (channel i log).map fun c => { c with handled := c.handled ++ raw } :=
  channel_same (e := .dispatched i request raw encrypted first last) rfl log

/-! ## The stream state in the log -/

/-- The stream state after an event. -/
def streamEvent (stream : StreamState) : RtspEvent → StreamState
  | .dispatched _ _ _ _ _ after => after
  | .closed _ _ after => after
  | _ => stream

/-- The stream state after a log. -/
def streamAfter (log : List RtspEvent) : StreamState := log.foldl streamEvent StreamState.start

theorem streamAfter_append_one (log : List RtspEvent) (e : RtspEvent) :
    streamAfter (log ++ [e]) = streamEvent (streamAfter log) e := by
  rw [streamAfter, List.foldl_append]
  rfl

/-- The AirPlay 2 part of the stream state is not set: a stream type that is not
zero is the one that was there, and the anchor and the flush of the buffer are as
they were. -/
structure KeepsAirplay2 (before after : StreamState) : Prop where
  streamType : after.session.streamType ≠ 0 → after.session = before.session
  anchor : after.anchor = before.anchor
  sequence : after.bufferedFlushSequence = before.bufferedFlushSequence
  flushed : after.hasBufferedFlushSequence = before.hasBufferedFlushSequence

theorem KeepsAirplay2.refl (stream : StreamState) : KeepsAirplay2 stream stream :=
  ⟨fun _ => rfl, rfl, rfl, rfl⟩

theorem releasedStream_keeps (s : RtspServer) : KeepsAirplay2 s.stream (releasedStream s) where
  streamType h := absurd rfl h
  anchor := rfl
  sequence := rfl
  flushed := rfl

/-- **Requests in the clear leave the AirPlay 2 state alone.** -/
theorem StreamStep.keepsAirplay2 {s : RtspServer} {i : Slot} {request : RtspRequest}
    {stream : StreamState} {owner : Option Slot}
    (h : StreamStep s i request stream owner) (hplain : (s.clients i).encrypted = false) :
    KeepsAirplay2 s.stream stream := by
  cases h with
  | same => exact KeepsAirplay2.refl _
  | announce parsed hmethod hparse hcodec =>
      exact ⟨fun h => absurd (sdpParse_streamType hparse) h, rfl, rfl, rfl⟩
  | setup q key hmethod hbody hencrypted hsupported =>
      rw [hplain] at hencrypted
      contradiction
  | timing port hmethod hbody howner => exact ⟨fun _ => rfl, rfl, rfl, rfl⟩
  | volume level => exact ⟨fun _ => rfl, rfl, rfl, rfl⟩
  | flush rtptime howner => exact ⟨fun _ => rfl, rfl, rfl, rfl⟩
  | record rtptime hmethod htime howner hsession =>
      cases rtptime with
      | none => exact ⟨fun _ => rfl, rfl, rfl, rfl⟩
      | some timestamp => exact ⟨fun _ => rfl, rfl, rfl, rfl⟩
  | pause howner => exact ⟨fun _ => rfl, rfl, rfl, rfl⟩
  | release hmethod howner => exact releasedStream_keeps s
  | anchor a hencrypted howner =>
      rw [hplain] at hencrypted
      contradiction
  | bufferedFlush sequence hencrypted howner =>
      rw [hplain] at hencrypted
      contradiction

/-! ## The invariant -/

/-- A connection against its channel: in the clear there is none, and an encrypted
connection holds in its receive buffer what was opened and not yet handled. -/
structure SlotAuthentic (client : RtspClient) (rx : List UInt8) (channel : Option Channel) :
    Prop where
  plain : client.encrypted = false → channel = none
  paired : client.encrypted = true → client.pairing.established = true ∧
    ∃ c, channel = some c ∧ c.key = client.pairing.readKey ∧ c.opened = c.handled ++ rx

section Slot

variable {before after : RtspClient} {rx : List UInt8} {channel : Option Channel}

/-- Reading keeps the mode and the key. -/
theorem SlotAuthentic.read (h : SlotAuthentic before rx channel) (hstep : ReceiveStep before after) :
    SlotAuthentic after rx channel := by
  constructor
  · intro hplain
    rw [hstep.encrypted] at hplain
    exact h.plain hplain
  · intro hencrypted
    rw [hstep.encrypted] at hencrypted
    rw [hstep.established, hstep.readKey]
    exact h.paired hencrypted

/-- What was read is opened under the key of the channel, or came in the clear. -/
theorem SlotAuthentic.received (h : SlotAuthentic before rx channel) (i : Slot)
    (data : List UInt8) :
    SlotAuthentic before (rx ++ data) (channelEvent channel (receivedEvent before i data)) := by
  rw [receivedEvent]
  constructor
  · intro hplain
    rw [hplain]
    exact h.plain hplain
  · intro hencrypted
    obtain ⟨hready, c, hchannel, hkey, hopened⟩ := h.paired hencrypted
    rw [hencrypted, hchannel]
    refine ⟨hready, { c with opened := c.opened ++ data }, ?_, hkey, ?_⟩
    · simp [channelEvent, hkey]
    · simp [hopened]

/-- A request that leaves the slot in its mode: the bytes it took were handled. -/
theorem SlotAuthentic.handled (h : SlotAuthentic before rx channel) (hstep : ClientStep before after)
    (hmode : ¬ (!before.encrypted && after.encrypted) = true) (n : ℕ) :
    SlotAuthentic after (rx.drop n)
      (channel.map fun c => { c with handled := c.handled ++ rx.take n }) := by
  constructor
  · intro hplain
    have hbefore : before.encrypted = false := by
      by_contra hb
      rw [Bool.not_eq_false] at hb
      exact absurd ((hstep.encrypted hb).symm.trans hplain) (by decide)
    rw [h.plain hbefore]
    rfl
  · intro hencrypted
    have hbefore : before.encrypted = true := by
      by_contra hb
      rw [Bool.not_eq_true] at hb
      exact hmode (by rw [hb, hencrypted]; rfl)
    obtain ⟨hready, c, hchannel, hkey, hopened⟩ := h.paired hbefore
    obtain ⟨hready', hkey'⟩ := hstep.established hready
    refine ⟨hready', { c with handled := c.handled ++ rx.take n }, ?_, ?_, ?_⟩
    · rw [hchannel]
      rfl
    · rw [hkey']
      exact hkey
    · rw [List.append_assoc, List.take_append_drop]
      exact hopened

/-- A request with which encryption begins: nothing was opened yet. -/
theorem ClientStep.slotAuthentic (hstep : ClientStep before after)
    (hplain : before.encrypted = false) (hencrypted : after.encrypted = true) :
    SlotAuthentic after [] (some ⟨after.pairing.readKey, [], []⟩) := by
  refine ⟨fun hclear => absurd (hclear.symm.trans hencrypted) Bool.false_ne_true,
    fun _ => ⟨?_, ⟨after.pairing.readKey, [], []⟩, rfl, rfl, rfl⟩⟩
  rcases hstep.starts hencrypted with hbefore | hready
  · exact absurd (hplain.symm.trans hbefore) Bool.false_ne_true
  · exact hready

end Slot

/-- `pairing_open` returned this plaintext for some record, under the key. -/
def OpenedUnder (aead : Aead) (key data : List UInt8) : Prop :=
  ∃ p record, p.readKey = key ∧ (pairingOpen aead p record).2 = some data

/-- What holds of an event, given the events before it. -/
def EventAuthentic (aead : Aead) (before : List RtspEvent) : RtspEvent → Prop
  | .opened _ key data => OpenedUnder aead key data
  | .dispatched i request raw encrypted first last =>
      first = streamAfter before ∧
        (encrypted = false → KeepsAirplay2 first last) ∧
        (encrypted = true → parseRequest raw = .accept request raw.length ∧
          ∃ c rest, channel i before = some c ∧ c.opened = c.handled ++ raw ++ rest)
  | .closed _ first last => first = streamAfter before ∧ KeepsAirplay2 first last
  | _ => True

/-- The log against the server's stream state. -/
structure LogAuthentic (aead : Aead) (s : RtspServer) (log : List RtspEvent) : Prop where
  stream : s.stream = streamAfter log
  events : Logged (EventAuthentic aead) log

/-- The invariant of the server and its log. -/
structure Authentic (aead : Aead) (s : RtspServer) (log : List RtspEvent) : Prop where
  history : LogAuthentic aead s log
  slots : ∀ i, SlotAuthentic (s.clients i) (s.rx i) (channel i log)

section Slots

variable {aead : Aead} {s : RtspServer} {log : List RtspEvent} {i : Slot}

/-- The slots other than `i`. -/
def OthersAuthentic (i : Slot) (s : RtspServer) (log : List RtspEvent) : Prop :=
  ∀ j, j ≠ i → SlotAuthentic (s.clients j) (s.rx j) (channel j log)

theorem Authentic.others (h : Authentic aead s log) (i : Slot) : OthersAuthentic i s log :=
  fun j _ => h.slots j

theorem Authentic.of_slot (hlog : LogAuthentic aead s log) (hothers : OthersAuthentic i s log)
    (hslot : SlotAuthentic (s.clients i) (s.rx i) (channel i log)) : Authentic aead s log where
  history := hlog
  slots j := by
    by_cases hj : j = i
    · rw [hj]
      exact hslot
    · exact hothers j hj

/-- The other slots do not see what happens to slot `i`. -/
theorem OthersAuthentic.step (h : OthersAuthentic i s log) (after : RtspServer)
    (hclients : ∀ j, j ≠ i → after.clients j = s.clients j)
    (hrx : ∀ j, j ≠ i → after.rx j = s.rx j) (e : RtspEvent) (he : e.slot = i) :
    OthersAuthentic i after (log ++ [e]) := by
  intro j hj
  have hne : e.slot ≠ j := fun heq => hj (heq.symm.trans he)
  rw [hclients j hj, hrx j hj, channel_other hne]
  exact h j hj

theorem OthersAuthentic.keep (h : OthersAuthentic i s log) (after : RtspServer)
    (hclients : ∀ j, j ≠ i → after.clients j = s.clients j)
    (hrx : ∀ j, j ≠ i → after.rx j = s.rx j) : OthersAuthentic i after log := by
  intro j hj
  rw [hclients j hj, hrx j hj]
  exact h j hj

/-- An event that is not about the stream. -/
theorem LogAuthentic.step (h : LogAuthentic aead s log) (after : RtspServer)
    (hstream : after.stream = s.stream) (e : RtspEvent)
    (he : streamEvent (streamAfter log) e = streamAfter log) (htrue : EventAuthentic aead log e) :
    LogAuthentic aead after (log ++ [e]) where
  stream := by
    rw [hstream, h.stream, streamAfter_append_one, he]
  events := logged_concat h.events htrue

end Slots

/-! ## Closing -/

section Turns

variable {aead : Aead} {s : RtspServer} {log : List RtspEvent}

theorem releaseStream_stream (s : RtspServer) (i : Slot) :
    KeepsAirplay2 s.stream (releaseStream s i).stream := by
  rw [releaseStream]
  split
  · exact releasedStream_keeps s
  · exact KeepsAirplay2.refl _

/-- A connection may be closed at any time. -/
theorem closeClient_authentic (i : Slot) (hlog : LogAuthentic aead s log)
    (hothers : OthersAuthentic i s log) :
    Authentic aead (closeClient s i) (log ++ [.closed i s.stream (closeClient s i).stream]) := by
  have hclosed : LogAuthentic aead (closeClient s i)
      (log ++ [.closed i s.stream (closeClient s i).stream]) :=
    { stream := by rw [streamAfter_append_one]; rfl
      events := logged_concat hlog.events ⟨hlog.stream, releaseStream_stream s i⟩ }
  have hrest := hothers.step (closeClient s i)
    (fun j hj => (closeClient_other s hj).1) (fun j hj => (closeClient_other s hj).2)
    (.closed i s.stream (closeClient s i).stream) rfl
  apply Authentic.of_slot hclosed hrest
  rw [channel_closed, closeClient_client]
  exact ⟨fun _ => rfl, fun h => absurd h Bool.false_ne_true⟩

theorem closeTurn_authentic (i : Slot) {first : List RtspEvent}
    (hlog : LogAuthentic aead s (log ++ first)) (hothers : OthersAuthentic i s (log ++ first)) :
    Authentic aead (closeTurn s i first).server (log ++ (closeTurn s i first).log) := by
  have hclosed := closeClient_authentic i hlog hothers
  rw [List.append_assoc] at hclosed
  exact hclosed

/-! ## Receiving -/

/-- Bytes of an encrypted client are plaintext of a record. -/
theorem receiveClient_opened (aead : Aead) (client : RtspClient) (capacity : ℕ)
    (offer : RecvOffer) (hencrypted : client.encrypted = true) (data : List UInt8)
    (hresult : (receiveClient aead client capacity offer).2 = .bytes data) (hdata : data ≠ []) :
    OpenedUnder aead client.pairing.readKey data := by
  rw [receiveClient] at hresult
  dsimp only at hresult
  generalize (if client.record.length < 2 then 2 else recordLength client.record + 18) = need
    at hresult
  rw [if_neg (by rw [hencrypted]; exact Bool.true_eq_false.mp)] at hresult
  split at hresult
  · contradiction
  · split at hresult
    · contradiction
    · contradiction
    · rw [RecvResult.bytes.injEq] at hresult
      exact absurd hresult.symm hdata
    · split at hresult
      · contradiction
      · rename_i b rest _ _
        generalize hrecord : (client.record ++ b :: rest).take need = record at hresult
        rcases pairingOpen_cases aead client.pairing record
          with hopen | ⟨query, tag, plain, -, -, hopen⟩
        · rw [hopen] at hresult
          contradiction
        · rw [hopen, RecvResult.bytes.injEq] at hresult
          exact ⟨client.pairing, record, rfl, by rw [hopen, hresult]⟩

theorem receiveTurn_authentic (prim : Primitives) (i : Slot) (offer : RecvOffer)
    (h : Authentic prim.aead s log) :
    Authentic prim.aead (receiveTurn prim s i offer).server
      (log ++ (receiveTurn prim s i offer).log) := by
  have hstep := receiveClient_step prim.aead (s.clients i)
    (rtspRxBufferSize - (s.rx i).length) offer
  rw [receiveTurn]
  have hopened := receiveClient_opened prim.aead (s.clients i)
    (rtspRxBufferSize - (s.rx i).length) offer
  generalize receiveClient prim.aead (s.clients i) (rtspRxBufferSize - (s.rx i).length) offer = r
    at hstep hopened ⊢
  have hslot := h.slots i
  have hclients : ∀ j, j ≠ i → (s.setClient i r.1).clients j = s.clients j :=
    fun j hj => setClient_other _ _ _ _ hj
  have hlog : LogAuthentic prim.aead (s.setClient i r.1) log := ⟨h.history.stream, h.history.events⟩
  have hothers : OthersAuthentic i (s.setClient i r.1) log :=
    (h.others i).keep _ hclients fun _ _ => rfl
  -- a connection that ends is treated alike in every case
  have hclose : Authentic prim.aead (closeTurn (s.setClient i r.1) i []).server
      (log ++ (closeTurn (s.setClient i r.1) i []).log) :=
    closeTurn_authentic i (by rw [List.append_nil]; exact hlog)
      (by rw [List.append_nil]; exact hothers)
  cases hresult : r.2 with
  | error => exact hclose
  | timeout =>
      dsimp only
      rw [List.append_nil]
      apply Authentic.of_slot hlog hothers
      rw [setClient_same, setClient_rx]
      exact hslot.read hstep
  | bytes data =>
      cases data with
      | nil => exact hclose
      | cons b data =>
          dsimp only
          have hevent := receivedEvent_slot (s.clients i) i (b :: data)
          have hstream : streamEvent (streamAfter log)
              (receivedEvent (s.clients i) i (b :: data)) = streamAfter log := by
            rw [receivedEvent]
            split
            · rfl
            · rfl
          have htrue : EventAuthentic prim.aead log
              (receivedEvent (s.clients i) i (b :: data)) := by
            rw [receivedEvent]
            split
            · rename_i hencrypted
              exact hopened hencrypted (b :: data) hresult (List.cons_ne_nil _ _)
            · trivial
          have hlog' := h.history.step ((s.setClient i r.1).setRx i (s.rx i ++ b :: data))
            rfl _ hstream htrue
          have hothers' := (h.others i).step
            ((s.setClient i r.1).setRx i (s.rx i ++ b :: data)) hclients
            (fun j hj => setRx_other _ _ _ _ hj) _ hevent
          apply Authentic.of_slot hlog' hothers'
          rw [setRx_clients, setClient_same, setRx_same, channel_same hevent]
          exact (hslot.received i (b :: data)).read hstep

/-! ## Requests -/

/-- What handling a request adds to the log. -/
theorem dispatch_authentic (prim : Primitives) (io : RequestIo) (i : Slot)
    {request : RtspRequest} {n : ℕ} (hparse : parseRequest (s.rx i) = .accept request n)
    (h : Authentic prim.aead s log) :
    let r := handleRequest prim io s i request
    let log' := log ++ dispatchLog s i request ((s.rx i).take n) r
    LogAuthentic prim.aead r.server log' ∧ OthersAuthentic i r.server log' ∧
      (((r.server.clients i).encrypted = true → (s.clients i).encrypted = false →
          (s.rx i).drop n = []) →
        SlotAuthentic (r.server.clients i) ((s.rx i).drop n) (channel i log')) := by
  intro r log'
  obtain ⟨hn, htake⟩ := parseRequest_accept_take hparse
  have heffect : RequestEffect s i request r.server := handleRequest_effect prim io s i request
  have hslot := h.slots i
  have hlength : ((s.rx i).take n).length = n := by
    rw [List.length_take]
    omega
  -- the request as the log tells it
  have htrue : EventAuthentic prim.aead log
      (.dispatched i request ((s.rx i).take n) (s.clients i).encrypted s.stream
        r.server.stream) := by
    refine ⟨h.history.stream, fun hplain => heffect.stream.keepsAirplay2 hplain, ?_⟩
    intro hencrypted
    obtain ⟨-, c, hchannel, -, hopened⟩ := hslot.paired hencrypted
    refine ⟨by rw [hlength]; exact htake, c, (s.rx i).drop n, hchannel, ?_⟩
    rw [hopened, List.append_assoc, List.take_append_drop]
  have hlog : LogAuthentic prim.aead r.server
      (log ++ [.dispatched i request ((s.rx i).take n) (s.clients i).encrypted s.stream
        r.server.stream]) :=
    { stream := by rw [streamAfter_append_one]; rfl
      events := logged_concat h.history.events htrue }
  have hothers := (h.others i).step r.server heffect.others (fun j _ => by rw [heffect.rx])
    (.dispatched i request ((s.rx i).take n) (s.clients i).encrypted s.stream
      r.server.stream) rfl
  -- the log goes on only where encryption began with the request
  by_cases hstarts :
      (!(s.clients i).encrypted && (r.server.clients i).encrypted) = true
  · -- encryption began with this request
    have hlog' : log' = log ++ [.dispatched i request ((s.rx i).take n)
        (s.clients i).encrypted s.stream r.server.stream] ++
        [.paired i (r.server.clients i).pairing.readKey] := by
      simp only [log', dispatchLog, if_pos hstarts]
      rw [List.append_assoc]
      rfl
    rw [Bool.and_eq_true, Bool.not_eq_true'] at hstarts
    rw [hlog']
    refine ⟨hlog.step _ rfl (.paired i (r.server.clients i).pairing.readKey) rfl trivial,
      hothers.step _ (fun _ _ => rfl) (fun _ _ => rfl) _ rfl, ?_⟩
    intro hempty
    rw [channel_paired, hempty hstarts.2 hstarts.1]
    exact heffect.client.slotAuthentic hstarts.1 hstarts.2
  · have hlog' : log' = log ++ [.dispatched i request ((s.rx i).take n)
        (s.clients i).encrypted s.stream r.server.stream] := by
      simp only [log', dispatchLog, if_neg hstarts]
    rw [hlog']
    refine ⟨hlog, hothers, fun _ => ?_⟩
    rw [channel_dispatched]
    exact hslot.handled heffect.client hstarts n

theorem requestTurn_authentic (prim : Primitives) (io : RequestIo) (i : Slot)
    (h : Authentic prim.aead s log) :
    Authentic prim.aead (requestTurn prim io s i).server (log ++ (requestTurn prim io s i).log) := by
  rw [requestTurn]
  cases hparse : parseRequest (s.rx i) with
  | incomplete =>
      dsimp only
      rw [List.append_nil]
      exact h
  | reject =>
      dsimp only
      apply closeTurn_authentic
      · exact h.history.step (respond prim io s i 400 (ascii "Bad Request") 0 [] []).server rfl
          (.rejected i) rfl trivial
      · exact (h.others i).step _ (fun j hj => setClient_other _ _ _ _ hj) (fun _ _ => rfl) _ rfl
  | accept request n =>
      obtain ⟨hlog, hothers, hslot⟩ := dispatch_authentic prim io i hparse h
      have heffect := handleRequest_effect prim io s i request
      dsimp only
      generalize handleRequest prim io s i request = r at hlog hothers hslot heffect ⊢
      have hlog' : LogAuthentic prim.aead (r.server.setRx i ((r.server.rx i).drop n))
          (log ++ dispatchLog s i request ((s.rx i).take n) r) := ⟨hlog.stream, hlog.events⟩
      have hothers' : OthersAuthentic i (r.server.setRx i ((r.server.rx i).drop n))
          (log ++ dispatchLog s i request ((s.rx i).take n) r) :=
        hothers.keep _ (fun _ _ => rfl) fun j hj => setRx_other _ _ _ _ hj
      split
      · exact closeTurn_authentic i hlog hothers
      · split
        · exact closeTurn_authentic i hlog' hothers'
        · rename_i hcrosses
          apply Authentic.of_slot hlog' hothers'
          rw [setRx_clients, setRx_same, heffect.rx]
          apply hslot
          intro hafter hbefore
          -- bytes from before the pairing would have ended the connection
          by_contra hrest
          apply hcrosses
          rw [setRx_clients, setRx_same, heffect.rx, hbefore, hafter]
          simpa using hrest

/-! ## Runs -/

/-- Only the event connection changes. -/
theorem eventClient_authentic (i : Slot) (socket : NetSocket) (h : Authentic aead s log) :
    Authentic aead (s.setClient i { s.clients i with eventClient := socket }) log := by
  have hothers := (h.others i).keep
    (s.setClient i { s.clients i with eventClient := socket })
    (fun j hj => setClient_other _ _ _ _ hj) (fun _ _ => rfl)
  have hhistory : LogAuthentic aead (s.setClient i { s.clients i with eventClient := socket }) log :=
    ⟨h.history.stream, h.history.events⟩
  apply Authentic.of_slot hhistory hothers
  rw [setClient_same]
  exact ⟨(h.slots i).plain, (h.slots i).paired⟩

theorem eventAcceptTurn_authentic (i : Slot) (offer : AcceptOffer) (h : Authentic aead s log) :
    Authentic aead (eventAcceptTurn s i offer) log := by
  rw [eventAcceptTurn.eq_def]
  cases offer with
  | timeout => exact h
  | error => exact h
  | accepted handle peer =>
      dsimp only
      split
      · exact h
      · exact eventClient_authentic i _ h

theorem eventReceiveTurn_authentic (i : Slot) (offer : RecvOffer) (h : Authentic aead s log) :
    Authentic aead (eventReceiveTurn s i offer) log := by
  rw [eventReceiveTurn]
  split
  · exact eventClient_authentic i _ h
  · exact h
  · exact h
  · exact eventClient_authentic i _ h

theorem installClient_authentic (i : Slot) (handle : ℕ) (peer : NetAddr) (h : Authentic aead s log) :
    Authentic aead (installClient s i handle peer) (log ++ [.accepted i]) := by
  have hothers := (h.others i).step (installClient s i handle peer)
    (fun j hj => by rw [installClient, setRx_clients, setClient_other _ _ _ _ hj])
    (fun j hj => by rw [installClient, setRx_other _ _ _ _ hj, setClient_rx])
    (.accepted i) rfl
  have hhistory : LogAuthentic aead (installClient s i handle peer) (log ++ [.accepted i]) :=
    h.history.step (installClient s i handle peer) rfl (.accepted i) rfl trivial
  apply Authentic.of_slot hhistory hothers
  rw [installClient, setRx_clients, setClient_same, channel_accepted]
  exact ⟨fun _ => rfl, fun hencrypted => absurd hencrypted Bool.false_ne_true⟩

theorem pollInvariant_authentic (prim : Primitives) (io : PollIo) :
    PollInvariant prim io (Authentic prim.aead) where
  eventAccept _ _ i h := eventAcceptTurn_authentic i _ h
  eventReceive _ _ i h := eventReceiveTurn_authentic i _ h
  receive _ _ i h := receiveTurn_authentic prim i _ h
  request _ _ i _ h := requestTurn_authentic prim _ i h
  accept _ _ i handle peer h _ := installClient_authentic i handle peer h

theorem initial_authentic (listener : NetSocket) (localIp localMacHex deviceName : CString) :
    Authentic aead (RtspServer.initial listener localIp localMacHex deviceName) [] where
  history := ⟨rfl, logged_nil⟩
  slots _ := ⟨fun _ => rfl, fun h => absurd h Bool.false_ne_true⟩

theorem rtspLog_authentic (prim : Primitives) (listener : NetSocket)
    (localIp localMacHex deviceName : CString) (polls : List PollIo) :
    Authentic prim.aead
      (rtspAfter prim (RtspServer.initial listener localIp localMacHex deviceName) polls)
      (rtspLog prim (RtspServer.initial listener localIp localMacHex deviceName) polls) :=
  rtspLog_invariant prim (Authentic prim.aead) polls
    (fun io _ => (pollInvariant_authentic prim io).slots) _ []
    (initial_authentic listener localIp localMacHex deviceName)

end Turns

/-! ## Main result -/

/-- The event is a request on an encrypted connection, cut from plaintext of its
pairing: with what was handled before, its bytes are the next ones of what
`pairing_open` returned under the key of the pairing since it was completed. -/
def IsAuthenticRequest (before : List RtspEvent) (e : RtspEvent) : Prop :=
  ∃ i request raw first last c rest, e = .dispatched i request raw true first last ∧
    parseRequest raw = .accept request raw.length ∧ channel i before = some c ∧
    c.opened = c.handled ++ raw ++ rest

/-- The stream state has a stream type, an anchor or a boundary of a buffer flush
that it had not before. -/
def SetsAirplay2 (before after : StreamState) : Prop :=
  (after.session.streamType ≠ 0 ∧ after.session ≠ before.session) ∨
    after.anchor ≠ before.anchor ∨
    after.bufferedFlushSequence ≠ before.bufferedFlushSequence ∨
    after.hasBufferedFlushSequence ≠ before.hasBufferedFlushSequence

theorem KeepsAirplay2.not_sets {before after : StreamState} (h : KeepsAirplay2 before after) :
    ¬ SetsAirplay2 before after := by
  rintro (⟨htype, hsession⟩ | hanchor | hsequence | hflushed)
  · exact hsession (h.streamType htype)
  · exact hanchor h.anchor
  · exact hsequence h.sequence
  · exact hflushed h.flushed

/-- **AirPlay 2 state is set by authenticated bytes only.** In every run of polls
of a server: every request that is handled on an encrypted connection is authentic;
plaintext in the log is what `pairing_open` returned; every event that sets AirPlay 2
state is such a request; the stream state is the one that these events lead to; and
the receive buffer of an encrypted connection holds nothing but plaintext opened
since its pairing. -/
theorem airplay2_state_authenticated (prim : Primitives) (listener : NetSocket)
    (localIp localMacHex deviceName : CString) (polls : List PollIo) :
    let start := RtspServer.initial listener localIp localMacHex deviceName
    let log := rtspLog prim start polls
    let s := rtspAfter prim start polls
    (∀ before i request raw first last after,
      log = before ++ .dispatched i request raw true first last :: after →
        IsAuthenticRequest before (.dispatched i request raw true first last)) ∧
    (∀ before i key data after, log = before ++ .opened i key data :: after →
      OpenedUnder prim.aead key data) ∧
    (∀ before e after, log = before ++ e :: after →
      SetsAirplay2 (streamAfter before) (streamAfter (before ++ [e])) →
        IsAuthenticRequest before e) ∧
    s.stream = streamAfter log ∧
    (∀ i, (s.clients i).encrypted = true →
      ∃ c, channel i log = some c ∧ c.key = (s.clients i).pairing.readKey ∧
        c.opened = c.handled ++ s.rx i) := by
  intro start log s
  have h : Authentic prim.aead s log :=
    rtspLog_authentic prim listener localIp localMacHex deviceName polls
  have hencrypted : ∀ before i request raw first last after,
      log = before ++ .dispatched i request raw true first last :: after →
        IsAuthenticRequest before (.dispatched i request raw true first last) := by
    intro before i request raw first last after hlog
    obtain ⟨-, -, htrue⟩ := h.history.events before _ after hlog
    obtain ⟨hparse, c, rest, hchannel, hopened⟩ := htrue rfl
    exact ⟨i, request, raw, first, last, c, rest, rfl, hparse, hchannel, hopened⟩
  refine ⟨hencrypted, fun before _ _ _ after hlog => h.history.events before _ after hlog, ?_,
    h.history.stream, fun i hi => ((h.slots i).paired hi).2⟩
  -- no other event sets that part of the state
  intro before e after hlog hsets
  have htrue := h.history.events before e after hlog
  rw [streamAfter_append_one] at hsets
  cases e with
  | accepted i => exact absurd hsets (KeepsAirplay2.refl _).not_sets
  | received i data => exact absurd hsets (KeepsAirplay2.refl _).not_sets
  | opened i key data => exact absurd hsets (KeepsAirplay2.refl _).not_sets
  | paired i key => exact absurd hsets (KeepsAirplay2.refl _).not_sets
  | rejected i => exact absurd hsets (KeepsAirplay2.refl _).not_sets
  | closed i first last =>
      obtain ⟨hfirst, hkeeps⟩ := htrue
      rw [hfirst] at hkeeps
      exact absurd hsets hkeeps.not_sets
  | dispatched i request raw encrypted first last =>
      cases encrypted with
      | true => exact hencrypted before i request raw first last after hlog
      | false =>
          obtain ⟨hfirst, hplain, -⟩ := htrue
          have hkeeps := hplain rfl
          rw [hfirst] at hkeeps
          exact absurd hsets hkeeps.not_sets

end PortableAirplay.Protocol
