import PortableAirplay.Audio.DecodingRun

/-!
# What a session plays

Runs of the pipeline with its decoders, from a session that has just begun (`Begun`). The invariant
`InSession` ties the queue to its ledger; `InSession.step` says which ticket a step hands over, with
the samples of its packet and the counters.

From it follow the two results about whole runs: the samples heard are those of the frames that
were recorded (`Begun.heard_run`), and the counter of lost packets is the number of indices between
the first and the last packet handed over that never were (`Begun.counted_run`).
-/

set_option autoImplicit false

namespace PortableAirplay.Audio

open PortableAirplay.Airplay
open PortableAirplay.Library
open PortableAirplay.Platform
open PortableAirplay.Protocol
open PortableAirplay.Sync

/-! ## Packets of the session's payload type -/

theorem pushedPacket_type {aead : Aead} {p : AudioPipeline} {packet pushed : RtpPacket}
    (h : pushed ∈ pushedPacket aead p packet) :
    pushed.header.payloadType = p.session.payloadType := by
  rw [pushedPacket] at h
  split at h
  · exact absurd h List.not_mem_nil
  · rename_i hpasses
    have htype : packet.header.payloadType = p.session.payloadType := by
      by_contra hother
      exact hpasses (.inr hother)
    rw [Option.mem_toList, AudioPipeline.decryptPacket] at h
    split at h
    · rw [← Option.some.inj h]
      exact htype
    · split at h
      · exact absurd h (Option.some_ne_none _).symm
      · split at h
        · exact absurd h (Option.some_ne_none _).symm
        · rw [← Option.some.inj h]
          exact htype

theorem loggedCallbacks_type (aead : Aead) (session : SdpSession) :
    (loggedCallbacks aead).Keeps fun s => s.1.session = session ∧
      ∀ packet ∈ s.2, packet.header.payloadType = session.payloadType where
  audio s packet now h := by
    refine ⟨(onRtpAudio_arrival aead s.1 packet now).setting.session.trans h.1, fun pushed hmem => ?_⟩
    rcases List.mem_append.mp hmem with hold | hnew
    · exact h.2 pushed hold
    · rw [← h.1]
      exact pushedPacket_type hnew
  control s data h := ⟨(onRtpControl_arrival s.1 data).setting.session.trans h.1, h.2⟩
  timing s d h := ⟨(onRtpTiming_arrival s.1 d).setting.session.trans h.1, h.2⟩

/-- **Only packets of the session's payload type are pushed.** -/
theorem turnPushes_type {aead : Aead} {io : TurnIo} {p : AudioPipeline} {phase : PollPhase}
    {packet : RtpPacket} (h : packet ∈ turnPushes aead io p phase) :
    packet.header.payloadType = p.session.payloadType := by
  cases phase with
  | inputs =>
      have hlogged := rtpReceiverPoll_invariant (loggedCallbacks_type aead p.session) p.peerIp
        io.inputs.receiver (s := (p.requestTiming io.inputs.now, []))
        ⟨(requestTiming_arrival p io.inputs.now).setting.session,
          fun packet hmem => absurd hmem List.not_mem_nil⟩
      rw [turnPushes, inputsPushes] at h
      split at h
      · exact hlogged.2 packet h
      · exact absurd h List.not_mem_nil
  | receiving i limit =>
      rw [turnPushes] at h
      split at h
      · rw [recordPushes] at h
        generalize bufferedAudioPoll io.record.buffered p.buffered p.timingPeer.ip = r at h
        cases hpacket : r.packet with
        | none =>
            simp only [hpacket] at h
            exact absurd h List.not_mem_nil
        | some found =>
            simp only [hpacket] at h
            have htype := pushedPacket_type h
            exact htype
      · exact absurd h List.not_mem_nil
  | playing batch => exact absurd h List.not_mem_nil
  | done ok => exact absurd h List.not_mem_nil

/-- The packets accepted by some pushes are among those pushed. -/
theorem PlayLedger.pushAll_accepted (packets : List RtpPacket) :
    ∀ (l : PlayLedger) (q : Playout), ∃ new, new ⊆ packets ∧
      (l.pushAll q packets).accepted = l.accepted ++ new := by
  induction packets with
  | nil => exact fun l _ => ⟨[], List.Subset.refl _, (List.append_nil _).symm⟩
  | cons packet rest ih =>
      intro l q
      obtain ⟨new, hsubset, haccepted⟩ := ih (l.push q packet) (playoutPush q packet).1
      have hrest : new ⊆ packet :: rest := fun x hx => List.mem_cons_of_mem _ (hsubset hx)
      rcases l.push_cases q packet with ⟨hl, -⟩ | ⟨slot, -, -, -, hl, -⟩
      · refine ⟨new, hrest, haccepted.trans ?_⟩
        rw [hl]
      · refine ⟨packet :: new, List.cons_subset.mpr ⟨List.mem_cons_self, hrest⟩,
          haccepted.trans ?_⟩
        rw [hl]
        exact List.append_assoc _ _ _

/-! ## The invariant -/

/-- A session has just begun on the pipeline: it plays, nothing is queued or counted. -/
structure Begun (p : AudioPipeline) : Prop where
  playing : p.state = .playing
  ready : p.ReadyToDecode
  received : p.packetsReceived = 0
  lost : p.packetsLost = 0
  decoded : p.decodedPackets = 0
  queue : ∃ blank, p.playout.unbounded = playoutReset blank

section Session

variable {σ : Type} (aead : Aead) (aes : AesCbc) (lib : AacLibrary σ)
  (gain : UInt32 → Int16 → Int16)

/-- The pipeline of a session, with the ledger of its queue, at the beginning. -/
def sessionStart (p : AudioPipeline) (handle : σ) : DecodingPipeline σ × PlayLedger :=
  (⟨⟨p, none⟩, handle⟩, PlayLedger.empty)

/-- What holds in a session that began on `p`. -/
structure InSession (p : AudioPipeline) (idx : ℕ → ℤ) (s : DecodingPipeline σ × PlayLedger) :
    Prop where
  same : SameDecoding p s.1.polled.pipeline
  tracks : s.2.Tracks s.1.polled.pipeline.playout
  ordered : s.2.Ordered idx s.1.polled.pipeline.playout
  types : ∀ packet ∈ s.2.accepted, packet.header.payloadType = p.session.payloadType

theorem Begun.inSession {p : AudioPipeline} (h : Begun p) (handle : σ) (idx : ℕ → ℤ) :
    InSession p idx (sessionStart p handle) where
  same := SameDecoding.refl p
  tracks := by
    obtain ⟨blank, hblank⟩ := h.queue
    refine ⟨Custody.settled_empty, rfl, fun i => ?_, fun i t ht => ?_⟩
    · have hinvalid : (p.playout.unbounded.packets i).valid = false := by
        rw [hblank]
        simp [playoutReset]
      exact hinvalid
    · exact absurd ht (by simp [sessionStart, PlayLedger.empty, Custody.empty])
  ordered := by
    obtain ⟨blank, hblank⟩ := h.queue
    have hrep := represents_reset blank
    rw [← hblank] at hrep
    refine ⟨⟨PriorityQueue.empty, fun _ => 0, hrep, fun i t ht => ?_, rfl⟩, List.Pairwise.nil,
      fun t ht => absurd ht List.not_mem_nil⟩
    exact absurd ht (by simp [sessionStart, PlayLedger.empty, Custody.empty])
  types packet hmem := absurd hmem List.not_mem_nil

/-- What a step hands over: nothing, or the packet of a ticket, with the samples of its decoder at
the volume of the pipeline. -/
inductive HandsTicket (s : DecodingPipeline σ × PlayLedger) (after : AudioPipeline)
    (l' : PlayLedger) (event : SessionEvent) : Prop where
  | nothing (hsince : l'.since = s.2.since) (hhanded : handedIn event = [])
      (hheard : heardIn event = [])
      (hbooks : after.handedBooks = s.1.polled.pipeline.handedBooks)
  | ticket (t : ℕ) (packet : RtpPacket) (haccepted : s.2.accepted[t]? = some packet)
      (hsince : l'.since = s.2.since ++ [t])
      (hhanded : handedIn event = [(packet, s.1.polled.pipeline.volumeDb)])
      (hheard : heardIn event =
        ((decodePayload aes s.1.polled.pipeline lib s.1.handle packet.payload).2.getD []).map
          (gain s.1.polled.pipeline.volumeDb))
      (hbooks : after.handedBooks = s.1.polled.pipeline.handedBooks.after packet.header.sequence
        ((decodePayload aes s.1.polled.pipeline lib s.1.handle packet.payload).2.getD []))

variable {p : AudioPipeline} {idx : ℕ → ℤ} {s : DecodingPipeline σ × PlayLedger}

/-- The packets accepted after a step are those accepted before it, and some of the session's
payload type. -/
theorem sessionStep_accepted (s : DecodingPipeline σ × PlayLedger) (step : SessionStep) :
    ∃ new, ((sessionLedger aead aes lib gain).step s step).1.2.accepted = s.2.accepted ++ new ∧
      ∀ packet ∈ new,
        packet.header.payloadType = s.1.polled.pipeline.session.payloadType := by
  have hnone : ∃ new, s.2.accepted = s.2.accepted ++ new ∧ ∀ packet ∈ new,
      packet.header.payloadType = s.1.polled.pipeline.session.payloadType :=
    ⟨[], (List.append_nil _).symm, fun _ hmem => absurd hmem List.not_mem_nil⟩
  cases step with
  | setTransport peer => exact hnone
  | setVolume volumeDb => exact hnone
  | anchor a => exact hnone
  | seek sequence => exact hnone
  | turn io =>
      show ∃ new, (s.2.watch aead s.1.polled (.turn (answerTurn aes lib gain s.1 io).2)
        (polledTurn aead (answerTurn aes lib gain s.1 io).2 s.1.polled).2).accepted = _ ∧ _
      rw [PlayLedger.watch]
      cases fateOf (polledTurn aead (answerTurn aes lib gain s.1 io).2 s.1.polled).2 with
      | none =>
          obtain ⟨new, hsubset, haccepted⟩ := PlayLedger.pushAll_accepted
            (turnPushes aead (answerTurn aes lib gain s.1 io).2 s.1.polled.pipeline
              (s.1.polled.poll.getD .inputs)) s.2 s.1.polled.pipeline.playout
          exact ⟨new, haccepted, fun packet hmem => turnPushes_type (hsubset hmem)⟩
      | some fate =>
          dsimp only
          unfold PlayLedger.leave
          generalize playoutPeek s.1.polled.pipeline.playout = front
          cases front with
          | none => exact hnone
          | some slot => exact hnone

/-- **A step of a session** keeps the invariant while the indices stay in window, and hands over at
most the packet of one ticket. -/
theorem InSession.step (h : InSession p idx s) (step : SessionStep)
    (hwindow : ((sessionLedger aead aes lib gain).step s step).1.2.InWindow idx) :
    InSession p idx ((sessionLedger aead aes lib gain).step s step).1 ∧
      HandsTicket aes lib gain s ((sessionLedger aead aes lib gain).step s step).1.1.polled.pipeline
        ((sessionLedger aead aes lib gain).step s step).1.2
        ((sessionLedger aead aes lib gain).step s step).2 := by
  have heffect := ledgerStep_effect aead (s.1.polled, s.2) (answerStep aes lib gain s.1 step).2
  have hhands := sessionStep_hands aead aes lib gain s step
  have htracks := heffect.tracks h.tracks
  have hordered := heffect.ordered h.tracks h.ordered hwindow
  obtain ⟨new, haccepted, hnew⟩ := sessionStep_accepted aead aes lib gain s step
  have htypes : ∀ packet ∈ ((sessionLedger aead aes lib gain).step s step).1.2.accepted,
      packet.header.payloadType = p.session.payloadType := by
    intro packet hmem
    rw [haccepted] at hmem
    rcases List.mem_append.mp hmem with hold | hmem
    · exact h.types packet hold
    · rw [hnew packet hmem, h.same.session]
  generalize hresult : (sessionLedger aead aes lib gain).step s step = r at hhands htypes ⊢
  have hqueue : InSession p idx r.1 ↔ SameDecoding p r.1.1.polled.pipeline := by
    rw [← hresult]
    rw [← hresult] at htypes
    exact ⟨fun h => h.same, fun hsame => ⟨hsame, htracks, hordered, htypes⟩⟩
  obtain ⟨⟨d, l'⟩, event⟩ := r
  generalize hafter : d.polled.pipeline = after at hhands hqueue ⊢
  rw [hqueue]
  cases hhands with
  | quiet after l' event hsame hbooks hsince hhanded hheard =>
      exact ⟨h.same.trans hsame, HandsTicket.nothing hsince hhanded hheard hbooks⟩
  | handed slot after l' event hsame hplaying hpeek hsince hhanded houtcome =>
      refine ⟨h.same.trans hsame, ?_⟩
      -- the front slot holds a ticket, and its packet is of the session's payload type
      obtain ⟨hvalid, -⟩ := playoutPeek_eq_some hpeek
      obtain ⟨t, ht⟩ := Option.isSome_iff_exists.mp ((h.tracks.valid slot).symm.trans hvalid)
      have hpacket := h.tracks.packet slot t ht
      have htype := h.types _ (List.mem_of_getElem? hpacket)
      rw [← h.same.session] at htype
      obtain ⟨hheard, hbooks⟩ := houtcome htype
      rw [ht] at hsince
      exact HandsTicket.ticket t _ hpacket hsince hhanded hheard hbooks

/-- A packet that was accepted stays on record. -/
theorem accepted_kept (s : DecodingPipeline σ × PlayLedger) (step : SessionStep) {t : ℕ}
    {packet : RtpPacket} (h : s.2.accepted[t]? = some packet) :
    ((sessionLedger aead aes lib gain).step s step).1.2.accepted[t]? = some packet := by
  obtain ⟨new, haccepted, -⟩ := sessionStep_accepted aead aes lib gain s step
  rw [haccepted, List.getElem?_append_left (List.getElem?_eq_some_iff.mp h).1]
  exact h

/-- The packets handed over are those of the tickets, in the same order. -/
def HandedAs (l : PlayLedger) (events : List SessionEvent) : Prop :=
  List.Forall₂ (fun handed t => l.accepted[t]? = some handed.1) (handedOver events) l.since

/-- **The next packet handed over** is that of the next ticket. -/
theorem HandedAs.step {events : List SessionEvent} (h : HandedAs s.2 events) (step : SessionStep)
    (hhands : HandsTicket aes lib gain s
      ((sessionLedger aead aes lib gain).step s step).1.1.polled.pipeline
      ((sessionLedger aead aes lib gain).step s step).1.2
      ((sessionLedger aead aes lib gain).step s step).2) :
    HandedAs ((sessionLedger aead aes lib gain).step s step).1.2
      (events ++ [((sessionLedger aead aes lib gain).step s step).2]) := by
  have hkept : List.Forall₂ (fun (handed : RtpPacket × UInt32) t =>
      ((sessionLedger aead aes lib gain).step s step).1.2.accepted[t]? = some handed.1)
      (handedOver events) s.2.since :=
    h.imp fun handed t haccepted => accepted_kept aead aes lib gain s step haccepted
  rw [HandedAs, handedOver_concat]
  cases hhands with
  | nothing hsince hhanded hheard hbooks =>
      rw [hsince, hhanded, List.append_nil]
      exact hkept
  | ticket t packet haccepted hsince hhanded hheard hbooks =>
      rw [hsince, hhanded]
      exact List.rel_append hkept
        (.cons (accepted_kept aead aes lib gain s step haccepted) .nil)

/-! ## What is lost -/

/-- The counters agree with the tickets that were handed over. -/
structure Counted (idx : ℕ → ℤ) (books : HandedBooks) (since : List ℕ) : Prop where
  received : books.packetsReceived = UInt32.ofNat since.length
  last : ∀ t ∈ since.getLast?, (books.lastSequence.toNat : ℤ) = idx t % 2 ^ 16
  lost : since.length ≤ 2 ^ 32 → (since.map idx).IsChain (fun a b => b - a ≤ 2 ^ 15) →
    books.packetsLost = UInt32.ofNat (missing (since.map idx)).card

theorem Begun.counted {p : AudioPipeline} (h : Begun p) (idx : ℕ → ℤ) :
    Counted idx p.handedBooks [] where
  received := h.received
  last t ht := absurd ht (Option.not_mem_none t)
  lost _ _ := h.lost

/-- The signed distance from the number that was due is the number of indices left out. -/
theorem sequence_delta {last sequence : UInt16} {m n : ℤ} (hlast : (last.toNat : ℤ) = m % 2 ^ 16)
    (hsequence : (sequence.toNat : ℤ) = n % 2 ^ 16) (hlow : m < n) (hhigh : n - m ≤ 2 ^ 15) :
    (sequence - (last + 1)).toInt16.toInt = n - m - 1 := by
  show (sequence.toBitVec - (last.toBitVec + 1)).toInt = n - m - 1
  rw [toBitVec_eq_serial hlast, toBitVec_eq_serial hsequence, ← serial_add_one]
  rw [toInt_serial_sub (by norm_num; omega) (by norm_num; omega)]
  omega

/-- **The next packet handed over** adds the indices in between to those that are lost. -/
theorem Counted.handed {books : HandedBooks} {since : List ℕ} (h : Counted idx books since)
    {t : ℕ} {sequence : UInt16} (hlabel : (sequence.toNat : ℤ) = idx t % 2 ^ 16)
    (hincreasing : ((since ++ [t]).map idx).Pairwise (· < ·)) (samples : List Int16) :
    Counted idx (books.after sequence samples) (since ++ [t]) where
  received := by
    rw [List.length_append, List.length_singleton, UInt32.ofNat_add, ← h.received]
    rfl
  last u hu := by
    rw [List.getLast?_concat, Option.mem_some_iff] at hu
    rw [← hu]
    exact hlabel
  lost hlength hchain := by
    rw [List.length_append, List.length_singleton] at hlength
    have hreceived := h.received
    cases since.eq_nil_or_concat with
    | inl hnil =>
        -- nothing is missing before the first packet
        have hlost := h.lost (by omega) (by rw [hnil]; exact List.IsChain.nil)
        rw [hnil] at hreceived hlost ⊢
        have hfirst : ¬ (books.packetsReceived > 0 ∧
            (sequence - (books.lastSequence + 1)).toInt16.toInt > 0) := by
          rw [hreceived]
          exact fun hpos => absurd hpos.1 (by decide)
        rw [HandedBooks.after]
        dsimp only
        rw [if_neg hfirst, hlost, List.nil_append, List.map_singleton, missing_singleton]
        rfl
    | inr hconcat =>
        obtain ⟨front, u, rfl⟩ := hconcat
        rw [List.concat_eq_append] at h hlength hreceived hincreasing hchain ⊢
        rw [List.length_append, List.length_singleton] at hlength hreceived
        have hmap : (front ++ [u] ++ [t]).map idx = front.map idx ++ [idx u, idx t] := by
          rw [List.append_assoc, List.map_append]
          rfl
        rw [hmap] at hincreasing hchain ⊢
        obtain ⟨hchain, hgap, -⟩ := List.isChain_append_cons_cons.mp hchain
        have hlost := h.lost (by rw [List.length_append, List.length_singleton]; omega)
          (by rw [List.map_append]; exact hchain)
        have hahead : idx u < idx t :=
          List.rel_of_pairwise_cons (List.pairwise_append.mp hincreasing).2.1 List.mem_cons_self
        have hpositive : books.packetsReceived > 0 := by
          rw [hreceived]
          apply UInt32.lt_iff_toNat_lt.mpr
          rw [UInt32.toNat_ofNat', Nat.mod_eq_of_lt (by omega)]
          exact Nat.succ_pos _
        have hdelta := sequence_delta (h.last u List.getLast?_concat) hlabel (by omega) (by omega)
        rw [card_missing_concat hincreasing, UInt32.ofNat_add, HandedBooks.after]
        rw [List.map_append, List.map_singleton] at hlost
        dsimp only
        rw [hdelta, ← hlost]
        by_cases hnext : idx t - idx u - 1 > 0
        · rw [if_pos ⟨hpositive, hnext⟩]
          obtain ⟨gap, hgap⟩ := Int.eq_ofNat_of_zero_le hnext.le
          have hword : UInt32.ofInt (gap : ℤ) = UInt32.ofNat gap := by
            apply UInt32.toNat_inj.mp
            rw [UInt32.ofInt, UInt32.toNat_ofNat', UInt32.toNat_ofNat']
            omega
          rw [hgap, Int.toNat_natCast, hword]
        · have hnone : idx t - idx u - 1 = 0 := by omega
          rw [if_neg (fun hboth => hnext hboth.2), hnone]
          exact (UInt32.add_zero _).symm

/-! ## Runs -/

/-- In every step the indices of the moment are in window. -/
def SessionInWindow (idx : ℕ → ℤ) (start : DecodingPipeline σ × PlayLedger)
    (steps : List SessionStep) : Prop :=
  (sessionLedger aead aes lib gain).Guarded
    (fun s step => ((sessionLedger aead aes lib gain).step s step).1.2.InWindow idx) start steps

/-- **Lost packets are counted.** -/
theorem Begun.counted_run {p : AudioPipeline} (h : Begun p) (handle : σ) {idx : ℕ → ℤ}
    {steps : List SessionStep}
    (hwindow : SessionInWindow aead aes lib gain idx (sessionStart p handle) steps) :
    let r := (sessionLedger aead aes lib gain).run (sessionStart p handle) steps
    InSession p idx r.1 ∧ HandedAs r.1.2 r.2 ∧
      Counted idx r.1.1.polled.pipeline.handedBooks r.1.2.since := by
  have hrun := (sessionLedger aead aes lib gain).run_guarded_invariant
    (fun s events => InSession p idx s ∧ HandedAs s.2 events ∧
      Counted idx s.1.polled.pipeline.handedBooks s.2.since)
    (fun s events step hs hstep => ?_) steps (sessionStart p handle) []
    ⟨h.inSession handle idx, .nil, h.counted idx⟩ hwindow
  · exact hrun
  obtain ⟨hsession, hhanded, hcounted⟩ := hs
  obtain ⟨hnext, hhands⟩ := hsession.step aead aes lib gain step hstep
  refine ⟨hnext, hhanded.step aead aes lib gain step hhands, ?_⟩
  cases hhands with
  | nothing hsince hhanded hheard hbooks =>
      rw [hsince, hbooks]
      exact hcounted
  | ticket t packet haccepted hsince hhanded hheard hbooks =>
      have hincreasing := hnext.ordered.increasing
      have hlabel := hstep.1 t packet (accepted_kept aead aes lib gain s step haccepted)
      rw [hsince] at hincreasing ⊢
      rw [hbooks]
      exact hcounted.handed hlabel hincreasing _

/-- The queue accepted only packets of the sender: the one with the ticket `t` has the payload that
belongs to its index. -/
def PlayLedger.Delivers (l : PlayLedger) (idx : ℕ → ℤ) (payloadOf : ℤ → List UInt8) : Prop :=
  ∀ t packet, l.accepted[t]? = some packet → packet.payload = payloadOf (idx t)

/-- A statement about every ticket and its packet can be checked on the list. -/
theorem PlayLedger.forall_accepted (l : PlayLedger) (holds : ℕ → RtpPacket → Prop) :
    (∀ x ∈ l.accepted.zipIdx, holds x.2 x.1) ↔
      ∀ t packet, l.accepted[t]? = some packet → holds t packet := by
  constructor
  · intro h t packet haccepted
    exact h (packet, t) (List.mem_zipIdx_iff_getElem?.mpr haccepted)
  · rintro h ⟨packet, t⟩ hmem
    exact h t packet (List.mem_zipIdx_iff_getElem?.mp hmem)

instance (l : PlayLedger) (idx : ℕ → ℤ) : Decidable (l.InWindow idx) :=
  have : Decidable (l.Labelled idx) := decidable_of_iff _ (l.forall_accepted fun t packet =>
    (packet.header.sequence.toNat : ℤ) = idx t % 2 ^ 16)
  inferInstanceAs (Decidable (l.Labelled idx ∧ ∀ t ∈ l.current, ∀ u ∈ l.current, _))

instance (l : PlayLedger) (idx : ℕ → ℤ) (payloadOf : ℤ → List UInt8) :
    Decidable (l.Delivers idx payloadOf) :=
  decidable_of_iff _ (l.forall_accepted fun t packet => packet.payload = payloadOf (idx t))

instance (idx : ℕ → ℤ) (start : DecodingPipeline σ × PlayLedger) (steps : List SessionStep) :
    Decidable (SessionInWindow aead aes lib gain idx start steps) :=
  Machine.decidableGuarded _ _ start steps

/-- In every step the indices of the moment are in window, and the queue has accepted only packets
of the sender. -/
def SessionDelivers (idx : ℕ → ℤ) (payloadOf : ℤ → List UInt8)
    (start : DecodingPipeline σ × PlayLedger) (steps : List SessionStep) : Prop :=
  (sessionLedger aead aes lib gain).Guarded
    (fun s step =>
      ((sessionLedger aead aes lib gain).step s step).1.2.InWindow idx ∧
        ((sessionLedger aead aes lib gain).step s step).1.2.Delivers idx payloadOf) start steps

instance (idx : ℕ → ℤ) (payloadOf : ℤ → List UInt8) (start : DecodingPipeline σ × PlayLedger)
    (steps : List SessionStep) :
    Decidable (SessionDelivers aead aes lib gain idx payloadOf start steps) :=
  Machine.decidableGuarded _ _ start steps

/-- The samples of some frames, each at its volume, one frame after the other. -/
def soundOf (gain : UInt32 → Int16 → Int16) (frames : ℤ → AudioFrame) (played : List ℤ)
    (volumes : List UInt32) : List Int16 :=
  (List.zipWith (fun n volumeDb => (frames n).samples.map (gain volumeDb)) played volumes).flatten

/-- What was heard in a session is what the sender recorded, at the volume of the moment. -/
structure Heard (frames : ℤ → AudioFrame) (idx : ℕ → ℤ) (s : DecodingPipeline σ × PlayLedger)
    (events : List SessionEvent) : Prop where
  samples : heard events =
    soundOf gain frames (s.2.since.map idx) ((handedOver events).map Prod.snd)
  decoded : s.1.polled.pipeline.decodedPackets = UInt32.ofNat s.2.since.length
  handed : HandedAs s.2 events

/-- A frame has the same payload, and fits as well, while the decoding stays the same. -/
theorem SameDecoding.frame {p after : AudioPipeline} (h : SameDecoding p after)
    (sender : aes.Sender) (frame : AudioFrame) :
    frame.payload after sender = frame.payload p sender ∧ (frame.Fits p → frame.Fits after) ∧
      (p.ReadyToDecode → after.ReadyToDecode) := by
  obtain ⟨hsession, -, halac, haes⟩ := h
  refine ⟨?_, fun hfits => ?_, fun hready => ⟨?_, ?_, ?_⟩⟩
  · rw [AudioFrame.payload, AudioFrame.payload, AudioPipeline.sealPayload,
      AudioPipeline.sealPayload, hsession, haes]
    cases frame with
    | alac coding sound => rw [AudioFrame.coded, AudioFrame.coded, halac]
    | pcm samples => rfl
  · cases frame with
    | alac coding sound =>
        rw [AudioFrame.Fits, hsession, halac]
        exact hfits
    | pcm samples =>
        rw [AudioFrame.Fits, hsession]
        exact hfits
  · rw [hsession]
    exact hready.channels
  · rw [hsession]
    exact hready.size
  · rw [hsession, halac]
    exact hready.alac

/-- **What is heard is what was recorded.** -/
theorem Begun.heard_run {p : AudioPipeline} (h : Begun p) (handle : σ) {idx : ℕ → ℤ}
    (sender : aes.Sender) {frames : ℤ → AudioFrame} (hfits : ∀ n, (frames n).Fits p)
    {steps : List SessionStep}
    (hdelivers : SessionDelivers aead aes lib gain idx (fun n => (frames n).payload p sender)
      (sessionStart p handle) steps) :
    let r := (sessionLedger aead aes lib gain).run (sessionStart p handle) steps
    InSession p idx r.1 ∧ Heard gain frames idx r.1 r.2 := by
  have hrun := (sessionLedger aead aes lib gain).run_guarded_invariant
    (fun s events => InSession p idx s ∧ Heard gain frames idx s events)
    (fun s events step hs hstep => ?_) steps (sessionStart p handle) []
    ⟨h.inSession handle idx, rfl, h.decoded, .nil⟩ hdelivers
  · exact hrun
  obtain ⟨hsession, hheard⟩ := hs
  obtain ⟨hnext, hhands⟩ := hsession.step aead aes lib gain step hstep.1
  refine ⟨hnext, ?_⟩
  have hhanded := hheard.handed.step aead aes lib gain step hhands
  cases hhands with
  | nothing hsince hnone hquiet hbooks =>
      refine ⟨?_, ?_, hhanded⟩
      · rw [heard_concat, handedOver_concat, hquiet, hnone, List.append_nil, List.append_nil,
          hsince]
        exact hheard.samples
      · rw [hsince, ← hheard.decoded]
        exact congrArg HandedBooks.decodedPackets hbooks
  | ticket t packet haccepted hsince hpacket hsamples hbooks =>
      -- the packet is the sender's, and decodes to its frame
      have hpayload : packet.payload = (frames (idx t)).payload p sender :=
        hstep.2 t packet (accepted_kept aead aes lib gain s step haccepted)
      obtain ⟨hsame, hfitsNow, hreadyNow⟩ := hsession.same.frame aes sender (frames (idx t))
      have hdecoded := decodePayload_sealed sender (hreadyNow h.ready) lib s.1.handle
        (hfitsNow (hfits (idx t)))
      rw [hsame, ← hpayload] at hdecoded
      rw [hdecoded, Option.getD_some] at hsamples hbooks
      refine ⟨?_, ?_, hhanded⟩
      · have hlength : (s.2.since.map idx).length = ((handedOver events).map Prod.snd).length := by
          rw [List.length_map, List.length_map]
          exact hheard.handed.length_eq.symm
        rw [heard_concat, handedOver_concat, hsamples, hsince, hpacket, List.map_append,
          List.map_append, soundOf, List.zipWith_append hlength, List.flatten_append,
          hheard.samples]
        exact congrArg _ (List.append_nil _).symm
      · rw [hsince, List.length_append, List.length_singleton, UInt32.ofNat_add, ← hheard.decoded]
        refine (congrArg HandedBooks.decodedPackets hbooks).trans ?_
        exact if_neg (hfits (idx t)).samples_ne_nil

end Session

end PortableAirplay.Audio
