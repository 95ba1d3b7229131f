import PortableAirplay.Audio.SessionRun
import PortableAirplay.Service.AirplayServer

/-!
# Recorded and heard

From `start_audio_session` to the output device: once the audio thread has started a session, what
its polls hand to the output is, frame by frame, what the sender recorded. The network may drop,
delay, reorder and repeat packets; whatever is heard is a selection of the recorded frames in
their order, each of them whole and at the volume of the moment (`recorded_is_heard`). What falls
out in between is counted (`lost_packets_counted`).

The product of a sample with the volume is one of `float`s: here it is any function `gain`.
-/

set_option autoImplicit false

namespace PortableAirplay.Service

open PortableAirplay.Airplay
open PortableAirplay.Audio
open PortableAirplay.Library
open PortableAirplay.Platform
open PortableAirplay.Protocol

/-! ## A session begins -/

/-- What the volume, the boundary and the seek leave as they are. -/
theorem Begun.same {p after : AudioPipeline} (h : Begun p) (hdecoding : SameDecoding p after)
    (hbooks : after.handedBooks = p.handedBooks)
    (hqueue : ∃ blank, after.playout.unbounded = playoutReset blank) : Begun after where
  playing := hdecoding.state.trans h.playing
  ready := by
    obtain ⟨hsession, -, halac, -⟩ := hdecoding
    refine ⟨?_, ?_, ?_⟩
    · rw [hsession]
      exact h.ready.channels
    · rw [hsession]
      exact h.ready.size
    · rw [hsession, halac]
      exact h.ready.alac
  received := (congrArg HandedBooks.packetsReceived hbooks).trans h.received
  lost := (congrArg HandedBooks.packetsLost hbooks).trans h.lost
  decoded := (congrArg HandedBooks.decodedPackets hbooks).trans h.decoded
  queue := hqueue

/-- A pipeline that was stopped, configured and started. -/
theorem begun_of_started {io : ConfigureIo} {p : AudioPipeline} {session : SdpSession}
    (hconfigured : (audioPipelineConfigure io (audioPipelineStop p) session).2 = true)
    (hstarted : (audioPipelineStart
      (audioPipelineConfigure io (audioPipelineStop p) session).1).2 = true) :
    Begun (audioPipelineStart (audioPipelineConfigure io (audioPipelineStop p) session).1).1 := by
  have hready := audioPipelineConfigure_ready hconfigured
  have hqueue := audioPipelineConfigure_playout io (audioPipelineStop p) session
  generalize (audioPipelineConfigure io (audioPipelineStop p) session).1 = configured
    at hready hqueue hstarted ⊢
  rw [audioPipelineStart] at hstarted ⊢
  by_cases hflag : configured.configured = false
  · rw [if_pos hflag] at hstarted
    exact absurd hstarted Bool.false_ne_true
  · rw [if_neg hflag]
    refine ⟨rfl, ⟨hready.channels, hready.size, hready.alac⟩, rfl, rfl, rfl,
      (audioPipelineStop p).playout, ?_⟩
    dsimp only
    rw [hqueue]
    rfl

/-- **Where `start_audio_session` starts a session, the session begins.** -/
theorem startAudioSession_begun {io : SessionIo} {t : AudioThread} {stream : StreamState}
    (hstale : upToDate t stream = false) (hstart : (startAudioSession io t stream).ok = true) :
    Begun (startAudioSession io t stream).thread.pipeline := by
  rw [startAudioSession, if_neg (by rw [hstale]; decide), restartAudioSession] at hstart ⊢
  dsimp only at hstart ⊢
  split at hstart
  · exact absurd hstart Bool.false_ne_true
  rename_i hconfigured
  rw [if_neg hconfigured]
  split at hstart
  · exact absurd hstart Bool.false_ne_true
  rename_i hopens
  rw [if_neg hopens]
  split at hstart
  · exact absurd hstart Bool.false_ne_true
  rename_i hstarted
  rw [if_neg hstarted]
  rw [Bool.not_eq_false] at hconfigured hstarted
  have hbegun := begun_of_started hconfigured hstarted
  refine enterSession_pipeline (P := Begun) hbegun ?_ ?_ ?_
  · intro p hp
    obtain ⟨volume, hset⟩ := audioPipelineSetVolume_eq p stream.volumeDb
    rw [hset]
    exact Begun.same hp ⟨rfl, rfl, rfl, rfl⟩ rfl hp.queue
  · -- the boundary empties the queue once more
    intro p hp
    refine Begun.same hp ⟨rfl, rfl, rfl, rfl⟩ rfl
      ⟨{ p.playout with timestampFloor := stream.timestampFloor
                        floorExclusive := stream.floorExclusive }, rfl⟩
  · intro p hp
    exact Begun.same hp ⟨rfl, rfl, rfl, rfl⟩ rfl hp.queue

/-! ## What the session plays -/

section Playing

variable {σ : Type} (aead : Aead) {aes : AesCbc} (lib : AacLibrary σ)
  (gain : UInt32 → Int16 → Int16) {io : SessionIo} {t : AudioThread} {stream : StreamState}
  (handle : σ) {idx : ℕ → ℤ} {steps : List SessionStep}

/-- **What is heard is what was recorded.** After `start_audio_session` has started a session of
ALAC or PCM frames, encrypted or not, and for every run of polls in which the queue accepts the
sender's packets only, in any order and with any of them missing, repeated or late, but in window:
the samples handed to the output are those of some of the frames, whole, in the order they were
recorded and each at the volume set when it was played, and no packet handed over fails to
decode. -/
theorem recorded_is_heard (hstale : upToDate t stream = false)
    (hstart : (startAudioSession io t stream).ok = true) (sender : aes.Sender)
    {frames : ℤ → AudioFrame}
    (hfits : ∀ n, (frames n).Fits (startAudioSession io t stream).thread.pipeline)
    (hdelivers : SessionDelivers aead aes lib gain idx
      (fun n => (frames n).payload (startAudioSession io t stream).thread.pipeline sender)
      (sessionStart (startAudioSession io t stream).thread.pipeline handle) steps) :
    let p := (startAudioSession io t stream).thread.pipeline
    let r := (sessionLedger aead aes lib gain).run (sessionStart p handle) steps
    let played := r.1.2.since.map idx
    played.Pairwise (· < ·) ∧
      List.Forall₂ (fun handed n => (handed.1.header.sequence.toNat : ℤ) = n % 2 ^ 16 ∧
        handed.1.payload = (frames n).payload p sender) (handedOver r.2) played ∧
      heard r.2 = soundOf gain frames played ((handedOver r.2).map Prod.snd) ∧
      r.1.1.polled.pipeline.decodedPackets = UInt32.ofNat played.length := by
  obtain ⟨hsession, hheard⟩ := (startAudioSession_begun hstale hstart).heard_run aead aes lib gain
    handle sender hfits hdelivers
  have hsent := (sessionLedger aead aes lib gain).run_guarded
    (fun s => s.2.Labelled idx ∧ s.2.Delivers idx fun n => (frames n).payload
      (startAudioSession io t stream).thread.pipeline sender)
    (fun s step _ hstep => ⟨hstep.1.1, hstep.2⟩) steps _
    ⟨fun u packet h => absurd h (by simp [sessionStart, PlayLedger.empty]),
      fun u packet h => absurd h (by simp [sessionStart, PlayLedger.empty])⟩ hdelivers
  dsimp only
  generalize (sessionLedger aead aes lib gain).run
    (sessionStart (startAudioSession io t stream).thread.pipeline handle) steps = r
    at hsession hheard hsent ⊢
  refine ⟨hsession.ordered.increasing, ?_, hheard.samples, ?_⟩
  · rw [List.forall₂_map_right_iff]
    exact hheard.handed.imp fun handed u haccepted =>
      ⟨hsent.1 u handed.1 haccepted, hsent.2 u handed.1 haccepted⟩
  · rw [List.length_map]
    exact hheard.decoded

end Playing

section Example

/-- A recorded stream of ALAC frames. -/
def alacStream : StreamState :=
  { StreamState.start with
    session :=
      { SdpSession.zero with
        codec := .alac
        sampleRate := 44100
        channels := 2
        bitsPerSample := 16
        framesPerPacket := 352
        payloadType := 96 }
    hasSession := true
    recording := true
    generation := 1 }

/-- A thread that has done nothing yet. -/
def newThread : AudioThread := AudioThread.start ⟨some 2, 7000⟩

/-- The pipeline of the new session. -/
def alacPipeline : AudioPipeline :=
  (startAudioSession idleAudio.session newThread alacStream).thread.pipeline

/-- Libraries that a clear session does not use. -/
def closedAead : Aead := ⟨fun _ => none, fun _ _ => none⟩

/-- The AAC library without a stream. -/
def closedAac : AacLibrary Unit := ⟨fun s _ => (s, false), fun s _ => (s, none), fun _ => none⟩

/-- The sender of a session in the clear. -/
def clearSender : unusedCipher.Sender :=
  ⟨fun _ _ input => input, fun _ _ _ => rfl, fun _ _ _ _ => rfl⟩

/-- Frame 9 is compressed, the others are not. -/
def recordedFrame (n : ℤ) : AudioFrame :=
  if n = 9 then
    .alac (.compressed 2 3 ⟨9, 4, [160, -190]⟩ ⟨4, 7, [16]⟩)
      (.stereo [(5, -7), (-32768, 32767), (0, 0), (6, -8)])
  else .alac .uncompressed (.stereo [(1, -1)])

/-- The datagram of a frame. -/
def frameDatagram (n : ℕ) : UdpOffer :=
  .datagram ⟨[0x80, 96, 0, UInt8.ofNat n] ++ write32 (UInt32.ofNat (352 * n)) ++ [0, 0, 0, 1] ++
    (recordedFrame n).payload alacPipeline clearSender, ⟨ascii "10.0.0.2", 6000⟩, 1000000, 0⟩

/-- Frame 9 arrives before frame 7, and once more; frame 8 never does. Then both are due. -/
def reorderedSteps : List SessionStep :=
  [.turn { idleAudio.turn with
      inputs :=
        ⟨0, ⟨false, [], [], [frameDatagram 9, frameDatagram 7, frameDatagram 9]⟩, ([], [])⟩ },
    .turn { idleAudio.turn with play := ⟨3000000, 3000000, 0, none, id⟩ },
    .turn { idleAudio.turn with play := ⟨3016000, 3016000, 0, none, id⟩ }]

/-- The index of a ticket: frame 9 was accepted first. -/
def reorderedIndex (ticket : ℕ) : ℤ := if ticket = 0 then 9 else 7

/-- At 0 dB a sample is played as it is, and the other volumes are silent. -/
def muteOrFull (volumeDb : UInt32) (x : Int16) : Int16 := if volumeDb = 0 then x else 0

/-- The run of the recording. -/
def reorderedRun : (DecodingPipeline Unit × PlayLedger) × List SessionEvent :=
  (sessionLedger closedAead unusedCipher closedAac muteOrFull).run (sessionStart alacPipeline ())
    reorderedSteps

/-- Frames 7 and 9 are heard, in this order. -/
theorem recorded_is_heard_reordered :
    reorderedRun.1.2.since.map reorderedIndex = [7, 9] ∧
      (let played := reorderedRun.1.2.since.map reorderedIndex
      played.Pairwise (· < ·) ∧
        List.Forall₂ (fun handed n => (handed.1.header.sequence.toNat : ℤ) = n % 2 ^ 16 ∧
          handed.1.payload = (recordedFrame n).payload alacPipeline clearSender)
          (handedOver reorderedRun.2) played ∧
        heard reorderedRun.2 =
          soundOf muteOrFull recordedFrame played ((handedOver reorderedRun.2).map Prod.snd) ∧
        reorderedRun.1.1.polled.pipeline.decodedPackets = UInt32.ofNat played.length) := by
  have hstale : upToDate newThread alacStream = false := by decide
  have hstart : (startAudioSession idleAudio.session newThread alacStream).ok = true := by
    decide +kernel
  have hfits : ∀ n, (recordedFrame n).Fits
      (startAudioSession idleAudio.session newThread alacStream).thread.pipeline := by
    intro n
    rw [recordedFrame]
    split
    · decide +kernel
    · decide +kernel
  have hdelivers : SessionDelivers closedAead unusedCipher closedAac muteOrFull reorderedIndex
      (fun n => (recordedFrame n).payload
        (startAudioSession idleAudio.session newThread alacStream).thread.pipeline clearSender)
      (sessionStart (startAudioSession idleAudio.session newThread alacStream).thread.pipeline ())
      reorderedSteps := by
    decide +kernel
  have hheard := recorded_is_heard closedAead closedAac muteOrFull () hstale hstart clearSender
    hfits hdelivers
  refine ⟨by decide +kernel, ?_⟩
  unfold reorderedRun alacPipeline
  exact hheard

end Example

section Counting

variable {σ : Type} (aead : Aead) {aes : AesCbc} (lib : AacLibrary σ)
  (gain : UInt32 → Int16 → Int16) {io : SessionIo} {t : AudioThread} {stream : StreamState}
  (handle : σ) {idx : ℕ → ℤ} {steps : List SessionStep}

/-- **Lost packets are counted.** After `start_audio_session` has started a session of any codec,
and for every run of its polls in window: the packets handed to the decoder are those of the
tickets in `since`, with increasing indices, each of them is counted as received, and while no gap
is longer than half the circle of sequence numbers the counter of lost packets is the number of
indices between the first packet handed over and the last that never were. -/
theorem lost_packets_counted (hstale : upToDate t stream = false)
    (hstart : (startAudioSession io t stream).ok = true)
    (hwindow : SessionInWindow aead aes lib gain idx
      (sessionStart (startAudioSession io t stream).thread.pipeline handle) steps) :
    let r := (sessionLedger aead aes lib gain).run
      (sessionStart (startAudioSession io t stream).thread.pipeline handle) steps
    let played := r.1.2.since.map idx
    List.Forall₂ (fun handed u => r.1.2.accepted[u]? = some handed.1 ∧
        (handed.1.header.sequence.toNat : ℤ) = idx u % 2 ^ 16) (handedOver r.2) r.1.2.since ∧
      played.Pairwise (· < ·) ∧
      r.1.1.polled.pipeline.packetsReceived = UInt32.ofNat (handedOver r.2).length ∧
      ((handedOver r.2).length ≤ 2 ^ 32 → (played.IsChain fun m n => n - m ≤ 2 ^ 15) →
        r.1.1.polled.pipeline.packetsLost = UInt32.ofNat (missing played).card) := by
  obtain ⟨hsession, hhanded, hcounted⟩ := (startAudioSession_begun hstale hstart).counted_run aead
    aes lib gain handle hwindow
  have hlabels := (sessionLedger aead aes lib gain).run_guarded (fun s => s.2.Labelled idx)
    (fun s step _ hstep => hstep.1) steps _
    (fun u packet h => absurd h (by simp [sessionStart, PlayLedger.empty])) hwindow
  dsimp only
  generalize (sessionLedger aead aes lib gain).run
    (sessionStart (startAudioSession io t stream).thread.pipeline handle) steps = r
    at hsession hhanded hcounted hlabels ⊢
  have hlength := hhanded.length_eq
  refine ⟨?_, hsession.ordered.increasing, ?_, fun hcount => ?_⟩
  · exact hhanded.imp fun handed u haccepted => ⟨haccepted, hlabels u handed.1 haccepted⟩
  · rw [hlength]
    exact hcounted.received
  · rw [hlength] at hcount
    exact hcounted.lost hcount

/-- Frame 8 is lost: two packets are received, and one is counted as lost. -/
theorem lost_packets_counted_reordered :
    reorderedRun.1.2.since.map reorderedIndex = [7, 9] ∧
      reorderedRun.1.1.polled.pipeline.packetsReceived = 2 ∧
      reorderedRun.1.1.polled.pipeline.packetsLost = 1 := by
  have hstale : upToDate newThread alacStream = false := by decide
  have hstart : (startAudioSession idleAudio.session newThread alacStream).ok = true := by
    decide +kernel
  have hwindow : SessionInWindow closedAead unusedCipher closedAac muteOrFull reorderedIndex
      (sessionStart (startAudioSession idleAudio.session newThread alacStream).thread.pipeline ())
      reorderedSteps := by
    decide +kernel
  have hcounted := lost_packets_counted closedAead closedAac muteOrFull () hstale hstart hwindow
  have hplayed : reorderedRun.1.2.since.map reorderedIndex = [7, 9] := by decide +kernel
  have hlength : (handedOver reorderedRun.2).length = 2 := by decide +kernel
  obtain ⟨-, -, hreceived, hlost⟩ := hcounted
  unfold reorderedRun alacPipeline at hplayed hlength ⊢
  rw [hlength] at hreceived hlost
  rw [hplayed] at hlost
  exact ⟨hplayed, hreceived, hlost (by decide) (by decide)⟩

end Counting

end PortableAirplay.Service
