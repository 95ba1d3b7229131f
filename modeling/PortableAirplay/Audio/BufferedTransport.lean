import PortableAirplay.Audio.BufferedStream

/-!
# Runs of the buffered transport

A run is a list of polls and seeks on one accepted connection, whose peer sends a stream of
bytes. Each poll may read twice, and each read either times out or gives at least one byte of
what is left of the stream. The invariant is that the unfinished record in the buffer is what
the cutting of the bytes read leaves over.
-/

set_option autoImplicit false

namespace PortableAirplay.Audio

open PortableAirplay.Library
open PortableAirplay.Platform
open PortableAirplay.Protocol

/-! ## Fields of a record -/

theorem recordNeed_eq {data : List UInt8} (h : 2 ≤ data.length) :
    recordNeed data = beNat (data.take 2) := by
  have hwindow : data.take 2 = [byteAt data 0, byteAt data 1] := by
    calc data.take 2 = (data.drop 0).take 2 := by rw [List.drop_zero]
      _ = [byteAt data 0, byteAt data 1] := by
          rw [window_succ (by omega), window_succ (by omega), List.take_zero]
  have hlow : (byteAt data 1).toNat < 2 ^ 8 := (byteAt data 1).toNat_lt
  rw [hwindow, recordNeed, Nat.shiftLeft_eq, or_eq_add hlow]
  simp [beNat]

theorem toNat_recordSequence {data : List UInt8} (h : 6 ≤ data.length) :
    (recordSequence data).toNat = wireSequence data := by
  rw [recordSequence, toNat_bigEndian24, wireSequence, window_three (by omega)]

theorem wireSequence_lt (data : List UInt8) : wireSequence data < 2 ^ 24 := by
  have h := beNat_lt ((data.drop 3).take 3)
  have hlen : ((data.drop 3).take 3).length ≤ 3 := List.length_take_le ..
  calc wireSequence data < 256 ^ ((data.drop 3).take 3).length := h
    _ ≤ 256 ^ 3 := Nat.pow_le_pow_right (by omega) hlen
    _ = 2 ^ 24 := by norm_num

/-- The callback gets what the record carries. -/
theorem recordPacket_eq {data : List UInt8} (h : 14 ≤ data.length) :
    recordPacket data = wirePacket data := by
  have hseq : (recordSequence data).toUInt16 = UInt16.ofNat (wireSequence data) := by
    rw [← toNat_recordSequence (by omega)]
    rfl
  rw [recordPacket, wirePacket, hseq, bigEndian32_eq, bigEndian32_eq,
    window_four (by omega), window_four (by omega)]

/-- The boundary in force is `pending`, modulo `2 ^ 24`. -/
def BufferedAudio.Pends (b : BufferedAudio) : Option UInt32 → Prop
  | none => b.discarding = false
  | some boundary =>
      b.discarding = true ∧ b.discardSequence.toNat % 2 ^ 24 = boundary.toNat % 2 ^ 24

theorem toNat_distance (x y : UInt32) :
    ((x - y) &&& 0xffffff).toNat = (2 ^ 32 - y.toNat + x.toNat) % 2 ^ 24 := by
  rw [UInt32.toNat_and, UInt32.toNat_sub]
  have hmask : (0xffffff : UInt32).toNat = 2 ^ 24 - 1 := rfl
  rw [hmask, Nat.and_two_pow_sub_one_eq_mod]
  omega

theorem staleRecord_none {b : BufferedAudio} (h : b.Pends none) : b.staleRecord = false := by
  have hoff : b.discarding = false := h
  simp [BufferedAudio.staleRecord, hoff]

/-- The signed distance test of the code is `beyond`. -/
theorem staleRecord_some {b : BufferedAudio} {boundary : UInt32} (h : b.Pends (some boundary))
    (hlen : 6 ≤ b.data.length) : b.staleRecord = !beyond boundary b.data := by
  obtain ⟨hon, hmod⟩ := h
  have hdist := toNat_distance (recordSequence b.data) b.discardSequence
  rw [toNat_recordSequence hlen] at hdist
  have hzero : (recordSequence b.data - b.discardSequence) &&& 0xffffff = 0 ↔
      ((recordSequence b.data - b.discardSequence) &&& 0xffffff).toNat = 0 := by
    rw [← UInt32.toNat_inj]
    rfl
  have hfar : 0x800000 ≤ (recordSequence b.data - b.discardSequence) &&& 0xffffff ↔
      2 ^ 23 ≤ ((recordSequence b.data - b.discardSequence) &&& 0xffffff).toNat := by
    rw [UInt32.le_iff_toNat_le]
    rfl
  have hseq := wireSequence_lt b.data
  have hd := b.discardSequence.toNat_lt
  have hb := boundary.toNat_lt
  unfold BufferedAudio.staleRecord beyond
  dsimp only
  rw [hon, Bool.true_and, Bool.eq_iff_iff, Bool.or_eq_true, decide_eq_true_eq, decide_eq_true_eq,
    Bool.not_eq_true', decide_eq_false_iff_not, hzero, hfar, hdist]
  omega

/-! ## One poll -/

/-- What one read of the connection gives: nothing yet, or at least one byte. -/
inductive ReadChunk where
  | timeout
  | bytes (first : UInt8) (rest : List UInt8)
  deriving DecidableEq, Repr

/-- The offer of the network at that read. -/
def ReadChunk.offer : ReadChunk → RecvOffer
  | .timeout => .timeout
  | .bytes first rest => .data (first :: rest)

/-- The bytes that it gives. -/
def ReadChunk.data : ReadChunk → List UInt8
  | .timeout => []
  | .bytes first rest => first :: rest

/-- The network of a poll that finds an accepted connection. -/
def pollIo (lengthChunk bodyChunk : ReadChunk) : BufferedIo :=
  ⟨.timeout, lengthChunk.offer, bodyChunk.offer⟩

theorem netTcpRecv_chunk {socket : NetSocket} {capacity : ℕ} (hopen : socket.isOpen = true)
    (hpos : 0 < capacity) (chunk : ReadChunk) :
    netTcpRecv socket capacity chunk.offer = .timeout ∨
      ∃ x xs, netTcpRecv socket capacity chunk.offer = .bytes (x :: xs) ∧
        (x :: xs).length ≤ capacity := by
  have hvalid : ¬(socket.isOpen = false ∨ capacity = 0) := by simp [hopen]; omega
  obtain ⟨k, rfl⟩ : ∃ k, capacity = k + 1 := ⟨capacity - 1, by omega⟩
  cases chunk with
  | timeout =>
      left
      rw [ReadChunk.offer, netTcpRecv, if_neg hvalid]
  | bytes x rest =>
      right
      refine ⟨x, rest.take k, ?_, ?_⟩
      · rw [ReadChunk.offer, netTcpRecv, if_neg hvalid]
        rfl
      · rw [List.length_cons, List.length_take]
        omega

theorem netTcpRecv_data {socket : NetSocket} {capacity : ℕ} (hopen : socket.isOpen = true)
    (hpos : 0 < capacity) (chunk : ReadChunk) :
    netTcpRecv socket capacity chunk.offer = .timeout ∧ chunk.data = [] ∨
      netTcpRecv socket capacity chunk.offer = .bytes (chunk.data.take capacity) := by
  have hvalid : ¬(socket.isOpen = false ∨ capacity = 0) := by simp [hopen]; omega
  cases chunk with
  | timeout =>
      left
      rw [ReadChunk.offer, netTcpRecv, if_neg hvalid]
      exact ⟨rfl, rfl⟩
  | bytes x rest =>
      right
      rw [ReadChunk.offer, netTcpRecv, if_neg hvalid]
      rfl

/-- What a poll can do with an unfinished record: leave it unfinished, drop the
connection at a malformed length, or consume the record. -/
inductive PollOutcome (b : BufferedAudio) (p : BufferedPoll) : Prop where
  | unfinished (hparse : parseRecord (b.data ++ p.received) = .incomplete)
      (haudio : p.audio = { b with data := b.data ++ p.received })
      (hresult : p.result = 0) (hpacket : p.packet = none)
  | dropped (hparse : parseRecord (b.data ++ p.received) = .reject)
      (haudio : p.audio = { bufferedAudioDisconnect b with listener := b.listener })
      (hresult : p.result = 0) (hpacket : p.packet = none)
  | consumed (hparse : parseRecord (b.data ++ p.received) =
        .accept (b.data ++ p.received) (b.data ++ p.received).length)
      (hpoll : p = deliverRecord { b with data := b.data ++ p.received } p.received)

@[simp] theorem deliverRecord_received (b : BufferedAudio) (received : List UInt8) :
    (deliverRecord b received).received = received := by
  unfold deliverRecord
  split <;> rfl

/-- The second read: the length is in the buffer and the record is not complete. -/
theorem receiveBody_outcome {b : BufferedAudio} (hopen : b.client.isOpen = true)
    {received : List UInt8} (hlong : 2 ≤ (b.data ++ received).length)
    (hpart : ∀ f n, parseRecord (b.data ++ received) ≠ .accept f n)
    (accept : AcceptOffer) (first : RecvOffer) (chunk : ReadChunk) :
    PollOutcome b
      (receiveBody ⟨accept, first, chunk.offer⟩ { b with data := b.data ++ received }
        received) := by
  have hneed := recordNeed_eq hlong
  unfold receiveBody
  dsimp only
  rw [hneed]
  by_cases hbad : beNat ((b.data ++ received).take 2) < 38 ∨
      beNat ((b.data ++ received).take 2) > rtpBufferSize + 2
  · rw [if_pos hbad]
    exact .dropped (parseRecord_malformed hlong hbad) rfl rfl rfl
  · rw [if_neg hbad]
    have hshort : (b.data ++ received).length < beNat ((b.data ++ received).take 2) := by
      by_contra hfull
      exact hpart _ _ (parseRecord_whole hlong hbad hfull)
    have hincomplete := parseRecord_short hlong hbad hshort
    have hroom : 0 < beNat ((b.data ++ received).take 2) - (b.data ++ received).length := by
      omega
    rcases netTcpRecv_chunk hopen hroom chunk with htimeout | ⟨x, xs, hbytes, hle⟩
    · rw [htimeout]
      exact .unfinished hincomplete rfl rfl rfl
    · rw [hbytes]
      dsimp only
      have hassoc : b.data ++ received ++ x :: xs = b.data ++ (received ++ x :: xs) :=
        List.append_assoc ..
      have hhead : (b.data ++ (received ++ x :: xs)).take 2 = (b.data ++ received).take 2 := by
        rw [← hassoc, List.take_append_of_le_length hlong]
      have hlen : (b.data ++ (received ++ x :: xs)).length =
          (b.data ++ received).length + (x :: xs).length := by
        rw [← hassoc, List.length_append]
      rw [hassoc]
      -- the length is still the one that was read first
      have hsame := congrArg beNat hhead
      rw [← hhead] at hbad ⊢
      have hlong' : 2 ≤ (b.data ++ (received ++ x :: xs)).length := by omega
      by_cases hmore : (b.data ++ (received ++ x :: xs)).length <
          beNat ((b.data ++ (received ++ x :: xs)).take 2)
      · rw [if_pos hmore]
        exact .unfinished (parseRecord_short hlong' hbad hmore) rfl rfl rfl
      · rw [if_neg hmore]
        have hfull : beNat ((b.data ++ (received ++ x :: xs)).take 2) =
            (b.data ++ (received ++ x :: xs)).length := by omega
        have hwhole := parseRecord_whole hlong' hbad hmore
        refine .consumed ?_ ?_
        · rw [deliverRecord_received, hwhole, hfull, List.take_length]
        · rw [deliverRecord_received]

/-- **One poll on an accepted connection.** -/
theorem receiveRecord_outcome {b : BufferedAudio} (hopen : b.client.isOpen = true)
    (hpart : parseRecord b.data = .incomplete) (lengthChunk bodyChunk : ReadChunk) :
    PollOutcome b (receiveRecord (pollIo lengthChunk bodyChunk) b) := by
  unfold receiveRecord pollIo
  dsimp only
  by_cases hshort : b.data.length < 2
  · rw [if_pos hshort]
    have hroom : 0 < 2 - b.data.length := by omega
    rcases netTcpRecv_chunk hopen hroom lengthChunk with htimeout | ⟨x, xs, hbytes, hle⟩
    · rw [htimeout]
      exact .unfinished (by rw [List.append_nil]; exact hpart) (by simp) rfl rfl
    · rw [hbytes]
      dsimp only
      have hlen : (b.data ++ x :: xs).length = b.data.length + (x :: xs).length :=
        List.length_append
      by_cases hstill : (b.data ++ x :: xs).length < 2
      · rw [if_pos hstill]
        refine .unfinished ?_ rfl rfl rfl
        show parseRecord (b.data ++ x :: xs) = .incomplete
        rw [parseRecord, if_pos hstill]
      · rw [if_neg hstill]
        -- exactly the two length bytes are there, so no record can be complete
        refine receiveBody_outcome hopen (by omega) ?_ _ _ bodyChunk
        intro f n hparse
        obtain ⟨-, hleast, -, hfull, -⟩ := parseRecord_accept hparse
        omega
  · rw [if_neg hshort]
    have h := receiveBody_outcome (b := b) hopen
      (by rw [List.append_nil]; omega)
      (by intro f n; rw [List.append_nil, hpart]; simp) .timeout lengthChunk.offer bodyChunk
    rw [List.append_nil] at h
    exact h

/-! ## What a poll takes of what it is given -/

/-- The second read of a poll takes a beginning of what it is given, and all that the record
needs of it. -/
theorem receiveBody_received {b : BufferedAudio} (hopen : b.client.isOpen = true)
    (received : List UInt8) (accept : AcceptOffer) (first : RecvOffer) (chunk : ReadChunk) :
    ∃ n, (receiveBody ⟨accept, first, chunk.offer⟩ b received).received =
        received ++ chunk.data.take n ∧
      (38 ≤ recordNeed b.data → recordNeed b.data ≤ rtpBufferSize + 2 →
        n = recordNeed b.data - b.data.length) := by
  unfold receiveBody
  dsimp only
  by_cases hbad : recordNeed b.data < 38 ∨ recordNeed b.data > rtpBufferSize + 2
  · rw [if_pos hbad]
    exact ⟨0, (List.append_nil _).symm, fun hleast hmost => by omega⟩
  · rw [if_neg hbad]
    refine ⟨recordNeed b.data - b.data.length, ?_, fun _ _ => rfl⟩
    by_cases hroom : 0 < recordNeed b.data - b.data.length
    · rcases netTcpRecv_data hopen hroom chunk with ⟨htimeout, hnone⟩ | hbytes
      · rw [htimeout, hnone, List.take_nil, List.append_nil]
      · rw [hbytes]
        cases hdata : chunk.data.take (recordNeed b.data - b.data.length) with
        | nil => exact (List.append_nil _).symm
        | cons x xs =>
            dsimp only
            split
            · rfl
            · rw [deliverRecord_received]
    · have hfull : recordNeed b.data - b.data.length = 0 := by omega
      have herror : netTcpRecv b.client 0 chunk.offer = .error := if_pos (Or.inr rfl)
      rw [hfull, herror, List.take_zero, List.append_nil]

/-- **What one poll takes**: of what the first read is given the bytes that the length needs, and
a beginning of what the second one is given. -/
theorem receiveRecord_received {b : BufferedAudio} (hopen : b.client.isOpen = true)
    (lengthChunk bodyChunk : ReadChunk) :
    ∃ n, (receiveRecord (pollIo lengthChunk bodyChunk) b).received =
      lengthChunk.data.take (2 - b.data.length) ++ bodyChunk.data.take n := by
  unfold receiveRecord pollIo
  dsimp only
  by_cases hshort : b.data.length < 2
  · rw [if_pos hshort]
    have hroom : 0 < 2 - b.data.length := by omega
    rcases netTcpRecv_data hopen hroom lengthChunk with ⟨htimeout, hnone⟩ | hbytes
    · refine ⟨0, ?_⟩
      rw [htimeout, hnone, List.take_nil]
      rfl
    · rw [hbytes]
      cases hdata : lengthChunk.data.take (2 - b.data.length) with
      | nil => exact ⟨0, rfl⟩
      | cons x xs =>
          dsimp only
          split
          · exact ⟨0, (List.append_nil _).symm⟩
          · obtain ⟨n, hn, -⟩ := receiveBody_received (b := { b with data := b.data ++ x :: xs })
              hopen (x :: xs) .timeout lengthChunk.offer bodyChunk
            exact ⟨n, hn⟩
  · rw [if_neg hshort]
    have hnone : 2 - b.data.length = 0 := by omega
    obtain ⟨n, hn, -⟩ := receiveBody_received hopen [] .timeout lengthChunk.offer bodyChunk
    rw [hnone, List.take_zero]
    exact ⟨n, hn⟩

/-- **A poll goes on**: if both reads give something, it takes at least one byte. -/
theorem receiveRecord_progress {b : BufferedAudio} (hopen : b.client.isOpen = true)
    (hpart : parseRecord b.data = .incomplete) {lengthChunk bodyChunk : ReadChunk}
    (hlength : lengthChunk.data ≠ []) (hbody : 2 ≤ b.data.length → bodyChunk.data ≠ []) :
    (receiveRecord (pollIo lengthChunk bodyChunk) b).received ≠ [] := by
  by_cases hshort : b.data.length < 2
  · obtain ⟨n, hn⟩ := receiveRecord_received hopen lengthChunk bodyChunk
    rw [hn]
    intro hnil
    have htaken := List.append_eq_nil_iff.mp hnil
    rcases List.take_eq_nil_iff.mp htaken.1 with hzero | hnone
    · omega
    · exact hlength hnone
  · have hneed : recordNeed b.data = beNat (b.data.take 2) := recordNeed_eq (by omega)
    -- the length in the buffer is that of a record, and the record is not complete
    rw [parseRecord, if_neg hshort, ← hneed] at hpart
    dsimp only at hpart
    split at hpart
    · contradiction
    · rename_i hgood
      split at hpart
      · rename_i hmissing
        obtain ⟨n, hn, hsize⟩ := receiveBody_received hopen [] .timeout lengthChunk.offer bodyChunk
        have hall := hsize (by omega) (by omega)
        unfold receiveRecord pollIo
        dsimp only
        rw [if_neg hshort, hn, hall, List.nil_append]
        intro hnil
        rcases List.take_eq_nil_iff.mp hnil with hzero | hnone
        · omega
        · exact hbody (by omega) hnone
      · contradiction

/-! ## Runs -/

/-- How a read goes: it times out, or it gives at most `more + 1` bytes. -/
inductive ReadSize where
  | timeout
  | upTo (more : ℕ)
  deriving DecidableEq, Repr

/-- What a read of the stream `left` gives; without bytes to read it times out. -/
def ReadSize.chunk (left : List UInt8) : ReadSize → ReadChunk
  | .timeout => .timeout
  | .upTo more =>
      match left with
      | [] => .timeout
      | first :: rest => .bytes first (rest.take more)

/-- The transport with the bytes of its peer that are still to be read. -/
structure PeerConnection where
  audio : BufferedAudio
  left : List UInt8

/-- The bytes that the read of the length takes from what it is given. -/
def PeerConnection.lengthTaken (c : PeerConnection) (lengthSize : ReadSize) : List UInt8 :=
  (lengthSize.chunk c.left).data.take (2 - c.audio.data.length)

/-- The network of a poll: the second read goes on where the first one ended. -/
def PeerConnection.io (c : PeerConnection) (lengthSize bodySize : ReadSize) : BufferedIo :=
  pollIo (lengthSize.chunk c.left)
    (bodySize.chunk (c.left.drop (c.lengthTaken lengthSize).length))

/-- A call of the owner of the transport. -/
inductive BufferedCall where
  | flush (untilSequence : UInt32)
  | poll (lengthSize bodySize : ReadSize)

/-- The polls of which no read times out. -/
def BufferedCall.reads : BufferedCall → ℕ
  | .poll (.upTo _) (.upTo _) => 1
  | _ => 0

/-- What a call left in the log. -/
inductive BufferedEvent where
  | flushed (untilSequence : UInt32)
  | polled (poll : BufferedPoll)

/-- The transport under polls and seeks. Once the connection is dropped no new
peer is accepted, so a run stays with one connection. -/
def bufferedMachine (ip : CString) : Machine PeerConnection BufferedCall BufferedEvent where
  step c
    | .flush untilSequence =>
        ({ c with audio := bufferedAudioFlush c.audio untilSequence }, .flushed untilSequence)
    | .poll lengthSize bodySize =>
        let p := bufferedAudioPoll (c.io lengthSize bodySize) c.audio ip
        (⟨p.audio, c.left.drop p.received.length⟩, .polled p)

/-- The transport when `net_tcp_accept` has just returned its peer. -/
def accepted (b : BufferedAudio) (handle : ℕ) : BufferedAudio :=
  { b with client := netTcpAccept b.listener handle, data := [] }

/-- The bytes taken from the connection. -/
def stream : List BufferedEvent → List UInt8
  | [] => []
  | .flushed _ :: log => stream log
  | .polled p :: log => p.received ++ stream log

/-- The packets given to the callback. -/
def packets : List BufferedEvent → List RtpPacket
  | [] => []
  | .flushed _ :: log => packets log
  | .polled p :: log => p.packet.toList ++ packets log

/-- The values that `buffered_audio_poll` returned. -/
def results : List BufferedEvent → List Int
  | [] => []
  | .flushed _ :: log => results log
  | .polled p :: log => p.result :: results log

/-- The records that are complete after `received` but were not after `seen`. -/
def completed (seen received : List UInt8) : List (List UInt8) :=
  (recordFraming.frames (seen ++ received)).1.drop (recordFraming.frames seen).1.length

/-- The seeks and the completed records of a log, after the bytes `seen`. -/
def timelineFrom : List UInt8 → List BufferedEvent → List Timeline
  | _, [] => []
  | seen, .flushed boundary :: log => .flush boundary :: timelineFrom seen log
  | seen, .polled p :: log =>
      (completed seen p.received).map .record ++ timelineFrom (seen ++ p.received) log

/-- The timeline of a connection. -/
def timeline (log : List BufferedEvent) : List Timeline := timelineFrom [] log

/-- The boundary that was in force when the peer was accepted. -/
def pendingAt (b : BufferedAudio) : Option UInt32 :=
  if b.discarding then some b.discardSequence else none

/-- That boundary as a seek at the start of a timeline. -/
def opening (b : BufferedAudio) : List Timeline := (pendingAt b).toList.map .flush

theorem stream_append (xs ys : List BufferedEvent) : stream (xs ++ ys) = stream xs ++ stream ys := by
  induction xs with
  | nil => rfl
  | cons e xs ih =>
      cases e with
      | flushed b => exact ih
      | polled p => rw [List.cons_append, stream, stream, ih, List.append_assoc]

theorem packets_append (xs ys : List BufferedEvent) :
    packets (xs ++ ys) = packets xs ++ packets ys := by
  induction xs with
  | nil => rfl
  | cons e xs ih =>
      cases e with
      | flushed b => exact ih
      | polled p => rw [List.cons_append, packets, packets, ih, List.append_assoc]

theorem results_append (xs ys : List BufferedEvent) :
    results (xs ++ ys) = results xs ++ results ys := by
  induction xs with
  | nil => rfl
  | cons e xs ih =>
      cases e with
      | flushed b => exact ih
      | polled p => rw [List.cons_append, results, results, ih, List.cons_append]

theorem timelineFrom_append (xs ys : List BufferedEvent) : ∀ seen : List UInt8,
    timelineFrom seen (xs ++ ys) = timelineFrom seen xs ++ timelineFrom (seen ++ stream xs) ys := by
  induction xs with
  | nil =>
      intro seen
      rw [stream, List.append_nil]
      rfl
  | cons e xs ih =>
      intro seen
      cases e with
      | flushed b => rw [List.cons_append, timelineFrom, timelineFrom, ih, stream, List.cons_append]
      | polled p =>
          rw [List.cons_append, timelineFrom, timelineFrom, ih, stream, List.append_assoc,
            List.append_assoc]

theorem timeline_append_flushed (log : List BufferedEvent) (boundary : UInt32) :
    timeline (log ++ [.flushed boundary]) = timeline log ++ [.flush boundary] := by
  rw [timeline, timelineFrom_append]
  rfl

theorem timeline_append_polled (log : List BufferedEvent) (p : BufferedPoll) :
    timeline (log ++ [.polled p]) =
      timeline log ++ (completed (stream log) p.received).map .record := by
  rw [timeline, timelineFrom_append, List.nil_append, timelineFrom, timelineFrom, List.append_nil]
  rfl

/-- The records of a timeline. -/
def timelineRecords : List Timeline → List (List UInt8)
  | [] => []
  | .flush _ :: rest => timelineRecords rest
  | .record r :: rest => r :: timelineRecords rest

theorem timelineRecords_append (xs ys : List Timeline) :
    timelineRecords (xs ++ ys) = timelineRecords xs ++ timelineRecords ys := by
  induction xs with
  | nil => rfl
  | cons e xs ih =>
      cases e with
      | flush b => exact ih
      | record r => rw [List.cons_append, timelineRecords, timelineRecords, ih, List.cons_append]

/-! ## The invariant -/

/-- What the state has to do with the bytes received and the timeline so far. -/
structure Delivers (pending : Option UInt32) (b : BufferedAudio)
    (log : List BufferedEvent) : Prop where
  waiting : ∀ rest, (recordFraming.frames (stream log)).2 = .waiting rest →
    b.client.isOpen = true ∧ b.data = rest ∧ b.Pends (boundaryAfter pending (timeline log))
  dropped : (recordFraming.frames (stream log)).2 = .malformed →
    b.client.isOpen = false ∧ b.data = []
  records : timelineRecords (timeline log) = (recordFraming.frames (stream log)).1
  packets : packets log = (deliveredFrom pending (timeline log)).map wirePacket
  results : ∀ r ∈ results log, r = 0 ∨ r = 1
  ones : (Audio.results log).count 1 = (recordFraming.frames (stream log)).1.length

/-- A poll that completes no record changes neither the timeline nor the packets. -/
theorem Delivers.poll_idle {pending : Option UInt32} {b : BufferedAudio}
    {log : List BufferedEvent} (h : Delivers pending b log) {p : BufferedPoll}
    (hsame : (recordFraming.frames (stream log ++ p.received)).1 =
      (recordFraming.frames (stream log)).1)
    (hresult : p.result = 0) (hpacket : p.packet = none)
    (hwaiting : ∀ rest, (recordFraming.frames (stream log ++ p.received)).2 = .waiting rest →
      p.audio.client.isOpen = true ∧ p.audio.data = rest ∧
        p.audio.Pends (boundaryAfter pending (timeline log)))
    (hdropped : (recordFraming.frames (stream log ++ p.received)).2 = .malformed →
      p.audio.client.isOpen = false ∧ p.audio.data = []) :
    Delivers pending p.audio (log ++ [.polled p]) := by
  have hstream : stream (log ++ [.polled p]) = stream log ++ p.received := by
    rw [stream_append, stream, stream, List.append_nil]
  -- no record was completed, so the timeline stays
  have htimeline : timeline (log ++ [.polled p]) = timeline log := by
    rw [timeline_append_polled, completed, hsame, List.drop_length, List.map_nil,
      List.append_nil]
  have hresults : Audio.results (log ++ [.polled p]) = Audio.results log ++ [0] := by
    rw [results_append, Audio.results, Audio.results, hresult]
  constructor
  · rw [hstream, htimeline]
    exact hwaiting
  · rw [hstream]
    exact hdropped
  · rw [hstream, htimeline, hsame]
    exact h.records
  · rw [packets_append, htimeline, ← h.packets, Audio.packets, Audio.packets, hpacket]
    simp
  · intro r hr
    rw [hresults, List.mem_append, List.mem_singleton] at hr
    rcases hr with hr | hr
    · exact h.results r hr
    · exact Or.inl hr
  · rw [hresults, hstream, hsame, List.count_append, h.ones]
    rfl

/-- The state after a record and what the callback got, by the boundary in force. -/
theorem deliverRecord_pends {b : BufferedAudio} {pending : Option UInt32} (h : b.Pends pending)
    (hopen : b.client.isOpen = true) (hlen : 14 ≤ b.data.length) (received : List UInt8) :
    (deliverRecord b received).audio.client.isOpen = true ∧
      (deliverRecord b received).audio.data = [] ∧
      (deliverRecord b received).audio.Pends (boundaryAfter pending [.record b.data]) ∧
      (deliverRecord b received).result = 1 ∧
      (deliverRecord b received).packet.toList =
        (deliveredFrom pending [.record b.data]).map wirePacket := by
  cases pending with
  | none =>
      have hstale := staleRecord_none h
      simp only [deliverRecord, hstale, Bool.false_eq_true, if_false]
      exact ⟨hopen, trivial, rfl, trivial, by rw [recordPacket_eq hlen]; rfl⟩
  | some boundary =>
      have hstale := staleRecord_some h (by omega)
      rw [deliveredFrom_record_some]
      by_cases hbeyond : beyond boundary b.data = true
      · have hkeep : b.staleRecord = false := by rw [hstale, hbeyond]; rfl
        simp only [deliverRecord, hkeep, Bool.false_eq_true, if_false, boundaryAfter, hbeyond,
          if_true]
        exact ⟨hopen, trivial, rfl, trivial, by rw [recordPacket_eq hlen]; rfl⟩
      · have hdrop : b.staleRecord = true := by
          rw [hstale, Bool.not_eq_true _ |>.mp hbeyond]
          rfl
        simp only [deliverRecord, hdrop, if_true, boundaryAfter, hbeyond]
        exact ⟨hopen, trivial, h, trivial, rfl⟩

theorem Delivers.flush {pending : Option UInt32} {b : BufferedAudio} {log : List BufferedEvent}
    (h : Delivers pending b log) (untilSequence : UInt32) :
    Delivers pending (bufferedAudioFlush b untilSequence) (log ++ [.flushed untilSequence]) := by
  have hstream : stream (log ++ [.flushed untilSequence]) = stream log := by
    rw [stream_append, stream, stream, List.append_nil]
  have hboundary : boundaryAfter pending (timeline (log ++ [.flushed untilSequence])) =
      some untilSequence := by
    rw [timeline_append_flushed, boundaryAfter_append]
    cases boundaryAfter pending (timeline log) <;> rfl
  have hresults : Audio.results (log ++ [.flushed untilSequence]) = Audio.results log := by
    rw [results_append, Audio.results, Audio.results, List.append_nil]
  constructor
  · intro rest hrest
    rw [hstream] at hrest
    obtain ⟨hopen, hdata, -⟩ := h.waiting rest hrest
    refine ⟨hopen, hdata, ?_⟩
    rw [hboundary]
    refine ⟨rfl, ?_⟩
    -- a boundary counts by its low 24 bits
    have hmask : (untilSequence &&& 0xffffff).toNat = untilSequence.toNat % 2 ^ 24 := by
      rw [UInt32.toNat_and, show (0xffffff : UInt32).toNat = 2 ^ 24 - 1 from rfl,
        Nat.and_two_pow_sub_one_eq_mod]
    show (untilSequence &&& 0xffffff).toNat % 2 ^ 24 = untilSequence.toNat % 2 ^ 24
    rw [hmask, Nat.mod_mod]
  · rw [hstream]
    exact h.dropped
  · rw [hstream, timeline_append_flushed, timelineRecords_append, h.records]
    simp [timelineRecords]
  · rw [packets_append, timeline_append_flushed, deliveredFrom_append, deliveredFrom_flush,
      ← List.append_nil (Audio.packets log ++ _), h.packets]
    simp [Audio.packets, deliveredFrom, delivered, stretches]
  · rw [hresults]
    exact h.results
  · rw [hresults, hstream]
    exact h.ones

/-- A poll that consumes a record. -/
theorem Delivers.poll_consumed {pending : Option UInt32} {b : BufferedAudio}
    {log : List BufferedEvent} (h : Delivers pending b log) {rest : List UInt8}
    (hrest : (recordFraming.frames (stream log)).2 = .waiting rest) {p : BufferedPoll}
    (hparse : parseRecord (b.data ++ p.received) =
      .accept (b.data ++ p.received) (b.data ++ p.received).length)
    (hpoll : p = deliverRecord { b with data := b.data ++ p.received } p.received) :
    Delivers pending p.audio (log ++ [.polled p]) := by
  obtain ⟨hopen, hdata, hpends⟩ := h.waiting rest hrest
  have hframes := recordFraming.frames_append_waiting hrest p.received
  have hnil : recordFraming.frames [] = ([], .waiting []) := rfl
  -- the bytes that waited and those received are one record
  have hone : recordFraming.frames (rest ++ p.received) =
      ([b.data ++ p.received], .waiting []) := by
    rw [← hdata, recordFraming.frames_accept hparse, List.drop_length, hnil]
  rw [hone] at hframes
  have hstream : stream (log ++ [.polled p]) = stream log ++ p.received := by
    rw [stream_append, stream, stream, List.append_nil]
  have htimeline : timeline (log ++ [.polled p]) =
      timeline log ++ [.record (b.data ++ p.received)] := by
    rw [timeline_append_polled, completed, hframes, List.drop_left]
    rfl
  have hlen : 14 ≤ (b.data ++ p.received).length := by
    obtain ⟨-, hleast, -⟩ := parseRecord_accept hparse
    omega
  have hstep := deliverRecord_pends (b := { b with data := b.data ++ p.received }) hpends hopen
    hlen p.received
  rw [← hpoll] at hstep
  obtain ⟨hopen', hdata', hpends', hresult, hpacket⟩ := hstep
  have hresults : Audio.results (log ++ [.polled p]) = Audio.results log ++ [1] := by
    rw [results_append, Audio.results, Audio.results, hresult]
  constructor
  · intro rest' hrest'
    rw [hstream, hframes, Ending.waiting.injEq] at hrest'
    rw [htimeline, boundaryAfter_append, ← hrest']
    exact ⟨hopen', hdata', hpends'⟩
  · intro hmalformed
    rw [hstream, hframes] at hmalformed
    simp at hmalformed
  · rw [hstream, hframes, htimeline, timelineRecords_append, h.records]
    rfl
  · rw [packets_append, htimeline, deliveredFrom_append, List.map_append, h.packets, ← hpacket]
    simp [Audio.packets]
  · intro r hr
    rw [hresults, List.mem_append, List.mem_singleton] at hr
    rcases hr with hr | hr
    · exact h.results r hr
    · exact Or.inr hr
  · rw [hresults, hstream, hframes, List.count_append, h.ones, List.length_append]
    rfl

/-- **A poll keeps the invariant**, whatever its reads give. -/
theorem Delivers.poll {pending : Option UInt32} {b : BufferedAudio} {log : List BufferedEvent}
    (h : Delivers pending b log) (ip : CString) (lengthChunk bodyChunk : ReadChunk) :
    Delivers pending (bufferedAudioPoll (pollIo lengthChunk bodyChunk) b ip).audio
      (log ++ [.polled (bufferedAudioPoll (pollIo lengthChunk bodyChunk) b ip)]) := by
  -- the bytes so far wait for more, or their length was malformed
  cases hend : (recordFraming.frames (stream log)).2 with
  | waiting rest =>
      obtain ⟨hopen, hdata, hpends⟩ := h.waiting rest hend
      have hpart : parseRecord b.data = .incomplete := by
        rw [hdata]
        exact recordFraming.parse_waiting hend
      have hpoll : bufferedAudioPoll (pollIo lengthChunk bodyChunk) b ip =
          receiveRecord (pollIo lengthChunk bodyChunk) b := by
        rw [bufferedAudioPoll, if_pos hopen]
      rw [hpoll]
      have hframes := recordFraming.frames_append_waiting hend
        (receiveRecord (pollIo lengthChunk bodyChunk) b).received
      -- the record is unfinished, refused or complete
      rcases receiveRecord_outcome hopen hpart lengthChunk bodyChunk with
        ⟨hparse, haudio, hresult, hpacket⟩ | ⟨hparse, haudio, hresult, hpacket⟩ |
        ⟨hparse, hdeliver⟩
      · rw [← hdata, recordFraming.frames_incomplete hparse, List.append_nil] at hframes
        refine h.poll_idle (by rw [hframes]) hresult hpacket ?_ ?_
        · intro rest' hrest'
          rw [hframes, Ending.waiting.injEq] at hrest'
          rw [haudio]
          exact ⟨hopen, hrest', hpends⟩
        · intro hmalformed
          rw [hframes] at hmalformed
          simp at hmalformed
      · rw [← hdata, recordFraming.frames_reject hparse, List.append_nil] at hframes
        refine h.poll_idle (by rw [hframes]) hresult hpacket ?_ ?_
        · intro rest' hrest'
          rw [hframes] at hrest'
          simp at hrest'
        · intro _
          rw [haudio]
          exact ⟨rfl, rfl⟩
      · exact h.poll_consumed hend hparse hdeliver
  | malformed =>
      obtain ⟨hclosed, hdata⟩ := h.dropped hend
      have hpoll : bufferedAudioPoll (pollIo lengthChunk bodyChunk) b ip =
          ⟨b, 0, none, []⟩ := by
        rw [bufferedAudioPoll, if_neg (by rw [hclosed]; decide)]
        rfl
      rw [hpoll]
      have hframes := recordFraming.frames_append_malformed hend []
      refine h.poll_idle (p := ⟨b, 0, none, []⟩) (by rw [hframes]) rfl rfl ?_ ?_
      · intro rest' hrest'
        rw [hframes, hend] at hrest'
        simp at hrest'
      · exact fun _ => ⟨hclosed, hdata⟩

/-- An accepted connection has delivered nothing yet. -/
theorem delivers_accepted (b : BufferedAudio) (handle : ℕ) :
    Delivers (pendingAt b) (accepted b handle) [] := by
  have hframes : recordFraming.frames (stream []) = ([], .waiting []) := rfl
  constructor
  · intro rest hrest
    rw [hframes, Ending.waiting.injEq] at hrest
    refine ⟨rfl, hrest, ?_⟩
    show (accepted b handle).Pends (boundaryAfter (pendingAt b) [])
    cases hon : b.discarding with
    | false => simp [pendingAt, hon, boundaryAfter, BufferedAudio.Pends, accepted]
    | true => simp [pendingAt, hon, boundaryAfter, BufferedAudio.Pends, accepted]
  · intro hmalformed
    rw [hframes] at hmalformed
    simp at hmalformed
  · rfl
  · show packets [] = (deliveredFrom (pendingAt b) []).map wirePacket
    cases pendingAt b <;> rfl
  · intro r hr
    simp [Audio.results] at hr
  · rfl

theorem deliveredFrom_pendingAt (b : BufferedAudio) (timeline : List Timeline) :
    deliveredFrom (pendingAt b) timeline = delivered (opening b ++ timeline) := by
  unfold opening
  cases pendingAt b <;> rfl

/-! ## The stream of the peer -/

theorem ReadSize.chunk_given (left : List UInt8) (size : ReadSize) :
    (size.chunk left).data <+: left := by
  cases size with
  | timeout => exact List.nil_prefix
  | upTo more =>
      cases left with
      | nil => exact List.nil_prefix
      | cons first rest =>
          exact List.cons_prefix_cons.mpr ⟨rfl, List.take_prefix more rest⟩

theorem ReadSize.chunk_some {left : List UInt8} (hleft : left ≠ []) (more : ℕ) :
    ((ReadSize.upTo more).chunk left).data ≠ [] := by
  cases left with
  | nil => exact absurd rfl hleft
  | cons first rest => exact List.cons_ne_nil _ _

/-- What a poll takes is a beginning of what is left of the stream. -/
theorem PeerConnection.taken {c : PeerConnection} (hopen : c.audio.client.isOpen = true)
    (lengthSize bodySize : ReadSize) :
    (receiveRecord (c.io lengthSize bodySize) c.audio).received <+: c.left := by
  obtain ⟨n, hn⟩ := receiveRecord_received hopen (lengthSize.chunk c.left)
    (bodySize.chunk (c.left.drop (c.lengthTaken lengthSize).length))
  have hlength : c.lengthTaken lengthSize <+: c.left :=
    (List.take_prefix _ _).trans (lengthSize.chunk_given c.left)
  have hbody := (List.take_prefix n _).trans
    (bodySize.chunk_given (c.left.drop (c.lengthTaken lengthSize).length))
  have htaken := (List.prefix_append_right_inj (c.lengthTaken lengthSize)).mpr hbody
  rw [List.prefix_iff_eq_append.mp hlength] at htaken
  rw [io, hn]
  exact htaken

/-- The transport and its connection: the invariant of the bytes read, and nothing of the stream
is lost or made up. -/
structure Conveys (pending : Option UInt32) (bytes : List UInt8) (c : PeerConnection)
    (log : List BufferedEvent) : Prop where
  delivers : Delivers pending c.audio log
  whole : stream log ++ c.left = bytes

section Conveys

variable {pending : Option UInt32} {bytes : List UInt8} {c : PeerConnection}
  {log : List BufferedEvent}

/-- A poll of a connection that is open, and one of a connection that was dropped. -/
theorem Conveys.poll_eq (h : Conveys pending bytes c log) (ip : CString)
    (lengthSize bodySize : ReadSize) :
    (c.audio.client.isOpen = true ∧ parseRecord c.audio.data = .incomplete ∧
        bufferedAudioPoll (c.io lengthSize bodySize) c.audio ip =
          receiveRecord (c.io lengthSize bodySize) c.audio) ∨
      ((recordFraming.frames (stream log)).2 = .malformed ∧
        bufferedAudioPoll (c.io lengthSize bodySize) c.audio ip = ⟨c.audio, 0, none, []⟩) := by
  cases hend : (recordFraming.frames (stream log)).2 with
  | waiting rest =>
      obtain ⟨hopen, hdata, -⟩ := h.delivers.waiting rest hend
      refine Or.inl ⟨hopen, ?_, if_pos hopen⟩
      rw [hdata]
      exact recordFraming.parse_waiting hend
  | malformed =>
      obtain ⟨hclosed, -⟩ := h.delivers.dropped hend
      refine Or.inr ⟨rfl, ?_⟩
      rw [bufferedAudioPoll, if_neg (by rw [hclosed]; decide)]
      rfl

/-- **One call keeps the invariant.** -/
theorem Conveys.step (h : Conveys pending bytes c log) (ip : CString) (call : BufferedCall) :
    Conveys pending bytes ((bufferedMachine ip).step c call).1
      (log ++ [((bufferedMachine ip).step c call).2]) := by
  cases call with
  | flush untilSequence =>
      refine ⟨h.delivers.flush untilSequence, ?_⟩
      rw [stream_append]
      show stream log ++ [] ++ c.left = bytes
      rw [List.append_nil]
      exact h.whole
  | poll lengthSize bodySize =>
      refine ⟨h.delivers.poll ip _ _, ?_⟩
      have htaken : (bufferedAudioPoll (c.io lengthSize bodySize) c.audio ip).received <+:
          c.left := by
        rcases h.poll_eq ip lengthSize bodySize with ⟨hopen, -, hpoll⟩ | ⟨-, hpoll⟩
        · rw [hpoll]
          exact c.taken hopen lengthSize bodySize
        · rw [hpoll]
          exact List.nil_prefix
      rw [stream_append]
      show stream log ++
          ((bufferedAudioPoll (c.io lengthSize bodySize) c.audio ip).received ++ []) ++
        c.left.drop (bufferedAudioPoll (c.io lengthSize bodySize) c.audio ip).received.length =
          bytes
      rw [List.append_nil, List.append_assoc, List.prefix_iff_eq_append.mp htaken]
      exact h.whole

/-- A poll of which no read times out takes a byte, until the stream is read or refused. -/
theorem Conveys.progress (h : Conveys pending bytes c log) (ip : CString) (call : BufferedCall) :
    call.reads + (stream log).length ≤
        (stream (log ++ [((bufferedMachine ip).step c call).2])).length ∨
      c.left = [] ∨ (recordFraming.frames (stream log)).2 = .malformed := by
  rw [stream_append, List.length_append]
  cases call with
  | flush untilSequence =>
      left
      have hnone : (BufferedCall.flush untilSequence).reads = 0 := rfl
      omega
  | poll lengthSize bodySize =>
      rcases h.poll_eq ip lengthSize bodySize with ⟨hopen, hpart, hpoll⟩ | ⟨hmalformed, -⟩
      · by_cases hleft : c.left = []
        · exact Or.inr (Or.inl hleft)
        · left
          show BufferedCall.reads (.poll lengthSize bodySize) + (stream log).length ≤
            (stream log).length +
              ((bufferedAudioPoll (c.io lengthSize bodySize) c.audio ip).received ++ []).length
          rw [hpoll, List.append_nil]
          cases lengthSize with
          | timeout =>
              have hnone : (BufferedCall.poll .timeout bodySize).reads = 0 := rfl
              omega
          | upTo more =>
              cases bodySize with
              | timeout =>
                  have hnone : (BufferedCall.poll (.upTo more) .timeout).reads = 0 := rfl
                  omega
              | upTo further =>
                  have hone : (BufferedCall.poll (.upTo more) (.upTo further)).reads = 1 := rfl
                  have hlength := ReadSize.chunk_some hleft more
                  have hbody : 2 ≤ c.audio.data.length → ((ReadSize.upTo further).chunk
                      (c.left.drop (c.lengthTaken (.upTo more)).length)).data ≠ [] := by
                    intro hfull
                    have hzero : 2 - c.audio.data.length = 0 := by omega
                    rw [PeerConnection.lengthTaken, hzero, List.take_zero, List.length_nil,
                      List.drop_zero]
                    exact ReadSize.chunk_some hleft further
                  have htaken := receiveRecord_progress hopen hpart hlength hbody
                  have hpos := List.length_pos_iff.mpr htaken
                  rw [PeerConnection.io]
                  omega
      · exact Or.inr (Or.inr hmalformed)

/-- A run of polls takes a byte for each of which no read times out, until the stream is read or
refused. -/
theorem Conveys.run_progress (ip : CString) (calls : List BufferedCall) :
    ∀ (c : PeerConnection) (log : List BufferedEvent), Conveys pending bytes c log →
      let r := (bufferedMachine ip).run c calls
      (calls.map BufferedCall.reads).sum + (stream log).length ≤ (stream (log ++ r.2)).length ∨
        r.1.left = [] ∨ (recordFraming.frames (stream (log ++ r.2))).2 = .malformed := by
  induction calls with
  | nil =>
      intro c log _ r
      left
      rw [List.map_nil, List.sum_nil, Nat.zero_add]
      exact (congrArg (fun log => (stream log).length) (List.append_nil log)).ge
  | cons call calls ih =>
      intro c log h r
      have hlog : log ++ r.2 = log ++ [((bufferedMachine ip).step c call).2] ++
          ((bufferedMachine ip).run ((bufferedMachine ip).step c call).1 calls).2 := by
        rw [List.append_assoc]
        rfl
      rcases h.progress ip call with htaken | hleft | hmalformed
      · rcases ih _ _ (h.step ip call) with hrest | hleft | hmalformed
        · left
          rw [hlog, List.map_cons, List.sum_cons]
          omega
        · exact Or.inr (Or.inl hleft)
        · rw [hlog]
          exact Or.inr (Or.inr hmalformed)
      · right
        left
        refine (bufferedMachine ip).run_invariant (fun c => c.left = []) ?_ (call :: calls) c hleft
        intro c call hnone
        cases call with
        | flush untilSequence => exact hnone
        | poll lengthSize bodySize =>
            show c.left.drop _ = []
            rw [hnone, List.drop_nil]
      · right
        right
        rw [stream_append, recordFraming.frames_append_malformed hmalformed]
        exact hmalformed

end Conveys

/-- **The transport delivers the records of the peer's stream, less those held back by the seek
in force.** What is read is a beginning of the stream, and after as many polls without a
timeout as it has bytes it is read to the end or to a malformed length, where the connection is
dropped; the records of the timeline are then those of the stream. The packets given to the
callback are, in order, those of `delivered`, and a poll returns 1 once per record. -/
theorem bufferedAudio_delivers (b : BufferedAudio) (handle : ℕ) (ip : CString)
    (bytes : List UInt8) (calls : List BufferedCall) :
    let r := (bufferedMachine ip).run ⟨accepted b handle, bytes⟩ calls
    stream r.2 ++ r.1.left = bytes ∧
      (bytes.length ≤ (calls.map BufferedCall.reads).sum →
        r.1.left = [] ∨ (recordFraming.frames (stream r.2)).2 = .malformed) ∧
      (r.1.left = [] ∨ (recordFraming.frames (stream r.2)).2 = .malformed →
        timelineRecords (timeline r.2) = (recordFraming.frames bytes).1) ∧
      packets r.2 = (delivered (opening b ++ timeline r.2)).map wirePacket ∧
      timelineRecords (timeline r.2) = (recordFraming.frames (stream r.2)).1 ∧
      (∀ result ∈ results r.2, result = 0 ∨ result = 1) ∧
      (results r.2).count 1 = (recordFraming.frames (stream r.2)).1.length ∧
      (∀ rest, (recordFraming.frames (stream r.2)).2 = .waiting rest →
        r.1.audio.client.isOpen = true ∧ r.1.audio.data = rest) ∧
      ((recordFraming.frames (stream r.2)).2 = .malformed →
        r.1.audio.client.isOpen = false ∧ r.1.audio.data = []) := by
  intro r
  have hstart : Conveys (pendingAt b) bytes ⟨accepted b handle, bytes⟩ [] :=
    ⟨delivers_accepted b handle, rfl⟩
  have h : Conveys (pendingAt b) bytes r.1 ([] ++ r.2) :=
    (bufferedMachine ip).run_history_invariant (Conveys (pendingAt b) bytes)
      (fun c log call hc => hc.step ip call) calls ⟨accepted b handle, bytes⟩ [] hstart
  have hprogress := Conveys.run_progress ip calls _ _ hstart
  rw [List.nil_append] at h
  refine ⟨h.whole, fun henough => ?_, fun hend => ?_, ?_, h.delivers.records, h.delivers.results,
    h.delivers.ones, ?_, h.delivers.dropped⟩
  · rcases hprogress with htaken | hend
    · left
      have hall := congrArg List.length h.whole
      rw [List.length_append] at hall
      rw [List.nil_append] at htaken
      have hread : bytes.length ≤ (stream r.2).length := henough.trans (le_of_add_le_left htaken)
      exact List.length_eq_zero_iff.mp (by omega)
    · exact hend
  · rw [h.delivers.records]
    rcases hend with hleft | hmalformed
    · have hwhole := h.whole
      rw [hleft, List.append_nil] at hwhole
      rw [hwhole]
    · rw [← h.whole, recordFraming.frames_append_malformed hmalformed]
  · rw [h.delivers.packets, deliveredFrom_pendingAt]
  · intro rest hrest
    obtain ⟨hopen, hdata, -⟩ := h.delivers.waiting rest hrest
    exact ⟨hopen, hdata⟩

/-! ## A second seek takes the place of the first -/

/-- A record of 38 bytes with the given 24-bit sequence. -/
def silentRecord (sequence : ℕ) : List UInt8 :=
  beBytes 2 38 ++ [0x80] ++ beBytes 3 sequence ++ List.replicate 32 0

/-- A seek to 1000, a seek back to 10, and a poll that reads a record with sequence 500. -/
def seekBack : List BufferedCall := [.flush 1000, .flush 10, .poll (.upTo 1) (.upTo 35)]

/-- The record is passed on although the boundary of the first seek has not been
reached. -/
theorem seekBack_delivers :
    let r := (bufferedMachine []).run ⟨accepted bufferedAudioInit 0, silentRecord 500⟩ seekBack
    packets r.2 = [wirePacket (silentRecord 500)] ∧
      deliveredUnlessAny [] (timeline r.2) = [] := by
  decide

end PortableAirplay.Audio
