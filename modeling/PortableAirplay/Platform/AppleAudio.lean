import PortableAirplay.Config
import PortableAirplay.Library.Execution
import Mathlib.Algebra.BigOperators.Fin
import Mathlib.Algebra.Order.BigOperators.Group.Finset
import Mathlib.Data.List.Nodup

/-!
# The AudioQueue device

`audio_write`, `buffer_finished` and `audio_delay_frames` of `platform/apple/audio.c`: a ring of
buffers between the audio thread and the thread of the queue, which calls back when a buffer has
been played. The mutex makes a step of each pass over `busy`; between them the other thread may
take any number of steps.

A buffer is free, or held by one of the writer, the queue and the callback (`RingInvariant`). In
`apple_plays` every order of the steps plays the blocks in theirs, none of them changed while
it waits; `apple_delay` says what the delay counts.
-/

set_option autoImplicit false

namespace PortableAirplay.Platform.Apple

open PortableAirplay.Library

/-- Where `audio_write` is: not called, at an attempt, with a buffer it has marked, with a buffer
it has filled, or with one that the queue refused. -/
inductive Writer where
  | idle
  | trying (samples : List Int16) (attempt : ℕ)
  | claimed (index : Buffer) (samples : List Int16)
  | copied (index : Buffer) (samples : List Int16)
  | refused (index : Buffer) (samples : List Int16)

/-- `audio_device` with the threads: the buffers that the queue has been given, those that are
played and not yet called back, and what was played. -/
structure Device where
  channels : ℕ
  busy : Buffer → Bool
  frames : Buffer → ℕ
  data : Buffer → List Int16
  next : Buffer
  started : Bool
  writer : Writer
  queue : List Buffer
  finished : List Buffer
  played : List Int16

/-- The device after `audio_open`. -/
def Device.opened (channels : ℕ) : Device :=
  ⟨channels, fun _ => false, fun _ => 0, fun _ => [], 0, false, .idle, [], [], []⟩

/-- A step: a call of `audio_write`, an attempt of it, the copy, `AudioQueueEnqueueBuffer` with
`AudioQueueStart`, giving up a buffer that was refused, the queue playing a buffer, and
`buffer_finished`. -/
inductive Step where
  | write (samples : List Int16)
  | attempt
  | copy
  | enqueue (accepts starts : Bool)
  | release
  | play
  | callback (buffer : Buffer)

/-- What a step shows: nothing, what `audio_write` returns, or that with the block it has given
to the queue. -/
inductive Event where
  | quiet
  | returns (result : ℤ)
  | enqueued (samples : List Int16) (result : ℤ)

/-- A step of the device; a step that is not due does nothing. -/
def step (s : Device) : Step → Device × Event
  | .write samples =>
      match s.writer with
      | .idle =>
          if samples.length % s.channels ≠ 0 ∨ samples.length > outputBufferSamples then
            (s, .returns (-1))
          else if samples = [] then (s, .returns 0)
          else ({ s with writer := .trying samples 0 }, .quiet)
      | _ => (s, .quiet)
  | .attempt =>
      match s.writer with
      | .trying samples attempt =>
          if s.busy s.next = false then
            ({ s with
                busy := Function.update s.busy s.next true
                frames := Function.update s.frames s.next (samples.length / s.channels)
                writer := .claimed s.next samples }, .quiet)
          else if attempt ≥ 60 then ({ s with writer := .idle }, .returns (-1))
          else ({ s with writer := .trying samples (attempt + 1) }, .quiet)
      | _ => (s, .quiet)
  | .copy =>
      match s.writer with
      | .claimed index samples =>
          ({ s with
              data := Function.update s.data index samples
              writer := .copied index samples }, .quiet)
      | _ => (s, .quiet)
  | .enqueue accepts starts =>
      match s.writer with
      | .copied index samples =>
          if accepts = false then ({ s with writer := .refused index samples }, .quiet)
          else
            let s := { s with queue := s.queue ++ [index], writer := .idle }
            if (s.started || starts) = false then (s, .enqueued samples (-1))
            else ({ s with started := true, next := index + 1 }, .enqueued samples samples.length)
      | _ => (s, .quiet)
  | .release =>
      match s.writer with
      | .refused index _ =>
          ({ s with busy := Function.update s.busy index false, writer := .idle },
            .returns (-1))
      | _ => (s, .quiet)
  | .play =>
      match s.queue with
      | [] => (s, .quiet)
      | index :: queue =>
          ({ s with
              queue := queue
              finished := s.finished ++ [index]
              played := s.played ++ s.data index }, .quiet)
  | .callback index =>
      if index ∈ s.finished then
        ({ s with
            busy := Function.update s.busy index false
            finished := s.finished.erase index }, .quiet)
      else (s, .quiet)

/-- The device as a machine. -/
def machine : Machine Device Step Event where
  step := step

/-- `audio_delay_frames`. -/
def audioDelayFrames (s : Device) : ℕ := min (∑ i, if s.busy i then s.frames i else 0) intMax

/-- The samples given to the queue. -/
def Event.samples : Event → List Int16
  | .enqueued samples _ => samples
  | _ => []

/-! ## Who holds a buffer -/

/-- The buffer that `audio_write` holds. -/
def Writer.holds : Writer → List Buffer
  | .claimed index _ => [index]
  | .copied index _ => [index]
  | .refused index _ => [index]
  | _ => []

/-- The block that `audio_write` was given. -/
def Writer.block : Writer → List Int16
  | .idle => []
  | .trying samples _ => samples
  | .claimed _ samples => samples
  | .copied _ samples => samples
  | .refused _ samples => samples

/-- The buffers that are held. -/
def Device.held (s : Device) : List Buffer := s.queue ++ s.finished ++ s.writer.holds

/-- Each buffer that is marked is held once, those that wait have the blocks that were enqueued
and not yet played, and their sizes are known. -/
structure RingInvariant (s : Device) (enqueued : List Int16) : Prop where
  nodup : s.held.Nodup
  busy : ∀ i, s.busy i = true ↔ i ∈ s.held
  order : s.played ++ s.queue.flatMap s.data = enqueued
  copied : ∀ i samples, s.writer = .copied i samples → s.data i = samples
  sizes : ∀ i ∈ s.queue ++ s.finished, s.frames i * s.channels = (s.data i).length
  writing : ∀ i ∈ s.writer.holds, s.frames i * s.channels = s.writer.block.length
  whole : s.channels ∣ s.writer.block.length
  fits : (∀ i, s.frames i ≤ outputBufferSamples) ∧ s.writer.block.length ≤ outputBufferSamples

theorem opened_invariant (channels : ℕ) : RingInvariant (Device.opened channels) [] where
  nodup := List.nodup_nil
  busy i := ⟨fun h => by contradiction, fun h => by contradiction⟩
  order := rfl
  copied i samples h := by contradiction
  sizes i h := by contradiction
  writing i h := by contradiction
  whole := dvd_zero _
  fits := ⟨fun _ => Nat.zero_le _, Nat.zero_le _⟩

section Steps

variable {s : Device} {enqueued : List Int16}

/-- A step of the writer that moves no buffer. -/
theorem RingInvariant.moves (h : RingInvariant s enqueued) {writer : Writer}
    (hholds : writer.holds = s.writer.holds)
    (hcopied : ∀ i samples, writer = .copied i samples → s.data i = samples)
    (hblock : writer.holds ≠ [] → writer.block = s.writer.block)
    (hwhole : s.channels ∣ writer.block.length)
    (hfits : writer.block.length ≤ outputBufferSamples) :
    RingInvariant { s with writer := writer } enqueued where
  nodup := by
    rw [Device.held, hholds]
    exact h.nodup
  busy i := by
    rw [Device.held, hholds]
    exact h.busy i
  order := h.order
  copied := hcopied
  sizes := h.sizes
  writing i hi := by
    rw [hblock (List.ne_nil_of_mem hi)]
    rw [hholds] at hi
    exact h.writing i hi
  whole := hwhole
  fits := ⟨h.fits.1, hfits⟩

/-- A step of the writer while it holds no buffer. -/
theorem RingInvariant.waits (h : RingInvariant s enqueued) {writer : Writer}
    (hbefore : s.writer.holds = []) (hafter : writer.holds = [])
    (hwhole : s.channels ∣ writer.block.length)
    (hfits : writer.block.length ≤ outputBufferSamples) :
    RingInvariant { s with writer := writer } enqueued := by
  apply h.moves _ _ _ hwhole hfits
  · rw [hafter, hbefore]
  · intro i samples hcopied
    rw [hcopied] at hafter
    contradiction
  · exact fun hheld => absurd hafter hheld

theorem RingInvariant.write (h : RingInvariant s enqueued) (samples : List Int16) :
    RingInvariant (step s (.write samples)).1 enqueued := by
  rw [step]
  cases hwriter : s.writer with
  | idle =>
      dsimp only
      split
      · exact h
      · rename_i hchecked
        split
        · exact h
        · have hholds : s.writer.holds = [] := by rw [hwriter]; rfl
          have hframes : samples.length % s.channels = 0 :=
            Decidable.not_not.mp fun hpart => hchecked (Or.inl hpart)
          have hfits : samples.length ≤ outputBufferSamples :=
            Nat.not_lt.mp fun hlong => hchecked (Or.inr hlong)
          exact h.waits hholds rfl (Nat.dvd_of_mod_eq_zero hframes) hfits
  | trying _ _ => exact h
  | claimed _ _ => exact h
  | copied _ _ => exact h
  | refused _ _ => exact h

/-- **A buffer is marked**: it was free, so it is held by nobody else. -/
theorem RingInvariant.claim (h : RingInvariant s enqueued) {samples : List Int16} {attempt : ℕ}
    (hwriter : s.writer = .trying samples attempt) (hfree : s.busy s.next = false) :
    RingInvariant { s with
      busy := Function.update s.busy s.next true
      frames := Function.update s.frames s.next (samples.length / s.channels)
      writer := .claimed s.next samples } enqueued := by
  have hwhole := h.whole
  have hfits := h.fits
  have hnodup := h.nodup
  have hbusy := h.busy
  have hheld : s.held = s.queue ++ s.finished := by
    rw [Device.held, hwriter]
    exact List.append_nil _
  rw [hheld] at hnodup
  have hothers : s.next ∉ s.queue ++ s.finished := by
    intro hmem
    rw [← hheld, ← hbusy, hfree] at hmem
    contradiction
  rw [hwriter] at hfits hwhole
  refine ⟨?_, fun i => ?_, h.order, fun i samples hcopied => by contradiction, fun i hi => ?_,
    fun i hi => ?_, hwhole, fun i => ?_, hfits.2⟩
  · dsimp only [Device.held, Writer.holds]
    rw [List.nodup_append']
    refine ⟨hnodup, List.nodup_singleton _, ?_⟩
    rw [List.disjoint_singleton]
    exact hothers
  · dsimp only [Device.held, Writer.holds]
    rw [List.mem_append, List.mem_singleton]
    by_cases hi : i = s.next
    · subst hi
      exact ⟨fun _ => Or.inr rfl, fun _ => Function.update_self ..⟩
    · rw [Function.update_of_ne hi, hbusy i, hheld]
      exact ⟨Or.inl, fun hmem => hmem.resolve_right hi⟩
  · have hne : i ≠ s.next := fun heq => hothers (heq ▸ hi)
    dsimp only
    rw [Function.update_of_ne hne]
    exact h.sizes i hi
  · dsimp only [Writer.holds] at hi
    rw [List.mem_singleton] at hi
    subst hi
    dsimp only
    rw [Function.update_self]
    exact Nat.div_mul_cancel hwhole
  · dsimp only
    by_cases hi : i = s.next
    · subst hi
      rw [Function.update_self]
      exact (Nat.div_le_self _ _).trans hfits.2
    · rw [Function.update_of_ne hi]
      exact hfits.1 i

theorem RingInvariant.attempt (h : RingInvariant s enqueued) :
    RingInvariant (step s .attempt).1 enqueued := by
  rw [step]
  cases hwriter : s.writer with
  | trying samples attempt =>
      dsimp only
      have hholds : s.writer.holds = [] := by rw [hwriter]; rfl
      have hwhole := h.whole
      have hfits := h.fits.2
      rw [hwriter] at hfits hwhole
      split
      · rename_i hfree
        exact h.claim hwriter hfree
      · split
        · exact h.waits hholds rfl (dvd_zero _) (Nat.zero_le _)
        · exact h.waits hholds rfl hwhole hfits
  | idle => exact h
  | claimed _ _ => exact h
  | copied _ _ => exact h
  | refused _ _ => exact h

/-- The buffer of the writer is held by nobody else. -/
theorem RingInvariant.alone (h : RingInvariant s enqueued) {index : Buffer}
    (hholds : s.writer.holds = [index]) :
    index ∉ s.queue ++ s.finished ∧ (s.queue ++ s.finished).Nodup := by
  have hnodup := h.nodup
  rw [Device.held, hholds, List.nodup_append', List.disjoint_singleton] at hnodup
  exact ⟨hnodup.2.2, hnodup.1⟩

/-- **A block is copied** into a buffer that does not wait. -/
theorem RingInvariant.copy (h : RingInvariant s enqueued) :
    RingInvariant (step s .copy).1 enqueued := by
  rw [step]
  cases hwriter : s.writer with
  | claimed index samples =>
      have hholds : s.writer.holds = [index] := by rw [hwriter]; rfl
      have hothers := (h.alone hholds).1
      have hsame : ∀ i ∈ s.queue ++ s.finished,
          Function.update s.data index samples i = s.data i := by
        intro i hi
        have hne : i ≠ index := fun heq => hothers (heq ▸ hi)
        exact Function.update_of_ne hne ..
      have hnodup := h.nodup
      have hbusy := h.busy
      have hwriting := h.writing
      have hwhole := h.whole
      have hfits := h.fits
      rw [Device.held, hholds] at hnodup
      rw [hwriter] at hwriting hwhole hfits
      refine ⟨hnodup, fun i => ?_, ?_, fun i written hcopied => ?_, fun i hi => ?_, hwriting,
        hwhole, hfits⟩
      · rw [hbusy i, Device.held, hholds]
        rfl
      · have hflat : s.queue.flatMap (Function.update s.data index samples) =
            s.queue.flatMap s.data :=
          List.flatMap_congr fun i hi => hsame i (List.mem_append_left _ hi)
        dsimp only
        rw [hflat]
        exact h.order
      · obtain ⟨rfl, rfl⟩ := Writer.copied.inj hcopied
        exact Function.update_self ..
      · dsimp only
        rw [hsame i hi]
        exact h.sizes i hi
  | idle => exact h
  | trying _ _ => exact h
  | copied _ _ => exact h
  | refused _ _ => exact h

/-- **A block is enqueued** behind those that wait. -/
theorem RingInvariant.queued (h : RingInvariant s enqueued) {index : Buffer}
    {samples : List Int16} (hwriter : s.writer = .copied index samples) :
    RingInvariant { s with queue := s.queue ++ [index], writer := .idle }
      (enqueued ++ samples) := by
  have hholds : s.writer.holds = [index] := by rw [hwriter]; rfl
  have hdata := h.copied index samples hwriter
  have hheld : Device.held { s with queue := s.queue ++ [index], writer := .idle } =
      s.queue ++ [index] ++ s.finished := List.append_nil _
  have hperm : (s.queue ++ [index] ++ s.finished).Perm s.held := by
    rw [Device.held, hholds, List.append_assoc, List.append_assoc]
    exact List.Perm.append_left _ List.perm_append_comm
  refine ⟨?_, fun i => ?_, ?_, fun i written hcopied => by contradiction, fun i hi => ?_,
    fun i hi => by contradiction, dvd_zero _, ⟨h.fits.1, Nat.zero_le _⟩⟩
  · rw [hheld]
    exact hperm.nodup_iff.mpr h.nodup
  · rw [hheld, hperm.mem_iff]
    exact h.busy i
  · dsimp only
    rw [List.flatMap_append, List.flatMap_singleton, ← List.append_assoc, h.order, hdata]
  · dsimp only at hi ⊢
    rw [hperm.mem_iff, Device.held, hholds, List.mem_append, List.mem_singleton] at hi
    rcases hi with hwaits | hthis
    · exact h.sizes i hwaits
    · subst hthis
      have hsize := h.writing i (by rw [hholds]; exact List.mem_singleton_self i)
      rw [hwriter] at hsize
      rw [hdata]
      exact hsize

theorem RingInvariant.quiet (h : RingInvariant s enqueued) :
    RingInvariant s (enqueued ++ Event.samples .quiet) := by
  have hnone : enqueued ++ Event.samples .quiet = enqueued := List.append_nil _
  rw [hnone]
  exact h

theorem RingInvariant.enqueue (h : RingInvariant s enqueued) (accepts starts : Bool) :
    RingInvariant (step s (.enqueue accepts starts)).1
      (enqueued ++ (step s (.enqueue accepts starts)).2.samples) := by
  rw [step]
  cases hwriter : s.writer with
  | copied index samples =>
      dsimp only
      split
      · apply RingInvariant.quiet
        apply h.moves
        · rw [hwriter]
          rfl
        · exact fun i written hcopied => by contradiction
        · intro _
          rw [hwriter]
          rfl
        · have hwhole := h.whole
          rw [hwriter] at hwhole
          exact hwhole
        · have hfits := h.fits.2
          rw [hwriter] at hfits
          exact hfits
      · have hqueued := h.queued hwriter
        split
        · exact hqueued
        · exact ⟨hqueued.nodup, hqueued.busy, hqueued.order, hqueued.copied, hqueued.sizes,
            hqueued.writing, hqueued.whole, hqueued.fits⟩
  | idle => exact h.quiet
  | trying _ _ => exact h.quiet
  | claimed _ _ => exact h.quiet
  | refused _ _ => exact h.quiet

/-- A buffer that the queue refused is free again. -/
theorem RingInvariant.release (h : RingInvariant s enqueued) :
    RingInvariant (step s .release).1 enqueued := by
  rw [step]
  cases hwriter : s.writer with
  | refused index samples =>
      have hholds : s.writer.holds = [index] := by rw [hwriter]; rfl
      obtain ⟨hothers, hnodup⟩ := h.alone hholds
      have hheld : ∀ busy, Device.held { s with busy := busy, writer := .idle } =
          s.queue ++ s.finished := fun _ => List.append_nil _
      dsimp only
      refine ⟨?_, fun i => ?_, h.order, fun i written hcopied => by contradiction, h.sizes,
        fun i hi => by contradiction, dvd_zero _, ⟨h.fits.1, Nat.zero_le _⟩⟩
      · rw [hheld]
        exact hnodup
      · rw [hheld]
        dsimp only
        by_cases hi : i = index
        · subst hi
          rw [Function.update_self]
          exact ⟨fun hfalse => by contradiction, fun hmem => absurd hmem hothers⟩
        · rw [Function.update_of_ne hi, h.busy i, Device.held, hholds, List.mem_append,
            List.mem_singleton]
          exact ⟨fun hmem => hmem.resolve_right hi, Or.inl⟩
  | idle => exact h
  | trying _ _ => exact h
  | claimed _ _ => exact h
  | copied _ _ => exact h

/-- **The queue plays** the first buffer that waits. -/
theorem RingInvariant.play (h : RingInvariant s enqueued) :
    RingInvariant (step s .play).1 enqueued := by
  rw [step]
  cases hqueue : s.queue with
  | nil => exact h
  | cons index queue =>
      have hperm : (queue ++ (s.finished ++ [index]) ++ s.writer.holds).Perm s.held := by
        rw [Device.held, hqueue, ← List.append_assoc]
        apply List.Perm.append_right
        rw [List.cons_append]
        exact List.perm_append_singleton _ _
      refine ⟨?_, fun i => ?_, ?_, h.copied, fun i hi => ?_, h.writing, h.whole, h.fits⟩
      · exact hperm.nodup_iff.mpr h.nodup
      · rw [h.busy i]
        exact hperm.mem_iff.symm
      · have horder := h.order
        rw [hqueue, List.flatMap_cons, ← List.append_assoc] at horder
        exact horder
      · apply h.sizes
        rw [hqueue]
        dsimp only at hi
        rw [← List.append_assoc, List.mem_append, List.mem_singleton] at hi
        rw [List.cons_append, List.mem_cons]
        exact hi.symm

/-- **The callback** frees a buffer that is played. -/
theorem RingInvariant.callback (h : RingInvariant s enqueued) (index : Buffer) :
    RingInvariant (step s (.callback index)).1 enqueued := by
  rw [step]
  split
  · rename_i hfinished
    have hsub : (s.queue ++ s.finished.erase index ++ s.writer.holds).Sublist s.held :=
      ((List.erase_sublist).append_left _).append_right _
    have hparts := h.nodup
    rw [Device.held, List.nodup_append', List.nodup_append'] at hparts
    obtain ⟨⟨hqueue, hplayed, hapart⟩, hholds, hwriter⟩ := hparts
    refine ⟨?_, fun i => ?_, h.order, h.copied, fun i hi => ?_, h.writing, h.whole, h.fits⟩
    · exact hsub.nodup h.nodup
    · dsimp only [Device.held]
      rw [List.mem_append, List.mem_append]
      by_cases hi : i = index
      · subst hi
        rw [Function.update_self]
        refine ⟨fun hfalse => by contradiction, fun hmem => ?_⟩
        rcases hmem with (hwaits | hstays) | hheld
        · exact absurd hfinished (hapart hwaits)
        · exact absurd rfl ((List.Nodup.mem_erase_iff hplayed).mp hstays).1
        · exact absurd hheld (hwriter (List.mem_append_right _ hfinished))
      · rw [Function.update_of_ne hi, h.busy i, Device.held, List.mem_append, List.mem_append,
          List.mem_erase_of_ne hi]
    · apply h.sizes
      rcases List.mem_append.mp hi with hwaits | hstays
      · exact List.mem_append_left _ hwaits
      · exact List.mem_append_right _ (List.mem_of_mem_erase hstays)
  · exact h

/-- Only a step that enqueues shows samples. -/
theorem step_samples (s : Device) {i : Step}
    (hother : ∀ accepts starts, i ≠ .enqueue accepts starts) : (step s i).2.samples = [] := by
  unfold step
  cases i with
  | enqueue accepts starts => exact absurd rfl (hother accepts starts)
  | write samples =>
      dsimp only
      split
      · split
        · rfl
        · split <;> rfl
      · rfl
  | attempt =>
      dsimp only
      split
      · split
        · rfl
        · split <;> rfl
      · rfl
  | copy =>
      dsimp only
      split <;> rfl
  | release =>
      dsimp only
      split <;> rfl
  | play =>
      dsimp only
      split <;> rfl
  | callback index =>
      dsimp only
      split <;> rfl

/-- **Every step** keeps the ring. -/
theorem RingInvariant.step (h : RingInvariant s enqueued) (i : Step) :
    RingInvariant (Apple.step s i).1 (enqueued ++ (Apple.step s i).2.samples) := by
  cases i with
  | enqueue accepts starts => exact h.enqueue accepts starts
  | write samples =>
      rw [step_samples s (fun _ _ => Step.noConfusion), List.append_nil]
      exact h.write samples
  | attempt =>
      rw [step_samples s (fun _ _ => Step.noConfusion), List.append_nil]
      exact h.attempt
  | copy =>
      rw [step_samples s (fun _ _ => Step.noConfusion), List.append_nil]
      exact h.copy
  | release =>
      rw [step_samples s (fun _ _ => Step.noConfusion), List.append_nil]
      exact h.release
  | play =>
      rw [step_samples s (fun _ _ => Step.noConfusion), List.append_nil]
      exact h.play
  | callback index =>
      rw [step_samples s (fun _ _ => Step.noConfusion), List.append_nil]
      exact h.callback index

end Steps

/-! ## Runs -/

/-- No step changes the channels. -/
theorem step_channels (s : Device) (i : Step) : (step s i).1.channels = s.channels := by
  unfold step
  cases i with
  | write samples =>
      dsimp only
      split
      · split
        · rfl
        · split <;> rfl
      · rfl
  | attempt =>
      dsimp only
      split
      · split
        · rfl
        · split <;> rfl
      · rfl
  | copy =>
      dsimp only
      split <;> rfl
  | enqueue accepts starts =>
      dsimp only
      split
      · split
        · rfl
        · split <;> rfl
      · rfl
  | release =>
      dsimp only
      split <;> rfl
  | play =>
      dsimp only
      split <;> rfl
  | callback index =>
      dsimp only
      split <;> rfl

/-- The device in every run from `audio_open`. -/
theorem run_ring (channels : ℕ) (steps : List Step) :
    RingInvariant (machine.run (Device.opened channels) steps).1
        ((machine.run (Device.opened channels) steps).2.flatMap Event.samples) ∧
      (machine.run (Device.opened channels) steps).1.channels = channels := by
  apply machine.run_history_invariant (fun s log =>
    RingInvariant s (log.flatMap Event.samples) ∧ s.channels = channels) _ steps _ []
  · exact ⟨opened_invariant channels, rfl⟩
  · intro s log i h
    refine ⟨?_, (step_channels s i).trans h.2⟩
    rw [List.flatMap_append, List.flatMap_singleton]
    exact h.1.step i

/-- **The AudioQueue device**: in every order of the steps, what is played is the blocks that
were enqueued in their order, those that wait follow unchanged, and a buffer is marked exactly
when the writer, the queue or the callback holds it. -/
theorem apple_plays (channels : ℕ) (steps : List Step) :
    let run := machine.run (Device.opened channels) steps
    run.1.played ++ run.1.queue.flatMap run.1.data = run.2.flatMap Event.samples ∧
      run.1.held.Nodup ∧ ∀ i, run.1.busy i = true ↔ i ∈ run.1.held := by
  intro run
  have hring := (run_ring channels steps).1
  exact ⟨hring.order, hring.nodup, hring.busy⟩

/-- The frames of the marked buffers are those of the buffers that are held. -/
theorem RingInvariant.marked {s : Device} {enqueued : List Int16} (h : RingInvariant s enqueued) :
    (∑ i, if s.busy i then s.frames i else 0) = (s.held.map s.frames).sum := by
  have hheld : (Finset.univ.filter fun i => s.busy i = true) = s.held.toFinset := by
    ext i
    rw [Finset.mem_filter, List.mem_toFinset, h.busy]
    exact ⟨And.right, fun hi => ⟨Finset.mem_univ i, hi⟩⟩
  rw [← Finset.sum_filter, hheld, List.sum_toFinset _ h.nodup]

/-- The marked buffers do not have more frames than an `int` holds. -/
theorem RingInvariant.unclamped {s : Device} {enqueued : List Int16}
    (h : RingInvariant s enqueued) : audioDelayFrames s = (s.held.map s.frames).sum := by
  have hsum : (∑ i, if s.busy i then s.frames i else 0) ≤
      outputBufferCount * outputBufferSamples := by
    calc (∑ i, if s.busy i then s.frames i else 0)
        ≤ ∑ _i : Buffer, outputBufferSamples := by
          apply Finset.sum_le_sum
          intro i _
          split
          · exact h.fits.1 i
          · exact Nat.zero_le _
      _ = outputBufferCount * outputBufferSamples := by
          rw [Finset.sum_const, Finset.card_univ, Fintype.card_fin, smul_eq_mul]
  rw [audioDelayFrames, Nat.min_eq_left (hsum.trans (by decide)), h.marked]

/-- The frames of buffers whose sizes are known. -/
theorem frames_sum {s : Device} (data : Buffer → List Int16) (indices : List Buffer)
    (hsizes : ∀ i ∈ indices, s.frames i * s.channels = (data i).length) :
    (indices.map s.frames).sum * s.channels = (indices.flatMap data).length := by
  induction indices with
  | nil => exact Nat.zero_mul _
  | cons index indices ih =>
      obtain ⟨hindex, hrest⟩ := List.forall_mem_cons.mp hsizes
      rw [List.map_cons, List.sum_cons, Nat.add_mul, hindex, ih hrest, List.flatMap_cons,
        List.length_append]

/-- The delay is the blocks of the buffers that are held. -/
theorem RingInvariant.delay {s : Device} {enqueued : List Int16} (h : RingInvariant s enqueued) :
    audioDelayFrames s * s.channels = ((s.queue ++ s.finished).flatMap s.data).length +
      (s.writer.holds.flatMap fun _ => s.writer.block).length := by
  rw [h.unclamped, Device.held, List.map_append, List.sum_append, Nat.add_mul,
    frames_sum _ _ h.sizes, frames_sum _ _ h.writing]

/-- What is enqueued has been played or is in the delay. -/
theorem RingInvariant.covers {s : Device} {enqueued : List Int16} (h : RingInvariant s enqueued) :
    enqueued.length ≤ s.played.length + audioDelayFrames s * s.channels := by
  have horder := congrArg List.length h.order
  rw [List.length_append] at horder
  rw [h.delay, List.flatMap_append, List.length_append]
  omega

/-- **The delay of the device**: what `audio_delay_frames` returns is the blocks that wait or
have not been called back, with the one that `audio_write` has a buffer for. The samples that
were enqueued and not played are never more. -/
theorem apple_delay (channels : ℕ) (steps : List Step) :
    let run := machine.run (Device.opened channels) steps
    audioDelayFrames run.1 * channels =
        ((run.1.queue ++ run.1.finished).flatMap run.1.data).length +
          (run.1.writer.holds.flatMap fun _ => run.1.writer.block).length ∧
      (run.2.flatMap Event.samples).length ≤
        run.1.played.length + audioDelayFrames run.1 * channels := by
  intro run
  obtain ⟨hring, hchannels⟩ := run_ring channels steps
  have hdelay := hring.delay
  have hcovers := hring.covers
  rw [hchannels] at hdelay hcovers
  exact ⟨hdelay, hcovers⟩

end PortableAirplay.Platform.Apple
