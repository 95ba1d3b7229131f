import PortableAirplay.Protocol.RequestEffect
import PortableAirplay.Protocol.SentAnswers

/-!
# Framing does not depend on fragmentation

A plaintext connection is a byte stream that arrives in pieces. `observe` reads from
the log what a connection gave and what came of it: its bytes, the requests that were
handled, and whether it was rejected. `Framed` is the invariant over the rounds of
the poll loop: what was handled are the frames of the bytes received, and the receive
buffer holds what is left over. So two runs that deliver the same stream handle the
same requests and come to the same verdict, however it was split
(`framing_independent_of_fragmentation`).
-/

set_option autoImplicit false

namespace PortableAirplay.Protocol

open PortableAirplay.Airplay
open PortableAirplay.Library
open PortableAirplay.Platform
open PortableAirplay.Util

/-! ## What a connection shows -/

/-- A connection as the log shows it, up to its end. -/
structure Observed where
  stream : List UInt8
  requests : List RtspRequest
  paired : Bool
  rejected : Bool
  closed : Bool

/-- A connection that nothing is known of yet. -/
def Observed.start : Observed := ⟨[], [], false, false, false⟩

/-- One more event of the connection. -/
def observeEvent (o : Observed) : RtspEvent → Observed
  | .accepted _ => o
  | .received _ data => { o with stream := o.stream ++ data }
  | .opened _ _ _ => o
  | .dispatched _ request _ _ _ _ => { o with requests := o.requests ++ [request] }
  | .paired _ _ => { o with paired := true }
  | .rejected _ => { o with rejected := true }
  | .closed _ _ _ => { o with closed := true }

/-- Events of other slots, and those after the end of the connection, are not its
own. -/
def observeStep (i : Slot) (o : Observed) (e : RtspEvent) : Observed :=
  if e.slot = i ∧ o.closed = false then observeEvent o e else o

/-- The connection that is in slot `i` at the start of a log. -/
def observe (i : Slot) (log : List RtspEvent) : Observed :=
  log.foldl (observeStep i) Observed.start

section Observe

variable {i : Slot} {o : Observed} {log : List RtspEvent}

theorem observe_append (i : Slot) (log more : List RtspEvent) :
    observe i (log ++ more) = more.foldl (observeStep i) (observe i log) := by
  rw [observe, List.foldl_append]
  rfl

theorem observeStep_received (hopen : o.closed = false) (data : List UInt8) :
    observeStep i o (.received i data) = { o with stream := o.stream ++ data } :=
  if_pos ⟨rfl, hopen⟩

theorem observeStep_dispatched (hopen : o.closed = false) (request : RtspRequest)
    (raw : List UInt8) (encrypted : Bool) (first last : StreamState) :
    observeStep i o (.dispatched i request raw encrypted first last) =
      { o with requests := o.requests ++ [request] } := if_pos ⟨rfl, hopen⟩

theorem observeStep_pairing (hopen : o.closed = false) (key : List UInt8) :
    observeStep i o (.paired i key) = { o with paired := true } := if_pos ⟨rfl, hopen⟩

theorem observeStep_rejected (hopen : o.closed = false) :
    observeStep i o (.rejected i) = { o with rejected := true } := if_pos ⟨rfl, hopen⟩

theorem observeStep_closed (hopen : o.closed = false) (first last : StreamState) :
    observeStep i o (.closed i first last) = { o with closed := true } := if_pos ⟨rfl, hopen⟩

theorem observe_others (hlog : ∀ e ∈ log, e.slot ≠ i) : log.foldl (observeStep i) o = o := by
  induction log with
  | nil => rfl
  | cons e rest ih =>
      have hother : observeStep i o e = o :=
        if_neg fun h => hlog e (List.mem_cons_self ..) h.1
      rw [List.foldl_cons, hother]
      exact ih fun e' he' => hlog e' (List.mem_cons_of_mem _ he')

/-- An accepted connection changes nothing for the ones that are there. -/
theorem observe_accepted (j : Slot) : [RtspEvent.accepted j].foldl (observeStep i) o = o := by
  rw [List.foldl_cons, List.foldl_nil, observeStep]
  split
  · rfl
  · rfl

theorem observe_closed (h : o.closed = true) : log.foldl (observeStep i) o = o := by
  induction log with
  | nil => rfl
  | cons e rest ih =>
      have hover : observeStep i o e = o :=
        if_neg fun hopen => Bool.false_ne_true (hopen.2.symm.trans h)
      rw [List.foldl_cons, hover]
      exact ih

theorem observeStep_paired {e : RtspEvent} (h : o.paired = true) :
    (observeStep i o e).paired = true := by
  rw [observeStep]
  split
  · cases e with
    | accepted j => exact h
    | received j data => exact h
    | opened j key data => exact h
    | dispatched j request raw encrypted first last => exact h
    | paired j key => rfl
    | rejected j => exact h
    | closed j first last => exact h
  · exact h

/-- A pairing that was completed stays in the record. -/
theorem observe_paired (h : o.paired = true) : (log.foldl (observeStep i) o).paired = true := by
  induction log generalizing o with
  | nil => exact h
  | cons e rest ih => exact ih (observeStep_paired h)

theorem observe_not_paired (h : (log.foldl (observeStep i) o).paired = false) :
    o.paired = false := by
  by_contra hpaired
  rw [Bool.not_eq_false] at hpaired
  rw [observe_paired hpaired] at h
  contradiction

end Observe

/-! ## The invariant -/

/-- An open plaintext connection. -/
structure Live (i : Slot) (s : RtspServer) : Prop where
  opened : (s.clients i).socket.isOpen = true
  plain : (s.clients i).encrypted = false
  room : (s.rx i).length ≤ rtspRxBufferSize

/-- A connection against the ending of its stream: it waits with the bytes that are
left over, or it was rejected and closed. -/
structure Settled (i : Slot) (s : RtspServer) (o : Observed) (ending : Ending UInt8) : Prop where
  waiting : ∀ rest, ending = .waiting rest →
    Live i s ∧ s.rx i = rest ∧ o.rejected = false ∧ o.closed = false
  malformed : ending = .malformed → o.rejected = true ∧ o.closed = true

/-- The requests handled are the frames of the stream. -/
structure Framed (i : Slot) (s : RtspServer) (o : Observed) : Prop where
  requests : (requestFraming.frames o.stream).1 = o.requests
  settled : Settled i s o (requestFraming.frames o.stream).2

/-! ## One request -/

section Requests

variable {i : Slot} {s : RtspServer} {o : Observed} (prim : Primitives)

theorem Live.parse (h : Live i s) : requestFraming.parse (s.rx i) = parseRequest (s.rx i) := by
  show parseRequest ((s.rx i).take rtspRxBufferSize) = parseRequest (s.rx i)
  rw [List.take_of_length_le h.room]

/-- A request that does not complete pairing: the connection goes on in the clear
with the rest of its buffer. -/
theorem requestTurn_plain (h : Live i s) {io : RequestIo} (hsends : io.Sends)
    {request : RtspRequest} {n : ℕ} (hparse : parseRequest (s.rx i) = .accept request n)
    (hopen : o.closed = false)
    (hplain : ((requestTurn prim io s i).log.foldl (observeStep i) o).paired = false) :
    Live i (requestTurn prim io s i).server ∧
      (requestTurn prim io s i).server.rx i = (s.rx i).drop n ∧
      (requestTurn prim io s i).more = true ∧
      (requestTurn prim io s i).log.foldl (observeStep i) o =
        { o with requests := o.requests ++ [request] } := by
  have hok : (handleRequest prim io s i request).ok = true :=
    handleRequest_ok prim h.plain
      ⟨h.opened, fun hencrypted => absurd (h.plain.symm.trans hencrypted) (by decide), hsends⟩
      (parseRequest_lined hparse)
  have heffect := handleRequest_effect prim io s i request
  have hstep : ∀ raw first last,
      observeStep i o (.dispatched i request raw false first last) =
        { o with requests := o.requests ++ [request] } :=
    fun raw first last => observeStep_dispatched hopen request raw false first last
  rw [requestTurn, hparse] at hplain ⊢
  dsimp only at hplain ⊢
  generalize handleRequest prim io s i request = r at hok heffect hplain ⊢
  simp only [hok, Bool.true_eq_false, if_false, setRx_clients, setRx_same, heffect.rx,
    dispatchLog, h.plain, Bool.not_false, Bool.true_and] at hplain ⊢
  cases hafter : (r.server.clients i).encrypted with
  | false =>
      simp only [Bool.false_and, Bool.false_eq_true, if_false, List.foldl_cons, List.foldl_nil]
      refine ⟨⟨?_, hafter, ?_⟩, setRx_same _ _ _, trivial, hstep _ _ _⟩
      · rw [setRx_clients, heffect.client.socket]
        exact h.opened
      · rw [setRx_same, List.length_drop]
        exact Nat.le_trans (Nat.sub_le _ _) h.room
  | true =>
      -- encryption began, which the record would show
      exfalso
      have hpaired : ∀ more : List RtspEvent,
          ((.dispatched i request ((s.rx i).take n) false s.stream r.server.stream ::
            .paired i (r.server.clients i).pairing.readKey :: more).foldl
              (observeStep i) o).paired = true := by
        intro more
        rw [List.foldl_cons, hstep, List.foldl_cons]
        apply observe_paired
        have hopen' : ({ o with requests := o.requests ++ [request] } : Observed).closed = false :=
          hopen
        rw [observeStep_pairing hopen']
      rw [hafter] at hplain
      simp only [Bool.true_and, if_true] at hplain
      split at hplain
      · exact absurd ((hpaired _).symm.trans hplain) (by decide)
      · exact absurd ((hpaired []).symm.trans hplain) (by decide)

/-- What becomes of a request that was parsed: it fails, or the connection ends before its
encryption, or it goes on. -/
theorem requestTurn_accept (io : RequestIo) {request : RtspRequest} {consumed : ℕ}
    (hparse : parseRequest (s.rx i) = .accept request consumed) :
    let r := handleRequest prim io s i request
    let log := dispatchLog s i request ((s.rx i).take consumed) r
    let next := r.server.setRx i ((r.server.rx i).drop consumed)
    (r.ok = false ∧ requestTurn prim io s i = closeTurn r.server i log) ∨
      (r.ok = true ∧ requestTurn prim io s i = closeTurn next i log) ∨
      (r.ok = true ∧ requestTurn prim io s i = ⟨next, log, true⟩) := by
  rw [requestTurn, hparse]
  dsimp only
  split
  · rename_i hfails
    exact Or.inl ⟨hfails, rfl⟩
  · rename_i hok
    rw [Bool.not_eq_false] at hok
    split
    · exact Or.inr (Or.inl ⟨hok, rfl⟩)
    · exact Or.inr (Or.inr ⟨hok, rfl⟩)

theorem requestTurn_incomplete (io : RequestIo) (hparse : parseRequest (s.rx i) = .incomplete) :
    requestTurn prim io s i = ⟨s, [], false⟩ := by
  rw [requestTurn, hparse]

/-- A malformed place: the connection is rejected and closed. -/
theorem requestTurn_reject (io : RequestIo) (hparse : parseRequest (s.rx i) = .reject)
    (hopen : o.closed = false) :
    (requestTurn prim io s i).more = false ∧
      (requestTurn prim io s i).log.foldl (observeStep i) o =
        { o with rejected := true, closed := true } := by
  rw [requestTurn, hparse]
  refine ⟨rfl, ?_⟩
  dsimp only [closeTurn]
  have hopen' : ({ o with rejected := true } : Observed).closed = false := hopen
  rw [List.singleton_append, List.foldl_cons, observeStep_rejected hopen, List.foldl_cons,
    List.foldl_nil, observeStep_closed hopen']

/-- The loop stops where no frame is complete, as the framing does. -/
theorem settled_incomplete {s : RtspServer} {o : Observed} (hlive : Live i s)
    (hrejected : o.rejected = false) (hopen : o.closed = false)
    (hparse : parseRequest (s.rx i) = .incomplete) :
    o.requests = o.requests ++ (requestFraming.frames (s.rx i)).1 ∧
      Settled i s o (requestFraming.frames (s.rx i)).2 := by
  rw [requestFraming.frames_incomplete (hlive.parse.trans hparse)]
  refine ⟨(List.append_nil _).symm, ⟨?_, fun h => by simp at h⟩⟩
  intro rest hrest
  rw [Ending.waiting.injEq] at hrest
  exact ⟨hlive, hrest, hrejected, hopen⟩

/-- **The loop takes every frame that is complete.** -/
theorem requestLoop_frames : ∀ (fuel : ℕ) (io : ℕ → RequestIo) (s : RtspServer) (o : Observed),
    (∀ k, (io k).Sends) → Live i s → (s.rx i).length ≤ fuel →
      o.rejected = false → o.closed = false →
      ((requestLoop prim i fuel io s).log.foldl (observeStep i) o).paired = false →
      ((requestLoop prim i fuel io s).log.foldl (observeStep i) o).stream = o.stream ∧
      ((requestLoop prim i fuel io s).log.foldl (observeStep i) o).requests =
        o.requests ++ (requestFraming.frames (s.rx i)).1 ∧
      Settled i (requestLoop prim i fuel io s).server
        ((requestLoop prim i fuel io s).log.foldl (observeStep i) o)
        (requestFraming.frames (s.rx i)).2 := by
  have hnone : parseRequest [] = .incomplete := rfl
  intro fuel
  induction fuel with
  | zero =>
      intro io s o _ hlive hfuel hrejected hopen _
      have hempty : s.rx i = [] := List.length_eq_zero_iff.mp (Nat.le_zero.mp hfuel)
      exact ⟨rfl, settled_incomplete hlive hrejected hopen (by rw [hempty]; exact hnone)⟩
  | succ fuel ih =>
      intro io s o hsends hlive hfuel hrejected hopen hplain
      by_cases hempty : s.rx i = []
      · rw [requestLoop, if_pos hempty]
        exact ⟨rfl, settled_incomplete hlive hrejected hopen (by rw [hempty]; exact hnone)⟩
      · rw [requestLoop, if_neg hempty] at hplain ⊢
        dsimp only at hplain ⊢
        cases hparse : parseRequest (s.rx i) with
        | incomplete =>
            rw [requestTurn_incomplete prim (io 0) hparse]
            exact ⟨rfl, settled_incomplete hlive hrejected hopen hparse⟩
        | reject =>
            obtain ⟨hmore, hobserved⟩ := requestTurn_reject prim (io 0) hparse hopen
            rw [if_pos hmore, hobserved,
              requestFraming.frames_reject (hlive.parse.trans hparse)]
            exact ⟨rfl, (List.append_nil _).symm, fun _ h => by simp at h, fun _ => ⟨rfl, rfl⟩⟩
        | accept request n =>
            -- what the whole log does not show, its first round does not show
            have hturn : ((requestTurn prim (io 0) s i).log.foldl (observeStep i) o).paired
                = false := by
              split at hplain
              · exact hplain
              · rw [List.foldl_append] at hplain
                exact observe_not_paired hplain
            obtain ⟨hlive', hrx, hmore, hobserved⟩ :=
              requestTurn_plain prim hlive (hsends 0) hparse hopen hturn
            have hcontinue : ¬ (requestTurn prim (io 0) s i).more = false := by
              rw [hmore]
              exact Bool.true_eq_false.mp
            rw [if_neg hcontinue, List.foldl_append, hobserved] at hplain
            rw [if_neg hcontinue]
            dsimp only
            rw [List.foldl_append, hobserved]
            have haccept := hlive.parse.trans hparse
            have hpos := requestFraming.size_pos haccept
            have hlength : ((requestTurn prim (io 0) s i).server.rx i).length ≤ fuel := by
              rw [hrx, List.length_drop]
              omega
            obtain ⟨hstream, hrequests, hsettled⟩ := ih (fun k => io (k + 1)) _
              { o with requests := o.requests ++ [request] } (fun k => hsends (k + 1)) hlive'
              hlength hrejected hopen hplain
            rw [hrx] at hrequests hsettled
            rw [requestFraming.frames_accept haccept]
            refine ⟨hstream, ?_, hsettled⟩
            rw [hrequests]
            exact List.append_assoc _ _ _

end Requests

/-! ## One round -/

/-- What the network does for slot `i` in a poll: bytes or nothing yet, and sends
that succeed. -/
structure Delivers (i : Slot) (io : PollIo) : Prop where
  data : io.data i = .timeout ∨ ∃ b rest, io.data i = .data (b :: rest)
  sends : ∀ k, (io.request i k).Sends

section Rounds

variable {i : Slot} {s : RtspServer} {o : Observed} {io : PollIo} (prim : Primitives)

/-- The event channel is not part of the connection. -/
theorem eventTurns_live (ready : Ready) (h : Live i s) :
    Live i (eventTurns io ready s i) ∧ (eventTurns io ready s i).rx i = s.rx i := by
  obtain ⟨socket, hclient, hrx⟩ := eventTurns_client io ready s i
  have hsame : (eventTurns io ready s i).rx i = s.rx i := by rw [hrx]
  refine ⟨⟨?_, ?_, ?_⟩, hsame⟩
  · rw [hclient]
    exact h.opened
  · rw [hclient]
    exact h.plain
  · rw [hsame]
    exact h.room

/-- A read of a live connection with room in its buffer: nothing, or some bytes. -/
theorem receiveTurn_live (h : Live i s) (hroom : (s.rx i).length < rtspRxBufferSize)
    (hdata : io.data i = .timeout ∨ ∃ b rest, io.data i = .data (b :: rest)) :
    receiveTurn prim s i (io.data i) = ⟨s, [], false⟩ ∨
      ∃ b chunk, receiveTurn prim s i (io.data i) =
          ⟨s.setRx i (s.rx i ++ b :: chunk), [.received i (b :: chunk)], true⟩ ∧
        (s.rx i ++ b :: chunk).length ≤ rtspRxBufferSize := by
  obtain ⟨room, hcapacity⟩ : ∃ room, rtspRxBufferSize - (s.rx i).length = room + 1 :=
    ⟨rtspRxBufferSize - (s.rx i).length - 1, by omega⟩
  have hsame : s.setClient i (s.clients i) = s := by
    rw [RtspServer.setClient, Function.update_eq_self]
  -- a plaintext connection hands over what the socket gives
  have hread : ∀ offer, receiveClient prim.aead (s.clients i) (room + 1) offer =
      (s.clients i, netTcpRecv (s.clients i).socket (room + 1) offer) := by
    intro offer
    rw [receiveClient, if_pos h.plain]
  have hready : ¬ ((s.clients i).socket.isOpen = false ∨ room + 1 = 0) := by
    rw [h.opened]
    simp
  rcases hdata with htimeout | ⟨b, rest, hbytes⟩
  · left
    rw [receiveTurn, hcapacity, hread, htimeout, netTcpRecv, if_neg hready]
    dsimp only
    rw [hsame]
  · right
    refine ⟨b, rest.take room, ?_, ?_⟩
    · rw [receiveTurn, hcapacity, hread, hbytes, netTcpRecv, if_neg hready]
      dsimp only
      rw [List.take_succ_cons, hsame]
      dsimp only
      rw [receivedEvent, h.plain]
      rfl
    · have htake := List.length_take_le room rest
      rw [List.length_append, List.length_cons]
      omega

/-- A round of an open connection goes on from the bytes that were left over. -/
theorem clientTurns_framed (h : Framed i s o) (hdelivers : Delivers i io)
    (hopen : o.closed = false)
    (hplain : ((clientTurns prim io s i).log.foldl (observeStep i) o).paired = false) :
    Framed i (clientTurns prim io s i).server
      ((clientTurns prim io s i).log.foldl (observeStep i) o) := by
  -- an open connection waits for the rest of a frame
  obtain ⟨rest, hending⟩ : ∃ rest, (requestFraming.frames o.stream).2 = .waiting rest := by
    cases hending : (requestFraming.frames o.stream).2 with
    | waiting rest => exact ⟨rest, rfl⟩
    | malformed =>
        have hclosed := (h.settled.malformed hending).2
        rw [hopen] at hclosed
        contradiction
  obtain ⟨hlive, hrx, hrejected, -⟩ := h.settled.waiting rest hending
  have hparse : parseRequest (s.rx i) = .incomplete := by
    rw [← hlive.parse, hrx]
    exact requestFraming.parse_waiting hending
  have hroom := parseRequest_incomplete_room hlive.room hparse
  rw [clientTurns] at hplain ⊢
  dsimp only at hplain ⊢
  -- nothing came, or bytes for which there is room
  rcases receiveTurn_live prim hlive hroom hdelivers.data with hnone | ⟨b, chunk, hread, hfits⟩
  · rw [hnone]
    exact h
  · rw [hread] at hplain ⊢
    simp only [Bool.true_eq_false, if_false, List.singleton_append, List.foldl_cons,
      setRx_same] at hplain ⊢
    have hstep : observeStep i o (.received i (b :: chunk)) =
        { o with stream := o.stream ++ b :: chunk } :=
      observeStep_received hopen (b :: chunk)
    rw [hstep] at hplain ⊢
    have hlive' : Live i (s.setRx i (s.rx i ++ b :: chunk)) :=
      ⟨hlive.opened, hlive.plain, by rw [setRx_same]; exact hfits⟩
    obtain ⟨hstream, hrequests, hsettled⟩ := requestLoop_frames prim _ (io.request i)
      (s.setRx i (s.rx i ++ b :: chunk)) { o with stream := o.stream ++ b :: chunk }
      hdelivers.sends hlive' (by rw [setRx_same]) hrejected hopen hplain
    have hframes := requestFraming.frames_append_waiting hending (b :: chunk)
    rw [setRx_same] at hrequests hsettled
    rw [← hrx] at hframes
    constructor
    · rw [hstream, hrequests, hframes, h.requests]
    · rw [hstream, hframes]
      exact hsettled

/-- The record of a connection that does not complete pairing. -/
def FramedUnlessPaired (i : Slot) (s : RtspServer) (log : List RtspEvent) : Prop :=
  (observe i log).paired = false → Framed i s (observe i log)

/-- What the other slots do keeps the invariant. -/
theorem Framed.other {after : RtspServer} (h : Framed i s o)
    (hclient : after.clients i = s.clients i) (hrx : after.rx i = s.rx i) :
    Framed i after o where
  requests := h.requests
  settled :=
    { waiting := fun rest hrest => by
        obtain ⟨hlive, hleft, hrejected, hopen⟩ := h.settled.waiting rest hrest
        refine ⟨⟨?_, ?_, ?_⟩, hrx.trans hleft, hrejected, hopen⟩
        · rw [hclient]
          exact hlive.opened
        · rw [hclient]
          exact hlive.plain
        · rw [hrx]
          exact hlive.room
      malformed := h.settled.malformed }

/-- After its end a connection does not change any more. -/
theorem Framed.over {after : RtspServer} (h : Framed i s o) (hclosed : o.closed = true) :
    Framed i after o where
  requests := h.requests
  settled :=
    { waiting := fun rest hrest => by
        have hopen := (h.settled.waiting rest hrest).2.2.2
        rw [hclosed] at hopen
        contradiction
      malformed := h.settled.malformed }

theorem slotInvariant_framed (hdelivers : Delivers i io) :
    SlotInvariant prim io (FramedUnlessPaired i) where
  slot ready s log j h hplain := by
    rw [observe_append] at hplain ⊢
    have hbefore := h (observe_not_paired hplain)
    have honly := slotTurns_only prim io ready s j
    by_cases hj : j = i
    · rw [hj] at hplain honly ⊢
      cases hclosed : (observe i log).closed with
      | true =>
          rw [observe_closed hclosed]
          exact hbefore.over hclosed
      | false =>
          have hframed : Framed i (eventTurns io ready s i) (observe i log) := by
            refine ⟨hbefore.requests, ?_, hbefore.settled.malformed⟩
            intro rest hrest
            obtain ⟨hlive, hleft, hflags⟩ := hbefore.settled.waiting rest hrest
            obtain ⟨hlive', hrx⟩ : Live i (eventTurns io ready s i) ∧
                (eventTurns io ready s i).rx i = s.rx i := eventTurns_live ready hlive
            exact ⟨hlive', hrx.trans hleft, hflags⟩
          rw [slotTurns] at hplain ⊢
          split at hplain
          · rename_i hready
            rw [if_pos hready]
            exact hframed
          · rename_i hready
            rw [if_neg hready]
            exact clientTurns_framed prim hframed hdelivers hclosed hplain
    · have hne : i ≠ j := fun heq => hj heq.symm
      rw [observe_others fun e he => by rw [honly.log e he]; exact hj]
      exact hbefore.other (honly.clients i hne) (honly.rx i hne)
  accept s log j handle peer h hfree hplain := by
    rw [observe_append] at hplain ⊢
    have hbefore := h (observe_not_paired hplain)
    rw [observe_accepted]
    cases hclosed : (observe i log).closed with
    | true => exact hbefore.over hclosed
    | false =>
        -- a live connection holds its slot, so the new one has another
        have hne : i ≠ j := by
          rintro rfl
          cases hending : (requestFraming.frames (observe i log).stream).2 with
          | waiting rest =>
              have hopened := (hbefore.settled.waiting rest hending).1.opened
              rw [freeSlot_closed hfree] at hopened
              contradiction
          | malformed =>
              have hend := (hbefore.settled.malformed hending).2
              rw [hclosed] at hend
              contradiction
        refine hbefore.other ?_ ?_
        · rw [installClient, setRx_clients, setClient_other _ _ _ _ hne]
        · rw [installClient, setRx_other _ _ _ _ hne, setClient_rx]

end Rounds

/-! ## Runs -/

/-- A connection that has just been accepted in slot `i`. -/
structure Fresh (i : Slot) (s : RtspServer) : Prop where
  opened : (s.clients i).socket.isOpen = true
  plain : (s.clients i).encrypted = false
  empty : s.rx i = []

theorem installClient_fresh (s : RtspServer) (i : Slot) (handle : ℕ) (peer : NetAddr) :
    Fresh i (installClient s i handle peer) where
  opened := by
    rw [installClient, setRx_clients, setClient_same]
    rfl
  plain := by
    rw [installClient, setRx_clients, setClient_same]
    rfl
  empty := by rw [installClient, setRx_same]

theorem fresh_framed {i : Slot} {s : RtspServer} (h : Fresh i s) :
    Framed i s (observe i []) := by
  have hframes : requestFraming.frames (observe i []).stream = ([], .waiting []) :=
    requestFraming.frames_incomplete rfl
  refine ⟨by rw [hframes]; rfl, ?_, ?_⟩
  · intro rest hrest
    rw [hframes, Ending.waiting.injEq] at hrest
    refine ⟨⟨h.opened, h.plain, ?_⟩, h.empty.trans hrest, rfl, rfl⟩
    rw [h.empty]
    exact Nat.zero_le _
  · intro hmalformed
    rw [hframes] at hmalformed
    contradiction

/-- A run of polls from a server with a fresh connection in slot `i`, over a network
that delivers. The connection does not complete pairing. -/
structure PlainRun (prim : Primitives) (i : Slot) (s : RtspServer) (polls : List PollIo) :
    Prop where
  fresh : Fresh i s
  delivers : ∀ io ∈ polls, Delivers i io
  plain : (observe i (rtspLog prim s polls)).paired = false

/-- **The requests of a connection are the frames of its stream.** -/
theorem plainRun_framed {prim : Primitives} {i : Slot} {s : RtspServer} {polls : List PollIo}
    (h : PlainRun prim i s polls) :
    Framed i (rtspAfter prim s polls) (observe i (rtspLog prim s polls)) :=
  rtspLog_invariant prim (FramedUnlessPaired i) polls
    (fun io hio => slotInvariant_framed prim (h.delivers io hio)) s []
    (fun _ => fresh_framed h.fresh) h.plain

/-- A run consumes a stream: it reads it to the end, or up to where the connection
was closed. -/
structure Consumes (o : Observed) (stream : List UInt8) : Prop where
  start : o.stream <+: stream
  all : o.closed = false → o.stream = stream

/-- What a run has seen of a stream it consumed is what the whole stream says. -/
theorem Framed.consumed {i : Slot} {s : RtspServer} {o : Observed} (h : Framed i s o)
    {stream : List UInt8} (hconsumes : Consumes o stream) :
    o.requests = (requestFraming.frames stream).1 ∧
      (o.rejected = true ↔ (requestFraming.frames stream).2 = .malformed) ∧
      (o.closed = o.rejected) ∧
      (o.closed = false → (s.clients i).socket.isOpen = true ∧
        (requestFraming.frames stream).2 = .waiting (s.rx i)) := by
  cases hending : (requestFraming.frames o.stream).2 with
  | waiting rest =>
      obtain ⟨hlive, hleft, hrejected, hopen⟩ := h.settled.waiting rest hending
      rw [hconsumes.all hopen] at hending
      have hrequests := h.requests
      rw [hconsumes.all hopen] at hrequests
      refine ⟨hrequests.symm, ?_, hopen.trans hrejected.symm, fun _ => ⟨hlive.opened, ?_⟩⟩
      · rw [hrejected, hending]
        exact ⟨fun h => absurd h Bool.false_ne_true, fun h => by simp at h⟩
      · rw [hending, hleft]
  | malformed =>
      obtain ⟨hrejected, hclosed⟩ := h.settled.malformed hending
      obtain ⟨rest, hrest⟩ := hconsumes.start
      have hframes := requestFraming.frames_append_malformed hending rest
      rw [hrest] at hframes
      rw [hframes, hending, hrejected, hclosed]
      refine ⟨h.requests.symm, ⟨fun _ => rfl, fun _ => rfl⟩, rfl, ?_⟩
      intro hfalse
      contradiction

/-- **Framing does not depend on fragmentation.** Two runs deliver the same stream on
a plaintext connection, each split into reads in its own way and among whatever else
the server does. Then the same requests are handled, in the same order, and the
verdict is the same: rejected and closed, or open and waiting with the same bytes. -/
theorem framing_independent_of_fragmentation (prim : Primitives) {i j : Slot}
    {s t : RtspServer} {polls polls' : List PollIo} (h : PlainRun prim i s polls)
    (h' : PlainRun prim j t polls') (stream : List UInt8)
    (hconsumes : Consumes (observe i (rtspLog prim s polls)) stream)
    (hconsumes' : Consumes (observe j (rtspLog prim t polls')) stream) :
    let o := observe i (rtspLog prim s polls)
    let o' := observe j (rtspLog prim t polls')
    o.requests = o'.requests ∧ o.rejected = o'.rejected ∧ o.closed = o'.closed ∧
      o.closed = o.rejected ∧
      (o.closed = false → ((rtspAfter prim s polls).clients i).socket.isOpen = true ∧
        ((rtspAfter prim t polls').clients j).socket.isOpen = true ∧
        (rtspAfter prim s polls).rx i = (rtspAfter prim t polls').rx j) := by
  intro o o'
  obtain ⟨hrequests, hrejected, hclosed, hopen⟩ := (plainRun_framed h).consumed hconsumes
  obtain ⟨hrequests', hrejected', hclosed', hopen'⟩ := (plainRun_framed h').consumed hconsumes'
  have hverdict : o.rejected = o'.rejected := by
    rw [Bool.eq_iff_iff]
    exact hrejected.trans hrejected'.symm
  have hend : o.closed = o'.closed := hclosed.trans (hverdict.trans hclosed'.symm)
  refine ⟨hrequests.trans hrequests'.symm, hverdict, hend, hclosed, ?_⟩
  intro hwaiting
  obtain ⟨hsocket, hleft⟩ := hopen hwaiting
  obtain ⟨hsocket', hleft'⟩ := hopen' (hend.symm.trans hwaiting)
  rw [hleft, Ending.waiting.injEq] at hleft'
  exact ⟨hsocket, hsocket', hleft'⟩

/-! ## A request in two pieces -/

/-- Primitives that never succeed. -/
def idlePrimitives : Primitives where
  aead := ⟨fun _ => none, fun _ _ => none⟩
  srp := ⟨fun _ => [], fun _ _ _ => [], []⟩
  appleSignature _ _ _ := none
  strtof _ := none
  formatVolume _ := []

/-- The first slot. -/
def firstSlot : Slot := ⟨0, by decide⟩

/-- A server that has just accepted a client in its first slot. -/
def acceptedServer : RtspServer :=
  installClient (RtspServer.initial ⟨some 1, 5000⟩ [] [] []) firstSlot 2 ⟨ascii "10.0.0.2", 50000⟩

/-- A poll in which a client connects. -/
def connect : PollIo where
  wait := .ready ⟨true, fun _ => false, fun _ => false, fun _ => false⟩
  eventAccept _ := .timeout
  eventData _ := .timeout
  data _ := .timeout
  request _ _ := ⟨none, none, ⟨false, none, false⟩⟩
  accept := .accepted 2 ⟨ascii "10.0.0.2", 50000⟩

/-- A poll in which the client of the first slot sends some bytes. -/
def deliver (data : List UInt8) : PollIo where
  wait := .ready ⟨false, fun i => i == firstSlot, fun _ => false, fun _ => false⟩
  eventAccept _ := .timeout
  eventData _ := .timeout
  data _ := .data data
  request _ _ := ⟨none, none, ⟨false, none, false⟩⟩
  accept := .timeout

theorem deliver_delivers (b : UInt8) (rest : List UInt8) : Delivers firstSlot (deliver (b :: rest)) where
  data := Or.inr ⟨b, rest, rfl⟩
  sends _ := rfl

theorem plainRun_two (b c : UInt8) (first second : List UInt8)
    (h : (observe firstSlot (rtspLog idlePrimitives acceptedServer
      [deliver (b :: first), deliver (c :: second)])).paired = false) :
    PlainRun idlePrimitives firstSlot acceptedServer [deliver (b :: first), deliver (c :: second)] where
  fresh := installClient_fresh _ _ _ _
  delivers io hio := by
    simp only [List.mem_cons, List.not_mem_nil, or_false] at hio
    rcases hio with rfl | rfl
    · exact deliver_delivers b first
    · exact deliver_delivers c second
  plain := h

/-- `PLAY * RTSP/1.0` and a line that is no request, cut within the first and cut
within the second. -/
theorem framing_cut_anywhere :
    (observe firstSlot (rtspLog idlePrimitives acceptedServer
      [deliver (ascii "PLA"), deliver (ascii "Y * RTSP/1.0\r\n\r\nX\r\n\r\n")])).requests =
      (observe firstSlot (rtspLog idlePrimitives acceptedServer
        [deliver (ascii "PLAY * RTSP/1.0\r\n\r\nX\r"), deliver (ascii "\n\r\n")])).requests :=
  (framing_independent_of_fragmentation idlePrimitives
    (plainRun_two 80 89 (ascii "LA") (ascii " * RTSP/1.0\r\n\r\nX\r\n\r\n") (by decide +kernel))
    (plainRun_two 80 10 (ascii "LAY * RTSP/1.0\r\n\r\nX\r") (ascii "\r\n") (by decide +kernel))
    (ascii "PLAY * RTSP/1.0\r\n\r\nX\r\n\r\n")
    ⟨by decide +kernel, by decide +kernel⟩ ⟨by decide +kernel, by decide +kernel⟩).1

end PortableAirplay.Protocol
