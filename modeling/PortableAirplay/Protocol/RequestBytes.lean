import PortableAirplay.Protocol.Fragmentation

/-!
# Requests and their bytes

`observe` says which requests a connection handed to the server. Here they stand with
the bytes that they were cut from, and beside the plaintext that the connection gave,
whether it was received as it is or opened from records (`handed`). `Conserved` is the
invariant of every connection: no byte is lost, and none is in two requests. So the
requests of a connection with their bytes are known from the plaintext alone
(`handed_parts`).
-/

set_option autoImplicit false

namespace PortableAirplay.Protocol

open PortableAirplay.Airplay
open PortableAirplay.Library
open PortableAirplay.Platform

/-! ## What a connection handed over -/

/-- The plaintext of a connection and the requests with their bytes, up to its end. -/
structure Handed where
  given : List UInt8
  parts : List (RtspRequest × List UInt8)
  closed : Bool

/-- A connection that nothing is known of yet. -/
def Handed.start : Handed := ⟨[], [], false⟩

/-- The bytes of the requests. -/
def Handed.taken (h : Handed) : List UInt8 := (h.parts.map Prod.snd).flatten

/-- One more event of the connection. -/
def handedEvent (h : Handed) : RtspEvent → Handed
  | .accepted _ => h
  | .received _ data => { h with given := h.given ++ data }
  | .opened _ _ data => { h with given := h.given ++ data }
  | .dispatched _ request raw _ _ _ => { h with parts := h.parts ++ [(request, raw)] }
  | .paired _ _ => h
  | .rejected _ => h
  | .closed _ _ _ => { h with closed := true }

/-- Events of other slots, and those after the end of the connection, are not its
own. -/
def handedStep (i : Slot) (h : Handed) (e : RtspEvent) : Handed :=
  if e.slot = i ∧ h.closed = false then handedEvent h e else h

/-- The connection that is in slot `i` at the start of a log. -/
def handed (i : Slot) (log : List RtspEvent) : Handed := log.foldl (handedStep i) Handed.start

section Handed

variable {i : Slot} {h : Handed} {log : List RtspEvent}

theorem handed_append (i : Slot) (log more : List RtspEvent) :
    handed i (log ++ more) = more.foldl (handedStep i) (handed i log) := by
  rw [handed, List.foldl_append]
  rfl

theorem handedStep_own {e : RtspEvent} (he : e.slot = i) (hopen : h.closed = false) :
    handedStep i h e = handedEvent h e := if_pos ⟨he, hopen⟩

theorem handed_others (hlog : ∀ e ∈ log, e.slot ≠ i) : log.foldl (handedStep i) h = h := by
  induction log with
  | nil => rfl
  | cons e rest ih =>
      obtain ⟨he, hrest⟩ := List.forall_mem_cons.mp hlog
      have hother : handedStep i h e = h := if_neg fun hboth => he hboth.1
      rw [List.foldl_cons, hother]
      exact ih hrest

theorem handed_accepted (j : Slot) : [RtspEvent.accepted j].foldl (handedStep i) h = h := by
  rw [List.foldl_cons, List.foldl_nil, handedStep]
  split
  · rfl
  · rfl

theorem handed_closed (hclosed : h.closed = true) : log.foldl (handedStep i) h = h := by
  induction log with
  | nil => rfl
  | cons e rest ih =>
      have hover : handedStep i h e = h :=
        if_neg fun hopen => Bool.false_ne_true (hopen.2.symm.trans hclosed)
      rw [List.foldl_cons, hover]
      exact ih

/-- The requests are those that the connection shows, and its end is the same. -/
structure Shows (h : Handed) (o : Observed) : Prop where
  requests : h.parts.map Prod.fst = o.requests
  closed : h.closed = o.closed

theorem handed_shows {o : Observed} (hshows : Shows h o) :
    Shows (log.foldl (handedStep i) h) (log.foldl (observeStep i) o) := by
  induction log generalizing h o with
  | nil => exact hshows
  | cons e rest ih =>
      apply ih
      rw [handedStep, observeStep, hshows.closed]
      split
      · cases e with
        | accepted j => exact hshows
        | received j data => exact ⟨hshows.requests, hshows.closed⟩
        | opened j key data => exact ⟨hshows.requests, hshows.closed⟩
        | dispatched j request raw encrypted first last =>
            refine ⟨?_, hshows.closed⟩
            show (h.parts ++ [(request, raw)]).map Prod.fst = o.requests ++ [request]
            rw [List.map_append, hshows.requests]
            rfl
        | paired j key => exact ⟨hshows.requests, hshows.closed⟩
        | rejected j => exact ⟨hshows.requests, hshows.closed⟩
        | closed j first last => exact ⟨hshows.requests, rfl⟩
      · exact hshows

end Handed

/-! ## The invariant -/

/-- The requests are cut from the plaintext, one after the other, and what is left over
is in the receive buffer. -/
structure Conserved (i : Slot) (s : RtspServer) (h : Handed) : Prop where
  whole : ∀ part ∈ h.parts, parseRequest part.2 = .accept part.1 part.2.length
  start : h.taken <+: h.given
  live : h.closed = false →
    (s.clients i).socket.isOpen = true ∧ h.given = h.taken ++ s.rx i

section Turns

variable {i : Slot} {s after : RtspServer} {h : Handed} (prim : Primitives)

theorem Conserved.same (hconserved : Conserved i s h)
    (hsocket : (after.clients i).socket = (s.clients i).socket) (hrx : after.rx i = s.rx i) :
    Conserved i after h where
  whole := hconserved.whole
  start := hconserved.start
  live hopen := by
    rw [hsocket, hrx]
    exact hconserved.live hopen

theorem Conserved.over (hconserved : Conserved i s h) (hclosed : h.closed = true) :
    Conserved i after h where
  whole := hconserved.whole
  start := hconserved.start
  live hopen := absurd (hopen.symm.trans hclosed) Bool.false_ne_true

/-- The connection ends. -/
theorem Conserved.close (hconserved : Conserved i s h) :
    Conserved i after { h with closed := true } where
  whole := hconserved.whole
  start := hconserved.start
  live hopen := Bool.noConfusion hopen

/-- More plaintext. -/
theorem Conserved.give (hconserved : Conserved i s h) (hopen : h.closed = false)
    (data : List UInt8) (hsocket : (after.clients i).socket = (s.clients i).socket)
    (hrx : after.rx i = s.rx i ++ data) :
    Conserved i after { h with given := h.given ++ data } where
  whole := hconserved.whole
  start := hconserved.start.trans (List.prefix_append _ _)
  live _ := by
    obtain ⟨hlive, hgiven⟩ := hconserved.live hopen
    refine ⟨by rw [hsocket]; exact hlive, ?_⟩
    show h.given ++ data = h.taken ++ after.rx i
    rw [hgiven, hrx, List.append_assoc]

/-- One more request. -/
theorem Conserved.take (hconserved : Conserved i s h) (hopen : h.closed = false)
    {request : RtspRequest} {n : ℕ} (hparse : parseRequest (s.rx i) = .accept request n)
    (hsocket : (after.clients i).socket = (s.clients i).socket)
    (hrx : after.rx i = (s.rx i).drop n) :
    Conserved i after { h with parts := h.parts ++ [(request, (s.rx i).take n)] } := by
  obtain ⟨hle, hwhole⟩ := parseRequest_accept_take hparse
  obtain ⟨hlive, hgiven⟩ := hconserved.live hopen
  have htaken : Handed.taken { h with parts := h.parts ++ [(request, (s.rx i).take n)] } =
      h.taken ++ (s.rx i).take n := by
    rw [Handed.taken, List.map_append, List.flatten_append]
    show h.taken ++ ((s.rx i).take n ++ []) = _
    rw [List.append_nil]
  have hall : h.given = h.taken ++ (s.rx i).take n ++ (s.rx i).drop n := by
    rw [hgiven, List.append_assoc, List.take_append_drop]
  constructor
  · intro part hpart
    rcases List.mem_append.mp hpart with hbefore | hnew
    · exact hconserved.whole part hbefore
    · rw [List.mem_singleton.mp hnew]
      dsimp only
      rw [List.length_take, Nat.min_eq_left hle]
      exact hwhole
  · rw [htaken]
    exact ⟨_, hall.symm⟩
  · intro _
    rw [htaken, hsocket, hrx]
    exact ⟨hlive, hall⟩

theorem handedStep_closed (hopen : h.closed = false) (first last : StreamState) :
    handedStep i h (.closed i first last) = { h with closed := true } := if_pos ⟨rfl, hopen⟩

/-- A turn that ends with the connection. -/
theorem closeTurn_conserved {next : Handed} {log : List RtspEvent} (server : RtspServer)
    (hconserved : Conserved i after next) (hlog : log.foldl (handedStep i) h = next)
    (hopen : next.closed = false) :
    Conserved i (closeTurn server i log).server
      ((closeTurn server i log).log.foldl (handedStep i) h) := by
  rw [closeTurn, List.foldl_append, hlog, List.foldl_cons, List.foldl_nil,
    handedStep_closed hopen]
  exact hconserved.close

theorem receiveTurn_conserved (hconserved : Conserved i s h) (offer : RecvOffer) :
    Conserved i (receiveTurn prim s i offer).server
      ((receiveTurn prim s i offer).log.foldl (handedStep i) h) := by
  cases hend : h.closed with
  | true =>
      -- a log that has closed counts nothing more
      rw [handed_closed hend]
      exact hconserved.over hend
  | false =>
      have hstep := receiveClient_step prim.aead (s.clients i)
        (rtspRxBufferSize - (s.rx i).length) offer
      rw [receiveTurn]
      generalize receiveClient prim.aead (s.clients i) (rtspRxBufferSize - (s.rx i).length)
        offer = r at hstep ⊢
      have hsocket : ((s.setClient i r.1).clients i).socket = (s.clients i).socket := by
        rw [setClient_same]
        exact hstep.socket
      -- an error and the end of the stream close the slot alike
      have hclose : Conserved i (closeTurn (s.setClient i r.1) i []).server
          ((closeTurn (s.setClient i r.1) i []).log.foldl (handedStep i) h) :=
        closeTurn_conserved _ hconserved rfl hend
      cases r.2 with
      | timeout => exact hconserved.same hsocket rfl
      | error => exact hclose
      | bytes data =>
          cases data with
          | nil => exact hclose
          | cons b data =>
              have hevent := receivedEvent_slot (s.clients i) i (b :: data)
              have hgive : handedEvent h (receivedEvent (s.clients i) i (b :: data)) =
                  { h with given := h.given ++ b :: data } := by
                rw [receivedEvent]
                split
                · rfl
                · rfl
              dsimp only
              rw [List.foldl_cons, List.foldl_nil, handedStep_own hevent hend, hgive]
              exact hconserved.give hend (b :: data) hsocket (setRx_same ..)

/-- What a request that was handled adds. -/
theorem dispatchLog_handed {request : RtspRequest} {raw : List UInt8} {r : HandlerResult}
    (hopen : h.closed = false) :
    (dispatchLog s i request raw r).foldl (handedStep i) h =
      { h with parts := h.parts ++ [(request, raw)] } := by
  have hfirst : handedStep i h (.dispatched i request raw (s.clients i).encrypted s.stream
      r.server.stream) = { h with parts := h.parts ++ [(request, raw)] } :=
    handedStep_own rfl hopen
  rw [dispatchLog, List.foldl_cons, hfirst]
  split
  · rw [List.foldl_cons, List.foldl_nil]
    exact handedStep_own rfl hopen
  · rfl

theorem requestTurn_conserved (hconserved : Conserved i s h) (io : RequestIo) :
    Conserved i (requestTurn prim io s i).server
      ((requestTurn prim io s i).log.foldl (handedStep i) h) := by
  cases hend : h.closed with
  | true =>
      rw [handed_closed hend]
      exact hconserved.over hend
  | false =>
      rw [requestTurn]
      cases hparse : parseRequest (s.rx i) with
      | incomplete => exact hconserved
      | reject =>
          have hrejected : handedStep i h (.rejected i) = h := handedStep_own rfl hend
          exact closeTurn_conserved _ hconserved hrejected hend
      | accept request n =>
          have heffect := handleRequest_effect prim io s i request
          dsimp only
          generalize handleRequest prim io s i request = r at heffect ⊢
          have hnext : Conserved i (r.server.setRx i ((r.server.rx i).drop n))
              { h with parts := h.parts ++ [(request, (s.rx i).take n)] } := by
            have hrx : (r.server.setRx i ((r.server.rx i).drop n)).rx i = (s.rx i).drop n := by
              rw [setRx_same, heffect.rx]
            exact hconserved.take hend hparse heffect.client.socket hrx
          have hclose : ∀ server : RtspServer, Conserved i
              (closeTurn server i (dispatchLog s i request ((s.rx i).take n) r)).server
              ((closeTurn server i (dispatchLog s i request ((s.rx i).take n) r)).log.foldl
                (handedStep i) h) :=
            fun server => closeTurn_conserved server hnext (dispatchLog_handed hend) hend
          split
          · exact hclose _
          · split
            · exact hclose _
            · rw [dispatchLog_handed hend]
              exact hnext

/-- What the other slots do. -/
theorem Conserved.other {j : Slot} {log : List RtspEvent} (hconserved : Conserved i s h)
    (honly : OnlySlot j s after log) (hne : i ≠ j) :
    Conserved i after (log.foldl (handedStep i) h) := by
  rw [handed_others fun e he hslot => hne (hslot.symm.trans (honly.log e he))]
  exact hconserved.same (by rw [honly.clients i hne]) (honly.rx i hne)

/-- **Every turn conserves the bytes.** -/
theorem pollInvariant_conserved (io : PollIo) (i : Slot) :
    PollInvariant prim io (fun s log => Conserved i s (handed i log)) where
  eventAccept s log j h := by
    by_cases hslot : i = j
    · subst hslot
      obtain ⟨socket, hclient, hrx⟩ := eventAcceptTurn_client s i (io.eventAccept i)
      exact h.same (by rw [hclient]) (by rw [hrx])
    · exact h.other (eventAcceptTurn_only s j _) hslot
  eventReceive s log j h := by
    by_cases hslot : i = j
    · subst hslot
      obtain ⟨socket, hclient, hrx⟩ := eventReceiveTurn_client s i (io.eventData i)
      exact h.same (by rw [hclient]) (by rw [hrx])
    · exact h.other (eventReceiveTurn_only s j _) hslot
  receive s log j h := by
    rw [handed_append]
    by_cases hslot : i = j
    · subst hslot
      exact receiveTurn_conserved prim h _
    · exact h.other (receiveTurn_only prim s j _) hslot
  request s log j k h := by
    rw [handed_append]
    by_cases hslot : i = j
    · subst hslot
      exact requestTurn_conserved prim h _
    · exact h.other (requestTurn_only prim _ s j) hslot
  accept s log j handle peer h hfree := by
    rw [handed_append, handed_accepted]
    cases hend : (handed i log).closed with
    | true => exact h.over hend
    | false =>
        -- an open connection holds its slot, so the new one has another
        have hne : i ≠ j := by
          rintro rfl
          have hopened := (h.live hend).1
          rw [freeSlot_closed hfree] at hopened
          contradiction
        refine h.same ?_ ?_
        · rw [installClient, setRx_clients, setClient_other _ _ _ _ hne]
        · rw [installClient, setRx_other _ _ _ _ hne, setClient_rx]

end Turns

/-- **No byte is lost.** What a connection handed over in a run, in the clear or not, are
requests cut from its plaintext in order. -/
theorem rtspLog_conserved (prim : Primitives) {i : Slot} {s : RtspServer}
    (hopen : (s.clients i).socket.isOpen = true) (hempty : s.rx i = []) (polls : List PollIo) :
    Conserved i (rtspAfter prim s polls) (handed i (rtspLog prim s polls)) := by
  have hstart : Conserved i s (handed i []) :=
    ⟨fun part hpart => absurd hpart List.not_mem_nil, List.nil_prefix,
      fun _ => ⟨hopen, hempty.symm⟩⟩
  exact rtspLog_invariant prim (fun s log => Conserved i s (handed i log)) polls
    (fun io _ => (pollInvariant_conserved prim io i).slots) s [] hstart

/-! ## Connections in the clear -/

/-- A connection that has not been paired: its plaintext is what it received. -/
structure InClear (i : Slot) (s : RtspServer) (h : Handed) (o : Observed) : Prop where
  given : h.given = o.stream
  closed : h.closed = o.closed
  plain : o.closed = false → (s.clients i).encrypted = false

section Clear

variable {i : Slot} {s after : RtspServer} {h : Handed} {o : Observed} (prim : Primitives)

theorem InClear.same (hclear : InClear i s h o)
    (hencrypted : (after.clients i).encrypted = (s.clients i).encrypted) :
    InClear i after h o where
  given := hclear.given
  closed := hclear.closed
  plain hopen := by
    rw [hencrypted]
    exact hclear.plain hopen

theorem InClear.over (hclear : InClear i s h o) (hend : o.closed = true) (log : List RtspEvent) :
    InClear i after (log.foldl (handedStep i) h) (log.foldl (observeStep i) o) := by
  rw [handed_closed (hclear.closed.trans hend), observe_closed hend]
  exact ⟨hclear.given, hclear.closed, fun hopen => absurd (hopen.symm.trans hend) Bool.false_ne_true⟩

theorem InClear.close (hclear : InClear i s h o) (hopen : o.closed = false)
    (first last : StreamState) :
    InClear i after (handedStep i h (.closed i first last))
      (observeStep i o (.closed i first last)) := by
  rw [handedStep_closed (hclear.closed.trans hopen), observeStep_closed hopen]
  exact ⟨hclear.given, rfl, fun hfalse => Bool.noConfusion hfalse⟩

theorem receiveTurn_inClear (hclear : InClear i s h o) (offer : RecvOffer) :
    InClear i (receiveTurn prim s i offer).server
      ((receiveTurn prim s i offer).log.foldl (handedStep i) h)
      ((receiveTurn prim s i offer).log.foldl (observeStep i) o) := by
  cases hend : o.closed with
  | true => exact hclear.over hend _
  | false =>
      -- an open slot that has not paired is plaintext, so what it reads is what came
      have hplain := hclear.plain hend
      have hstep := receiveClient_step prim.aead (s.clients i)
        (rtspRxBufferSize - (s.rx i).length) offer
      rw [receiveTurn]
      generalize receiveClient prim.aead (s.clients i) (rtspRxBufferSize - (s.rx i).length)
        offer = r at hstep ⊢
      have hkept : InClear i (s.setClient i r.1) h o := by
        apply hclear.same
        rw [setClient_same, hstep.encrypted]
      cases r.2 with
      | timeout => exact hkept
      | error => exact hclear.close hend _ _
      | bytes data =>
          cases data with
          | nil => exact hclear.close hend _ _
          | cons b data =>
              dsimp only
              have hgiven : handedStep i h (.received i (b :: data)) =
                  { h with given := h.given ++ b :: data } :=
                handedStep_own rfl (hclear.closed.trans hend)
              rw [receivedEvent, hplain, if_neg Bool.false_ne_true, List.foldl_cons,
                List.foldl_cons, List.foldl_nil, List.foldl_nil, hgiven,
                observeStep_received hend]
              refine ⟨?_, hclear.closed, hkept.plain⟩
              show h.given ++ b :: data = o.stream ++ b :: data
              rw [hclear.given]

/-- A request whose handling does not show a pairing. -/
theorem dispatchLog_unpaired {request : RtspRequest} {raw : List UInt8} {r : HandlerResult}
    (hplain : (s.clients i).encrypted = false) (hopen : o.closed = false)
    (hunpaired : ((dispatchLog s i request raw r).foldl (observeStep i) o).paired = false) :
    (r.server.clients i).encrypted = false ∧
      (dispatchLog s i request raw r).foldl (observeStep i) o =
        { o with requests := o.requests ++ [request] } := by
  have hshown := observeStep_dispatched (i := i) hopen request raw (s.clients i).encrypted
    s.stream r.server.stream
  rw [dispatchLog, List.foldl_cons, hshown, hplain, Bool.not_false, Bool.true_and] at hunpaired ⊢
  cases hafter : (r.server.clients i).encrypted with
  | false => exact ⟨rfl, rfl⟩
  | true =>
      have hopen' : ({ o with requests := o.requests ++ [request] } : Observed).closed = false :=
        hopen
      rw [hafter, if_pos rfl, List.foldl_cons, List.foldl_nil, observeStep_pairing hopen']
        at hunpaired
      contradiction

/-- A request that does not complete pairing. -/
theorem InClear.dispatched {request : RtspRequest} {raw : List UInt8} {r : HandlerResult}
    (hclear : InClear i s h o) (hend : o.closed = false)
    (hunpaired : ((dispatchLog s i request raw r).foldl (observeStep i) o).paired = false)
    (hserver : after.clients i = r.server.clients i) :
    InClear i after ((dispatchLog s i request raw r).foldl (handedStep i) h)
      ((dispatchLog s i request raw r).foldl (observeStep i) o) := by
  obtain ⟨hafter, hshown⟩ := dispatchLog_unpaired (hclear.plain hend) hend hunpaired
  rw [dispatchLog_handed (hclear.closed.trans hend), hshown]
  refine ⟨hclear.given, hclear.closed, fun _ => ?_⟩
  rw [hserver]
  exact hafter

/-- A request that does not complete pairing, and ends the connection. -/
theorem InClear.dispatchedLast {request : RtspRequest} {raw : List UInt8} {r : HandlerResult}
    (hclear : InClear i s h o) (hend : o.closed = false)
    (hunpaired : ((closeTurn after i (dispatchLog s i request raw r)).log.foldl
      (observeStep i) o).paired = false)
    (hserver : after.clients i = r.server.clients i) :
    InClear i (closeTurn after i (dispatchLog s i request raw r)).server
      ((closeTurn after i (dispatchLog s i request raw r)).log.foldl (handedStep i) h)
      ((closeTurn after i (dispatchLog s i request raw r)).log.foldl (observeStep i) o) := by
  rw [closeTurn, List.foldl_append] at hunpaired
  have hbefore := observe_not_paired hunpaired
  have hshown := (dispatchLog_unpaired (hclear.plain hend) hend hbefore).2
  rw [closeTurn, List.foldl_append, List.foldl_append]
  apply (hclear.dispatched hend hbefore hserver).close
  rw [hshown]
  exact hend

/-- A round of the loop that does not complete pairing. -/
theorem requestTurn_inClear (hclear : InClear i s h o) (io : RequestIo)
    (hunpaired : ((requestTurn prim io s i).log.foldl (observeStep i) o).paired = false) :
    InClear i (requestTurn prim io s i).server
      ((requestTurn prim io s i).log.foldl (handedStep i) h)
      ((requestTurn prim io s i).log.foldl (observeStep i) o) := by
  cases hend : o.closed with
  | true => exact hclear.over hend _
  | false =>
      have hopen := hclear.closed.trans hend
      cases hparse : parseRequest (s.rx i) with
      | incomplete =>
          rw [requestTurn_incomplete prim io hparse]
          exact hclear
      | reject =>
          rw [requestTurn, hparse]
          have hrejected : handedStep i h (.rejected i) = h := handedStep_own rfl hopen
          have hshown := observeStep_rejected (i := i) hend
          dsimp only [closeTurn]
          rw [List.singleton_append, List.foldl_cons, hrejected, List.foldl_cons,
            List.foldl_cons, hshown]
          have hsame : InClear i s h { o with rejected := true } :=
            ⟨hclear.given, hclear.closed, hclear.plain⟩
          exact hsame.close hend _ _
      | accept request n =>
          have hturn := requestTurn_accept prim io hparse
          dsimp only at hturn
          generalize handleRequest prim io s i request = r at hturn
          rcases hturn with ⟨-, hturn⟩ | ⟨-, hturn⟩ | ⟨-, hturn⟩
          · rw [hturn] at hunpaired ⊢
            exact hclear.dispatchedLast hend hunpaired rfl
          · rw [hturn] at hunpaired ⊢
            exact hclear.dispatchedLast hend hunpaired rfl
          · rw [hturn] at hunpaired ⊢
            exact hclear.dispatched hend hunpaired rfl

/-- Every turn of a connection that does not complete pairing. -/
def InClearUnlessPaired (i : Slot) (s : RtspServer) (log : List RtspEvent) : Prop :=
  (observe i log).paired = false → InClear i s (handed i log) (observe i log)

theorem InClear.other {j : Slot} {log : List RtspEvent} (hclear : InClear i s h o)
    (honly : OnlySlot j s after log) (hne : i ≠ j) :
    InClear i after (log.foldl (handedStep i) h) (log.foldl (observeStep i) o) := by
  have hothers : ∀ e ∈ log, e.slot ≠ i :=
    fun e he hslot => hne (hslot.symm.trans (honly.log e he))
  rw [handed_others hothers, observe_others hothers]
  exact hclear.same (by rw [honly.clients i hne])

theorem pollInvariant_inClear (io : PollIo) (i : Slot) :
    PollInvariant prim io (InClearUnlessPaired i) where
  eventAccept s log j h hunpaired := by
    by_cases hslot : i = j
    · subst hslot
      -- the event channel of the slot is not its connection
      obtain ⟨socket, hclient, -⟩ := eventAcceptTurn_client s i (io.eventAccept i)
      exact (h hunpaired).same (by rw [hclient])
    · exact (h hunpaired).other (eventAcceptTurn_only s j _) hslot
  eventReceive s log j h hunpaired := by
    by_cases hslot : i = j
    · subst hslot
      obtain ⟨socket, hclient, -⟩ := eventReceiveTurn_client s i (io.eventData i)
      exact (h hunpaired).same (by rw [hclient])
    · exact (h hunpaired).other (eventReceiveTurn_only s j _) hslot
  receive s log j h hunpaired := by
    rw [observe_append] at hunpaired ⊢
    rw [handed_append]
    have hbefore := h (observe_not_paired hunpaired)
    by_cases hslot : i = j
    · subst hslot
      exact receiveTurn_inClear prim hbefore _
    · exact hbefore.other (receiveTurn_only prim s j _) hslot
  request s log j k h hunpaired := by
    rw [observe_append] at hunpaired ⊢
    rw [handed_append]
    have hbefore := h (observe_not_paired hunpaired)
    by_cases hslot : i = j
    · subst hslot
      exact requestTurn_inClear prim hbefore _ hunpaired
    · exact hbefore.other (requestTurn_only prim _ s j) hslot
  accept s log j handle peer h hfree hunpaired := by
    rw [observe_append] at hunpaired ⊢
    rw [handed_append]
    have hbefore := h (observe_not_paired hunpaired)
    rw [handed_accepted, observe_accepted]
    refine ⟨hbefore.given, hbefore.closed, fun hopen => ?_⟩
    by_cases hslot : i = j
    · subst hslot
      -- a client that has just been accepted is not encrypted
      rw [installClient, setRx_clients, setClient_same]
      rfl
    · rw [installClient, setRx_clients, setClient_other _ _ _ _ hslot]
      exact hbefore.plain hopen

end Clear

theorem parseRequest_size_pos {data : List UInt8} {request : RtspRequest} {n : ℕ}
    (h : parseRequest data = .accept request n) : 0 < n := by
  obtain ⟨headEnd, st, hend, -, -, -, -, hn⟩ := parseRequest_eq_accept.mp h
  have hbounds := headersEnd_bounds hend
  omega

/-- **The requests with their bytes are known from the stream** that they are cut from. -/
theorem Conserved.parts_eq {i : Slot} {s : RtspServer} {h : Handed} (hconserved : Conserved i s h)
    {parts : List (RtspRequest × List UInt8)}
    (hwhole : ∀ part ∈ parts, parseRequest part.2 = .accept part.1 part.2.length)
    (hgiven : h.given <+: (parts.map Prod.snd).flatten)
    (hrequests : h.parts.map Prod.fst = parts.map Prod.fst) : h.parts = parts := by
  have hcount := congrArg List.length hrequests
  rw [List.length_map, List.length_map] at hcount
  have hfront : h.parts <+: parts :=
    @parts_unique _ _ parseRequest parseRequest_size_pos parseRequest_accept_append h.parts parts
      hconserved.whole hwhole (hconserved.start.trans hgiven)
  exact hfront.eq_of_length hcount

/-- What a connection in the clear handed over, if it consumed a stream of whole requests. -/
theorem plainRun_handed {prim : Primitives} {i : Slot} {s : RtspServer} {polls : List PollIo}
    (h : PlainRun prim i s polls) {parts : List (RtspRequest × List UInt8)}
    (hwhole : ∀ part ∈ parts, parseRequest part.2 = .accept part.1 part.2.length)
    (hsizes : ∀ part ∈ parts, part.2.length ≤ rtspRxBufferSize)
    (hconsumes : Consumes (observe i (rtspLog prim s polls)) (parts.map Prod.snd).flatten) :
    handed i (rtspLog prim s polls) =
      ⟨(parts.map Prod.snd).flatten, parts, false⟩ := by
  have hparse : ∀ part ∈ parts, requestFraming.parse part.2 = .accept part.1 part.2.length := by
    intro part hpart
    show parseRequest (part.2.take rtspRxBufferSize) = _
    rw [List.take_of_length_le (hsizes part hpart)]
    exact hwhole part hpart
  -- the bytes are those of whole requests
  have hframes := requestFraming.frames_flatten rfl parts hparse
  obtain ⟨hrequests, hrejected, hclosed, -⟩ := (plainRun_framed h).consumed hconsumes
  have hclear : InClear i (rtspAfter prim s polls) (handed i (rtspLog prim s polls))
      (observe i (rtspLog prim s polls)) := by
    have hstart : InClear i s (handed i []) (observe i []) := ⟨rfl, rfl, fun _ => h.fresh.plain⟩
    exact rtspLog_invariant prim (InClearUnlessPaired i) polls
      (fun io _ => (pollInvariant_inClear prim io i).slots) s [] (fun _ => hstart) h.plain
  have hshows : Shows (handed i (rtspLog prim s polls)) (observe i (rtspLog prim s polls)) :=
    handed_shows ⟨rfl, rfl⟩
  -- only a malformed request would have ended the connection
  have hopen : (observe i (rtspLog prim s polls)).closed = false := by
    rw [hclosed]
    cases hcase : (observe i (rtspLog prim s polls)).rejected with
    | false => rfl
    | true =>
        have hmalformed := hrejected.mp hcase
        rw [hframes] at hmalformed
        contradiction
  have hconserved := rtspLog_conserved prim h.fresh.opened h.fresh.empty polls
  have hparts : (handed i (rtspLog prim s polls)).parts = parts := by
    apply hconserved.parts_eq hwhole
    · rw [hclear.given]
      exact hconsumes.start
    · rw [hshows.requests, hrequests, hframes]
  have hgiven := hclear.given.trans (hconsumes.all hopen)
  have hend := hclear.closed.trans hopen
  generalize handed i (rtspLog prim s polls) = result at hparts hgiven hend
  obtain ⟨given, parts', closed⟩ := result
  dsimp only at hparts hgiven hend
  rw [hparts, hgiven, hend]

end PortableAirplay.Protocol
