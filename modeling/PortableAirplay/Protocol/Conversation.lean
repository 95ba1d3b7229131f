import PortableAirplay.Protocol.Fragmentation

/-!
# One response for each request

The log of the server says nothing of what is written. Here the turns of a poll are
followed once more, for the requests that are parsed on a connection and the buffers
that are written to it, in order (`Spoken`).

`one_response_per_request`: where the network takes what is sent, a conversation is a
sequence of requests, each with one response under its number, before an ending. A
connection that is rejected gets one more response, and a connection whose response
cannot be sealed is closed.
-/

set_option autoImplicit false

namespace PortableAirplay.Protocol

open PortableAirplay.Airplay
open PortableAirplay.Library
open PortableAirplay.Platform
open PortableAirplay.Util

/-! ## What is said on a connection -/

/-- What happens on a connection. A request stands with the client as it was when the
request was parsed. -/
inductive Spoken where
  | asked (request : RtspRequest) (client : RtspClient)
  | malformed (client : RtspClient)
  | wrote (data : List UInt8)
  | closed

section Trace

variable (prim : Primitives)

/-- One round of the loop over a receive buffer. -/
def requestSpoken (io : RequestIo) (s : RtspServer) (i : Slot) : List Spoken :=
  match parseRequest (s.rx i) with
  | .incomplete => []
  | .reject =>
      .malformed (s.clients i) ::
        (respond prim io s i 400 (ascii "Bad Request") 0 [] []).sent.map Spoken.wrote ++ [.closed]
  | .accept request _ =>
      .asked request (s.clients i) ::
        (handleRequest prim io s i request).sent.map Spoken.wrote ++
          if (requestTurn prim io s i).more then [] else [.closed]

/-- The loop over a receive buffer. -/
def loopSpoken (i : Slot) : ℕ → (ℕ → RequestIo) → RtspServer → List Spoken
  | 0, _, _ => []
  | fuel + 1, io, s =>
      if s.rx i = [] then []
      else
        let r := requestTurn prim (io 0) s i
        requestSpoken prim (io 0) s i ++
          if r.more = false then [] else loopSpoken i fuel (fun k => io (k + 1)) r.server

/-- The client of a slot is read and its requests are handled. A read that is followed
by no requests may close the connection. -/
def clientSpoken (io : PollIo) (s : RtspServer) (i : Slot) : List Spoken :=
  let r := receiveTurn prim s i (io.data i)
  if r.more = false then r.log.map fun _ => .closed
  else loopSpoken prim i (r.server.rx i).length (io.request i) r.server

/-- The loop over the slots, as far as slot `i` is concerned. -/
def slotsSpoken (io : PollIo) (ready : Ready) (i : Slot) : List Slot → RtspServer → List Spoken
  | [], _ => []
  | j :: rest, s =>
      (if j = i ∧ ready.client i = true then clientSpoken prim io (eventTurns io ready s i) i
        else []) ++
        slotsSpoken io ready i rest (slotTurns prim io ready s j).server

/-- What a poll says on the connection of a slot, and whether it then puts a new
connection there. -/
structure PollSpoken where
  said : List Spoken
  accepts : Bool

/-- A ready listener puts a new connection in the slot. -/
def acceptSpoken (s : RtspServer) (i : Slot) : AcceptOffer → Bool
  | .accepted _ _ => freeSlot s = some i
  | .timeout => false
  | .error => false

/-- `rtsp_server_poll`. -/
def pollSpoken (io : PollIo) (i : Slot) (s : RtspServer) : PollSpoken :=
  if s.listener.isOpen = false then ⟨[], false⟩
  else
    match io.wait with
    | .error => ⟨[], false⟩
    | .timeout => ⟨[], false⟩
    | .ready flags =>
        let ready := flags.mask s
        let slots := List.finRange rtspMaxClients
        ⟨slotsSpoken prim io ready i slots s,
          ready.listener && acceptSpoken (pollSlots prim io ready slots s).server i io.accept⟩

/-- The server over its polls, with what is said in a slot. -/
def spokenMachine (i : Slot) : Machine RtspServer PollIo PollSpoken where
  step s io := ((rtspServerPoll prim io s).server, pollSpoken prim io i s)

end Trace

/-- The conversations of the connections in a slot, one after the other. -/
structure Conversations where
  past : List (List Spoken)
  current : List Spoken

/-- One more poll. -/
def Conversations.poll (c : Conversations) (p : PollSpoken) : Conversations :=
  if p.accepts then ⟨c.past ++ [c.current ++ p.said], []⟩ else ⟨c.past, c.current ++ p.said⟩

/-- The conversations in slot `i` during a run of polls. -/
def conversations (prim : Primitives) (i : Slot) (s : RtspServer) (polls : List PollIo) :
    List (List Spoken) :=
  let c := ((spokenMachine prim i).run s polls).2.foldl Conversations.poll ⟨[], []⟩
  c.past ++ [c.current]

/-! ## Exchanges -/

/-- A request with what was written for it, and the status of that. -/
structure Exchange where
  request : RtspRequest
  client : RtspClient
  status : ℕ
  sent : Sent

/-- The exchange on the connection. -/
def Exchange.spoken (e : Exchange) : List Spoken :=
  .asked e.request e.client :: e.sent.map Spoken.wrote

/-- The client answers in the version of the request. -/
def inVersion (client : RtspClient) (request : RtspRequest) : RtspClient :=
  { client with http := decide (request.version = ascii "HTTP/1.1") }

/-- What was written is one response under the number of the request, sealed if the
client was encrypted when the request was parsed. -/
def Exchange.Answered (aead : Aead) (e : Exchange) : Prop :=
  IsResponse aead (inVersion e.client e.request) e.status e.request.cseq e.sent

/-- How a conversation ends after its exchanges: not yet, with the connection, with a
response to a malformed request, or with a response that cannot be sealed. -/
inductive Ending (aead : Aead) : List Spoken → Prop where
  | ongoing : Ending aead []
  | closed : Ending aead [.closed]
  | rejected (client : RtspClient) (sent : Sent) (h : IsResponse aead client 400 0 sent) :
      Ending aead (.malformed client :: sent.map Spoken.wrote ++ [.closed])
  | unsealed (request : RtspRequest) (client : RtspClient) (sent : Sent)
      (h : Unsealable aead client answerRecords) :
      Ending aead (.asked request client :: sent.map Spoken.wrote ++ [.closed])
  | unsealedRejection (client : RtspClient) (sent : Sent)
      (h : Unsealable aead client answerRecords) :
      Ending aead (.malformed client :: sent.map Spoken.wrote ++ [.closed])

/-- The conversation of a client: exchanges before an ending. The connection is open only
while it goes on. -/
structure Told (aead : Aead) (client : RtspClient) (exchanges : List Exchange)
    (ending : List Spoken) : Prop where
  answered : ∀ e ∈ exchanges, e.Answered aead
  ends : Ending aead ending
  ongoing : client.socket.isOpen = true → ending = []
  paired : client.encrypted = true → client.pairing.established = true

/-- What was said so far is a conversation of the client. -/
def Conversed (aead : Aead) (client : RtspClient) (said : List Spoken) : Prop :=
  ∃ exchanges ending, said = exchanges.flatMap Exchange.spoken ++ ending ∧
    Told aead client exchanges ending

section Turns

variable (prim : Primitives) {s : RtspServer} {i : Slot} {said : List Spoken}

/-- Nothing is said yet on a connection that is not encrypted. -/
theorem Conversed.start {aead : Aead} {client : RtspClient} (hplain : client.encrypted = false) :
    Conversed aead client [] := by
  refine ⟨[], [], rfl, fun e he => absurd he List.not_mem_nil, Ending.ongoing, fun _ => rfl, ?_⟩
  intro hencrypted
  exact absurd (hplain.symm.trans hencrypted) (by decide)

/-- A change that leaves open what the conversation depends on. -/
theorem Conversed.client {aead : Aead} {client after : RtspClient}
    (h : Conversed aead client said) (hsocket : after.socket = client.socket)
    (hpaired : after.encrypted = true → after.pairing.established = true) :
    Conversed aead after said := by
  obtain ⟨exchanges, ending, hsaid, htold⟩ := h
  refine ⟨exchanges, ending, hsaid, htold.answered, htold.ends, ?_, hpaired⟩
  rw [hsocket]
  exact htold.ongoing

/-- The connection is closed after some last words. -/
theorem Conversed.close {aead : Aead} {client : RtspClient} (h : Conversed aead client said)
    (hopen : client.socket.isOpen = true) {words : List Spoken} (hending : Ending aead words)
    (s : RtspServer) (i : Slot) :
    Conversed aead ((closeClient s i).clients i) (said ++ words) := by
  obtain ⟨exchanges, ending, hsaid, htold⟩ := h
  rw [closeClient_client]
  refine ⟨exchanges, words, ?_, htold.answered, hending, fun hfalse => Bool.noConfusion hfalse,
    fun hfalse => Bool.noConfusion hfalse⟩
  rw [hsaid, htold.ongoing hopen, List.append_nil]

/-- One more exchange. -/
theorem Conversed.exchange {aead : Aead} {client after : RtspClient}
    (h : Conversed aead client said) (hopen : client.socket.isOpen = true) {e : Exchange}
    (hanswered : e.Answered aead)
    (hpaired : after.encrypted = true → after.pairing.established = true) :
    Conversed aead after (said ++ e.spoken) := by
  obtain ⟨exchanges, ending, hsaid, htold⟩ := h
  refine ⟨exchanges ++ [e], [], ?_, ?_, Ending.ongoing, fun _ => rfl, hpaired⟩
  · rw [hsaid, htold.ongoing hopen, List.append_nil, List.append_nil, List.flatMap_append,
      List.flatMap_singleton]
  · intro e' he'
    rcases List.mem_append.mp he' with hbefore | hnew
    · exact htold.answered e' hbefore
    · rw [List.mem_singleton.mp hnew]
      exact hanswered

theorem Conversed.paired {aead : Aead} {client : RtspClient} (h : Conversed aead client said) :
    client.encrypted = true → client.pairing.established = true := by
  obtain ⟨exchanges, ending, hsaid, htold⟩ := h
  exact htold.paired

/-- Encryption begins only once the pairing is established. -/
theorem handleRequest_paired (request : RtspRequest) (io : RequestIo)
    (hpaired : (s.clients i).encrypted = true → (s.clients i).pairing.established = true) :
    ((handleRequest prim io s i request).server.clients i).encrypted = true →
      ((handleRequest prim io s i request).server.clients i).pairing.established = true := by
  have hclient := (handleRequest_effect prim io s i request).client
  intro hencrypted
  rcases hclient.starts hencrypted with hbefore | hstarted
  · exact (hclient.established (hpaired hbefore)).1
  · exact hstarted

/-- One round of the loop over a receive buffer. -/
theorem requestTurn_conversed {io : RequestIo} (h : Conversed prim.aead (s.clients i) said)
    (hopen : (s.clients i).socket.isOpen = true) (hsends : io.Sends) :
    Conversed prim.aead ((requestTurn prim io s i).server.clients i)
        (said ++ requestSpoken prim io s i) ∧
      ((requestTurn prim io s i).more = true →
        ((requestTurn prim io s i).server.clients i).socket.isOpen = true) := by
  have hcan : CanAnswer io (s.clients i) := ⟨hopen, h.paired, hsends⟩
  rw [requestSpoken]
  cases hparse : parseRequest (s.rx i) with
  | incomplete =>
      rw [requestTurn, hparse, List.append_nil]
      exact ⟨h, fun hfalse => Bool.noConfusion hfalse⟩
  | reject =>
      have hresponds : Responds prim.aead (s.clients i) 0
          (respond prim io s i 400 (ascii "Bad Request") 0 [] []) :=
        respond_responds prim hcan (Or.inr (by decide)) (by decide) 0 (Nat.zero_le _) isHeaders_nil
          (Nat.zero_le _)
      rw [requestTurn, hparse]
      dsimp only
      refine ⟨h.close hopen ?_ _ i, fun hfalse => Bool.noConfusion hfalse⟩
      rcases hresponds with ⟨-, hresponse⟩ | ⟨-, hcannot⟩
      · exact Ending.rejected _ _ hresponse
      · exact Ending.unsealedRejection _ _ hcannot
  | accept request consumed =>
      have hresponds : Responds prim.aead ((withVersion s i request).clients i) request.cseq
          (handleRequest prim io s i request) :=
        handleRequest_responds prim hcan (parseRequest_lined hparse)
      have hversion : (withVersion s i request).clients i = inVersion (s.clients i) request := by
        rw [withVersion, setClient_same]
        rfl
      have hclient := (handleRequest_effect prim io s i request).client
      have hpaired := handleRequest_paired prim request io h.paired
      rw [hversion] at hresponds
      have hturn := requestTurn_accept prim io hparse
      generalize requestTurn prim io s i = turn at hturn ⊢
      dsimp only
      generalize handleRequest prim io s i request = r at hresponds hclient hpaired hturn ⊢
      have hstill : (r.server.clients i).socket.isOpen = true := by
        rw [hclient.socket]
        exact hopen
      -- the answer was sent, or it could not be sealed
      rcases hresponds with ⟨hok, hresponse⟩ | ⟨hfails, hcannot⟩
      · have hnext : Conversed prim.aead (r.server.clients i)
            (said ++ (Exchange.mk request (s.clients i) r.status r.sent).spoken) :=
          h.exchange hopen hresponse hpaired
        rcases hturn with ⟨hfails, -⟩ | ⟨-, rfl⟩ | ⟨-, rfl⟩
        · exact absurd (hok.symm.trans hfails) (by decide)
        · -- data before the encrypted session
          refine ⟨?_, fun hfalse => Bool.noConfusion hfalse⟩
          have hover := hnext.close hstill Ending.closed
            (r.server.setRx i ((r.server.rx i).drop consumed)) i
          rw [List.append_assoc] at hover
          exact hover
        · refine ⟨?_, fun _ => hstill⟩
          rw [if_pos rfl, List.append_nil]
          exact hnext
      · have hunsealable : Unsealable prim.aead (s.clients i) answerRecords := hcannot
        rcases hturn with ⟨-, rfl⟩ | ⟨hok, -⟩ | ⟨hok, -⟩
        · exact ⟨h.close hopen (Ending.unsealed request _ _ hunsealable) _ i,
            fun hfalse => Bool.noConfusion hfalse⟩
        · exact absurd (hok.symm.trans hfails) (by decide)
        · exact absurd (hok.symm.trans hfails) (by decide)

/-- The loop over a receive buffer. -/
theorem requestLoop_conversed (fuel : ℕ) :
    ∀ (io : ℕ → RequestIo) (s : RtspServer) (said : List Spoken), (∀ k, (io k).Sends) →
      Conversed prim.aead (s.clients i) said → (s.clients i).socket.isOpen = true →
      Conversed prim.aead ((requestLoop prim i fuel io s).server.clients i)
        (said ++ loopSpoken prim i fuel io s) := by
  induction fuel with
  | zero =>
      intro io s said hsends h hopen
      rw [requestLoop, loopSpoken, List.append_nil]
      exact h
  | succ fuel ih =>
      intro io s said hsends h hopen
      obtain ⟨hnext, hlive⟩ := requestTurn_conversed prim h hopen (hsends 0)
      rw [requestLoop, loopSpoken]
      by_cases hempty : s.rx i = []
      · rw [if_pos hempty, if_pos hempty, List.append_nil]
        exact h
      · rw [if_neg hempty, if_neg hempty]
        dsimp only
        by_cases hmore : (requestTurn prim (io 0) s i).more = false
        · rw [if_pos hmore, if_pos hmore, List.append_nil]
          exact hnext
        · rw [if_neg hmore, if_neg hmore, ← List.append_assoc]
          rw [Bool.not_eq_false] at hmore
          exact ih _ _ _ (fun k => hsends (k + 1)) hnext (hlive hmore)

/-- The client is read and its requests are handled. -/
theorem clientTurns_conversed {io : PollIo} (h : Conversed prim.aead (s.clients i) said)
    (hopen : (s.clients i).socket.isOpen = true) (hsends : ∀ k, (io.request i k).Sends) :
    Conversed prim.aead ((clientTurns prim io s i).server.clients i)
      (said ++ clientSpoken prim io s i) := by
  have hstep := receiveClient_step prim.aead (s.clients i) (rtspRxBufferSize - (s.rx i).length)
    (io.data i)
  -- reading answers nothing
  have hread : ∀ r : RtspClient × RecvResult, ReceiveStep (s.clients i) r.1 →
      Conversed prim.aead ((s.setClient i r.1).clients i) said := by
    intro r hr
    rw [setClient_same]
    refine h.client hr.socket fun hencrypted => ?_
    rw [hr.established]
    exact h.paired (hr.encrypted.symm.trans hencrypted)
  rw [clientTurns, clientSpoken, receiveTurn]
  generalize receiveClient prim.aead (s.clients i) (rtspRxBufferSize - (s.rx i).length)
    (io.data i) = r at hstep ⊢
  have hlive : ((s.setClient i r.1).clients i).socket.isOpen = true := by
    rw [setClient_same, hstep.socket]
    exact hopen
  have hclosed := (hread r hstep).close hlive Ending.closed (s.setClient i r.1) i
  cases hresult : r.2 with
  | timeout =>
      dsimp only
      rw [if_pos rfl, if_pos rfl]
      show Conversed prim.aead ((s.setClient i r.1).clients i) (said ++ [])
      rw [List.append_nil]
      exact hread r hstep
  | error => exact hclosed
  | bytes data =>
      cases data with
      | nil => exact hclosed
      | cons b data =>
          dsimp only
          rw [if_neg (by decide), if_neg (by decide)]
          exact requestLoop_conversed prim _ _ _ said hsends (hread r hstep) hlive

/-- The loop over the slots comes to slot `i` at most once. -/
theorem pollSlots_conversed {io : PollIo} (hsends : ∀ k, (io.request i k).Sends) (ready : Ready)
    (slots : List Slot) :
    ∀ (s : RtspServer) (said : List Spoken), slots.Nodup →
      (i ∈ slots → ready.client i = true → (s.clients i).socket.isOpen = true) →
      Conversed prim.aead (s.clients i) said →
      Conversed prim.aead ((pollSlots prim io ready slots s).server.clients i)
        (said ++ slotsSpoken prim io ready i slots s) := by
  induction slots with
  | nil =>
      intro s said hnodup hopen h
      rw [pollSlots, slotsSpoken, List.append_nil]
      exact h
  | cons j rest ih =>
      intro s said hnodup hopen h
      obtain ⟨hfresh, hrest⟩ := List.nodup_cons.mp hnodup
      -- the slot of the connection has its turn, or another slot has
      have hnext : Conversed prim.aead ((slotTurns prim io ready s j).server.clients i)
          (said ++ (if j = i ∧ ready.client i = true then
            clientSpoken prim io (eventTurns io ready s i) i else [])) := by
        by_cases hslot : j = i
        · subst hslot
          obtain ⟨socket, hclient, -⟩ := eventTurns_client io ready s j
          have hevent : Conversed prim.aead ((eventTurns io ready s j).clients j) said := by
            rw [hclient]
            exact h.client rfl h.paired
          rw [slotTurns]
          by_cases hready : ready.client j = true
          · have hlive : ((eventTurns io ready s j).clients j).socket.isOpen = true := by
              rw [hclient]
              exact hopen (List.mem_cons_self ..) hready
            have hgoes : ¬ ready.client j = false := by
              rw [hready]
              decide
            have hboth : j = j ∧ ready.client j = true := ⟨rfl, hready⟩
            rw [if_neg hgoes, if_pos hboth]
            exact clientTurns_conversed prim hevent hlive hsends
          · have hnone : ¬ (j = j ∧ ready.client j = true) := fun hboth => hready hboth.2
            rw [if_neg hnone, List.append_nil]
            rw [Bool.not_eq_true] at hready
            rw [if_pos hready]
            exact hevent
        · have hother := (slotTurns_only prim io ready s j).clients i (fun hsame => hslot hsame.symm)
          rw [if_neg (fun hboth => hslot hboth.1), List.append_nil, hother]
          exact h
      -- slots differ, so the connection is still open when its turn comes
      have hlive : i ∈ rest → ready.client i = true →
          ((slotTurns prim io ready s j).server.clients i).socket.isOpen = true := by
        intro hmem hready
        have hslot : i ≠ j := fun hsame => hfresh (hsame ▸ hmem)
        rw [(slotTurns_only prim io ready s j).clients i hslot]
        exact hopen (List.mem_cons_of_mem _ hmem) hready
      rw [pollSlots, slotsSpoken, ← List.append_assoc]
      exact ih _ _ hrest hlive hnext

end Turns

/-! ## Main result -/

/-- What was said in a slot, against its client. -/
structure Recorded (aead : Aead) (client : RtspClient) (c : Conversations) : Prop where
  past : ∀ said ∈ c.past, ∃ gone, Conversed aead gone said
  current : Conversed aead client c.current

section Polls

variable (prim : Primitives) {i : Slot}

theorem initial_recorded (listener : NetSocket) (localIp localMacHex deviceName : CString) :
    Recorded prim.aead
      ((RtspServer.initial listener localIp localMacHex deviceName).clients i) ⟨[], []⟩ where
  past _ hsaid := absurd hsaid List.not_mem_nil
  current := Conversed.start rfl

/-- A poll in which nothing was said. -/
theorem Conversations.poll_quiet (c : Conversations) : c.poll ⟨[], false⟩ = c := by
  rw [Conversations.poll, if_neg Bool.false_ne_true]
  dsimp only
  rw [List.append_nil]

/-- A new connection in the slot begins a conversation of its own. -/
theorem Recorded.renew {aead : Aead} {client gone after : RtspClient} {c : Conversations}
    {said : List Spoken} (h : Recorded aead client c)
    (hsaid : Conversed aead gone (c.current ++ said)) (hplain : after.encrypted = false) :
    Recorded aead after (c.poll ⟨said, true⟩) := by
  rw [Conversations.poll, if_pos rfl]
  refine ⟨fun earlier hearlier => ?_, Conversed.start hplain⟩
  rcases List.mem_append.mp hearlier with hbefore | hlast
  · exact h.past earlier hbefore
  · rw [List.mem_singleton.mp hlast]
    exact ⟨gone, hsaid⟩

/-- A poll says more, and then there may be a new connection. -/
theorem Recorded.poll {s : RtspServer} {io : PollIo} {c : Conversations}
    (h : Recorded prim.aead (s.clients i) c) (hsends : ∀ k, (io.request i k).Sends) :
    Recorded prim.aead ((rtspServerPoll prim io s).server.clients i)
      (c.poll (pollSpoken prim io i s)) := by
  -- a poll that goes over no slot adds nothing
  rw [rtspServerPoll, pollSpoken]
  split
  · rw [c.poll_quiet]
    exact h
  · cases io.wait with
    | error =>
        dsimp only
        rw [c.poll_quiet]
        exact h
    | timeout =>
        dsimp only
        rw [c.poll_quiet]
        exact h
    | ready flags =>
        dsimp only
        have hopen : i ∈ List.finRange rtspMaxClients → (flags.mask s).client i = true →
            (s.clients i).socket.isOpen = true := by
          intro _ hready
          rw [Ready.mask, Bool.and_eq_true] at hready
          exact hready.2
        have hslots := pollSlots_conversed prim hsends (flags.mask s) (List.finRange rtspMaxClients)
          s c.current (List.nodup_finRange _) hopen h.current
        generalize pollSlots prim io (flags.mask s) (List.finRange rtspMaxClients) s = turn
          at hslots ⊢
        have hkept : Recorded prim.aead (turn.server.clients i) (c.poll
            ⟨slotsSpoken prim io (flags.mask s) i (List.finRange rtspMaxClients) s, false⟩) := by
          rw [Conversations.poll, if_neg Bool.false_ne_true]
          exact ⟨h.past, hslots⟩
        cases hlistener : (flags.mask s).listener with
        | false => exact hkept
        | true =>
            rw [if_neg (by decide), Bool.true_and, acceptTurn.eq_def, acceptSpoken.eq_def]
            cases io.accept with
            | timeout => exact hkept
            | error => exact hkept
            | accepted handle peer =>
                dsimp only
                cases hfree : freeSlot turn.server with
                | none => exact hkept
                | some j =>
                    dsimp only
                    -- the slot is taken anew, or another one is
                    by_cases hslot : j = i
                    · subst hslot
                      rw [decide_eq_true rfl]
                      apply h.renew hslots
                      rw [installClient, setRx_clients, setClient_same]
                      rfl
                    · have hother : (installClient turn.server j handle peer).clients i =
                          turn.server.clients i := by
                        rw [installClient, setRx_clients,
                          setClient_other _ _ _ _ (fun hsame => hslot hsame.symm)]
                      rw [decide_eq_false (fun hsame => hslot (Option.some.inj hsame)), hother]
                      exact hkept

end Polls

/-- **One response for each request.** In every run of the server over its polls, where
the network takes what is sent in a slot, each conversation in the slot is a sequence of
requests, each followed by one response under its number, before an ending: what was written
is read as that one response, whatever is written next (`IsResponse`). A connection
that is rejected gets one response with status 400 and number 0, and a connection whose
response cannot be sealed is closed. A response is in plaintext if the client was not
encrypted when the request was parsed, and sealed otherwise. -/
theorem one_response_per_request (prim : Primitives) (listener : NetSocket)
    (localIp localMacHex deviceName : CString) (i : Slot) (polls : List PollIo)
    (hsends : ∀ io ∈ polls, ∀ k, (io.request i k).Sends) :
    ∀ c ∈ conversations prim i (RtspServer.initial listener localIp localMacHex deviceName) polls,
      ∃ (exchanges : List Exchange) (ending : List Spoken),
        c = exchanges.flatMap Exchange.spoken ++ ending ∧
        (∀ e ∈ exchanges, e.Answered prim.aead) ∧ Ending prim.aead ending := by
  have hguarded : (spokenMachine prim i).Guarded (fun _ io => ∀ k, (io.request i k).Sends)
      (RtspServer.initial listener localIp localMacHex deviceName) polls :=
    (spokenMachine prim i).guarded_of_forall polls _ fun io hio _ => hsends io hio
  have hstep : ∀ (s : RtspServer) (outputs : List PollSpoken) (io : PollIo),
      Recorded prim.aead (s.clients i) (outputs.foldl Conversations.poll ⟨[], []⟩) →
      (∀ k, (io.request i k).Sends) →
      Recorded prim.aead (((spokenMachine prim i).step s io).1.clients i)
        ((outputs ++ [((spokenMachine prim i).step s io).2]).foldl Conversations.poll ⟨[], []⟩) := by
    intro s outputs io h hio
    rw [List.foldl_append]
    exact h.poll prim hio
  have hrun := (spokenMachine prim i).run_guarded_invariant
    (fun s outputs => Recorded prim.aead (s.clients i) (outputs.foldl Conversations.poll ⟨[], []⟩))
    hstep polls _ [] (initial_recorded prim listener localIp localMacHex deviceName) hguarded
  intro c hc
  rw [conversations] at hc
  rw [List.nil_append] at hrun
  have hconversed : ∃ gone, Conversed prim.aead gone c := by
    rcases List.mem_append.mp hc with hpast | hcurrent
    · exact hrun.past c hpast
    · rw [List.mem_singleton.mp hcurrent]
      exact ⟨_, hrun.current⟩
  obtain ⟨gone, exchanges, ending, hsaid, htold⟩ := hconversed
  exact ⟨exchanges, ending, hsaid, htold.answered, htold.ends⟩

/-- `PLAY * RTSP/1.0` and a line that is no request. -/
def playPolls : List PollIo :=
  [connect, deliver (ascii "PLAY * RTSP/1.0\r\nCSeq: 7\r\n\r\nX\r\n\r\n")]

/-- The bytes of a buffer that was written. -/
def Spoken.bytes : Spoken → List UInt8
  | .asked _ _ => []
  | .malformed _ => []
  | .wrote data => data
  | .closed => []

/-- What is written to the client. -/
def playBytes : List UInt8 :=
  (conversations idlePrimitives firstSlot (RtspServer.initial ⟨some 1, 5000⟩ [] [] [])
    playPolls).flatten.flatMap Spoken.bytes

/-- The answer to the request, under its number, and the rejection. -/
theorem one_response_play :
    (readResponse playBytes).map (fun first => (first.1, readResponse first.2)) =
        some (⟨ascii "RTSP/1.0", 200, 7, []⟩, some (⟨ascii "RTSP/1.0", 400, 0, []⟩, [])) ∧
      ∀ c ∈ conversations idlePrimitives firstSlot (RtspServer.initial ⟨some 1, 5000⟩ [] [] [])
          playPolls,
        ∃ (exchanges : List Exchange) (ending : List Spoken),
          c = exchanges.flatMap Exchange.spoken ++ ending ∧
            (∀ e ∈ exchanges, e.Answered idlePrimitives.aead) ∧
            Ending idlePrimitives.aead ending := by
  refine ⟨by decide +kernel, ?_⟩
  apply one_response_per_request idlePrimitives ⟨some 1, 5000⟩ [] [] [] firstSlot playPolls
  intro io hio k
  simp only [playPolls, List.mem_cons, List.not_mem_nil, or_false] at hio
  rcases hio with rfl | rfl
  · rfl
  · rfl

end PortableAirplay.Protocol
