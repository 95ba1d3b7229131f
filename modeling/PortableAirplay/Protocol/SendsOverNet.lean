import PortableAirplay.Platform.PosixNet
import PortableAirplay.Protocol.RtspState

/-!
# Responses over a socket that takes a part at a time

`rtsp_send_response` and `send_client` once more, over the loop of `net_tcp_send_all`: here a
send leaves on the stream what the system took of its buffer. `RequestIo` counts the sends that
succeed instead. `postResponse_refines` says that this is all there is to know: the stream has
the buffers that were sent, and where a send failed a part of the next one, and nothing else.
-/

set_option autoImplicit false

namespace PortableAirplay.Protocol

open PortableAirplay.Airplay
open PortableAirplay.Library
open PortableAirplay.Platform

/-! ## Sends -/

/-- What the system does in a call of `net_tcp_send_all`. -/
structure SendCall where
  start : ℕ
  turns : List Posix.SendIo

/-- The call of `send_client`, with its timeout of a second. -/
def SendCall.run (call : SendCall) (socket : NetSocket) (data : List UInt8) :
    Transferred UInt8 ℕ Posix.NetFailure :=
  Posix.netTcpSendAll socket 1000 call.start data call.turns

/-- `net_tcp_send_all` returned 0. -/
def SendCall.sends (call : SendCall) (socket : NetSocket) (data : List UInt8) : Bool :=
  socket.isOpen && (call.run socket data).left.isEmpty

/-- The outcome of sends: the client, the bytes on the stream, how many calls succeeded so far,
whether one failed, and success. -/
structure Posted where
  client : RtspClient
  wire : List UInt8
  calls : ℕ
  cut : Bool
  ok : Bool

/-- A buffer is sent, and `next` is what follows. -/
def post (system : ℕ → SendCall) (client : RtspClient) (calls : ℕ) (data : List UInt8)
    (next : Posted) : Posted :=
  let r := (system calls).run client.socket data
  if (system calls).sends client.socket data then { next with wire := r.accepted ++ next.wire }
  else ⟨client, r.accepted, calls, true, false⟩

/-- The loop of `send_client` over the records of an encrypted client. -/
def postRecords (prim : Primitives) (system : ℕ → SendCall) (client : RtspClient) (calls : ℕ) :
    List (List UInt8) → Posted
  | [] => ⟨client, [], calls, false, true⟩
  | chunk :: rest =>
      match pairingSeal prim.aead client.pairing chunk with
      | (pairing, none) => ⟨{ client with pairing := pairing }, [], calls, false, false⟩
      | (pairing, some record) =>
          let client := { client with pairing := pairing }
          post system client calls record (postRecords prim system client (calls + 1) rest)

/-- `send_client`. -/
def postClient (prim : Primitives) (system : ℕ → SendCall) (client : RtspClient) (calls : ℕ)
    (data : List UInt8) : Posted :=
  if client.encrypted = false then
    post system client calls data ⟨client, [], calls + 1, false, true⟩
  else postRecords prim system client calls (recordChunks (data.length + 1) data)

/-- `rtsp_send_response`. -/
def postResponse (prim : Primitives) (system : ℕ → SendCall) (client : RtspClient)
    (status : ℕ) (statusText : CString) (cseq : UInt32) (extraHeaders : CString)
    (body : List UInt8) : Posted :=
  let head := responseHead client status statusText cseq extraHeaders
  let line := contentLengthLine client body
  if head.length ≥ responseMax ∨ (line ≠ [] ∧ line.length ≥ responseMax - head.length) ∨
      head.length + line.length + 2 > responseMax then ⟨client, [], 0, false, false⟩
  else
    let r := postClient prim system client 0 (head ++ line ++ ascii "\r\n")
    if r.ok = false then r
    else if body = [] then r
    else
      let after := postClient prim system r.client r.calls body
      { after with wire := r.wire ++ after.wire }

/-! ## What the sends are in the model of the server -/

/-- The limit says which call fails, if one does. -/
def Limits (io : RequestIo) (posted : Posted) : Prop :=
  match io.sendLimit with
  | none => posted.cut = false
  | some limit => if posted.cut then limit = posted.calls else posted.calls ≤ limit

/-- Every send succeeds. -/
def RequestIo.unlimited (io : RequestIo) : RequestIo := { io with sendLimit := none }

/-- The stream holds the buffers `sent`, which are the first of `full`, and of the next one a
part. -/
def StreamHolds (sent full : Sent) (wire : List UInt8) : Prop :=
  ∃ rest part, full = sent ++ rest ∧ wire = sent.flatten ++ part ∧ part <+: rest.headD []

/-- All buffers are there. -/
theorem StreamHolds.all (sent : Sent) : StreamHolds sent sent sent.flatten :=
  ⟨[], [], (List.append_nil sent).symm, (List.append_nil _).symm, List.nil_prefix⟩

/-- More buffers were to follow. -/
theorem StreamHolds.extend {sent full more : Sent} {wire : List UInt8}
    (h : StreamHolds sent full wire) (hmore : full <+: more) : StreamHolds sent more wire := by
  obtain ⟨rest, part, rfl, hwire, hpart⟩ := h
  obtain ⟨later, rfl⟩ := hmore
  refine ⟨rest ++ later, part, List.append_assoc _ _ _, hwire, ?_⟩
  cases rest with
  | nil =>
      rw [List.prefix_nil.mp hpart]
      exact List.nil_prefix
  | cons next rest => exact hpart

/-- What the stream holds is a beginning of the whole. -/
theorem StreamHolds.within {sent full : Sent} {wire : List UInt8}
    (h : StreamHolds sent full wire) : wire <+: full.flatten := by
  obtain ⟨rest, part, rfl, rfl, hpart⟩ := h
  rw [List.flatten_append, List.prefix_append_right_inj]
  cases rest with
  | nil => exact hpart
  | cons next rest =>
      rw [List.flatten_cons]
      exact hpart.trans (List.prefix_append next _)

/-- What sends leave, beside what the server's model says of them: `sent` and `full` are its
buffers, under the limit and without one. -/
structure Posts (before : Sent) (posted : Posted) (r full : SendResult) : Prop where
  client : r.client = posted.client
  ok : r.ok = posted.ok
  calls : r.sent.length = posted.calls
  holds : StreamHolds r.sent full.sent (before.flatten ++ posted.wire)
  whole : posted.cut = false → r.sent.flatten = before.flatten ++ posted.wire
  same : posted.ok = true → full = r

theorem SendCall.accepted (call : SendCall) (socket : NetSocket) (data : List UInt8) :
    (call.run socket data).accepted <+: data :=
  ⟨_, Posix.netTcpSendAll_accepted socket 1000 call.start data call.turns⟩

theorem SendCall.accepted_all {call : SendCall} {socket : NetSocket} {data : List UInt8}
    (h : call.sends socket data = true) : (call.run socket data).accepted = data := by
  have hbuffer := Posix.netTcpSendAll_accepted socket 1000 call.start data call.turns
  rw [sends, Bool.and_eq_true, List.isEmpty_iff] at h
  rw [run] at h ⊢
  rw [h.2, List.append_nil] at hbuffer
  exact hbuffer

theorem SendCall.accepted_closed {call : SendCall} {socket : NetSocket} {data : List UInt8}
    (h : socket.isOpen = false) : (call.run socket data).accepted = [] := by
  rw [run, Posix.netTcpSendAll, if_pos (Or.inl h)]

/-- A limit that is not reached. -/
theorem netTcpSendAll_some {io : RequestIo} {socket : NetSocket} {before : Sent}
    (data : List UInt8) (hopen : socket.isOpen = true)
    (hlimit : ∀ limit, io.sendLimit = some limit → before.length < limit) :
    netTcpSendAll io socket before data = some (before ++ [data]) := by
  rw [netTcpSendAll, if_neg (Bool.not_eq_false _ ▸ hopen)]
  cases hio : io.sendLimit with
  | none => rfl
  | some limit => exact if_pos (hlimit limit hio)

/-- A limit that is reached. -/
theorem netTcpSendAll_limit {io : RequestIo} {before : Sent} (socket : NetSocket)
    (data : List UInt8) (hlimit : io.sendLimit = some before.length) :
    netTcpSendAll io socket before data = none := by
  rw [netTcpSendAll]
  split
  · rfl
  · rw [hlimit]
    exact if_neg (Nat.lt_irrefl _)

/-- A buffer is sent in the model of the server. -/
def sendNext (io : RequestIo) (client : RtspClient) (before : Sent) (data : List UInt8)
    (next : Sent → SendResult) : SendResult :=
  match netTcpSendAll io client.socket before data with
  | none => ⟨client, before, false⟩
  | some sent => next sent

theorem netTcpSendAll_sent {io : RequestIo} {socket : NetSocket} {before sent : Sent}
    {data : List UInt8} (h : netTcpSendAll io socket before data = some sent) :
    sent = before ++ [data] := by
  rw [netTcpSendAll] at h
  split at h
  · contradiction
  · split at h
    · exact (Option.some.inj h).symm
    · split at h
      · exact (Option.some.inj h).symm
      · contradiction

theorem sendNext_extends {io : RequestIo} {client : RtspClient} {before : Sent}
    {data : List UInt8} {next : Sent → SendResult}
    (hnext : before ++ [data] <+: (next (before ++ [data])).sent) :
    before <+: (sendNext io client before data next).sent := by
  rw [sendNext]
  split
  · exact List.prefix_refl _
  · rename_i sent hsent
    rw [netTcpSendAll_sent hsent]
    exact (List.prefix_append _ _).trans hnext

section Posts

variable {io : RequestIo} {system : ℕ → SendCall} {client : RtspClient} {before : Sent}
  {data : List UInt8} {posted : Posted} {next fullNext : Sent → SendResult}

/-- **A buffer that is sent**, before what follows. -/
theorem post_posts (hgrows : before.length < posted.calls)
    (hlimits : Limits io (post system client before.length data posted))
    (hnext : Limits io posted →
      Posts (before ++ [data]) posted (next (before ++ [data])) (fullNext (before ++ [data])))
    (hfull : before ++ [data] <+: (fullNext (before ++ [data])).sent) :
    Posts before (post system client before.length data posted)
      (sendNext io client before data next)
      (sendNext io.unlimited client before data fullNext) := by
  have hflat : (before ++ [data]).flatten = before.flatten ++ data := by
    rw [List.flatten_append, List.flatten_singleton]
  have hunlimited : client.socket.isOpen = true →
      sendNext io.unlimited client before data fullNext = fullNext (before ++ [data]) := by
    intro hopen
    rw [sendNext, netTcpSendAll_some data hopen (fun limit hlimit => by contradiction)]
  rw [post] at hlimits ⊢
  by_cases hsends : (system before.length).sends client.socket data = true
  · rw [if_pos hsends] at hlimits ⊢
    have hopen := (Bool.and_eq_true_iff.mp hsends).1
    have hall := SendCall.accepted_all hsends
    have hposts := hnext hlimits
    have hbelow : ∀ limit, io.sendLimit = some limit → before.length < limit := by
      intro limit hlimit
      rw [Limits, hlimit] at hlimits
      dsimp only at hlimits
      split at hlimits
      · omega
      · omega
    rw [sendNext, netTcpSendAll_some data hopen hbelow, hunlimited hopen, hall]
    refine ⟨hposts.client, hposts.ok, hposts.calls, ?_, fun hcut => ?_, hposts.same⟩
    · rw [← List.append_assoc, ← hflat]
      exact hposts.holds
    · rw [← List.append_assoc, ← hflat]
      exact hposts.whole hcut
  · rw [if_neg hsends] at hlimits ⊢
    have hlimit : io.sendLimit = some before.length := by
      rw [Limits] at hlimits
      cases hio : io.sendLimit with
      | none =>
          rw [hio] at hlimits
          contradiction
      | some limit =>
          rw [hio] at hlimits
          exact congrArg some hlimits
    rw [sendNext, netTcpSendAll_limit client.socket data hlimit]
    refine ⟨rfl, rfl, rfl, ?_, fun hcut => by contradiction, fun hok => by contradiction⟩
    by_cases hopen : client.socket.isOpen = true
    · -- the buffer of the call that failed is the next one
      rw [hunlimited hopen]
      have hnow : StreamHolds before (before ++ [data])
          (before.flatten ++ ((system before.length).run client.socket data).accepted) :=
        ⟨[data], _, rfl, rfl, (system before.length).accepted client.socket data⟩
      exact hnow.extend hfull
    · rw [Bool.not_eq_true] at hopen
      rw [SendCall.accepted_closed hopen, List.append_nil, sendNext, netTcpSendAll, if_pos hopen]
      exact StreamHolds.all before

end Posts

section Responses

variable (prim : Primitives) (io : RequestIo) (system : ℕ → SendCall)

theorem sendRecords_cons (client : RtspClient) (before : Sent) (chunk : List UInt8)
    (rest : List (List UInt8)) :
    sendRecords prim io client before (chunk :: rest) =
      match pairingSeal prim.aead client.pairing chunk with
      | (pairing, none) => ⟨{ client with pairing := pairing }, before, false⟩
      | (pairing, some record) =>
          sendNext io { client with pairing := pairing } before record fun sent =>
            sendRecords prim io { client with pairing := pairing } sent rest := rfl

theorem sendClient_eq (client : RtspClient) (before : Sent) (data : List UInt8) :
    sendClient prim io client before data =
      if client.encrypted = false then
        sendNext io client before data fun sent => ⟨client, sent, true⟩
      else sendRecords prim io client before (recordChunks (data.length + 1) data) := rfl

/-- What was sent before stays. -/
theorem sendRecords_extends (chunks : List (List UInt8)) :
    ∀ (client : RtspClient) (before : Sent),
      before <+: (sendRecords prim io client before chunks).sent := by
  induction chunks with
  | nil => exact fun _ _ => List.prefix_refl _
  | cons chunk rest ih =>
      intro client before
      rw [sendRecords_cons]
      generalize pairingSeal prim.aead client.pairing chunk = outcome
      obtain ⟨pairing, record⟩ := outcome
      cases record with
      | none => exact List.prefix_refl _
      | some record => exact sendNext_extends (ih _ _)

theorem sendClient_extends (client : RtspClient) (before : Sent) (data : List UInt8) :
    before <+: (sendClient prim io client before data).sent := by
  rw [sendClient_eq]
  split
  · exact sendNext_extends (List.prefix_refl _)
  · exact sendRecords_extends prim io _ client before

theorem post_calls {client : RtspClient} {calls : ℕ} {data : List UInt8} {posted : Posted}
    (h : calls ≤ posted.calls) : calls ≤ (post system client calls data posted).calls := by
  rw [post]
  split
  · exact h
  · exact le_rfl

theorem postRecords_calls (chunks : List (List UInt8)) :
    ∀ (client : RtspClient) (calls : ℕ),
      calls ≤ (postRecords prim system client calls chunks).calls := by
  induction chunks with
  | nil => exact fun _ _ => le_rfl
  | cons chunk rest ih =>
      intro client calls
      rw [postRecords]
      split
      · exact le_rfl
      · exact post_calls system (Nat.le_of_succ_le (ih _ (calls + 1)))

theorem postClient_calls (client : RtspClient) (calls : ℕ) (data : List UInt8) :
    calls ≤ (postClient prim system client calls data).calls := by
  rw [postClient]
  split
  · exact post_calls system (Nat.le_succ calls)
  · exact postRecords_calls prim system _ client calls

/-- What succeeds is not cut. -/
theorem post_ok {client : RtspClient} {calls : ℕ} {data : List UInt8} {posted : Posted}
    (hposted : posted.ok = true → posted.cut = false)
    (h : (post system client calls data posted).ok = true) :
    (post system client calls data posted).cut = false := by
  rw [post] at h ⊢
  split at h
  · rename_i hsends
    rw [if_pos hsends]
    exact hposted h
  · contradiction

theorem postRecords_ok (chunks : List (List UInt8)) :
    ∀ (client : RtspClient) (calls : ℕ),
      (postRecords prim system client calls chunks).ok = true →
        (postRecords prim system client calls chunks).cut = false := by
  induction chunks with
  | nil => exact fun _ _ _ => rfl
  | cons chunk rest ih =>
      intro client calls
      rw [postRecords]
      split
      · exact fun _ => rfl
      · exact post_ok system (ih _ (calls + 1))

theorem postClient_ok (client : RtspClient) (calls : ℕ) (data : List UInt8)
    (h : (postClient prim system client calls data).ok = true) :
    (postClient prim system client calls data).cut = false := by
  rw [postClient] at h ⊢
  split at h
  · rename_i hplain
    rw [if_pos hplain]
    exact post_ok system (fun _ => rfl) h
  · rename_i hsealed
    rw [if_neg hsealed]
    exact postRecords_ok prim system _ client calls h

variable {io}

theorem postRecords_posts (chunks : List (List UInt8)) :
    ∀ (client : RtspClient) (before : Sent),
      Limits io (postRecords prim system client before.length chunks) →
      Posts before (postRecords prim system client before.length chunks)
        (sendRecords prim io client before chunks)
        (sendRecords prim io.unlimited client before chunks) := by
  induction chunks with
  | nil =>
      intro client before _
      rw [postRecords]
      refine ⟨rfl, rfl, rfl, ?_, fun _ => (List.append_nil _).symm, fun _ => rfl⟩
      rw [List.append_nil]
      exact StreamHolds.all before
  | cons chunk rest ih =>
      intro client before hlimits
      rw [postRecords] at hlimits ⊢
      rw [sendRecords_cons, sendRecords_cons]
      generalize pairingSeal prim.aead client.pairing chunk = outcome at hlimits ⊢
      obtain ⟨pairing, record⟩ := outcome
      cases record with
      | none =>
          dsimp only
          refine ⟨rfl, rfl, rfl, ?_, fun _ => (List.append_nil _).symm,
            fun hok => by contradiction⟩
          rw [List.append_nil]
          exact StreamHolds.all before
      | some record =>
          have hlength : (before ++ [record]).length = before.length + 1 := List.length_append
          apply post_posts
          · exact postRecords_calls prim system rest _ (before.length + 1)
          · exact hlimits
          · rw [← hlength]
            exact ih _ _
          · exact sendRecords_extends prim io.unlimited rest _ _

theorem postClient_posts (client : RtspClient) (before : Sent) (data : List UInt8)
    (hlimits : Limits io (postClient prim system client before.length data)) :
    Posts before (postClient prim system client before.length data)
      (sendClient prim io client before data)
      (sendClient prim io.unlimited client before data) := by
  rw [postClient] at hlimits ⊢
  rw [sendClient_eq, sendClient_eq]
  by_cases hplain : client.encrypted = false
  · rw [if_pos hplain] at hlimits
    rw [if_pos hplain, if_pos hplain, if_pos hplain]
    have hlength : (before ++ [data]).length = before.length + 1 := List.length_append
    apply post_posts
    · exact Nat.lt_succ_self _
    · exact hlimits
    · intro _
      refine ⟨rfl, rfl, hlength, ?_, fun _ => (List.append_nil _).symm, fun _ => rfl⟩
      rw [List.append_nil]
      exact StreamHolds.all (before ++ [data])
    · exact List.prefix_refl _
  · rw [if_neg hplain] at hlimits
    rw [if_neg hplain, if_neg hplain, if_neg hplain]
    exact postRecords_posts prim system _ client before hlimits

/-- A limit for two outcomes of which the second goes on from the first. -/
theorem Limits.first {first after : Posted} (hcut : first.cut = false)
    (hcalls : first.calls ≤ after.calls) (h : Limits io after) : Limits io first := by
  rw [Limits] at h ⊢
  cases hio : io.sendLimit with
  | none => exact hcut
  | some limit =>
      rw [hio] at h
      dsimp only at h ⊢
      rw [hcut, if_neg Bool.noConfusion]
      cases hafter : after.cut with
      | true =>
          rw [hafter, if_pos rfl] at h
          exact hcalls.trans h.ge
      | false =>
          rw [hafter, if_neg Bool.noConfusion] at h
          exact hcalls.trans h

/-- The limit of an outcome. -/
theorem limits_posted (io : RequestIo) (posted : Posted) :
    Limits { io with sendLimit := if posted.cut then some posted.calls else none } posted := by
  rw [Limits]
  cases hcut : posted.cut with
  | true => rfl
  | false => rfl

/-- Sends that go on from sends that were whole. -/
theorem Posts.append {first after : Posted} {r full r' full' : SendResult}
    (h : Posts [] first r full) (hcut : first.cut = false) (h' : Posts r.sent after r' full') :
    Posts [] { after with wire := first.wire ++ after.wire } r' full' := by
  have hwhole : r.sent.flatten = first.wire := h.whole hcut
  refine ⟨h'.client, h'.ok, h'.calls, ?_, fun hafter => ?_, h'.same⟩
  · have hholds := h'.holds
    rw [hwhole] at hholds
    exact hholds
  · have hall := h'.whole hafter
    rw [hwhole] at hall
    exact hall

/-- **A response and what the stream has of it.** -/
theorem postResponse_posts (client : RtspClient) (status : ℕ) (statusText : CString)
    (cseq : UInt32) (extraHeaders : CString) (body : List UInt8)
    (hlimits : Limits io
      (postResponse prim system client status statusText cseq extraHeaders body)) :
    Posts [] (postResponse prim system client status statusText cseq extraHeaders body)
      (rtspSendResponse prim io client status statusText cseq extraHeaders body)
      (rtspSendResponse prim io.unlimited client status statusText cseq extraHeaders body) := by
  rw [postResponse] at hlimits ⊢
  rw [rtspSendResponse, rtspSendResponse]
  dsimp only at hlimits ⊢
  split
  · exact ⟨rfl, rfl, rfl, StreamHolds.all [], fun _ => rfl, fun hok => by contradiction⟩
  · rename_i hfits
    rw [if_neg hfits] at hlimits
    generalize responseHead client status statusText cseq extraHeaders ++
      contentLengthLine client body ++ ascii "\r\n" = head at hlimits ⊢
    have hhead := @postClient_posts prim io system client [] head
    have hwhole := postClient_ok prim system client 0 head
    rw [List.length_nil] at hhead
    generalize postClient prim system client 0 head = first at hlimits hhead hwhole ⊢
    by_cases hok : first.ok = false
    · rw [if_pos hok] at hlimits ⊢
      have hposts := hhead hlimits
      rw [if_pos (hposts.ok.trans hok)]
      refine ⟨hposts.client, hposts.ok, hposts.calls, hposts.holds.extend ?_, hposts.whole,
        fun htrue => ?_⟩
      · -- without a limit there may be more to come
        split
        · exact List.prefix_refl _
        · split
          · exact List.prefix_refl _
          · exact sendClient_extends prim io.unlimited _ _ body
      · rw [hok] at htrue
        contradiction
    · rw [if_neg hok] at hlimits ⊢
      rw [Bool.not_eq_false] at hok
      by_cases hbody : body = []
      · rw [if_pos hbody] at hlimits ⊢
        have hposts := hhead hlimits
        have hsent : ¬(sendClient prim io client [] head).ok = false := by
          rw [hposts.ok, hok]
          exact Bool.noConfusion
        rw [hposts.same hok, if_neg hsent, if_neg hsent, if_pos hbody, if_pos hbody]
        rw [hposts.same hok] at hposts
        exact hposts
      · rw [if_neg hbody] at hlimits ⊢
        have hposts := hhead
          (Limits.first (hwhole hok) (postClient_calls prim system first.client first.calls body)
            hlimits)
        have hafter := @postClient_posts prim io system
          (sendClient prim io client [] head).client (sendClient prim io client [] head).sent body
        have hsent : ¬(sendClient prim io client [] head).ok = false := by
          rw [hposts.ok, hok]
          exact Bool.noConfusion
        rw [hposts.client, hposts.calls] at hafter
        rw [hposts.same hok, if_neg hsent, if_neg hsent, if_neg hbody, if_neg hbody,
          hposts.client]
        exact hposts.append (hwhole hok) (hafter hlimits)

/-- **A response on the stream** is the one of the server's model for some limit: the client and
the outcome are the same, as many buffers were sent as calls succeeded, and they are the first
buffers of the whole response. The stream has these buffers and of the next one a part, nothing
else, and the whole response where the call returns 0. -/
theorem postResponse_refines (io : RequestIo) (client : RtspClient) (status : ℕ)
    (statusText : CString) (cseq : UInt32) (extraHeaders : CString) (body : List UInt8) :
    let posted := postResponse prim system client status statusText cseq extraHeaders body
    let limited := { io with sendLimit := if posted.cut then some posted.calls else none }
    let r := rtspSendResponse prim limited client status statusText cseq extraHeaders body
    let full := rtspSendResponse prim io.unlimited client status statusText cseq extraHeaders body
    (r.client = posted.client ∧ r.ok = posted.ok ∧ r.sent.length = posted.calls) ∧
      (∃ rest part, full.sent = r.sent ++ rest ∧ posted.wire = r.sent.flatten ++ part ∧
        part <+: rest.headD []) ∧
      posted.wire <+: full.sent.flatten ∧
      (posted.ok = true → posted.wire = full.sent.flatten) := by
  intro posted limited r full
  have hposts : Posts [] posted r full :=
    postResponse_posts prim system client status statusText cseq extraHeaders body
      (limits_posted io posted)
  have hholds : StreamHolds r.sent full.sent posted.wire := hposts.holds
  refine ⟨⟨hposts.client, hposts.ok, hposts.calls⟩, hholds, hholds.within, fun hok => ?_⟩
  rw [hposts.same hok] at hholds ⊢
  obtain ⟨rest, part, -, hwire, -⟩ := id hholds
  exact hholds.within.eq_of_length_le (by rw [hwire, List.length_append]; omega)

end Responses

end PortableAirplay.Protocol
