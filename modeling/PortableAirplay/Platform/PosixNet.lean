import PortableAirplay.Config
import PortableAirplay.Library.Transfer
import PortableAirplay.Platform.Net
import Mathlib.Algebra.Order.Ring.Int
import Mathlib.Algebra.Order.Ring.Nat

/-!
# Sockets over select

`wait_sockets` and `net_tcp_send_all` of `platform/linux/net.c`; the file for Apple has the same
code. The one for the embedded platform does the same with `lwip_select`, on the descriptors from
`LWIP_SOCKET_OFFSET` up to `LWIP_SELECT_MAXNFDS` in place of those below `FD_SETSIZE`. What the
system answers to a call, and the time at which the clock is read, are input. Times are
milliseconds of a clock that does not wrap; the code sees their low 32 bits.

`sendAll_ends_by` bounds the time of a send by its timeout, over short writes, interrupted
waits and the wrap of the clock.
-/

set_option autoImplicit false

namespace PortableAirplay.Platform.Posix

open PortableAirplay.Library

/-! ## The clock -/

/-- `now_ms`. -/
def nowMs (time : ℕ) : UInt32 := UInt32.ofNat time

/-- `remaining_ms` where the clock reads `time`. -/
def remainingMs (start : UInt32) (timeoutMs : ℤ) (time : ℕ) : ℤ :=
  if timeoutMs < 0 then -1
  else
    let elapsed := (nowMs time - start).toNat
    if timeoutMs.toNat ≤ elapsed then 0 else timeoutMs - elapsed

/-- The clock may wrap in between. -/
theorem elapsed_eq {start time : ℕ} (hstart : start ≤ time) (hwrap : time < start + 2 ^ 32) :
    (nowMs time - nowMs start).toNat = time - start := by
  rw [nowMs, nowMs, UInt32.toNat_sub, UInt32.toNat_ofNat', UInt32.toNat_ofNat']
  omega

/-- **What remains** is what the timeout leaves of the time that passed. -/
theorem remainingMs_eq {start time : ℕ} {timeoutMs : ℤ} (htimeout : 0 ≤ timeoutMs)
    (hstart : start ≤ time) (hwrap : time < start + 2 ^ 32) :
    remainingMs (nowMs start) timeoutMs time = max 0 (timeoutMs - (time - start)) := by
  rw [remainingMs, if_neg (by omega)]
  dsimp only
  rw [elapsed_eq hstart hwrap]
  split
  · omega
  · omega

/-! ## Waiting -/

/-- What `select` answers when no signal interrupts it: the handles that are ready, 0, or an
error. -/
inductive SelectAnswer where
  | ready (handles : List ℕ)
  | timeout
  | failed

/-- A call of `select`: when the clock was read for its timeout, and when after it. -/
structure SelectCall where
  asked : ℕ
  ended : ℕ

/-- What the system does in a wait: the clock at its start, the calls that a signal interrupts,
and the one that none does. -/
structure WaitIo where
  entered : ℕ
  interrupted : List SelectCall
  last : SelectCall
  answer : SelectAnswer

/-- What `wait_sockets` returns: the flags of the sockets with their number, 0, or
`NET_ERROR`. -/
inductive WaitResult where
  | ready (flags : List Bool)
  | timeout
  | error
  deriving DecidableEq, Repr

/-- `FD_SETSIZE`. -/
def fdSetSize : ℕ := 1024

/-- The flags of the sockets; those that are closed are passed over. -/
def readyFlags (sockets : List NetSocket) (handles : List ℕ) : List Bool :=
  sockets.map fun socket => (socket.handle.map handles.contains).getD false

/-- The rounds of `wait_sockets`, with the time at which it returns. -/
def waitRounds (sockets : List NetSocket) (timeoutMs : ℤ) (io : WaitIo) :
    List SelectCall → WaitResult × ℕ
  | [] =>
      (match io.answer with
        | .ready handles => .ready (readyFlags sockets handles)
        | .timeout => .timeout
        | .failed => .error, io.last.ended)
  | call :: calls =>
      if 0 ≤ timeoutMs ∧ remainingMs (nowMs io.entered) timeoutMs call.ended = 0 then
        (.timeout, call.ended)
      else waitRounds sockets timeoutMs io calls

/-- `wait_sockets`. The handles do not change in the loop, so they are checked before it. -/
def waitSockets (sockets : List NetSocket) (timeoutMs : ℤ) (io : WaitIo) : WaitResult × ℕ :=
  if sockets = [] ∨ sockets.length > fdSetSize ∨ timeoutMs < -1 then (.error, io.entered)
  else
    let handles := sockets.filterMap NetSocket.handle
    if handles.any (fun handle => decide (handle ≥ fdSetSize)) = true ∨ handles = [] then
      (.error, io.entered)
    else waitRounds sockets timeoutMs io io.interrupted

/-- What a call returns where it does not return 0. -/
inductive NetFailure where
  | timeout
  | error
  deriving DecidableEq, Repr

/-- `wait_one`. -/
def waitOne (socket : NetSocket) (timeoutMs : ℤ) (io : WaitIo) : Option NetFailure × ℕ :=
  let r := waitSockets [socket] timeoutMs io
  (match r.1 with
    | .ready flags => if flags.count true = 0 then some .timeout else none
    | .timeout => some .timeout
    | .error => some .error, r.2)

/-- A wait is refused at once, or goes on to its rounds. -/
theorem waitSockets_cases (sockets : List NetSocket) (timeoutMs : ℤ) (io : WaitIo) :
    waitSockets sockets timeoutMs io = (.error, io.entered) ∨
      waitSockets sockets timeoutMs io = waitRounds sockets timeoutMs io io.interrupted := by
  rw [waitSockets]
  split
  · exact Or.inl rfl
  · dsimp only
    split
    · exact Or.inl rfl
    · exact Or.inr rfl

/-- The rounds end with flags only where `select` reported handles. -/
theorem waitRounds_flags {sockets : List NetSocket} {timeoutMs : ℤ} {io : WaitIo}
    {flags : List Bool} (calls : List SelectCall)
    (h : (waitRounds sockets timeoutMs io calls).1 = .ready flags) :
    ∃ handles, io.answer = .ready handles ∧ flags = readyFlags sockets handles := by
  induction calls with
  | nil =>
      rw [waitRounds] at h
      cases hanswer : io.answer with
      | ready handles =>
          rw [hanswer] at h
          exact ⟨handles, rfl, (WaitResult.ready.inj h).symm⟩
      | timeout =>
          rw [hanswer] at h
          exact WaitResult.noConfusion h
      | failed =>
          rw [hanswer] at h
          exact WaitResult.noConfusion h
  | cons call calls ih =>
      rw [waitRounds] at h
      split at h
      · exact WaitResult.noConfusion h
      · exact ih h

/-- **A flag is set** for a socket that is open and that `select` reported. -/
theorem waitSockets_flags {sockets : List NetSocket} {timeoutMs : ℤ} {io : WaitIo}
    {flags : List Bool} (h : (waitSockets sockets timeoutMs io).1 = .ready flags) :
    ∃ handles, io.answer = .ready handles ∧ flags.length = sockets.length ∧
      ∀ k (hk : k < sockets.length), flags[k]? = some true ↔
        ∃ handle, sockets[k].handle = some handle ∧ handle ∈ handles := by
  rcases waitSockets_cases sockets timeoutMs io with hrefused | hrounds
  · rw [hrefused] at h
    exact WaitResult.noConfusion h
  · rw [hrounds] at h
    obtain ⟨handles, hanswer, rfl⟩ := waitRounds_flags _ h
    refine ⟨handles, hanswer, List.length_map .., fun k hk => ?_⟩
    rw [readyFlags, List.getElem?_map, List.getElem?_eq_getElem hk]
    cases hhandle : sockets[k].handle with
    | none => simp [hhandle]
    | some handle => simp [hhandle]

/-! ## Sending -/

/-- What `send` answers: how much it takes, `EWOULDBLOCK` or `EINTR`, or another error. -/
inductive SendAnswer where
  | took (count : ℕ)
  | again
  | failed

/-- What the system does in a turn of `net_tcp_send_all`. -/
structure SendIo where
  before : ℕ
  wait : WaitIo
  answer : SendAnswer
  after : ℕ

/-- How much `send` takes of what it is given. -/
def sendTakes (left : ℕ) : SendAnswer → ℕ
  | .took count => min count (min left intMax)
  | _ => 0

/-- A turn of `net_tcp_send_all`; the state is the time. -/
def sendTurn (socket : NetSocket) (timeoutMs : ℤ) (start : UInt32) (_ : ℕ) (left : ℕ)
    (io : SendIo) : Turn ℕ NetFailure :=
  let wait := waitOne socket (remainingMs start timeoutMs io.before) io.wait
  match wait.1 with
  | some failure => ⟨wait.2, 0, some failure⟩
  | none =>
      let taken := sendTakes left io.answer
      let late := decide (taken < left) && decide (0 ≤ timeoutMs) &&
        decide (remainingMs start timeoutMs io.after = 0)
      match io.answer with
      | .took 0 => ⟨io.after, 0, some .error⟩
      | .failed => ⟨io.after, 0, some .error⟩
      | _ => ⟨io.after, taken, if late then some .timeout else none⟩

/-- `net_tcp_send_all`, started at `start`. -/
def netTcpSendAll (socket : NetSocket) (timeoutMs : ℤ) (start : ℕ) (data : List UInt8)
    (io : List SendIo) : Transferred UInt8 ℕ NetFailure :=
  if socket.isOpen = false ∨ timeoutMs < -1 then ⟨start, [], data, some .error⟩
  else transfer (sendTurn socket timeoutMs (nowMs start)) start data io

/-- **The stream has a prefix** of the buffer, and the rest is left. -/
theorem netTcpSendAll_accepted (socket : NetSocket) (timeoutMs : ℤ) (start : ℕ)
    (data : List UInt8) (io : List SendIo) :
    (netTcpSendAll socket timeoutMs start data io).accepted ++
      (netTcpSendAll socket timeoutMs start data io).left = data := by
  rw [netTcpSendAll]
  split
  · rfl
  · exact transfer_accepted _ io start data

/-! ## The time that a send takes -/

/-- Calls of `select` one after the other: the code takes no more than `delay` between them,
and each returns no later than `delay` after its timeout. -/
def CallsKeep (delay : ℕ) (timeoutMs : ℤ) (entered : ℕ) : ℕ → List SelectCall → Prop
  | _, [] => True
  | previous, call :: calls =>
      previous ≤ call.asked ∧ call.asked ≤ previous + delay ∧ call.asked ≤ call.ended ∧
        call.ended ≤ call.asked + remainingMs (nowMs entered) timeoutMs call.asked + delay ∧
        CallsKeep delay timeoutMs entered call.ended calls

/-- A wait that keeps the contract of `select`: it returns 0 only after its timeout, and a
positive number only where the socket is ready. -/
structure WaitKeeps (delay : ℕ) (socket : NetSocket) (timeoutMs : ℤ) (previous : ℕ)
    (io : WaitIo) : Prop where
  entered : previous ≤ io.entered ∧ io.entered ≤ previous + delay
  calls : CallsKeep delay timeoutMs io.entered io.entered (io.interrupted ++ [io.last])
  timeout : io.answer = .timeout →
    io.last.asked + remainingMs (nowMs io.entered) timeoutMs io.last.asked ≤ io.last.ended
  ready : ∀ handles, io.answer = .ready handles →
    ∃ handle, socket.handle = some handle ∧ handle ∈ handles

/-- A turn of a send after the time `previous`. -/
structure SendKeeps (delay : ℕ) (socket : NetSocket) (timeoutMs : ℤ) (start : UInt32)
    (previous : ℕ) (io : SendIo) : Prop where
  before : previous ≤ io.before ∧ io.before ≤ previous + delay
  wait : WaitKeeps delay socket (remainingMs start timeoutMs io.before) io.before io.wait
  after : (waitOne socket (remainingMs start timeoutMs io.before) io.wait).2 ≤ io.after ∧
    io.after ≤ (waitOne socket (remainingMs start timeoutMs io.before) io.wait).2 + delay

section Time

variable {delay : ℕ} {socket : NetSocket}

/-- A wait ends by its timeout, and returns 0 no earlier. -/
theorem waitRounds_ends_by {timeoutMs : ℤ} {io : WaitIo} (htimeout : 0 ≤ timeoutMs)
    (hwrap : timeoutMs + 2 * delay < 2 ^ 32)
    (hanswer : io.answer = .timeout →
      io.last.asked + remainingMs (nowMs io.entered) timeoutMs io.last.asked ≤ io.last.ended)
    (sockets : List NetSocket) (calls : List SelectCall) :
    ∀ previous : ℕ, io.entered ≤ previous → (previous : ℤ) ≤ io.entered + timeoutMs →
      CallsKeep delay timeoutMs io.entered previous (calls ++ [io.last]) →
      (io.entered ≤ (waitRounds sockets timeoutMs io calls).2 ∧
        (waitRounds sockets timeoutMs io calls).2 ≤ io.entered + timeoutMs + 2 * delay) ∧
      ((waitRounds sockets timeoutMs io calls).1 = .timeout →
        io.entered + timeoutMs ≤ (waitRounds sockets timeoutMs io calls).2) := by
  -- where a call was asked, and so where it ends, its timeout has not wrapped
  have hcall : ∀ (previous : ℕ) (call : SelectCall), io.entered ≤ previous →
      (previous : ℤ) ≤ io.entered + timeoutMs → previous ≤ call.asked →
      call.asked ≤ previous + delay →
      remainingMs (nowMs io.entered) timeoutMs call.asked =
        max 0 (timeoutMs - (call.asked - io.entered)) := by
    intro previous call hprevious hbound hasked hdelay
    apply remainingMs_eq htimeout
    · omega
    · omega
  induction calls with
  | nil =>
      intro previous hprevious hbound hkeeps
      obtain ⟨hasked, hdelay, hended, hkept, -⟩ := hkeeps
      have hremains := hcall previous io.last hprevious hbound hasked hdelay
      rw [hremains] at hkept
      rw [waitRounds]
      refine ⟨⟨by omega, by omega⟩, fun hresult => ?_⟩
      cases hkind : io.answer with
      | ready handles =>
          rw [hkind] at hresult
          exact WaitResult.noConfusion hresult
      | timeout =>
          have hlate := hanswer hkind
          rw [hremains] at hlate
          dsimp only
          omega
      | failed =>
          rw [hkind] at hresult
          exact WaitResult.noConfusion hresult
  | cons call calls ih =>
      intro previous hprevious hbound hkeeps
      obtain ⟨hasked, hdelay, hended, hkept, hrest⟩ := hkeeps
      have hremains := hcall previous call hprevious hbound hasked hdelay
      rw [hremains] at hkept
      have hafter : remainingMs (nowMs io.entered) timeoutMs call.ended =
          max 0 (timeoutMs - (call.ended - io.entered)) := by
        apply remainingMs_eq htimeout
        · omega
        · omega
      rw [waitRounds]
      split
      · rename_i hdone
        rw [hafter] at hdone
        exact ⟨⟨by omega, by omega⟩, fun _ => by omega⟩
      · rename_i hgoes
        rw [hafter] at hgoes
        exact ih call.ended (by omega) (by omega) hrest

/-- A wait for the socket of a send. -/
theorem waitOne_ends_by {timeoutMs : ℤ} {previous : ℕ} {io : WaitIo} (htimeout : 0 ≤ timeoutMs)
    (hwrap : timeoutMs + 2 * delay < 2 ^ 32)
    (h : WaitKeeps delay socket timeoutMs previous io) :
    (previous ≤ (waitOne socket timeoutMs io).2 ∧
      (waitOne socket timeoutMs io).2 ≤ previous + timeoutMs + 3 * delay) ∧
    ((waitOne socket timeoutMs io).1 = some .timeout →
      previous + timeoutMs ≤ (waitOne socket timeoutMs io).2) := by
  obtain ⟨hearly, hlate⟩ := h.entered
  obtain ⟨⟨hfrom, hto⟩, hdone⟩ := waitRounds_ends_by htimeout hwrap h.timeout [socket]
    io.interrupted io.entered le_rfl (by omega) h.calls
  rw [waitOne]
  rcases waitSockets_cases [socket] timeoutMs io with hrefused | hrounds
  · rw [hrefused]
    exact ⟨⟨hearly, by dsimp only; omega⟩,
      fun hresult => NetFailure.noConfusion (Option.some.inj hresult)⟩
  · rw [hrounds]
    refine ⟨⟨by dsimp only; omega, by dsimp only; omega⟩, fun hresult => ?_⟩
    cases hround : (waitRounds [socket] timeoutMs io io.interrupted).1 with
    | ready flags =>
        -- the socket is among those reported, so its flag is set
        obtain ⟨handles, hanswer, rfl⟩ := waitRounds_flags io.interrupted hround
        obtain ⟨handle, hhandle, hmem⟩ := h.ready handles hanswer
        have hflags : readyFlags [socket] handles = [true] := by
          simp [readyFlags, hhandle, hmem]
        rw [hround, hflags] at hresult
        contradiction
    | timeout =>
        have hat := hdone hround
        dsimp only
        omega
    | error =>
        rw [hround] at hresult
        exact NetFailure.noConfusion (Option.some.inj hresult)

/-- A turn of a send that begins in time ends by the timeout, or has not reached it. -/
theorem sendTurn_ends_by {timeoutMs : ℤ} {start previous : ℕ} (left : ℕ) {io : SendIo}
    (htimeout : 0 ≤ timeoutMs) (hwrap : timeoutMs + 5 * delay < 2 ^ 32)
    (hstart : start ≤ previous) (hprevious : (previous : ℤ) ≤ start + timeoutMs)
    (h : SendKeeps delay socket timeoutMs (nowMs start) previous io) :
    let turn := sendTurn socket timeoutMs (nowMs start) previous left io
    (start ≤ turn.state ∧ turn.state ≤ start + timeoutMs + 5 * delay) ∧
      (turn.ends = some .timeout → start + timeoutMs ≤ turn.state) ∧
      (turn.ends = none → turn.accepted < left → turn.state ≤ start + timeoutMs) := by
  obtain ⟨hearly, hlate⟩ := h.before
  have hremains : remainingMs (nowMs start) timeoutMs io.before =
      max 0 (timeoutMs - (io.before - start)) := by
    apply remainingMs_eq htimeout
    · omega
    · omega
  have hwait := h.wait
  have hafter := h.after
  obtain ⟨⟨hfrom, hto⟩, hdone⟩ := waitOne_ends_by (by omega) (by omega) hwait
  rw [sendTurn]
  dsimp only
  generalize waitOne socket (remainingMs (nowMs start) timeoutMs io.before) io.wait = wait
    at hafter hfrom hto hdone ⊢
  obtain ⟨failure, waited⟩ := wait
  dsimp only at hafter hfrom hto hdone ⊢
  cases failure with
  | some failure =>
      dsimp only
      refine ⟨⟨by omega, by omega⟩, fun hends => ?_, fun hends => by contradiction⟩
      have hat := hdone hends
      omega
  | none =>
      have hnow : remainingMs (nowMs start) timeoutMs io.after =
          max 0 (timeoutMs - (io.after - start)) := by
        apply remainingMs_eq htimeout
        · omega
        · omega
      have htime : start ≤ io.after ∧ io.after ≤ start + timeoutMs + 5 * delay := by
        constructor
        · omega
        · omega
      dsimp only
      split
      · exact ⟨htime, fun hends => NetFailure.noConfusion (Option.some.inj hends),
          fun hends => by contradiction⟩
      · exact ⟨htime, fun hends => NetFailure.noConfusion (Option.some.inj hends),
          fun hends => by contradiction⟩
      · refine ⟨htime, fun hends => ?_, fun hends hless => ?_⟩
        · split at hends
          · rename_i hislate
            rw [Bool.and_eq_true, decide_eq_true_eq, hnow] at hislate
            dsimp only
            omega
          · contradiction
        · split at hends
          · contradiction
          · rename_i hislate
            dsimp only at hless ⊢
            rw [decide_eq_true hless, decide_eq_true htimeout, Bool.true_and, Bool.true_and,
              decide_eq_true_eq, hnow] at hislate
            omega

/-- A turn that gives up leaves something to send. -/
theorem sendTurn_accepted_lt {timeoutMs : ℤ} {start : UInt32} {previous left : ℕ} {io : SendIo}
    (hleft : 0 < left)
    (h : (sendTurn socket timeoutMs start previous left io).ends ≠ none) :
    (sendTurn socket timeoutMs start previous left io).accepted < left := by
  rw [sendTurn] at h ⊢
  dsimp only at h ⊢
  split
  · exact hleft
  · rename_i hready
    rw [hready] at h
    dsimp only at h
    split
    · exact hleft
    · exact hleft
    · split at h
      · contradiction
      · contradiction
      · split at h
        · rename_i hlate
          rw [Bool.and_eq_true, Bool.and_eq_true, decide_eq_true_eq] at hlate
          exact hlate.1.1
        · contradiction

/-- **A send is over in time**, and one that times out has waited: over short writes, waits that
signals interrupt and the wrap of the clock, `net_tcp_send_all` is at no time beyond its timeout
by more than five of the delays of the system, and reports a timeout only after it. The stream
has a prefix of the buffer, and the call does not fail where that is all of it. -/
theorem sendAll_ends_by {timeoutMs : ℤ} (start : ℕ) (data : List UInt8) (io : List SendIo)
    (hopen : socket.isOpen = true) (htimeout : 0 ≤ timeoutMs)
    (hwrap : timeoutMs + 5 * delay < 2 ^ 32)
    (h : GuardedTurns (sendTurn socket timeoutMs (nowMs start))
      (SendKeeps delay socket timeoutMs (nowMs start)) start data io) :
    let r := netTcpSendAll socket timeoutMs start data io
    r.accepted ++ r.left = data ∧ (r.left = [] → r.ends = none) ∧
      r.state ≤ start + timeoutMs + 5 * delay ∧
      (r.ends = some .timeout → start + timeoutMs ≤ r.state) := by
  have hrefused : ¬(socket.isOpen = false ∨ timeoutMs < -1) := by
    rintro (hclosed | hnegative)
    · rw [hopen] at hclosed
      contradiction
    · omega
  have htime := transfer_invariant _
    (fun time => start ≤ time ∧ (time : ℤ) ≤ start + timeoutMs)
    (fun time ends => (time : ℤ) ≤ start + timeoutMs + 5 * delay ∧
      (ends = some .timeout → start + timeoutMs ≤ time))
    (fun time htime => ⟨by omega, fun hends => by contradiction⟩)
    (fun time left i htime hkeeps =>
      have hturn := sendTurn_ends_by left htimeout hwrap htime.1 htime.2 hkeeps
      ⟨hturn.1.2, hturn.2.1⟩)
    (fun time left i htime hkeeps hends hless =>
      have hturn := sendTurn_ends_by left htimeout hwrap htime.1 htime.2 hkeeps
      ⟨hturn.1.1, hturn.2.2 hends hless⟩)
    io start data ⟨le_rfl, by omega⟩ h
  dsimp only
  refine ⟨netTcpSendAll_accepted socket timeoutMs start data io, ?_, ?_⟩
  · rw [netTcpSendAll, if_neg hrefused]
    exact transfer_whole _ (fun s left i hleft => sendTurn_accepted_lt hleft) io start data
  · rw [netTcpSendAll, if_neg hrefused]
    exact htime

end Time

/-- A connection. -/
def wrappedSocket : NetSocket := ⟨some 5, 7000⟩

/-- A short write after a wait that a signal interrupts, with the wrap of the clock in between. -/
def shortWrite : SendIo where
  before := 4294966896
  wait :=
    { entered := 4294966896
      interrupted := [⟨4294966896, 4294967196⟩]
      last := ⟨4294967196, 4294967396⟩
      answer := .ready [5] }
  answer := .took 2
  after := 4294967396

/-- A wait to the end of the timeout. -/
def fullStream : SendIo where
  before := 4294967396
  wait :=
    { entered := 4294967396
      interrupted := []
      last := ⟨4294967396, 4294967896⟩
      answer := .timeout }
  answer := .failed
  after := 4294967896

theorem shortWrite_keeps :
    SendKeeps 1 wrappedSocket 1000 (nowMs 4294966896) 4294966896 shortWrite where
  before := by decide
  wait :=
    { entered := by decide
      calls := by
        refine ⟨by decide, by decide, by decide, by decide +kernel, by decide, by decide,
          by decide, by decide +kernel, trivial⟩
      timeout := fun hanswer => SelectAnswer.noConfusion hanswer
      ready := by
        intro handles hready
        obtain rfl := SelectAnswer.ready.inj hready
        exact ⟨5, rfl, List.mem_singleton_self 5⟩ }
  after := by decide +kernel

theorem fullStream_keeps :
    SendKeeps 1 wrappedSocket 1000 (nowMs 4294966896) 4294967396 fullStream where
  before := by decide
  wait :=
    { entered := by decide
      calls := ⟨by decide, by decide, by decide, by decide +kernel, trivial⟩
      timeout := fun _ => by decide +kernel
      ready := fun handles hready => SelectAnswer.noConfusion hready }
  after := by decide +kernel

theorem sendAll_ends_by_wrapped :
    let r := netTcpSendAll wrappedSocket 1000 4294966896 [1, 2, 3] [shortWrite, fullStream]
    r.accepted = [1, 2] ∧ r.ends = some .timeout ∧ (r.state : ℤ) ≤ 4294966896 + 1000 + 5 * 1 := by
  have hsend := sendAll_ends_by 4294966896 [1, 2, 3] [shortWrite, fullStream]
    (by decide) (by decide) (by decide)
    ⟨shortWrite_keeps, fun _ => ⟨fullStream_keeps, fun _ => trivial⟩⟩
  exact ⟨by decide +kernel, by decide +kernel, hsend.2.2.1⟩

end PortableAirplay.Platform.Posix
