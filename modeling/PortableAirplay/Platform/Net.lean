/-!
# Sockets

The socket interface of `platform/net.h`. What the network does at a call is an
offer, part of the environment's input; the definitions here give the contract
that every backend keeps, so that a call never returns more bytes than asked for.
-/

set_option autoImplicit false

namespace PortableAirplay.Platform

/-- The bytes of a C string, without the terminating zero. -/
abbrev CString := List UInt8

/-- The bytes of an ASCII literal. -/
def ascii (text : String) : CString := text.toList.map fun c => UInt8.ofNat c.toNat

/-- `net_socket_t`; `none` stands for the handle `UINTPTR_MAX`. -/
structure NetSocket where
  handle : Option Nat
  port : UInt16
  deriving DecidableEq, Repr

/-- `NET_SOCKET_INIT`. -/
def netSocketInit : NetSocket := ⟨none, 0⟩

/-- The handle is not `UINTPTR_MAX`. -/
def NetSocket.isOpen (socket : NetSocket) : Bool := socket.handle.isSome

@[simp] theorem netSocketInit_isOpen : netSocketInit.isOpen = false := rfl

/-- `net_addr_t`. -/
structure NetAddr where
  ip : CString
  port : UInt16
  deriving DecidableEq, Repr

/-- The zeroed address. -/
def NetAddr.zero : NetAddr := ⟨[], 0⟩

/-- What the network has for a receive call. Empty `data` is an orderly close. -/
inductive RecvOffer where
  | data (bytes : List UInt8)
  | timeout
  | error
  deriving DecidableEq, Repr

/-- What a receive call returns: bytes (none if the peer closed), `NET_TIMEOUT`
or `NET_ERROR`. -/
inductive RecvResult where
  | bytes (received : List UInt8)
  | timeout
  | error
  deriving DecidableEq, Repr

/-- `net_tcp_recv`: at most `capacity` bytes; an invalid socket and an empty
buffer are errors. -/
def netTcpRecv (socket : NetSocket) (capacity : Nat) (offer : RecvOffer) : RecvResult :=
  if socket.isOpen = false ∨ capacity = 0 then .error
  else
    match offer with
    | .data bytes => .bytes (bytes.take capacity)
    | .timeout => .timeout
    | .error => .error

theorem netTcpRecv_length_le {socket : NetSocket} {capacity : Nat} {offer : RecvOffer}
    {received : List UInt8} (h : netTcpRecv socket capacity offer = .bytes received) :
    received.length ≤ capacity := by
  unfold netTcpRecv at h
  split at h
  · simp at h
  · split at h
    · simp only [RecvResult.bytes.injEq] at h
      rw [← h, List.length_take]
      exact Nat.min_le_left _ _
    · simp at h
    · simp at h

/-- What the network has for an accept call. -/
inductive AcceptOffer where
  | accepted (handle : Nat) (peer : NetAddr)
  | timeout
  | error
  deriving DecidableEq, Repr

/-- The socket of an accepted peer: it keeps the port of its listener. -/
def netTcpAccept (listener : NetSocket) (handle : Nat) : NetSocket := ⟨some handle, listener.port⟩

end PortableAirplay.Platform
