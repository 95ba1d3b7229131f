import PortableAirplay.Library.Leases
import PortableAirplay.Platform.Net

/-!
# Resources

What the receiver takes from the platform and from libraries and has to give back, as a ledger
of calls. The calls are those of `platform/net.h` and `platform/os.h` that open and close; a
call that fails takes nothing.
-/

set_option autoImplicit false

namespace PortableAirplay.Platform

open PortableAirplay.Library

/-- A socket by its handle, a mutex, the output device, a decoder of the AAC library, a context
of the ALAC pool, the memory pool of the crypto library, the network as a whole, an event group
and a task. -/
inductive Resource where
  | socket (handle : ℕ)
  | stateLock
  | controlLock
  | device
  | aacDecoder
  | alacContext
  | cryptoMemory
  | network
  | eventGroup
  | task (number : ℕ)
  deriving DecidableEq, Repr

/-- A call that opens or closes. -/
abbrev ResourceCall := Lease Resource

/-- The socket of a handle. -/
def NetSocket.resources (socket : NetSocket) : List Resource :=
  (socket.handle.map Resource.socket).toList

/-- An open socket is held. -/
def NetSocket.held (socket : NetSocket) : Multiset Resource := socket.resources

@[simp] theorem netSocketInit_held : netSocketInit.held = 0 := rfl

@[simp] theorem netSocket_held_some (handle : ℕ) (port : UInt16) :
    NetSocket.held ⟨some handle, port⟩ = {Resource.socket handle} := rfl

theorem netSocket_held_closed {socket : NetSocket} (h : socket.isOpen = false) :
    socket.held = 0 := by
  rw [NetSocket.isOpen, Option.isSome_eq_false_iff, Option.isNone_iff_eq_none] at h
  rw [NetSocket.held, NetSocket.resources, h]
  rfl

/-- The call of a function that opened a socket. -/
def netOpened (socket : NetSocket) : List ResourceCall := socket.resources.map Lease.take

/-- `net_close`: a closed socket is left alone. -/
def netClose (socket : NetSocket) : List ResourceCall := socket.resources.map Lease.give

@[simp] theorem netClose_init : netClose netSocketInit = [] := rfl

/-- A socket that is opened is held. -/
theorem replay_netOpened (socket : NetSocket) (frame : Multiset Resource) :
    replay frame (netOpened socket) = some (socket.held + frame) := by
  rw [netOpened, NetSocket.held, NetSocket.resources]
  cases socket.handle with
  | none => rw [Option.map_none, Option.toList_none, List.map_nil, replay_nil, Multiset.coe_nil,
      Multiset.zero_add]
  | some handle => rfl

/-- A socket that is held is closed. -/
theorem replay_netClose (socket : NetSocket) (frame : Multiset Resource) :
    replay (socket.held + frame) (netClose socket) = some frame :=
  replay_gives socket.resources frame

/-- A socket among others is closed. -/
theorem replay_netClose_of {socket : NetSocket} {held rest : Multiset Resource}
    (h : held = socket.held + rest) : replay held (netClose socket) = some rest := by
  rw [h]
  exact replay_netClose socket rest

end PortableAirplay.Platform
