import ProjectorControl.Duration
import ProjectorControl.Net.Address

/-!
# Streams of bytes

What this library needs of a network: to reach an address, to send bytes to whoever is
there, and to receive bytes.  Each of these takes time, and is given a limit.

Bytes that were sent arrive in order, in pieces of any size, and at last the peer may
close its side.
-/

namespace ProjectorControl.Net

/-- The result of waiting for something for a limited time. -/
structure Waited (α : Type) where
  /-- What came of it, or nothing if the limit passed first. -/
  result : Option α
  /-- How long it took, in nanoseconds. -/
  latency : Nat

/-- What comes from a peer. -/
inductive Arrival where
  /-- Some bytes, at least one. -/
  | bytes (first : UInt8) (more : Bytes)
  /-- The end of its stream. -/
  | closed
  /-- A failure of the connection. -/
  | failed (reason : String)
  deriving DecidableEq, Repr

/-- Whoever is at the other end of a connection. -/
class Peer (π : Type) where
  /-- Sends bytes at a moment, within a limit, and says why if that fails. -/
  send : Bytes → Moment → Nat → π → Waited (Except String Unit) × π
  /-- Waits from a moment on for what comes next, up to a limit. -/
  receive : Moment → Nat → π → Waited Arrival × π

/-- A network, which leads to peers. -/
class Network (ν : Type) (π : outParam Type) where
  /-- Connects to an address at a moment, within a limit, or says why not. -/
  dial : SocketAddress → Moment → Nat → ν → Waited (Except String π) × ν
  /-- Begins to listen at an address, and gives the address in full, or says why not. -/
  listen : SocketAddress → ν → Except String SocketAddress × ν

/-! ## No network -/

/-- A machine that is connected to nothing, not even to itself.  Programs on it may listen,
but nobody is reached from it. -/
structure Isolated where
  /-- The port that is given to a program that asks for any. -/
  freePort : UInt16 := 40001
  /-- The addresses at which programs listen already. -/
  taken : List SocketAddress := []
  deriving DecidableEq, Repr

/-- Whether a machine without any connection lets programs listen at an address: it has no
addresses of its own to compare it with, so in version 4 each one will do, and in version 6
only those that stand for all addresses, or for one of version 4. -/
def SocketAddress.isOpen : SocketAddress → Bool
  | .v4 _ _ => true
  | .v6 ip _ _ => ip.groups = List.replicate 8 0 || ip.groups.take 6 = [0, 0, 0, 0, 0, 0xFFFF]

/-- The same address with another port. -/
def SocketAddress.withPort (port : UInt16) : SocketAddress → SocketAddress
  | .v4 address _ => .v4 address port
  | .v6 address _ scope => .v6 address port scope

namespace Isolated

/-- Reaches nobody. -/
def dial (machine : Isolated) : Waited (Except String Empty) × Isolated :=
  (⟨some (.error "Network is unreachable (os error 101)"), 0⟩, machine)

/-- Listens at an address of the machine, at a free port if none is given. -/
def listen (address : SocketAddress) (machine : Isolated) :
    Except String SocketAddress × Isolated :=
  let full := if address.port = 0 then address.withPort machine.freePort else address
  if !address.isOpen then (.error "Cannot assign requested address (os error 99)", machine)
  else if full ∈ machine.taken then (.error "Address already in use (os error 98)", machine)
  else
    (.ok full, { freePort := machine.freePort + 1, taken := full :: machine.taken })

instance : Peer Empty where
  send _ _ _ peer := peer.elim
  receive _ _ peer := peer.elim

instance : Network Isolated Empty where
  dial _ _ _ machine := machine.dial
  listen address machine := machine.listen address

end Isolated

end ProjectorControl.Net
