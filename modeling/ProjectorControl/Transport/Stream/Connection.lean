import ProjectorControl.Handshake.Admission
import ProjectorControl.Net.Stream
import ProjectorControl.Transport.Stream

/-!
# Connections

A transport over a stream together with the peer at its other end.  Here the steps of the
handshake and of the transport are put in order: send, wait for what comes, go on.

A message of the handshake has five bytes, a packet at most thirty, and something that
arrives has at least one.  So the number of times that anything is waited for is bounded,
whatever the peer does.
-/

namespace ProjectorControl

open ProjectorControl.Net

/-! ## The handshake -/

/-- How long being let in took, what came of it, and the peer afterwards. -/
structure Admitted (π : Type) where
  /-- What came of it. -/
  result : AdmissionResult
  /-- When it was over. -/
  finished : Moment
  /-- The peer. -/
  peer : π

namespace Admission

variable {π : Type} [Peer π]

/-- What an arrival means for a handshake. -/
def receive (a : Admission) : Arrival → AdmissionStep
  | .bytes first more => a.arrived (first :: more)
  | .closed => a.finished .closed
  | .failed reason => a.finished (.failed reason)

/-- Waits for a whole message until a deadline.  The handshake then goes on with the next
stage, or has ended. -/
def await (a : Admission) (peer : π) (deadline : Moment) :
    (waits : Nat) → (now : Moment) → AdmissionStep × Moment × π
  | 0, now => (a.expired, now, peer)
  | waits + 1, now =>
    let (waited, peer) := Peer.receive now (deadline - now) peer
    let now := now + waited.latency
    match waited.result with
    | none => (a.expired, now, peer)
    | some arrival =>
      match a.receive arrival with
      | .going next =>
        if next.stage = a.stage then next.await peer deadline waits now
        else (.going next, now, peer)
      | ended => (ended, now, peer)

/-- Sends the request. -/
def ask (a : Admission) (peer : π) (now : Moment) : AdmissionStep × Moment × π :=
  match a.stage with
  | .request unsent =>
    let (waited, peer) := Peer.send unsent now a.limit.nanos peer
    let now := now + waited.latency
    match waited.result with
    | none => (a.expired, now, peer)
    | some (.error reason) => (a.sendFailed reason, now, peer)
    | some (.ok ()) => (a.taken unsent.length, now, peer)
  | .greeting | .reply => (.going a, now, peer)

/-- The result of a handshake that should have ended. -/
def conclude (step : AdmissionStep) (now : Moment) (peer : π) : Admitted π :=
  match step with
  | .ended result => ⟨result, now, peer⟩
  | .going a =>
    match a.expired with
    | .ended result => ⟨result, now, peer⟩
    | .going _ => ⟨.failed (.timeout "handshake read" a.limit), now, peer⟩

/-- Runs a handshake from its beginning. -/
def run (a : Admission) (peer : π) (now : Moment) : Admitted π :=
  let waits := Handshake.messageLength
  match a.await peer (now + a.limit.nanos) waits now with
  | (.going asking, now, peer) =>
    match asking.ask peer now with
    | (.going asked, now, peer) =>
      let (step, now, peer) := asked.await peer (now + a.limit.nanos) waits now
      conclude step now peer
    | (step, now, peer) => conclude step now peer
  | (step, now, peer) => conclude step now peer

end Admission

/-! ## Exchanges -/

/-- A transport and its peer. -/
structure StreamConnection (π : Type) where
  /-- The transport. -/
  transport : StreamTransport
  /-- Whoever is at the other end. -/
  peer : π

/-- The answer among the effects of a step. -/
def StreamEffect.answer? : List StreamEffect → Option (Except Error ResponsePackets)
  | [] => none
  | .answer result :: _ => some result
  | .send _ :: later | .received _ :: later => answer? later

namespace StreamConnection

variable {π : Type} [Peer π]

/-- An exchange that goes on. -/
structure Running (π : Type) where
  /-- The connection. -/
  connection : StreamConnection π
  /-- The time. -/
  now : Moment
  /-- The answer, once there is one. -/
  answer : Option (Except Error ResponsePackets) := none

/-- Lets something happen to the transport. -/
def Running.apply (r : Running π) (event : StreamEvent) : Running π :=
  let (transport, effects) := r.connection.transport.step event
  { r with
    connection := { r.connection with transport := transport }
    answer := r.answer <|> StreamEffect.answer? effects }

/-- What an arrival is for a transport. -/
def arrivalEvent : Arrival → StreamEvent
  | .bytes first more => .arrived (first :: more)
  | .closed => .finished .closed
  | .failed reason => .finished (.failed reason)

/-- What has happened when a wait is over: a shutdown that fell into it, or else its
result. -/
def Running.settle (r : Running π) (interruption : Option Interruption) (finished : Moment)
    (event : StreamEvent) : Running π :=
  match interruption with
  | none => { r with now := finished }.apply event
  | some i =>
    if i.moment < finished then
      ({ r with now := max r.now i.moment }.apply (.shutdown i.outcome)).apply .poll
    else { r with now := finished }.apply event

/-- Waits for one arrival, or until a deadline. -/
def Running.wait (r : Running π) (deadline : Moment) (interruption : Option Interruption) :
    Running π :=
  let (waited, peer) := Peer.receive r.now (deadline - r.now) r.connection.peer
  let r := { r with connection := { r.connection with peer := peer } }
  let event := match waited.result with
    | none => .expired
    | some arrival => arrivalEvent arrival
  r.settle interruption (r.now + waited.latency) event

/-- Waits until there is an answer.  Each packet that is awaited has a deadline of its
own. -/
def Running.finish (interruption : Option Interruption) :
    (waits : Nat) → (deadline : Moment) → Running π → Running π
  | 0, _, r => r.apply .expired
  | waits + 1, deadline, r =>
    match r.answer with
    | some _ => r
    | none =>
      let next := r.wait deadline interruption
      let deadline :=
        if next.connection.transport.pending = r.connection.transport.pending then deadline
        else next.now + next.connection.transport.limit.nanos
      next.finish interruption waits deadline

/-- Sends the packet of a call that has begun. -/
def Running.send (r : Running π) (packet : Packet) (interruption : Option Interruption) :
    Running π :=
  match r.answer with
  | some _ => r
  | none =>
    let limit := r.connection.transport.limit.nanos
    let (waited, peer) := Peer.send packet.bytes r.now limit r.connection.peer
    let r := { r with connection := { r.connection with peer := peer } }
    let event := match waited.result with
      | none => .expired
      | some (.error reason) => .sendFailed reason
      | some (.ok ()) => .taken packet.length
    r.settle interruption (r.now + waited.latency) event

/-- How often something is waited for in an exchange, at most: for each byte of two packets,
and for an end. -/
def mostWaits : Nat := 2 * Packet.maxLength + 1

/-- Sends a packet and waits for its answer. -/
def exchange (c : StreamConnection π) (packet : Packet) (now : Moment)
    (interruption : Option Interruption) : Exchanged (StreamConnection π) :=
  let begun := ({ connection := c, now := now } : Running π).apply (.call packet)
  let sent := begun.send packet interruption
  let deadline := sent.now + c.transport.limit.nanos
  let done := sent.finish interruption mostWaits deadline
  ⟨done.answer.getD (.error done.connection.transport.terminal.fault), done.now - now,
    done.connection⟩

instance : Transport (StreamConnection π) where
  exchange packet now interruption c := c.exchange packet now interruption
  shutdown outcome _ c := { c with transport := c.transport.shutdown outcome }
  advance _ c := c
  outcome c := c.transport.terminal

end StreamConnection

/-! ## Connecting -/

/-- Connects to a projector at an address and asks to be let in. -/
def StreamConnection.connect {ν π : Type} [Network ν π] [Peer π] (address : SocketAddress)
    (password : Option String) (limit : Duration) (now : Moment) (network : ν) :
    Connected ν (StreamConnection π) :=
  let (dialled, network) := Network.dial address now limit.nanos network
  match dialled.result with
  | none => ⟨.error (.timeout "connect" limit), dialled.latency, network⟩
  | some (.error reason) => ⟨.error (.connect address.text reason), dialled.latency, network⟩
  | some (.ok peer) =>
    let admission : Admission := { password := password, limit := limit }
    let admitted := admission.run peer (now + dialled.latency)
    let latency := admitted.finished - now
    match admitted.result with
    | .failed fault => ⟨.error fault, latency, network⟩
    | .admitted inbox =>
      let transport : StreamTransport := { address := address, limit := limit, inbox := some inbox }
      ⟨.ok ⟨transport, admitted.peer⟩, latency, network⟩

end ProjectorControl
