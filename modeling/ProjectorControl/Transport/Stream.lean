import ProjectorControl.Net.Address
import ProjectorControl.Transport.Basic
import ProjectorControl.Transport.Stream.Inbox

/-!
# Transports over a stream

A transport over a connection on which the client was let in.  It works on one call at a
time, and its callers wait for their turn:

    call ──> sending ──all sent──> basic response ──query──> advanced response ──> answer
                                        └──otherwise──> answer

It fails fast.  Whatever goes wrong in a call ends the transport, and later calls are told
the same without a byte being sent.  A shutdown ends it too; a call under way then fails as
soon as it is looked at again.

Everything that can happen is a `StreamEvent`, and `StreamTransport.step` says what comes
of it.  Events may come in any order.
-/

namespace ProjectorControl

/-- Where a call stands. -/
inductive CallPhase where
  /-- The packet is being sent; some of its bytes are still to go. -/
  | sending (unsent : Bytes)
  /-- The basic response is awaited. -/
  | awaitingBasic
  /-- The basic response has come, and the advanced response is awaited. -/
  | awaitingAdvanced (basic : Packet)
  deriving DecidableEq, Repr

/-- A call under way. -/
structure PendingCall where
  /-- The packet. -/
  packet : Packet
  /-- Where the call stands. -/
  phase : CallPhase
  deriving DecidableEq, Repr

/-- A transport over a stream. -/
structure StreamTransport where
  /-- The address of the projector. -/
  address : Net.SocketAddress
  /-- How long sending a packet, or waiting for one, may take. -/
  limit : Duration
  /-- The client's end of the connection, none once it was dropped. -/
  inbox : Option Inbox
  /-- The call under way. -/
  pending : Option PendingCall := none
  /-- How the transport has ended. -/
  terminal : Terminal := none
  deriving DecidableEq, Repr

/-- What can happen to a transport. -/
inductive StreamEvent where
  /-- A caller, whose turn it is, wants a packet sent. -/
  | call (packet : Packet)
  /-- The projector takes some of the bytes that are being sent. -/
  | taken (count : Nat)
  /-- Sending fails. -/
  | sendFailed (reason : String)
  /-- Bytes arrive. -/
  | arrived (bytes : Bytes)
  /-- The stream ends. -/
  | finished (ending : StreamEnd)
  /-- The time limit of what the call is waiting for passes. -/
  | expired
  /-- Somebody shuts the transport down. -/
  | shutdown (outcome : Outcome)
  /-- The call under way is looked at again. -/
  | poll
  /-- The caller loses interest before there is an answer. -/
  | abandon
  deriving DecidableEq, Repr

/-- What a transport does. -/
inductive StreamEffect where
  /-- It gives bytes to the projector. -/
  | send (bytes : Bytes)
  /-- It takes a packet from its inbox. -/
  | received (packet : Packet)
  /-- It answers the caller. -/
  | answer (result : Except Error ResponsePackets)

namespace StreamTransport

/-! ## Checks -/

/-- What is wrong with a packet as the first response to a packet. -/
def basicFault? (sent basic : Packet) : Option String :=
  if basic.kind = .advancedResponse then
    some s!"advanced response {basic.text} arrived before the basic acknowledgement"
  else if basic.kind ≠ .basicResponse then some s!"expected basic response, got {basic.text}"
  else if basic.code ≠ sent.code then
    some s!"response code {basic.code.text} does not match command code {sent.code.text}"
  else none

/-- What is wrong with a packet as the second response to a packet. -/
def advancedFault? (sent advanced : Packet) : Option String :=
  if advanced.kind ≠ .advancedResponse then
    some s!"expected advanced response, got {advanced.text}"
  else if advanced.code ≠ sent.code then
    some s!"advanced response code {advanced.code.text} does not match command code {sent.code.text}"
  else none

/-! ## Ends of a call -/

/-- Fails the call under way.  This ends the transport, if it has not ended, and drops the
connection. -/
def fail (t : StreamTransport) (fault : Error) : StreamTransport × List StreamEffect :=
  ({ t with inbox := none, pending := none, terminal := t.terminal.resolve (.failed fault) },
    [.answer (.error fault)])

/-- Answers the call under way. -/
def answer (t : StreamTransport) (packets : ResponsePackets) :
    StreamTransport × List StreamEffect :=
  ({ t with pending := none }, [.answer (.ok packets)])

/-! ## Steps -/

/-- Notes that a packet was taken, in front of what has come of it. -/
def noting (packet : Packet) (after : StreamTransport × List StreamEffect) :
    StreamTransport × List StreamEffect :=
  (after.1, .received packet :: after.2)

/-- Uses the packet at the front of the inbox as the advanced response. -/
def takeAdvanced (t : StreamTransport) (sent basic : Packet) (inbox : Inbox) :
    StreamTransport × List StreamEffect :=
  match inbox.next with
  | (.error fault, _) => t.fail fault
  | (.ok none, inbox) =>
    ({ t with inbox := some inbox, pending := some ⟨sent, .awaitingAdvanced basic⟩ }, [])
  | (.ok (some advanced), inbox) =>
    noting advanced <|
      match advancedFault? sent advanced with
      | some detail => t.fail (.protocolViolation detail)
      | none => { t with inbox := some inbox }.answer ⟨basic, some advanced⟩

/-- Uses the packet at the front of the inbox as the basic response, and the next one as
the advanced response to a query. -/
def takeBasic (t : StreamTransport) (sent : Packet) (inbox : Inbox) :
    StreamTransport × List StreamEffect :=
  match inbox.next with
  | (.error fault, _) => t.fail fault
  | (.ok none, inbox) =>
    ({ t with inbox := some inbox, pending := some ⟨sent, .awaitingBasic⟩ }, [])
  | (.ok (some basic), inbox) =>
    noting basic <|
      match basicFault? sent basic with
      | some detail => t.fail (.protocolViolation detail)
      | none =>
        if sent.kind = .advancedCommand then t.takeAdvanced sent basic inbox
        else { t with inbox := some inbox }.answer ⟨basic, none⟩

/-- Looks at the call under way.  If the transport has ended meanwhile, the call fails. -/
def poll (t : StreamTransport) : StreamTransport × List StreamEffect :=
  match t.pending with
  | none => (t, [])
  | some call =>
    match t.terminal, t.inbox with
    | some _, _ | none, none => t.fail t.terminal.fault
    | none, some inbox =>
      match call.phase with
      | .sending _ => (t, [])
      | .awaitingBasic => t.takeBasic call.packet inbox
      | .awaitingAdvanced basic => t.takeAdvanced call.packet basic inbox

/-- Begins a call.  A transport that has ended refuses it. -/
def begin (t : StreamTransport) (packet : Packet) : StreamTransport × List StreamEffect :=
  match t.terminal, t.pending with
  | some _, _ => (t, [.answer (.error t.terminal.fault)])
  | none, some _ => (t, [])
  | none, none => { t with pending := some ⟨packet, .sending packet.bytes⟩ }.poll

/-- Gives bytes of the packet to the projector, as many as it takes. -/
def give (t : StreamTransport) (count : Nat) : StreamTransport × List StreamEffect :=
  match t.terminal, t.pending with
  | none, some ⟨packet, .sending unsent⟩ =>
    let phase := match unsent.drop count with
      | [] => CallPhase.awaitingBasic
      | rest => .sending rest
    let (t, effects) := { t with pending := some ⟨packet, phase⟩ }.poll
    (t, .send (unsent.take count) :: effects)
  | _, _ => t.poll

/-- Fails the call under way because of its connection; if the transport has ended, because
of that. -/
def breakOff (t : StreamTransport) (fault : CallPhase → Option Error) :
    StreamTransport × List StreamEffect :=
  match t.terminal, t.pending with
  | none, some call =>
    match fault call.phase with
    | some fault => t.fail fault
    | none => (t, [])
  | _, _ => t.poll

/-- The fault of a packet that could not be sent. -/
def sendFault (reason : String) : CallPhase → Option Error
  | .sending _ => some (.io reason)
  | .awaitingBasic | .awaitingAdvanced _ => none

/-- The fault of a time limit that has passed. -/
def expiryFault (limit : Duration) : CallPhase → Option Error
  | .sending _ => some (.timeout "write" limit)
  | .awaitingBasic | .awaitingAdvanced _ => some (.timeout "read" limit)

/-- Ends the transport, if it has not ended.  The connection is dropped at once unless a
call is using it. -/
def shutdown (t : StreamTransport) (outcome : Outcome) : StreamTransport :=
  match t.terminal, t.pending with
  | some _, _ => t
  | none, some _ => { t with terminal := some outcome }
  | none, none => { t with terminal := some outcome, inbox := none }

/-- What comes of an event. -/
def step (t : StreamTransport) : StreamEvent → StreamTransport × List StreamEffect
  | .call packet => t.begin packet
  | .taken count => t.give count
  | .sendFailed reason => t.breakOff (sendFault reason)
  | .arrived bytes => { t with inbox := t.inbox.map (Inbox.feed · bytes) }.poll
  | .finished ending => { t with inbox := t.inbox.map (Inbox.finish · ending) }.poll
  | .expired => t.breakOff (expiryFault t.limit)
  | .shutdown outcome => (t.shutdown outcome, [])
  | .poll => t.poll
  | .abandon => ({ t with pending := none }, [])

/-- The transport for display. -/
def text (t : StreamTransport) : String :=
  let fields := String.intercalate ", " [
    s!"peer_addr: {t.address.text}",
    s!"timeout: {t.limit.text}",
    s!"shutting_down: {t.terminal.isSome}"]
  s!"TcpTransport \x7b {fields} \x7d"

end StreamTransport

end ProjectorControl
