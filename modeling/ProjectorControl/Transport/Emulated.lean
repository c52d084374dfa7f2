import ProjectorControl.Projector.Emulation
import ProjectorControl.Transport.Basic

/-!
# Transports to an emulated projector

A transport without a wire in between: packets go straight to the dispatcher of an
emulated projector, and its response comes back at once.  If the projector says nothing,
the exchange fails after the usual time limit.
-/

namespace ProjectorControl

/-- How long a client waits for a projector that says nothing. -/
def responseLimit : Duration := .ofSeconds 2

/-- A transport to an emulated projector. -/
structure EmulatedTransport where
  /-- The projector. -/
  emulation : Emulation
  /-- The number of the session that the packets belong to. -/
  session : SessionId
  /-- What was sent, first packet first. -/
  sent : List Packet := []
  /-- How the transport has ended. -/
  terminal : Terminal := none

namespace EmulatedTransport

/-- A transport to a new projector, in its first session. -/
def ofConfig (c : EmulatorConfig) : Except Error EmulatedTransport :=
  (Emulation.ofConfig c).map fun emulation =>
    let (session, sessions) := emulation.sessions.openSession
    { emulation := { emulation with sessions := sessions }, session := session }

/-- What the projector does about a packet, and how long that takes to be known. -/
def respond (t : EmulatedTransport) (packet : Packet) (now : Moment) :
    (Except Error ResponsePackets × Nat) × EmulatedTransport :=
  let emulation := ((t.emulation.advance now).push (.packet t.session packet)).settle
  let (messages, sessions) := emulation.sessions.collect t.session
  let t := { t with emulation := { emulation with sessions := sessions } }
  match messages with
  | .send (basic :: more) :: _ => ((.ok ⟨basic, more.head?⟩, 0), t)
  | .close :: _ => ((.error (.connectionClosed "session closed"), 0), t)
  | _ => ((.error (.timeout "read" responseLimit), responseLimit.nanos), t)

/-- Records that a packet was sent, and brings back the response.  A failure ends the
transport.  A shutdown at the very moment of sending comes before the response. -/
def exchange (t : EmulatedTransport) (packet : Packet) (now : Moment)
    (interruption : Option Interruption) : Exchanged EmulatedTransport :=
  match t.terminal with
  | some _ => ⟨.error t.terminal.fault, 0, t⟩
  | none =>
    let ((answer, latency), t) := { t with sent := t.sent ++ [packet] }.respond packet now
    let interrupted : Terminal := match interruption with
      | some i => if i.moment ≤ now ∨ i.moment < now + latency then some i.outcome else none
      | none => none
    let terminal := match answer with
      | .error fault => interrupted.resolve (.failed fault)
      | .ok _ => interrupted
    ⟨answer, latency, { t with terminal := terminal }⟩

instance : Transport EmulatedTransport where
  exchange packet now interruption t := t.exchange packet now interruption
  shutdown outcome _ t := { t with terminal := t.terminal.resolve outcome }
  advance moment t := { t with emulation := t.emulation.advance moment }
  outcome t := t.terminal

end EmulatedTransport

end ProjectorControl
