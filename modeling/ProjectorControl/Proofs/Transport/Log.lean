import ProjectorControl.Transport.Basic

/-!
# Keeping a log

What a transport answers is up to the projector, and may depend on all that it was sent before.
To say what has passed, `Logged` keeps a log beside a transport: the exchanges that were made on
it, in order, each with the time it took and what came of it.

The log is only written.  `Logged.transport` forgets it, and what a logged transport does is what
the transport does.
-/

namespace ProjectorControl

/-- An exchange that was made. -/
structure LoggedExchange where
  /-- The packet that was to be sent. -/
  packet : Packet
  /-- When the exchange began. -/
  moment : Moment
  /-- How long it took, in nanoseconds. -/
  latency : Nat
  /-- The packets that came back, or what went wrong. -/
  answer : Except Error ResponsePackets

namespace LoggedExchange

/-- When an exchange was over. -/
def finished (e : LoggedExchange) : Moment := e.moment + e.latency

end LoggedExchange

/-- A transport, and the exchanges that were made on it. -/
structure Logged (τ : Type) where
  /-- The transport. -/
  transport : τ
  /-- The exchanges, first one first. -/
  log : List LoggedExchange := []

instance {τ : Type} [Transport τ] : Transport (Logged τ) where
  exchange packet now interruption t :=
    let done := Transport.exchange packet now interruption t.transport
    ⟨done.answer, done.latency,
      ⟨done.transport, t.log ++ [⟨packet, now, done.latency, done.answer⟩]⟩⟩
  shutdown outcome now t := { t with transport := Transport.shutdown outcome now t.transport }
  advance moment t := { t with transport := Transport.advance moment t.transport }
  outcome t := Transport.outcome t.transport

end ProjectorControl
