import ProjectorControl.Response

/-!
# Transports

A transport carries packets to one projector and brings back the packets that answer
them.  It works on one packet at a time.  A transport ends once, cleanly or with a fault,
and keeps the outcome: whoever asks later is told the same.

The class `Transport` says what a client needs.  Time is passed in explicitly: an exchange
starts at a moment and says how long it took, and a transport on which nobody calls is
told the time, so that its own timers can expire.
-/

namespace ProjectorControl

/-! ## Outcomes -/

/-- How a transport ended. -/
inductive Outcome where
  /-- It was shut down. -/
  | clean
  /-- It failed, or was shut down because of a fault. -/
  | failed (fault : Error)
  deriving DecidableEq, Repr

/-- The outcome for a fault that may be missing. -/
def Outcome.ofFault? : Option Error → Outcome
  | none => .clean
  | some fault => .failed fault

/-- The outcome of a transport, none while it has not ended. -/
abbrev Terminal := Option Outcome

namespace Terminal

/-- Records an outcome.  The first one stays. -/
def resolve (terminal : Terminal) (outcome : Outcome) : Terminal :=
  match terminal with
  | none => some outcome
  | some first => some first

/-- What whoever waits for the end of a transport is told; nothing while it has not ended. -/
def waited? : Terminal → Option (Except Error Unit)
  | none => none
  | some .clean => some (.ok ())
  | some (.failed fault) => some (.error fault)

/-- What callers of an ended transport are told. -/
def fault : Terminal → Error
  | some (.failed fault) => fault
  | some .clean | none => .transportClosed

theorem isSome_resolve (t : Terminal) (a : Outcome) : (t.resolve a).isSome = true := by
  cases t <;> rfl

end Terminal

/-! ## Exchanges -/

/-- The packets that answered a command packet. -/
structure ResponsePackets where
  /-- The acknowledgement. -/
  basic : Packet
  /-- The packet with the payload, for a query. -/
  advanced : Option Packet
  deriving DecidableEq, Repr

/-- Puts the packets together with the command that they answer. -/
def ResponsePackets.toResponse (packets : ResponsePackets) (command : Command) :
    Except Error Response :=
  Response.ofPackets command packets.basic packets.advanced

/-- A shutdown that falls into an exchange. -/
structure Interruption where
  /-- When it happens. -/
  moment : Moment
  /-- The outcome that is asked for. -/
  outcome : Outcome
  deriving DecidableEq, Repr

/-- The result of an exchange. -/
structure Exchanged (τ : Type) where
  /-- The packets that came back, or what went wrong. -/
  answer : Except Error ResponsePackets
  /-- How long it took, in nanoseconds. -/
  latency : Nat
  /-- The transport afterwards. -/
  transport : τ

/-- What carries packets to a projector and back. -/
class Transport (τ : Type) where
  /-- Sends a packet at a moment and waits for its answer.  A shutdown may be on its way. -/
  exchange : Packet → Moment → Option Interruption → τ → Exchanged τ
  /-- Ends the transport at a moment. -/
  shutdown : Outcome → Moment → τ → τ
  /-- Lets everything happen that is due before a moment. -/
  advance : Moment → τ → τ
  /-- How the transport has ended, if it has. -/
  outcome : τ → Terminal

/-- A transport of either of two kinds. -/
instance {σ τ : Type} [Transport σ] [Transport τ] : Transport (σ ⊕ τ) where
  exchange packet now interruption
    | .inl t =>
      let done := Transport.exchange packet now interruption t
      ⟨done.answer, done.latency, .inl done.transport⟩
    | .inr t =>
      let done := Transport.exchange packet now interruption t
      ⟨done.answer, done.latency, .inr done.transport⟩
  shutdown outcome now
    | .inl t => .inl (Transport.shutdown outcome now t)
    | .inr t => .inr (Transport.shutdown outcome now t)
  advance moment
    | .inl t => .inl (Transport.advance moment t)
    | .inr t => .inr (Transport.advance moment t)
  outcome
    | .inl t => Transport.outcome t
    | .inr t => Transport.outcome t

/-! ## Connecting -/

/-- What came of connecting. -/
structure Connected (κ τ : Type) where
  /-- A new connection, or what went wrong. -/
  result : Except Error τ
  /-- How long it took, in nanoseconds. -/
  latency : Nat
  /-- The connector afterwards. -/
  connector : κ

/-- What makes new connections. -/
class Connector (κ : Type) (τ : outParam Type) where
  /-- Connects, from a given moment on. -/
  connect : Moment → κ → Connected κ τ

end ProjectorControl
