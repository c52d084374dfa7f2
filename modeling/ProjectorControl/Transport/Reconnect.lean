import ProjectorControl.Transport.Basic

/-!
# Transports that connect on demand

A projector takes very few connections at once, so a client should not hold one longer
than it needs.  This transport connects when it has something to send, keeps the
connection for a while after the last exchange, and then closes it.  The next exchange
connects again.

    exchange     cancel the idle timer
                 take the connection, if it is alive; connect otherwise
                 exchange on that connection
                 start the idle timer, whatever came of it
    idle timer   close the connection
    shutdown     cancel the timer, close the connection, and end

Each of these lines is one step here, because other things may happen between them.  The
*epoch* changes whenever the timer is cancelled or started, so a timer that has expired
but not acted yet can tell that it is out of date.  Epochs are counted without bound: a
count of 64 bits that wraps around is the same for fewer than 2^64 cancellations.
-/

namespace ProjectorControl

/-- A timer for an idle connection. -/
structure IdleTimer where
  /-- The epoch in which it was started. -/
  epoch : Nat
  /-- When it expires. -/
  due : Moment
  deriving DecidableEq, Repr

/-- A transport that connects on demand. -/
structure ReconnectTransport (κ τ : Type) where
  /-- What makes the connections. -/
  connector : κ
  /-- How long a connection may be idle. -/
  idleTimeout : Duration
  /-- All connections ever made, oldest first. -/
  made : List τ := []
  /-- The position of the connection in use. -/
  current : Option Nat := none
  /-- The timer that runs. -/
  idleTimer : Option IdleTimer := none
  /-- How often the timer was cancelled. -/
  epoch : Nat := 0
  /-- How the transport has ended. -/
  terminal : Terminal := none

namespace ReconnectTransport

variable {κ τ : Type} [Transport τ]

/-! ## Connections -/

/-- The connection in use. -/
def currentConnection? (t : ReconnectTransport κ τ) : Option τ :=
  t.current.bind fun i => t.made[i]?

/-- Whether the connection in use is alive. -/
def isConnected (t : ReconnectTransport κ τ) : Bool :=
  match t.currentConnection? with
  | some inner => (Transport.outcome inner).isNone
  | none => false

/-- Changes one of the connections. -/
def modifyAt (t : ReconnectTransport κ τ) (i : Nat) (f : τ → τ) : ReconnectTransport κ τ :=
  { t with made := t.made.modify i f }

/-! ## Steps -/

/-- Cancels the idle timer. -/
def cancelIdle (t : ReconnectTransport κ τ) : ReconnectTransport κ τ :=
  { t with epoch := t.epoch + 1, idleTimer := none }

/-- Takes the connection in use, if it is alive; a dead one is let go. -/
def takeLive (t : ReconnectTransport κ τ) : Option Nat × ReconnectTransport κ τ :=
  if t.isConnected then (t.current, t) else (none, { t with current := none })

/-- Puts a new connection to use.  If the transport has ended meanwhile, the connection is
closed again. -/
def install (t : ReconnectTransport κ τ) (inner : τ) (now : Moment) :
    Except Error Nat × ReconnectTransport κ τ :=
  let i := t.made.length
  match t.terminal with
  | some _ =>
    (.error t.terminal.fault, { t with made := t.made ++ [Transport.shutdown .clean now inner] })
  | none => (.ok i, { t with made := t.made ++ [inner], current := some i })

/-- Starts the idle timer, in the place of any that runs, unless there is no connection.  The
time that is allowed is not cut to `longestWait`. -/
def arm (t : ReconnectTransport κ τ) (now : Moment) : ReconnectTransport κ τ :=
  let t := t.cancelIdle
  match t.current with
  | none => t
  | some _ => { t with idleTimer := some ⟨t.epoch, now + t.idleTimeout.nanos⟩ }

/-- Starts the idle timer if the transport has not ended. -/
def armIfOpen (t : ReconnectTransport κ τ) (now : Moment) : ReconnectTransport κ τ :=
  match t.terminal with
  | none => t.arm now
  | some _ => t

/-- Lets an expired timer take the connection away, unless it is out of date. -/
def expire (t : ReconnectTransport κ τ) (epoch : Nat) : Option Nat × ReconnectTransport κ τ :=
  if t.epoch = epoch then (t.current, { t with idleTimer := none, current := none }) else (none, t)

/-- Closes the connection that a timer has taken away. -/
def closeTaken (t : ReconnectTransport κ τ) (taken : Option Nat) (now : Moment) :
    ReconnectTransport κ τ :=
  match taken with
  | none => t
  | some i => t.modifyAt i (Transport.shutdown .clean now)

/-- Records an outcome.  The first one stays. -/
def resolve (t : ReconnectTransport κ τ) (outcome : Outcome) : ReconnectTransport κ τ :=
  { t with terminal := t.terminal.resolve outcome }

/-! ## Whole operations -/

/-- Records an outcome, and cancels the timer if it is the first. -/
def stop (t : ReconnectTransport κ τ) (outcome : Outcome) : ReconnectTransport κ τ :=
  match t.terminal with
  | some _ => t
  | none => (t.resolve outcome).cancelIdle

/-- Ends the transport and closes the connection in use. -/
def shutdown (t : ReconnectTransport κ τ) (outcome : Outcome) (now : Moment) :
    ReconnectTransport κ τ :=
  match t.terminal with
  | some _ => t
  | none => (t.stop outcome).closeTaken t.current now

/-- Lets the connections and the idle timer do what is due before a moment.  A timer that
is due at the moment itself comes after all else that happens then. -/
def advance (t : ReconnectTransport κ τ) (moment : Moment) : ReconnectTransport κ τ :=
  let t := match t.idleTimer with
    | some timer =>
      if timer.due < moment then
        let t := { t with made := t.made.map (Transport.advance timer.due) }
        let (taken, t) := t.expire timer.epoch
        t.closeTaken taken timer.due
      else t
    | none => t
  { t with made := t.made.map (Transport.advance moment) }

/-- Applies a shutdown that falls into a span of time during which there is no connection
to close. -/
def interruptIn (t : ReconnectTransport κ τ) (until_ : Moment) :
    Option Interruption → ReconnectTransport κ τ
  | some i => if i.moment < until_ then t.stop i.outcome else t
  | none => t

/-- Exchanges a packet on a connection.  A shutdown that falls into the exchange ends the
transport, and closes the connection. -/
def exchangeOn (t : ReconnectTransport κ τ) (i : Nat) (packet : Packet) (now : Moment)
    (interruption : Option Interruption) : Exchanged (ReconnectTransport κ τ) :=
  match t.made[i]? with
  | none => ⟨.error t.terminal.fault, 0, t⟩
  | some inner =>
    let onInner := interruption.map fun i => { i with outcome := Outcome.clean }
    let done := Transport.exchange packet now onInner inner
    let t := t.modifyAt i fun _ => done.transport
    ⟨done.answer, done.latency, t.interruptIn (now + done.latency) interruption⟩

/-- Gets a connection, and makes one if there is none alive. -/
def connection [Connector κ τ] (t : ReconnectTransport κ τ) (now : Moment)
    (interruption : Option Interruption) : (Except Error Nat × Nat) × ReconnectTransport κ τ :=
  match t.takeLive with
  | (some i, t) => ((.ok i, 0), t)
  | (none, t) =>
    let made := Connector.connect now t.connector
    let finished := now + made.latency
    let t := { t with connector := made.connector }.interruptIn finished interruption
    match made.result with
    | .error fault => ((.error fault, made.latency), t)
    | .ok inner =>
      let (result, t) := t.install inner finished
      ((result, made.latency), t)

/-- Sends a packet and waits for its answer, connecting first if need be. -/
def exchange [Connector κ τ] (t : ReconnectTransport κ τ) (packet : Packet) (now : Moment)
    (interruption : Option Interruption) : Exchanged (ReconnectTransport κ τ) :=
  match t.terminal with
  | some _ => ⟨.error t.terminal.fault, 0, t⟩
  | none =>
    match (t.advance now).cancelIdle.connection now interruption with
    | ((.error fault, waited), t) => ⟨.error fault, waited, t.armIfOpen (now + waited)⟩
    | ((.ok i, waited), t) =>
      let done := t.exchangeOn i packet (now + waited) interruption
      let latency := waited + done.latency
      ⟨done.answer, latency, done.transport.armIfOpen (now + latency)⟩

instance [Connector κ τ] : Transport (ReconnectTransport κ τ) where
  exchange packet now interruption t := t.exchange packet now interruption
  shutdown outcome now t := t.shutdown outcome now
  advance moment t := t.advance moment
  outcome t := t.terminal

/-- The transport for display. -/
def text (t : ReconnectTransport κ τ) : String :=
  let fields := String.intercalate ", " [
    s!"idle_timeout: {t.idleTimeout.text}",
    s!"connected: {t.isConnected}",
    s!"shutting_down: {t.terminal.isSome}"]
  s!"ReconnectTransport \x7b {fields} \x7d"

end ReconnectTransport

end ProjectorControl
