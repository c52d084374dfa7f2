import ProjectorControl.Transport.Reconnect

/-!
# Step by step

An exchange on a transport that connects on demand is a sequence of steps, and so are the end of
an idle timer and a shutdown:

    call       begins ── is admitted ── cancels the timer ──┬── takes the connection ─────────────┐
                                                            └── connects ── puts it to use ───────┤
                                            starts the timer ── has a result ── exchanges on it ──┘
    timer      sleeps ── wakes ── takes the connection away ── closes it
    shutdown   records the outcome ── notes the connection ── closes it

Only one call is under way at a time.  Otherwise the steps may come in any order, and between any
two of them connections may end by themselves.  A timer that is cancelled stops, unless it has
woken up: then it finds out by its epoch that it is out of date.  Epochs never come back, which is
right for a count of 64 bits that wraps around as long as there are fewer than 2^64 cancellations.

Each step is a `ReconnectEvent`, and `SharedReconnect.step` says what comes of it.  An event that
cannot happen as things stand changes nothing.
-/

namespace ProjectorControl

/-- What may become of a connection by itself.  If it has ended, it stays so. -/
structure Change (τ : Type) [Transport τ] where
  /-- The connection afterwards. -/
  apply : τ → τ
  /-- An end lasts. -/
  keeps : ∀ inner, (Transport.outcome inner).isSome → (Transport.outcome (apply inner)).isSome

/-- Where a call stands. -/
inductive ReconnectPhase (τ : Type) where
  /-- It has begun. -/
  | begun
  /-- The transport had not ended. -/
  | admitted
  /-- The idle timer is cancelled. -/
  | quiet
  /-- A connection is being made. -/
  | connecting
  /-- A connection was made, and is not yet put to use. -/
  | connected (inner : τ)
  /-- An exchange is under way on a connection. -/
  | exchanging (i : Nat)
  /-- There is a result. -/
  | resolved (result : Except Error ResponsePackets)
  /-- There is a result, the transport had not ended, and the idle timer is to be started. -/
  | rearming (result : Except Error ResponsePackets)

/-- A call under way. -/
structure ReconnectCall (τ : Type) where
  /-- The packet. -/
  packet : Packet
  /-- Where the call stands. -/
  phase : ReconnectPhase τ := .begun

/-- An idle timer at work. -/
structure TimerTask where
  /-- The epoch in which it was started. -/
  epoch : Nat
  /-- Whether it has woken up. -/
  woken : Bool := false
  deriving DecidableEq, Repr

/-- How far a shutdown has come. -/
inductive Closing where
  /-- There was none. -/
  | unasked
  /-- The outcome is recorded. -/
  | recorded
  /-- The timer is cancelled, and the connection in use noted. -/
  | noted (current : Option Nat)
  /-- The connection is closed. -/
  | done
  deriving DecidableEq, Repr

/-- A transport that connects on demand, and all that is under way on it. -/
structure SharedReconnect (κ τ : Type) where
  /-- The transport. -/
  transport : ReconnectTransport κ τ
  /-- The call under way. -/
  call : Option (ReconnectCall τ) := none
  /-- The timers that have not taken a connection. -/
  tasks : List TimerTask := []
  /-- The connections that timers have taken away, and not yet closed. -/
  taken : List Nat := []
  /-- The shutdown. -/
  closing : Closing := .unasked

/-- What can happen. -/
inductive ReconnectEvent (κ τ : Type) [Transport τ] where
  /-- A caller, whose turn it is, wants a packet sent. -/
  | call (packet : Packet)
  /-- The call takes its next step. -/
  | goOn (now : Moment)
  /-- The attempt to connect is over. -/
  | connected (result : Except Error τ) (connector : κ)
  /-- The exchange on the connection is over. -/
  | exchanged (result : Except Error ResponsePackets)
  /-- Something becomes of a connection. -/
  | changes (i : Nat) (change : Change τ)
  /-- Something becomes of a connection that is not yet put to use. -/
  | changesNew (change : Change τ)
  /-- An idle timer wakes up. -/
  | wake (task : Nat)
  /-- An idle timer that has woken up takes the connection away, unless it is out of date. -/
  | expire (task : Nat)
  /-- An idle timer closes the connection that it has taken away. -/
  | close (position : Nat) (now : Moment)
  /-- Somebody shuts the transport down. -/
  | shutdown (outcome : Outcome)
  /-- Whoever shuts the transport down notes the connection in use. -/
  | note
  /-- Whoever shuts the transport down closes the connection. -/
  | closeNoted (now : Moment)

/-- What a transport does that connects on demand. -/
inductive ReconnectEffect where
  /-- It calls the connector. -/
  | connect
  /-- It hands a packet to a connection. -/
  | hand (i : Nat) (packet : Packet)
  /-- It closes an idle connection. -/
  | closeIdle (i : Nat)
  /-- It answers the caller. -/
  | answer (result : Except Error ResponsePackets)

namespace SharedReconnect

variable {κ τ : Type}

/-- Cancels the idle timer.  A timer that has woken up goes on. -/
def cancelIdle (s : SharedReconnect κ τ) : SharedReconnect κ τ :=
  { s with transport := s.transport.cancelIdle, tasks := s.tasks.filter (·.woken) }

/-- Starts an idle timer, unless there is no connection. -/
def arm (s : SharedReconnect κ τ) (now : Moment) : SharedReconnect κ τ :=
  let transport := s.transport.arm now
  let started := transport.idleTimer.toList.map fun timer => (⟨timer.epoch, false⟩ : TimerTask)
  { s with transport := transport, tasks := s.tasks.filter (·.woken) ++ started }

/-- Answers the call. -/
def answer (s : SharedReconnect κ τ) (result : Except Error ResponsePackets) :
    SharedReconnect κ τ × List ReconnectEffect :=
  ({ s with call := none }, [.answer result])

variable [Transport τ]

/-- The next step of a call.  While it waits for a connection, or for an answer, it has none. -/
def goOn (s : SharedReconnect κ τ) (call : ReconnectCall τ) (now : Moment) :
    SharedReconnect κ τ × List ReconnectEffect :=
  match call.phase with
  | .begun =>
    match s.transport.terminal with
    | some _ => s.answer (.error s.transport.terminal.fault)
    | none => ({ s with call := some { call with phase := .admitted } }, [])
  | .admitted => ({ s.cancelIdle with call := some { call with phase := .quiet } }, [])
  | .quiet =>
    match s.transport.takeLive with
    | (some i, transport) =>
      ({ s with transport := transport, call := some { call with phase := .exchanging i } },
        [.hand i call.packet])
    | (none, transport) =>
      ({ s with transport := transport, call := some { call with phase := .connecting } },
        [.connect])
  | .connected inner =>
    match s.transport.install inner now with
    | (.ok i, transport) =>
      ({ s with transport := transport, call := some { call with phase := .exchanging i } },
        [.hand i call.packet])
    | (.error fault, transport) =>
      ({ s with
        transport := transport
        call := some { call with phase := .resolved (.error fault) } }, [])
  | .resolved result =>
    match s.transport.terminal with
    | some _ => s.answer result
    | none => ({ s with call := some { call with phase := .rearming result } }, [])
  | .rearming result => (s.arm now).answer result
  | .connecting | .exchanging _ => (s, [])

/-- What comes of an event. -/
def step (s : SharedReconnect κ τ) :
    ReconnectEvent κ τ → SharedReconnect κ τ × List ReconnectEffect
  | .call packet =>
    match s.call with
    | none => ({ s with call := some ⟨packet, .begun⟩ }, [])
    | some _ => (s, [])
  | .goOn now =>
    match s.call with
    | some call => s.goOn call now
    | none => (s, [])
  | .connected result connector =>
    match s.call with
    | some ⟨packet, .connecting⟩ =>
      let phase := match result with
        | .ok inner => ReconnectPhase.connected inner
        | .error fault => .resolved (.error fault)
      ({ s with
        transport := { s.transport with connector := connector }
        call := some ⟨packet, phase⟩ }, [])
    | _ => (s, [])
  | .exchanged result =>
    match s.call with
    | some ⟨packet, .exchanging _⟩ => ({ s with call := some ⟨packet, .resolved result⟩ }, [])
    | _ => (s, [])
  | .changes i change => ({ s with transport := s.transport.modifyAt i change.apply }, [])
  | .changesNew change =>
    match s.call with
    | some ⟨packet, .connected inner⟩ =>
      ({ s with call := some ⟨packet, .connected (change.apply inner)⟩ }, [])
    | _ => (s, [])
  | .wake task =>
    ({ s with tasks := s.tasks.modify task fun task => { task with woken := true } }, [])
  | .expire task =>
    match s.tasks[task]? with
    | some ⟨epoch, true⟩ =>
      let (taken, transport) := s.transport.expire epoch
      ({ s with
        transport := transport
        tasks := s.tasks.eraseIdx task
        taken := s.taken ++ taken.toList }, [])
    | _ => (s, [])
  | .close position now =>
    match s.taken[position]? with
    | some i =>
      ({ s with
        transport := s.transport.closeTaken (some i) now
        taken := s.taken.eraseIdx position }, [.closeIdle i])
    | none => (s, [])
  | .shutdown outcome =>
    match s.transport.terminal with
    | none => ({ s with transport := s.transport.resolve outcome, closing := .recorded }, [])
    | some _ => (s, [])
  | .note =>
    match s.closing with
    | .recorded => ({ s.cancelIdle with closing := .noted s.transport.current }, [])
    | _ => (s, [])
  | .closeNoted now =>
    match s.closing with
    | .noted current =>
      ({ s with transport := s.transport.closeTaken current now, closing := .done }, [])
    | _ => (s, [])

/-- Lets events happen, one after another, and gives all that the transport does. -/
def run (s : SharedReconnect κ τ) :
    List (ReconnectEvent κ τ) → SharedReconnect κ τ × List ReconnectEffect
  | [] => (s, [])
  | event :: later =>
    (((s.step event).1.run later).1, (s.step event).2 ++ ((s.step event).1.run later).2)

end SharedReconnect

end ProjectorControl
