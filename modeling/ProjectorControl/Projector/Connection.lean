import ProjectorControl.Projector.Session
import ProjectorControl.Projector.SessionTable

/-!
# Connections to a projector

A session together with its timer and with what happens around it.  A connection reads
bytes, lets its timer expire, and sends what the dispatcher tells it, one thing after
another; each time the actions of the session are carried out in order.

It ends when the session wants to close, when the client is gone or takes no more bytes,
when a packet of the client is faulty, when there is no dispatcher any more, or when the
projector is shut down.
-/

namespace ProjectorControl

/-- A timer that runs. -/
structure ArmedTimer where
  /-- Which one. -/
  timer : SessionTimer
  /-- When it expires. -/
  due : Moment
  deriving DecidableEq, Repr

/-- What a connection meets with while it carries out actions. -/
structure Surroundings where
  /-- How many bytes the client still takes, if there is a bound.  Beyond it the connection
  breaks. -/
  room : Option Nat := none
  /-- Whether the dispatcher takes packets. -/
  dispatching : Bool := true
  deriving DecidableEq, Repr

namespace Surroundings

/-- How many of so many bytes the client takes. -/
def accepted (s : Surroundings) (count : Nat) : Nat :=
  match s.room with
  | none => count
  | some room => min room count

/-- The surroundings once the client has taken some bytes. -/
def after (s : Surroundings) (count : Nat) : Surroundings :=
  { s with room := s.room.map fun room => room - count }

end Surroundings

/-- A connection that is being served. -/
structure Connection where
  /-- The session. -/
  session : Session
  /-- How long the client may take to be let in. -/
  handshakeLimit : Duration
  /-- How long the client may say nothing. -/
  idleLimit : Duration
  /-- The timer that runs. -/
  timer : Option ArmedTimer := none
  /-- Whether the connection has ended. -/
  ended : Bool := false
  deriving DecidableEq, Repr

/-- What can happen to a connection. -/
inductive ConnectionEvent where
  /-- It begins. -/
  | start
  /-- Bytes arrive from the client. -/
  | received (bytes : Bytes)
  /-- The client is gone, or reading fails. -/
  | lost
  /-- The timer expires. -/
  | expired
  /-- The dispatcher tells it something. -/
  | told (message : SessionMessage)
  /-- The projector is shut down. -/
  | cancelled
  deriving DecidableEq, Repr

/-- What a connection does. -/
inductive ConnectionEffect where
  /-- It sends bytes to the client. -/
  | write (bytes : Bytes)
  /-- It hands a packet over for execution. -/
  | dispatch (packet : Packet)
  /-- It ends. -/
  | hangUp
  deriving DecidableEq, Repr

namespace Connection

/-- A new connection as the settings say. -/
def ofConfig (c : EmulatorConfig) : Connection :=
  { session := .new c.secret, handshakeLimit := c.handshakeTimeout, idleLimit := c.idleTimeout }

/-- How long a timer runs. -/
def limitOf (c : Connection) : SessionTimer → Duration
  | .handshake => c.handshakeLimit
  | .idle => c.idleLimit

/-- Ends the connection. -/
def finish (c : Connection) : Connection × List ConnectionEffect :=
  ({ c with session := c.session.beginClose.2.finishClose, timer := none, ended := true }, [.hangUp])

/-- Carries out actions, one after another, until one of them ends the connection.  The limit of
a timer is not cut to `longestWait`. -/
def perform (c : Connection) (now : Moment) (s : Surroundings) :
    List SessionAction → Connection × List ConnectionEffect
  | [] => (c, [])
  | .write bytes :: later =>
    let count := s.accepted bytes.length
    let written := ConnectionEffect.write (bytes.take count)
    if count < bytes.length then
      let (c, effects) := c.finish
      (c, written :: effects)
    else
      let (c, effects) := c.perform now (s.after count) later
      (c, written :: effects)
  | .dispatch packet :: later =>
    if s.dispatching then
      let (c, effects) := c.perform now s later
      (c, .dispatch packet :: effects)
    else c.finish
  | .arm timer :: later =>
    { c with timer := some ⟨timer, now + (c.limitOf timer).nanos⟩ }.perform now s later
  | .cancel :: later => { c with timer := none }.perform now s later
  | .close :: _ => c.finish

/-- Carries out the actions of a session that may have refused what came. -/
def follow (c : Connection) (now : Moment) (s : Surroundings)
    (result : Except Error (List SessionAction) × Session) : Connection × List ConnectionEffect :=
  match result with
  | (.ok actions, session) => { c with session := session }.perform now s actions
  | (.error _, session) => { c with session := session }.finish

/-- What comes of an event.  Nothing happens after the end. -/
def step (c : Connection) (now : Moment) (s : Surroundings) (event : ConnectionEvent) :
    Connection × List ConnectionEffect :=
  if c.ended then (c, [])
  else
    match event with
    | .start => c.follow now s c.session.connect
    | .received bytes => c.follow now s (c.session.receive bytes)
    | .lost | .cancelled => c.finish
    | .expired =>
      match c.timer with
      | none => (c, [])
      | some armed =>
        if armed.due ≤ now then
          let (actions, session) := c.session.expire armed.timer
          { c with session := session, timer := none }.perform now s actions
        else (c, [])
    | .told (.send packets) => c.perform now s (packets.map fun p => .write p.bytes)
    | .told .close => c.finish

end Connection

end ProjectorControl
