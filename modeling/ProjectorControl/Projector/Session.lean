import ProjectorControl.Handshake
import ProjectorControl.Packet.Framing

/-!
# Sessions

A session is the projector's side of one connection.  It does nothing by itself: it is
told of received bytes and expired timers, and answers with the actions to carry out.

    unconnected → greeting → authenticating → ready ⇄ running
                             authenticating → rejecting
                             (any live state) → closing → closed

Bytes are compared with the expected request as they arrive.  Whatever cannot become the
request any more is refused at once, and so is anything beyond the request, because a
client has to wait for its acceptance before it says more.
-/

namespace ProjectorControl

/-- Where a session stands. -/
inductive SessionState where
  /-- Nothing was sent yet. -/
  | unconnected
  /-- The greeting is being sent. -/
  | greeting
  /-- The client has not asked to be let in yet, or not completely. -/
  | authenticating
  /-- The client is being refused. -/
  | rejecting
  /-- The client was let in, and the next packet is awaited. -/
  | ready
  /-- A packet is being handed over. -/
  | running
  /-- The connection is being closed. -/
  | closing
  /-- The connection is closed. -/
  | closed
  deriving DecidableEq, Repr

namespace SessionState

/-- All states. -/
def all : List SessionState :=
  [unconnected, greeting, authenticating, rejecting, ready, running, closing, closed]

/-- The name of a state. -/
def name : SessionState → String
  | unconnected => "Unconnected"
  | greeting => "SendingGreeting"
  | authenticating => "ReadingAuthentication"
  | rejecting => "Rejecting"
  | ready => "ReadingCommand"
  | running => "RunningCommand"
  | closing => "ShuttingDown"
  | closed => "Closed"

/-- The name of a state as an identifier. -/
def identifier : SessionState → String
  | unconnected => "unconnected"
  | greeting => "sending_greeting"
  | authenticating => "reading_authentication"
  | rejecting => "rejecting"
  | ready => "reading_command"
  | running => "running_command"
  | closing => "shutting_down"
  | closed => "closed"

/-- Whether the session has not begun to close. -/
def isLive : SessionState → Bool
  | closing | closed => false
  | _ => true

/-- Whether one state may follow another. -/
def mayBecome (source target : SessionState) : Bool :=
  match source, target with
  | unconnected, greeting | greeting, authenticating | authenticating, ready
  | authenticating, rejecting | ready, running | running, ready | closing, closed => true
  | _, closing => source.isLive
  | _, _ => false

end SessionState

/-! ## Actions -/

/-- The timers of a session.  At most one runs at a time. -/
inductive SessionTimer where
  /-- The time to be let in. -/
  | handshake
  /-- The time between packets. -/
  | idle
  deriving DecidableEq, Repr

/-- The name of a timer. -/
def SessionTimer.name : SessionTimer → String
  | handshake => "handshake"
  | idle => "idle"

/-- What a session wants done. -/
inductive SessionAction where
  /-- Send bytes to the client. -/
  | write (bytes : Bytes)
  /-- Hand a packet over for execution. -/
  | dispatch (packet : Packet)
  /-- Start a timer, in the place of any that runs. -/
  | arm (timer : SessionTimer)
  /-- Stop the timer that runs. -/
  | cancel
  /-- Close the connection. -/
  | close
  deriving DecidableEq, Repr

/-! ## Sessions -/

/-- The projector's side of a connection. -/
structure Session where
  /-- Where the session stands. -/
  state : SessionState := .unconnected
  /-- The request that lets a client in. -/
  expected : Bytes
  /-- What the client has sent of its request. -/
  request : Bytes := []
  /-- What the client has sent since, cut into packets. -/
  decoder : Framing.Decoder := {}
  deriving DecidableEq, Repr

namespace Session

/-- A new session that expects a password, or none. -/
def new (password : Option String) : Session :=
  { expected := Handshake.requestWith password }

/-- A change of state, if it is allowed. -/
def moveTo (s : Session) (target : SessionState) : Except Error Session :=
  if s.state.mayBecome target then .ok { s with state := target }
  else .error (.invalidStateTransition s.state.name target.name)

theorem decoder_of_moveTo {s t : Session} {target : SessionState} (h : s.moveTo target = .ok t) :
    t.decoder = s.decoder := by
  unfold moveTo at h
  split at h
  · simp only [Except.ok.injEq] at h
    rw [← h]
  · simp at h

/-- Greets the client.  This can be done once. -/
def connect (s : Session) : Except Error (List SessionAction) × Session :=
  match s.moveTo .greeting with
  | .error fault => (.error fault, s)
  | .ok greeting =>
    match greeting.moveTo .authenticating with
    | .error fault => (.error fault, greeting)
    | .ok authenticating => (.ok [.write Handshake.greeting, .arm .handshake], authenticating)

/-- Takes in bytes of the client's request. -/
def authenticate (s : Session) (bytes : Bytes) : Except Error (List SessionAction) × Session :=
  let s := { s with request := s.request ++ bytes }
  if !s.request.isPrefixOf s.expected then
    match s.moveTo .rejecting with
    | .error fault => (.error fault, s)
    | .ok rejecting => (.ok [.cancel, .write Handshake.refused, .close], rejecting)
  else if s.request.length < s.expected.length then (.ok [], s)
  else
    match s.moveTo .ready with
    | .error fault => (.error fault, s)
    | .ok ready =>
      (.ok [.cancel, .write Handshake.accepted, .arm .idle], { ready with request := [] })

/-- Hands over all packets that have arrived.  A faulty line stops this, and the actions for
the packets in front of it are lost. -/
def handOver (s : Session) : Except Error (List SessionAction) × Session :=
  match _ : s.decoder.decode with
  | (.error fault, decoder) => (.error fault, { s with decoder := decoder })
  | (.ok none, decoder) => (.ok [], { s with decoder := decoder })
  | (.ok (some packet), decoder) =>
    let taken := { s with decoder := decoder }
    match _ : taken.moveTo .running with
    | .error fault => (.error fault, taken)
    | .ok running =>
      match _ : running.moveTo .ready with
      | .error fault => (.error fault, running)
      | .ok ready =>
        let (later, last) := ready.handOver
        (later.map fun actions => .cancel :: .dispatch packet :: .arm .idle :: actions, last)
termination_by s.decoder.buffer.length
decreasing_by
  rename_i decoded toRunning toReady
  rw [decoder_of_moveTo toReady, decoder_of_moveTo toRunning]
  exact Framing.Decoder.length_lt_of_decode decoded

/-- Takes in bytes from the client.  A session that is not reading drops them. -/
def receive (s : Session) (bytes : Bytes) : Except Error (List SessionAction) × Session :=
  match s.state with
  | .authenticating => s.authenticate bytes
  | .ready => { s with decoder := s.decoder.feed bytes }.handOver
  | _ => (.ok [], s)

/-- Takes note of an expired timer.  One that was meant for a state since left does
nothing. -/
def expire (s : Session) (timer : SessionTimer) : List SessionAction × Session :=
  match timer, s.state with
  | .handshake, .authenticating =>
    ([.write Handshake.refused, .close], { s with state := .rejecting })
  | .idle, .ready => ([.close], s)
  | _, _ => ([], s)

/-- Begins to close, and says whether the session was live. -/
def beginClose (s : Session) : Bool × Session :=
  if s.state.isLive then (true, { s with state := .closing }) else (false, s)

/-- Ends the session. -/
def finishClose (s : Session) : Session := { s with state := .closed }

/-- A session for display. -/
def text (s : Session) : String :=
  s!"SessionMachine \x7b state: {s.state.name}, buffered: {s.decoder.buffer.length}, .. \x7d"

end Session

end ProjectorControl
