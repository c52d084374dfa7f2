import ProjectorControl.Net.Stream
import ProjectorControl.Projector.Connection
import ProjectorControl.Projector.Emulation

/-!
# An emulated projector as a server

The whole projector: it listens, serves each connection, and answers its owner, who may
look at the status fields, set them, and shut it down.

    client ──> connection ─┐
    client ──> connection ─┼──> queue ──> dispatcher ──> mailboxes ──> connections
    owner ─────────────────┘

Whatever happens is one `ServerEvent` after another, in any order.  An owner's request is
two events: the projector is asked whether it still runs, and then the request is put
into the queue.  In the same way a shutdown is three: the question whether one is under
way, the cancellation, and the request that stops the dispatcher.
-/

namespace ProjectorControl

open ProjectorControl.Net

/-- What the owner of a projector asks. -/
inductive Inquiry where
  /-- To set a field. -/
  | set (field : StatusField) (value : String)
  /-- What the value of a field is. -/
  | get (field : StatusField)
  deriving DecidableEq, Repr

/-- The request of a caller. -/
def Inquiry.toRequest (caller : Nat) : Inquiry → Request
  | .set field value => .setStatus caller field value
  | .get field => .getStatus caller field

/-- The caller whom a request is from. -/
def Request.caller? : Request → Option Nat
  | .setStatus caller _ _ | .getStatus caller _ => some caller
  | .packet _ _ | .powerTimer _ | .stop => none

/-- A connection under the number of its session. -/
structure Served where
  /-- The number. -/
  id : SessionId
  /-- The connection. -/
  connection : Connection
  deriving DecidableEq, Repr

/-- A projector that listens. -/
structure Server where
  /-- The settings. -/
  config : EmulatorConfig
  /-- Where it listens. -/
  address : SocketAddress
  /-- The dispatcher, its queue, and the table of sessions. -/
  emulation : Emulation
  /-- The connections. -/
  served : List Served := []
  /-- The callers so far. -/
  callers : Nat := 0
  /-- Inquiries that were let through and are not queued yet. -/
  admitted : List Request := []
  /-- Callers whom nobody will answer any more. -/
  refused : List Nat := []
  /-- Whether it is being shut down. -/
  cancelled : Bool := false
  /-- Shutdowns that were let through and have not cancelled yet. -/
  cancelling : Nat := 0
  /-- Shutdowns that have cancelled and not queued their request yet. -/
  stopping : Nat := 0

/-- What can happen to a projector. -/
inductive ServerEvent where
  /-- A client connects. -/
  | accept
  /-- Something happens to a connection. -/
  | connection (id : SessionId) (event : ConnectionEvent) (room : Option Nat)
  /-- A connection takes the first message from its mailbox. -/
  | deliver (id : SessionId) (room : Option Nat)
  /-- The dispatcher handles a request. -/
  | dispatch
  /-- A timer of the lamp expires. -/
  | powerTimer (timer : PowerTimer)
  /-- The owner asks something. -/
  | inquire (inquiry : Inquiry)
  /-- An inquiry that was let through is queued. -/
  | submit (caller : Nat)
  /-- The owner begins to shut the projector down. -/
  | shutdown
  /-- A shutdown cancels all connections. -/
  | cancel
  /-- A shutdown queues its request. -/
  | stop
  deriving DecidableEq, Repr

/-- What a projector does. -/
inductive ServerEffect where
  /-- It sends bytes to a client. -/
  | write (id : SessionId) (bytes : Bytes)
  /-- It closes a connection. -/
  | close (id : SessionId)
  /-- It turns a client away, because there are too many. -/
  | reject
  deriving DecidableEq, Repr

namespace Server

/-- The fault of a projector that was shut down. -/
def stopped : Error := .connectionClosed "emulator is shut down"

/-- Starts a projector as the settings say. -/
def start {ν π : Type} [Network ν π] (c : EmulatorConfig) (network : ν) : Except Error Server := do
  let emulation ← Emulation.ofConfig c
  match (Network.listen c.bindAddress network).1 with
  | .ok address => .ok { config := c, address := address, emulation := emulation }
  | .error reason => .error (.connect c.bindAddress.text reason)

/-! ## Connections -/

/-- Does what a connection wants done. -/
def applyEffect (server : Server) (id : SessionId) :
    ConnectionEffect → Server × List ServerEffect
  | .write bytes => (server, [.write id bytes])
  | .dispatch packet =>
    ({ server with emulation := server.emulation.push (.packet id packet) }, [])
  | .hangUp =>
    let emulation := server.emulation
    ({ server with
        emulation := { emulation with sessions := emulation.sessions.remove id }
        served := server.served.filter fun s => s.id ≠ id },
      [.close id])

/-- Does all that a connection wants done, in order. -/
def applyEffects (server : Server) (id : SessionId) :
    List ConnectionEffect → Server × List ServerEffect
  | [] => (server, [])
  | effect :: later =>
    let (server, first) := server.applyEffect id effect
    let (server, rest) := server.applyEffects id later
    (server, first ++ rest)

/-- Lets something happen to a connection. -/
def connectionStep (server : Server) (id : SessionId) (event : ConnectionEvent)
    (room : Option Nat) : Server × List ServerEffect :=
  match server.served.find? fun s => s.id = id with
  | none => (server, [])
  | some found =>
    let surroundings : Surroundings := { room := room, dispatching := !server.emulation.stopped }
    let (connection, effects) := found.connection.step server.emulation.now surroundings event
    let served := server.served.map fun s =>
      if s.id = id then { s with connection := connection } else s
    { server with served := served }.applyEffects id effects

/-- Lets a connection take a message from its mailbox. -/
def deliver (server : Server) (id : SessionId) (room : Option Nat) :
    Server × List ServerEffect :=
  let emulation := server.emulation
  match emulation.sessions.take? id with
  | none => (server, [])
  | some (message, sessions) =>
    { server with emulation := { emulation with sessions := sessions } }.connectionStep id
      (.told message) room

/-- Takes a client in, unless there are too many already.  A projector that was cancelled takes
nobody in.  One that learns of its cancellation and of a client at once may still take that
client; this is a client that came before the cancellation. -/
def accept (server : Server) : Server × List ServerEffect :=
  let emulation := server.emulation
  if server.cancelled then (server, [])
  else if server.config.maxSessions ≤ emulation.sessions.size then (server, [.reject])
  else
    let (id, sessions) := emulation.sessions.openSession
    ({ server with
        emulation := { emulation with sessions := sessions }
        served := server.served ++ [⟨id, .ofConfig server.config⟩] },
      [])

/-! ## The owner -/

/-- Lets an inquiry through, if the projector runs. -/
def inquire (server : Server) (inquiry : Inquiry) : Server :=
  let caller := server.callers
  let server := { server with callers := caller + 1 }
  if server.cancelled then { server with refused := server.refused ++ [caller] }
  else { server with admitted := server.admitted ++ [inquiry.toRequest caller] }

/-- Queues the inquiry of a caller.  A dispatcher that has stopped takes none. -/
def submit (server : Server) (caller : Nat) : Server :=
  match server.admitted.find? fun r => r.caller? = some caller with
  | none => server
  | some request =>
    let server := { server with admitted := server.admitted.filter fun r => r.caller? ≠ some caller }
    if server.emulation.stopped then { server with refused := server.refused ++ [caller] }
    else { server with emulation := server.emulation.push request }

/-- Lets the dispatcher handle a request.  When it stops, all that still wait in its queue
are refused. -/
def dispatch (server : Server) : Server :=
  let emulation := server.emulation.step
  if emulation.stopped then
    { server with
      emulation := { emulation with queue := [] }
      refused := server.refused ++ emulation.queue.filterMap Request.caller? }
  else { server with emulation := emulation }

/-- The answer to a caller, once there is one. -/
def replyTo? (server : Server) (caller : Nat) : Option StatusReply :=
  if caller ∈ server.refused then some (.error stopped)
  else server.emulation.answerTo? caller

/-! ## All events -/

/-- What comes of an event. -/
def step (server : Server) : ServerEvent → Server × List ServerEffect
  | .accept => server.accept
  | .connection id event room =>
    if event = .cancelled ∧ !server.cancelled then (server, [])
    else server.connectionStep id event room
  | .deliver id room => server.deliver id room
  | .dispatch => (server.dispatch, [])
  | .powerTimer timer =>
    if timer ∈ server.emulation.timers then
      ({ server with emulation := server.emulation.fire timer }, [])
    else (server, [])
  | .inquire inquiry => (server.inquire inquiry, [])
  | .submit caller => (server.submit caller, [])
  | .shutdown =>
    if server.cancelled then (server, [])
    else ({ server with cancelling := server.cancelling + 1 }, [])
  | .cancel =>
    if server.cancelling = 0 then (server, [])
    else
      ({ server with
          cancelled := true
          cancelling := server.cancelling - 1
          stopping := server.stopping + 1 },
        [])
  | .stop =>
    if server.stopping = 0 then (server, [])
    else
      ({ server with
          emulation := server.emulation.push .stop
          stopping := server.stopping - 1 },
        [])

/-- Lets several things happen, one after another. -/
def run (server : Server) : List ServerEvent → Server × List ServerEffect
  | [] => (server, [])
  | event :: later =>
    let (server, first) := server.step event
    let (server, rest) := server.run later
    (server, first ++ rest)

/-! ## Whole operations -/

/-- Lets the dispatcher handle all that is queued. -/
def drain (server : Server) : Server :=
  server.emulation.queue.foldl (fun server _ => server.dispatch) server

/-- Lets time pass up to a moment, and all happen that is due by then. -/
def advance (server : Server) (moment : Moment) : Server :=
  let server := server.drain
  { server with emulation := (server.emulation.advance moment).settle }

/-- Asks something, with nothing else in between. -/
def ask (server : Server) (inquiry : Inquiry) : StatusReply × Server :=
  let caller := server.callers
  let server := ((server.inquire inquiry).submit caller).drain
  ((server.replyTo? caller).getD (.error stopped), server)

/-- Asks for a field again and again until it has a value, but not longer than for a
limit, and says whether it got the value.  The value can change only when a timer of the
lamp expires, so that is when it is asked for. -/
def askUntil (server : Server) (field : StatusField) (value : String) (limit : Nat) :
    Except Error Bool × Server :=
  let (reply, server) := server.ask (.get field)
  let now := server.emulation.now
  let deadline := now + limit
  let moments := now :: (server.emulation.dueBefore deadline).map PowerTimer.due
  let reached := moments.find? fun moment =>
    (server.advance moment).emulation.dispatcher.state.get field = value
  match reply, reached with
  | .error fault, _ => (.error fault, server)
  | .ok _, some moment => (.ok true, server.advance moment)
  | .ok _, none => (.ok false, server.advance deadline)

/-- Shuts the projector down, with nothing else in between, and ends its connections. -/
def shutdown (server : Server) : Server :=
  let ids := server.served.map Served.id
  let ended := ids.map fun id => ServerEvent.connection id .cancelled none
  (server.run ([.shutdown, .cancel, .stop] ++ ended)).1.drain

/-- The projector for display. -/
def text (server : Server) : String :=
  let model := Text.quoted server.emulation.dispatcher.model.name
  let fields := String.intercalate ", " [
    s!"local_addr: {server.address.text}",
    s!"model: {model}",
    s!"sessions: {server.emulation.sessions.size}",
    ".."]
  s!"Emulator \x7b {fields} \x7d"

end Server

end ProjectorControl
