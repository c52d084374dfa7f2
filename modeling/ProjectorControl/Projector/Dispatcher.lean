import ProjectorControl.Projector.State
import ProjectorControl.Response

/-!
# The dispatcher

All requests to an emulated projector, from every session and from its owner, go through
one dispatcher, one after another.  It is the only part that changes the state.

    standby ──power.on──> warming ──warm──> on
       ^                                    │
       └──cool── cooling <──power.off───────┘

A power command in any other state gets no response.  When the lamp begins to warm up or
cool down, a timer is started; its expiry is a request like any other.  Each change of
power makes a new *generation*, and a timer counts only in the generation that started
it, so one that was stopped too late does nothing.

Generations and sessions are counted without bound.  Counts of 64 bits are the same as long
as the power is changed, and sessions are opened, fewer than 2^64 times.
-/

namespace ProjectorControl

/-- The number of a session. -/
abbrev SessionId := Nat

/-! ## Requests and effects -/

/-- What a dispatcher can be asked. -/
inductive Request where
  /-- Carry out a packet that a session received. -/
  | packet (session : SessionId) (packet : Packet)
  /-- A timer has expired. -/
  | powerTimer (generation : Nat)
  /-- Set a field, and answer the caller. -/
  | setStatus (caller : Nat) (field : StatusField) (value : String)
  /-- Tell the caller the value of a field. -/
  | getStatus (caller : Nat) (field : StatusField)
  /-- Handle no more requests. -/
  | stop
  deriving DecidableEq, Repr

/-- What a caller is answered: nothing or a value, or a fault. -/
abbrev StatusReply := Except Error (Option String)

/-- What comes out of handling a request. -/
inductive DispatchEffect where
  /-- Packets for a session. -/
  | send (session : SessionId) (packets : List Packet)
  /-- A session is to close. -/
  | close (session : SessionId)
  /-- A timer is to start. -/
  | startTimer (generation : Nat) (delay : Duration)
  /-- A timer is to stop, if it has not expired. -/
  | stopTimer (generation : Nat)
  /-- The answer to a caller. -/
  | answer (caller : Nat) (reply : StatusReply)

/-! ## Outcomes of commands -/

/-- What a projector does about a command. -/
inductive CommandOutcome where
  /-- It acknowledges. -/
  | acknowledge
  /-- It says nothing. -/
  | silence
  /-- It answers with a payload. -/
  | payload (bytes : Bytes)
  /-- It answers with the payload of a name. -/
  | named (name : String)
  /-- It gives a ready response. -/
  | ready (response : Response)
  deriving DecidableEq, Repr

/-- The packets of an outcome, or none for silence. -/
def CommandOutcome.packets? (command : Command) (outcome : CommandOutcome) :
    Except Error (Option (List Packet)) :=
  match outcome with
  | silence => .ok none
  | acknowledge => (command.respond []).map fun r => some r.packets
  | payload bytes => (command.respond bytes).map fun r => some r.packets
  | named name =>
    match command.definition.responses?.bind fun map => map.payloadFor? name with
    | some bytes => (command.respond bytes).map fun r => some r.packets
    | none =>
      .error (.protocolViolation
        s!"{command.name} has no response named {Text.quoted name}")
  | ready response => .ok (some response.packets)

/-! ## The dispatcher -/

/-- The state of a projector, and what decides about it. -/
structure Dispatcher where
  /-- The model. -/
  model : Model
  /-- The values of the status fields. -/
  state : ProjectorState
  /-- How long the lamp takes to warm up. -/
  warmupTime : Duration
  /-- How long the lamp takes to cool down. -/
  cooldownTime : Duration
  /-- The number of changes of power so far. -/
  generation : Nat := 0
  /-- The generation of the timer that is to stop at the next change of power. -/
  timer : Option Nat := none
  deriving DecidableEq, Repr

namespace Dispatcher

/-- A dispatcher as the settings say. -/
def ofConfig (c : EmulatorConfig) : Except Error Dispatcher := do
  let model ← c.resolvedModel
  let state ← ProjectorState.ofConfig c
  .ok { model := model, state := state, warmupTime := c.warmupTime, cooldownTime := c.cooldown }

/-- Stops the timer of the last change of power, if there is one.  A new generation
begins. -/
def cancelTimer (d : Dispatcher) : Dispatcher × List DispatchEffect :=
  ({ d with generation := d.generation + 1, timer := none },
    d.timer.toList.map DispatchEffect.stopTimer)

/-- How long a power state lasts, if it ends by itself. -/
def lasting (d : Dispatcher) : PowerState → Option Duration
  | .warming => some d.warmupTime
  | .cooling => some d.cooldownTime
  | .standby | .on | .emergency => none

/-- Changes the power state, stops the timer of the last change, and starts one if the new
state ends by itself. -/
def setPower (d : Dispatcher) (power : PowerState) :
    Except Error Unit × Dispatcher × List DispatchEffect :=
  match d.state.set .power power.name with
  | .error fault => (.error fault, d, [])
  | .ok state =>
    let (d, stopped) := { d with state := state }.cancelTimer
    match d.lasting power with
    | none => (.ok (), d, stopped)
    | some delay =>
      (.ok (), { d with timer := some d.generation },
        stopped ++ [.startTimer d.generation delay])

/-- Carries out a power command: only the required state is left, for the next one. -/
def switchPower (d : Dispatcher) (required next : PowerState) :
    Except Error CommandOutcome × Dispatcher × List DispatchEffect :=
  match d.state.powerState with
  | .error fault => (.error fault, d, [])
  | .ok current =>
    if current = required then
      match d.setPower next with
      | (.error fault, rest) => (.error fault, rest)
      | (.ok (), rest) => (.ok .acknowledge, rest)
    else (.ok .silence, d, [])

/-- Carries out a command.  The queries for the model and for the status fields and the
power commands are told by their names; of all others, an operation is acknowledged and a
query gets the first answer that its response map has. -/
def execute (d : Dispatcher) (command : Command) :
    Except Error CommandOutcome × Dispatcher × List DispatchEffect :=
  if command.name = "model_status.query" then
    ((command.respond d.model.statusPayload).map .ready, d, [])
  else if command.name = "power.on" then d.switchPower .standby .warming
  else if command.name = "power.off" then d.switchPower .on .cooling
  else
    match StatusField.all.find? fun field => field.queryName = command.name with
    | some field => (.ok (.named (d.state.get field)), d, [])
    | none =>
      if command.isAdvanced then
        match command.definition.responses?.bind ResponseMap.first? with
        | some (payload, _) => (.ok (.payload payload), d, [])
        | none =>
          (.error (.protocolViolation s!"no emulated response for {command.name}"), d, [])
      else (.ok .acknowledge, d, [])

/-- Recognizes a packet, carries it out, and makes the response. -/
def dispatch (d : Dispatcher) (packet : Packet) :
    Except Error (Option (List Packet)) × Dispatcher × List DispatchEffect :=
  if !packet.isCommand then
    (.error (.protocolViolation s!"expected a command packet, got {packet.text}"), d, [])
  else
    match Command.ofPacket packet (some d.model) with
    | .error fault => (.error fault, d, [])
    | .ok command =>
      match d.execute command with
      | (.error fault, rest) => (.error fault, rest)
      | (.ok outcome, rest) => (outcome.packets? command, rest)

/-- Forces a field.  A new power state starts and stops timers as usual. -/
def force (d : Dispatcher) (field : StatusField) (value : String) :
    Except Error Unit × Dispatcher × List DispatchEffect :=
  match field with
  | .power =>
    match PowerState.ofName value with
    | .error fault => (.error fault, d, [])
    | .ok power => d.setPower power
  | field =>
    match d.state.set field value with
    | .error fault => (.error fault, d, [])
    | .ok state => (.ok (), { d with state := state }, [])

/-- Ends the state whose timer has expired, unless the timer is of an older generation. -/
def timerExpired (d : Dispatcher) (generation : Nat) : Dispatcher × List DispatchEffect :=
  if generation ≠ d.generation then (d, [])
  else
    let d := { d with timer := none }
    match d.state.powerState with
    | .ok .warming => (d.setPower .on).2
    | .ok .cooling => (d.setPower .standby).2
    | _ => (d, [])

/-- Handles one request.  A packet that cannot be carried out closes its session. -/
def handle (d : Dispatcher) : Request → Dispatcher × List DispatchEffect
  | .packet session packet =>
    match d.dispatch packet with
    | (.ok (some packets), rest, effects) => (rest, effects ++ [.send session packets])
    | (.ok none, rest, effects) => (rest, effects)
    | (.error _, rest, effects) => (rest, effects ++ [.close session])
  | .powerTimer generation => d.timerExpired generation
  | .setStatus caller field value =>
    let (result, rest, effects) := d.force field value
    (rest, effects ++ [.answer caller (result.map fun _ => none)])
  | .getStatus caller field => (d, [.answer caller (.ok (some (d.state.get field)))])
  | .stop => d.cancelTimer

end Dispatcher

end ProjectorControl
