import ProjectorControl.Transport.Basic

/-!
# Clients

A client turns commands into packets, sends them over a transport, and reads the answers.
It remembers the model of its projector once it has seen it.

What a client does is a `Call`: a computation that moves the client, and its clock, and
may fail.  A call fails with a fault, or it is broken off because a deadline lies beyond what
the clock can hold.
-/

namespace ProjectorControl

/-- How long to wait for the lamp if nothing else is said. -/
def defaultStablePowerTimeout : Duration := .ofSeconds 60

/-- A client of one projector. -/
structure Client (τ : Type) where
  /-- What carries its packets. -/
  transport : τ
  /-- The model, if it is known. -/
  model : Option Model := none
  /-- How long to wait for the lamp to warm up or cool down. -/
  stablePowerTimeout : Duration := defaultStablePowerTimeout
  /-- The time. -/
  now : Moment := 0

/-- Why a call gave no result. -/
inductive CallFailure where
  /-- Something went wrong. -/
  | fault (error : Error)
  /-- A deadline was beyond the range of the clock.  This is no fault that a caller is told of: the
  call is broken off. -/
  | clockOverflow
  deriving DecidableEq, Repr

/-- The wording of a failure. -/
def CallFailure.message : CallFailure → String
  | .fault error => error.message
  | .clockOverflow => "overflow when adding duration to instant"

/-- What a client does. -/
def Call (τ α : Type) : Type := Client τ → Except CallFailure α × Client τ

namespace Call

variable {τ α β : Type}

/-- Does a call. -/
def run (call : Call τ α) (c : Client τ) : Except CallFailure α × Client τ := call c

/-- Gives a result and does nothing. -/
def result (a : α) : Call τ α := fun c => (.ok a, c)

/-- Fails with a fault. -/
def fail (fault : Error) : Call τ α := fun c => (.error (.fault fault), c)

/-- Does a call, and then what its result asks for.  A failure ends it all. -/
def andThen (call : Call τ α) (next : α → Call τ β) : Call τ β := fun c =>
  match call c with
  | (.ok a, c) => next a c
  | (.error failure, c) => (.error failure, c)

instance : Monad (Call τ) where
  pure := result
  bind := andThen

/-- Does a call and gives what came of it.  This does not fail. -/
def attempt (call : Call τ α) : Call τ (Except CallFailure α) := fun c =>
  let (r, c) := call c
  (.ok r, c)

/-- The result of a computation that has nothing to do with the client. -/
def ofExcept (r : Except Error α) : Call τ α :=
  match r with
  | .ok a => result a
  | .error fault => fail fault

/-- Lets time pass. -/
def sleep [Transport τ] (nanos : Nat) : Call τ Unit := fun c =>
  let now := c.now + waitLength nanos
  (.ok (), { c with now := now, transport := Transport.advance now c.transport })

/-- Sends a packet and waits for its answer. -/
def exchange [Transport τ] (packet : Packet) : Call τ ResponsePackets := fun c =>
  let done := Transport.exchange packet c.now none c.transport
  (done.answer.mapError .fault,
    { c with transport := done.transport, now := c.now + done.latency })

/-- Ends the transport. -/
def shutdown [Transport τ] (outcome : Outcome) : Call τ Unit := fun c =>
  (.ok (), { c with transport := Transport.shutdown outcome c.now c.transport })

/-- Remembers a model, if none is known. -/
def learn (model : Option Model) : Call τ Unit := fun c =>
  (.ok (), { c with model := c.model <|> model })

/-- The name of the query for the model. -/
def modelQueryName : String := "model_status.query"

/-- Carries out a command.  The answer to a query for the model is remembered. -/
def transact [Transport τ] (command : Command) : Call τ Response := do
  let packets ← exchange command.packet
  let response ← ofExcept (packets.toResponse command)
  if command.name = modelQueryName then
    learn (Model.ofStatusPayload? response.payload)
  return response

/-- Carries out the command of a name. -/
def transactByName [Transport τ] (name : String) (payload : Bytes) : Call τ Response := do
  let command ← ofExcept (Command.ofName name payload)
  transact command

/-- Carries out a command that has no effect, to see whether the projector answers. -/
def nullCommand [Transport τ] : Call τ Unit := do
  let _ ← transactByName "test_command.null_command" []
  return ()

/-- Carries out several exchanges with nobody else's in between, each whatever came of the
one before. -/
def transaction [Transport τ] {ε : Type} :
    List (Call τ ε) → Call τ (List (Except CallFailure ε))
  | [] => result []
  | call :: later => fun c =>
    let (first, c) := call c
    let (rest, c) := transaction later c
    (rest.map fun answers => first :: answers, c)

/-- A transaction for display. -/
def transactionText [Transport τ] (c : Client τ) : String :=
  let ended := (Transport.outcome c.transport).isSome
  s!"Transaction \x7b shutting_down: {ended} \x7d"

/-- Carries out a command within a transaction. -/
def exchangeCommand [Transport τ] (command : Command) : Call τ Response := do
  let packets ← exchange command.packet
  ofExcept (packets.toResponse command)

/-- Sends a packet while a shutdown is on its way, and goes on until both are done. -/
def exchangeInterrupted [Transport τ] (packet : Packet) (delay : Nat) (outcome : Outcome) :
    Call τ ResponsePackets := fun c =>
  let moment := c.now + waitLength delay
  let done := Transport.exchange packet c.now (some ⟨moment, outcome⟩) c.transport
  let finished := c.now + done.latency
  let transport :=
    if moment < finished then done.transport
    else Transport.shutdown outcome moment (Transport.advance moment done.transport)
  (done.answer.mapError .fault, { c with transport := transport, now := max moment finished })

end Call

end ProjectorControl
