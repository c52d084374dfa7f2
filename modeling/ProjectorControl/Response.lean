import ProjectorControl.Command.Basic

/-!
# Responses

A command is answered by an empty acknowledgement, and a query then also by a packet with
a payload:

    21 89 01 50 57 31 0A    power.on
    06 89 01 50 57 0A       acknowledged

    3F 89 01 50 57 0A       power_status.query
    06 89 01 50 57 0A       acknowledged
    40 89 01 50 57 31 0A    the lamp is on

`Response.ofPackets` puts packets that have arrived together with the command they
answer, and says which rule they break.  `Command.respond` makes the packets that a
projector would send.
-/

namespace ProjectorControl

/-- A command and the packets that answered it. -/
structure Response where
  /-- The command. -/
  command : Command
  /-- The acknowledgement. -/
  basic : Packet
  /-- The packet with the payload. -/
  advanced : Option Packet
  deriving DecidableEq, Repr

namespace Response

/-! ## Assembling -/

/-- What is wrong with a packet as the acknowledgement of a command. -/
def basicFault? (command : Command) (basic : Packet) : Option String :=
  if basic.kind ≠ .basicResponse then
    some s!"expected basic response to {command.name}, got {basic.text}"
  else if basic.code ≠ command.code then
    some s!"basic response code {basic.code.text} does not match command {command.text}"
  else if basic.payload ≠ [] then
    some s!"basic response to {command.name} carries payload {basic.payload.hex}"
  else none

/-- What is wrong with the packet, if any, that follows the acknowledgement. -/
def advancedFault? (command : Command) (advanced : Option Packet) : Option String :=
  match advanced, command.isAdvanced with
  | none, true =>
    some s!"advanced command {command.name} is missing its advanced response"
  | some packet, false =>
    some s!"basic command {command.name} got an unexpected advanced response {packet.text}"
  | none, false => none
  | some packet, true =>
    if packet.kind ≠ .advancedResponse then
      some s!"expected advanced response to {command.name}, got {packet.text}"
    else if packet.code ≠ command.code then
      some s!"advanced response code {packet.code.text} does not match command {command.text}"
    else
      match command.responseLength? with
      | none => none
      | some expected =>
        let size := packet.payload.length
        if size ≠ expected then
          some s!"advanced response to {command.name} has {size}-byte payload, expected {expected}"
        else none

/-- Puts a command and the packets that answer it together. -/
def ofPackets (command : Command) (basic : Packet) (advanced : Option Packet) :
    Except Error Response :=
  match basicFault? command basic with
  | some fault => .error (.protocolViolation fault)
  | none =>
    match advancedFault? command advanced with
    | some fault => .error (.protocolViolation fault)
    | none => .ok ⟨command, basic, advanced⟩

/-! ## Reading -/

/-- The payload of the answer; nothing for an operation. -/
def payload (r : Response) : Bytes :=
  match r.advanced with
  | some packet => packet.payload
  | none => []

/-- What the payload stands for. -/
def text? (r : Response) : Option String := r.command.definition.responseText? r.payload

/-- The packets in the order in which they are sent. -/
def packets (r : Response) : List Packet := r.basic :: r.advanced.toList

/-- The bytes of all packets. -/
def bytes (r : Response) : Bytes := r.packets.flatMap Packet.bytes

/-- A response by its command and bytes. -/
def text (r : Response) : String := s!"Response<{r.command.name}>({r.bytes.hex})"

end Response

namespace Command

/-! ## Answering -/

/-- The acknowledgement of a command. -/
def acknowledge (c : Command) : Except Error Packet := Packet.build .basicResponse c.code []

/-- The packet that carries the answer to a query. -/
def answer (c : Command) (payload : Bytes) : Except Error Packet :=
  if !c.isAdvanced then
    .error (.protocolViolation s!"basic command {c.name} has no advanced response")
  else
    let size := payload.length
    match c.responseLength? with
    | some expected =>
      if size ≠ expected then
        .error (.protocolViolation
          s!"{c.name} response payload must be {expected} bytes, got {size}: {payload.hex}")
      else Packet.build .advancedResponse c.code payload
    | none => Packet.build .advancedResponse c.code payload

/-- All packets of an answer. -/
def respond (c : Command) (payload : Bytes) : Except Error Response := do
  let basic ← c.acknowledge
  if c.isAdvanced then
    let advanced ← c.answer payload
    Response.ofPackets c basic (some advanced)
  else if payload ≠ [] then
    .error (.protocolViolation
      s!"basic command {c.name} cannot carry response payload {payload.hex}")
  else Response.ofPackets c basic none

end Command

end ProjectorControl
