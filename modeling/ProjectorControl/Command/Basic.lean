import ProjectorControl.Command.Registry

/-!
# Commands

A command is a packet together with the definition it was made from or recognized by.
The two agree, which is a part of the type.
-/

namespace ProjectorControl

/-- A command packet that is known to fit its definition. -/
structure Command where
  /-- The packet. -/
  packet : Packet
  /-- What the packet means. -/
  definition : CommandDefinition
  /-- The packet fits the definition. -/
  fits : definition.matchesPacket packet = true
  deriving DecidableEq, Repr

namespace Command

/-! ## Making commands -/

/-- What is wrong with a packet as one of a definition, if anything: it is no command, it begins
with other bytes, or its payload does not have the fixed length. -/
def misfit? (packet : Packet) (d : CommandDefinition) : Option Error :=
  if !packet.isCommand then
    some (.malformedCommand s!"{packet.kind.name} is not a command packet: {packet.text}")
  else if !d.packetLeading.isPrefixOf packet.bytes then
    some (.malformedCommand
      s!"packet does not start with {d.name} prefix {d.packetLeading.hex}: {packet.text}")
  else
    match d.packetPayloadLength? with
    | none => none
    | some expected =>
      let size := packet.payload.length
      if size ≠ expected then
        some (.malformedCommand
          s!"{d.name} expects a {expected}-byte packet payload, got {size}: {packet.text}")
      else none

theorem matchesPacket_of_misfit? {packet : Packet} {d : CommandDefinition}
    (flawless : misfit? packet d = none) : d.matchesPacket packet = true := by
  unfold misfit? at flawless
  split at flawless
  next => cases flawless
  split at flawless
  next => cases flawless
  next leading =>
    have begins : d.packetLeading.isPrefixOf packet.bytes = true := by simpa using leading
    unfold CommandDefinition.matchesPacket
    rw [begins, Bool.true_and]
    split at flawless
    next unfixed => rw [unfixed]
    next fixed =>
      rw [fixed]
      dsimp only at flawless
      split at flawless
      next => cases flawless
      next sized => exact decide_eq_true (Decidable.of_not_not sized)

/-- Binds a packet to a definition, if they agree. -/
def bind (packet : Packet) (d : CommandDefinition) : Except Error Command :=
  match flawless : misfit? packet d with
  | some fault => .error fault
  | none => .ok ⟨packet, d, matchesPacket_of_misfit? flawless⟩

/-- Makes the command of a definition that carries a payload of the caller. -/
def ofDefinition (d : CommandDefinition) (payload : Bytes) : Except Error Command := do
  let packet ← Packet.build d.kind d.code (d.payloadLeading ++ payload)
  bind packet d

/-- Makes the command of a name. -/
def ofName (name : String) (payload : Bytes) : Except Error Command := do
  let d ← registry.get name
  ofDefinition d payload

/-- Recognizes a packet.  If it fits several commands, the first that the model has is
taken. -/
def ofPacket (packet : Packet) (model : Option Model) : Except Error Command :=
  match registry.resolve packet model with
  | [] => .error (.unrecognizedCommand s!"{packet.text} ({packet.bytes.hex})")
  | d :: _ => bind packet d

/-! ## Reading commands -/

/-- The name of a command. -/
def name (c : Command) : String := c.definition.name

/-- The code of a command. -/
def code (c : Command) : Packet.Code := c.packet.code

/-- Whether a command is answered with a payload. -/
def isAdvanced (c : Command) : Bool := c.packet.kind = .advancedCommand

/-- The caller's part of a packet's payload. -/
def payload (c : Command) : Bytes := c.packet.payload.drop c.definition.payloadLeading.length

/-- The number of bytes in an answer, if fixed. -/
def responseLength? (c : Command) : Option Nat := c.definition.group.responseLength

/-- A command by its name and bytes. -/
def text (c : Command) : String := s!"{c.name} ({c.packet.bytes.hex})"

end Command

end ProjectorControl
