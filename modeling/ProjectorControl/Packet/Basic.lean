import ProjectorControl.Bytes
import ProjectorControl.Error

/-!
# Packets

A packet is one line of the control protocol:

    kind  0x89 0x01  code  payload  0x0A

The kind is one byte, the command code two, and the payload up to twenty-four.  The last
byte ends the line, so it occurs nowhere else.  The type `Packet` holds exactly these
parts.  `Packet.bytes` writes them down and `Packet.parse` reads them back; `parse` says
of every other byte string what is wrong with it, and the first fault in the order of the
checks wins.
-/

namespace ProjectorControl

/-! ## The shape of a line -/

/-- The byte that ends every packet. -/
def terminator : UInt8 := 0x0A

/-- The two bytes after the kind of every packet. -/
def magic : Bytes := [0x89, 0x01]

namespace Packet

/-- The length of a packet without payload. -/
def minLength : Nat := 6

/-- The length of the longest packet. -/
def maxLength : Nat := 30

/-- The length of the longest payload. -/
def maxPayloadLength : Nat := 24

/-- Where the command code starts. -/
def codeOffset : Nat := 3

/-- The length of a command code. -/
def codeLength : Nat := 2

/-- Where the payload starts. -/
def payloadOffset : Nat := 5

/-! ## Kinds -/

/-- The four kinds of packets. -/
inductive Kind where
  /-- An operation, answered by a basic response. -/
  | basicCommand
  /-- A query, answered by a basic and then an advanced response. -/
  | advancedCommand
  /-- An empty acknowledgement. -/
  | basicResponse
  /-- An answer that carries a payload. -/
  | advancedResponse
  deriving DecidableEq, Repr

namespace Kind

/-- The kinds, those of commands first. -/
def all : List Kind := [basicCommand, advancedCommand, basicResponse, advancedResponse]

/-- The first byte of a packet of this kind. -/
def byte : Kind → UInt8
  | basicCommand => 0x21
  | advancedCommand => 0x3F
  | basicResponse => 0x06
  | advancedResponse => 0x40

/-- The kind with a given first byte. -/
def ofByte? (b : UInt8) : Option Kind :=
  if b = basicCommand.byte then some basicCommand
  else if b = advancedCommand.byte then some advancedCommand
  else if b = basicResponse.byte then some basicResponse
  else if b = advancedResponse.byte then some advancedResponse
  else none

/-- The kind with a given first byte, or a fault that names the byte. -/
def ofByte (b : UInt8) : Except Error Kind :=
  match ofByte? b with
  | some kind => .ok kind
  | none =>
    let shown := Bytes.hex [b]
    .error (.malformedPacket s!"unknown packet type byte 0x{shown}")

/-- Whether packets of this kind go to the projector. -/
def isCommand : Kind → Bool
  | basicCommand | advancedCommand => true
  | basicResponse | advancedResponse => false

/-- Whether packets of this kind come from the projector. -/
def isResponse (kind : Kind) : Bool := !kind.isCommand

/-- Whether packets of this kind belong to a query. -/
def isAdvanced : Kind → Bool
  | advancedCommand | advancedResponse => true
  | basicCommand | basicResponse => false

/-- The name of a kind. -/
def name : Kind → String
  | basicCommand => "basic command"
  | advancedCommand => "advanced command"
  | basicResponse => "basic response"
  | advancedResponse => "advanced response"

/-- The kind of a command, a query or an operation. -/
def command (advanced : Bool) : Kind := if advanced then advancedCommand else basicCommand

theorem ofByte?_byte (kind : Kind) : ofByte? kind.byte = some kind := by
  cases kind <;> rfl

theorem byte_eq_of_ofByte? {b : UInt8} {kind : Kind} (h : ofByte? b = some kind) :
    kind.byte = b := by
  unfold ofByte? at h
  split at h
  case isTrue hb => simp_all
  split at h
  case isTrue hb => simp_all
  split at h
  case isTrue hb => simp_all
  split at h
  case isTrue hb => simp_all
  simp at h

end Kind

/-! ## Codes -/

/-- The two bytes that say what a command is about. -/
structure Code where
  /-- The first byte. -/
  fst : UInt8
  /-- The second byte. -/
  snd : UInt8
  deriving DecidableEq, Repr

namespace Code

/-- The code of two ASCII characters. -/
def ofChars (fst snd : Char) : Code := ⟨fst.toNat.toUInt8, snd.toNat.toUInt8⟩

/-- A code as it stands in a packet. -/
def bytes (c : Code) : Bytes := [c.fst, c.snd]

/-- Whether a byte is a printing ASCII character other than the space. -/
def isGraphic (b : UInt8) : Bool := 0x21 ≤ b && b ≤ 0x7E

/-- A code is shown by its two characters if it has any, and in hexadecimal otherwise. -/
def text (c : Code) : String :=
  if isGraphic c.fst && isGraphic c.snd then
    String.ofList [Char.ofNat c.fst.toNat, Char.ofNat c.snd.toNat]
  else "0x" ++ c.bytes.hex

end Code

end Packet

/-! ## Packets -/

/-- One line of the protocol, by its parts. -/
structure Packet where
  /-- What the packet is for. -/
  kind : Packet.Kind
  /-- What the packet is about. -/
  code : Packet.Code
  /-- What the packet carries. -/
  payload : Bytes
  /-- A payload fits its line. -/
  payload_length_le : payload.length ≤ Packet.maxPayloadLength
  /-- The line does not end inside the code. -/
  terminator_notMem_code : terminator ∉ code.bytes
  /-- The line does not end inside the payload. -/
  terminator_notMem_payload : terminator ∉ payload
  deriving DecidableEq, Repr

namespace Packet

/-- The packet as it goes over the wire. -/
def bytes (p : Packet) : Bytes :=
  p.kind.byte :: magic ++ p.code.bytes ++ p.payload ++ [terminator]

/-- The number of bytes of a packet. -/
def length (p : Packet) : Nat := p.bytes.length

theorem length_eq (p : Packet) : p.length = minLength + p.payload.length := by
  simp [length, bytes, magic, Code.bytes, minLength]; omega

theorem minLength_le_length (p : Packet) : minLength ≤ p.length := by
  rw [length_eq]; omega

theorem length_le_maxLength (p : Packet) : p.length ≤ maxLength := by
  have := p.payload_length_le
  rw [length_eq]; simp_all [minLength, maxLength, maxPayloadLength]; omega

/-- Whether a packet goes to the projector. -/
def isCommand (p : Packet) : Bool := p.kind.isCommand

/-- A packet by its kind, code and payload. -/
def text (p : Packet) : String :=
  s!"{p.kind.name} {p.code.text} [{p.payload.hex}]"

/-! ## Building and reading -/

/-- Puts a packet together.  A payload that is too long is reported before a line end
inside it. -/
def build (kind : Kind) (code : Code) (payload : Bytes) : Except Error Packet :=
  if tooLong : maxPayloadLength < payload.length then
    let size := payload.length
    let total := minLength + payload.length
    .error (.malformedPacket
      s!"payload of {size} bytes makes a {total}-byte packet (max {maxLength})")
  else if inBody : terminator ∈ code.bytes ∨ terminator ∈ payload then
    .error (.malformedPacket
      s!"0x0a inside packet body (code {code.bytes.hex}, payload {payload.hex})")
  else
    .ok ⟨kind, code, payload, Nat.le_of_not_lt tooLong, fun h => inBody (.inl h),
      fun h => inBody (.inr h)⟩

/-- The fault of a line that is too short or too long. -/
def outsideLength (raw : Bytes) : Error :=
  let size := raw.length
  .malformedPacket s!"length {size} outside {minLength}..={maxLength}: {raw.hex}"

/-- Reads one line.  The checks are, in this order: the length, the kind, the two bytes
after it, the line end, and the absence of any other line end. -/
def parse (raw : Bytes) : Except Error Packet :=
  match raw with
  | kindByte :: magic₀ :: magic₁ :: code₀ :: code₁ :: body =>
    if body = [] ∨ maxLength < raw.length then .error (outsideLength raw)
    else
      match Kind.ofByte kindByte with
      | .error fault => .error fault
      | .ok kind =>
        let code : Code := ⟨code₀, code₁⟩
        if [magic₀, magic₁] ≠ magic then
          .error (.malformedPacket s!"bad magic bytes: {raw.hex}")
        else if body.getLast? ≠ some terminator then
          .error (.malformedPacket s!"missing terminator: {raw.hex}")
        else if embedded : terminator ∈ code.bytes ∨ terminator ∈ body.dropLast then
          .error (.malformedPacket s!"embedded terminator: {raw.hex}")
        else if fits : body.dropLast.length ≤ maxPayloadLength then
          .ok ⟨kind, code, body.dropLast, fits, fun h => embedded (.inl h),
            fun h => embedded (.inr h)⟩
        else .error (outsideLength raw)
  | _ => .error (outsideLength raw)

end Packet

end ProjectorControl
