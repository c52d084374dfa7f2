import ProjectorControl.Proofs.Packet.RoundTrip

/-!
# Which lines are packets

Reading checks a line byte by byte, and building checks the parts.  Both mean the same lines:
`Packet.parse_eq_ok_iff` says that the readable lines are those of packets, and
`Packet.build_eq_ok_iff` that every packet can be built from its parts, and from nothing else.  So a
line is readable exactly if it is *spelled* by some parts, and then by one kind, one code and one
payload only (`Packet.parse_agrees_with_build`).

Once a line is known to be a packet, its parts can be read in place, without any further check
(`Packet.Line`).  These readers trust the line: what is none of the first three kinds is taken for
the fourth, and a line that is too short has no such part at all.
-/

namespace ProjectorControl

namespace Packet

/-! ## Reading a line in place -/

namespace Line

/-- The kind of the packet, by the first byte. -/
def kind? (raw : Bytes) : Option Kind :=
  raw[0]?.map fun first =>
    if first = Kind.basicCommand.byte then .basicCommand
    else if first = Kind.advancedCommand.byte then .advancedCommand
    else if first = Kind.basicResponse.byte then .basicResponse
    else .advancedResponse

/-- The code of the packet. -/
def code? (raw : Bytes) : Option Code := do
  let fst ← raw[codeOffset]?
  let snd ← raw[codeOffset + 1]?
  return ⟨fst, snd⟩

/-- What lies between the code and the last byte. -/
def payload? (raw : Bytes) : Option Bytes :=
  if payloadOffset < raw.length then some (raw.dropLast.drop payloadOffset) else none

theorem kind?_bytes (p : Packet) : kind? p.bytes = some p.kind := by
  have first : p.bytes[0]? = some p.kind.byte := rfl
  rw [kind?, first]
  cases p.kind <;> rfl

theorem code?_bytes (p : Packet) : code? p.bytes = some p.code := rfl

theorem payload?_bytes (p : Packet) : payload? p.bytes = some p.payload := by
  have long : payloadOffset < p.bytes.length := p.minLength_le_length
  rw [payload?, if_pos long, bytes, List.dropLast_concat]
  rfl

end Line

/-! ## Reading and building -/

/-- The readable lines are those of packets. -/
theorem parse_eq_ok_iff {raw : Bytes} {packet : Packet} :
    parse raw = .ok packet ↔ packet.bytes = raw := by
  constructor
  · exact bytes_of_parse
  · rintro rfl
    exact packet.parse_bytes

/-- A packet is built from its parts, and from nothing else. -/
theorem build_eq_ok_iff {kind : Kind} {code : Code} {payload : Bytes} {packet : Packet} :
    build kind code payload = .ok packet ↔
      packet.kind = kind ∧ packet.code = code ∧ packet.payload = payload := by
  constructor
  · intro built
    unfold build at built
    split at built
    case isTrue => cases built
    split at built
    case isTrue => cases built
    cases built
    exact ⟨rfl, rfl, rfl⟩
  · rintro ⟨rfl, rfl, rfl⟩
    exact build_of_fits packet.kind packet.payload_length_le packet.terminator_notMem_code
      packet.terminator_notMem_payload

theorem exists_build_iff {kind : Kind} {code : Code} {payload : Bytes} :
    (∃ packet, build kind code payload = .ok packet) ↔
      payload.length ≤ maxPayloadLength ∧ terminator ∉ code.bytes ∧ terminator ∉ payload := by
  constructor
  · rintro ⟨packet, built⟩
    obtain ⟨-, rfl, rfl⟩ := build_eq_ok_iff.mp built
    exact ⟨packet.payload_length_le, packet.terminator_notMem_code,
      packet.terminator_notMem_payload⟩
  · rintro ⟨short, code_clean, payload_clean⟩
    exact ⟨⟨kind, code, payload, short, code_clean, payload_clean⟩,
      build_eq_ok_iff.mpr ⟨rfl, rfl, rfl⟩⟩

/-! ## The lines -/

/-- The line is that of the packet built from the parts. -/
def Spells (kind : Kind) (code : Code) (payload : Bytes) (raw : Bytes) : Prop :=
  ∃ packet, build kind code payload = .ok packet ∧ packet.bytes = raw

/-- The parts that spell a line can be read off it in place. -/
theorem Spells.line {kind : Kind} {code : Code} {payload raw : Bytes}
    (spells : Spells kind code payload raw) :
    Line.kind? raw = some kind ∧ Line.code? raw = some code ∧ Line.payload? raw = some payload := by
  obtain ⟨packet, built, rfl⟩ := spells
  obtain ⟨rfl, rfl, rfl⟩ := build_eq_ok_iff.mp built
  exact ⟨Line.kind?_bytes packet, Line.code?_bytes packet, Line.payload?_bytes packet⟩

/-- A line is spelled by one kind, one code and one payload at most. -/
theorem Spells.unique {kind kind' : Kind} {code code' : Code} {payload payload' raw : Bytes}
    (spells : Spells kind code payload raw) (spells' : Spells kind' code' payload' raw) :
    kind' = kind ∧ code' = code ∧ payload' = payload := by
  obtain ⟨kind_eq, code_eq, payload_eq⟩ := spells.line
  obtain ⟨kind_eq', code_eq', payload_eq'⟩ := spells'.line
  exact ⟨Option.some.inj (kind_eq'.symm.trans kind_eq),
    Option.some.inj (code_eq'.symm.trans code_eq),
    Option.some.inj (payload_eq'.symm.trans payload_eq)⟩

/-- A line is readable exactly if some parts spell it; then no others do, the packet that is read is
the one that they build, and they can be read in place.  Parts can be built into a packet exactly if
they fit into a line. -/
theorem parse_agrees_with_build :
    (∀ raw, (∃ packet, parse raw = .ok packet) ↔
      ∃ kind code payload, Spells kind code payload raw) ∧
    (∀ raw kind code payload, Spells kind code payload raw →
      parse raw = build kind code payload ∧
      (∀ kind' code' payload', Spells kind' code' payload' raw →
        kind' = kind ∧ code' = code ∧ payload' = payload) ∧
      Line.kind? raw = some kind ∧ Line.code? raw = some code ∧
      Line.payload? raw = some payload) ∧
    (∀ kind code payload, (∃ packet, build kind code payload = .ok packet) ↔
      payload.length ≤ maxPayloadLength ∧ terminator ∉ code.bytes ∧ terminator ∉ payload) := by
  refine ⟨fun raw => ⟨?_, ?_⟩, fun raw kind code payload spells => ⟨?_, ?_, spells.line⟩,
    fun kind code payload => exists_build_iff⟩
  · rintro ⟨packet, read⟩
    exact ⟨packet.kind, packet.code, packet.payload, packet, build_eq_ok_iff.mpr ⟨rfl, rfl, rfl⟩,
      parse_eq_ok_iff.mp read⟩
  · rintro ⟨kind, code, payload, packet, -, written⟩
    exact ⟨packet, parse_eq_ok_iff.mpr written⟩
  · obtain ⟨packet, built, written⟩ := spells
    rw [built, parse_eq_ok_iff.mpr written]
  · exact fun kind' code' payload' => spells.unique

end Packet

end ProjectorControl
