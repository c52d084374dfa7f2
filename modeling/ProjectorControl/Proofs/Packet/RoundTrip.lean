import ProjectorControl.Packet.Basic

/-!
# Packets and their lines

`Packet.bytes` writes a packet down as a line and `Packet.parse` reads a line.  What was read
can be written again: `Packet.bytes_of_parse` says that the packet read from a line has exactly
the bytes of the line, so nothing in it is overlooked or normalized.  And every packet that was
written can be read (`Packet.parse_bytes`).  A line that cannot be read is a malformed packet and
nothing else (`Packet.malformed_of_parse`).  Parts that fit into a line make up a packet
(`Packet.build_of_fits`).
-/

namespace ProjectorControl

namespace Packet

/-- The first byte of a kind is the one it was read from. -/
theorem Kind.byte_of_ofByte {b : UInt8} {kind : Kind} (h : Kind.ofByte b = .ok kind) :
    kind.byte = b := by
  unfold Kind.ofByte at h
  cases found : Kind.ofByte? b with
  | none =>
      rw [found] at h
      cases h
  | some k =>
      rw [found] at h
      cases h
      exact Kind.byte_eq_of_ofByte? found

theorem Kind.ofByte_byte (kind : Kind) : Kind.ofByte kind.byte = .ok kind := by
  rw [Kind.ofByte, Kind.ofByte?_byte]

/-- The packet read from a line is written as that line. -/
theorem bytes_of_parse {raw : Bytes} {packet : Packet} (h : parse raw = .ok packet) :
    packet.bytes = raw := by
  unfold parse at h
  split at h
  case h_2 => cases h
  case h_1 kindByte magic₀ magic₁ code₀ code₁ body =>
    split at h
    case isTrue => cases h
    split at h
    case h_1 => cases h
    case h_2 kind kindEq =>
      simp only [] at h
      split at h
      case isTrue => cases h
      case isFalse magicEq =>
        split at h
        case isTrue => cases h
        case isFalse endsEq =>
          split at h
          case isTrue => cases h
          split at h
          case isFalse => cases h
          cases h
          -- The guards on kind, magic and end give the bytes that a packet does not keep.
          have start : kind.byte = kindByte := Kind.byte_of_ofByte kindEq
          have marked : [magic₀, magic₁] = magic := Decidable.of_not_not magicEq
          obtain ⟨payload, bodyEq⟩ :=
            List.getLast?_eq_some_iff.mp (Decidable.of_not_not endsEq)
          subst bodyEq
          simp only [bytes, start, ← marked, Code.bytes, List.dropLast_concat, List.cons_append,
            List.nil_append]

/-- The line of a packet is read as that packet. -/
theorem parse_bytes (p : Packet) : parse p.bytes = .ok p := by
  have fits : ¬ (p.payload ++ [terminator] = [] ∨ maxLength < p.bytes.length) := by
    have bound := p.length_le_maxLength
    rw [length] at bound
    simp only [List.append_eq_nil_iff, List.cons_ne_nil, and_false, false_or, Nat.not_lt]
    exact bound
  have clean : ¬ (terminator ∈ p.code.bytes ∨ terminator ∈ p.payload) :=
    fun inside => inside.elim p.terminator_notMem_code p.terminator_notMem_payload
  have shape : p.bytes = p.kind.byte :: 0x89 :: 0x01 :: p.code.fst :: p.code.snd ::
      (p.payload ++ [terminator]) := by
    simp [bytes, magic, Code.bytes]
  unfold parse
  rw [shape] at fits ⊢
  simp only [if_neg fits, Kind.ofByte_byte, magic, ne_eq, not_true_eq_false, if_false,
    List.getLast?_concat, List.dropLast_concat, dif_neg clean, dif_pos p.payload_length_le]

theorem Kind.malformed_of_ofByte {b : UInt8} {fault : Error} (h : Kind.ofByte b = .error fault) :
    ∃ detail, fault = .malformedPacket detail := by
  unfold Kind.ofByte at h
  split at h
  next => cases h
  next =>
    cases h
    exact ⟨_, rfl⟩

/-- Whatever is wrong with a line, the fault is a malformed packet. -/
theorem malformed_of_parse {raw : Bytes} {fault : Error} (h : parse raw = .error fault) :
    ∃ detail, fault = .malformedPacket detail := by
  unfold parse at h
  split at h
  case h_2 =>
    cases h
    exact ⟨_, rfl⟩
  split at h
  next =>
    cases h
    exact ⟨_, rfl⟩
  split at h
  next unknown =>
    cases h
    exact Kind.malformed_of_ofByte unknown
  simp only [] at h
  split at h
  next =>
    cases h
    exact ⟨_, rfl⟩
  split at h
  next =>
    cases h
    exact ⟨_, rfl⟩
  split at h
  next =>
    cases h
    exact ⟨_, rfl⟩
  split at h
  next => cases h
  next =>
    cases h
    exact ⟨_, rfl⟩

/-- Parts that fit into a line are built into the packet of these parts. -/
theorem build_of_fits (kind : Kind) {code : Code} {payload : Bytes}
    (fits : payload.length ≤ maxPayloadLength) (wholeCode : terminator ∉ code.bytes)
    (whole : terminator ∉ payload) :
    build kind code payload = .ok ⟨kind, code, payload, fits, wholeCode, whole⟩ := by
  have clean : ¬ (terminator ∈ code.bytes ∨ terminator ∈ payload) :=
    fun inside => inside.elim wholeCode whole
  rw [build, dif_neg (Nat.not_lt_of_le fits), dif_neg clean]

end Packet

end ProjectorControl
