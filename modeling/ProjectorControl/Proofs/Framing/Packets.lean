import ProjectorControl.Proofs.Framing.Chunks

/-!
# Packets in a stream

A written packet is one line: its body holds no line end and is shorter than the longest packet
(`Packet.quiet_body`, `Packet.length_body_lt`).  So written packets at the front of a stream are
what cutting it finds first, whatever comes behind them (`frames_packets`).

A decoder takes the packet off as soon as its line is complete (`Decoder.decode_packet`) and
rests as long as a part of it is missing (`Decoder.decode_part`).  The other way round, whatever
packet a decoder gives out stood at the front of its buffer (`Decoder.buffer_of_decode`), even
if the decoder has a wrong idea of what it has scanned.
-/

namespace ProjectorControl

namespace Packet

/-- The line of a packet without its end. -/
def body (p : Packet) : Bytes := p.kind.byte :: magic ++ p.code.bytes ++ p.payload

theorem bytes_eq (p : Packet) : p.bytes = p.body ++ [terminator] := rfl

theorem Kind.byte_ne_terminator (kind : Kind) : terminator ≠ kind.byte := by
  cases kind <;> decide

theorem quiet_body (p : Packet) : terminator ∉ p.body := by
  have marked : terminator ∉ magic := by decide
  simp only [body, List.cons_append, List.mem_cons, List.mem_append, not_or]
  exact ⟨p.kind.byte_ne_terminator, ⟨marked, p.terminator_notMem_code⟩,
    p.terminator_notMem_payload⟩

theorem length_body_lt (p : Packet) : p.body.length < maxLength := by
  have bound := p.length_le_maxLength
  rw [length, bytes_eq, List.length_append, List.length_singleton] at bound
  exact bound

theorem parse_body (p : Packet) : parse (p.body ++ [terminator]) = .ok p := p.parse_bytes

end Packet

namespace Framing

/-! ## Cutting -/

theorem Cuts.packets {rest : Bytes} {later : Frames} (cuts : Cuts rest later)
    (ps : List Packet) :
    Cuts (ps.flatMap Packet.bytes ++ rest) { later with packets := ps ++ later.packets } := by
  induction ps with
  | nil => exact cuts
  | cons p ps ih =>
      rw [List.flatMap_cons, Packet.bytes_eq, List.append_assoc, List.append_assoc]
      exact .packet p.quiet_body p.length_body_lt p.parse_body ih

/-- Packets that were written are found first. -/
theorem frames_packets (ps : List Packet) (rest : Bytes) :
    frames (ps.flatMap Packet.bytes ++ rest) =
      { frames rest with packets := ps ++ (frames rest).packets } :=
  ((cuts_frames rest).packets ps).eq_frames.symm

/-- Packets that were written are all there is, if nothing comes behind them. -/
theorem frames_packets_nil (ps : List Packet) :
    frames (ps.flatMap Packet.bytes) = ⟨ps, none, []⟩ := by
  have cuts : Cuts [] ⟨[], none, []⟩ := .unfinished List.not_mem_nil (by decide)
  have whole := (cuts.packets ps).eq_frames
  simp only [List.append_nil] at whole
  exact whole.symm

/-! ## Decoding -/

namespace Decoder

variable {d rest : Decoder} {p : Packet}

theorem decode_packet {unread : Bytes} (h : d.Scanned) (front : d.buffer = p.bytes ++ unread) :
    d.decode = (.ok (some p), ⟨unread, 0⟩) := by
  have split : d.buffer = p.body ++ terminator :: unread := by
    rw [front, Packet.bytes_eq, List.append_assoc]
    rfl
  rw [decode_line h split p.quiet_body p.length_body_lt, p.parse_body]

/-- A part of a packet is no more than its body. -/
theorem resting_of_part {part missing : Bytes} (whole : part ++ missing = p.bytes)
    (some : missing ≠ []) : (⟨part, part.length⟩ : Decoder).Resting := by
  have inside : part <+: p.body := by
    obtain ⟨missing, last, rfl⟩ := (List.eq_nil_or_concat missing).resolve_left some
    rw [Packet.bytes_eq, List.concat_eq_append, ← List.append_assoc] at whole
    exact ⟨missing, (List.append_inj' whole rfl).1⟩
  exact ⟨fun found => p.quiet_body (inside.subset found),
    Nat.lt_of_le_of_lt inside.length_le p.length_body_lt, Nat.le_refl _⟩

theorem decode_part {missing : Bytes} (h : d.Scanned) (whole : d.buffer ++ missing = p.bytes)
    (some : missing ≠ []) : d.decode = (.ok none, ⟨d.buffer, d.buffer.length⟩) :=
  have rests := resting_of_part whole some
  decode_unfinished h rests.quiet rests.short

/-- What a decoder does about the packet with which its stream goes on, whose bytes may still
be on their way. -/
inductive Decoded (d : Decoder) (p : Packet) (later more : Bytes) : Prop where
  | rests :
      d.decode = (.ok none, ⟨d.buffer, d.buffer.length⟩) →
      (⟨d.buffer, d.buffer.length⟩ : Decoder).Resting → Decoded d p later more
  | packet (unread : Bytes) :
      d.decode = (.ok (some p), ⟨unread, 0⟩) → unread ++ later = more → Decoded d p later more

theorem decoded_of_stream {later more : Bytes} (h : d.Scanned)
    (stream : d.buffer ++ later = p.bytes ++ more) : Decoded d p later more := by
  rcases List.append_eq_append_iff.mp stream with ⟨missing, whole, behind⟩ | ⟨unread, front, behind⟩
  · by_cases complete : missing = []
    · subst complete
      rw [List.append_nil] at whole
      exact .packet [] (decode_packet h (by rw [whole, List.append_nil])) behind
    · exact .rests (decode_part h whole.symm complete) (resting_of_part whole.symm complete)
  · exact .packet unread (decode_packet h front) behind.symm

/-- A decoder that rests does not hold a whole packet. -/
theorem Resting.buffer_ne (h : d.Resting) (p : Packet) (more : Bytes) :
    d.buffer ≠ p.bytes ++ more := by
  intro whole
  refine h.quiet (whole ▸ List.mem_append_left more ?_)
  rw [Packet.bytes_eq]
  exact List.mem_concat_self

/-- Written packets are read in any chunks, and nothing is left. -/
theorem readChunks_packets {ps : List Packet} {chunks : List Bytes}
    (written : chunks.flatten = ps.flatMap Packet.bytes) :
    ({} : Decoder).readChunks chunks = ⟨ps, none, []⟩ := by
  obtain ⟨packets, fault, unread⟩ := resting_new.readChunks_eq chunks
  simp only [List.nil_append, written, frames_packets_nil] at packets fault unread
  generalize ({} : Decoder).readChunks chunks = read at packets fault unread
  obtain ⟨_, _, _⟩ := read
  obtain rfl := packets
  obtain rfl := fault
  obtain rfl := unread rfl
  rfl

/-- A packet that is given out stood at the front of the buffer. -/
theorem buffer_of_decode (taken : d.decode = (.ok (some p), rest)) :
    d.buffer = p.bytes ++ rest.buffer := by
  unfold decode at taken
  split at taken
  next n found =>
    split at taken
    next parsed =>
      cases taken
      rw [Packet.bytes_of_parse parsed]
      exact (List.take_append_drop n d.buffer).symm
    next => cases taken
  next =>
    split at taken
    next => cases taken
    next => cases taken

/-- A decoder that waits keeps its buffer. -/
theorem buffer_of_waiting (waits : d.decode = (.ok none, rest)) : rest.buffer = d.buffer := by
  unfold decode at waits
  split at waits
  next =>
    split at waits
    next => cases waits
    next => cases waits
  next =>
    split at waits
    next => cases waits
    next =>
      cases waits
      rfl

end Decoder

end Framing

end ProjectorControl
