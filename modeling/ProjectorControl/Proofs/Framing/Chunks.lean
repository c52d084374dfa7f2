import ProjectorControl.Proofs.Framing.Cutting

/-!
# Reading a stream in chunks

A decoder looks only at bytes it has not scanned before.  This finds the same line ends as a
scan from the front as long as no line ends among the bytes that count as scanned
(`Decoder.Scanned`).  Under this condition taking one packet follows the rules of `Cuts`, and
draining the decoder cuts its whole buffer (`Decoder.drain_of_cuts`).

A decoder that was drained without a fault rests (`Decoder.Resting`): it holds an unfinished
line.  Whatever it is fed then, the condition holds again.  So chunks that are fed and drained
one after another give what `frames` gives for the whole stream, however the stream was cut
(`Decoder.readChunks_eq_frames`).
-/

namespace ProjectorControl

namespace Framing

namespace Decoder

/-! ## What was scanned -/

/-- No line ends among the bytes that count as scanned. -/
def Scanned (d : Decoder) : Prop := terminator ∉ d.buffer.take d.scanned

/-- Leaving out bytes that hold no line end changes no finding but its position. -/
theorem findIdx?_drop {bytes : Bytes} {n : Nat} (quiet : terminator ∉ bytes.take n)
    (within : n ≤ bytes.length) :
    bytes.findIdx? (· = terminator) =
      ((bytes.drop n).findIdx? (· = terminator)).map (· + n) := by
  conv => lhs; rw [← List.take_append_drop n bytes]
  rw [List.findIdx?_append, findIdx?_quiet quiet, List.length_take_of_le within]
  rfl

/-- A scan that starts late finds what a scan from the front would find. -/
theorem lineEnd?_eq {d : Decoder} (h : d.Scanned) :
    d.lineEnd? = ((d.buffer.take Packet.maxLength).findIdx? (· = terminator)).map (· + 1) := by
  have within : d.start ≤ (d.buffer.take Packet.maxLength).length := by
    simp only [start, List.length_take]
    omega
  have quiet : terminator ∉ (d.buffer.take Packet.maxLength).take d.start := by
    intro found
    rw [List.take_take] at found
    refine h (List.take_subset_take_left d.buffer ?_ found)
    simp only [start]
    omega
  rw [findIdx?_drop quiet within, lineEnd?, Option.map_map]
  congr 1
  funext i
  simp only [Function.comp_apply]
  omega

/-! ## One packet -/

theorem decode_line {d : Decoder} {body rest : Bytes} (h : d.Scanned)
    (front : d.buffer = body ++ terminator :: rest) (quiet : terminator ∉ body)
    (short : body.length < Packet.maxLength) :
    d.decode =
      match Packet.parse (body ++ [terminator]) with
      | .ok packet => (.ok (some packet), ⟨rest, 0⟩)
      | .error fault => (.error fault, ⟨rest, 0⟩) := by
  have ends : d.lineEnd? = some (body.length + 1) := by
    rw [lineEnd?_eq h, front, findIdx?_line quiet short]
    rfl
  rw [decode, ends]
  cases parsed : Packet.parse (body ++ [terminator]) with
  | ok packet => simp only [front, take_line, drop_line, parsed]
  | error fault => simp only [front, take_line, drop_line, parsed]

theorem decode_overlong {d : Decoder} {start rest : Bytes} (h : d.Scanned)
    (front : d.buffer = start ++ rest) (quiet : terminator ∉ start)
    (long : start.length = Packet.maxLength) :
    d.decode = (.error (overlong start), {}) := by
  have ends : d.lineEnd? = none := by
    rw [lineEnd?_eq h, front, ← long, List.take_left, findIdx?_quiet quiet]
    rfl
  rw [decode, ends]
  simp only [front, overlong_append long, List.length_append, long]
  rw [if_pos (Nat.le_add_right _ _)]

theorem decode_unfinished {d : Decoder} (h : d.Scanned) (quiet : terminator ∉ d.buffer)
    (short : d.buffer.length < Packet.maxLength) :
    d.decode = (.ok none, ⟨d.buffer, d.buffer.length⟩) := by
  have ends : d.lineEnd? = none := by
    rw [lineEnd?_eq h, findIdx?_quiet fun found => quiet (List.mem_of_mem_take found)]
    rfl
  rw [decode, ends]
  simp only [if_neg (Nat.not_le_of_lt short)]

/-! ## All packets of the buffer -/

/-- Draining goes on behind a packet, and stops at anything else. -/
theorem drain_of_decode {d rest : Decoder} {outcome : Except Error (Option Packet)}
    (taken : d.decode = (outcome, rest)) :
    d.drain =
      match outcome with
      | .ok (some packet) => ((packet :: rest.drain.1.1, rest.drain.1.2), rest.drain.2)
      | .ok none => (([], none), rest)
      | .error fault => (([], some fault), rest) := by
  rw [drain]
  split
  next found =>
    rw [taken] at found
    cases found
    rfl
  next found =>
    rw [taken] at found
    cases found
    rfl
  next found =>
    rw [taken] at found
    cases found
    rfl

/-- What a decoder holds when the cutting of its buffer has ended. -/
def leftBy (result : Frames) : Decoder :=
  ⟨result.unread, if result.fault = none then result.unread.length else 0⟩

/-- Draining a decoder is cutting its buffer. -/
theorem drain_of_cuts {d : Decoder} {result : Frames} (h : d.Scanned)
    (cuts : Cuts d.buffer result) :
    d.drain = ((result.packets, result.fault), leftBy result) := by
  generalize held : d.buffer = stream at cuts
  induction cuts generalizing d with
  | @packet body rest packet later quiet short parsed _ ih =>
      have taken := decode_line h held quiet short
      rw [parsed] at taken
      have again : (⟨rest, 0⟩ : Decoder).drain = ((later.packets, later.fault), leftBy later) :=
        ih (by simp [Scanned]) rfl
      rw [drain_of_decode taken]
      simp only [again]
      rfl
  | faulty quiet short parsed =>
      have taken := decode_line h held quiet short
      rw [parsed] at taken
      exact drain_of_decode taken
  | overlong quiet long => exact drain_of_decode (decode_overlong h held quiet long)
  | unfinished quiet short =>
      subst held
      exact drain_of_decode (decode_unfinished h quiet short)

/-! ## Reading a stream in chunks -/

/-- A decoder that has given out everything it can. -/
structure Resting (d : Decoder) : Prop where
  /-- No line ends in the buffer. -/
  quiet : terminator ∉ d.buffer
  /-- The line in it may still end in time. -/
  short : d.buffer.length < Packet.maxLength
  /-- No more than the buffer was scanned. -/
  scanned_le : d.scanned ≤ d.buffer.length

theorem resting_new : Resting {} := ⟨by simp, by decide, by simp⟩

/-- A buffer that rests is cut into nothing. -/
theorem Resting.cuts_buffer {d : Decoder} (h : d.Resting) :
    Cuts (d.buffer ++ [].flatten) ⟨[], none, d.buffer⟩ := by
  rw [List.flatten_nil, List.append_nil]
  exact .unfinished h.quiet h.short

/-- What a decoder that rests has scanned ends in front of the bytes it is fed. -/
theorem Resting.scanned_feed {d : Decoder} (h : d.Resting) (bytes : Bytes) :
    (d.feed bytes).Scanned := by
  intro found
  simp only [feed] at found
  rw [List.take_append_of_le_length h.scanned_le] at found
  exact h.quiet (List.mem_of_mem_take found)

theorem resting_leftBy {stream : Bytes} {result : Frames} (cuts : Cuts stream result)
    (sound : result.fault = none) : (leftBy result).Resting := by
  obtain ⟨quiet, short⟩ := cuts.unread_unfinished sound
  exact ⟨quiet, short, by simp [leftBy, sound]⟩

/-- A decoder that rests and is fed and drained has cut its old bytes and the new ones. -/
theorem Resting.drain_feed {d : Decoder} (h : d.Resting) (bytes : Bytes) :
    (d.feed bytes).drain =
      (((frames (d.buffer ++ bytes)).packets, (frames (d.buffer ++ bytes)).fault),
        leftBy (frames (d.buffer ++ bytes))) :=
  drain_of_cuts (h.scanned_feed bytes) (cuts_frames (d.buffer ++ bytes))

/-- Reads chunks one after another, up to the first fault. -/
def readChunks (d : Decoder) : List Bytes → Frames
  | [] => ⟨[], none, d.buffer⟩
  | chunk :: later =>
    match (d.feed chunk).drain with
    | ((packets, some fault), rest) => ⟨packets, some fault, rest.buffer⟩
    | ((packets, none), rest) =>
      let further := rest.readChunks later
      { further with packets := packets ++ further.packets }

/-- Chunks read by a decoder that rests are cut like one stream, behind its old bytes.  What
is left after a fault is not compared, because a decoder never sees the chunks behind it. -/
theorem Resting.readChunks_eq {d : Decoder} (h : d.Resting) (chunks : List Bytes) :
    (d.readChunks chunks).packets = (frames (d.buffer ++ chunks.flatten)).packets ∧
      (d.readChunks chunks).fault = (frames (d.buffer ++ chunks.flatten)).fault ∧
      ((d.readChunks chunks).fault = none →
        (d.readChunks chunks).unread = (frames (d.buffer ++ chunks.flatten)).unread) := by
  induction chunks generalizing d with
  | nil =>
      rw [← h.cuts_buffer.eq_frames]
      exact ⟨rfl, rfl, fun _ => rfl⟩
  | cons chunk later ih =>
      have drained := h.drain_feed chunk
      have cuts := cuts_frames (d.buffer ++ chunk)
      rw [List.flatten_cons, ← List.append_assoc]
      generalize frames (d.buffer ++ chunk) = first at drained cuts
      cases stopped : first.fault with
      | some fault =>
          obtain ⟨unread, whole⟩ := cuts.append_of_fault stopped later.flatten
          rw [← whole.eq_frames, readChunks, drained, stopped]
          exact ⟨rfl, rfl, fun sound => nomatch sound⟩
      | none =>
          obtain ⟨packets, fault, unread⟩ := ih (resting_leftBy cuts stopped)
          have whole := cuts.append stopped (cuts_frames (first.unread ++ later.flatten))
          rw [← whole.eq_frames, readChunks, drained, stopped]
          exact ⟨congrArg (first.packets ++ ·) packets, fault, unread⟩

/-- However a stream is cut into chunks, a new decoder reads what the stream holds. -/
theorem readChunks_eq_frames (chunks : List Bytes) :
    let read := ({} : Decoder).readChunks chunks
    let whole := frames chunks.flatten
    read.packets = whole.packets ∧ read.fault = whole.fault ∧
      (read.fault = none →
        read.unread = whole.unread ∧
          chunks.flatten = read.packets.flatMap Packet.bytes ++ read.unread) := by
  obtain ⟨packets, fault, unread⟩ := resting_new.readChunks_eq chunks
  refine ⟨packets, fault, fun sound => ⟨unread sound, ?_⟩⟩
  have whole := (cuts_frames chunks.flatten).stream_eq (fault ▸ sound)
  rw [packets, unread sound]
  exact whole

end Decoder

end Framing

end ProjectorControl
