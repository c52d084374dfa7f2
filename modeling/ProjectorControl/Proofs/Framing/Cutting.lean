import ProjectorControl.Proofs.Packet.RoundTrip
import ProjectorControl.Packet.Framing

/-!
# Cutting a stream into lines

`Framing.frames` cuts a whole byte string at once.  Here it is described by rules, one for each
way in which a stream can begin:

* a line that ends in time and is a packet is taken off, and the cutting goes on behind it;
* a line that ends in time and is no packet is a fault;
* a line that does not end in time is a fault;
* a line that may still end in time is left over.

`Cuts stream result` is the relation these rules give, and `Cuts.eq_frames` and `cuts_frames`
say that it is `frames`.  What follows is proved by induction on the rules.  A stream without a
fault is its packets and what is left over (`Cuts.stream_eq`).  For a stream in two parts, the
first part alone decides if it has a fault (`Cuts.append_of_fault`), and otherwise the cutting
goes on with what the first part has left over (`Cuts.append`).
-/

namespace ProjectorControl

namespace Framing

/-! ## The front of a stream -/

/-- The three ways in which a stream can begin: a line ends in time, none ends within the
longest packet, or the stream stops before that. -/
inductive Front : Bytes → Prop where
  | line {body rest : Bytes} :
      terminator ∉ body → body.length < Packet.maxLength → Front (body ++ terminator :: rest)
  | overlong {start rest : Bytes} :
      terminator ∉ start → start.length = Packet.maxLength → Front (start ++ rest)
  | unfinished {stream : Bytes} :
      terminator ∉ stream → stream.length < Packet.maxLength → Front stream

/-- Every stream begins in one of the three ways. -/
theorem front (stream : Bytes) : Front stream := by
  by_cases ends : terminator ∈ stream.take Packet.maxLength
  · obtain ⟨body, rest, split, quiet⟩ := List.eq_append_cons_of_mem ends
    have short : body.length < Packet.maxLength := by
      have := congrArg List.length split
      simp only [List.length_take, List.length_append, List.length_cons] at this
      omega
    rw [← List.take_append_drop Packet.maxLength stream, split, List.append_assoc]
    exact .line quiet short
  · by_cases long : Packet.maxLength ≤ stream.length
    · rw [← List.take_append_drop Packet.maxLength stream]
      exact .overlong ends (List.length_take_of_le long)
    · have short : stream.length < Packet.maxLength := Nat.lt_of_not_le long
      rw [List.take_of_length_le (Nat.le_of_lt short)] at ends
      exact .unfinished ends short

/-- Where no line ends, nothing is found. -/
theorem findIdx?_quiet {bytes : Bytes} (quiet : terminator ∉ bytes) :
    bytes.findIdx? (· = terminator) = none := by
  rw [List.findIdx?_eq_none_iff]
  intro b hb
  exact decide_eq_false fun h => quiet (h ▸ hb)

/-- A line end within reach is found where it stands. -/
theorem findIdx?_line {body rest : Bytes} (quiet : terminator ∉ body)
    (short : body.length < Packet.maxLength) :
    ((body ++ terminator :: rest).take Packet.maxLength).findIdx? (· = terminator) =
      some body.length := by
  rw [List.findIdx?_take, List.findIdx?_append, findIdx?_quiet quiet, List.findIdx?_cons]
  simp [Option.guard, short]

theorem take_line (body rest : Bytes) :
    (body ++ terminator :: rest).take (body.length + 1) = body ++ [terminator] := by
  rw [List.take_length_add_append, List.take_succ_cons, List.take_zero]

theorem drop_line (body rest : Bytes) :
    (body ++ terminator :: rest).drop (body.length + 1) = rest := by
  rw [List.drop_length_add_append, List.drop_succ_cons, List.drop_zero]

theorem overlong_append {start rest : Bytes} (long : start.length = Packet.maxLength) :
    overlong (start ++ rest) = overlong start := by
  unfold overlong
  rw [List.take_append_of_le_length (Nat.le_of_eq long.symm)]

/-! ## Cutting as a relation -/

/-- `Cuts stream result` gives the rules by which a stream is cut, one for each way in which
it can begin; a line is a packet or a fault. -/
inductive Cuts : Bytes → Frames → Prop where
  | packet {body rest : Bytes} {packet : Packet} {later : Frames} :
      terminator ∉ body → body.length < Packet.maxLength →
      Packet.parse (body ++ [terminator]) = .ok packet → Cuts rest later →
      Cuts (body ++ terminator :: rest) { later with packets := packet :: later.packets }
  | faulty {body rest : Bytes} {fault : Error} :
      terminator ∉ body → body.length < Packet.maxLength →
      Packet.parse (body ++ [terminator]) = .error fault →
      Cuts (body ++ terminator :: rest) ⟨[], some fault, rest⟩
  | overlong {start rest : Bytes} :
      terminator ∉ start → start.length = Packet.maxLength →
      Cuts (start ++ rest) ⟨[], some (overlong start), []⟩
  | unfinished {stream : Bytes} :
      terminator ∉ stream → stream.length < Packet.maxLength → Cuts stream ⟨[], none, stream⟩

/-- Every stream is cut by the rules. -/
theorem exists_cuts (stream : Bytes) : ∃ result, Cuts stream result := by
  induction length : stream.length using Nat.strongRecOn generalizing stream with
  | ind n ih =>
      cases front stream with
      | @line body rest quiet short =>
          cases parsed : Packet.parse (body ++ [terminator]) with
          | error fault => exact ⟨_, .faulty quiet short parsed⟩
          | ok packet =>
              have shorter : rest.length < n := by
                simp only [List.length_append, List.length_cons] at length
                omega
              obtain ⟨later, cuts⟩ := ih rest.length shorter rest rfl
              exact ⟨_, .packet quiet short parsed cuts⟩
      | overlong quiet long => exact ⟨_, .overlong quiet long⟩
      | unfinished quiet short => exact ⟨_, .unfinished quiet short⟩

theorem frames_line {body rest : Bytes} (quiet : terminator ∉ body)
    (short : body.length < Packet.maxLength) :
    frames (body ++ terminator :: rest) =
      match Packet.parse (body ++ [terminator]) with
      | .error fault => ⟨[], some fault, rest⟩
      | .ok packet => { frames rest with packets := packet :: (frames rest).packets } := by
  rw [frames]
  split
  next i found =>
    rw [findIdx?_line quiet short] at found
    cases found
    cases parsed : Packet.parse (body ++ [terminator]) with
    | error fault => simp only [take_line, drop_line, parsed]
    | ok packet => simp only [take_line, drop_line, parsed]
  next missing =>
    rw [findIdx?_line quiet short] at missing
    cases missing

/-- The rules give what `frames` computes. -/
theorem Cuts.eq_frames {stream : Bytes} {result : Frames} (cuts : Cuts stream result) :
    result = frames stream := by
  induction cuts with
  | packet quiet short parsed _ ih => rw [frames_line quiet short, parsed, ← ih]
  | faulty quiet short parsed => rw [frames_line quiet short, parsed]
  | @overlong start rest quiet long =>
      -- A line end may stand in `rest`, but `frames` does not look that far.
      have within : terminator ∉ (start ++ rest).take Packet.maxLength := by
        rwa [← long, List.take_left]
      rw [frames]
      split
      next i found =>
        rw [findIdx?_quiet within] at found
        cases found
      next =>
        rw [if_pos (by simp [long]), overlong_append long]
  | unfinished quiet short =>
      rw [frames]
      split
      next i found =>
        rw [findIdx?_quiet fun h => quiet (List.mem_of_mem_take h)] at found
        cases found
      next => rw [if_neg (Nat.not_le_of_lt short)]

theorem cuts_frames (stream : Bytes) : Cuts stream (frames stream) := by
  obtain ⟨result, cuts⟩ := exists_cuts stream
  rw [← cuts.eq_frames]
  exact cuts

/-- Whatever stops the cutting, the fault is a malformed packet. -/
theorem Cuts.malformed {stream : Bytes} {result : Frames} {fault : Error}
    (cuts : Cuts stream result) (stopped : result.fault = some fault) :
    ∃ detail, fault = .malformedPacket detail := by
  induction cuts with
  | packet _ _ _ _ ih => exact ih stopped
  | faulty _ _ parsed =>
      cases stopped
      exact Packet.malformed_of_parse parsed
  | overlong =>
      cases stopped
      exact ⟨_, rfl⟩
  | unfinished => cases stopped

/-! ## Cutting a stream in two parts -/

/-- What is left over without a fault is an unfinished line. -/
theorem Cuts.unread_unfinished {stream : Bytes} {result : Frames} (cuts : Cuts stream result)
    (sound : result.fault = none) :
    terminator ∉ result.unread ∧ result.unread.length < Packet.maxLength := by
  induction cuts with
  | packet _ _ _ _ ih => exact ih sound
  | faulty => cases sound
  | overlong => cases sound
  | unfinished quiet short => exact ⟨quiet, short⟩

/-- A stream without a fault is its packets and what is left over. -/
theorem Cuts.stream_eq {stream : Bytes} {result : Frames} (cuts : Cuts stream result)
    (sound : result.fault = none) :
    stream = result.packets.flatMap Packet.bytes ++ result.unread := by
  induction cuts with
  | packet _ _ parsed _ ih =>
      rw [ih sound]
      simp [Packet.bytes_of_parse parsed]
  | faulty => cases sound
  | overlong => cases sound
  | unfinished => rfl

/-- Further bytes change nothing in front of a fault. -/
theorem Cuts.append_of_fault {stream : Bytes} {result : Frames} {fault : Error}
    (cuts : Cuts stream result) (stopped : result.fault = some fault) (more : Bytes) :
    ∃ unread, Cuts (stream ++ more) { result with unread := unread } := by
  induction cuts with
  | packet quiet short parsed _ ih =>
      obtain ⟨unread, cuts⟩ := ih stopped
      rw [List.append_assoc]
      exact ⟨unread, .packet quiet short parsed cuts⟩
  | faulty quiet short parsed =>
      rw [List.append_assoc]
      exact ⟨_, .faulty quiet short parsed⟩
  | overlong quiet long =>
      rw [List.append_assoc]
      exact ⟨_, .overlong quiet long⟩
  | unfinished => cases stopped

/-- Without a fault, the cutting goes on with what is left over and the further bytes. -/
theorem Cuts.append {stream more : Bytes} {first second : Frames} (cuts : Cuts stream first)
    (sound : first.fault = none) (further : Cuts (first.unread ++ more) second) :
    Cuts (stream ++ more) { second with packets := first.packets ++ second.packets } := by
  induction cuts with
  | packet quiet short parsed _ ih =>
      rw [List.append_assoc]
      exact .packet quiet short parsed (ih sound further)
  | faulty => cases sound
  | overlong => cases sound
  | unfinished => exact further

end Framing

end ProjectorControl
