import ProjectorControl.Proofs.Framing.Packets

/-!
# Streams that end too early

A peer writes packets one after another (`encodeAll`), and the stream may break off at any byte.
What has arrived by then are some whole packets and a part of the next one: `BreaksOff` says so,
and every beginning of the stream is of this form (`exists_breaksOff`).

Once the stream has ended, a decoder is asked for packets until it has no more (`Decoder.drainEnd`).
A decoder that rests holds an unfinished line, so it answers at once: with nothing if the line is
empty, and otherwise with a fault that names the line.  Either way it is as good as new.  Since
chunks are read like one stream, `Decoder.readToEnd_truncated` follows: the packets that have
arrived as a whole are given out, and the fault names what has arrived of the next.
-/

namespace ProjectorControl

namespace Framing

/-! ## Written packets -/

/-- The bytes of packets that are written one after another. -/
def encodeAll (ps : List Packet) : Bytes := ps.foldl encode []

/-- Where the packet of a number, counted from zero, begins in the written bytes.  The number of
packets stands for the end. -/
def offset (ps : List Packet) (n : Nat) : Nat := (encodeAll (ps.take n)).length

theorem foldl_encode (ps : List Packet) (pending : Bytes) :
    ps.foldl encode pending = pending ++ ps.flatMap Packet.bytes := by
  induction ps generalizing pending with
  | nil => simp
  | cons p ps ih => simp [ih, encode]

theorem encodeAll_eq (ps : List Packet) : encodeAll ps = ps.flatMap Packet.bytes := by
  simp [encodeAll, foldl_encode]

@[simp] theorem encodeAll_nil : encodeAll [] = [] := rfl

@[simp] theorem encodeAll_cons (p : Packet) (ps : List Packet) :
    encodeAll (p :: ps) = p.bytes ++ encodeAll ps := by
  simp [encodeAll_eq]

@[simp] theorem encodeAll_append (ps qs : List Packet) :
    encodeAll (ps ++ qs) = encodeAll ps ++ encodeAll qs := by
  simp [encodeAll_eq]

theorem offset_length (ps : List Packet) : offset ps ps.length = (encodeAll ps).length := by
  simp [offset]

/-- A packet ends where the next one begins. -/
theorem offset_succ {ps : List Packet} {n : Nat} {p : Packet} (next : ps[n]? = some p) :
    offset ps (n + 1) = offset ps n + p.length := by
  simp [offset, List.take_add_one, next, Packet.length]

theorem offset_mono (ps : List Packet) {n m : Nat} (le : n ≤ m) : offset ps n ≤ offset ps m := by
  have begins : ps.take n <+: ps.take m := List.take_prefix_take_left le
  obtain ⟨more, eq⟩ := begins
  simp [offset, ← eq]

/-! ## Where a stream breaks off -/

/-- A stream of packets breaks off behind some of them, when a part of the next has arrived. -/
structure BreaksOff (ps : List Packet) (stream : Bytes) (n : Nat) (part : Bytes) : Prop where
  /-- There are so many packets. -/
  le_length : n ≤ ps.length
  /-- The stream is these packets and the part. -/
  stream_eq : stream = encodeAll (ps.take n) ++ part
  /-- The next packet has not arrived as a whole. -/
  missing : ∀ p, ps[n]? = some p → ∃ missing, missing ≠ [] ∧ part ++ missing = p.bytes
  /-- Nothing stands behind the last packet. -/
  last : ps[n]? = none → part = []

theorem BreaksOff.cons {ps : List Packet} {stream part : Bytes} {n : Nat}
    (h : BreaksOff ps stream n part) (p : Packet) :
    BreaksOff (p :: ps) (p.bytes ++ stream) (n + 1) part where
  le_length := Nat.succ_le_succ h.le_length
  stream_eq := by simp [h.stream_eq]
  missing q next := h.missing q (by simpa using next)
  last none := h.last (by simpa using none)

/-- Every beginning of a stream of packets breaks off somewhere. -/
theorem exists_breaksOff {ps : List Packet} {stream : Bytes} (begins : stream <+: encodeAll ps) :
    ∃ n part, BreaksOff ps stream n part := by
  induction ps generalizing stream with
  | nil =>
      obtain rfl : stream = [] := by simpa using begins
      exact ⟨0, [], Nat.le_refl 0, rfl, by simp, fun _ => rfl⟩
  | cons p ps ih =>
      obtain ⟨more, whole⟩ := begins
      rw [encodeAll_cons] at whole
      rcases List.append_eq_append_iff.mp whole with ⟨missing, front, -⟩ | ⟨rest, rfl, behind⟩
      · by_cases complete : missing = []
        · obtain rfl : stream = p.bytes := by simp [front, complete]
          obtain ⟨n, part, breaks⟩ := ih List.nil_prefix
          exact ⟨n + 1, part, by simpa using breaks.cons p⟩
        · exact ⟨0, stream, Nat.zero_le _, rfl, by simpa using ⟨missing, complete, front.symm⟩,
            by simp⟩
      · obtain ⟨n, part, breaks⟩ := ih ⟨more, behind.symm⟩
        exact ⟨n + 1, part, breaks.cons p⟩

namespace BreaksOff

variable {ps : List Packet} {stream part : Bytes} {n : Nat}

theorem length_eq (h : BreaksOff ps stream n part) :
    stream.length = offset ps n + part.length := by
  simp [h.stream_eq, offset]

theorem drop_eq (h : BreaksOff ps stream n part) : stream.drop (offset ps n) = part := by
  rw [h.stream_eq, offset, List.drop_left]

/-- The part is shorter than the packet it belongs to. -/
theorem length_lt (h : BreaksOff ps stream n part) {p : Packet} (next : ps[n]? = some p) :
    part.length < p.length := by
  obtain ⟨missing, some, whole⟩ := h.missing p next
  have := List.length_pos_iff.mpr some
  have := congrArg List.length whole
  simp only [List.length_append] at this
  rw [Packet.length]
  omega

/-- A packet has arrived as a whole exactly if it is one of those in front of the part. -/
theorem lt_iff (h : BreaksOff ps stream n part) {i : Nat} (inside : i < ps.length) :
    i < n ↔ offset ps (i + 1) ≤ stream.length := by
  have total := h.length_eq
  constructor
  · intro before
    have := offset_mono ps (show i + 1 ≤ n by omega)
    omega
  · intro arrived
    rcases Nat.lt_or_ge i n with before | behind
    · exact before
    · have next : ps[n]? = some ps[n] := List.getElem?_eq_getElem (by omega)
      have := offset_mono ps (show n + 1 ≤ i + 1 by omega)
      have := offset_succ next
      have := h.length_lt next
      omega

/-- Nothing of a next packet has arrived exactly if the stream breaks off between two packets. -/
theorem part_eq_nil_iff (h : BreaksOff ps stream n part) :
    part = [] ↔ ∃ i ≤ ps.length, stream.length = offset ps i := by
  have total := h.length_eq
  constructor
  · rintro rfl
    exact ⟨n, h.le_length, by simpa using total⟩
  · rintro ⟨i, bound, between⟩
    rcases Nat.lt_or_ge n i with before | behind
    · have arrived : offset ps (n + 1) ≤ stream.length :=
        between ▸ offset_mono ps (show n + 1 ≤ i by omega)
      exact absurd ((h.lt_iff (by omega)).mpr arrived) (Nat.lt_irrefl n)
    · have := offset_mono ps behind
      exact List.length_eq_zero_iff.mp (by omega)

/-- If no byte is missing, no packet is. -/
theorem length_le_of_whole (h : BreaksOff ps stream n part)
    (whole : stream.length = (encodeAll ps).length) : ps.length ≤ n := by
  rcases Nat.lt_or_ge n ps.length with fewer | all
  · have arrived : offset ps (n + 1) ≤ stream.length :=
      (whole.trans (offset_length ps).symm) ▸ offset_mono ps (show n + 1 ≤ ps.length by omega)
    exact absurd ((h.lt_iff fewer).mpr arrived) (Nat.lt_irrefl n)
  · exact all

theorem frames_eq (h : BreaksOff ps stream n part) :
    frames stream = ⟨ps.take n, none, part⟩ := by
  have cuts : Cuts part ⟨[], none, part⟩ := by
    cases next : ps[n]? with
    | none =>
        rw [h.last next]
        exact .unfinished List.not_mem_nil (by decide)
    | some p =>
        obtain ⟨missing, some, whole⟩ := h.missing p next
        have rests := Decoder.resting_of_part whole some
        exact .unfinished rests.quiet rests.short
  rw [h.stream_eq, encodeAll_eq, frames_packets, ← cuts.eq_frames]
  simp

end BreaksOff

/-! ## Reading to the end of the stream -/

namespace Decoder

variable {d rest : Decoder}

theorem length_lt_of_decodeEnd {p : Packet} (h : d.decodeEnd = (.ok (some p), rest)) :
    rest.buffer.length < d.buffer.length := by
  unfold decodeEnd at h
  split at h
  next =>
    split at h
    next => cases h
    next => cases h
  next => exact length_lt_of_decode h

/-- All packets that are given out once the stream has ended, and the fault that stopped the
reading, if any. -/
def drainEnd (d : Decoder) : (List Packet × Option Error) × Decoder :=
  match _ : d.decodeEnd with
  | (.ok (some packet), rest) =>
    let ((packets, fault), last) := rest.drainEnd
    ((packet :: packets, fault), last)
  | (.ok none, rest) => (([], none), rest)
  | (.error fault, rest) => (([], some fault), rest)
termination_by d.buffer.length
decreasing_by exact length_lt_of_decodeEnd ‹_›

/-- Like draining, this goes on behind a packet and stops at anything else. -/
theorem drainEnd_of_decodeEnd {outcome : Except Error (Option Packet)}
    (taken : d.decodeEnd = (outcome, rest)) :
    d.drainEnd =
      match outcome with
      | .ok (some packet) => ((packet :: rest.drainEnd.1.1, rest.drainEnd.1.2), rest.drainEnd.2)
      | .ok none => (([], none), rest)
      | .error fault => (([], some fault), rest) := by
  rw [drainEnd]
  split
  next found =>
    rw [taken] at found
    cases found
    rfl
  next found =>
    rw [taken] at found
    cases found
    rfl
  next found =>
    rw [taken] at found
    cases found
    rfl

/-- Reads chunks one after another, each with all the packets it completes, and goes on to the end
of the stream.  The first fault ends the reading. -/
def readToEnd (d : Decoder) : List Bytes → (List Packet × Option Error) × Decoder
  | [] => d.drainEnd
  | chunk :: later =>
    match (d.feed chunk).drain with
    | ((packets, some fault), rest) => ((packets, some fault), rest)
    | ((packets, none), rest) =>
      let ((further, fault), last) := rest.readToEnd later
      ((packets ++ further, fault), last)

/-- What the end of the stream says about an unfinished line. -/
def brokenOff (part : Bytes) : Option Error :=
  if part = [] then none
  else some (.connectionClosed s!"peer closed mid-packet after {part.hex}")

/-- The end of the stream finds an unfinished line, and takes it away. -/
theorem Resting.decodeEnd_eq (h : d.Resting) :
    d.decodeEnd =
      (match brokenOff d.buffer with
        | none => .ok none
        | some fault => .error fault, {}) := by
  have quiet : terminator ∉ d.buffer.take d.scanned := fun found =>
    h.quiet (List.mem_of_mem_take found)
  rw [decodeEnd, decode_unfinished quiet h.quiet h.short]
  by_cases empty : d.buffer = []
  · simp [brokenOff, empty]
  · simp [brokenOff, empty]

theorem Resting.drainEnd_eq (h : d.Resting) : d.drainEnd = (([], brokenOff d.buffer), {}) := by
  have ends := h.decodeEnd_eq
  cases said : brokenOff d.buffer with
  | none =>
      rw [said] at ends
      exact drainEnd_of_decodeEnd ends
  | some fault =>
      rw [said] at ends
      exact drainEnd_of_decodeEnd ends

/-- Chunks without a fault are read to the end like one stream, and what is left over is an
unfinished line. -/
theorem Resting.readToEnd_eq (h : d.Resting) (chunks : List Bytes)
    (sound : (frames (d.buffer ++ chunks.flatten)).fault = none) :
    d.readToEnd chunks =
      (((frames (d.buffer ++ chunks.flatten)).packets,
        brokenOff (frames (d.buffer ++ chunks.flatten)).unread), {}) := by
  induction chunks generalizing d with
  | nil =>
      rw [readToEnd, h.drainEnd_eq, ← h.cuts_buffer.eq_frames]
  | cons chunk later ih =>
      have drained := h.drain_feed chunk
      have cuts := cuts_frames (d.buffer ++ chunk)
      rw [List.flatten_cons, ← List.append_assoc] at sound ⊢
      generalize frames (d.buffer ++ chunk) = first at drained cuts
      cases stopped : first.fault with
      | some fault =>
          obtain ⟨unread, whole⟩ := cuts.append_of_fault stopped later.flatten
          rw [← whole.eq_frames, stopped] at sound
          cases sound
      | none =>
          have whole := cuts.append stopped (cuts_frames (first.unread ++ later.flatten))
          rw [← whole.eq_frames] at sound ⊢
          have further := ih (resting_leftBy cuts stopped) sound
          rw [readToEnd, drained, stopped]
          simp only [further]
          rfl

/-- A stream of packets that breaks off anywhere, and arrives in any chunks, is recognized for what
it is.  The packets whose bytes have all arrived are given out, in their order; so all of them are,
if nothing is missing.  Between two packets the stream may end; anywhere else that is a fault, and
it names what has arrived of the next packet.  Either way the decoder is left as good as new. -/
theorem readToEnd_truncated (ps : List Packet) (k : Nat) (chunks : List Bytes)
    (within : k ≤ (encodeAll ps).length) (arrived : chunks.flatten = (encodeAll ps).take k) :
    let boundary := ∃ i ≤ ps.length, k = offset ps i
    ∃ n ≤ ps.length, ∃ ending,
      ({} : Decoder).readToEnd chunks = ((ps.take n, ending), {}) ∧
      (∀ i < ps.length, i < n ↔ offset ps (i + 1) ≤ k) ∧
      (boundary → ending = none) ∧
      (¬ boundary → ending = some (.connectionClosed
        s!"peer closed mid-packet after {Bytes.hex (chunks.flatten.drop (offset ps n))}")) ∧
      (k = (encodeAll ps).length → ps.take n = ps ∧ ending = none) := by
  intro boundary
  have begins : chunks.flatten <+: encodeAll ps := arrived ▸ List.take_prefix k _
  have length : chunks.flatten.length = k := by rw [arrived, List.length_take_of_le within]
  obtain ⟨n, part, breaks⟩ := exists_breaksOff begins
  have cut : frames ([] ++ chunks.flatten) = ⟨ps.take n, none, part⟩ := breaks.frames_eq
  have read : ({} : Decoder).readToEnd chunks = ((ps.take n, brokenOff part), {}) := by
    have read := resting_new.readToEnd_eq chunks (congrArg Frames.fault cut)
    rwa [cut] at read
  have whole_iff : ∀ i < ps.length, i < n ↔ offset ps (i + 1) ≤ k := fun i inside =>
    length ▸ breaks.lt_iff inside
  have empty_iff : part = [] ↔ boundary := by
    rw [breaks.part_eq_nil_iff, length]
  have clean : boundary → brokenOff part = none := fun between => by
    rw [brokenOff, if_pos (empty_iff.mpr between)]
  refine ⟨n, breaks.le_length, brokenOff part, read, whole_iff, clean, ?_, ?_⟩
  · intro inside
    rw [brokenOff, if_neg (fun empty => inside (empty_iff.mp empty)), breaks.drop_eq]
  · rintro rfl
    have all : ps.length ≤ n := breaks.length_le_of_whole length
    exact ⟨List.take_of_length_le all, clean ⟨ps.length, Nat.le_refl _, (offset_length ps).symm⟩⟩

/-- The last byte of a longest packet is missing, so its line is as long as a line may be that has
not ended. -/
theorem readToEnd_truncated_longest :
    let query : Packet := ⟨.advancedCommand, .ofChars 'P' 'W', [], by decide, by decide, by decide⟩
    let longest : Packet :=
      ⟨.basicCommand, .ofChars 'R' 'C', List.replicate 24 0x30, by decide, by decide, by decide⟩
    let whole := encodeAll [query, longest]
    let chunks : List Bytes := [whole.take 4, (whole.drop 4).take 31]
    35 ≤ whole.length ∧ chunks.flatten = whole.take 35 ∧
      ({} : Decoder).readToEnd chunks =
        (([query], some (.connectionClosed
          s!"peer closed mid-packet after {Bytes.hex longest.bytes.dropLast}")), {}) := by
  intro query longest whole chunks
  have within : 35 ≤ whole.length := by decide
  have arrived : chunks.flatten = whole.take 35 := by decide
  obtain ⟨n, bound, ending, read, arrivals, -, faulty, -⟩ :=
    readToEnd_truncated [query, longest] 35 chunks within arrived
  have one : n = 1 := by
    have first := (arrivals 0 (by decide)).mpr (by decide)
    have second := mt (arrivals 1 (by decide)).mp (by decide)
    omega
  subst one
  have inside : ¬ ∃ i ≤ [query, longest].length, 35 = offset [query, longest] i := by decide
  have part : chunks.flatten.drop (offset [query, longest] 1) = longest.bytes.dropLast := by decide
  rw [faulty inside, part] at read
  exact ⟨within, arrived, read⟩

end Decoder

end Framing

end ProjectorControl
