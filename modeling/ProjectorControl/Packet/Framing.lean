import ProjectorControl.Packet.Basic

/-!
# Framing

A stream of packets is cut at the byte that ends each line.  A `Decoder` collects the
bytes that have arrived and gives out one packet at a time.  It remembers how much of its
buffer it has scanned already, so that a line arriving in pieces is scanned once.  A line
that does not end within the longest packet is a fault, so the buffer stays short
whatever a peer sends.

`frames` is the same cutting done on a whole byte string at once, and `encode` goes the
other way.
-/

namespace ProjectorControl

namespace Framing

/-- The fault of a line that does not end in time. -/
def overlong (unread : Bytes) : Error :=
  let start : Bytes := unread.take Packet.maxLength
  .malformedPacket s!"no terminator within {Packet.maxLength} bytes: {start.hex}"

/-- What a byte string holds when it is cut into lines. -/
structure Frames where
  /-- The packets, in order. -/
  packets : List Packet
  /-- What stopped the cutting, if it was not a lack of bytes. -/
  fault : Option Error
  /-- The bytes that no line has used. -/
  unread : Bytes
  deriving DecidableEq, Repr

/-- Cuts a whole byte string into packets, up to the first faulty line. -/
def frames (stream : Bytes) : Frames :=
  match _ : (stream.take Packet.maxLength).findIdx? (· = terminator) with
  | some i =>
    match Packet.parse (stream.take (i + 1)) with
    | .error fault => ⟨[], some fault, stream.drop (i + 1)⟩
    | .ok packet =>
      let later := frames (stream.drop (i + 1))
      { later with packets := packet :: later.packets }
  | none =>
    if Packet.maxLength ≤ stream.length then ⟨[], some (overlong stream), []⟩
    else ⟨[], none, stream⟩
termination_by stream.length
decreasing_by
  rename_i found
  have bound := (List.findIdx?_eq_some_iff_findIdx_eq.mp found).1
  simp only [List.length_take] at bound
  simp only [List.length_drop]
  omega

/-- Writes a packet behind the bytes that are to be sent already. -/
def encode (pending : Bytes) (packet : Packet) : Bytes := pending ++ packet.bytes

/-! ## One packet at a time -/

/-- The bytes received and not yet given out. -/
structure Decoder where
  /-- The unread bytes. -/
  buffer : Bytes := []
  /-- How many of them are known to end no line. -/
  scanned : Nat := 0
  deriving DecidableEq, Repr

namespace Decoder

/-- Takes in further bytes. -/
def feed (d : Decoder) (bytes : Bytes) : Decoder := { d with buffer := d.buffer ++ bytes }

/-- Forgets all unread bytes but the first `n`, and not what was scanned. -/
def truncate (d : Decoder) (n : Nat) : Decoder := { d with buffer := d.buffer.take n }

/-- Where the next scan starts. -/
def start (d : Decoder) : Nat := min d.scanned (min d.buffer.length Packet.maxLength)

/-- Where the line at the front of the buffer ends, as far as it was not scanned. -/
def lineEnd? (d : Decoder) : Option Nat :=
  (((d.buffer.take Packet.maxLength).drop d.start).findIdx? (· = terminator)).map
    fun i => d.start + i + 1

/-- Gives out the packet at the front of the buffer, nothing when its line has not ended,
or a fault.  A faulty line is removed; an overlong one takes the whole buffer with it. -/
def decode (d : Decoder) : Except Error (Option Packet) × Decoder :=
  match d.lineEnd? with
  | some n =>
    let rest : Decoder := { buffer := d.buffer.drop n }
    match Packet.parse (d.buffer.take n) with
    | .ok packet => (.ok (some packet), rest)
    | .error fault => (.error fault, rest)
  | none =>
    if Packet.maxLength ≤ d.buffer.length then (.error (overlong d.buffer), {})
    else (.ok none, { d with scanned := d.buffer.length })

/-- The same once the stream has ended, when an unfinished line is a fault. -/
def decodeEnd (d : Decoder) : Except Error (Option Packet) × Decoder :=
  match d.decode with
  | (.ok none, rest) =>
    if rest.buffer = [] then (.ok none, rest)
    else
      (.error (.connectionClosed s!"peer closed mid-packet after {rest.buffer.hex}"), {})
  | other => other

theorem lineEnd?_bounds {d : Decoder} {n : Nat} (h : d.lineEnd? = some n) :
    0 < n ∧ n ≤ d.buffer.length := by
  simp only [lineEnd?, Option.map_eq_some_iff] at h
  obtain ⟨i, found, rfl⟩ := h
  have bound := (List.findIdx?_eq_some_iff_findIdx_eq.mp found).1
  simp only [List.length_drop, List.length_take] at bound
  omega

/-- A packet is taken from the front of the buffer. -/
theorem length_lt_of_decode {d rest : Decoder} {packet : Packet}
    (h : d.decode = (.ok (some packet), rest)) : rest.buffer.length < d.buffer.length := by
  unfold decode at h
  split at h
  case h_1 n found =>
    have := lineEnd?_bounds found
    split at h
    · simp only [Prod.mk.injEq] at h
      rw [← h.2]
      simp only [List.length_drop]
      omega
    · simp at h
  case h_2 =>
    split at h <;> simp at h

/-- All packets that the buffer holds, and the fault that stopped the reading, if any. -/
def drain (d : Decoder) : (List Packet × Option Error) × Decoder :=
  match _ : d.decode with
  | (.ok (some packet), rest) =>
    let ((packets, fault), last) := rest.drain
    ((packet :: packets, fault), last)
  | (.ok none, rest) => (([], none), rest)
  | (.error fault, rest) => (([], some fault), rest)
termination_by d.buffer.length
decreasing_by exact length_lt_of_decode ‹_›

end Decoder

end Framing

end ProjectorControl
