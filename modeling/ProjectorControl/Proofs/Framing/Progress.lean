import ProjectorControl.Proofs.Framing.Packets
import ProjectorControl.Proofs.Packet.Positions

/-!
# Progress of a decoder

A decoder may be in any state here.  Its buffer may have been cut, and what it remembers to have
scanned may lie behind the end of the buffer or behind a line end.  Then it may find another line
than a scan from the front would (`Decoder.Scanned` fails), but it does no harm.  It never reaches
outside of its buffer (`Decoder.decodeByPosition?_eq`), and every answer tells what has become of
the buffer (`Decoder.advances_decode`): a packet was taken from its front, it is short and
unchanged, or a fault has taken some of it.

So a decoder that is asked again after each packet comes to an end.  `Decoder.Drained` gives the
rules of such a run, and its packets have stood one behind another in the buffer
(`Decoder.Drained.buffer_eq`).  Since no packet is shorter than six bytes, there are not many of
them.
-/

namespace ProjectorControl

namespace Framing

namespace Decoder

variable {d rest : Decoder}

/-! ## Inside the buffer -/

/-- Decodes by positions.  Nothing comes out if one of them lies outside of the buffer. -/
def decodeByPosition? (d : Decoder) : Option (Except Error (Option Packet) × Decoder) := do
  let unseen ← d.buffer.slice? d.start (min d.buffer.length Packet.maxLength)
  match unseen.findIdx? (· = terminator) with
  | some i =>
    let line ← d.buffer.slice? 0 (d.start + i + 1)
    let unread ← d.buffer.slice? (d.start + i + 1) d.buffer.length
    let read ← Packet.parseByPosition? line
    return (read.map some, { buffer := unread })
  | none =>
    if Packet.maxLength ≤ d.buffer.length then
      let head ← d.buffer.slice? 0 Packet.maxLength
      return (.error (overlong head), {})
    else return (.ok none, { d with scanned := d.buffer.length })

/-- Decoding by positions never leaves the buffer, and decodes what `decode` does. -/
theorem decodeByPosition?_eq (d : Decoder) : d.decodeByPosition? = some d.decode := by
  have ordered : d.start ≤ min d.buffer.length Packet.maxLength := Nat.min_le_right _ _
  have unseen : d.buffer.slice? d.start (min d.buffer.length Packet.maxLength) =
      some ((d.buffer.take Packet.maxLength).drop d.start) := by
    rw [Bytes.slice?_of_le ordered (Nat.min_le_left _ _), Nat.min_comm, ← List.take_eq_take_min]
  simp only [decodeByPosition?, unseen, Option.bind_eq_bind, Option.bind_some]
  cases found : ((d.buffer.take Packet.maxLength).drop d.start).findIdx? (· = terminator) with
  | some i =>
      have ends : d.lineEnd? = some (d.start + i + 1) := by
        rw [lineEnd?, found]
        rfl
      have inside : d.start + i + 1 ≤ d.buffer.length := (lineEnd?_bounds ends).2
      simp only [Bytes.slice?_front inside, Bytes.slice?_back inside, Packet.parseByPosition?_eq,
        Option.bind_some]
      rw [decode, ends]
      cases read : Packet.parse (d.buffer.take (d.start + i + 1)) with
      | ok packet =>
          simp only [read]
          rfl
      | error fault =>
          simp only [read]
          rfl
  | none =>
      have unended : d.lineEnd? = none := by
        rw [lineEnd?, found]
        rfl
      rw [decode, unended]
      by_cases long : Packet.maxLength ≤ d.buffer.length
      · have head : overlong (d.buffer.take Packet.maxLength) = overlong d.buffer := by
          rw [overlong, List.take_take, Nat.min_self, overlong]
        simp only [if_pos long, Bytes.slice?_front long, Option.bind_some, head]
        rfl
      · simp only [if_neg long]
        rfl

/-! ## One call -/

/-- What an answer tells about the buffer. -/
inductive Advances (d : Decoder) : Except Error (Option Packet) × Decoder → Prop where
  | packet {p : Packet} {rest : Decoder} :
      d.buffer = p.bytes ++ rest.buffer → Advances d (.ok (some p), rest)
  | waits {rest : Decoder} :
      rest.buffer = d.buffer → d.buffer.length < Packet.maxLength → Advances d (.ok none, rest)
  | faulty {fault : Error} {rest : Decoder} :
      rest.buffer <:+ d.buffer → rest.buffer.length < d.buffer.length →
      Advances d (.error fault, rest)

/-- A decoder waits only for a line that may still end in time. -/
theorem length_lt_of_waiting (waits : d.decode = (.ok none, rest)) :
    d.buffer.length < Packet.maxLength := by
  unfold decode at waits
  split at waits
  next =>
    split at waits
    next => cases waits
    next => cases waits
  next =>
    split at waits
    next => cases waits
    next short => exact Nat.lt_of_not_le short

/-- A faulty line is removed, and an overlong one with all that stands behind it. -/
theorem shorter_of_fault {fault : Error} (stopped : d.decode = (.error fault, rest)) :
    rest.buffer <:+ d.buffer ∧ rest.buffer.length < d.buffer.length := by
  unfold decode at stopped
  split at stopped
  next n ends =>
    obtain ⟨some, within⟩ := lineEnd?_bounds ends
    split at stopped
    next => cases stopped
    next =>
      cases stopped
      refine ⟨List.drop_suffix n d.buffer, ?_⟩
      rw [List.length_drop]
      omega
  next =>
    split at stopped
    next long =>
      cases stopped
      exact ⟨List.nil_suffix, Nat.lt_of_lt_of_le (by decide) long⟩
    next => cases stopped

/-- Whatever a decoder remembers, one call takes a packet from its buffer, or waits for a line
shorter than the longest packet, or loses some bytes to a fault. -/
theorem advances_decode (d : Decoder) : d.Advances d.decode := by
  match answer : d.decode with
  | (.ok (some p), rest) => exact .packet (buffer_of_decode answer)
  | (.ok none, rest) => exact .waits (buffer_of_waiting answer) (length_lt_of_waiting answer)
  | (.error fault, rest) =>
      obtain ⟨left, shorter⟩ := shorter_of_fault answer
      exact .faulty left shorter

/-- At the end of the stream a decoder waits only if it holds nothing. -/
theorem advances_decodeEnd (d : Decoder) :
    d.Advances d.decodeEnd ∧ (d.decodeEnd.1 = .ok none → d.buffer = []) := by
  have advances := d.advances_decode
  unfold decodeEnd
  generalize d.decode = answer at advances
  cases advances with
  | packet taken => exact ⟨.packet taken, nofun⟩
  | faulty left shorter => exact ⟨.faulty left shorter, nofun⟩
  | @waits rest same short =>
      simp only []
      split
      next empty => exact ⟨.waits same short, fun _ => same ▸ empty⟩
      next some =>
        refine ⟨.faulty List.nil_suffix ?_, nofun⟩
        exact List.length_pos_iff.mpr (same ▸ some)

/-! ## Calls up to the first that gives no packet -/

/-- A decoder is asked again after each packet that it gives out, and is left when it waits or
reports a fault. -/
inductive Drained : Decoder → List Packet → Option Error → Decoder → Prop where
  | waits {d rest : Decoder} : d.decode = (.ok none, rest) → Drained d [] none rest
  | faulty {d rest : Decoder} {fault : Error} :
      d.decode = (.error fault, rest) → Drained d [] (some fault) rest
  | packet {d next rest : Decoder} {p : Packet} {later : List Packet} {fault : Option Error} :
      d.decode = (.ok (some p), next) → Drained next later fault rest →
      Drained d (p :: later) fault rest

/-- Every decoder is left some time, and what it has given out until then is what `drain` says. -/
theorem drained_drain (d : Decoder) : Drained d d.drain.1.1 d.drain.1.2 d.drain.2 := by
  induction length : d.buffer.length using Nat.strongRecOn generalizing d with
  | ind n ih =>
      match answer : d.decode with
      | (.ok (some p), next) =>
          have shorter : next.buffer.length < n := length ▸ length_lt_of_decode answer
          rw [drain_of_decode answer]
          exact .packet answer (ih next.buffer.length shorter next rfl)
      | (.ok none, rest) =>
          rw [drain_of_decode answer]
          exact .waits answer
      | (.error fault, rest) =>
          rw [drain_of_decode answer]
          exact .faulty answer

/-- A packet has at least six bytes. -/
theorem mul_length_le (ps : List Packet) :
    Packet.minLength * ps.length ≤ (ps.flatMap Packet.bytes).length := by
  induction ps with
  | nil => simp
  | cons p ps ih =>
      have least : Packet.minLength ≤ p.bytes.length := p.minLength_le_length
      rw [List.flatMap_cons, List.length_append, List.length_cons, Nat.mul_succ]
      omega

namespace Drained

variable {packets : List Packet} {fault : Option Error}

theorem eq_drain (run : Drained d packets fault rest) : d.drain = ((packets, fault), rest) := by
  induction run with
  | waits answer => exact drain_of_decode answer
  | faulty answer => exact drain_of_decode answer
  | packet answer _ ih =>
      rw [drain_of_decode answer]
      simp only [ih]

/-- The packets stood one behind another in the buffer. -/
theorem buffer_eq (run : Drained d packets fault rest) :
    ∃ left, d.buffer = packets.flatMap Packet.bytes ++ left := by
  induction run with
  | waits => exact ⟨_, rfl⟩
  | faulty => exact ⟨_, rfl⟩
  | packet answer _ ih =>
      obtain ⟨left, behind⟩ := ih
      refine ⟨left, ?_⟩
      rw [buffer_of_decode answer, behind, List.flatMap_cons, List.append_assoc]

theorem length_le (run : Drained d packets fault rest) :
    packets.length ≤ d.buffer.length / Packet.minLength := by
  obtain ⟨left, front⟩ := run.buffer_eq
  have least := mul_length_le packets
  rw [Nat.le_div_iff_mul_le (by decide), Nat.mul_comm, front, List.length_append]
  exact Nat.le_add_right_of_le least

end Drained

/-- A decoder in any state is safe to ask and gets ahead.  It never reaches outside of its buffer.
What it gives out is taken from the front of the buffer, byte for byte; it waits only with an
unchanged buffer that is shorter than the longest packet, and at the end of the stream only with an
empty one; and a fault leaves less than there was.  So a decoder that is asked again after each
packet comes to wait or reports a fault, and until then gives out one packet for six bytes at most. -/
theorem decode_progresses (d : Decoder) :
    d.decodeByPosition? = some d.decode ∧
      d.Advances d.decode ∧
      (d.Advances d.decodeEnd ∧ (d.decodeEnd.1 = .ok none → d.buffer = [])) ∧
      Drained d d.drain.1.1 d.drain.1.2 d.drain.2 ∧
      ∀ packets fault rest, Drained d packets fault rest →
        d.drain = ((packets, fault), rest) ∧
          packets.length ≤ d.buffer.length / Packet.minLength :=
  ⟨d.decodeByPosition?_eq, d.advances_decode, d.advances_decodeEnd, d.drained_drain,
    fun _ _ _ run => ⟨run.eq_drain, run.length_le⟩⟩

/-- A decoder that takes its buffer for scanned as far as into the second line finds only the end of
that one, and takes both for one line. -/
example :
    let stale : Decoder := ⟨[0x58, terminator, 0x59, terminator, 0x5A], 3⟩
    stale.decode = (.error (Packet.outsideLength [0x58, terminator, 0x59, terminator]), ⟨[0x5A], 0⟩) :=
  rfl

end Decoder

end Framing

end ProjectorControl
