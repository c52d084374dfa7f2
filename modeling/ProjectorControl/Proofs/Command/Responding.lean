import ProjectorControl.Response
import ProjectorControl.Proofs.Packet.RoundTrip

/-!
# Responding to commands

The packets that answer a command carry its code, so they fit it.  An operation is always
acknowledged (`Command.respond_of_basic`).  A query is acknowledged and answered with any payload
that a packet can carry and that has the length the query asks for
(`Command.respond_of_advanced`).
-/

namespace ProjectorControl

namespace Packet

/-- The empty packet that acknowledges a packet. -/
def acknowledgement (p : Packet) : Packet where
  kind := .basicResponse
  code := p.code
  payload := []
  payload_length_le := Nat.zero_le _
  terminator_notMem_code := p.terminator_notMem_code
  terminator_notMem_payload := List.not_mem_nil

/-- The packet that answers a packet with a payload. -/
def answering (p : Packet) (payload : Bytes) (fits : payload.length ≤ maxPayloadLength)
    (whole : terminator ∉ payload) : Packet where
  kind := .advancedResponse
  code := p.code
  payload := payload
  payload_length_le := fits
  terminator_notMem_code := p.terminator_notMem_code
  terminator_notMem_payload := whole

end Packet

namespace Command

variable {c : Command}

theorem acknowledge_eq (c : Command) : c.acknowledge = .ok c.packet.acknowledgement :=
  Packet.build_of_fits _ (Nat.zero_le _) c.packet.terminator_notMem_code List.not_mem_nil

theorem basicFault?_acknowledgement (c : Command) :
    Response.basicFault? c c.packet.acknowledgement = none := by
  simp [Response.basicFault?, Packet.acknowledgement, code]

/-- The acknowledgement of an operation is its response. -/
theorem ofPackets_of_basic (basic : c.isAdvanced = false) :
    Response.ofPackets c c.packet.acknowledgement none =
      .ok ⟨c, c.packet.acknowledgement, none⟩ := by
  simp only [Response.ofPackets, basicFault?_acknowledgement, Response.advancedFault?, basic]

/-- An operation is acknowledged. -/
theorem respond_of_basic (basic : c.isAdvanced = false) :
    c.respond [] = .ok ⟨c, c.packet.acknowledgement, none⟩ := by
  rw [respond, acknowledge_eq]
  simp only [Bind.bind, Except.bind, basic, Bool.false_eq_true, if_false, ne_eq,
    not_true_eq_false]
  exact ofPackets_of_basic basic

theorem answer_of_advanced {payload : Bytes} (advanced : c.isAdvanced = true)
    (sized : ∀ n, c.responseLength? = some n → payload.length = n)
    (fits : payload.length ≤ Packet.maxPayloadLength) (whole : terminator ∉ payload) :
    c.answer payload = .ok (c.packet.answering payload fits whole) := by
  have built := Packet.build_of_fits .advancedResponse fits
    c.packet.terminator_notMem_code whole
  simp only [answer, advanced, Bool.not_true, Bool.false_eq_true, if_false]
  split
  next n fixed =>
    rw [if_neg (not_not_intro (sized n fixed))]
    exact built
  next => exact built

/-- The acknowledgement of a query and a payload of the right length are its response. -/
theorem ofPackets_of_advanced {payload : Bytes} (advanced : c.isAdvanced = true)
    (sized : ∀ n, c.responseLength? = some n → payload.length = n)
    (fits : payload.length ≤ Packet.maxPayloadLength) (whole : terminator ∉ payload) :
    Response.ofPackets c c.packet.acknowledgement (some (c.packet.answering payload fits whole)) =
      .ok ⟨c, c.packet.acknowledgement, some (c.packet.answering payload fits whole)⟩ := by
  have fitting :
      Response.advancedFault? c (some (c.packet.answering payload fits whole)) = none := by
    simp only [Response.advancedFault?, advanced, Packet.answering, code, ne_eq,
      not_true_eq_false, if_false]
    split
    next => rfl
    next n fixed => rw [if_neg (not_not_intro (sized n fixed))]
  simp only [Response.ofPackets, basicFault?_acknowledgement, fitting]

/-- A query is acknowledged and answered. -/
theorem respond_of_advanced {payload : Bytes} (advanced : c.isAdvanced = true)
    (sized : ∀ n, c.responseLength? = some n → payload.length = n)
    (fits : payload.length ≤ Packet.maxPayloadLength) (whole : terminator ∉ payload) :
    c.respond payload =
      .ok ⟨c, c.packet.acknowledgement, some (c.packet.answering payload fits whole)⟩ := by
  rw [respond, acknowledge_eq]
  simp only [Bind.bind, Except.bind, advanced, if_true, answer_of_advanced advanced sized fits whole]
  exact ofPackets_of_advanced advanced sized fits whole

end Command

end ProjectorControl
