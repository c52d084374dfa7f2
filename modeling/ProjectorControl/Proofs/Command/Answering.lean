import ProjectorControl.Proofs.Command.Responding
import ProjectorControl.Proofs.Framing.Packets
import ProjectorControl.Proofs.Packet.Language

/-!
# Making responses and putting them together

A projector makes a response from a payload, and a client puts one together from packets.  The two
are written apart from each other, the one by building packets and the other by a series of checks.
Both mean the same responses: those in which a command is *answered* (`Response.Answers`).  So
`Command.respond_eq_ok_iff` says what is made, `Response.ofPackets_eq_ok_iff` says what can be put
together, and `Command.responses_agree` is read off the two.
-/

namespace ProjectorControl

open Framing (Decoder)

/-- The command can be answered with the payload: an operation with none, and a query with one that
a packet can carry, of the length that the query asks for. -/
inductive Command.Carries (c : Command) (payload : Bytes) : Prop where
  | operation : c.isAdvanced = false → payload = [] → Carries c payload
  | query :
      c.isAdvanced = true → (∀ n, c.responseLength? = some n → payload.length = n) →
      payload.length ≤ Packet.maxPayloadLength → terminator ∉ payload → Carries c payload

/-- The response answers the command with the payload. -/
inductive Response.Answers (c : Command) : Bytes → Response → Prop where
  | operation :
      c.isAdvanced = false → Answers c [] ⟨c, c.packet.acknowledgement, none⟩
  | query {payload : Bytes} (fits : payload.length ≤ Packet.maxPayloadLength)
      (whole : terminator ∉ payload) :
      c.isAdvanced = true → (∀ n, c.responseLength? = some n → payload.length = n) →
      Answers c payload
        ⟨c, c.packet.acknowledgement, some (c.packet.answering payload fits whole)⟩

namespace Response.Answers

variable {c : Command} {payload : Bytes} {r : Response}

theorem payload_eq (answers : Answers c payload r) : r.payload = payload := by
  cases answers with
  | operation => rfl
  | query => rfl

theorem carries (answers : Answers c payload r) : c.Carries payload := by
  cases answers with
  | operation basic => exact .operation basic rfl
  | query fits whole advanced sized => exact .query advanced sized fits whole

theorem exists_of_carries (carries : c.Carries payload) : ∃ r, Answers c payload r := by
  cases carries with
  | operation basic none => exact none ▸ ⟨_, .operation basic⟩
  | query advanced sized fits whole => exact ⟨_, .query fits whole advanced sized⟩

end Response.Answers

/-! ## Making responses -/

namespace Command

variable {c : Command} {payload : Bytes} {packet : Packet} {r : Response}

/-- Only a query has an answer, of its own length, and it has the code of the query. -/
theorem of_answer (made : c.answer payload = .ok packet) :
    c.isAdvanced = true ∧ (∀ n, c.responseLength? = some n → payload.length = n) ∧
      Packet.build .advancedResponse c.code payload = .ok packet := by
  unfold answer at made
  split at made
  next => cases made
  next query =>
    have advanced : c.isAdvanced = true := by simpa using query
    dsimp only at made
    split at made
    next n fixed =>
      split at made
      next => cases made
      next sized =>
        refine ⟨advanced, fun m found => ?_, made⟩
        rw [← Option.some.inj (fixed.symm.trans found)]
        exact Decidable.of_not_not sized
    next unfixed => exact ⟨advanced, fun n found => (nomatch unfixed.symm.trans found), made⟩

/-- What is made answers the command. -/
theorem respond_eq_ok_iff : c.respond payload = .ok r ↔ Response.Answers c payload r := by
  constructor
  · intro made
    rw [respond, acknowledge_eq] at made
    simp only [Bind.bind, Except.bind] at made
    split at made
    next query =>
      cases answered : c.answer payload with
      | error fault => rw [answered] at made; cases made
      | ok packet =>
          obtain ⟨advanced, sized, built⟩ := of_answer answered
          obtain ⟨fits, -, whole⟩ := Packet.exists_build_iff.mp ⟨packet, built⟩
          rw [answer_of_advanced advanced sized fits whole] at made
          dsimp only at made
          rw [ofPackets_of_advanced advanced sized fits whole] at made
          cases made
          exact .query fits whole advanced sized
    next operation =>
      have basic : c.isAdvanced = false := by simpa using operation
      split at made
      next => cases made
      next empty =>
        obtain rfl := Decidable.of_not_not empty
        rw [ofPackets_of_basic basic] at made
        cases made
        exact .operation basic
  · intro answers
    cases answers with
    | operation basic => exact respond_of_basic basic
    | query fits whole advanced sized => exact respond_of_advanced advanced sized fits whole

end Command

/-! ## Putting responses together -/

namespace Response

variable {c : Command} {basic packet : Packet} {advanced : Option Packet} {r : Response}

/-- The checks on an acknowledgement leave one packet. -/
theorem basicFault?_eq_none_iff :
    basicFault? c basic = none ↔ basic = c.packet.acknowledgement := by
  constructor
  · intro sound
    unfold basicFault? at sound
    split at sound
    next => cases sound
    next kind =>
      split at sound
      next => cases sound
      next code =>
        split at sound
        next => cases sound
        next empty =>
          have built := Packet.build_eq_ok_iff.mpr ⟨Decidable.of_not_not kind,
            Decidable.of_not_not code, Decidable.of_not_not empty⟩
          exact Except.ok.inj (built.symm.trans c.acknowledge_eq)
  · rintro rfl
    exact c.basicFault?_acknowledgement

/-- The checks on an answer leave the packets with the code of the query and a payload of its
length. -/
theorem of_advancedFault? (query : c.isAdvanced = true)
    (sound : advancedFault? c (some packet) = none) :
    packet.kind = .advancedResponse ∧ packet.code = c.code ∧
      ∀ n, c.responseLength? = some n → packet.payload.length = n := by
  simp only [advancedFault?, query] at sound
  split at sound
  next => cases sound
  next kind =>
    split at sound
    next => cases sound
    next code =>
      refine ⟨Decidable.of_not_not kind, Decidable.of_not_not code, fun n fixed => ?_⟩
      rw [fixed] at sound
      dsimp only at sound
      split at sound
      next => cases sound
      next sized => exact Decidable.of_not_not sized

/-- The packets that can be put together are those that answer the command. -/
theorem ofPackets_eq_ok_iff :
    ofPackets c basic advanced = .ok r ↔
      Answers c r.payload r ∧ r.basic = basic ∧ r.advanced = advanced := by
  constructor
  · intro made
    unfold ofPackets at made
    split at made
    next => cases made
    next basicSound =>
      split at made
      next => cases made
      next advancedSound =>
        cases made
        obtain rfl := basicFault?_eq_none_iff.mp basicSound
        refine ⟨?_, rfl, rfl⟩
        cases query : c.isAdvanced with
        | false =>
            cases advanced with
            | none => exact .operation query
            | some packet =>
                simp [advancedFault?, query] at advancedSound
        | true =>
            cases advanced with
            | none =>
                simp [advancedFault?, query] at advancedSound
            | some packet =>
                obtain ⟨kind, code, sized⟩ := of_advancedFault? query advancedSound
                obtain ⟨_, _, payload, fits, wholeCode, whole⟩ := packet
                cases kind
                cases code
                exact .query fits whole query sized
  · rintro ⟨answers, rfl, rfl⟩
    generalize r.payload = payload at answers
    cases answers with
    | operation basic => exact Command.ofPackets_of_basic basic
    | query fits whole advanced sized =>
        exact Command.ofPackets_of_advanced advanced sized fits whole

end Response

/-! ## Both directions -/

namespace Command

/-- Making responses and putting them together are inverse.  A response can be made from just the
payloads that the command carries.  It has that payload, its bytes are read as its packets in any
chunks, and these make it up again.  What can be put together from any packets is the response that
is made from its payload. -/
theorem responses_agree (c : Command) :
    (∀ payload, (∃ r, c.respond payload = .ok r) ↔ c.Carries payload) ∧
    (∀ payload r, c.respond payload = .ok r →
      r.payload = payload ∧
      ∀ chunks, chunks.flatten = r.bytes →
        ({} : Decoder).readChunks chunks = ⟨r.packets, none, []⟩ ∧
        ∀ basic advanced, r.packets = basic :: advanced.toList →
          Response.ofPackets c basic advanced = .ok r) ∧
    ∀ basic advanced r, Response.ofPackets c basic advanced = .ok r →
      c.respond r.payload = .ok r := by
  refine ⟨fun payload => ⟨?_, ?_⟩, fun payload r made => ?_, fun basic advanced r made => ?_⟩
  · rintro ⟨r, made⟩
    exact (respond_eq_ok_iff.mp made).carries
  · intro carries
    obtain ⟨r, answers⟩ := Response.Answers.exists_of_carries carries
    exact ⟨r, respond_eq_ok_iff.mpr answers⟩
  · have answers := respond_eq_ok_iff.mp made
    have payload_eq := answers.payload_eq
    refine ⟨payload_eq, fun chunks written => ⟨Decoder.readChunks_packets written, ?_⟩⟩
    intro basic advanced same
    obtain ⟨first, rest⟩ := List.cons.inj same
    have last : r.advanced = advanced := by
      cases held : r.advanced <;> cases advanced <;> simp_all
    exact Response.ofPackets_eq_ok_iff.mpr ⟨payload_eq ▸ answers, first, last⟩
  · exact respond_eq_ok_iff.mpr (Response.ofPackets_eq_ok_iff.mp made).1

/-- The lamp is on: the query for it is answered with one byte.  The thirteen bytes arrive with a
break in the middle of the answer. -/
theorem responses_agree_powerStatus :
    ∃ c r, ofName "power_status.query" [] = .ok c ∧ c.respond [0x31] = .ok r ∧
      c.Carries [0x31] ∧ ¬ c.Carries [] ∧ ¬ c.Carries [terminator] ∧ r.payload = [0x31] ∧
      ({} : Decoder).readChunks [r.bytes.take 8, r.bytes.drop 8] = ⟨r.packets, none, []⟩ ∧
      r.bytes.length = 13 ∧ Response.ofPackets c r.basic r.advanced = .ok r := by
  have computed : ∃ c r, ofName "power_status.query" [] = .ok c ∧ c.respond [0x31] = .ok r ∧
      r.bytes.length = 13 ∧ (c.respond []).toOption = none ∧
      (c.respond [terminator]).toOption = none :=
    ⟨_, _, rfl, rfl, rfl, rfl, rfl⟩
  obtain ⟨c, r, named, made, long, short, broken⟩ := computed
  obtain ⟨possible, whole, -⟩ := responses_agree c
  obtain ⟨payload, read⟩ := whole [0x31] r made
  obtain ⟨decoded, assembled⟩ := read [r.bytes.take 8, r.bytes.drop 8] (by simp)
  refine ⟨c, r, named, made, (possible _).mp ⟨r, made⟩, fun carries => ?_, fun carries => ?_,
    payload, decoded, long, assembled _ _ rfl⟩
  · obtain ⟨other, answered⟩ := (possible _).mpr carries
    rw [answered] at short
    cases short
  · obtain ⟨other, answered⟩ := (possible _).mpr carries
    rw [answered] at broken
    cases broken

end Command

end ProjectorControl
