import ProjectorControl.Proofs.Projector.Step

/-!
# What a dispatcher refuses

A packet is refused if it is no command or if no command of the table fits it, and a field is
not forced if its value is unknown.  Nothing else fails, since the fields hold names that can be
sent (`Dispatcher.Sound.known`), and what is refused leaves no trace.  `Dispatcher.sound_run`
says so of a dispatcher after any requests.
-/

namespace ProjectorControl

/-- Why a packet is refused. -/
inductive PacketFault (packet : Packet) : Error → Prop where
  | noCommand :
      packet.isCommand = false →
      PacketFault packet (.protocolViolation s!"expected a command packet, got {packet.text}")
  | unknown :
      packet.isCommand = true →
      (∀ definition ∈ registry.commands, definition.matchesPacket packet = false) →
      PacketFault packet (.unrecognizedCommand s!"{packet.text} ({packet.bytes.hex})")

namespace Dispatcher

variable {d : Dispatcher} {packet : Packet} {fault : Error}

theorem dispatch_of_packetFault (d : Dispatcher) (why : PacketFault packet fault) :
    d.dispatch packet = (.error fault, d, []) := by
  cases why with
  | noCommand response =>
      simp only [dispatch, response, Bool.not_false, if_true]
  | unknown isCommand missing =>
      have unresolved : registry.resolve packet (some d.model) = [] :=
        Registry.resolve_eq_nil_iff.mpr missing
      simp only [dispatch, isCommand, Bool.not_true, Bool.false_eq_true, if_false,
        Command.ofPacket, unresolved]

theorem packetFault_of_dispatch (valid : d.Valid)
    (failed : (d.dispatch packet).1 = .error fault) : PacketFault packet fault := by
  have rule := dispatched valid packet
  generalize d.dispatch packet = outcome at rule failed
  obtain ⟨result, after, effects⟩ := outcome
  simp only at rule failed
  subst failed
  cases rule with
  | noCommand response => exact .noCommand response
  | unknown isCommand missing => exact .unknown isCommand missing

theorem eq_of_force_error {field : StatusField} {value : String}
    (failed : (d.force field value).1 = .error fault) : (d.force field value).2 = (d, []) := by
  have rule := d.forced field value
  generalize d.force field value = outcome at rule failed ⊢
  obtain ⟨result, after, effects⟩ := outcome
  simp only at rule failed ⊢
  subst failed
  cases rule with
  | noPower => rfl
  | unknown => rfl

/-- What holds of a dispatcher between two requests. -/
structure Sound (d : Dispatcher) : Prop where
  /-- Every field holds a name in the response map of its query. -/
  known : ∀ field : StatusField, ∃ map payload, field.responseMap = .ok map ∧
    map.payloadFor? (d.state.get field) = some payload ∧
    map.get? payload = some (d.state.get field)
  /-- The power field names a power state. -/
  power : ∃ power, d.state.powerState = .ok power
  /-- A packet fails for one of two reasons. -/
  dispatch_error_iff : ∀ packet fault,
    (d.dispatch packet).1 = .error fault ↔ PacketFault packet fault
  /-- A packet that fails changes nothing and does nothing. -/
  dispatch_unchanged : ∀ packet fault,
    (d.dispatch packet).1 = .error fault → (d.dispatch packet).2 = (d, [])
  /-- A value that is refused changes nothing and does nothing. -/
  force_unchanged : ∀ field value fault,
    (d.force field value).1 = .error fault → (d.force field value).2 = (d, [])

theorem Valid.sound (valid : d.Valid) : d.Sound where
  known field := by
    obtain ⟨payload, found⟩ := valid.state field
    obtain ⟨-, -, back⟩ := field.payloads_sound _ (StatusField.mem_payloads found)
    exact ⟨_, payload, field.responseMap_eq, found, back⟩
  power := by
    obtain ⟨power, -, read⟩ := valid.state.exists_power
    exact ⟨power, read⟩
  dispatch_error_iff packet fault :=
    ⟨packetFault_of_dispatch valid, fun why => by rw [d.dispatch_of_packetFault why]⟩
  dispatch_unchanged packet fault failed := by
    rw [d.dispatch_of_packetFault (packetFault_of_dispatch valid failed)]
  force_unchanged field value fault failed := eq_of_force_error failed

/-- Whatever is asked of a projector, its fields stay answerable, it refuses only what is no
command of the table, and what it refuses leaves no trace. -/
theorem sound_run {c : EmulatorConfig} {d : Dispatcher} (accepted : ofConfig c = .ok d)
    (requests : List Request) : (d.run requests).Sound :=
  (valid_run accepted requests).sound

/-- A projector that was switched on, forced into emergency, and then sent a late timer and a
packet that is no command. -/
theorem sound_run_emergency :
    let on : Packet := ⟨.basicCommand, .ofChars 'P' 'W', [0x31], by decide, by decide, by decide⟩
    let response : Packet :=
      ⟨.basicResponse, .ofChars 'P' 'W', [], by decide, by decide, by decide⟩
    let requests : List Request := [.packet 1 on, .setStatus 0 .power "Emergency",
      .powerTimer 1, .packet 2 response, .setStatus 1 .source "Maybe"]
    ∃ d, ofConfig {} = .ok d ∧ (d.run requests).Sound ∧
      (d.run requests).state.get .power = "Emergency" ∧ (d.run requests).generation = 2 := by
  intro on response requests
  have accepted : ∃ d, ofConfig {} = .ok d ∧
      (d.run requests).state.get .power = "Emergency" ∧ (d.run requests).generation = 2 :=
    ⟨_, rfl, by decide +kernel⟩
  obtain ⟨d, read, power, generation⟩ := accepted
  exact ⟨d, read, sound_run read requests, power, generation⟩

end Dispatcher

end ProjectorControl
