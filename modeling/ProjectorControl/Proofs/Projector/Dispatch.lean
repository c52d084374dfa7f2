import ProjectorControl.Projector.Dispatcher
import ProjectorControl.Proofs.Command.Recognition
import ProjectorControl.Proofs.Command.Responding
import ProjectorControl.Proofs.Projector.State

/-!
# What comes of a packet

`Dispatcher.Dispatched` lists it, one rule for each way in which a dispatcher treats a packet:
it is refused as no command or as an unknown one, it switches the power or is ignored because
the power does not allow it, or it gets its response and nothing else happens.
`Dispatcher.dispatched` says that a dispatcher in a valid state follows one of the rules, so
none of the other faults that the code provides for ever comes up.

That rests on the command table: `CommandDefinition.role_of_mem` finds that every command is an
operation, the query for a status field or the query for the model, and that the queries have
the response map and the response length which their answers need.
-/

namespace ProjectorControl

/-! ## The commands of the table -/

/-- What a command asks of a projector. -/
inductive CommandDefinition.Role (d : CommandDefinition) : Prop where
  | operation :
      d.isAdvanced = false → d.name ≠ "model_status.query" →
      (∀ field : StatusField, field.queryName ≠ d.name) → Role d
  | status (field : StatusField) :
      d.isAdvanced = true → d.name = field.queryName → d.responses? = some field.responses →
      d.group.responseLength = some 1 → Role d
  | model :
      d.isAdvanced = true → d.name = "model_status.query" →
      d.group.responseLength = some 14 → Role d

theorem CommandDefinition.role_of_mem {d : CommandDefinition} (listed : d ∈ registry.commands) :
    d.Role := by
  have table : ∀ d ∈ registry.commands,
      (d.isAdvanced = false ∧ d.name ≠ "model_status.query" ∧
        ∀ field ∈ StatusField.all, field.queryName ≠ d.name) ∨
      (∃ field ∈ StatusField.all, d.isAdvanced = true ∧ d.name = field.queryName ∧
        d.entry.answers = .table field.values ∧ d.group.responseLength = some 1) ∨
      (d.isAdvanced = true ∧ d.name = "model_status.query" ∧
        d.group.responseLength = some 14) := by
    decide +kernel
  rcases table d listed with
    ⟨basic, model, status⟩ | ⟨field, -, advanced, named, answers, length⟩ |
      ⟨advanced, named, length⟩
  · exact .operation basic model fun field => status field field.mem_all
  · have map : d.responses? = some field.responses := by
      rw [responses?, answers]
      rfl
    exact .status field advanced named map length
  · exact .model advanced named length

/-- A query is answered with any payload of its response length that one packet can carry. -/
theorem Command.respond_of_length (c : Command) {payload : Bytes} {n : Nat}
    (advanced : c.definition.isAdvanced = true)
    (fixed : c.definition.group.responseLength = some n)
    (size : payload.length = n) (short : n ≤ Packet.maxPayloadLength)
    (whole : terminator ∉ payload) :
    ∃ fits, c.respond payload =
      .ok ⟨c, c.packet.acknowledgement, some (c.packet.answering payload fits whole)⟩ := by
  have sized : ∀ m, c.responseLength? = some m → payload.length = m := by
    intro m found
    rw [size]
    exact Option.some.inj (fixed.symm.trans found)
  have fits : payload.length ≤ Packet.maxPayloadLength := size ▸ short
  exact ⟨fits, respond_of_advanced (c.isAdvanced_eq.trans advanced) sized fits whole⟩

namespace Model

/-- The payload of a model can be the answer to the query for it. -/
theorem statusPayload_sound {model : Model} (listed : model ∈ all) :
    model.statusPayload.length = 14 ∧ terminator ∉ model.statusPayload := by
  have table : ∀ model ∈ all,
      model.statusPayload.length = 14 ∧ terminator ∉ model.statusPayload := by decide
  exact table model listed

theorem mem_of_find {name : String} {model : Model} (found : find name = .ok model) :
    model ∈ all := by
  unfold find at found
  split at found
  next first =>
    cases found
    exact List.mem_of_find?_eq_some first
  next => cases found

end Model

namespace StatusField

theorem find?_queryName (field : StatusField) :
    (all.find? fun f => f.queryName = field.queryName) = some field := by
  cases field <;> decide +kernel

theorem queryName_ne (field : StatusField) :
    field.queryName ≠ "model_status.query" ∧ field.queryName ≠ "power.on" ∧
      field.queryName ≠ "power.off" := by
  cases field <;> decide +kernel

end StatusField

/-- The power commands, each with the state in which it is obeyed and the next one. -/
inductive PowerSwitch : String → PowerState → PowerState → Prop where
  | on : PowerSwitch "power.on" .standby .warming
  | off : PowerSwitch "power.off" .on .cooling

/-- A power command is an operation. -/
theorem Command.isAdvanced_of_switch {c : Command} {required next : PowerState}
    (listed : c.definition ∈ registry.commands) (switch : PowerSwitch c.name required next) :
    c.isAdvanced = false := by
  rw [c.isAdvanced_eq]
  cases CommandDefinition.role_of_mem listed with
  | operation basic model status => exact basic
  | status field advanced named map length =>
      obtain ⟨-, on, off⟩ := field.queryName_ne
      have query : c.name = field.queryName := named
      rw [query] at switch
      generalize field.queryName = name at switch on off
      cases switch with
      | on => exact absurd rfl on
      | off => exact absurd rfl off
  | model advanced named length =>
      have query : c.name = "model_status.query" := named
      generalize c.name = name at switch query
      cases switch with
      | on => exact absurd query (by decide +kernel)
      | off => exact absurd query (by decide +kernel)

namespace Dispatcher

/-- The state is valid, and the model is one that is known. -/
structure Valid (d : Dispatcher) : Prop where
  state : d.state.Valid
  model : d.model ∈ Model.all

theorem ofConfig_eq_ok {c : EmulatorConfig} {d : Dispatcher} (read : ofConfig c = .ok d) :
    ∃ model state, Model.find c.model = .ok model ∧ ProjectorState.ofConfig c = .ok state ∧
      d = { model := model, state := state, warmupTime := c.warmupTime,
            cooldownTime := c.cooldown } := by
  unfold ofConfig EmulatorConfig.resolvedModel at read
  cases found : Model.find c.model with
  | error fault =>
      rw [found] at read
      cases read
  | ok model =>
      rw [found] at read
      cases set : ProjectorState.ofConfig c with
      | error fault =>
          rw [set] at read
          cases read
      | ok state =>
          rw [set] at read
          cases read
          exact ⟨model, state, rfl, rfl, rfl⟩

theorem valid_ofConfig {c : EmulatorConfig} {d : Dispatcher} (read : ofConfig c = .ok d) :
    d.Valid := by
  obtain ⟨model, state, found, set, rfl⟩ := ofConfig_eq_ok read
  exact ⟨ProjectorState.valid_ofConfig set, Model.mem_of_find found⟩

/-! ## Changing the power -/

theorem lasting_eq_none (d : Dispatcher) {power : PowerState}
    (rest : power.isTransitional = false) : d.lasting power = none := by
  cases power with
  | standby => rfl
  | on => rfl
  | emergency => rfl
  | warming => cases rest
  | cooling => cases rest

/-- A dispatcher after a change of power. -/
def powered (d : Dispatcher) (power : PowerState) : Dispatcher :=
  { d with
    state := d.state.put .power power.name
    generation := d.generation + 1
    timer := (d.lasting power).map fun _ => d.generation + 1 }

/-- The timers that a change of power stops and starts. -/
def powerEffects (d : Dispatcher) (power : PowerState) : List DispatchEffect :=
  d.timer.toList.map .stopTimer ++
    (d.lasting power).toList.map (.startTimer (d.generation + 1))

/-- The power can always be changed. -/
theorem setPower_eq (d : Dispatcher) (power : PowerState) :
    d.setPower power = (.ok (), d.powered power, d.powerEffects power) := by
  rw [setPower, ProjectorState.set_of_knows (StatusField.knows_power power)]
  cases power <;> simp [powered, powerEffects, cancelTimer, lasting]

theorem switchPower_eq {d : Dispatcher} {current : PowerState}
    (read : d.state.powerState = .ok current) (required next : PowerState) :
    d.switchPower required next =
      if current = required then (.ok .acknowledge, d.powered next, d.powerEffects next)
      else (.ok .silence, d, []) := by
  rw [switchPower, read]
  simp only [setPower_eq]

/-! ## Carrying out commands -/

section

variable {d : Dispatcher} {command : Command}

theorem execute_model (named : command.name = "model_status.query") :
    d.execute command = ((command.respond d.model.statusPayload).map .ready, d, []) := by
  rw [execute, if_pos named]

theorem execute_status {field : StatusField} (named : command.name = field.queryName) :
    d.execute command = (.ok (.named (d.state.get field)), d, []) := by
  obtain ⟨model, on, off⟩ := field.queryName_ne
  rw [execute, named, if_neg model, if_neg on, if_neg off, field.find?_queryName]

theorem execute_switch {required next : PowerState}
    (switch : PowerSwitch command.name required next) :
    d.execute command = d.switchPower required next := by
  generalize named : command.name = name at switch
  rw [execute, named]
  cases switch with
  | on => rw [if_neg (by decide +kernel), if_pos rfl]
  | off => rw [if_neg (by decide +kernel), if_neg (by decide +kernel), if_pos rfl]

theorem execute_operation (basic : command.isAdvanced = false)
    (model : command.name ≠ "model_status.query")
    (status : ∀ field : StatusField, field.queryName ≠ command.name)
    (other : ∀ required next, ¬ PowerSwitch command.name required next) :
    d.execute command = (.ok .acknowledge, d, []) := by
  have on : command.name ≠ "power.on" := fun named => other _ _ (named.symm ▸ PowerSwitch.on)
  have off : command.name ≠ "power.off" := fun named => other _ _ (named.symm ▸ PowerSwitch.off)
  have missing : (StatusField.all.find? fun field => field.queryName = command.name) = none := by
    refine List.find?_eq_none.mpr fun field _ named => ?_
    exact status field (decide_eq_true_iff.mp named)
  rw [execute, if_neg model, if_neg on, if_neg off, missing]
  simp only [basic, Bool.false_eq_true, if_false]

end

theorem dispatch_of_known {d : Dispatcher} {packet : Packet} {command : Command}
    (known : Command.ofPacket packet (some d.model) = .ok command) :
    d.dispatch packet =
      ((d.execute command).1.bind fun outcome => outcome.packets? command,
        (d.execute command).2) := by
  have recognition := Command.recognition packet (some d.model)
  rw [known] at recognition
  cases recognition with
  | known same listed =>
      have isCommand : packet.isCommand = true :=
        CommandDefinition.isCommand_of_matchesPacket (same ▸ command.fits)
      simp only [dispatch, isCommand, Bool.not_true, Bool.false_eq_true, if_false, known]
      generalize d.execute command = outcome
      obtain ⟨result, rest⟩ := outcome
      cases result with
      | error fault => rfl
      | ok outcome => rfl

/-- A power command is obeyed in one state of the lamp and ignored in all others. -/
theorem dispatch_switch {d : Dispatcher} {packet : Packet} {command : Command}
    {required next current : PowerState}
    (known : Command.ofPacket packet (some d.model) = .ok command)
    (switch : PowerSwitch command.name required next)
    (read : d.state.powerState = .ok current) :
    d.dispatch packet =
      if current = required then
        (.ok (some [packet.acknowledgement]), d.powered next, d.powerEffects next)
      else (.ok none, d, []) := by
  have recognition := Command.recognition packet (some d.model)
  rw [known] at recognition
  cases recognition with
  | known same listed =>
      subst same
      have responded := Command.respond_of_basic (Command.isAdvanced_of_switch listed switch)
      rw [dispatch_of_known known, execute_switch switch, switchPower_eq read]
      by_cases same : current = required
      · simp only [if_pos same, Except.bind, CommandOutcome.packets?, responded]
        rfl
      · simp only [if_neg same, Except.bind, CommandOutcome.packets?]

/-! ## The rules -/

/-- What comes of a packet: the response or the fault, the dispatcher afterwards, and the
timers. -/
inductive Dispatched (d : Dispatcher) (packet : Packet) :
    Except Error (Option (List Packet)) → Dispatcher → List DispatchEffect → Prop where
  | noCommand :
      packet.isCommand = false →
      Dispatched d packet
        (.error (.protocolViolation s!"expected a command packet, got {packet.text}")) d []
  | unknown :
      packet.isCommand = true →
      (∀ definition ∈ registry.commands, definition.matchesPacket packet = false) →
      Dispatched d packet
        (.error (.unrecognizedCommand s!"{packet.text} ({packet.bytes.hex})")) d []
  | switch {command : Command} {required next : PowerState} :
      Command.ofPacket packet (some d.model) = .ok command →
      PowerSwitch command.name required next → d.state.powerState = .ok required →
      Dispatched d packet (.ok (some [packet.acknowledgement])) (d.powered next)
        (d.powerEffects next)
  | ignore {command : Command} {required next current : PowerState} :
      Command.ofPacket packet (some d.model) = .ok command →
      PowerSwitch command.name required next → d.state.powerState = .ok current →
      current ≠ required → Dispatched d packet (.ok none) d []
  | acknowledge {command : Command} :
      Command.ofPacket packet (some d.model) = .ok command →
      command.isAdvanced = false →
      (∀ required next, ¬ PowerSwitch command.name required next) →
      Dispatched d packet (.ok (some [packet.acknowledgement])) d []
  | status {command : Command} {field : StatusField} {payload : Bytes}
      (fits : payload.length ≤ Packet.maxPayloadLength) (whole : terminator ∉ payload) :
      Command.ofPacket packet (some d.model) = .ok command →
      command.name = field.queryName →
      field.responses.payloadFor? (d.state.get field) = some payload →
      Dispatched d packet
        (.ok (some [packet.acknowledgement, packet.answering payload fits whole])) d []
  | model {command : Command}
      (fits : d.model.statusPayload.length ≤ Packet.maxPayloadLength)
      (whole : terminator ∉ d.model.statusPayload) :
      Command.ofPacket packet (some d.model) = .ok command →
      command.name = "model_status.query" →
      Dispatched d packet
        (.ok (some
          [packet.acknowledgement, packet.answering d.model.statusPayload fits whole])) d []

/-- A valid dispatcher follows one of the rules. -/
theorem dispatched {d : Dispatcher} (valid : d.Valid) (packet : Packet) :
    d.Dispatched packet (d.dispatch packet).1 (d.dispatch packet).2.1
      (d.dispatch packet).2.2 := by
  cases isCommand : packet.isCommand with
  | false =>
      simp only [dispatch, isCommand, Bool.not_false, if_true]
      exact .noCommand isCommand
  | true =>
  have recognition := Command.recognition packet (some d.model)
  generalize known : Command.ofPacket packet (some d.model) = result at recognition
  cases recognition with
  | unknown missing =>
      simp only [dispatch, isCommand, Bool.not_true, Bool.false_eq_true, if_false, known]
      exact .unknown isCommand missing
  | @known command same listed =>
  subst same
  -- Power commands are operations too, but their outcome depends on the lamp.
  by_cases power : ∃ required next, PowerSwitch command.name required next
  · obtain ⟨required, next, switch⟩ := power
    obtain ⟨current, -, read⟩ := valid.state.exists_power
    rw [dispatch_switch known switch read]
    by_cases same : current = required
    · rw [if_pos same]
      exact .switch known switch (same ▸ read)
    · rw [if_neg same]
      exact .ignore known switch read same
  have other : ∀ required next, ¬ PowerSwitch command.name required next :=
    fun required next switch => power ⟨required, next, switch⟩
  rw [dispatch_of_known known]
  cases CommandDefinition.role_of_mem listed with
  | operation basic model status =>
      have basic : command.isAdvanced = false := command.isAdvanced_eq.trans basic
      rw [execute_operation basic model status other]
      simp only [Except.bind, CommandOutcome.packets?, Command.respond_of_basic basic]
      exact .acknowledge known basic other
  | status field advanced named map length =>
      obtain ⟨payload, found⟩ := valid.state field
      obtain ⟨size, whole, -⟩ := field.payloads_sound _ (StatusField.mem_payloads found)
      obtain ⟨fits, responded⟩ := command.respond_of_length advanced length size (by decide) whole
      rw [execute_status named]
      simp only [Except.bind, CommandOutcome.packets?, map, Option.bind_some, found, responded]
      exact .status fits whole known named found
  | model advanced named length =>
      obtain ⟨size, whole⟩ := Model.statusPayload_sound valid.model
      obtain ⟨fits, responded⟩ := command.respond_of_length advanced length size (by decide) whole
      rw [execute_model named, responded]
      exact .model fits whole known named

end Dispatcher

end ProjectorControl
