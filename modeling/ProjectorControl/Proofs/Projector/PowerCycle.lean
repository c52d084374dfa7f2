import ProjectorControl.Proofs.Projector.Step

/-!
# The cycle of the lamp

The lamp moves by a power command in the one state where the command is obeyed, by the expiry of
the timer of the present change of power, or because it is forced (`Dispatcher.PowerChange`).  A
power command is acknowledged exactly when it moves the lamp, so between two that are
acknowledged some request has brought the lamp back (`Dispatcher.exists_powerChange`).

`Dispatcher.powerCycle_run` says so of a dispatcher after any requests of any sessions.
-/

namespace ProjectorControl

theorem PowerSwitch.ne {name : String} {required next : PowerState}
    (switch : PowerSwitch name required next) : required ≠ next := by
  cases switch with
  | on => decide
  | off => decide

namespace Dispatcher

/-! ## Changes of power -/

/-- The packet is taken for the command of a name. -/
def Recognizes (d : Dispatcher) (packet : Packet) (name : String) : Prop :=
  ∃ command, Command.ofPacket packet (some d.model) = .ok command ∧ command.name = name

/-- The request finds the lamp in one state and leaves it in another, perhaps the same. -/
def Moves (d : Dispatcher) (request : Request) (current next : PowerState) : Prop :=
  d.state.powerState = .ok current ∧ (d.handle request).1.state.powerState = .ok next

/-- How a request can change what the lamp does. -/
inductive PowerChange (d : Dispatcher) : Request → PowerState → PowerState → Prop where
  | switch {session : SessionId} {packet : Packet} {name : String} {required next : PowerState} :
      d.Recognizes packet name → PowerSwitch name required next →
      PowerChange d (.packet session packet) required next
  | complete {current next : PowerState} :
      PowerCompletion current next → PowerChange d (.powerTimer d.generation) current next
  | force {caller : Nat} {value : String} {current next : PowerState} :
      (d.force .power value).1 = .ok () → PowerState.ofName value = .ok next →
      PowerChange d (.setStatus caller .power value) current next

@[simp] theorem powerState_powered (d : Dispatcher) (power : PowerState) :
    (d.powered power).state.powerState = .ok power := by
  simp [powered, ProjectorState.powerState]

theorem get_powered_of_ne (d : Dispatcher) (power : PowerState) {field : StatusField}
    (other : field ≠ .power) : (d.powered power).state.get field = d.state.get field :=
  d.state.get_put_of_ne power.name other

theorem powerState_put_of_ne (s : ProjectorState) {field : StatusField} (value : String)
    (other : field ≠ .power) : (s.put field value).powerState = s.powerState := by
  rw [ProjectorState.powerState, s.get_put_of_ne value other.symm]
  rfl

theorem exists_moves {d : Dispatcher} (valid : d.Valid) (request : Request) :
    ∃ current next, d.Moves request current next := by
  obtain ⟨current, -, before⟩ := valid.state.exists_power
  obtain ⟨next, -, after⟩ := ((step_handle valid request).valid valid).state.exists_power
  exact ⟨current, next, before, after⟩

/-- The lamp moves in no other way. -/
theorem powerChange_of_moves {d : Dispatcher} (valid : d.Valid) {request : Request}
    {current next : PowerState} (moves : d.Moves request current next)
    (changed : current ≠ next) : d.PowerChange request current next := by
  obtain ⟨before, after⟩ := moves
  have unmoved : (d.handle request).1.state.powerState ≠ d.state.powerState := by
    rw [before, after]
    exact fun same => changed (Except.ok.inj same).symm
  have step := step_handle valid request
  generalize d.handle request = outcome at step after unmoved
  obtain ⟨next', effects⟩ := outcome
  simp only at step after unmoved
  cases step with
  | switch known switch read =>
      rw [powerState_powered] at after
      cases after
      cases before.symm.trans read
      exact .switch ⟨_, known, rfl⟩ switch
  | serve => exact absurd rfl unmoved
  | forcePower power =>
      rw [powerState_powered] at after
      cases after
      refine .force ?_ (PowerState.ofName_name next)
      simp only [force, PowerState.ofName_name, setPower_eq]
  | forceField other => exact absurd (powerState_put_of_ne d.state _ other) unmoved
  | refuseForce => exact absurd rfl unmoved
  | tell => exact absurd rfl unmoved
  | complete read completion =>
      rw [powerState_powered] at after
      cases after
      cases before.symm.trans read
      exact .complete completion
  | settled => exact absurd rfl unmoved
  | stale => exact absurd rfl unmoved
  | stop => exact absurd rfl unmoved

/-- Whatever comes to a power state during a run is moved there by one of the requests. -/
theorem exists_powerChange {d : Dispatcher} (valid : d.Valid) {requests : List Request}
    {goal : PowerState} (start : d.state.powerState ≠ .ok goal)
    (finish : (d.run requests).state.powerState = .ok goal) :
    ∃ front request back current, requests = front ++ request :: back ∧ current ≠ goal ∧
      (d.run front).Moves request current goal ∧
      (d.run front).PowerChange request current goal := by
  induction requests generalizing d with
  | nil => exact absurd finish start
  | cons request later ih =>
      -- The request that moves the lamp is the first one after which it is there.
      by_cases arrived : (d.handle request).1.state.powerState = .ok goal
      · obtain ⟨current, -, before⟩ := valid.state.exists_power
        have changed : current ≠ goal := by
          rintro rfl
          exact start before
        have moves : d.Moves request current goal := ⟨before, arrived⟩
        exact ⟨[], request, later, current, rfl, changed, moves,
          powerChange_of_moves valid moves changed⟩
      · have after : (d.handle request).1.Valid := (step_handle valid request).valid valid
        obtain ⟨front, request', back, current, rfl, changed, moves, change⟩ :=
          ih after arrived finish
        exact ⟨request :: front, request', back, current, rfl, changed, moves, change⟩

/-! ## Acknowledgements -/

/-- The packets among some effects, with their sessions. -/
def sent (effects : List DispatchEffect) : List (SessionId × List Packet) :=
  effects.filterMap fun
    | .send session packets => some (session, packets)
    | _ => none

/-- The packet is answered with its acknowledgement and nothing else. -/
def Acknowledges (d : Dispatcher) (session : SessionId) (packet : Packet) : Prop :=
  sent (d.handle (.packet session packet)).2 = [(session, [packet.acknowledgement])]

/-- Timers send nothing. -/
theorem sent_powerEffects_append (d : Dispatcher) (power : PowerState)
    (effects : List DispatchEffect) : sent (d.powerEffects power ++ effects) = sent effects := by
  cases timer : d.timer <;> cases delay : d.lasting power <;>
    simp [sent, powerEffects, timer, delay]

section

variable {d : Dispatcher} {packet : Packet} {name : String} {required next : PowerState}

theorem handle_switch_of_eq (known : d.Recognizes packet name)
    (switch : PowerSwitch name required next) (read : d.state.powerState = .ok required)
    (session : SessionId) :
    d.handle (.packet session packet) =
      (d.powered next, d.powerEffects next ++ [.send session [packet.acknowledgement]]) := by
  obtain ⟨command, known, rfl⟩ := known
  rw [handle_packet, dispatch_switch known switch read, if_pos rfl]
  rfl

theorem handle_switch_of_ne (known : d.Recognizes packet name)
    (switch : PowerSwitch name required next) (valid : d.Valid)
    (elsewhere : d.state.powerState ≠ .ok required) (session : SessionId) :
    d.handle (.packet session packet) = (d, []) := by
  obtain ⟨command, known, rfl⟩ := known
  obtain ⟨current, -, read⟩ := valid.state.exists_power
  have different : current ≠ required := by
    rintro rfl
    exact elsewhere read
  rw [handle_packet, dispatch_switch known switch read, if_neg different]
  rfl

/-- A power command is acknowledged if it moves the lamp, and only then. -/
theorem acknowledges_iff (valid : d.Valid) (known : d.Recognizes packet name)
    (switch : PowerSwitch name required next) (session : SessionId) :
    d.Acknowledges session packet ↔ d.Moves (.packet session packet) required next := by
  by_cases read : d.state.powerState = .ok required
  · have done := handle_switch_of_eq known switch read session
    constructor
    · intro _
      exact ⟨read, by rw [done, powerState_powered]⟩
    · intro _
      rw [Acknowledges, done, sent_powerEffects_append]
      rfl
  · have ignored := handle_switch_of_ne known switch valid read session
    constructor
    · intro acknowledged
      rw [Acknowledges, ignored] at acknowledged
      cases acknowledged
    · intro moves
      exact absurd moves.1 read

end

/-! ## The cycle -/

/-- What holds of the lamp and of the other fields, now and during the requests to come. -/
structure PowerCycle (d : Dispatcher) : Prop where
  /-- The lamp moves in one of the ways listed. -/
  change : ∀ request, ∃ current next, d.Moves request current next ∧
    (current = next ∨ d.PowerChange request current next)
  /-- A power command is acknowledged if it moves the lamp, and only then. -/
  acknowledged : ∀ {name required next}, PowerSwitch name required next →
    ∀ session packet, d.Recognizes packet name →
      (d.Acknowledges session packet ↔ d.Moves (.packet session packet) required next)
  /-- Any other power command is not answered and changes nothing. -/
  ignored : ∀ {name required next}, PowerSwitch name required next →
    ∀ session packet, d.Recognizes packet name →
      ¬ d.Moves (.packet session packet) required next →
      d.handle (.packet session packet) = (d, [])
  /-- Before the same power command is acknowledged again, to whatever session, some request
  moves the lamp back to where the command is obeyed. -/
  returned : ∀ {name required next}, PowerSwitch name required next →
    ∀ session packet between session' packet',
      d.Recognizes packet name → d.Acknowledges session packet →
      (d.run (.packet session packet :: between)).Recognizes packet' name →
      (d.run (.packet session packet :: between)).Acknowledges session' packet' →
      ∃ front request back current, between = front ++ request :: back ∧ current ≠ required ∧
        (d.run (.packet session packet :: front)).Moves request current required ∧
        (d.run (.packet session packet :: front)).PowerChange request current required
  /-- Any other field changes only if it is forced. -/
  field : ∀ request field, field ≠ .power →
    (d.handle request).1.state.get field = d.state.get field ∨
      ∃ caller value, request = .setStatus caller field value ∧
        (d.force field value).1 = .ok () ∧ (d.handle request).1.state.get field = value

/-- A field other than power is left alone unless it is forced. -/
theorem get_handle_of_ne {d : Dispatcher} (valid : d.Valid) (request : Request)
    {field : StatusField} (other : field ≠ .power) :
    (d.handle request).1.state.get field = d.state.get field ∨
      ∃ caller value, request = .setStatus caller field value ∧
        (d.force field value).1 = .ok () ∧ (d.handle request).1.state.get field = value := by
  have step := step_handle valid request
  generalize d.handle request = outcome at step ⊢
  obtain ⟨after, effects⟩ := outcome
  simp only at step ⊢
  cases step with
  | switch => exact .inl (d.get_powered_of_ne _ other)
  | serve => exact .inl rfl
  | forcePower power => exact .inl (d.get_powered_of_ne power other)
  | @forceField caller forced value different known =>
      by_cases same : field = forced
      · subst same
        refine .inr ⟨caller, value, rfl, ?_, d.state.get_put_same field value⟩
        rw [force_of_ne other, ProjectorState.set_of_knows known]
      · exact .inl (d.state.get_put_of_ne value same)
  | refuseForce => exact .inl rfl
  | tell => exact .inl rfl
  | complete => exact .inl (get_powered_of_ne { d with timer := none } _ other)
  | settled => exact .inl rfl
  | stale => exact .inl rfl
  | stop => exact .inl rfl

theorem Valid.powerCycle {d : Dispatcher} (valid : d.Valid) : d.PowerCycle where
  change request := by
    obtain ⟨current, next, moves⟩ := exists_moves valid request
    by_cases same : current = next
    · exact ⟨current, next, moves, .inl same⟩
    · exact ⟨current, next, moves, .inr (powerChange_of_moves valid moves same)⟩
  acknowledged switch session packet known := acknowledges_iff valid known switch session
  ignored switch session packet known unmoved := by
    refine handle_switch_of_ne known switch valid (fun read => unmoved ⟨read, ?_⟩) session
    rw [handle_switch_of_eq known switch read, powerState_powered]
  returned {name required next} switch session packet between session' packet'
      known first again second := by
    have after : (d.run [.packet session packet]).Valid := valid.run _
    have final : (d.run (.packet session packet :: between)).Valid := valid.run _
    obtain ⟨-, moved⟩ := (acknowledges_iff valid known switch session).mp first
    obtain ⟨back, -⟩ := (acknowledges_iff final again switch session').mp second
    have away : (d.run [.packet session packet]).state.powerState ≠ .ok required := by
      intro still
      exact switch.ne (Except.ok.inj (still.symm.trans moved))
    exact exists_powerChange after away back
  field request field other := get_handle_of_ne valid request other

/-- The lamp of a projector goes round its cycle, whoever asks for it and however often. -/
theorem powerCycle_run {c : EmulatorConfig} {d : Dispatcher} (accepted : ofConfig c = .ok d)
    (requests : List Request) : (d.run requests).PowerCycle :=
  (valid_run accepted requests).powerCycle

/-- One session switches a projector on and another off, and a third can switch it on again once
it has cooled down. -/
theorem powerCycle_run_onOff :
    let on : Packet := ⟨.basicCommand, .ofChars 'P' 'W', [0x31], by decide, by decide, by decide⟩
    let off : Packet := ⟨.basicCommand, .ofChars 'P' 'W', [0x30], by decide, by decide, by decide⟩
    let between : List Request := [.powerTimer 1, .packet 2 off, .packet 1 on, .powerTimer 3]
    ∃ d, ofConfig {} = .ok d ∧ (d.run []).PowerCycle ∧
      (d.run []).Acknowledges 1 on ∧ ¬ (d.run [.packet 1 on]).Acknowledges 3 on ∧
      (d.run (.packet 1 on :: between)).Acknowledges 3 on := by
  intro on off between
  have accepted : ∃ d, ofConfig {} = .ok d ∧
      sent ((d.run []).handle (.packet 1 on)).2 = [(1, [on.acknowledgement])] ∧
      sent ((d.run [.packet 1 on]).handle (.packet 3 on)).2 ≠ [(3, [on.acknowledgement])] ∧
      sent ((d.run (.packet 1 on :: between)).handle (.packet 3 on)).2 =
        [(3, [on.acknowledgement])] :=
    ⟨_, rfl, by decide +kernel⟩
  obtain ⟨d, read, first, ignored, again⟩ := accepted
  exact ⟨d, read, powerCycle_run read [], first, ignored, again⟩

end Dispatcher

end ProjectorControl
