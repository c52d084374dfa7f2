import ProjectorControl.Proofs.Projector.Dispatch

/-!
# What a dispatcher does

`Dispatcher.Step` says what handling a request does to the dispatcher and what comes out of it,
one rule for each way in which that makes a difference.  A dispatcher in a valid state follows
one of the rules (`Dispatcher.step_handle`), and each of them leaves it in a valid state
(`Dispatcher.Step.valid`).  So a run from the settings stays valid, whatever is asked
(`Dispatcher.valid_run`).

The rules with `Dispatcher.powered` in them are those that change the power.
-/

namespace ProjectorControl

/-- How the states that end by themselves end. -/
inductive PowerCompletion : PowerState → PowerState → Prop where
  | warm : PowerCompletion .warming .on
  | cool : PowerCompletion .cooling .standby

namespace Dispatcher

/-! ## Forcing a field -/

/-- What comes of forcing a field. -/
inductive Forced (d : Dispatcher) :
    StatusField → String → Except Error Unit → Dispatcher → List DispatchEffect → Prop where
  | power (power : PowerState) :
      Forced d .power power.name (.ok ()) (d.powered power) (d.powerEffects power)
  | noPower {value : String} :
      (∀ power : PowerState, value ≠ power.name) →
      Forced d .power value (.error (.unexpectedState value)) d []
  | field {field : StatusField} {value : String} :
      field ≠ .power → field.Knows value →
      Forced d field value (.ok ()) { d with state := d.state.put field value } []
  | unknown {field : StatusField} {value : String} :
      field ≠ .power → ¬ field.Knows value →
      Forced d field value (.error (.unknownStatus field.name value)) d []

theorem force_of_ne {d : Dispatcher} {field : StatusField} (other : field ≠ .power)
    (value : String) :
    d.force field value =
      match d.state.set field value with
      | .error fault => (.error fault, d, [])
      | .ok state => (.ok (), { d with state := state }, []) := by
  cases field with
  | power => exact absurd rfl other
  | input => rfl
  | gammaTable => rfl
  | gammaValue => rfl
  | source => rfl

theorem forced (d : Dispatcher) (field : StatusField) (value : String) :
    d.Forced field value (d.force field value).1 (d.force field value).2.1
      (d.force field value).2.2 := by
  by_cases other : field = .power
  · subst other
    by_cases named : ∃ power : PowerState, value = power.name
    · obtain ⟨power, rfl⟩ := named
      simp only [force, PowerState.ofName_name, setPower_eq]
      exact .power power
    · have noPower : ∀ power : PowerState, value ≠ power.name := not_exists.mp named
      simp only [force, PowerState.ofName_of_ne noPower]
      exact .noPower noPower
  · rw [force_of_ne other]
    by_cases known : field.Knows value
    · rw [ProjectorState.set_of_knows known]
      exact .field other known
    · rw [ProjectorState.set_of_not_knows known]
      exact .unknown other known

/-! ## The rules -/

/-- What a session is told about its packet. -/
def reply (session : SessionId) : Except Error (Option (List Packet)) → List DispatchEffect
  | .ok (some packets) => [.send session packets]
  | .ok none => []
  | .error _ => [.close session]

/-- What handling a request does. -/
inductive Step (d : Dispatcher) : Request → Dispatcher → List DispatchEffect → Prop where
  | switch {session : SessionId} {packet : Packet} {command : Command}
      {required next : PowerState} :
      Command.ofPacket packet (some d.model) = .ok command →
      PowerSwitch command.name required next → d.state.powerState = .ok required →
      Step d (.packet session packet) (d.powered next)
        (d.powerEffects next ++ [.send session [packet.acknowledgement]])
  | serve {session : SessionId} {packet : Packet}
      {result : Except Error (Option (List Packet))} :
      d.Dispatched packet result d [] →
      Step d (.packet session packet) d (reply session result)
  | forcePower {caller : Nat} (power : PowerState) :
      Step d (.setStatus caller .power power.name) (d.powered power)
        (d.powerEffects power ++ [.answer caller (.ok none)])
  | forceField {caller : Nat} {field : StatusField} {value : String} :
      field ≠ .power → field.Knows value →
      Step d (.setStatus caller field value) { d with state := d.state.put field value }
        [.answer caller (.ok none)]
  | refuseForce {caller : Nat} {field : StatusField} {value : String} {fault : Error} :
      Step d (.setStatus caller field value) d [.answer caller (.error fault)]
  | tell {caller : Nat} {field : StatusField} :
      Step d (.getStatus caller field) d [.answer caller (.ok (some (d.state.get field)))]
  | complete {current next : PowerState} :
      d.state.powerState = .ok current → PowerCompletion current next →
      Step d (.powerTimer d.generation) ({ d with timer := none }.powered next)
        ({ d with timer := none }.powerEffects next)
  | settled {current : PowerState} :
      d.state.powerState = .ok current → current.isTransitional = false →
      Step d (.powerTimer d.generation) { d with timer := none } []
  | stale {generation : Nat} :
      generation ≠ d.generation → Step d (.powerTimer generation) d []
  | stop : Step d .stop d.cancelTimer.1 d.cancelTimer.2

theorem handle_packet (d : Dispatcher) (session : SessionId) (packet : Packet) :
    d.handle (.packet session packet) =
      ((d.dispatch packet).2.1,
        (d.dispatch packet).2.2 ++ reply session (d.dispatch packet).1) := by
  rw [handle]
  split
  next found =>
    rw [found]
    rfl
  next found =>
    rw [found]
    simp only [reply, List.append_nil]
  next found =>
    rw [found]
    rfl

theorem step_packet {d : Dispatcher} (valid : d.Valid) (session : SessionId) (packet : Packet) :
    d.Step (.packet session packet) (d.handle (.packet session packet)).1
      (d.handle (.packet session packet)).2 := by
  rw [handle_packet]
  have rule := dispatched valid packet
  generalize d.dispatch packet = outcome at rule
  obtain ⟨result, after, effects⟩ := outcome
  simp only at rule ⊢
  cases rule with
  | noCommand response => exact .serve (.noCommand response)
  | unknown isCommand missing => exact .serve (.unknown isCommand missing)
  | switch known switch read => exact .switch known switch read
  | ignore known switch read different => exact .serve (.ignore known switch read different)
  | acknowledge known basic other => exact .serve (.acknowledge known basic other)
  | status fits whole known named found => exact .serve (.status fits whole known named found)
  | model fits whole known named => exact .serve (.model fits whole known named)

theorem step_setStatus (d : Dispatcher) (caller : Nat) (field : StatusField) (value : String) :
    d.Step (.setStatus caller field value) (d.handle (.setStatus caller field value)).1
      (d.handle (.setStatus caller field value)).2 := by
  have rule := d.forced field value
  rw [handle]
  generalize d.force field value = outcome at rule
  obtain ⟨result, after, effects⟩ := outcome
  simp only at rule ⊢
  cases rule with
  | power power => exact .forcePower power
  | noPower none => exact .refuseForce
  | field other known => exact .forceField other known
  | unknown other unknown => exact .refuseForce

theorem step_powerTimer {d : Dispatcher} (valid : d.Valid) (generation : Nat) :
    d.Step (.powerTimer generation) (d.handle (.powerTimer generation)).1
      (d.handle (.powerTimer generation)).2 := by
  rw [handle, timerExpired]
  by_cases stale : generation = d.generation
  · subst stale
    obtain ⟨current, -, read⟩ := valid.state.exists_power
    rw [if_neg (not_not_intro rfl)]
    simp only [read]
    cases current with
    | standby => exact .settled read rfl
    | on => exact .settled read rfl
    | emergency => exact .settled read rfl
    | warming =>
        simp only [setPower_eq]
        exact .complete read .warm
    | cooling =>
        simp only [setPower_eq]
        exact .complete read .cool
  · rw [if_pos stale]
    exact .stale stale

/-- A valid dispatcher follows one of the rules. -/
theorem step_handle {d : Dispatcher} (valid : d.Valid) (request : Request) :
    d.Step request (d.handle request).1 (d.handle request).2 := by
  cases request with
  | packet session packet => exact step_packet valid session packet
  | powerTimer generation => exact step_powerTimer valid generation
  | setStatus caller field value => exact d.step_setStatus caller field value
  | getStatus caller field => exact .tell
  | stop => exact .stop

/-! ## Validity -/

theorem Valid.powered {d : Dispatcher} (valid : d.Valid) (power : PowerState) :
    (d.powered power).Valid :=
  ⟨valid.state.put (StatusField.knows_power power), valid.model⟩

theorem Step.valid {d after : Dispatcher} {request : Request} {effects : List DispatchEffect}
    (step : d.Step request after effects) (valid : d.Valid) : after.Valid := by
  cases step with
  | switch => exact valid.powered _
  | serve => exact valid
  | forcePower power => exact valid.powered power
  | forceField other known => exact ⟨valid.state.put known, valid.model⟩
  | refuseForce => exact valid
  | tell => exact valid
  | complete => exact Valid.powered ⟨valid.state, valid.model⟩ _
  | settled => exact ⟨valid.state, valid.model⟩
  | stale => exact valid
  | stop => exact ⟨valid.state, valid.model⟩

/-! ## Runs -/

/-- The dispatcher after some requests. -/
def run (d : Dispatcher) (requests : List Request) : Dispatcher :=
  requests.foldl (fun d request => (d.handle request).1) d

theorem run_append (d : Dispatcher) (earlier later : List Request) :
    d.run (earlier ++ later) = (d.run earlier).run later :=
  List.foldl_append

theorem run_concat (d : Dispatcher) (earlier : List Request) (request : Request) :
    d.run (earlier ++ [request]) = ((d.run earlier).handle request).1 :=
  d.run_append earlier [request]

theorem Valid.run {d : Dispatcher} (valid : d.Valid) (requests : List Request) :
    (d.run requests).Valid := by
  induction requests generalizing d with
  | nil => exact valid
  | cons request later ih => exact ih ((step_handle valid request).valid valid)

theorem valid_run {c : EmulatorConfig} {d : Dispatcher} (read : ofConfig c = .ok d)
    (requests : List Request) : (d.run requests).Valid :=
  (valid_ofConfig read).run requests

end Dispatcher

end ProjectorControl
