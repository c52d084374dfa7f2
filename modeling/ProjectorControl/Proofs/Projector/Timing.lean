import ProjectorControl.Proofs.Projector.PowerCycle

/-!
# Generations of the power timer

`Dispatcher.Timing` sorts the rules of `Dispatcher.Step` by what they do to the timer of the lamp:
most requests leave the lamp and its timer alone, some set the power and thereby begin a new
generation, and the message of the present generation ends what it was started for.

A generation begins with every power state that is set, so while the generation stays the same
no power has been set and the lamp has not moved (`Dispatcher.resting_of_generation_eq`).  A timer
is started for the generation that begins, so its message comes in that same generation exactly if
it was started by the last request that set the power (`Dispatcher.startedLast_of_started`,
`Dispatcher.StartedLast.present`).
-/

namespace ProjectorControl

/-- Whether an effect starts or stops a timer. -/
def DispatchEffect.isTimer : DispatchEffect → Bool
  | .startTimer _ _ | .stopTimer _ => true
  | .send _ _ | .close _ | .answer _ _ => false

namespace Dispatcher

variable {d after : Dispatcher} {request : Request} {effects : List DispatchEffect}

/-- The request sets the power, be it to the state it already has. -/
def SetsPower (d : Dispatcher) (request : Request) (power : PowerState) : Prop :=
  ∃ current, d.state.powerState = .ok current ∧ d.PowerChange request current power

/-! ## Steps of the timer -/

/-- What handling a request does to the timer. -/
inductive Timing (d : Dispatcher) : Request → Dispatcher → List DispatchEffect → Prop where
  | quiet {request : Request} {after : Dispatcher} {effects : List DispatchEffect} :
      request ≠ .powerTimer d.generation → request ≠ .stop →
      after.generation = d.generation → after.timer = d.timer → after.lasting = d.lasting →
      after.state.powerState = d.state.powerState → (∀ effect ∈ effects, !effect.isTimer) →
      Timing d request after effects
  | set {request : Request} {power : PowerState} {told : List DispatchEffect} :
      request ≠ .powerTimer d.generation → request ≠ .stop →
      d.SetsPower request power → (∀ effect ∈ told, !effect.isTimer) →
      Timing d request (d.powered power) (d.powerEffects power ++ told)
  | complete {current next : PowerState} :
      d.state.powerState = .ok current → PowerCompletion current next →
      Timing d (.powerTimer d.generation) ({ d with timer := none }.powered next)
        ({ d with timer := none }.powerEffects next)
  | settled {current : PowerState} :
      d.state.powerState = .ok current → current.isTransitional = false →
      Timing d (.powerTimer d.generation) { d with timer := none } []
  | stop : Timing d .stop d.cancelTimer.1 d.cancelTimer.2

theorem not_isTimer_of_mem_reply {session : SessionId}
    {result : Except Error (Option (List Packet))} :
    ∀ effect ∈ reply session result, !effect.isTimer := by
  intro effect member
  cases result with
  | error fault =>
      simp only [reply, List.mem_singleton] at member
      subst member
      rfl
  | ok response =>
      cases response with
      | none =>
          simp only [reply, List.not_mem_nil] at member
      | some packets =>
          simp only [reply, List.mem_singleton] at member
          subst member
          rfl

theorem Step.timing (step : d.Step request after effects) (valid : d.Valid) :
    d.Timing request after effects := by
  cases step with
  | switch known switch read =>
      refine .set Request.noConfusion Request.noConfusion
        ⟨_, read, .switch ⟨_, known, rfl⟩ switch⟩ ?_
      simp [DispatchEffect.isTimer]
  | serve =>
      exact .quiet Request.noConfusion Request.noConfusion rfl rfl rfl rfl
        not_isTimer_of_mem_reply
  | forcePower power =>
      obtain ⟨current, -, read⟩ := valid.state.exists_power
      have done : (d.force .power power.name).1 = .ok () := by
        simp only [force, PowerState.ofName_name, setPower_eq]
      refine .set Request.noConfusion Request.noConfusion
        ⟨current, read, .force done (PowerState.ofName_name power)⟩ ?_
      simp [DispatchEffect.isTimer]
  | forceField other known =>
      refine .quiet Request.noConfusion Request.noConfusion rfl rfl rfl
        (powerState_put_of_ne d.state _ other) ?_
      simp [DispatchEffect.isTimer]
  | refuseForce =>
      refine .quiet Request.noConfusion Request.noConfusion rfl rfl rfl rfl ?_
      simp [DispatchEffect.isTimer]
  | tell =>
      refine .quiet Request.noConfusion Request.noConfusion rfl rfl rfl rfl ?_
      simp [DispatchEffect.isTimer]
  | complete read completion => exact .complete read completion
  | settled read settled => exact .settled read settled
  | stale older =>
      refine .quiet (fun same => older (Request.powerTimer.inj same)) Request.noConfusion
        rfl rfl rfl rfl ?_
      intro effect member
      exact absurd member List.not_mem_nil
  | stop => exact .stop

theorem timing_handle (valid : d.Valid) (request : Request) :
    d.Timing request (d.handle request).1 (d.handle request).2 :=
  (step_handle valid request).timing valid

theorem Timing.generation_le (timing : d.Timing request after effects) :
    d.generation ≤ after.generation := by
  cases timing with
  | quiet _ _ same => exact Nat.le_of_eq same.symm
  | set => exact Nat.le_succ _
  | complete => exact Nat.le_succ _
  | settled => exact Nat.le_refl _
  | stop => exact Nat.le_succ _

theorem Timing.lasting_eq (timing : d.Timing request after effects) :
    after.lasting = d.lasting := by
  cases timing with
  | quiet _ _ _ _ same => exact same
  | set => rfl
  | complete => rfl
  | settled => rfl
  | stop => rfl

/-- While the generation stays, the lamp stays as it is. -/
theorem Timing.powerState_eq (timing : d.Timing request after effects)
    (same : after.generation = d.generation) :
    after.state.powerState = d.state.powerState := by
  cases timing with
  | quiet _ _ _ _ _ power => exact power
  | set => exact absurd same (Nat.succ_ne_self _)
  | complete => exact absurd same (Nat.succ_ne_self _)
  | settled => rfl
  | stop => exact absurd same (Nat.succ_ne_self _)

/-- Only setting the power and stopping begin a generation. -/
theorem Timing.generation_eq (timing : d.Timing request after effects)
    (unset : ∀ power, ¬ d.SetsPower request power) (ordinary : request ≠ .stop) :
    after.generation = d.generation := by
  cases timing with
  | quiet _ _ same => exact same
  | set _ _ sets => exact absurd sets (unset _)
  | complete read completion => exact absurd ⟨_, read, .complete completion⟩ (unset _)
  | settled => rfl
  | stop => exact absurd rfl ordinary

/-- A timer is started for a power state that is set, in the generation which begins with it. -/
theorem Timing.of_startTimer (timing : d.Timing request after effects) {generation : Nat}
    {delay : Duration} (started : .startTimer generation delay ∈ effects) :
    generation = d.generation + 1 ∧ after.generation = generation ∧
      ∃ power, d.SetsPower request power ∧ d.lasting power = some delay ∧
        after.state.powerState = .ok power := by
  cases timing with
  | quiet _ _ _ _ _ _ untimed =>
      exact absurd (untimed _ started) (by simp [DispatchEffect.isTimer])
  | @set _ power told _ _ sets untimed =>
      rcases List.mem_append.mp started with timed | told
      · simp only [powerEffects, List.mem_append, List.mem_map, Option.mem_toList, reduceCtorEq,
          and_false, exists_false, false_or, DispatchEffect.startTimer.injEq] at timed
        obtain ⟨delay, lasting, rfl, rfl⟩ := timed
        exact ⟨rfl, rfl, power, sets, lasting, powerState_powered d power⟩
      · exact absurd (untimed _ told) (by simp [DispatchEffect.isTimer])
  | complete read completion =>
      cases completion with
      | warm => simp [powerEffects, lasting] at started
      | cool => simp [powerEffects, lasting] at started
  | settled => exact absurd started List.not_mem_nil
  | stop => simp [cancelTimer] at started

/-- A power state that is set begins a generation. -/
theorem handle_of_setsPower {power : PowerState} (sets : d.SetsPower request power) :
    (d.handle request).1.generation = d.generation + 1 ∧
      (d.handle request).1.state.powerState = .ok power := by
  obtain ⟨current, read, change⟩ := sets
  cases change with
  | switch known switch =>
      rw [handle_switch_of_eq known switch read]
      exact ⟨rfl, powerState_powered d power⟩
  | complete completion =>
      have done : (d.handle (.powerTimer d.generation)).1 =
          { d with timer := none }.powered power := by
        cases completion <;> simp [handle, timerExpired, read, setPower_eq]
      rw [done]
      exact ⟨rfl, powerState_powered _ power⟩
  | force _ named =>
      simp only [handle, force, named, setPower_eq]
      exact ⟨rfl, powerState_powered d power⟩

/-! ## Runs -/

theorem generation_le_run (valid : d.Valid) (requests : List Request) :
    d.generation ≤ (d.run requests).generation := by
  induction requests generalizing d with
  | nil => exact Nat.le_refl _
  | cons request later ih =>
      have timing := timing_handle valid request
      exact Nat.le_trans timing.generation_le (ih ((step_handle valid request).valid valid))

theorem generation_handle_le (valid : d.Valid) (earlier : List Request) (request : Request)
    (later : List Request) :
    ((d.run earlier).handle request).1.generation ≤
      (d.run (earlier ++ request :: later)).generation := by
  have grown := generation_le_run (valid.run (earlier ++ [request])) later
  rwa [← run_append, ← List.append_cons, run_concat] at grown

theorem lasting_run (valid : d.Valid) (requests : List Request) :
    (d.run requests).lasting = d.lasting := by
  induction requests generalizing d with
  | nil => rfl
  | cons request later ih =>
      have timing := timing_handle valid request
      exact (ih ((step_handle valid request).valid valid)).trans timing.lasting_eq

/-- None of the requests sets the power. -/
def Resting (d : Dispatcher) (requests : List Request) : Prop :=
  ∀ front request back, requests = front ++ request :: back →
    ∀ power, ¬ (d.run front).SetsPower request power

/-- While the generation stays, no power is set and the lamp stays as it is. -/
theorem resting_of_generation_eq (valid : d.Valid) {requests : List Request}
    (same : (d.run requests).generation = d.generation) :
    d.Resting requests ∧ (d.run requests).state.powerState = d.state.powerState := by
  induction requests generalizing d with
  | nil => exact ⟨fun front _ _ split => by simp at split, rfl⟩
  | cons request later ih =>
      have timing := timing_handle valid request
      have after : (d.handle request).1.Valid := (step_handle valid request).valid valid
      -- Generations only grow, so the first request cannot have begun one.
      have stays : (d.handle request).1.generation = d.generation :=
        Nat.le_antisymm (same ▸ generation_le_run after later) timing.generation_le
      obtain ⟨resting, power⟩ := ih after (same.trans stays.symm)
      refine ⟨?_, power.trans (timing.powerState_eq stays)⟩
      intro front request' back split power' sets
      cases front with
      | nil =>
          obtain ⟨rfl, rfl⟩ := List.cons.inj split
          have begun := (handle_of_setsPower sets).1
          exact absurd (stays.symm.trans begun) (Nat.succ_ne_self _).symm
      | cons first front =>
          obtain ⟨rfl, rfl⟩ := List.cons.inj split
          exact resting front request' back rfl power' sets

theorem Resting.tail {later : List Request} (resting : d.Resting (request :: later)) :
    (d.handle request).1.Resting later := by
  rintro front request' back rfl
  exact resting (request :: front) request' back rfl

theorem generation_of_resting (valid : d.Valid) {requests : List Request}
    (resting : d.Resting requests) (going : .stop ∉ requests) :
    (d.run requests).generation = d.generation := by
  induction requests generalizing d with
  | nil => rfl
  | cons request later ih =>
      rw [List.mem_cons, not_or] at going
      obtain ⟨ordinary, going⟩ := going
      have stays := (timing_handle valid request).generation_eq
        (resting [] request later rfl) (Ne.symm ordinary)
      exact (ih ((step_handle valid request).valid valid) resting.tail going).trans stays

/-- The request sets the power to a state and starts a timer for it. -/
def Starts (d : Dispatcher) (request : Request) (generation : Nat) (power : PowerState) : Prop :=
  d.SetsPower request power ∧
    ∃ delay, d.lasting power = some delay ∧ .startTimer generation delay ∈ (d.handle request).2

/-- One of the requests starts the timer. -/
def Started (d : Dispatcher) (requests : List Request) (generation : Nat) : Prop :=
  ∃ front request back power, requests = front ++ request :: back ∧
    (d.run front).Starts request generation power

/-- The last request that sets the power sets it to this state and starts the timer. -/
def StartedLast (d : Dispatcher) (requests : List Request) (generation : Nat)
    (power : PowerState) : Prop :=
  ∃ front request back, requests = front ++ request :: back ∧
    (d.run front).Starts request generation power ∧ (d.run (front ++ [request])).Resting back

theorem starts_of_startTimer (valid : d.Valid) {generation : Nat} {delay : Duration}
    (started : .startTimer generation delay ∈ (d.handle request).2) :
    ∃ power, d.Starts request generation power := by
  obtain ⟨-, -, power, sets, lasting, -⟩ := (timing_handle valid request).of_startTimer started
  exact ⟨power, sets, delay, lasting, started⟩

theorem Starts.generation_eq (valid : d.Valid) {generation : Nat} {power : PowerState}
    (starts : d.Starts request generation power) :
    generation = d.generation + 1 ∧ (d.handle request).1.generation = generation := by
  obtain ⟨-, delay, -, started⟩ := starts
  obtain ⟨next, begun, -⟩ := (timing_handle valid request).of_startTimer started
  exact ⟨next, begun⟩

section

variable {generation : Nat} {power : PowerState} {requests : List Request}

theorem Starts.run_concat (valid : d.Valid) {front : List Request}
    (starts : (d.run front).Starts request generation power) :
    (d.run (front ++ [request])).generation = generation ∧
      (d.run (front ++ [request])).state.powerState = .ok power := by
  rw [Dispatcher.run_concat]
  exact ⟨(starts.generation_eq (valid.run front)).2, (handle_of_setsPower starts.1).2⟩

/-- If the generation of a timer has not ended, the timer was started by the last request that
set the power, and the lamp is as it was set then. -/
theorem startedLast_of_started (valid : d.Valid) (started : d.Started requests generation)
    (same : (d.run requests).generation = generation) :
    ∃ power, d.StartedLast requests generation power ∧
      (d.run requests).state.powerState = .ok power := by
  obtain ⟨front, request, back, power, rfl, starts⟩ := started
  obtain ⟨begun, set⟩ := starts.run_concat valid
  rw [List.append_cons, run_append] at same
  obtain ⟨resting, power_eq⟩ := resting_of_generation_eq (valid.run _) (same.trans begun.symm)
  refine ⟨power, ⟨front, request, back, rfl, starts, resting⟩, ?_⟩
  rw [List.append_cons, run_append, power_eq, set]

/-- The generation of the timer that was started last has not ended, unless it was stopped. -/
theorem StartedLast.present (valid : d.Valid) (last : d.StartedLast requests generation power)
    (going : .stop ∉ requests) :
    (d.run requests).generation = generation ∧
      (d.run requests).state.powerState = .ok power := by
  obtain ⟨front, request, back, rfl, starts, resting⟩ := last
  obtain ⟨begun, set⟩ := starts.run_concat valid
  have going : .stop ∉ back := fun member =>
    going (List.mem_append_right _ (List.mem_cons_of_mem _ member))
  have same := generation_of_resting (valid.run _) resting going
  obtain ⟨-, power_eq⟩ := resting_of_generation_eq (valid.run _) same
  rw [List.append_cons, run_append, power_eq, same]
  exact ⟨begun, set⟩

end

end Dispatcher

end ProjectorControl
