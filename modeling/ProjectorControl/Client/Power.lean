import ProjectorControl.Client.Status

/-!
# Switching a projector on and off

A projector heeds `power.on` only in standby and `power.off` only when it is on.  What is
sent while the lamp warms up or cools down is acknowledged and forgotten.  So a client
waits for the lamp first, and if it is asked to, also afterwards:

    on:   cooling ──wait──> standby ──power.on──> warming ──wait──> on
    off:  warming ──wait──> on ──power.off──> cooling ──wait──> standby
-/

namespace ProjectorControl.Call

variable {τ : Type}

/-- How often a client looks at the lamp while it waits. -/
def powerPollInterval : Duration := .ofMillis 500

/-- The first moment that a clock cannot hold: 2^63 seconds after its start. -/
def clockRange : Moment := UInt64.size / 2 * nanosPerSecond

/-! ## Time only goes on -/

/-- A call that never turns the clock back. -/
def Forward {α : Type} (call : Call τ α) : Prop := ∀ c, c.now ≤ (call c).2.now

theorem Forward.result {α : Type} (a : α) : Forward (Call.result a : Call τ α) :=
  fun _ => Nat.le_refl _

theorem Forward.fail {α : Type} (fault : Error) : Forward (Call.fail fault : Call τ α) :=
  fun _ => Nat.le_refl _

theorem Forward.ofExcept {α : Type} (r : Except Error α) :
    Forward (Call.ofExcept r : Call τ α) := by
  cases r with
  | ok a => exact Forward.result a
  | error fault => exact Forward.fail fault

theorem Forward.andThen {α β : Type} {call : Call τ α} {next : α → Call τ β}
    (first : Forward call) (later : ∀ a, Forward (next a)) : Forward (call.andThen next) := by
  intro c
  have start := first c
  unfold Call.andThen
  split
  · next a c' ran =>
    rw [ran] at start
    exact Nat.le_trans start (later a c')
  · next failure c' ran =>
    rw [ran] at start
    exact start

theorem Forward.learn (model : Option Model) : Forward (Call.learn model : Call τ _) :=
  fun _ => Nat.le_refl _

variable [Transport τ]

theorem Forward.exchange (packet : Packet) : Forward (Call.exchange packet : Call τ _) :=
  fun _ => Nat.le_add_right _ _

theorem Forward.transact (command : Command) : Forward (Call.transact command : Call τ _) := by
  refine Forward.andThen (Forward.exchange _) fun packets => ?_
  refine Forward.andThen (Forward.ofExcept _) fun response => ?_
  dsimp only
  split
  · exact Forward.andThen (Forward.learn _) fun _ => Forward.result _
  · exact Forward.result _

theorem Forward.transactByName (name : String) (payload : Bytes) :
    Forward (Call.transactByName name payload : Call τ _) :=
  Forward.andThen (Forward.ofExcept _) fun command => Forward.transact command

theorem Forward.powerStatus : Forward (Call.powerStatus : Call τ _) :=
  Forward.andThen (Forward.transactByName _ _) fun _ => Forward.ofExcept _

/-! ## Waiting for the lamp -/

/-- The fault of a lamp that did not settle in time. -/
def unsettled (limit : Duration) : Error := .timeout "wait for stable power" limit

/-- A wait leaves less time until the deadline than there was before the look. -/
theorem remaining_lt {start now deadline interval : Nat} (forward : start ≤ now)
    (early : now < deadline) (positive : 0 < interval) :
    deadline - (now + waitLength (min interval (deadline - now))) < deadline - start := by
  have := waitLength_pos (Nat.lt_min.2 ⟨positive, Nat.sub_pos_of_lt early⟩)
  omega

/-- Looks at the lamp until it has settled or a deadline has passed.  The last look may be
at the deadline, but not later. -/
def waitUntil (limit : Duration) (deadline : Moment) (c : Client τ) :
    Except CallFailure PowerState × Client τ :=
  match _ : Call.powerStatus c with
  | (.error failure, c') => (.error failure, c')
  | (.ok state, c') =>
    if !state.isTransitional then (.ok state, c')
    else if deadline ≤ c'.now then (.error (.fault (unsettled limit)), c')
    else
      waitUntil limit deadline
        (Call.sleep (min powerPollInterval.nanos (deadline - c'.now)) c').2
termination_by deadline - c.now
decreasing_by
  rename_i looked _ early
  have forward := Forward.powerStatus (τ := τ) c
  rw [looked] at forward
  exact remaining_lt forward (Nat.lt_of_not_le early) (by decide)

/-- Looks at the lamp until it neither warms up nor cools down.  The limit is the client's
own if none is given. -/
def waitForStablePower (limit : Option Duration) : Call τ PowerState := fun c =>
  let limit := limit.getD c.stablePowerTimeout
  let deadline := c.now + limit.nanos
  if clockRange ≤ deadline then (.error .clockOverflow, c)
  else waitUntil limit deadline c

/-! ## Switching -/

/-- Switches the lamp on.  With `final` the call waits until it is warm; otherwise it gives
the state right after the command. -/
def powerOn (final : Bool) (limit : Option Duration) : Call τ PowerState := do
  let first ← powerStatus
  let settled ←
    if first = .cooling ∨ (first = .warming ∧ final) then waitForStablePower limit
    else result first
  let last ←
    if settled = .standby then do
      let _ ← transactByName "power.on" []
      if final then waitForStablePower limit else powerStatus
    else result settled
  match last with
  | .emergency => fail .emergencyState
  | .on | .warming => result last
  | .standby | .cooling => fail (.unexpectedState s!"projector is {last.name} after power on")

/-- Switches the lamp off.  With `final` the call waits until it is cool; otherwise it gives
the state right after the command. -/
def powerOff (final : Bool) (limit : Option Duration) : Call τ PowerState := do
  let first ← powerStatus
  let settled ←
    if first = .warming ∨ (first = .cooling ∧ final) then waitForStablePower limit
    else result first
  let last ←
    if settled = .on then do
      let _ ← transactByName "power.off" []
      if final then waitForStablePower limit else powerStatus
    else result settled
  match last with
  | .emergency => fail .emergencyState
  | .standby | .cooling => result last
  | .on | .warming => fail (.unexpectedState s!"projector is {last.name} after power off")

end ProjectorControl.Call
