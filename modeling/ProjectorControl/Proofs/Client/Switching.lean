import ProjectorControl.Proofs.Client.Log

/-!
# Switching in the right order

A projector that is told to switch on while its lamp cools down acknowledges the command and
forgets it.  So the order of what a client sends matters, whatever the projector answers.

Switching off is switching on with the states mirrored, and `PowerGoal.switch` is both.  What it
can send and be told is `PowerGoal.Sequence`: a series of queries (`Watch`), and, if the last of
them reported the state in which the command is heeded, the command and a second series.
-/

namespace ProjectorControl

/-! ## Goals -/

/-- What a client wants of the lamp. -/
inductive PowerGoal where
  /-- That it is on. -/
  | on
  /-- That it is off. -/
  | off
  deriving DecidableEq, Repr

namespace PowerGoal

/-- The command that is sent. -/
def commandName : PowerGoal → String
  | on => "power.on"
  | off => "power.off"

/-- The state in which a projector heeds the command. -/
def start : PowerGoal → PowerState
  | on => .standby
  | off => .on

/-- The state of a lamp that is on its way to the opposite. -/
def leaving : PowerGoal → PowerState
  | on => .cooling
  | off => .warming

/-- The state of a lamp that is on its way. -/
def nearing : PowerGoal → PowerState
  | on => .warming
  | off => .cooling

/-- The state that is wanted. -/
def reached : PowerGoal → PowerState
  | on => .on
  | off => .standby

/-- How a fault calls the attempt. -/
def attempt : PowerGoal → String
  | on => "power on"
  | off => "power off"

/-- What a caller is told when the last state is known. -/
def verdict (goal : PowerGoal) (state : PowerState) : Except Error PowerState :=
  if state = .emergency then .error .emergencyState
  else if state = goal.reached ∨ state = goal.nearing then .ok state
  else .error (.unexpectedState s!"projector is {state.name} after {goal.attempt}")

/-! ## Switching in stages -/

variable {τ : Type} [Transport τ]

/-- Waits while the command would be forgotten, or for the goal if it is near. -/
def settle (goal : PowerGoal) (final : Bool) (limit : Option Duration) (first : PowerState) :
    Call τ PowerState :=
  if first = goal.leaving ∨ (first = goal.nearing ∧ final) then Call.waitForStablePower limit
  else Call.result first

/-- Sends the command if it is heeded, and looks what has become of the lamp. -/
def act (goal : PowerGoal) (final : Bool) (limit : Option Duration) (settled : PowerState) :
    Call τ PowerState :=
  if settled = goal.start then
    (Call.transactByName goal.commandName []).andThen fun _ =>
      if final then Call.waitForStablePower limit else Call.powerStatus
  else Call.result settled

/-- Switches the lamp. -/
def switch (goal : PowerGoal) (final : Bool) (limit : Option Duration) : Call τ PowerState :=
  Call.powerStatus.andThen fun first =>
    (goal.settle final limit first).andThen fun settled =>
      (goal.act final limit settled).andThen fun last => Call.ofExcept (goal.verdict last)

end PowerGoal

namespace Call

variable {τ α β γ : Type}

theorem andThen_assoc (call : Call τ α) (next : α → Call τ β) (later : β → Call τ γ) :
    (call.andThen next).andThen later = call.andThen fun a => (next a).andThen later := by
  funext c
  unfold andThen
  cases call c with
  | mk r c' => cases r <;> rfl

/-- Two calls with the same sequel. -/
theorem ite_andThen {p : Prop} [Decidable p] {yes no : Call τ α} {next next' : α → Call τ β}
    (same : ∀ a, next a = next' a) :
    (if p then yes.andThen next else no.andThen next) = (if p then yes else no).andThen next' := by
  rw [funext same]
  split <;> rfl

theorem andThen_of_ok {call : Call τ α} {next : α → Call τ β} {c c' : Client τ} {a : α}
    (ran : call c = (.ok a, c')) : call.andThen next c = next a c' := by
  unfold andThen
  rw [ran]

theorem andThen_of_error {call : Call τ α} {next : α → Call τ β} {c c' : Client τ}
    {failure : CallFailure} (ran : call c = (.error failure, c')) :
    call.andThen next c = (.error failure, c') := by
  unfold andThen
  rw [ran]

theorem ofExcept_eq (r : Except Error α) (c : Client τ) :
    ofExcept r c = (r.mapError .fault, c) := by
  cases r <;> rfl

end Call

namespace PowerGoal

/-- Switching, as it is written for each goal. -/
def call {τ : Type} [Transport τ] : PowerGoal → Bool → Option Duration → Call τ PowerState
  | on => Call.powerOn
  | off => Call.powerOff

theorem call_eq {τ : Type} [Transport τ] (goal : PowerGoal) (final : Bool)
    (limit : Option Duration) :
    (goal.call final limit : Call τ PowerState) = goal.switch final limit := by
  cases goal
  all_goals
    refine congrArg Call.powerStatus.andThen
      (funext fun first => Call.ite_andThen fun settled => ?_)
    refine .trans (ite_congr rfl (fun _ => ?_) fun _ => ?_) (Call.ite_andThen fun _ => rfl)
    · rw [Call.andThen_assoc]
      refine congrArg (Call.andThen _) (funext fun _ => Call.ite_andThen fun last => ?_)
      cases last <;> rfl
    · refine congrArg (Call.andThen _) (funext fun last => ?_)
      cases last <;> rfl

end PowerGoal

/-! ## What exchanges tell -/

namespace LoggedExchange

/-- A query for the power state. -/
def Asks (e : LoggedExchange) : Prop := e.Carries StatusField.power.queryName

/-- What a query for the power state told. -/
def powerState (e : LoggedExchange) : Except Error PowerState :=
  e.response StatusField.power.queryName >>= Call.powerOfResponse

/-- The projector was asked for its power state and reported it. -/
structure Reports (e : LoggedExchange) (state : PowerState) : Prop where
  asks : e.Asks
  told : e.powerState = .ok state

/-- An exchange of the command that switches. -/
def Commands (e : LoggedExchange) (goal : PowerGoal) : Prop := e.Carries goal.commandName

/-- The exchange went wrong, or its answer is unknown. -/
def Fails (e : LoggedExchange) (goal : PowerGoal) (fault : Error) : Prop :=
  (e.Asks ∧ e.powerState = .error fault) ∨
    (e.Commands goal ∧ e.response goal.commandName = .error fault)

end LoggedExchange

/-- A series of queries for the power state, and what the caller is told in the end.  Every query
but the last was answered with a state. -/
inductive Watch (limit : Duration) :
    List LoggedExchange → Except CallFailure PowerState → Prop where
  /-- The state is told. -/
  | told {e state} : e.Reports state → Watch limit [e] (.ok state)
  /-- The query failed. -/
  | failed {e fault} : e.Asks → e.powerState = .error fault →
      Watch limit [e] (.error (.fault fault))
  /-- The lamp has not settled in time. -/
  | late {e state} : e.Reports state → state.isTransitional →
      Watch limit [e] (.error (.fault (Call.unsettled limit)))
  /-- The end of a wait lies beyond the range of the clock. -/
  | endless {e state} : e.Reports state → Call.clockRange ≤ e.finished + limit.nanos →
      Watch limit [e] (.error .clockOverflow)
  /-- There is another query. -/
  | next {e state more r} : e.Reports state → Watch limit more r → Watch limit (e :: more) r

namespace Call

variable {τ : Type} [Transport τ]

theorem queryName_known : ∃ command, Command.ofName StatusField.power.queryName [] = .ok command :=
  ⟨_, rfl⟩

theorem commandName_known (goal : PowerGoal) :
    ∃ command, Command.ofName goal.commandName [] = .ok command := by
  cases goal <;> exact ⟨_, rfl⟩

/-- Asking for the power state is one query. -/
theorem powerStatus_logged (c : Client (Logged τ)) :
    ∃ e c', e.Asks ∧ e.moment = c.now ∧ c.Logs [e] c' ∧ c'.now = e.finished ∧
      powerStatus c = (e.powerState.mapError .fault, c') := by
  obtain ⟨e, c', asks, moment, logs, now, carried⟩ := transactByName_logged queryName_known c
  refine ⟨e, c', asks, moment, logs, now, ?_⟩
  change (transactByName _ []).andThen _ c = _
  unfold andThen LoggedExchange.powerState
  rw [carried]
  cases e.response StatusField.power.queryName with
  | error fault => rfl
  | ok response => exact ofExcept_eq _ _

theorem powerStatus_failed {c c' : Client (Logged τ)} {failure : CallFailure}
    (looked : powerStatus c = (.error failure, c')) :
    ∃ e fault, failure = .fault fault ∧ c.Logs [e] c' ∧ e.Asks ∧ e.powerState = .error fault := by
  obtain ⟨e, c'', asks, -, logs, -, told⟩ := powerStatus_logged c
  rw [looked] at told
  cases answer : e.powerState with
  | ok state => rw [answer] at told; cases told
  | error fault =>
      rw [answer] at told
      cases told
      exact ⟨e, fault, rfl, logs, asks, answer⟩

theorem powerStatus_told {c c' : Client (Logged τ)} {state : PowerState}
    (looked : powerStatus c = (.ok state, c')) :
    ∃ e, e.moment = c.now ∧ c.Logs [e] c' ∧ c'.now = e.finished ∧ e.Reports state := by
  obtain ⟨e, c'', asks, moment, logs, now, told⟩ := powerStatus_logged c
  rw [looked] at told
  cases answer : e.powerState with
  | error fault => rw [answer] at told; cases told
  | ok state =>
      rw [answer] at told
      cases told
      exact ⟨e, moment, logs, now, asks, answer⟩

/-- A result that is not a lamp on its way. -/
def Settled (r : Except CallFailure PowerState) : Prop :=
  ∀ state, r = .ok state → state.isTransitional = false

theorem Settled.error (failure : CallFailure) : Settled (.error failure) :=
  fun _ told => nomatch told

theorem waitUntil_watch (limit : Duration) (deadline : Moment) (c : Client (Logged τ)) :
    ∃ exchanges, c.Logs exchanges (waitUntil limit deadline c).2 ∧
      Watch limit exchanges (waitUntil limit deadline c).1 ∧
      Settled (waitUntil limit deadline c).1 := by
  fun_induction waitUntil limit deadline c with
  | case1 c failure c' looked =>
      obtain ⟨e, fault, rfl, logs, asks, failed⟩ := powerStatus_failed looked
      exact ⟨[e], logs, .failed asks failed, .error _⟩
  | case2 c state c' looked settled =>
      obtain ⟨e, -, logs, -, reports⟩ := powerStatus_told looked
      exact ⟨[e], logs, .told reports, fun _ told => by cases told; simpa using settled⟩
  | case3 c state c' looked moving late =>
      obtain ⟨e, -, logs, -, reports⟩ := powerStatus_told looked
      exact ⟨[e], logs, .late reports (by simpa using moving), .error _⟩
  | case4 c state c' looked moving early ih =>
      obtain ⟨e, -, logs, -, reports⟩ := powerStatus_told looked
      obtain ⟨more, later, watch, settled⟩ := ih
      have slept : c'.Logs more _ := ⟨later.log, later.stablePowerTimeout⟩
      exact ⟨e :: more, logs.trans slept, .next reports watch, settled⟩

/-- Waiting for the lamp is a series of queries, unless the end of the wait lies beyond the range
of the clock. -/
theorem waitForStablePower_watch {limit : Option Duration} {timeout : Duration}
    {c : Client (Logged τ)} (given : limit.getD c.stablePowerTimeout = timeout) :
    Settled (waitForStablePower limit c).1 ∧
      ((waitForStablePower limit c = (.error .clockOverflow, c) ∧
          clockRange ≤ c.now + timeout.nanos) ∨
        ∃ exchanges, c.Logs exchanges (waitForStablePower limit c).2 ∧
          Watch timeout exchanges (waitForStablePower limit c).1) := by
  subst given
  unfold waitForStablePower
  dsimp only
  split
  next beyond => exact ⟨.error _, .inl ⟨rfl, beyond⟩⟩
  next =>
    obtain ⟨exchanges, logs, watch, settled⟩ :=
      waitUntil_watch (limit.getD c.stablePowerTimeout)
        (c.now + (limit.getD c.stablePowerTimeout).nanos) c
    exact ⟨settled, .inr ⟨exchanges, logs, watch⟩⟩

/-- A single look is a series of one query. -/
theorem powerStatus_watch (limit : Duration) (c : Client (Logged τ)) :
    ∃ exchanges, c.Logs exchanges (powerStatus c).2 ∧ Watch limit exchanges (powerStatus c).1 := by
  cases looked : powerStatus c with
  | mk r c' =>
      cases r with
      | error failure =>
          obtain ⟨e, fault, rfl, logs, asks, failed⟩ := powerStatus_failed looked
          exact ⟨[e], logs, .failed asks failed⟩
      | ok state =>
          obtain ⟨e, -, logs, -, reports⟩ := powerStatus_told looked
          exact ⟨[e], logs, .told reports⟩

end Call

/-! ## What a client sends -/

namespace PowerGoal

/-- What the caller is told when the last series of queries has ended. -/
def finish (goal : PowerGoal) (r : Except CallFailure PowerState) :
    Except CallFailure PowerState :=
  r.bind fun last => (goal.verdict last).mapError .fault

/-- All that can be sent and answered when the lamp is switched. -/
inductive Sequence (goal : PowerGoal) (final : Bool) (limit : Duration) :
    List LoggedExchange → Except CallFailure PowerState → Prop where
  /-- The command is not sent. -/
  | spared {queries r} : Watch limit queries r → r ≠ .ok goal.start →
      (final → r ≠ .ok goal.nearing) → Sequence goal final limit queries (goal.finish r)
  /-- The command fails. -/
  | refused {queries e fault} : Watch limit queries (.ok goal.start) → e.Commands goal →
      e.response goal.commandName = .error fault →
      Sequence goal final limit (queries ++ [e]) (.error (.fault fault))
  /-- The end of the wait for the goal lies beyond the range of the clock. -/
  | endless {queries e response} : Watch limit queries (.ok goal.start) → e.Commands goal →
      e.response goal.commandName = .ok response → Call.clockRange ≤ e.finished + limit.nanos →
      Sequence goal final limit (queries ++ [e]) (.error .clockOverflow)
  /-- The command is sent, and the lamp is watched. -/
  | commanded {queries e response after r} : Watch limit queries (.ok goal.start) →
      e.Commands goal → e.response goal.commandName = .ok response → Watch limit after r →
      (final → r ≠ .ok goal.nearing) →
      Sequence goal final limit (queries ++ e :: after) (goal.finish r)

theorem nearing_ne_of_settled (goal : PowerGoal) {r : Except CallFailure PowerState}
    (settled : Call.Settled r) : r ≠ .ok goal.nearing := by
  intro told
  have := settled _ told
  cases goal <;> cases this

variable {τ : Type}

theorem andThen_verdict (goal : PowerGoal) (call : Call τ PowerState) (c : Client τ) :
    call.andThen (fun last => Call.ofExcept (goal.verdict last)) c =
      (goal.finish (call c).1, (call c).2) := by
  cases ran : call c with
  | mk r c' =>
      cases r with
      | error failure => exact Call.andThen_of_error ran
      | ok last => rw [Call.andThen_of_ok ran, Call.ofExcept_eq]; rfl

variable [Transport τ] {limit : Option Duration} {timeout : Duration} {c : Client (Logged τ)}

theorem settle_watch (goal : PowerGoal) (final : Bool) {e : LoggedExchange} {first : PowerState}
    (given : limit.getD c.stablePowerTimeout = timeout) (reports : e.Reports first)
    (now : c.now = e.finished) :
    ∃ more, c.Logs more (goal.settle final limit first c).2 ∧
      Watch timeout (e :: more) (goal.settle final limit first c).1 ∧
      (final → (goal.settle final limit first c).1 ≠ .ok goal.nearing) := by
  unfold settle
  split
  next =>
    obtain ⟨settled, ⟨ran, beyond⟩ | ⟨more, logs, watch⟩⟩ := Call.waitForStablePower_watch given
    · rw [ran]
      exact ⟨[], .refl c, .endless reports (now ▸ beyond), fun _ => nofun⟩
    · exact ⟨more, logs, .next reports watch, fun _ => goal.nearing_ne_of_settled settled⟩
  next enough =>
    refine ⟨[], .refl c, .told reports, fun waits told => enough (.inr ⟨?_, waits⟩)⟩
    cases told
    rfl

theorem look_watch (goal : PowerGoal) (final : Bool)
    (given : limit.getD c.stablePowerTimeout = timeout) :
    let look : Call (Logged τ) PowerState :=
      if final then Call.waitForStablePower limit else Call.powerStatus
    (look c = (.error .clockOverflow, c) ∧ Call.clockRange ≤ c.now + timeout.nanos) ∨
      ∃ after, c.Logs after (look c).2 ∧ Watch timeout after (look c).1 ∧
        (final → (look c).1 ≠ .ok goal.nearing) := by
  cases final with
  | false =>
      obtain ⟨after, logs, watch⟩ := Call.powerStatus_watch timeout c
      exact .inr ⟨after, logs, watch, nofun⟩
  | true =>
      obtain ⟨settled, beyond | ⟨after, logs, watch⟩⟩ := Call.waitForStablePower_watch given
      · exact .inl beyond
      · exact .inr ⟨after, logs, watch, fun _ => goal.nearing_ne_of_settled settled⟩

/-- What is sent once the lamp is ready for the command, or has no need of it. -/
theorem act_sequence (goal : PowerGoal) (final : Bool) {queries : List LoggedExchange}
    {settled : PowerState} (given : limit.getD c.stablePowerTimeout = timeout)
    (watch : Watch timeout queries (.ok settled))
    (enough : final → (.ok settled : Except CallFailure PowerState) ≠ .ok goal.nearing) :
    ∃ more, c.Logs more (goal.act final limit settled c).2 ∧
      goal.Sequence final timeout (queries ++ more)
        (goal.finish (goal.act final limit settled c).1) := by
  unfold act
  split
  next ready =>
    cases ready
    obtain ⟨e, c', commands, -, logs, now, answered⟩ :=
      Call.transactByName_logged (Call.commandName_known goal) c
    cases response : e.response goal.commandName with
    | error fault =>
        rw [Call.andThen_of_error (by rw [answered, response]; rfl)]
        exact ⟨[e], logs, .refused watch commands response⟩
    | ok heeded =>
        rw [Call.andThen_of_ok (by rw [answered, response]; rfl)]
        have given' := (congrArg _ logs.stablePowerTimeout).trans given
        obtain ⟨ran, beyond⟩ | ⟨after, later, watched, enough⟩ := goal.look_watch final given'
        · rw [ran]
          exact ⟨[e], logs, .endless watch commands response (now ▸ beyond)⟩
        · exact ⟨e :: after, logs.trans later, .commanded watch commands response watched enough⟩
  next other =>
    refine ⟨[], .refl c, ?_⟩
    rw [List.append_nil]
    exact .spared watch (fun told => other (by cases told; rfl)) enough

/-- Whatever the projector answers, what is sent is one of the sequences. -/
theorem switch_sequence (goal : PowerGoal) (final : Bool) (limit : Option Duration)
    (c : Client (Logged τ)) :
    ∃ exchanges, c.Logs exchanges (goal.switch final limit c).2 ∧
      goal.Sequence final (limit.getD c.stablePowerTimeout) exchanges
        (goal.switch final limit c).1 := by
  unfold switch
  cases looked : Call.powerStatus c with
  | mk r c' =>
  cases r with
  | error failure =>
      obtain ⟨e, fault, rfl, logs, asks, failed⟩ := Call.powerStatus_failed looked
      rw [Call.andThen_of_error looked]
      exact ⟨[e], logs, .spared (.failed asks failed) nofun fun _ => nofun⟩
  | ok first =>
      obtain ⟨e, -, logs, now, reports⟩ := Call.powerStatus_told looked
      have given := congrArg limit.getD logs.stablePowerTimeout
      obtain ⟨more, later, watch, enough⟩ := goal.settle_watch final given reports now
      rw [Call.andThen_of_ok looked]
      cases settling : goal.settle final limit first c' with
      | mk r c'' =>
      rw [settling] at later watch enough
      cases r with
      | error failure =>
          rw [Call.andThen_of_error settling]
          exact ⟨e :: more, logs.trans later, .spared watch nofun fun _ => nofun⟩
      | ok settled =>
          have given' := (congrArg limit.getD later.stablePowerTimeout).trans given
          obtain ⟨rest, last, sequence⟩ := goal.act_sequence final given' watch enough
          rw [Call.andThen_of_ok settling, andThen_verdict]
          exact ⟨e :: more ++ rest, (logs.trans later).trans last, sequence⟩

end PowerGoal

end ProjectorControl
