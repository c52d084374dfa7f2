import ProjectorControl.Proofs.Client.Overflow
import ProjectorControl.Proofs.Transport.Emulated

/-!
# Arriving at the goal

A client that switches a lamp looks at it twice a second until it has settled, and the projector
has a timer of its own that ends what the lamp does.  If a client has a projector to itself and is
given more time than the lamp takes, the two fit together: the timer expires before the deadline,
so the last look finds that the lamp has settled (`Call.waitUntil_ready`).  Then the command, if
one is needed, is sent in the state where it is heeded, and its timer expires in time as well
(`PowerGoal.act_ready`).

`Call.switch_arrives` says so of every projector whose power has been set, however far its timer
has come when the client begins.  How much more time a client is given does not matter, up to what
its clock can hold: a wait whose end lies beyond that breaks the call off
(`Call.exists_not_arrives`).
-/

namespace ProjectorControl

variable {goal : PowerGoal} {lamp : Lamp} {limit : Duration}
  {c : Client (Logged EmulatedTransport)}

/-- A client whose transport can be used now. -/
def Client.Ready (c : Client (Logged EmulatedTransport)) (lamp : Lamp) (limit : Duration) : Prop :=
  c.transport.transport.Ready lamp limit c.now

/-- A client whose transport can be used now, and whose projector has nothing left to handle. -/
def Client.Rested (c : Client (Logged EmulatedTransport)) (lamp : Lamp) (limit : Duration) : Prop :=
  c.transport.transport.Rested lamp limit c.now

/-- A client has looked at the lamp until it had settled, which was no later than a deadline. -/
structure Client.Awaited (c : Client (Logged EmulatedTransport)) (lamp : Lamp) (limit : Duration)
    (deadline : Moment) (log : List LoggedExchange) (c' : Client (Logged EmulatedTransport)) :
    Prop where
  logs : c.Logs log c'
  asks : ∀ e ∈ log, e.Asks
  rested : c'.Rested lamp.settled limit
  now : c'.now ≤ deadline

theorem Client.Awaited.of_before {c' : Client (Logged EmulatedTransport)}
    {deadline moment : Moment} {log : List LoggedExchange}
    (awaited : c.Awaited (lamp.before moment) limit deadline log c') :
    c.Awaited lamp limit deadline log c' :=
  { awaited with rested := lamp.settled_before moment ▸ awaited.rested }

/-- A client whose projector has a lamp that has settled in a state. -/
def Client.Sees (c : Client (Logged EmulatedTransport)) (power : PowerState) (limit : Duration) :
    Prop :=
  ∃ lamp : Lamp, c.Rested lamp.settled limit ∧ lamp.power.settled = power

/-- The lamp is in that state, and as long as nothing is asked of the projector, it stays so. -/
theorem Client.Sees.powerState {power : PowerState} (sees : c.Sees power limit) :
    c.transport.transport.emulation.dispatcher.state.powerState = .ok power ∧
      ∀ moment, c.now ≤ moment →
        (c.transport.transport.emulation.advance moment).dispatcher.state.powerState =
          .ok power := by
  obtain ⟨lamp, rested, rfl⟩ := sees
  refine ⟨rested.powerState, fun moment later => ?_⟩
  have waited := rested.toReady.advance later
  rw [Lamp.before_settled] at waited
  exact waited.powerState

namespace Call

/-- A command is carried out if its answer comes at once and is understood. -/
theorem transactByName_of_exchange {name : String} {command : Command} {answer : ResponsePackets}
    {response : Response} {t : EmulatedTransport}
    (named : Command.ofName name [] = .ok command)
    (sent : Transport.exchange command.packet c.now none c.transport.transport =
      ⟨.ok answer, 0, t⟩)
    (understood : answer.toResponse command = .ok response) :
    ∃ c', transactByName name [] c = (.ok response, c') ∧
      c.Logs [⟨command.packet, c.now, 0, .ok answer⟩] c' ∧ c'.transport.transport = t ∧
      c'.now = c.now := by
  obtain ⟨model, carried⟩ := transact_eq command c
  have logged : Transport.exchange command.packet c.now none c.transport =
      ⟨.ok answer, 0, ⟨t, c.transport.log ++ [⟨command.packet, c.now, 0, .ok answer⟩]⟩⟩ := by
    change (let done := Transport.exchange command.packet c.now none c.transport.transport
      Exchanged.mk done.answer done.latency (Logged.mk done.transport _)) = _
    rw [sent]
  rw [logged] at carried
  simp only [Except.bind, understood, Except.mapError] at carried
  let c' : Client (Logged EmulatedTransport) :=
    { c with
      transport := ⟨t, c.transport.log ++ [⟨command.packet, c.now, 0, .ok answer⟩]⟩
      model := model }
  refine ⟨c', ?_, ⟨rfl, rfl⟩, rfl, rfl⟩
  unfold transactByName
  rw [named]
  exact carried

/-- A look at the lamp tells what it does. -/
theorem powerStatus_ready (ready : c.Ready lamp limit) :
    ∃ e c', powerStatus c = (.ok (lamp.before c.now).power, c') ∧ e.Asks ∧ c.Logs [e] c' ∧
      c'.now = c.now ∧ c'.Rested (lamp.before (c.now + 1)) limit := by
  obtain ⟨command, named⟩ := queryName_known
  obtain ⟨listed, same⟩ := Command.listed_of_name named
  obtain ⟨answer, t, sent, rested, state, model, held, response, understood, reports⟩ :=
    ready.query listed (Command.status_of_name listed same).1
  obtain ⟨power, held', told⟩ := reports.power same
  obtain rfl := Except.ok.inj (held.symm.trans held')
  obtain ⟨c', ran, logs, rfl, now⟩ := transactByName_of_exchange named sent understood
  refine ⟨_, c', ?_, ⟨command, named, rfl⟩, logs, now, now.symm ▸ rested⟩
  refine (andThen_of_ok ran).trans ((ofExcept_eq _ c').trans ?_)
  rw [told]
  rfl

theorem sleep_ready (ready : c.Ready lamp limit) (nanos : Nat) :
    Client.Rested (sleep nanos c).2 (lamp.before (c.now + waitLength nanos)) limit :=
  EmulatedTransport.Ready.advance ready (Nat.le_add_right _ _)

/-- A lamp whose timer expires before the deadline is seen to settle in time. -/
theorem waitUntil_ready {deadline : Moment} (timeout : Duration) (ready : c.Ready lamp limit)
    (soon : ∀ due ∈ lamp.due?, due < deadline) (early : c.now ≤ deadline) :
    ∃ log c', waitUntil timeout deadline c = (.ok lamp.power.settled, c') ∧
      c.Awaited lamp limit deadline log c' := by
  fun_induction waitUntil timeout deadline c generalizing lamp with
  | case1 c failure c' looked =>
      obtain ⟨e, c'', told, -⟩ := powerStatus_ready ready
      cases looked.symm.trans told
  | case2 c state c' looked settled =>
      obtain ⟨e, c'', told, asks, logs, now, rested⟩ := powerStatus_ready ready
      cases looked.symm.trans told
      have rest : (lamp.before c.now).power.isTransitional = false := by simpa using settled
      rw [Lamp.before_of_rest (Nat.le_succ c.now) rest] at rested
      rw [Lamp.before_of_rest (Nat.le_refl c.now) rest]
      exact ⟨[e], c', rfl, logs, by simpa using asks, rested, now.symm ▸ early⟩
  | case3 c state c' looked moving late =>
      obtain ⟨e, c'', told, -, -, now, -⟩ := powerStatus_ready ready
      cases looked.symm.trans told
      -- The timer is still to come, so it would expire after the deadline.
      have moving : (lamp.before c.now).power.isTransitional = true := by simpa using moving
      obtain ⟨due, set, pending⟩ := Lamp.exists_due_of_moving moving
      rw [now] at late
      exact absurd (Nat.lt_of_lt_of_le (soon due set) late) (Nat.not_lt_of_le pending)
  | case4 c state c' looked moving ahead ih =>
      obtain ⟨e, c'', told, asks, logs, now, rested⟩ := powerStatus_ready ready
      cases looked.symm.trans told
      have slept := sleep_ready rested.toReady (min powerPollInterval.nanos (deadline - c'.now))
      have capped : waitLength (min powerPollInterval.nanos (deadline - c'.now)) ≤
          deadline - c'.now := Nat.le_trans (Nat.min_le_left _ _) (Nat.min_le_right _ _)
      obtain ⟨more, last, told', awaited⟩ := ih slept.toReady
        (fun due set => soon due (Lamp.mem_due?_of_before (Lamp.mem_due?_of_before set)))
        (Nat.add_le_of_le_sub' (Nat.le_of_not_le ahead) capped)
      have later : c'.Logs more last := ⟨awaited.logs.log, awaited.logs.stablePowerTimeout⟩
      rw [Lamp.power_settled_before, Lamp.power_settled_before] at told'
      exact ⟨e :: more, last, told', logs.trans later,
        List.forall_mem_cons.2 ⟨asks, awaited.asks⟩, awaited.of_before.of_before.rested,
        awaited.now⟩

/-- A wait for a lamp that settles within the limit does not run out, but its end may lie beyond
the range of the clock. -/
theorem waitForStablePower_ready {given : Option Duration}
    (chosen : given.getD c.stablePowerTimeout = limit) (ready : c.Ready lamp limit)
    (soon : ∀ due ∈ lamp.due?, due < c.now + limit.nanos) :
    (waitForStablePower given c = (.error .clockOverflow, c) ∧
        clockRange ≤ c.now + limit.nanos) ∨
      ∃ log c', waitForStablePower given c = (.ok lamp.power.settled, c') ∧
        c.Awaited lamp limit (c.now + limit.nanos) log c' := by
  unfold waitForStablePower
  rw [chosen]
  dsimp only
  split
  next beyond => exact .inl ⟨rfl, beyond⟩
  next => exact .inr (waitUntil_ready limit ready soon (Nat.le_add_right _ _))

end Call

/-! ## Switching -/

namespace LoggedExchange

/-- An exchange of the command that switches, which the projector has acknowledged. -/
structure Heeded (e : LoggedExchange) (goal : PowerGoal) : Prop where
  commands : e.Commands goal
  answer : e.answer = .ok ⟨e.packet.acknowledgement, none⟩

end LoggedExchange

namespace PowerGoal

variable {given : Option Duration}

theorem isTransitional_of_not_waits {first : PowerState}
    (enough : ¬ (first = goal.leaving ∨ (first = goal.nearing ∧ true))) :
    first.isTransitional = false := by
  cases goal <;> cases first <;> first | rfl | simp [leaving, nearing] at enough

/-- The lamp settles before the command is sent. -/
theorem settle_ready (chosen : given.getD c.stablePowerTimeout = limit)
    (rested : c.Rested (lamp.before (c.now + 1)) limit)
    (soon : ∀ due ∈ lamp.due?, due < c.now + limit.nanos) :
    (goal.settle true given (lamp.before c.now).power c = (.error .clockOverflow, c) ∧
        Call.clockRange ≤ c.now + limit.nanos) ∨
      ∃ log c', goal.settle true given (lamp.before c.now).power c =
          (.ok lamp.power.settled, c') ∧
        c.Awaited lamp limit (c.now + limit.nanos) log c' := by
  unfold settle
  split
  next =>
    obtain beyond | ⟨log, c', told, awaited⟩ := Call.waitForStablePower_ready chosen rested.toReady
      fun due set => soon due (Lamp.mem_due?_of_before set)
    · exact .inl beyond
    · rw [Lamp.power_settled_before] at told
      exact .inr ⟨log, c', told, awaited.of_before⟩
  next enough =>
    have rest := isTransitional_of_not_waits enough
    rw [Lamp.before_of_rest (Nat.le_succ c.now) rest] at rested
    rw [Lamp.before_of_rest (Nat.le_refl c.now) rest]
    exact .inr ⟨[], c, rfl, .refl c, List.forall_mem_nil _, rested, Nat.le_add_right _ _⟩

/-- What becomes of a lamp that has settled, once the command is sent if it is heeded. -/
def outcome (goal : PowerGoal) (settled : PowerState) : PowerState :=
  if settled = goal.start then goal.reached else settled

theorem outcome_settled (goal : PowerGoal) (power : PowerState) :
    goal.outcome power.settled = if power = .emergency then .emergency else goal.reached := by
  cases goal <;> cases power <;> rfl

theorem verdict_outcome (goal : PowerGoal) (power : PowerState) :
    goal.verdict (goal.outcome power.settled) =
      if power = .emergency then .error .emergencyState else .ok goal.reached := by
  cases goal <;> cases power <;> rfl

/-- The command is sent to a lamp that has settled, and brings it to the goal. -/
theorem act_ready (chosen : given.getD c.stablePowerTimeout = limit)
    (rested : c.Rested lamp.settled limit) :
    ∃ log, c.Logs log (goal.act true given lamp.power.settled c).2 ∧
      (∀ e ∈ log, e.Asks ∨ (lamp.power.settled = goal.start ∧ e.Heeded goal)) ∧
      (((goal.act true given lamp.power.settled c).1 = .ok (goal.outcome lamp.power.settled) ∧
          (goal.act true given lamp.power.settled c).2.Sees (goal.outcome lamp.power.settled)
            limit) ∨
        ((goal.act true given lamp.power.settled c).1 = .error .clockOverflow ∧
          Call.clockRange ≤ c.now + limit.nanos)) := by
  unfold act outcome
  split
  next heeds =>
    obtain ⟨command, named⟩ := Call.commandName_known goal
    obtain ⟨listed, same⟩ := Command.listed_of_name named
    have operation : command.isAdvanced = false :=
      Command.isAdvanced_of_switch listed (same ▸ goal.powerSwitch)
    have start : (lamp.settled.before c.now).power = goal.start := by
      rw [Lamp.before_settled]
      exact heeds
    obtain ⟨t, lamp', sent, rested', near, soon⟩ := rested.toReady.switch named start
    obtain ⟨c', ran, logs, rfl, now⟩ :=
      Call.transactByName_of_exchange named sent (Command.ofPackets_of_basic operation)
    have heeded : LoggedExchange.Heeded
        ⟨command.packet, c.now, 0, .ok ⟨command.packet.acknowledgement, none⟩⟩ goal :=
      ⟨⟨command, named, rfl⟩, rfl⟩
    rw [Call.andThen_of_ok ran, ← now, if_pos rfl]
    rw [← now] at rested' soon
    obtain ⟨ran', beyond⟩ | ⟨after, c'', ran', awaited⟩ := Call.waitForStablePower_ready
      ((congrArg _ logs.stablePowerTimeout).trans chosen) rested'.toReady soon
    · rw [ran']
      exact ⟨_, logs, by simpa using .inr ⟨heeds, heeded⟩, .inr ⟨rfl, beyond⟩⟩
    · rw [ran', near]
      refine ⟨_, logs.trans awaited.logs, List.forall_mem_cons.2 ⟨.inr ⟨heeds, heeded⟩, ?_⟩,
        .inl ⟨rfl, lamp', awaited.rested, near⟩⟩
      exact fun e member => .inl (awaited.asks e member)
  next done =>
    exact ⟨[], .refl c, List.forall_mem_nil _, .inl ⟨rfl, lamp, rested, rfl⟩⟩

/-- The lamp settles, is sent to the goal if it is not near, and settles again.  Two waits
follow each other, so the second one ends within twice the limit. -/
theorem switch_ready (chosen : given.getD c.stablePowerTimeout = limit)
    (ready : c.Ready lamp limit) (soon : ∀ due ∈ lamp.due?, due < c.now + limit.nanos) :
    ∃ log, c.Logs log (goal.switch true given c).2 ∧
      (∀ e ∈ log, e.Asks ∨ (lamp.power.settled = goal.start ∧ e.Heeded goal)) ∧
      (((goal.switch true given c).1 =
            (if lamp.power = .emergency then .error (.fault .emergencyState)
              else .ok goal.reached) ∧
          (goal.switch true given c).2.Sees
            (if lamp.power = .emergency then .emergency else goal.reached) limit) ∨
        ((goal.switch true given c).1 = .error .clockOverflow ∧
          Call.clockRange ≤ c.now + 2 * limit.nanos)) := by
  obtain ⟨e, c', looked, asks, logs, now, rested⟩ := Call.powerStatus_ready ready
  have chosen' := (congrArg given.getD logs.stablePowerTimeout).trans chosen
  unfold switch
  rw [Call.andThen_of_ok looked, ← now]
  rw [← now] at rested soon
  have double : c'.now + 2 * limit.nanos = c'.now + limit.nanos + limit.nanos := by
    rw [Nat.two_mul, Nat.add_assoc]
  obtain ⟨ran, beyond⟩ | ⟨queries, c'', ran, awaited⟩ := goal.settle_ready chosen' rested soon
  · rw [Call.andThen_of_error ran]
    refine ⟨[e], logs, by simpa using .inl asks, .inr ⟨rfl, ?_⟩⟩
    exact double ▸ Nat.le_trans beyond (Nat.le_add_right _ _)
  · have chosen'' := (congrArg given.getD awaited.logs.stablePowerTimeout).trans chosen'
    obtain ⟨more, later, sends, result⟩ := goal.act_ready chosen'' awaited.rested
    rw [Call.andThen_of_ok ran, andThen_verdict]
    refine ⟨e :: queries ++ more, (logs.trans awaited.logs).trans later, fun q member => ?_, ?_⟩
    · rcases List.mem_append.mp member with asked | sent
      · exact .inl (List.forall_mem_cons.2 ⟨asks, awaited.asks⟩ q asked)
      · exact sends q sent
    · obtain ⟨done, sees⟩ | ⟨endless, beyond⟩ := result
      · rw [outcome_settled] at sees
        refine .inl ⟨?_, sees⟩
        rw [done]
        change (goal.verdict _).mapError _ = _
        rw [verdict_outcome]
        split <;> rfl
      · right
        rw [endless]
        exact ⟨rfl, double ▸ Nat.le_trans beyond (Nat.add_le_add_right awaited.now _)⟩

theorem settled_ne_start (goal : PowerGoal) {power : PowerState}
    (near : power = goal.reached ∨ power = goal.nearing) : power.settled ≠ goal.start := by
  rcases near with rfl | rfl <;> cases goal <;> decide

/-- What a client sends to a projector that nobody else controls, and what goes wrong at most, when
it switches a lamp that does something at first. -/
structure Sparing (goal : PowerGoal) (power : PowerState) (log : List LoggedExchange)
    (r : Except CallFailure PowerState) : Prop where
  /-- No wait runs out, and no state is unexpected. -/
  faults : ∀ fault, r = .error (.fault fault) → fault = .emergencyState ∧ power = .emergency
  /-- Nothing is sent but queries and the command. -/
  sends : ∀ e ∈ log, e.Asks ∨ e.Commands goal
  /-- The command is sent once at most. -/
  once : ∀ before e after, log = before ++ e :: after → e.Commands goal →
    ∀ other ∈ before ++ after, ¬ other.Commands goal
  /-- The command is not sent if the goal is reached already or near. -/
  spared : power = goal.reached ∨ power = goal.nearing → ∀ e ∈ log, ¬ e.Commands goal
  /-- The command is acknowledged. -/
  acknowledged : ∀ e ∈ log, e.Commands goal →
    e.answer = .ok ⟨e.packet.acknowledgement, none⟩

/-- It is enough that nothing but queries is sent to a lamp that does not settle where the command
is heeded, and that the command is heeded. -/
theorem Sparing.of_sends {final : Bool} {power : PowerState} {log : List LoggedExchange}
    {r : Except CallFailure PowerState} (sequence : goal.Sequence final limit log r)
    (sends : ∀ e ∈ log, e.Asks ∨ (power.settled = goal.start ∧ e.Heeded goal))
    (faults : ∀ fault, r = .error (.fault fault) → fault = .emergencyState ∧ power = .emergency) :
    goal.Sparing power log r where
  faults := faults
  sends e member := (sends e member).imp_right fun sent => sent.2.commands
  once := sequence.sound.once
  spared near e member := by
    obtain asks | ⟨start, -⟩ := sends e member
    · exact asks.not_commands goal
    · exact absurd start (goal.settled_ne_start near)
  acknowledged e member commands := by
    obtain asks | ⟨-, heeded⟩ := sends e member
    · exact absurd commands (asks.not_commands goal)
    · exact heeded.answer

/-- A client is told that the goal is reached, and it is, unless the projector has an emergency. -/
structure Arrives (goal : PowerGoal) (power : PowerState) (r : Except CallFailure PowerState)
    (c : Client EmulatedTransport) : Prop where
  /-- What the client is told. -/
  result : r = if power = .emergency then .error (.fault .emergencyState) else .ok goal.reached
  /-- What the lamp does then. -/
  powerState : c.transport.emulation.dispatcher.state.powerState =
    .ok (if power = .emergency then .emergency else goal.reached)
  /-- It goes on doing so while nothing is asked of the projector. -/
  stays : ∀ moment, c.now ≤ moment →
    (c.transport.emulation.advance moment).dispatcher.state.powerState =
      .ok (if power = .emergency then .emergency else goal.reached)

end PowerGoal

/-- A client that has a projector to itself.  Before, anything may have happened to it. -/
structure Client.Alone (c : Client EmulatedTransport) (config : EmulatorConfig) : Prop where
  /-- The projector was started with the settings. -/
  reached : ∃ start handled, Emulation.ofConfig config = .ok start ∧
    start.Reaches handled c.transport.emulation
  /-- It still handles requests. -/
  running : c.transport.emulation.stopped = false
  /-- Nobody has asked anything of it that it has not handled. -/
  unasked : c.transport.emulation.Unasked
  /-- Its power has been set, unless its lamp was at rest when it was started. -/
  set : (config.power ≠ "Warming" ∧ config.power ≠ "Cooling") ∨
    0 < c.transport.emulation.dispatcher.generation
  /-- The transport has not ended. -/
  usable : c.transport.terminal = none
  /-- Its session is open and was told nothing yet that the client has not read. -/
  mailbox : c.transport.emulation.sessions.mailbox? c.transport.session = some []
  /-- The projector is not ahead of the client in time. -/
  clock : c.transport.emulation.now ≤ c.now

theorem Client.Alone.ready {c : Client EmulatedTransport} {config : EmulatorConfig}
    {power : PowerState} (alone : c.Alone config)
    (held : c.transport.emulation.dispatcher.state.powerState = .ok power)
    (warmup : config.warmupTime.nanos < limit.nanos)
    (cooldown : config.cooldown.nanos < limit.nanos) :
    ∃ lamp, c.logged.Ready lamp limit ∧ lamp.power.settled = power.settled ∧
      ∀ due ∈ lamp.due?, due < c.now + limit.nanos := by
  obtain ⟨start, handled, accepted, run⟩ := alone.reached
  obtain ⟨lamp, steady, kept, same, soon⟩ := Emulation.steady_drain accepted run alone.running
    alone.unasked alone.set held warmup cooldown
  have short := Emulation.lasting_lt_of_reaches accepted run warmup cooldown
  refine ⟨lamp, ⟨alone.usable, steady, (kept.mailbox? _).trans alone.mailbox, alone.clock,
    kept.lasting ▸ short⟩, same, fun due set => ?_⟩
  exact Nat.lt_of_lt_of_le (soon due set) (Nat.add_le_add_right alone.clock _)

/-- A projector whose owner has set its power after a session was opened, some time ago. -/
def Emulation.owned (start : Emulation) (power : String) (nanos : Nat) : Emulation :=
  (({ start with sessions := start.sessions.openSession.2 }.ask
    fun caller => .setStatus caller .power power).2).sleep nanos

/-- A client with the first session of a projector, which begins now. -/
def Client.guest (e : Emulation) : Client EmulatedTransport :=
  { transport := ⟨e, 1, [], none⟩, now := e.now }

theorem Emulation.reaches_owned (start : Emulation) (power : String) (nanos : Nat) :
    ∃ handled, start.Reaches handled (start.owned power nanos) := by
  have ordinary (caller generation : Nat) :
      Request.setStatus caller .power power ≠ .powerTimer generation := nofun
  obtain ⟨first, asked⟩ :=
    { start with sessions := start.sessions.openSession.2 }.reaches_ask ordinary
  obtain ⟨second, slept⟩ := reaches_sleep _ nanos
  exact ⟨_, (Reaches.sessions _ .refl).trans (asked.trans slept)⟩

theorem Client.alone_guest {config : EmulatorConfig} {start : Emulation} {power : String}
    {nanos : Nat} (accepted : Emulation.ofConfig config = .ok start)
    (running : (start.owned power nanos).stopped = false)
    (handled : (start.owned power nanos).queue = [])
    (begun : 0 < (start.owned power nanos).dispatcher.generation)
    (opened : (start.owned power nanos).sessions.entries = [⟨1, []⟩]) :
    (guest (start.owned power nanos)).Alone config where
  reached :=
    have ⟨requests, run⟩ := start.reaches_owned power nanos
    ⟨start, requests, accepted, run⟩
  running := running
  unasked request member := by
    change request ∈ (start.owned power nanos).queue at member
    rw [handled] at member
    cases member
  set := .inr begun
  usable := rfl
  mailbox := by
    change (start.owned power nanos).sessions.mailbox? 1 = some []
    rw [SessionTable.mailbox?, opened]
    rfl
  clock := Nat.le_refl _

/-- Two waits follow each other, so the clock can hold their ends if it can hold twice the limit. -/
theorem Client.Alone.inRange {config : EmulatorConfig} {c : Client EmulatedTransport}
    {power : PowerState} (goal : PowerGoal) (given : Option Duration) (alone : c.Alone config)
    (held : c.transport.emulation.dispatcher.state.powerState = .ok power)
    (warmup : config.warmupTime.nanos < (given.getD c.stablePowerTimeout).nanos)
    (cooldown : config.cooldown.nanos < (given.getD c.stablePowerTimeout).nanos)
    (early : c.now + 2 * (given.getD c.stablePowerTimeout).nanos < Call.clockRange) :
    (PowerHelper.switch goal true).InRange given c := by
  obtain ⟨lamp, ready, -, soon⟩ := alone.ready held warmup cooldown
  obtain ⟨-, -, -, result⟩ := goal.switch_ready rfl ready soon
  rw [PowerHelper.inRange_iff, PowerHelper.call, goal.call_eq]
  obtain ⟨done, -⟩ | ⟨-, beyond⟩ := result
  · rw [done]
    split <;> nofun
  · exact absurd beyond (Nat.not_le_of_lt early)

namespace Call

/-- A client that has a projector to itself, and gives the lamp more time than it takes to warm up
and to cool down, asks no more of it than it has to, whatever was done to the projector before.
If its clock can hold the end of each wait, it reaches its goal. -/
theorem switch_arrives {config : EmulatorConfig} {c : Client EmulatedTransport}
    {power : PowerState} (goal : PowerGoal) (given : Option Duration) (alone : c.Alone config)
    (held : c.transport.emulation.dispatcher.state.powerState = .ok power)
    (warmup : config.warmupTime.nanos < (given.getD c.stablePowerTimeout).nanos)
    (cooldown : config.cooldown.nanos < (given.getD c.stablePowerTimeout).nanos) :
    let done := goal.call true given c.logged
    goal.call true given c = (done.1, done.2.unlogged) ∧
      goal.Sparing power done.2.transport.log done.1 ∧
      ((PowerHelper.switch goal true).InRange given c →
        goal.Arrives power done.1 done.2.unlogged) := by
  obtain ⟨lamp, ready, same, soon⟩ := alone.ready held warmup cooldown
  obtain ⟨exchanges, logs', sequence⟩ := goal.switch_sequence true given c.logged
  obtain ⟨log, logs, sends, result⟩ := goal.switch_ready rfl ready soon
  obtain rfl : exchanges = log := logs'.log.symm.trans logs.log
  have emergency : lamp.power = .emergency ↔ power = .emergency := by
    rw [← PowerState.settled_eq_emergency, same, PowerState.settled_eq_emergency]
  simp only [emergency] at result
  rw [same] at sends
  rw [PowerHelper.inRange_iff, PowerHelper.call, goal.call_eq, goal.call_eq]
  refine ⟨SameLogged.switch goal true given c.logged, ?_, fun inside => ?_⟩
  · have written : (goal.switch true given c.logged).2.transport.log = exchanges := logs.log
    rw [written]
    refine .of_sends sequence sends fun fault told => ?_
    obtain ⟨done, -⟩ | ⟨endless, -⟩ := result
    · rw [done] at told
      split at told
      next lost => cases told; exact ⟨rfl, lost⟩
      next => cases told
    · rw [endless] at told
      cases told
  · obtain ⟨done, sees⟩ | ⟨endless, -⟩ := result
    · exact ⟨done, sees.powerState.1, sees.powerState.2⟩
    · exact absurd endless inside

/-- A client switches a projector off whose owner has made its lamp warm up three seconds ago.  It
waits until the lamp is on, and then until it is cool. -/
theorem switch_arrives_warming :
    let e (start : Emulation) : Emulation := start.owned "Warming" 3000000000
    ∃ start, Emulation.ofConfig {} = .ok start ∧ (Client.guest (e start)).Alone {} ∧
      (e start).dispatcher.state.powerState = .ok .warming ∧
      (PowerHelper.switch .off true).InRange none (Client.guest (e start)) ∧
      let done := PowerGoal.off.call true none (Client.guest (e start))
      done.1 = .ok .standby ∧
        done.2.transport.emulation.dispatcher.state.powerState = .ok .standby := by
  intro e
  have computed : ∃ start, Emulation.ofConfig {} = .ok start ∧ (e start).stopped = false ∧
      (e start).queue = [] ∧ 0 < (e start).dispatcher.generation ∧
      (e start).sessions.entries = [⟨1, []⟩] ∧ (e start).now = 3000000000 ∧
      (e start).dispatcher.state.get .power = PowerState.warming.name :=
    ⟨_, rfl, by decide +kernel⟩
  obtain ⟨start, accepted, running, handled, begun, opened, now, named⟩ := computed
  have alone := Client.alone_guest accepted running handled begun opened
  have warming : (e start).dispatcher.state.powerState = .ok .warming :=
    PowerState.ofName_eq_ok.mpr named
  have short : (Duration.ofSeconds 10).nanos < defaultStablePowerTimeout.nanos := by decide
  have early : (e start).now + 2 * defaultStablePowerTimeout.nanos < clockRange :=
    now ▸ (by decide : 3000000000 + 2 * defaultStablePowerTimeout.nanos < clockRange)
  have inside := alone.inRange .off none warming short short early
  obtain ⟨unlogged, -, arrives⟩ := switch_arrives .off none alone warming short short
  refine ⟨start, accepted, alone, warming, inside, ?_⟩
  rw [unlogged]
  exact ⟨(arrives inside).result, (arrives inside).powerState⟩

/-- A client may be given more time than its clock can hold.  Then it sends the command to a lamp
that is in standby, but is not told that the lamp is on. -/
theorem exists_not_arrives :
    let e (start : Emulation) : Emulation := start.owned "Standby" 0
    let limit : Duration := .ofSeconds 18446744073709551615
    ∃ start, Emulation.ofConfig {} = .ok start ∧ (Client.guest (e start)).Alone {} ∧
      (e start).dispatcher.state.powerState = .ok .standby ∧
      ({} : EmulatorConfig).warmupTime.nanos < limit.nanos ∧
      ({} : EmulatorConfig).cooldown.nanos < limit.nanos ∧
      (PowerGoal.on.call true (some limit) (Client.guest (e start))).1 =
        .error .clockOverflow := by
  intro e limit
  have computed : ∃ start, Emulation.ofConfig {} = .ok start ∧ (e start).stopped = false ∧
      (e start).queue = [] ∧ 0 < (e start).dispatcher.generation ∧
      (e start).sessions.entries = [⟨1, []⟩] ∧
      (e start).dispatcher.state.get .power = PowerState.standby.name ∧
      (PowerGoal.on.call true (some limit) (Client.guest (e start))).1 =
        .error .clockOverflow :=
    ⟨_, rfl, by decide +kernel⟩
  obtain ⟨start, accepted, running, handled, begun, opened, named, beyond⟩ := computed
  exact ⟨start, accepted, Client.alone_guest accepted running handled begun opened,
    PowerState.ofName_eq_ok.mpr named, by decide, by decide, beyond⟩

end Call

end ProjectorControl
