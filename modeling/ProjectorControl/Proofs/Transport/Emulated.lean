import ProjectorControl.Proofs.Client.Switching
import ProjectorControl.Proofs.Projector.Alone
import ProjectorControl.Proofs.Transport.Agreement
import ProjectorControl.Transport.Emulated

/-!
# Exchanges with an emulated projector

A transport that is `EmulatedTransport.Ready` leads to a projector of which nobody else asks
anything.  Then what comes of an exchange depends on its lamp alone.  A query is answered at once
with what the lamp does (`EmulatedTransport.Ready.query`).  A power command is acknowledged if the
lamp is in the state where it is heeded, and sends the lamp on its way
(`EmulatedTransport.Ready.switch`).  Afterwards the transport is ready again, and its projector has
nothing left to handle (`EmulatedTransport.Rested`).
-/

namespace ProjectorControl

namespace Dispatcher

variable {d : Dispatcher}

/-- A query is answered, and nothing else comes of it. -/
theorem dispatch_of_query (valid : d.Valid) {command : Command}
    (listed : command.definition ∈ registry.commands) (query : command.isAdvanced = true) :
    ∃ answer : ResponsePackets, d.dispatch command.packet = (.ok (some answer.toList), d, []) ∧
      d.AnswerOf command.packet answer := by
  have isCommand := CommandDefinition.isCommand_of_matchesPacket command.fits
  have recognized (other : Command)
      (known : Command.ofPacket command.packet (some d.model) = .ok other) :
      other.definition ∈ registry.commands ∧ other.isAdvanced ≠ false := by
    have recognition := Command.recognition command.packet (some d.model)
    rw [known] at recognition
    cases recognition with
    | known whole listed => exact ⟨listed, by simpa [Command.isAdvanced, whole] using query⟩
  have quiet : ∃ packets, d.dispatch command.packet = (.ok (some packets), d, []) := by
    have rule := dispatched valid command.packet
    generalize d.dispatch command.packet = outcome at rule
    obtain ⟨result, after, effects⟩ := outcome
    simp only at rule ⊢
    cases rule with
    | noCommand response => exact absurd (isCommand.symm.trans response) (by decide)
    | unknown _ missing =>
        exact absurd (command.fits.symm.trans (missing _ listed)) (by decide)
    | switch known switch | ignore known switch =>
        obtain ⟨listed, advanced⟩ := recognized _ known
        exact absurd (Command.isAdvanced_of_switch listed switch) advanced
    | acknowledge known basic => exact absurd basic (recognized _ known).2
    | status | model => exact ⟨_, rfl⟩
  obtain ⟨packets, done⟩ := quiet
  obtain ⟨answer, rfl, answers⟩ := answered valid (congrArg Prod.fst done)
  exact ⟨answer, done, answers⟩

/-- The commands that switch the lamp are recognized by every model. -/
theorem recognizes_switch (valid : d.Valid) {goal : PowerGoal} {command : Command}
    (named : Command.ofName goal.commandName [] = .ok command) :
    d.Recognizes command.packet goal.commandName := by
  have table : ∀ model ∈ Model.all,
      ((Command.ofName goal.commandName []).toOption.bind fun command =>
        (Command.ofPacket command.packet (some model)).toOption.map Command.name) =
          some goal.commandName := by
    cases goal <;> decide +kernel
  have found := table d.model valid.model
  rw [named] at found
  change (Command.ofPacket command.packet (some d.model)).toOption.map Command.name = _ at found
  unfold Recognizes
  cases known : Command.ofPacket command.packet (some d.model) with
  | error fault => rw [known] at found; cases found
  | ok other =>
      rw [known] at found
      exact ⟨other, rfl, Option.some.inj found⟩

theorem dispatch_switch_of_eq {packet : Packet} {name : String} {required next : PowerState}
    (known : d.Recognizes packet name) (switch : PowerSwitch name required next)
    (read : d.state.powerState = .ok required) :
    (d.dispatch packet).1 = .ok (some [packet.acknowledgement]) := by
  obtain ⟨command, known, rfl⟩ := known
  rw [dispatch_switch known switch read, if_pos rfl]

end Dispatcher

namespace PowerGoal

variable (goal : PowerGoal)

theorem powerSwitch : PowerSwitch goal.commandName goal.start goal.nearing := by
  cases goal with
  | on => exact .on
  | off => exact .off

theorem isTransitional_start : goal.start.isTransitional = false := by cases goal <;> rfl

theorem isTransitional_nearing : goal.nearing.isTransitional = true := by cases goal <;> rfl

theorem settled_nearing : goal.nearing.settled = goal.reached := by cases goal <;> rfl

end PowerGoal

/-! ## Exchanges -/

namespace EmulatedTransport

open Emulation (Steady steady_advance handle_eq steady_handle)

/-- A transport on which a packet can be sent at a moment.  Nothing is asked of the projector but
through it, what its lamp does lasts less than a limit, and it is known what that is. -/
structure Ready (t : EmulatedTransport) (lamp : Lamp) (limit : Duration) (now : Moment) : Prop where
  terminal : t.terminal = none
  steady : t.emulation.drain.Steady lamp
  mailbox : t.emulation.drain.sessions.mailbox? t.session = some []
  now : t.emulation.now ≤ now
  short : ∀ power delay, t.emulation.drain.dispatcher.lasting power = some delay →
    delay.nanos < limit.nanos

/-- A transport whose projector has handled all that was asked of it. -/
structure Rested (t : EmulatedTransport) (lamp : Lamp) (limit : Duration) (now : Moment) : Prop
    extends Ready t lamp limit now where
  queue : t.emulation.queue = []

variable {t : EmulatedTransport} {lamp : Lamp} {limit : Duration} {now : Moment}

theorem rested_of_steady (terminal : t.terminal = none) (steady : t.emulation.Steady lamp)
    (mailbox : t.emulation.sessions.mailbox? t.session = some []) (now_le : t.emulation.now ≤ now)
    (short : ∀ power delay, t.emulation.dispatcher.lasting power = some delay →
      delay.nanos < limit.nanos) : t.Rested lamp limit now := by
  refine ⟨⟨terminal, ?_, ?_, now_le, ?_⟩, steady.queue⟩
  · rwa [steady.drain_eq]
  · rwa [steady.drain_eq]
  · rwa [steady.drain_eq]

/-- The projector holds what its lamp does. -/
theorem Rested.powerState (rested : t.Rested lamp limit now) :
    t.emulation.dispatcher.state.powerState = .ok lamp.power := by
  have held := rested.steady.power
  rwa [Emulation.drain_of_queue_nil rested.queue] at held

/-- Time passes, and nothing is sent. -/
theorem Ready.advance (ready : t.Ready lamp limit now) {moment : Moment} (later : now ≤ moment) :
    (Transport.advance moment t).Rested (lamp.before moment) limit moment := by
  obtain ⟨after, kept, arrived⟩ :=
    steady_advance ready.steady (Nat.le_trans ready.now later)
  refine rested_of_steady ready.terminal after ?_ (Nat.le_of_eq arrived) ?_
  · exact (kept.mailbox? t.session).trans ready.mailbox
  · exact kept.lasting ▸ ready.short

/-- A request that comes to a projector with an empty queue is handled at once. -/
theorem settle_push {e : Emulation} {request : Request} {after : Lamp} (queue : e.queue = [])
    (steady : (e.handle request).Steady after) :
    (e.push request).settle = (e.handle request).runBefore (e.now + 1) := by
  have drained : (e.push request).drain = e.handle request := by
    rw [Emulation.drain, Emulation.push, queue, List.nil_append, List.foldl_cons, List.foldl_nil,
      ← queue]
  rw [Emulation.settle, Emulation.runBefore, Emulation.runBefore, drained, steady.drain_eq]
  rfl

/-- The mailbox of a session after its packet was handled. -/
theorem mailbox?_handle_packet {e : Emulation} {session : SessionId} {packet : Packet}
    {packets : List Packet} (valid : e.dispatcher.Valid) (running : e.stopped = false)
    (empty : e.sessions.mailbox? session = some [])
    (told : (e.dispatcher.dispatch packet).1 = .ok (some packets)) :
    (e.handle (.packet session packet)).sessions.mailbox? session = some [.send packets] := by
  obtain ⟨sessions, answers, done, mailboxes, -⟩ := handle_eq running (.packet session packet)
  rw [done, mailboxes, empty, Dispatcher.messagesTo_handle_packet valid, if_pos rfl, told]
  rfl

/-- What is in the mailbox when the projector is done is the answer to a packet. -/
theorem exchange_of_mailbox {packet : Packet} {answer : ResponsePackets} {e : Emulation}
    (usable : t.terminal = none)
    (settled : ((t.emulation.advance now).push (.packet t.session packet)).settle = e)
    (mailbox : e.sessions.mailbox? t.session = some [.send answer.toList]) :
    Transport.exchange packet now none t =
      ⟨.ok answer, 0, ⟨{ e with sessions := (e.sessions.collect t.session).2 }, t.session,
        t.sent ++ [packet], none⟩⟩ := by
  have told : (e.sessions.collect t.session).1 = [.send answer.toList] := by
    rw [SessionTable.collect_fst, mailbox]
    rfl
  have advanced : answer.advanced.toList.head? = answer.advanced := by
    cases answer.advanced <;> rfl
  change EmulatedTransport.exchange t packet now none = _
  simp only [EmulatedTransport.exchange, respond, usable, settled, told, ResponsePackets.toList,
    advanced]

/-- A packet is answered at once with what the projector says. -/
theorem Ready.exchange (ready : t.Ready lamp limit now) {packet : Packet}
    {answer : ResponsePackets} {after : Lamp}
    (told : ((t.emulation.advance now).dispatcher.dispatch packet).1 = .ok (some answer.toList))
    (steady : ((t.emulation.advance now).handle (.packet t.session packet)).Steady after) :
    ∃ t', Transport.exchange packet now none t = ⟨.ok answer, 0, t'⟩ ∧
      t'.Rested (after.before (now + 1)) limit now := by
  obtain ⟨before, kept, arrived⟩ := steady_advance ready.steady ready.now
  obtain ⟨final, keptLater⟩ := steady.runBefore (now + 1)
  have settled := settle_push before.queue steady
  rw [arrived] at settled
  have mailbox := mailbox?_handle_packet before.valid before.running
    ((kept.mailbox? t.session).trans ready.mailbox) told
  rw [← keptLater.mailbox? t.session] at mailbox
  refine ⟨_, exchange_of_mailbox ready.terminal settled mailbox, ?_⟩
  refine rested_of_steady rfl { final with } ?_ ?_ ?_
  · exact (SessionTable.mailbox?_collect _ _).trans (congrArg (Option.map fun _ => []) mailbox)
  · refine Nat.le_of_lt_succ (steady.now_runBefore_lt ?_)
    rw [Emulation.now_handle, arrived]
    exact Nat.lt_succ_self now
  · have lasting := Emulation.lasting_handle before.valid before.running
      (.packet t.session packet)
    exact (keptLater.lasting.trans (lasting.trans kept.lasting)) ▸ ready.short

/-- A query is answered with what the projector holds. -/
theorem Ready.query (ready : t.Ready lamp limit now) {command : Command}
    (listed : command.definition ∈ registry.commands) (query : command.isAdvanced = true) :
    ∃ (answer : ResponsePackets) (t' : EmulatedTransport),
      Transport.exchange command.packet now none t = ⟨.ok answer, 0, t'⟩ ∧
      t'.Rested (lamp.before (now + 1)) limit now ∧
      ∃ state model, state.powerState = .ok (lamp.before now).power ∧
        Understood state model answer command := by
  obtain ⟨before, -, -⟩ := steady_advance ready.steady ready.now
  obtain ⟨answer, done, answers⟩ := Dispatcher.dispatch_of_query before.valid listed query
  have handled := (t.emulation.advance now).dispatcher.handle_packet t.session command.packet
  rw [done] at handled
  have steady : ((t.emulation.advance now).handle (.packet t.session command.packet)).Steady
      (lamp.before now) := by
    refine steady_handle before.valid before.running before.queue Request.noConfusion ?_ ?_
    · exact handled ▸ before.power
    · exact handled ▸ before.timers
  obtain ⟨t', sent, rested⟩ := ready.exchange (congrArg Prod.fst done) steady
  rw [Lamp.before_before (Nat.le_succ now)] at rested
  exact ⟨answer, t', sent, rested, _, _, before.power, answers.understood _ rfl listed⟩

/-- A command that is heeded is acknowledged, and the lamp is on its way for less than the
limit. -/
theorem Ready.switch (ready : t.Ready lamp limit now) {goal : PowerGoal} {command : Command}
    (named : Command.ofName goal.commandName [] = .ok command)
    (heeded : (lamp.before now).power = goal.start) :
    ∃ t' lamp', Transport.exchange command.packet now none t =
        ⟨.ok ⟨command.packet.acknowledgement, none⟩, 0, t'⟩ ∧
      t'.Rested lamp' limit now ∧ lamp'.power.settled = goal.reached ∧
      ∀ due ∈ lamp'.due?, due < now + limit.nanos := by
  obtain ⟨before, kept, arrived⟩ := steady_advance ready.steady ready.now
  have start : (t.emulation.advance now).dispatcher.state.powerState = .ok goal.start :=
    heeded ▸ before.power
  have idle : (t.emulation.advance now).timers = [] := by
    rw [before.timers, Lamp.due?_of_rest (heeded ▸ goal.isTransitional_start)]
    rfl
  obtain ⟨delay, lasts⟩ :
      ∃ delay, (t.emulation.advance now).dispatcher.lasting goal.nearing = some delay := by
    cases goal <;> exact ⟨_, rfl⟩
  have short : delay.nanos < limit.nanos := ready.short goal.nearing delay (kept.lasting ▸ lasts)
  have known := Dispatcher.recognizes_switch before.valid named
  let answer : ResponsePackets := ⟨command.packet.acknowledgement, none⟩
  have told : ((t.emulation.advance now).dispatcher.dispatch command.packet).1 =
      .ok (some answer.toList) := Dispatcher.dispatch_switch_of_eq known goal.powerSwitch start
  have handled := Dispatcher.handle_switch_of_eq known goal.powerSwitch start t.session
  let moving : Lamp :=
    ⟨goal.nearing, some (now + waitLength delay.nanos), goal.isTransitional_nearing.symm⟩
  have steady : ((t.emulation.advance now).handle (.packet t.session command.packet)).Steady
      moving := by
    refine steady_handle before.valid before.running before.queue Request.noConfusion ?_ ?_
    · exact handled ▸ Dispatcher.powerState_powered _ _
    · rw [handled, List.foldl_append, Emulation.foldl_retime_powerEffects (by simp [idle]), lasts,
        arrived]
      rfl
  obtain ⟨t', sent, rested⟩ := ready.exchange told steady
  refine ⟨t', moving.before (now + 1), sent, rested, ?_, fun due set => ?_⟩
  · exact (moving.power_settled_before _).trans goal.settled_nearing
  · obtain rfl := Option.some.inj (Lamp.mem_due?_of_before set)
    exact Nat.add_lt_add_left (Nat.lt_of_le_of_lt (Nat.min_le_left _ _) short) now

end EmulatedTransport

end ProjectorControl
