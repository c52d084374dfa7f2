import ProjectorControl.Proofs.Projector.Mailboxes
import ProjectorControl.Proofs.Projector.Pending

/-!
# A projector that is left alone

While nobody asks anything of a projector, all that can happen to it is that its timer expires.
`Lamp` is what it does and when that ends, and `Lamp.before` what has become of it by some moment.

A projector is `Emulation.Steady` if it has nothing left to handle and its one timer, if any, is
that of its lamp.  It stays so while time passes (`Emulation.Steady.runBefore`), and whatever
anybody has done to a projector before, it is steady as soon as the messages of its timers are
handled (`Emulation.steady_drain`), once its power has been set.
-/

namespace ProjectorControl

/-! ## Lamps -/

namespace PowerState

/-- What becomes of a lamp that is left alone. -/
def settled : PowerState → PowerState
  | warming => on
  | cooling => standby
  | standby => standby
  | on => on
  | emergency => emergency

theorem isTransitional_settled (power : PowerState) : power.settled.isTransitional = false := by
  cases power <;> rfl

theorem settled_of_rest {power : PowerState} (rest : power.isTransitional = false) :
    power.settled = power := by
  cases power <;> first | rfl | cases rest

theorem settled_eq_emergency {power : PowerState} :
    power.settled = emergency ↔ power = emergency := by
  cases power <;> decide

theorem settled_of_completion {current next : PowerState}
    (completion : PowerCompletion current next) : next = current.settled := by
  cases completion <;> rfl

end PowerState

/-- What the lamp of a projector does, and when that ends if it ends by itself. -/
structure Lamp where
  /-- What it does. -/
  power : PowerState
  /-- When its timer expires. -/
  due? : Option Moment
  /-- There is a timer exactly for a lamp on its way. -/
  timed : due?.isSome = power.isTransitional

namespace Lamp

variable (lamp : Lamp)

/-- The lamp after its timer has expired. -/
def settled : Lamp := ⟨lamp.power.settled, none, lamp.power.isTransitional_settled.symm⟩

/-- The lamp after everything that is due before a moment. -/
def before (moment : Moment) : Lamp :=
  if ∃ due ∈ lamp.due?, due < moment then lamp.settled else lamp

variable {lamp}

theorem due?_of_rest (rest : lamp.power.isTransitional = false) : lamp.due? = none :=
  Option.isSome_eq_false_iff.mp (lamp.timed.trans rest) |> Option.isNone_iff_eq_none.mp

theorem settled_of_rest (rest : lamp.power.isTransitional = false) : lamp.settled = lamp := by
  have off := due?_of_rest rest
  obtain ⟨power, due?, timed⟩ := lamp
  cases off
  simp only [settled, PowerState.settled_of_rest rest]

@[simp] theorem settled_settled : lamp.settled.settled = lamp.settled :=
  settled_of_rest lamp.power.isTransitional_settled

/-- Either the timer has expired by a moment, or it has not. -/
theorem before_cases (lamp : Lamp) (moment : Moment) :
    (∃ due ∈ lamp.due?, due < moment ∧ lamp.before moment = lamp.settled) ∨
      ((∀ due ∈ lamp.due?, moment ≤ due) ∧ lamp.before moment = lamp) := by
  by_cases past : ∃ due ∈ lamp.due?, due < moment
  · obtain ⟨due, set, expired⟩ := past
    exact .inl ⟨due, set, expired, if_pos ⟨due, set, expired⟩⟩
  · refine .inr ⟨fun due set => Nat.le_of_not_lt fun expired => past ⟨due, set, expired⟩, ?_⟩
    exact if_neg past

@[simp] theorem settled_before (lamp : Lamp) (moment : Moment) :
    (lamp.before moment).settled = lamp.settled := by
  obtain ⟨-, -, -, same⟩ | ⟨-, same⟩ := lamp.before_cases moment
  · rw [same, settled_settled]
  · rw [same]

@[simp] theorem before_settled (moment : Moment) : lamp.settled.before moment = lamp.settled :=
  if_neg fun ⟨_, set, _⟩ => nomatch set

theorem before_before {earlier later : Moment} (order : earlier ≤ later) :
    (lamp.before earlier).before later = lamp.before later := by
  obtain ⟨due, set, past, same⟩ | ⟨-, same⟩ := lamp.before_cases earlier
  · have past' : ∃ due ∈ lamp.due?, due < later := ⟨due, set, Nat.lt_of_lt_of_le past order⟩
    rw [same, before_settled, before, if_pos past']
  · rw [same]

theorem power_settled_before (lamp : Lamp) (moment : Moment) :
    (lamp.before moment).power.settled = lamp.power.settled :=
  congrArg Lamp.power (lamp.settled_before moment)

/-- A lamp at rest stays as it is. -/
theorem before_of_rest {earlier later : Moment} (order : earlier ≤ later)
    (rest : (lamp.before earlier).power.isTransitional = false) :
    lamp.before later = lamp.settled := by
  rw [← before_before order, ← settled_of_rest rest, settled_before, before_settled]

theorem mem_due?_of_before {moment due : Moment} (set : due ∈ (lamp.before moment).due?) :
    due ∈ lamp.due? := by
  obtain ⟨-, -, -, same⟩ | ⟨-, same⟩ := lamp.before_cases moment
  · rw [same] at set
    cases set
  · rwa [same] at set

/-- A lamp that is on its way at some moment has its timer still to come. -/
theorem exists_due_of_moving {moment : Moment}
    (moving : (lamp.before moment).power.isTransitional = true) :
    ∃ due ∈ lamp.due?, moment ≤ due := by
  obtain ⟨-, -, -, same⟩ | ⟨pending, same⟩ := lamp.before_cases moment
  · rw [same] at moving
    exact absurd (moving.symm.trans lamp.power.isTransitional_settled) (by decide)
  · rw [same, ← lamp.timed] at moving
    obtain ⟨due, set⟩ := Option.isSome_iff_exists.mp moving
    exact ⟨due, set, pending due set⟩

end Lamp

/-! ## Projectors that have nothing to handle -/

namespace Dispatcher

variable {d : Dispatcher} {power : PowerState}

/-- The message of the present timer ends what the lamp does. -/
theorem handle_powerTimer_of_moving (read : d.state.powerState = .ok power)
    (moving : power.isTransitional = true) :
    d.handle (.powerTimer d.generation) =
      ({ d with timer := none }.powered power.settled, []) := by
  cases power with
  | warming | cooling =>
      simp [handle, timerExpired, read, setPower_eq, PowerState.settled, powerEffects, lasting]
  | standby | on | emergency => cases moving

/-- The message of a timer makes the lamp settle, or leaves it as it is. -/
theorem settled_handle_powerTimer (valid : d.Valid) (generation : Nat)
    (read : d.state.powerState = .ok power) :
    ∃ next, (d.handle (.powerTimer generation)).1.state.powerState = .ok next ∧
      next.settled = power.settled := by
  have step := step_handle valid (.powerTimer generation)
  generalize d.handle (.powerTimer generation) = outcome at step ⊢
  obtain ⟨after, effects⟩ := outcome
  simp only at step ⊢
  cases step with
  | complete read' completion =>
      obtain rfl := Except.ok.inj (read.symm.trans read')
      refine ⟨_, powerState_powered _ _, ?_⟩
      rw [PowerState.settled_of_completion completion]
      exact PowerState.settled_of_rest power.isTransitional_settled
  | settled | stale => exact ⟨power, read, rfl⟩

end Dispatcher

namespace Emulation

/-- Nothing waits to be handled, and the timer that runs, if any, is that of the lamp. -/
structure Steady (e : Emulation) (lamp : Lamp) : Prop where
  valid : e.dispatcher.Valid
  running : e.stopped = false
  queue : e.queue = []
  power : e.dispatcher.state.powerState = .ok lamp.power
  timers : e.timers = lamp.due?.toList.map fun due => ⟨e.dispatcher.generation, due⟩

/-- What does not change while a projector is left alone. -/
structure Kept (e after : Emulation) : Prop where
  lasting : after.dispatcher.lasting = e.dispatcher.lasting
  mailbox? : ∀ id, after.sessions.mailbox? id = e.sessions.mailbox? id

theorem Kept.refl (e : Emulation) : e.Kept e := ⟨rfl, fun _ => rfl⟩

section

variable {e : Emulation} {lamp : Lamp}

/-- A projector is steady after a request if its timer is the one that the lamp needs. -/
theorem steady_handle {request : Request} {after : Lamp} (valid : e.dispatcher.Valid)
    (running : e.stopped = false) (queue : e.queue = []) (ordinary : request ≠ .stop)
    (power : (e.dispatcher.handle request).1.state.powerState = .ok after.power)
    (timers : (e.dispatcher.handle request).2.foldl (retime e.now) e.timers =
      after.due?.toList.map fun due => ⟨(e.dispatcher.handle request).1.generation, due⟩) :
    (e.handle request).Steady after := by
  obtain ⟨sessions, answers, done, -⟩ := handle_eq running request
  rw [done]
  exact ⟨(Dispatcher.step_handle valid request).valid valid, decide_eq_false ordinary, queue,
    power, timers⟩

theorem lasting_handle (valid : e.dispatcher.Valid) (running : e.stopped = false)
    (request : Request) :
    (e.handle request).dispatcher.lasting = e.dispatcher.lasting := by
  obtain ⟨sessions, answers, done, -⟩ := handle_eq running request
  rw [done]
  exact (Dispatcher.timing_handle valid request).lasting_eq

/-- The message of a timer reaches no session. -/
theorem kept_handle_powerTimer (valid : e.dispatcher.Valid) (running : e.stopped = false)
    (generation : Nat) : e.Kept (e.handle (.powerTimer generation)) := by
  refine ⟨lasting_handle valid running _, fun id => ?_⟩
  obtain ⟨sessions, answers, done, told, -⟩ := handle_eq running (.powerTimer generation)
  rw [done, told, Dispatcher.messagesTo_handle_other valid id fun _ _ => Request.noConfusion]
  cases e.sessions.mailbox? id <;> simp

namespace Steady

theorem drain_eq (steady : e.Steady lamp) : e.drain = e := drain_of_queue_nil steady.queue

theorem wait (steady : e.Steady lamp) (moment : Moment) :
    Steady { e with now := moment } lamp :=
  { steady with }

/-- The timer expires, and the lamp has settled. -/
theorem expire (steady : e.Steady lamp) {due : Moment} (set : lamp.due? = some due) :
    (e.expire ⟨e.dispatcher.generation, due⟩).Steady lamp.settled ∧
      e.Kept (e.expire ⟨e.dispatcher.generation, due⟩) := by
  have timers : e.timers = [⟨e.dispatcher.generation, due⟩] := by
    rw [steady.timers, set]
    rfl
  have moving : lamp.power.isTransitional = true := by rw [← lamp.timed, set, Option.isSome_some]
  let expired : Emulation := { e with now := max e.now due, timers := [], queue := [] }
  have done : e.expire ⟨e.dispatcher.generation, due⟩ =
      expired.handle (.powerTimer e.dispatcher.generation) := by
    rw [Emulation.expire, if_pos (timers ▸ List.mem_singleton_self _)]
    simp only [fire, push, drain, timers, steady.queue, List.erase_cons_head, List.nil_append,
      List.foldl_cons, List.foldl_nil, expired]
  have handled := Dispatcher.handle_powerTimer_of_moving steady.power moving
  rw [done]
  constructor
  · refine steady_handle steady.valid steady.running rfl Request.noConfusion ?_ ?_
    · exact handled ▸ Dispatcher.powerState_powered _ _
    · exact handled ▸ rfl
  · have kept := kept_handle_powerTimer (e := expired) steady.valid steady.running
      e.dispatcher.generation
    exact ⟨kept.lasting, kept.mailbox?⟩

/-- All that can happen before a moment is that the timer expires. -/
theorem runBefore_cases (steady : e.Steady lamp) (moment : Moment) :
    (∃ due, lamp.due? = some due ∧ due < moment ∧ lamp.before moment = lamp.settled ∧
      e.runBefore moment = e.expire ⟨e.dispatcher.generation, due⟩) ∨
    (lamp.before moment = lamp ∧ e.runBefore moment = e) := by
  rw [Emulation.runBefore, steady.drain_eq, dueBefore, steady.timers]
  obtain ⟨due, set, past, same⟩ | ⟨pending, same⟩ := lamp.before_cases moment
  · refine .inl ⟨due, set, past, same, ?_⟩
    rw [Option.mem_def.mp set]
    simp only [Option.toList_some, List.map_cons, List.map_nil, past, decide_true,
      List.filter_cons_of_pos, List.filter_nil, List.mergeSort_singleton, List.foldl_cons,
      List.foldl_nil]
  · refine .inr ⟨same, ?_⟩
    have none : (lamp.due?.toList.map (PowerTimer.mk e.dispatcher.generation)).filter
        (fun t => t.due < moment) = [] := by
      refine List.filter_eq_nil_iff.mpr fun timer member => ?_
      obtain ⟨due, set, rfl⟩ := List.mem_map.mp member
      simpa using pending due (Option.mem_toList.mp set)
    rw [none, List.mergeSort_nil, List.foldl_nil]

theorem runBefore (steady : e.Steady lamp) (moment : Moment) :
    (e.runBefore moment).Steady (lamp.before moment) ∧ e.Kept (e.runBefore moment) := by
  obtain ⟨due, set, -, same, ran⟩ | ⟨same, ran⟩ := steady.runBefore_cases moment
  · rw [same, ran]
    exact steady.expire set
  · rw [same, ran]
    exact ⟨steady, .refl e⟩

/-- The clock goes no further than to the last moment before. -/
theorem now_runBefore_lt (steady : e.Steady lamp) {moment : Moment} (started : e.now < moment) :
    (e.runBefore moment).now < moment := by
  obtain ⟨due, set, past, -, ran⟩ | ⟨-, ran⟩ := steady.runBefore_cases moment
  · rw [ran, Emulation.expire]
    split
    next =>
      rw [now_drain]
      exact Nat.max_lt.mpr ⟨started, past⟩
    next => exact started
  · rwa [ran]

end Steady

/-- Time passes for a projector that is steady once its queue is handled. -/
theorem steady_advance (steady : e.drain.Steady lamp) {moment : Moment} (later : e.now ≤ moment) :
    (e.advance moment).Steady (lamp.before moment) ∧ e.drain.Kept (e.advance moment) ∧
      (e.advance moment).now = moment := by
  have drained : e.drain.runBefore moment = e.runBefore moment := by
    rw [runBefore, steady.drain_eq]
    rfl
  obtain ⟨after, kept⟩ := steady.runBefore moment
  rw [drained] at after kept
  exact ⟨after.wait _, ⟨kept.lasting, kept.mailbox?⟩, Nat.max_eq_right later⟩

/-! ## Messages of timers that wait -/

/-- Only messages of timers wait. -/
def Unasked (e : Emulation) : Prop :=
  ∀ request ∈ e.queue, ∃ generation, request = .powerTimer generation

/-- What handling the messages of timers changes is that the lamp may have settled. -/
structure Expired (e after : Emulation) : Prop where
  running : after.stopped = false
  generation : e.dispatcher.generation ≤ after.dispatcher.generation
  power : ∀ power, e.dispatcher.state.powerState = .ok power →
    ∃ next, after.dispatcher.state.powerState = .ok next ∧ next.settled = power.settled
  kept : e.Kept after

theorem Expired.trans {middle after : Emulation} (first : e.Expired middle)
    (second : middle.Expired after) : e.Expired after where
  running := second.running
  generation := Nat.le_trans first.generation second.generation
  power power read := by
    obtain ⟨next, read', same⟩ := first.power power read
    obtain ⟨last, read'', same'⟩ := second.power next read'
    exact ⟨last, read'', same'.trans same⟩
  kept := ⟨second.kept.lasting.trans first.kept.lasting,
    fun id => (second.kept.mailbox? id).trans (first.kept.mailbox? id)⟩

theorem expired_step (valid : e.dispatcher.Valid) (running : e.stopped = false) {generation : Nat}
    {later : List Request} (queued : e.queue = .powerTimer generation :: later) :
    e.Expired e.step ∧ e.step.dispatcher.Valid ∧ e.step.queue = later := by
  let rest : Emulation := { e with queue := later }
  have stepped : e.step = rest.handle (.powerTimer generation) := by rw [step, queued]
  have kept := kept_handle_powerTimer (e := rest) valid running generation
  obtain ⟨sessions, answers, done, -⟩ := handle_eq (e := rest) running (.powerTimer generation)
  rw [done] at kept
  rw [stepped, done]
  refine ⟨⟨rfl, (Dispatcher.timing_handle valid _).generation_le, fun _ read => ?_,
    kept.lasting, kept.mailbox?⟩, (Dispatcher.step_handle valid _).valid valid, rfl⟩
  exact Dispatcher.settled_handle_powerTimer valid generation read

theorem expired_drain (valid : e.dispatcher.Valid) (running : e.stopped = false)
    (unasked : e.Unasked) : e.Expired e.drain ∧ e.drain.queue = [] := by
  generalize queued : e.queue = queue
  induction queue generalizing e with
  | nil =>
      rw [drain_of_queue_nil queued]
      exact ⟨⟨running, Nat.le_refl _, fun power read => ⟨power, read, rfl⟩, .refl e⟩, queued⟩
  | cons request later ih =>
      obtain ⟨generation, rfl⟩ := unasked request (queued ▸ List.mem_cons_self)
      obtain ⟨first, valid', rest⟩ := expired_step valid running queued
      have unasked' : e.step.Unasked := fun request member =>
        unasked request (queued ▸ List.mem_cons_of_mem _ (rest ▸ member))
      obtain ⟨second, empty⟩ := ih valid' first.running unasked' rest
      rw [drain_of_queue_eq queued]
      exact ⟨first.trans second, empty⟩

theorem valid_of_reaches {c : EmulatorConfig} {start : Emulation} {handled : List Request}
    (accepted : ofConfig c = .ok start) (run : start.Reaches handled e) : e.dispatcher.Valid := by
  obtain ⟨d, read, rfl⟩ := ofConfig_eq accepted
  have valid : d.Valid := Dispatcher.valid_ofConfig read
  exact (run.traced valid rfl rfl).dispatcher ▸ valid.run handled

/-- Every state of the lamp that ends by itself lasts as long as it is configured to. -/
theorem lasting_lt_of_reaches {c : EmulatorConfig} {start : Emulation} {handled : List Request}
    {limit : Duration} (accepted : ofConfig c = .ok start) (run : start.Reaches handled e)
    (warmup : c.warmupTime.nanos < limit.nanos) (cooldown : c.cooldown.nanos < limit.nanos) :
    ∀ power delay, e.dispatcher.lasting power = some delay → delay.nanos < limit.nanos := by
  obtain ⟨d, read, rfl⟩ := ofConfig_eq accepted
  obtain ⟨model, state, -, -, dEq⟩ := Dispatcher.ofConfig_eq_ok read
  have valid : d.Valid := Dispatcher.valid_ofConfig read
  intro power delay lasts
  rw [(run.traced valid rfl rfl).dispatcher, Dispatcher.lasting_run valid, dEq] at lasts
  cases power with
  | warming =>
      cases lasts
      exact warmup
  | cooling =>
      cases lasts
      exact cooldown
  | standby | on | emergency => cases lasts

/-- Without a message in the queue, the pending timer runs. -/
theorem Pending.timers_eq {delay : Duration} (pending : e.Pending delay) (empty : e.queue = []) :
    ∃ since ≤ e.now,
      e.timers = [⟨e.dispatcher.generation, since + waitLength delay.nanos⟩] := by
  cases pending with
  | running past timers => exact ⟨_, past, timers⟩
  | queued _ once =>
      rw [empty] at once
      cases once

/-- A projector whose power has been set is steady once the messages of its timers are handled,
and what its lamp does ends as soon as it is configured to. -/
theorem steady_drain {c : EmulatorConfig} {start : Emulation} {handled : List Request}
    {power : PowerState} {limit : Duration} (accepted : ofConfig c = .ok start)
    (run : start.Reaches handled e) (running : e.stopped = false) (unasked : e.Unasked)
    (begun : (c.power ≠ "Warming" ∧ c.power ≠ "Cooling") ∨ 0 < e.dispatcher.generation)
    (read : e.dispatcher.state.powerState = .ok power)
    (warmup : c.warmupTime.nanos < limit.nanos) (cooldown : c.cooldown.nanos < limit.nanos) :
    ∃ lamp, e.drain.Steady lamp ∧ e.Kept e.drain ∧ lamp.power.settled = power.settled ∧
      ∀ due ∈ lamp.due?, due < e.now + limit.nanos := by
  obtain ⟨more, further⟩ := e.reaches_drain
  have run' := run.trans further
  have valid := valid_of_reaches accepted run'
  obtain ⟨expired, empty⟩ := expired_drain (valid_of_reaches accepted run) running unasked
  obtain ⟨next, read', same⟩ := expired.power power read
  obtain ⟨next', read'', warming, cooling, idle⟩ := pending_of_reaches accepted run'
    expired.running (begun.imp_right fun set => Nat.lt_of_lt_of_le set expired.generation)
  obtain rfl := Except.ok.inj (read'.symm.trans read'')
  have timed : next.isTransitional = true →
      ∃ delay : Duration, delay.nanos < limit.nanos ∧ e.drain.Pending delay := by
    intro moving
    cases next with
    | warming => exact ⟨_, warmup, warming rfl⟩
    | cooling => exact ⟨_, cooldown, cooling rfl⟩
    | standby | on | emergency => cases moving
  cases moving : next.isTransitional with
  | false =>
      refine ⟨⟨next, none, moving.symm⟩, ⟨valid, expired.running, empty, read',
        (idle moving).timers⟩, expired.kept, same, nofun⟩
  | true =>
      obtain ⟨delay, short, pending⟩ := timed moving
      obtain ⟨since, past, timers⟩ := pending.timers_eq empty
      refine ⟨⟨next, some (since + waitLength delay.nanos), moving.symm⟩,
        ⟨valid, expired.running, empty, read', timers⟩, expired.kept, same, ?_⟩
      rintro _ ⟨⟩
      rw [now_drain] at past
      exact Nat.add_lt_add_of_le_of_lt past (Nat.lt_of_le_of_lt (Nat.min_le_left _ _) short)

end

end Emulation

end ProjectorControl
