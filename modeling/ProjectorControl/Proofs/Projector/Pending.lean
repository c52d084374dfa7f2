import ProjectorControl.Proofs.Projector.Completion

/-!
# The timer that is pending

A power state that ends by itself is set together with a timer.  Until the power is set again, that
timer either runs or has its message in the queue, and no other timer is about
(`Emulation.Watched`).  So the lamp does not get stuck while it warms up or cools down, once the
power has been set at all (`Emulation.pending_of_reaches`).

The first state comes from the settings, not from a request, and no timer is started for it
(`Emulation.idle_of_reaches`).  So a projector that is warming up when it is started does so until
its owner sets the power (`Emulation.not_pending_of_startedWarming`).
-/

namespace ProjectorControl

namespace Emulation

/-- Exactly one timer is pending, and it is of the present generation: it runs for the time it
was started for, or its message is queued. -/
inductive Pending (e : Emulation) (delay : Duration) : Prop where
  | running {since : Moment} :
      since ≤ e.now →
      e.timers = [⟨e.dispatcher.generation, since + waitLength delay.nanos⟩] →
      .powerTimer e.dispatcher.generation ∉ e.queue → Pending e delay
  | queued :
      e.timers = [] → e.queue.count (.powerTimer e.dispatcher.generation) = 1 → Pending e delay

/-- No timer is pending. -/
structure Idle (e : Emulation) : Prop where
  timers : e.timers = []
  queue : .powerTimer e.dispatcher.generation ∉ e.queue

/-- The timer is the one that the lamp needs, unless the power was never set. -/
inductive Watched (e : Emulation) : Prop where
  | timed {power : PowerState} {delay : Duration} :
      0 < e.dispatcher.generation → e.dispatcher.timer = some e.dispatcher.generation →
      e.dispatcher.state.powerState = .ok power → e.dispatcher.lasting power = some delay →
      e.Pending delay → Watched e
  | resting {power : PowerState} :
      0 < e.dispatcher.generation → e.dispatcher.timer = none →
      e.dispatcher.state.powerState = .ok power → e.dispatcher.lasting power = none →
      e.Idle → Watched e
  | fresh : e.dispatcher.timer = none → e.dispatcher.generation = 0 → e.Idle → Watched e

/-- No message is of a generation to come. -/
def Past (e : Emulation) : Prop :=
  ∀ generation, .powerTimer generation ∈ e.queue → generation ≤ e.dispatcher.generation

/-- Nothing that concerns the timer is different, but time may have passed. -/
structure SameTimer (e after : Emulation) : Prop where
  generation : after.dispatcher.generation = e.dispatcher.generation
  timer : after.dispatcher.timer = e.dispatcher.timer
  lasting : after.dispatcher.lasting = e.dispatcher.lasting
  power : after.dispatcher.state.powerState = e.dispatcher.state.powerState
  timers : after.timers = e.timers
  now : e.now ≤ after.now
  queue : after.queue.count (.powerTimer e.dispatcher.generation) =
    e.queue.count (.powerTimer e.dispatcher.generation)

section

variable {e after : Emulation}

theorem SameTimer.not_mem (same : SameTimer e after)
    (absent : .powerTimer e.dispatcher.generation ∉ e.queue) :
    .powerTimer after.dispatcher.generation ∉ after.queue := by
  rw [← List.count_eq_zero, same.generation, same.queue]
  exact List.count_eq_zero.mpr absent

theorem Idle.of_same (idle : e.Idle) (same : SameTimer e after) : after.Idle :=
  ⟨same.timers.trans idle.timers, same.not_mem idle.queue⟩

theorem Pending.of_same {delay : Duration} (pending : e.Pending delay)
    (same : SameTimer e after) : after.Pending delay := by
  cases pending with
  | running past timers absent =>
      refine .running (Nat.le_trans past same.now) ?_ (same.not_mem absent)
      rw [same.timers, same.generation, timers]
  | queued timers once =>
      refine .queued (same.timers.trans timers) ?_
      rw [same.generation, same.queue, once]

theorem Watched.of_same (watched : e.Watched) (same : SameTimer e after) : after.Watched := by
  cases watched with
  | timed set timer read lasting pending =>
      refine .timed (same.generation.symm ▸ set) ?_ (same.power.trans read) ?_
        (pending.of_same same)
      · rw [same.timer, same.generation, timer]
      · rw [same.lasting, lasting]
  | resting set timer read lasting idle =>
      refine .resting (same.generation.symm ▸ set) (same.timer.trans timer)
        (same.power.trans read) ?_ (idle.of_same same)
      rw [same.lasting, lasting]
  | fresh timer generation idle =>
      exact .fresh (same.timer.trans timer) (same.generation.trans generation)
        (idle.of_same same)

/-! ## What the watched timer is -/

theorem Watched.timer_of_mem (watched : e.Watched) {timer : PowerTimer}
    (member : timer ∈ e.timers) :
    timer.generation = e.dispatcher.generation ∧
      e.dispatcher.timer = some timer.generation ∧
      .powerTimer e.dispatcher.generation ∉ e.queue ∧ e.timers = [timer] := by
  cases watched with
  | timed _ set _ _ pending =>
      cases pending with
      | running _ timers absent =>
          rw [timers, List.mem_singleton] at member
          subst member
          exact ⟨rfl, set, absent, timers⟩
      | queued timers =>
          rw [timers] at member
          exact absurd member List.not_mem_nil
  | resting _ _ _ _ idle =>
      rw [idle.timers] at member
      exact absurd member List.not_mem_nil
  | fresh _ _ idle =>
      rw [idle.timers] at member
      exact absurd member List.not_mem_nil

/-- A message of the present generation is the only one, and the lamp waits for it. -/
theorem Watched.of_mem_queue (watched : e.Watched)
    (member : .powerTimer e.dispatcher.generation ∈ e.queue) :
    e.timers = [] ∧ ∃ power delay, e.dispatcher.state.powerState = .ok power ∧
      e.dispatcher.lasting power = some delay := by
  cases watched with
  | timed _ _ read lasting pending =>
      cases pending with
      | running _ _ absent => exact absurd member absent
      | queued timers => exact ⟨timers, _, _, read, lasting⟩
  | resting _ _ _ _ idle => exact absurd member idle.queue
  | fresh _ _ idle => exact absurd member idle.queue

/-- An expired timer has its message in the queue instead. -/
theorem Watched.fire (watched : e.Watched) {timer : PowerTimer} (member : timer ∈ e.timers) :
    (e.fire timer).Watched := by
  obtain ⟨same, set, absent, alone⟩ := watched.timer_of_mem member
  cases watched with
  | timed begun present read lasting =>
      have timers : (e.fire timer).timers = [] := by
        show e.timers.erase timer = []
        rw [alone, List.erase_cons_head]
      have once : (e.fire timer).queue.count (.powerTimer e.dispatcher.generation) = 1 := by
        show (e.queue ++ [Request.powerTimer timer.generation]).count _ = 1
        rw [same, List.count_append, List.count_eq_zero.mpr absent, List.count_singleton_self]
      exact .timed begun present read lasting (.queued timers once)
  | resting _ none =>
      rw [none] at set
      cases set
  | fresh none =>
      rw [none] at set
      cases set

/-! ## Handling a request -/

theorem foldl_retime_of_untimed {effects : List DispatchEffect}
    (untimed : ∀ effect ∈ effects, !effect.isTimer) (now : Moment) (timers : List PowerTimer) :
    effects.foldl (retime now) timers = timers := by
  induction effects generalizing timers with
  | nil => rfl
  | cons effect later ih =>
      have first : retime now timers effect = timers := by
        have quiet := untimed effect List.mem_cons_self
        cases effect <;> first | rfl | cases quiet
      rw [List.foldl_cons, first]
      exact ih (fun other member => untimed other (List.mem_cons_of_mem _ member)) timers

/-- A change of power stops the timer that runs, and starts the one for the new state. -/
theorem foldl_retime_powerEffects {d : Dispatcher} {timers : List PowerTimer}
    (known : ∀ timer ∈ timers, d.timer = some timer.generation) (now : Moment)
    (power : PowerState) :
    (d.powerEffects power).foldl (retime now) timers =
      (d.lasting power).toList.map fun delay =>
        ⟨d.generation + 1, now + waitLength delay.nanos⟩ := by
  have stopped : (d.timer.toList.map DispatchEffect.stopTimer).foldl (retime now) timers = [] := by
    cases running : d.timer with
    | none =>
        refine List.eq_nil_iff_forall_not_mem.mpr fun timer member => ?_
        have absent := known timer member
        rw [running] at absent
        cases absent
    | some generation =>
        refine List.filter_eq_nil_iff.mpr fun timer member other => ?_
        have same := known timer member
        rw [running] at same
        exact (decide_eq_true_iff.mp other) (Option.some.inj same).symm
  rw [Dispatcher.powerEffects, List.foldl_append, stopped]
  cases d.lasting power <;> rfl

theorem watched_of_powered (d : Dispatcher) (power : PowerState)
    (set : e.dispatcher = d.powered power)
    (timers : e.timers = (d.lasting power).toList.map fun delay =>
      ⟨d.generation + 1, e.now + waitLength delay.nanos⟩)
    (new : .powerTimer (d.generation + 1) ∉ e.queue) : e.Watched := by
  have begun : 0 < e.dispatcher.generation := by
    rw [set]
    exact Nat.succ_pos _
  have read : e.dispatcher.state.powerState = .ok power := by
    rw [set, Dispatcher.powerState_powered]
  have lasts : e.dispatcher.lasting power = d.lasting power := by
    rw [set]
    rfl
  have timer : e.dispatcher.timer =
      (d.lasting power).map fun _ => e.dispatcher.generation := by
    rw [set]
    rfl
  have absent : .powerTimer e.dispatcher.generation ∉ e.queue := by
    rw [set]
    exact new
  cases lasting : d.lasting power with
  | none =>
      rw [lasting] at timers lasts timer
      exact .resting begun timer read lasts ⟨timers, absent⟩
  | some delay =>
      rw [lasting] at timers lasts timer
      refine .timed begun timer read lasts (.running (Nat.le_refl e.now) ?_ absent)
      rw [timers, set]
      rfl

theorem watched_step {request : Request} {later : List Request}
    (valid : e.dispatcher.Valid) (running : e.stopped = false)
    (queued : e.queue = request :: later) (watched : e.Watched) (past : e.Past)
    (ordinary : request ≠ .stop) : e.step.Watched ∧ e.step.Past := by
  obtain ⟨sessions, answers, done⟩ := step_eq running queued
  have timing := Dispatcher.timing_handle valid request
  have bounded (generation : Nat) (member : .powerTimer generation ∈ later) :
      generation ≤ e.dispatcher.generation :=
    past generation (queued ▸ List.mem_cons_of_mem request member)
  have new : .powerTimer (e.dispatcher.generation + 1) ∉ later := fun member =>
    Nat.not_succ_le_self _ (bounded _ member)
  have known (timer : PowerTimer) (member : timer ∈ e.timers) :
      e.dispatcher.timer = some timer.generation := (watched.timer_of_mem member).2.1
  constructor
  · rw [done]
    generalize e.dispatcher.handle request = outcome at timing
    obtain ⟨next, effects⟩ := outcome
    simp only at timing ⊢
    cases timing with
    | quiet other _ generation timer lasting power untimed =>
        refine watched.of_same ⟨generation, timer, lasting, power,
          foldl_retime_of_untimed untimed _ _, Nat.le_refl _, ?_⟩
        rw [queued, List.count_cons_of_ne other]
    | @set _ power told _ _ _ untimed =>
        refine watched_of_powered e.dispatcher power rfl ?_ new
        simp only [List.foldl_append, foldl_retime_of_untimed untimed,
          foldl_retime_powerEffects known]
    | @complete current power read completion =>
        -- The message is in the queue, so its timer has expired and nothing is left to stop.
        have timers : e.timers = [] :=
          (watched.of_mem_queue (queued ▸ List.mem_cons_self)).1
        refine watched_of_powered { e.dispatcher with timer := none } power rfl ?_ new
        exact foldl_retime_powerEffects (by simp [timers]) _ _
    | settled read rest =>
        -- A lamp at rest waits for no message of the present generation.
        obtain ⟨-, power, delay, read', lasting⟩ :=
          watched.of_mem_queue (queued ▸ List.mem_cons_self)
        obtain rfl := Except.ok.inj (read.symm.trans read')
        rw [Dispatcher.lasting_eq_none e.dispatcher rest] at lasting
        cases lasting
    | stop => exact absurd rfl ordinary
  · intro generation member
    rw [done] at member ⊢
    exact Nat.le_trans (bounded generation member) timing.generation_le

end

/-! ## Runs -/

/-- As long as requests are handled, the timer is watched. -/
theorem Reaches.watched {d : Dispatcher} {handled : List Request} {e : Emulation}
    (valid : d.Valid) (new : d.generation = 0) (unset : d.timer = none)
    (run : Reaches { dispatcher := d } handled e) (going : e.stopped = false) :
    e.Watched ∧ e.Past := by
  induction run with
  | refl => exact ⟨.fresh unset new ⟨rfl, List.not_mem_nil⟩, nofun⟩
  | @push handled e request run ordinary ih =>
      obtain ⟨watched, past⟩ := ih going
      have other : Request.powerTimer e.dispatcher.generation ∉ [request] := fun member =>
        ordinary _ (List.mem_singleton.mp member).symm
      constructor
      · refine watched.of_same ⟨rfl, rfl, rfl, rfl, rfl, Nat.le_refl _, ?_⟩
        show (e.queue ++ [request]).count _ = _
        rw [List.count_append, List.count_eq_zero.mpr other, Nat.add_zero]
      · intro generation member
        rcases List.mem_append.mp member with earlier | asked
        · exact past generation earlier
        · exact absurd (List.mem_singleton.mp asked).symm (ordinary generation)
  | @handle handled later e request run running queued ih =>
      obtain ⟨watched, past⟩ := ih running
      have tracked := (run.traced valid rfl rfl).dispatcher
      obtain ⟨sessions, answers, done⟩ := step_eq running queued
      have ordinary : request ≠ .stop := by
        rw [done] at going
        exact of_decide_eq_false going
      exact watched_step (tracked ▸ valid.run handled) running queued watched past ordinary
  | drop run stopped ih => exact absurd (stopped.symm.trans going) (by decide)
  | @expire handled e timer run member ih =>
      obtain ⟨watched, past⟩ := ih going
      refine ⟨watched.fire member, ?_⟩
      intro generation queued
      rcases List.mem_append.mp queued with earlier | expired
      · exact past generation earlier
      · cases List.mem_singleton.mp expired
        exact Nat.le_of_eq (watched.timer_of_mem member).1
  | wait run later ih =>
      obtain ⟨watched, past⟩ := ih going
      exact ⟨watched.of_same ⟨rfl, rfl, rfl, rfl, rfl, later, rfl⟩, past⟩
  | sessions table run ih =>
      obtain ⟨watched, past⟩ := ih going
      exact ⟨watched.of_same ⟨rfl, rfl, rfl, rfl, rfl, Nat.le_refl _, rfl⟩, past⟩

/-- As long as the power has not been set, the lamp stays as it was at the start, whatever that
was, and no timer is pending. -/
theorem idle_of_reaches {c : EmulatorConfig} {start e : Emulation} {handled : List Request}
    (accepted : ofConfig c = .ok start) (run : start.Reaches handled e)
    (running : e.stopped = false) (unset : e.dispatcher.generation = 0) :
    e.Idle ∧ ∃ power, e.dispatcher.state.powerState = .ok power ∧ power.name = c.power := by
  obtain ⟨d, read, rfl⟩ := ofConfig_eq accepted
  obtain ⟨model, state, -, set, dEq⟩ := Dispatcher.ofConfig_eq_ok read
  have valid : d.Valid := Dispatcher.valid_ofConfig read
  have tracked := (run.traced valid rfl rfl).dispatcher
  obtain ⟨watched, -⟩ := run.watched valid (by rw [dEq]) (by rw [dEq]) running
  constructor
  · cases watched with
    | timed begun => exact absurd unset (Nat.ne_of_gt begun)
    | resting begun => exact absurd unset (Nat.ne_of_gt begun)
    | fresh _ _ idle => exact idle
  · obtain ⟨power, named, power_eq⟩ := valid.state.exists_power
    have unmoved : (d.run handled).state.powerState = d.state.powerState := by
      refine (Dispatcher.resting_of_generation_eq valid ?_).2
      rw [← tracked, unset, dEq]
    refine ⟨power, by rw [tracked, unmoved, power_eq], ?_⟩
    rw [← named, dEq]
    exact (ProjectorState.get_ofConfig set .power).2

/-- While the lamp warms up or cools down, exactly one timer is pending, and at any other time
none is, if the lamp was at rest at the start or the power has been set since. -/
theorem pending_of_reaches {c : EmulatorConfig} {start e : Emulation} {handled : List Request}
    (accepted : ofConfig c = .ok start) (run : start.Reaches handled e)
    (running : e.stopped = false)
    (begun : (c.power ≠ "Warming" ∧ c.power ≠ "Cooling") ∨ 0 < e.dispatcher.generation) :
    ∃ power, e.dispatcher.state.powerState = .ok power ∧
      (power = .warming → e.Pending c.warmupTime) ∧
      (power = .cooling → e.Pending c.cooldown) ∧
      (power.isTransitional = false → e.Idle) := by
  rcases Nat.eq_zero_or_pos e.dispatcher.generation with unset | set
  · obtain ⟨idle, power, read, configured⟩ := idle_of_reaches accepted run running unset
    obtain ⟨notWarming, notCooling⟩ :=
      begun.resolve_right (Nat.not_lt_of_le (Nat.le_of_eq unset))
    refine ⟨power, read, ?_, ?_, fun _ => idle⟩
    · rintro rfl
      exact absurd configured.symm notWarming
    · rintro rfl
      exact absurd configured.symm notCooling
  obtain ⟨d, read, rfl⟩ := ofConfig_eq accepted
  obtain ⟨model, state, -, -, dEq⟩ := Dispatcher.ofConfig_eq_ok read
  have valid : d.Valid := Dispatcher.valid_ofConfig read
  have tracked := (run.traced valid rfl rfl).dispatcher
  have warmup : e.dispatcher.lasting .warming = some c.warmupTime := by
    rw [tracked, Dispatcher.lasting_run valid, dEq]
    rfl
  have cooldown : e.dispatcher.lasting .cooling = some c.cooldown := by
    rw [tracked, Dispatcher.lasting_run valid, dEq]
    rfl
  obtain ⟨watched, -⟩ := run.watched valid (by rw [dEq]) (by rw [dEq]) running
  cases watched with
  | @timed power delay _ _ power_eq lasting pending =>
      refine ⟨power, power_eq, ?_, ?_, ?_⟩
      · rintro rfl
        rw [warmup] at lasting
        exact Option.some.inj lasting ▸ pending
      · rintro rfl
        rw [cooldown] at lasting
        exact Option.some.inj lasting ▸ pending
      · intro rest
        rw [Dispatcher.lasting_eq_none e.dispatcher rest] at lasting
        cases lasting
  | @resting power _ _ power_eq lasting idle =>
      refine ⟨power, power_eq, ?_, ?_, fun _ => idle⟩
      · rintro rfl
        rw [warmup] at lasting
        cases lasting
      · rintro rfl
        rw [cooldown] at lasting
        cases lasting
  | fresh _ generation => exact absurd generation (Nat.ne_of_gt set)

/-- A projector that is switched on warms up, and its timer is pending when it has expired. -/
theorem pending_of_reaches_on :
    let on : Packet := ⟨.basicCommand, .ofChars 'P' 'W', [0x31], by decide, by decide, by decide⟩
    ∃ start e, ofConfig {} = .ok start ∧ start.Reaches [.packet 1 on] e ∧ e.timers = [] ∧
      e.dispatcher.state.powerState = .ok .warming ∧
      ∃ power, e.dispatcher.state.powerState = .ok power ∧
        (power = .warming → e.Pending (.ofSeconds 10)) ∧
        (power = .cooling → e.Pending (.ofSeconds 10)) ∧
        (power.isTransitional = false → e.Idle) := by
  intro on
  let switched (start : Emulation) := (start.push (.packet 1 on)).step
  let expired (start : Emulation) := (switched start).fire ⟨1, 10000000000⟩
  have computed : ∃ start, ofConfig {} = .ok start ∧ start.stopped = false ∧ start.queue = [] ∧
      ⟨1, 10000000000⟩ ∈ (switched start).timers ∧ (expired start).stopped = false ∧
      (expired start).timers = [] ∧
      (expired start).dispatcher.state.get .power = PowerState.warming.name :=
    ⟨_, rfl, by decide +kernel⟩
  obtain ⟨start, accepted, fresh, empty, running, going, timers, named⟩ := computed
  have asked : (start.push (.packet 1 on)).queue = [.packet 1 on] := by
    rw [push, empty]
    rfl
  have notTimer (generation : Nat) : .packet 1 on ≠ Request.powerTimer generation :=
    Request.noConfusion
  have run : start.Reaches [.packet 1 on] (expired start) :=
    .expire (.handle (.push .refl notTimer) fresh asked) running
  have warming : (expired start).dispatcher.state.powerState = .ok .warming :=
    PowerState.ofName_eq_ok.mpr named
  exact ⟨start, expired start, accepted, run, timers, warming,
    pending_of_reaches accepted run going (.inl (by decide))⟩

/-- A projector can be warming up when it is started, and then no timer is pending. -/
theorem not_pending_of_startedWarming :
    ∃ start, ofConfig { power := "Warming" } = .ok start ∧ start.Reaches [] start ∧
      start.stopped = false ∧ start.dispatcher.state.powerState = .ok .warming ∧
      ∀ delay, ¬ start.Pending delay := by
  have computed : ∃ start, ofConfig { power := "Warming" } = .ok start ∧ start.stopped = false ∧
      start.queue = [] ∧ start.timers = [] ∧
      start.dispatcher.state.get .power = PowerState.warming.name :=
    ⟨_, rfl, by decide +kernel⟩
  obtain ⟨start, accepted, going, queue, timers, named⟩ := computed
  refine ⟨start, accepted, .refl, going, PowerState.ofName_eq_ok.mpr named, ?_⟩
  intro delay pending
  cases pending with
  | running _ running =>
      rw [timers] at running
      cases running
  | queued _ once =>
      rw [queue] at once
      cases once

end Emulation

end ProjectorControl
