import ProjectorControl.Proofs.Projector.Reach
import ProjectorControl.Proofs.Projector.Timing

/-!
# Messages of the power timer

Every message of a timer comes from a timer that some request has started, also if the timer was
to stop when its message was queued already (`Emulation.Reaches.traced`).  So a message moves the
lamp exactly if it comes from the timer of the last request that set the power, and it completes
what that request has begun.  No timer does so twice (`Emulation.timerSafe_of_reaches`).
-/

namespace ProjectorControl

namespace Dispatcher

/-- What holds of the timers of a dispatcher that has handled some requests. -/
structure TimerSafe (d : Dispatcher) (handled : List Request) : Prop where
  /-- A message comes from a timer that was started before. -/
  started : ∀ {earlier generation later},
    handled = earlier ++ .powerTimer generation :: later → d.Started earlier generation
  /-- Timers are told apart by their generations. -/
  distinct : ∀ {earlier request middle request' later generation generation' power power'},
    handled = earlier ++ request :: (middle ++ request' :: later) →
    (d.run earlier).Starts request generation power →
    (d.run (earlier ++ request :: middle)).Starts request' generation' power' →
    generation < generation'
  /-- A message moves the lamp if it comes from the timer of the last request that set the
  power, and only then, and it completes what that request has begun. -/
  completes : ∀ {earlier generation later current next},
    handled = earlier ++ .powerTimer generation :: later →
    ((d.run earlier).Moves (.powerTimer generation) current next ∧ current ≠ next ↔
      d.StartedLast earlier generation current ∧ PowerCompletion current next)
  /-- No timer moves the lamp twice. -/
  once : ∀ {earlier generation middle later current next current' next'},
    handled = earlier ++ .powerTimer generation :: (middle ++ .powerTimer generation :: later) →
    (d.run earlier).Moves (.powerTimer generation) current next → current ≠ next →
    (d.run (earlier ++ .powerTimer generation :: middle)).Moves
      (.powerTimer generation) current' next' → current' = next'

variable {d : Dispatcher}

theorem Started.append {requests : List Request} {generation : Nat}
    (started : d.Started requests generation) (more : List Request) :
    d.Started (requests ++ more) generation := by
  obtain ⟨front, request, back, power, rfl, starts⟩ := started
  exact ⟨front, request, back ++ more, power, by simp, starts⟩

/-- A message moves the lamp only in the generation of its timer. -/
theorem completion_of_moves (valid : d.Valid) {generation : Nat} {current next : PowerState}
    (moves : d.Moves (.powerTimer generation) current next) (changed : current ≠ next) :
    generation = d.generation ∧ PowerCompletion current next := by
  cases powerChange_of_moves valid moves changed with
  | complete completion => exact ⟨rfl, completion⟩

theorem moves_of_completion {current next : PowerState}
    (read : d.state.powerState = .ok current) (completion : PowerCompletion current next) :
    d.Moves (.powerTimer d.generation) current next ∧ current ≠ next := by
  have sets : d.SetsPower (.powerTimer d.generation) next := ⟨current, read, .complete completion⟩
  refine ⟨⟨read, (handle_of_setsPower sets).2⟩, ?_⟩
  cases completion with
  | warm => decide
  | cool => decide

theorem timerSafe_of_started (valid : d.Valid) {handled : List Request}
    (sent : ∀ earlier request later, handled = earlier ++ request :: later →
      .stop ∉ earlier ∧
        ∀ generation, request = .powerTimer generation → d.Started earlier generation) :
    d.TimerSafe handled where
  started split := (sent _ _ _ split).2 _ rfl
  distinct {earlier request middle _ _ _ _ _ _} split first second := by
    have begun := (first.generation_eq (valid.run earlier)).2
    have next := (second.generation_eq (valid.run _)).1
    have grown := generation_handle_le valid earlier request middle
    rw [begun] at grown
    rw [next]
    exact Nat.lt_succ_of_le grown
  completes {earlier generation later current next} split := by
    obtain ⟨going, started⟩ := sent _ _ _ split
    constructor
    · rintro ⟨moves, changed⟩
      obtain ⟨present, completion⟩ := completion_of_moves (valid.run earlier) moves changed
      obtain ⟨power, last, read⟩ :=
        startedLast_of_started valid (started generation rfl) present.symm
      obtain rfl := Except.ok.inj (moves.1.symm.trans read)
      exact ⟨last, completion⟩
    · rintro ⟨last, completion⟩
      obtain ⟨present, read⟩ := last.present valid going
      rw [← present]
      exact moves_of_completion read completion
  once {earlier generation middle _ current next current' next'} split moves changed again := by
    by_cases same : current' = next'
    · exact same
    -- Both times the generation would be the timer's, but the first time ends it.
    have change := powerChange_of_moves (valid.run earlier) moves changed
    have begun := (handle_of_setsPower ⟨current, moves.1, change⟩).1
    obtain ⟨present, -⟩ := completion_of_moves (valid.run earlier) moves changed
    obtain ⟨still, -⟩ := completion_of_moves (valid.run _) again same
    have grown := generation_handle_le valid earlier (.powerTimer generation) middle
    rw [begun, ← present, ← still] at grown
    exact absurd grown (Nat.not_succ_le_self _)

end Dispatcher

namespace Emulation

/-- Where the timers of a projector and their messages come from. -/
structure Traced (d : Dispatcher) (handled : List Request) (e : Emulation) : Prop where
  dispatcher : e.dispatcher = d.run handled
  running : ∀ timer ∈ e.timers, d.Started handled timer.generation
  queued : ∀ generation, .powerTimer generation ∈ e.queue → d.Started handled generation
  going : .stop ∈ handled → e.stopped = true
  handled : ∀ earlier request later, handled = earlier ++ request :: later →
    .stop ∉ earlier ∧
      ∀ generation, request = .powerTimer generation → d.Started earlier generation

theorem Reaches.traced {start e : Emulation} {handled : List Request}
    (valid : start.dispatcher.Valid) (quiet : start.timers = []) (unasked : start.queue = [])
    (run : start.Reaches handled e) : Traced start.dispatcher handled e := by
  induction run with
  | refl =>
      constructor
      · rfl
      · simp [quiet]
      · simp [unasked]
      · simp
      · simp
  | @push handled e request run ordinary ih =>
      refine { ih with queued := ?_ }
      intro generation member
      rcases List.mem_append.mp member with earlier | new
      · exact ih.queued generation earlier
      · exact absurd (List.mem_singleton.mp new).symm (ordinary generation)
  | @handle handled later e request run running queued ih =>
      obtain ⟨sessions, answers, done⟩ := step_eq running queued
      have tracked :
          (e.dispatcher.handle request).1 = start.dispatcher.run (handled ++ [request]) := by
        rw [Dispatcher.run_concat, ih.dispatcher]
      rw [done]
      constructor
      · exact tracked
      · intro timer member
        rcases mem_foldl_retime member with before | ⟨delay, started⟩
        · exact (ih.running timer before).append [request]
        · rw [ih.dispatcher] at started
          obtain ⟨power, starts⟩ := Dispatcher.starts_of_startTimer (valid.run handled) started
          exact ⟨handled, request, [], power, rfl, starts⟩
      · intro generation member
        have waited : .powerTimer generation ∈ e.queue :=
          queued ▸ List.mem_cons_of_mem request member
        exact (ih.queued generation waited).append [request]
      · intro member
        rcases List.mem_append.mp member with before | stop
        · exact absurd ((ih.going before).symm.trans running) (by decide)
        · exact decide_eq_true (List.mem_singleton.mp stop).symm
      · intro earlier last rest split
        -- The request is either the one at hand, which was queued, or an older one.
        rcases List.eq_nil_or_concat rest with rfl | ⟨rest, other, rfl⟩
        · obtain ⟨rfl, same⟩ := List.append_inj' split rfl
          obtain rfl := List.singleton_inj.mp same
          constructor
          · intro member
            exact absurd ((ih.going member).symm.trans running) (by decide)
          · rintro generation rfl
            exact ih.queued generation (queued ▸ List.mem_cons_self)
        · rw [List.concat_eq_append, ← List.cons_append, ← List.append_assoc] at split
          exact ih.handled earlier last rest (List.append_inj' split rfl).1
  | drop run stopped ih => exact { ih with queued := nofun }
  | @expire handled e timer run member ih =>
      refine { ih with running := ?_, queued := ?_ }
      · intro other left
        exact ih.running other (List.mem_of_mem_erase left)
      · intro generation queued
        rcases List.mem_append.mp queued with earlier | new
        · exact ih.queued generation earlier
        · obtain ⟨rfl⟩ := List.mem_singleton.mp new
          exact ih.running timer member
  | wait run later ih => exact { ih with }
  | sessions table run ih => exact { ih with }

/-- When a projector is started, nothing is under way. -/
theorem ofConfig_eq {c : EmulatorConfig} {start : Emulation}
    (accepted : ofConfig c = .ok start) :
    ∃ d, Dispatcher.ofConfig c = .ok d ∧ start = { dispatcher := d } := by
  unfold ofConfig at accepted
  cases read : Dispatcher.ofConfig c with
  | error fault =>
      rw [read] at accepted
      cases accepted
  | ok d =>
      rw [read] at accepted
      cases accepted
      exact ⟨d, rfl, rfl⟩

/-- However requests, expiries and stops of timers are interleaved, no timer of the past moves the
lamp. -/
theorem timerSafe_of_reaches {c : EmulatorConfig} {start e : Emulation} {handled : List Request}
    (accepted : ofConfig c = .ok start) (run : start.Reaches handled e) :
    e.dispatcher = start.dispatcher.run handled ∧ start.dispatcher.TimerSafe handled := by
  obtain ⟨d, read, rfl⟩ := ofConfig_eq accepted
  have valid : d.Valid := Dispatcher.valid_ofConfig read
  have traced := run.traced valid rfl rfl
  exact ⟨traced.dispatcher, Dispatcher.timerSafe_of_started valid traced.handled⟩

/-- The lamp is forced to warm up again while the message of its first timer is on the way.  Only
the second timer switches it on. -/
theorem timerSafe_of_reaches_lateMessage :
    let on : Packet := ⟨.basicCommand, .ofChars 'P' 'W', [0x31], by decide, by decide, by decide⟩
    let handled : List Request :=
      [.packet 1 on, .setStatus 0 .power "Warming", .powerTimer 1, .powerTimer 2]
    ∃ start e, ofConfig {} = .ok start ∧ start.Reaches handled e ∧
      (start.dispatcher.run handled).state.get .power = "On" ∧
      (start.dispatcher.run (handled.take 3)).state.get .power = "Warming" ∧
      e.dispatcher = start.dispatcher.run handled ∧ start.dispatcher.TimerSafe handled := by
  intro on handled
  let force : Request := .setStatus 0 .power "Warming"
  let switched (start : Emulation) := (start.push (.packet 1 on)).step
  let late (start : Emulation) :=
    { (switched start).push force with now := 10000000000 }.fire ⟨1, 10000000000⟩
  let ignored (start : Emulation) := (late start).step.step
  let again (start : Emulation) :=
    { ignored start with now := 20000000000 }.fire ⟨2, 20000000000⟩
  have computed : ∃ start, ofConfig {} = .ok start ∧
      (start.stopped = false ∧ start.queue = []) ∧
      ((switched start).now ≤ 10000000000 ∧ ⟨1, 10000000000⟩ ∈ (switched start).timers) ∧
      ((late start).stopped = false ∧ (late start).queue = [force, .powerTimer 1]) ∧
      ((late start).step.stopped = false ∧ (late start).step.queue = [.powerTimer 1]) ∧
      ((ignored start).now ≤ 20000000000 ∧ ⟨2, 20000000000⟩ ∈ (ignored start).timers) ∧
      ((again start).stopped = false ∧ (again start).queue = [.powerTimer 2]) ∧
      (start.dispatcher.run handled).state.get .power = "On" ∧
      (start.dispatcher.run (handled.take 3)).state.get .power = "Warming" :=
    ⟨_, rfl, by decide +kernel⟩
  obtain ⟨start, accepted, ⟨fresh, empty⟩, ⟨first, running⟩, ⟨live, queued⟩, ⟨live', queued'⟩,
    ⟨second, running'⟩, ⟨live'', queued''⟩, on', warming⟩ := computed
  have asked : (start.push (.packet 1 on)).queue = [.packet 1 on] := by
    rw [push, empty]
    rfl
  have notTimer (generation : Nat) : .packet 1 on ≠ Request.powerTimer generation :=
    Request.noConfusion
  have notTimer' (generation : Nat) : force ≠ .powerTimer generation := Request.noConfusion
  have overtaken : start.Reaches [.packet 1 on] (late start) :=
    .expire (.wait (.push (.handle (.push .refl notTimer) fresh asked) notTimer') first) running
  have stale : start.Reaches [.packet 1 on, force, .powerTimer 1] (ignored start) :=
    .handle (.handle overtaken live queued) live' queued'
  have run : start.Reaches handled (again start).step :=
    .handle (.expire (.wait stale second) running') live'' queued''
  exact ⟨start, _, accepted, run, on', warming, timerSafe_of_reaches accepted run⟩

end Emulation

end ProjectorControl
