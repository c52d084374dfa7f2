import Mathlib.Data.List.Basic
import ProjectorControl.Proofs.Client.Switching

/-!
# What a caller may rely on

The projector that a client switches is not to be trusted: it may answer anything, at any time.
`PowerGoal.Sound` says what holds nevertheless: of what is sent, of the result, and of what
happens when an exchange goes wrong.  It holds of every sequence (`PowerGoal.Sequence.sound`),
and so of whatever a client does.
-/

namespace ProjectorControl


section Reliance

variable {goal : PowerGoal} {limit : Duration} {e : LoggedExchange}
  {log queries : List LoggedExchange} {r : Except CallFailure PowerState}

/-- The last exchange was a query, and a state was reported. -/
def LastReports (log : List LoggedExchange) (state : PowerState) : Prop :=
  ∃ earlier q, log = earlier ++ [q] ∧ q.Reports state

/-- An exchange that goes wrong ends it all, and its fault is the result. -/
def StopsAtFault (goal : PowerGoal) (log : List LoggedExchange)
    (r : Except CallFailure PowerState) : Prop :=
  ∀ before e after fault, log = before ++ e :: after → e.Fails goal fault →
    after = [] ∧ r = .error (.fault fault)

namespace PowerGoal

/-- Success is the last state that was reported, and a state that was wanted. -/
def Succeeds (goal : PowerGoal) (final : Bool) (log : List LoggedExchange)
    (r : Except CallFailure PowerState) : Prop :=
  ∀ state, r = .ok state →
    LastReports log state ∧ (state = goal.reached ∨ (state = goal.nearing ∧ final = false))

/-- The last state that was reported decides, unless a wait has run out.  A call that is broken off
because the end of a wait lies beyond the range of the clock has no result. -/
def Decided (goal : PowerGoal) (final : Bool) (limit : Duration) (log : List LoggedExchange)
    (r : Except CallFailure PowerState) : Prop :=
  (∃ state, LastReports log state ∧
    ((r = (goal.verdict state).mapError .fault ∧ (state = goal.nearing → final = false)) ∨
      (r = .error (.fault (Call.unsettled limit)) ∧ state.isTransitional = true))) ∨
  (r = .error .clockOverflow ∧ ∃ e ∈ log, Call.clockRange ≤ e.finished + limit.nanos)

/-- What holds of the exchanges and of the result when the lamp is switched. -/
structure Sound (goal : PowerGoal) (final : Bool) (limit : Duration)
    (log : List LoggedExchange) (r : Except CallFailure PowerState) : Prop where
  /-- Nothing is sent but queries and the command. -/
  sends : ∀ e ∈ log, e.Asks ∨ e.Commands goal
  /-- The command is sent once at most. -/
  once : ∀ before e after, log = before ++ e :: after → e.Commands goal →
    ∀ other ∈ before ++ after, ¬ other.Commands goal
  /-- The command is sent right after the state was reported in which it is heeded. -/
  heeded : ∀ before e after, log = before ++ e :: after → e.Commands goal →
    LastReports before goal.start
  /-- Success is what was reported. -/
  success : goal.Succeeds final log r
  /-- If nothing goes wrong, the last report decides. -/
  decided : (∀ e ∈ log, ∀ fault, ¬ e.Fails goal fault) → goal.Decided final limit log r
  /-- What goes wrong is told at once. -/
  stops : StopsAtFault goal log r

end PowerGoal

namespace LoggedExchange

theorem Asks.not_commands (asks : e.Asks) (goal : PowerGoal) : ¬ e.Commands goal := by
  rintro ⟨command, named, carried⟩
  obtain ⟨query, asked, sent⟩ := asks
  have differ : (Command.ofName StatusField.power.queryName []).toOption.map (·.packet) ≠
      (Command.ofName goal.commandName []).toOption.map (·.packet) := by
    cases goal <;> decide +kernel
  rw [asked, named] at differ
  exact differ (congrArg some (sent.trans carried.symm))

theorem Reports.not_fails {state : PowerState} (reports : e.Reports state) (fault : Error) :
    ¬ e.Fails goal fault := by
  rintro (⟨-, failed⟩ | ⟨commands, -⟩)
  · cases reports.told.symm.trans failed
  · exact reports.asks.not_commands goal commands

theorem Commands.not_fails {response : Response} (commands : e.Commands goal)
    (heeded : e.response goal.commandName = .ok response) (fault : Error) :
    ¬ e.Fails goal fault := by
  rintro (⟨asks, -⟩ | ⟨-, failed⟩)
  · exact asks.not_commands goal commands
  · cases heeded.symm.trans failed

end LoggedExchange

namespace StopsAtFault

theorem single (told : ∀ fault, e.Fails goal fault → r = .error (.fault fault)) :
    StopsAtFault goal [e] r := by
  intro before e' after fault cut fails
  cases before with
  | nil =>
      cases cut
      exact ⟨rfl, told fault fails⟩
  | cons _ rest => cases rest <;> cases cut

theorem cons (fine : ∀ fault, ¬ e.Fails goal fault) (rest : StopsAtFault goal log r) :
    StopsAtFault goal (e :: log) r := by
  intro before e' after fault cut fails
  cases before with
  | nil =>
      cases cut
      exact absurd fails (fine fault)
  | cons _ before =>
      cases cut
      exact rest before e' after fault rfl fails

theorem append (fine : ∀ q ∈ queries, ∀ fault, ¬ q.Fails goal fault)
    (rest : StopsAtFault goal log r) : StopsAtFault goal (queries ++ log) r := by
  induction queries with
  | nil => exact rest
  | cons q queries ih =>
      exact (ih fun q' member => fine q' (.tail q member)).cons (fine q (.head queries))

end StopsAtFault

namespace Watch

theorem asks (watch : Watch limit queries r) : ∀ q ∈ queries, q.Asks := by
  induction watch with
  | told reports | late reports | endless reports => simpa using reports.asks
  | failed asks => simpa using asks
  | next reports _ ih => exact List.forall_mem_cons.2 ⟨reports.asks, ih⟩

theorem lastReports {state : PowerState} (watch : Watch limit queries r) (told : r = .ok state) :
    LastReports queries state := by
  induction watch with
  | told reports =>
      cases told
      exact ⟨[], _, rfl, reports⟩
  | failed | late | endless => cases told
  | next reports _ ih =>
      obtain ⟨earlier, q, rfl, last⟩ := ih told
      exact ⟨_ :: earlier, q, rfl, last⟩

theorem not_fails {state : PowerState} (watch : Watch limit queries r) (told : r = .ok state) :
    ∀ q ∈ queries, ∀ fault, ¬ q.Fails goal fault := by
  induction watch with
  | told reports => simpa using fun fault => reports.not_fails fault
  | failed | late | endless => cases told
  | next reports _ ih => exact List.forall_mem_cons.2 ⟨reports.not_fails, ih told⟩

theorem stops (watch : Watch limit queries r) : StopsAtFault goal queries (goal.finish r) := by
  induction watch with
  | told reports | late reports | endless reports =>
      exact .single fun fault fails => absurd fails (reports.not_fails fault)
  | failed asks failed =>
      refine .single fun fault fails => ?_
      obtain ⟨-, failed'⟩ | ⟨commands, -⟩ := fails
      · cases failed.symm.trans failed'
        rfl
      · exact absurd commands (asks.not_commands goal)
  | next reports _ ih => exact ih.cons reports.not_fails

/-- If nothing goes wrong, the result is the last state, or a wait has run out. -/
theorem decided (watch : Watch limit queries r)
    (fine : ∀ q ∈ queries, ∀ fault, ¬ q.Fails goal fault) :
    (∃ state, LastReports queries state ∧
      (r = .ok state ∨
        (r = .error (.fault (Call.unsettled limit)) ∧ state.isTransitional = true))) ∨
    (r = .error .clockOverflow ∧ ∃ q ∈ queries, Call.clockRange ≤ q.finished + limit.nanos) := by
  induction watch with
  | told reports => exact .inl ⟨_, ⟨[], _, rfl, reports⟩, .inl rfl⟩
  | failed asks failed => exact absurd (.inl ⟨asks, failed⟩) (fine _ (.head []) _)
  | late reports moving => exact .inl ⟨_, ⟨[], _, rfl, reports⟩, .inr ⟨rfl, moving⟩⟩
  | endless reports beyond => exact .inr ⟨rfl, _, .head [], beyond⟩
  | next _ _ ih =>
      obtain ⟨state, ⟨earlier, q, rfl, reports⟩, result⟩ | ⟨rfl, q, member, beyond⟩ :=
        ih fun q member => fine q (.tail _ member)
      · exact .inl ⟨state, ⟨_ :: earlier, q, rfl, reports⟩, result⟩
      · exact .inr ⟨rfl, q, .tail _ member, beyond⟩

end Watch

theorem LastReports.append {state : PowerState} (last : LastReports log state)
    (before : List LoggedExchange) : LastReports (before ++ log) state := by
  obtain ⟨earlier, q, rfl, reports⟩ := last
  exact ⟨before ++ earlier, q, (List.append_assoc ..).symm, reports⟩

namespace PowerGoal

variable {final : Bool}

theorem verdict_ok {last state : PowerState} (told : goal.verdict last = .ok state) :
    last = state ∧ (state = goal.reached ∨ state = goal.nearing) := by
  unfold verdict at told
  split at told
  next => cases told
  next =>
    split at told
    next good =>
      cases told
      exact ⟨rfl, good⟩
    next => cases told

theorem finish_ok {state : PowerState} (told : goal.finish r = .ok state) :
    r = .ok state ∧ (state = goal.reached ∨ state = goal.nearing) := by
  cases r with
  | error failure => cases told
  | ok last =>
      change (goal.verdict last).mapError _ = _ at told
      cases given : goal.verdict last with
      | error fault => rw [given] at told; cases told
      | ok state' =>
          rw [given] at told
          cases told
          obtain ⟨rfl, good⟩ := verdict_ok given
          exact ⟨rfl, good⟩

/-- A lamp on its way is a result only for a caller who does not wait for it. -/
theorem final_eq_false {state : PowerState} (enough : final → r ≠ .ok goal.nearing)
    (told : r = .ok state) (near : state = goal.nearing) : final = false :=
  Bool.eq_false_iff.2 fun waits => enough waits (near ▸ told)

theorem Succeeds.error (failure : CallFailure) : goal.Succeeds final log (.error failure) :=
  fun _ told => by cases told

theorem succeeds_of_watch (watch : Watch limit queries r)
    (enough : final → r ≠ .ok goal.nearing) : goal.Succeeds final queries (goal.finish r) := by
  intro state told
  obtain ⟨rfl, good⟩ := finish_ok told
  exact ⟨watch.lastReports rfl, good.imp_right fun near => ⟨near, final_eq_false enough rfl near⟩⟩

theorem decided_of_watch (watch : Watch limit queries r) (enough : final → r ≠ .ok goal.nearing)
    (fine : ∀ q ∈ queries, ∀ fault, ¬ q.Fails goal fault) :
    goal.Decided final limit queries (goal.finish r) := by
  obtain ⟨state, last, rfl | ⟨rfl, moving⟩⟩ | ⟨rfl, beyond⟩ := watch.decided fine
  · exact .inl ⟨state, last, .inl ⟨rfl, final_eq_false enough rfl⟩⟩
  · exact .inl ⟨state, last, .inr ⟨rfl, moving⟩⟩
  · exact .inr ⟨rfl, beyond⟩

/-- A series of queries. -/
theorem sound_of_watch (watch : Watch limit queries r) (enough : final → r ≠ .ok goal.nearing) :
    goal.Sound final limit queries (goal.finish r) where
  sends q member := .inl (watch.asks q member)
  once before e after cut commands := by
    have asks := watch.asks e (cut ▸ List.mem_append_right _ (.head after))
    exact absurd commands (asks.not_commands goal)
  heeded before e after cut commands := by
    have asks := watch.asks e (cut ▸ List.mem_append_right _ (.head after))
    exact absurd commands (asks.not_commands goal)
  success := succeeds_of_watch watch enough
  decided := decided_of_watch watch enough
  stops := watch.stops

/-- The command after a series of queries, and what is sent then. -/
theorem sound_of_command {after : List LoggedExchange}
    (first : Watch limit queries (.ok goal.start)) (commands : e.Commands goal)
    (asked : ∀ q ∈ after, q.Asks) (success : goal.Succeeds final (e :: after) r)
    (decided : (∀ q ∈ e :: after, ∀ fault, ¬ q.Fails goal fault) →
      goal.Decided final limit (e :: after) r)
    (stops : StopsAtFault goal (e :: after) r) :
    goal.Sound final limit (queries ++ e :: after) r := by
  have quiet : ∀ q ∈ queries ++ after, ¬ q.Commands goal := fun q member =>
    ((List.mem_append.1 member).elim (first.asks q) (asked q)).not_commands goal
  -- There is but one place for a command.
  have place : ∀ before e' after', queries ++ e :: after = before ++ e' :: after' →
      e'.Commands goal → queries = before ∧ after = after' := by
    intro before e' after' cut commands'
    have alone : e' ∉ queries ++ after := fun member => quiet e' member commands'
    obtain ⟨rfl, -, rfl⟩ := (List.append_cons_inj_of_notMem
      (fun member => alone (List.mem_append_left _ member))
      (fun member => alone (List.mem_append_right _ member))).1 cut
    exact ⟨rfl, rfl⟩
  refine ⟨fun q member => ?_, fun before e' after' cut commands' => ?_,
    fun before e' after' cut commands' => ?_, fun state told => ?_, fun fine => ?_,
    .append (first.not_fails rfl) stops⟩
  · rcases List.mem_append.1 member with asked' | sent
    · exact .inl (first.asks q asked')
    · rcases List.mem_cons.1 sent with rfl | later
      · exact .inr commands
      · exact .inl (asked q later)
  · obtain ⟨rfl, rfl⟩ := place _ _ _ cut commands'
    exact quiet
  · obtain ⟨rfl, rfl⟩ := place _ _ _ cut commands'
    exact first.lastReports rfl
  · exact ⟨(success state told).1.append queries, (success state told).2⟩
  · obtain ⟨state, last, result⟩ | ⟨rfl, e', member, beyond⟩ :=
      decided fun q member => fine q (List.mem_append_right _ member)
    · exact .inl ⟨state, last.append queries, result⟩
    · exact .inr ⟨rfl, e', List.mem_append_right _ member, beyond⟩

/-- Every sequence is sound. -/
theorem Sequence.sound (sequence : goal.Sequence final limit log r) :
    goal.Sound final limit log r := by
  cases sequence with
  | spared watch _ enough => exact sound_of_watch watch enough
  | refused first commands failed =>
      refine sound_of_command first commands (List.forall_mem_nil _) (.error _)
        (fun fine => absurd (.inr ⟨commands, failed⟩) (fine _ (.head []) _)) (.single ?_)
      rintro fault (⟨asks, -⟩ | ⟨-, failed'⟩)
      · exact absurd commands (asks.not_commands goal)
      · cases failed.symm.trans failed'
        rfl
  | endless first commands heeded beyond =>
      exact sound_of_command first commands (List.forall_mem_nil _) (.error _)
        (fun _ => .inr ⟨rfl, _, .head [], beyond⟩)
        (.single fun fault fails => absurd fails (commands.not_fails heeded fault))
  | commanded first commands heeded watch enough =>
      refine sound_of_command first commands watch.asks (fun state told => ?_) (fun fine => ?_)
        (watch.stops.cons (commands.not_fails heeded))
      · obtain ⟨last, good⟩ := succeeds_of_watch watch enough state told
        exact ⟨last.append [_], good⟩
      · obtain ⟨state, last, result⟩ | ⟨result, e', member, beyond⟩ :=
          decided_of_watch watch enough fun q member => fine q (.tail _ member)
        · exact .inl ⟨state, last.append [_], result⟩
        · exact .inr ⟨result, e', .tail _ member, beyond⟩

end PowerGoal

end Reliance

namespace Call

variable {τ : Type} [Transport τ]

theorem SameLogged.switch (goal : PowerGoal) (final : Bool) (limit : Option Duration) :
    SameLogged (goal.switch final limit : Call (Logged τ) PowerState)
      (goal.switch final limit) := by
  refine .andThen .powerStatus fun first =>
    .andThen ?_ fun settled => .andThen ?_ fun _ => .ofExcept _
  · unfold PowerGoal.settle
    split
    · exact .waitForStablePower _
    · exact .result _
  · unfold PowerGoal.act
    split
    · refine .andThen (.transactByName _ _) fun _ => ?_
      split
      · exact .waitForStablePower _
      · exact .powerStatus
    · exact .result _

/-- Switching is sound whatever the projector answers, and whenever. -/
theorem switch_sound (goal : PowerGoal) (final : Bool) (limit : Option Duration) (c : Client τ) :
    let done := goal.call final limit c.logged
    goal.call final limit c = (done.1, done.2.unlogged) ∧
      goal.Sound final (limit.getD c.stablePowerTimeout) done.2.transport.log done.1 := by
  obtain ⟨exchanges, logs, sequence⟩ := goal.switch_sequence final limit c.logged
  rw [goal.call_eq, goal.call_eq]
  refine ⟨SameLogged.switch goal final limit c.logged, ?_⟩
  rw [logs.log]
  exact sequence.sound

/-- Switching on, against any projector: the client sends nothing but queries and at most one
`power.on`, which comes right after a report of standby; what it tells its caller is the last
report, unless an exchange went wrong or a wait ran out.  A wait whose end the clock cannot hold is
none of these.  It breaks the call off, so that the caller is told nothing at all, and
`CallFailure.clockOverflow` stands for that. -/
theorem powerOn_sound (final : Bool) (limit : Option Duration) (c : Client τ) :
    let done := powerOn final limit c.logged
    powerOn final limit c = (done.1, done.2.unlogged) ∧
      PowerGoal.on.Sound final (limit.getD c.stablePowerTimeout) done.2.transport.log done.1 :=
  switch_sound .on final limit c

end Call

end ProjectorControl
