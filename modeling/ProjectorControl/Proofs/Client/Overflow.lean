import ProjectorControl.Client.Connect
import ProjectorControl.Proofs.Client.PowerSafety
import ProjectorControl.Transport.Scripted

/-!
# Deadlines beyond the clock

A wait ends at a deadline, which is found by adding the limit to the time.  A limit may be as long
as any duration, and the clock holds half of that.  So the sum may be out of its range, and then the
caller is told nothing that a caller may expect.

This is all that can go wrong: a call that comes to no wait, or to waits whose ends the clock can
hold, has one of the documented results (`PowerHelper.overflows_iff`).
-/

namespace ProjectorControl

/-! ## Calls about the lamp -/

/-- The calls that may wait for the lamp. -/
inductive PowerHelper where
  /-- Waits until the lamp neither warms up nor cools down. -/
  | wait
  /-- Switches the lamp, and waits until it is there, if asked to. -/
  | switch (goal : PowerGoal) (final : Bool)

namespace PowerHelper

/-- The call. -/
def call {τ : Type} [Transport τ] : PowerHelper → Option Duration → Call τ PowerState
  | wait, limit => Call.waitForStablePower limit
  | switch goal final, limit => goal.call final limit

/-- A call that begins at a moment, and whose exchanges are these, comes to a wait that begins at
another moment. -/
inductive Waits : PowerHelper → Moment → List LoggedExchange → Moment → Prop where
  /-- It is nothing but a wait. -/
  | atOnce {begun log} : Waits .wait begun log begun
  /-- The lamp is on its way, and the command would be forgotten, or the goal is near. -/
  | settling {goal final begun e later state} : e.Reports state →
      state = goal.leaving ∨ (state = goal.nearing ∧ final = true) →
      Waits (.switch goal final) begun (e :: later) e.finished
  /-- The command was sent, and the goal is waited for. -/
  | following {goal begun log e response} : e ∈ log → e.Commands goal →
      e.response goal.commandName = .ok response →
      Waits (.switch goal true) begun log e.finished

/-- What a caller may be told, if the last exchange went wrong with its fault, and else a state or
what is listed for the call. -/
inductive Documented (limit : Duration) (log : List LoggedExchange) :
    PowerHelper → Except CallFailure PowerState → Prop where
  /-- A state. -/
  | told {helper state} : Documented limit log helper (.ok state)
  /-- The lamp has not settled in time. -/
  | late {helper} : Documented limit log helper (.error (.fault (Call.unsettled limit)))
  /-- The lamp cannot be switched. -/
  | emergency {goal final} :
      Documented limit log (.switch goal final) (.error (.fault .emergencyState))
  /-- The lamp has not got where it should. -/
  | unexpected {goal final} {state : PowerState} :
      Documented limit log (.switch goal final) (.error (.fault
        (.unexpectedState s!"projector is {state.name} after {goal.attempt}")))
  /-- An exchange went wrong. -/
  | failed {helper goal before e fault} : log = before ++ [e] → e.Fails goal fault →
      Documented limit log helper (.error (.fault fault))

namespace Documented

variable {limit : Duration} {log : List LoggedExchange} {helper : PowerHelper}
  {r : Except CallFailure PowerState}

theorem append (documented : Documented limit log helper r) (earlier : List LoggedExchange) :
    Documented limit (earlier ++ log) helper r := by
  cases documented with
  | told => exact .told
  | late => exact .late
  | emergency => exact .emergency
  | unexpected => exact .unexpected
  | failed last fails =>
      exact .failed (last ▸ (List.append_assoc ..).symm) fails

theorem verdict (goal : PowerGoal) (final : Bool) (state : PowerState) :
    Documented limit log (.switch goal final) ((goal.verdict state).mapError .fault) := by
  unfold PowerGoal.verdict
  split
  next => exact .emergency
  next =>
    split
    next => exact .told
    next => exact .unexpected

theorem finish {goal : PowerGoal} {final : Bool}
    (documented : Documented limit log (.switch goal final) r) :
    Documented limit log (.switch goal final) (goal.finish r) := by
  cases documented with
  | told => exact verdict goal final _
  | late => exact .late
  | emergency => exact .emergency
  | unexpected => exact .unexpected
  | failed last fails => exact .failed last fails

end Documented

end PowerHelper

open PowerHelper (Documented)

theorem Watch.documented {limit : Duration} {queries : List LoggedExchange}
    {r : Except CallFailure PowerState} (watch : Watch limit queries r) (helper : PowerHelper)
    (inRange : r ≠ .error .clockOverflow) : Documented limit queries helper r := by
  induction watch with
  | told => exact .told
  | @failed e fault asks failed =>
      have fails : e.Fails .on fault := .inl ⟨asks, failed⟩
      exact .failed (List.nil_append [e]).symm fails
  | late => exact .late
  | endless => exact absurd rfl inRange
  | next _ _ ih => exact (ih inRange).append [_]

theorem PowerGoal.Sequence.documented {goal : PowerGoal} {final : Bool} {limit : Duration}
    {log : List LoggedExchange} {r : Except CallFailure PowerState}
    (sequence : goal.Sequence final limit log r) (inRange : r ≠ .error .clockOverflow) :
    Documented limit log (.switch goal final) r := by
  -- A verdict is never that the clock is out of range.
  have watched {r : Except CallFailure PowerState}
      (finished : goal.finish r ≠ .error .clockOverflow) : r ≠ .error .clockOverflow :=
    fun beyond => finished (congrArg goal.finish beyond)
  cases sequence with
  | spared watch => exact (watch.documented _ (watched inRange)).finish
  | refused _ commands failed => exact .failed rfl (.inr ⟨commands, failed⟩)
  | endless => exact absurd rfl inRange
  | commanded _ _ _ watch =>
      exact (((watch.documented _ (watched inRange)).finish).append [_]).append _

/-! ## Where the clock may be out of range -/

namespace Call

variable {τ : Type} [Transport τ] {limit : Option Duration} {timeout : Duration}
  {c : Client (Logged τ)}

theorem powerStatus_inRange (c : Client (Logged τ)) :
    (powerStatus c).1 ≠ .error .clockOverflow := by
  intro beyond
  cases looked : powerStatus c with
  | mk r c' =>
      rw [looked] at beyond
      cases beyond
      obtain ⟨_, _, faulty, -⟩ := powerStatus_failed looked
      cases faulty

theorem waitUntil_inRange (limit : Duration) (deadline : Moment) (c : Client (Logged τ)) :
    (waitUntil limit deadline c).1 ≠ .error .clockOverflow := by
  fun_induction waitUntil limit deadline c with
  | case1 c failure c' looked =>
      obtain ⟨_, _, rfl, -⟩ := powerStatus_failed looked
      rintro ⟨⟩
  | case2 => rintro ⟨⟩
  | case3 => rintro ⟨⟩
  | case4 _ _ _ _ _ _ ih => exact ih

/-- A wait is out of range at once, or not at all. -/
theorem waitForStablePower_overflows_iff (given : limit.getD c.stablePowerTimeout = timeout) :
    (waitForStablePower limit c).1 = .error .clockOverflow ↔
      clockRange ≤ c.now + timeout.nanos := by
  subst given
  unfold waitForStablePower
  dsimp only
  split
  next beyond => exact iff_of_true rfl beyond
  next within => exact iff_of_false (waitUntil_inRange _ _ c) within

/-- Waiting sends nothing but queries. -/
theorem waitForStablePower_asks (limit : Option Duration) (c : Client (Logged τ)) :
    ∃ queries, c.Logs queries (waitForStablePower limit c).2 ∧ ∀ q ∈ queries, q.Asks := by
  obtain ⟨-, ⟨ran, -⟩ | ⟨queries, logs, watch⟩⟩ :=
    waitForStablePower_watch (rfl : limit.getD c.stablePowerTimeout = _)
  · rw [ran]
    exact ⟨[], .refl c, List.forall_mem_nil _⟩
  · exact ⟨queries, logs, watch.asks⟩

end Call

namespace PowerGoal

variable {goal : PowerGoal} {final : Bool} {τ : Type} [Transport τ] {limit : Option Duration}
  {timeout : Duration} {c : Client (Logged τ)}

/-- A wait after the command is out of range. -/
def FollowsTooLate (goal : PowerGoal) (final : Bool) (limit : Duration)
    (log : List LoggedExchange) : Prop :=
  final = true ∧ ∃ e ∈ log, e.Commands goal ∧
    (∃ response, e.response goal.commandName = .ok response) ∧
    Call.clockRange ≤ e.finished + limit.nanos

theorem not_followsTooLate {queries : List LoggedExchange} (asks : ∀ q ∈ queries, q.Asks) :
    ¬ goal.FollowsTooLate final timeout queries := by
  rintro ⟨-, e, member, commands, -⟩
  exact (asks e member).not_commands goal commands

theorem followsTooLate_append {queries more : List LoggedExchange}
    (asks : ∀ q ∈ queries, q.Asks) :
    goal.FollowsTooLate final timeout (queries ++ more) ↔
      goal.FollowsTooLate final timeout more := by
  constructor
  · rintro ⟨waits, e, member, commands, rest⟩
    rcases List.mem_append.mp member with before | after
    · exact absurd commands ((asks e before).not_commands goal)
    · exact ⟨waits, e, after, commands, rest⟩
  · rintro ⟨waits, e, member, rest⟩
    exact ⟨waits, e, List.mem_append_right _ member, rest⟩

/-- The first wait. -/
theorem settle_overflows_iff (goal : PowerGoal) (final : Bool) {e : LoggedExchange}
    (first : PowerState) (given : limit.getD c.stablePowerTimeout = timeout)
    (now : c.now = e.finished) :
    (∃ queries, c.Logs queries (goal.settle final limit first c).2 ∧ ∀ q ∈ queries, q.Asks) ∧
      ((goal.settle final limit first c).1 = .error .clockOverflow ↔
        (first = goal.leaving ∨ (first = goal.nearing ∧ final = true)) ∧
          Call.clockRange ≤ e.finished + timeout.nanos) := by
  unfold settle
  split
  next waits =>
    rw [Call.waitForStablePower_overflows_iff given, now, and_iff_right waits]
    exact ⟨Call.waitForStablePower_asks limit c, Iff.rfl⟩
  next rests =>
    exact ⟨⟨[], .refl c, List.forall_mem_nil _⟩, iff_of_false nofun fun both => rests both.1⟩

/-- The command, and the wait that follows it. -/
theorem act_overflows_iff (goal : PowerGoal) (final : Bool) (settled : PowerState)
    (given : limit.getD c.stablePowerTimeout = timeout) :
    ∃ more, c.Logs more (goal.act final limit settled c).2 ∧
      ((goal.act final limit settled c).1 = .error .clockOverflow ↔
        goal.FollowsTooLate final timeout more) := by
  unfold act
  split
  next =>
    obtain ⟨e, c', commands, -, logs, now, answered⟩ :=
      Call.transactByName_logged (Call.commandName_known goal) c
    cases response : e.response goal.commandName with
    | error fault =>
        rw [Call.andThen_of_error (by rw [answered, response]; rfl)]
        refine ⟨[e], logs, iff_of_false nofun ?_⟩
        rintro ⟨-, e', member, -, ⟨heeded, answer⟩, -⟩
        cases List.mem_singleton.mp member
        cases response.symm.trans answer
    | ok heeded =>
        rw [Call.andThen_of_ok (by rw [answered, response]; rfl)]
        cases final with
        | false =>
            obtain ⟨after, later, -⟩ := Call.powerStatus_watch timeout c'
            exact ⟨e :: after, logs.trans later,
              iff_of_false (Call.powerStatus_inRange c') fun late => nomatch late.1⟩
        | true =>
            obtain ⟨after, later, asks⟩ := Call.waitForStablePower_asks limit c'
            have given' := (congrArg limit.getD logs.stablePowerTimeout).trans given
            refine ⟨e :: after, logs.trans later, ?_⟩
            rw [if_pos rfl, Call.waitForStablePower_overflows_iff given', now]
            constructor
            · exact fun beyond => ⟨rfl, e, .head after, commands, ⟨heeded, response⟩, beyond⟩
            · rintro ⟨-, e', member, commands', -, beyond⟩
              rcases List.mem_cons.mp member with rfl | inside
              · exact beyond
              · exact absurd commands' ((asks e' inside).not_commands goal)
  next =>
    exact ⟨[], .refl c, iff_of_false nofun (not_followsTooLate (List.forall_mem_nil _))⟩

theorem finish_overflows_iff {r : Except CallFailure PowerState} :
    goal.finish r = .error .clockOverflow ↔ r = .error .clockOverflow := by
  cases r with
  | error failure => exact Iff.rfl
  | ok last =>
      refine iff_of_false (fun beyond => ?_) nofun
      change (goal.verdict last).mapError _ = _ at beyond
      generalize goal.verdict last = told at beyond
      cases told <;> cases beyond

theorem waits_iff {begun : Moment} {e : LoggedExchange} {first : PowerState}
    (reports : e.Reports first) (later : List LoggedExchange) :
    (∃ moment, PowerHelper.Waits (.switch goal final) begun (e :: later) moment ∧
      Call.clockRange ≤ moment + timeout.nanos) ↔
      ((first = goal.leaving ∨ (first = goal.nearing ∧ final = true)) ∧
        Call.clockRange ≤ e.finished + timeout.nanos) ∨
      goal.FollowsTooLate final timeout (e :: later) := by
  constructor
  · rintro ⟨moment, waits, beyond⟩
    cases waits with
    | settling reports' moving =>
        cases reports.told.symm.trans reports'.told
        exact .inl ⟨moving, beyond⟩
    | following member commands heeded =>
        exact .inr ⟨rfl, _, member, commands, ⟨_, heeded⟩, beyond⟩
  · rintro (⟨moving, beyond⟩ | ⟨rfl, e', member, commands, ⟨_, heeded⟩, beyond⟩)
    · exact ⟨_, .settling reports moving, beyond⟩
    · exact ⟨_, .following member commands heeded, beyond⟩

/-- Switching is out of range just if one of its waits is. -/
theorem switch_overflows_iff (goal : PowerGoal) (final : Bool) (begun : Moment)
    (given : limit.getD c.stablePowerTimeout = timeout) :
    ∃ log, c.Logs log (goal.switch final limit c).2 ∧
      ((goal.switch final limit c).1 = .error .clockOverflow ↔
        ∃ moment, PowerHelper.Waits (.switch goal final) begun log moment ∧
          Call.clockRange ≤ moment + timeout.nanos) := by
  unfold switch
  cases looked : Call.powerStatus c with
  | mk r c' =>
  cases r with
  | error failure =>
      obtain ⟨e, fault, rfl, logs, asks, failed⟩ := Call.powerStatus_failed looked
      rw [Call.andThen_of_error looked]
      refine ⟨[e], logs, iff_of_false nofun ?_⟩
      rintro ⟨_, waits, -⟩
      cases waits with
      | settling reports => cases failed.symm.trans reports.told
      | following member commands =>
          cases List.mem_singleton.mp member
          exact asks.not_commands goal commands
  | ok first =>
      obtain ⟨e, -, logs, now, reports⟩ := Call.powerStatus_told looked
      have given' := (congrArg limit.getD logs.stablePowerTimeout).trans given
      obtain ⟨⟨queries, later, asks⟩, settles⟩ :=
        goal.settle_overflows_iff final first given' now
      have asked : ∀ q ∈ e :: queries, q.Asks := List.forall_mem_cons.mpr ⟨reports.asks, asks⟩
      rw [Call.andThen_of_ok looked]
      cases settling : goal.settle final limit first c' with
      | mk r c'' =>
      rw [settling] at later settles
      cases r with
      | error failure =>
          rw [Call.andThen_of_error settling]
          refine ⟨e :: queries, logs.trans later, ?_⟩
          rw [waits_iff reports, or_iff_left (not_followsTooLate asked)]
          exact settles
      | ok settled =>
          have given'' := (congrArg limit.getD later.stablePowerTimeout).trans given'
          obtain ⟨more, last, acts⟩ := goal.act_overflows_iff final settled given''
          rw [Call.andThen_of_ok settling, andThen_verdict]
          refine ⟨e :: queries ++ more, (logs.trans later).trans last, ?_⟩
          rw [List.cons_append, waits_iff reports,
            or_iff_right (fun late => nomatch settles.mpr late), finish_overflows_iff, acts]
          exact (followsTooLate_append asked).symm

end PowerGoal

/-! ## All calls -/

namespace PowerHelper

variable {τ : Type} [Transport τ]

theorem sameLogged (helper : PowerHelper) (limit : Option Duration) :
    Call.SameLogged (helper.call limit : Call (Logged τ) PowerState) (helper.call limit) := by
  cases helper with
  | wait => exact .waitForStablePower limit
  | switch goal final =>
      change Call.SameLogged (goal.call final limit) (goal.call final limit)
      rw [goal.call_eq, goal.call_eq]
      exact .switch goal final limit

/-- A call is out of range just if it comes to a wait whose end is. -/
theorem call_overflows_iff (helper : PowerHelper) (limit : Option Duration) (c : Client τ) :
    (helper.call limit c.logged).1 = .error .clockOverflow ↔
      ∃ moment, helper.Waits c.now (helper.call limit c.logged).2.transport.log moment ∧
        Call.clockRange ≤ moment + (limit.getD c.stablePowerTimeout).nanos := by
  have given : limit.getD c.logged.stablePowerTimeout = limit.getD c.stablePowerTimeout := rfl
  cases helper with
  | wait =>
      refine (Call.waitForStablePower_overflows_iff given).trans ⟨fun beyond => ?_, ?_⟩
      · exact ⟨c.now, .atOnce, beyond⟩
      · rintro ⟨_, ⟨⟩, beyond⟩
        exact beyond
  | switch goal final =>
      dsimp only [call]
      rw [goal.call_eq]
      obtain ⟨log, logs, overflows⟩ := goal.switch_overflows_iff final c.now given
      have same : _ = log := logs.log
      rw [same]
      exact overflows

/-- The clock can hold the end of each wait that a call comes to. -/
def InRange (helper : PowerHelper) (limit : Option Duration) (c : Client τ) : Prop :=
  ∀ moment, helper.Waits c.now (helper.call limit c.logged).2.transport.log moment →
    moment + (limit.getD c.stablePowerTimeout).nanos < Call.clockRange

theorem inRange_iff (helper : PowerHelper) (limit : Option Duration) (c : Client τ) :
    helper.InRange limit c ↔ (helper.call limit c.logged).1 ≠ .error .clockOverflow := by
  rw [ne_eq, call_overflows_iff]
  constructor
  · rintro within ⟨moment, waits, beyond⟩
    exact Nat.not_le_of_lt (within moment waits) beyond
  · exact fun inside moment waits =>
      Nat.lt_of_not_le fun beyond => inside ⟨moment, waits, beyond⟩

/-- A call fails because a deadline lies beyond the range of the clock just if it comes to a wait
whose limit is too long for that, and whatever else comes of it is documented.  This holds of every
transport, whatever it reports and however long it takes, and of every limit. -/
theorem overflows_iff (helper : PowerHelper) (limit : Option Duration) (c : Client τ) :
    let timeout := limit.getD c.stablePowerTimeout
    let done := helper.call limit c.logged
    helper.call limit c = (done.1, done.2.unlogged) ∧
    (done.1 = .error .clockOverflow ↔
      ∃ moment, helper.Waits c.now done.2.transport.log moment ∧
        Call.clockRange ≤ moment + timeout.nanos) ∧
    (done.1 ≠ .error .clockOverflow → helper.Documented timeout done.2.transport.log done.1) := by
  refine ⟨helper.sameLogged limit c.logged, helper.call_overflows_iff limit c, ?_⟩
  cases helper with
  | wait =>
      intro inRange
      have given : limit.getD c.logged.stablePowerTimeout = limit.getD c.stablePowerTimeout := rfl
      obtain ⟨-, ⟨ran, -⟩ | ⟨queries, logs, watch⟩⟩ := Call.waitForStablePower_watch given
      · exact absurd (congrArg Prod.fst ran) inRange
      · have log : _ = queries := logs.log
        dsimp only [call] at log ⊢
        rw [log]
        exact watch.documented .wait inRange
  | switch goal final =>
      dsimp only [call]
      rw [goal.call_eq]
      obtain ⟨log, logs, sequence⟩ := goal.switch_sequence final limit c.logged
      have same : _ = log := logs.log
      intro inRange
      rw [same]
      exact sequence.documented inRange

/-- Settings may ask for a wait of 2^64 - 1 seconds, and a client is made from them.  When it waits,
the deadline is out of range before anything is sent; when it switches the lamp on, as soon as the
lamp is reported to cool down.  The same limit may be given with a call. -/
theorem exists_overflow :
    ∃ (config : ClientConfig) (client : Client (ClientTransport Net.Isolated Empty))
      (other : Client ScriptedTransport),
      ClientConfig.ofValue? (.record [("stable_power_timeout",
        .record [("secs", .int 18446744073709551615), ("nanos", .int 0)])]) = some config ∧
      Client.connect config ({} : Net.Isolated) = .ok client ∧
      (wait.call none client).1 = .error .clockOverflow ∧
      other.transport.script = [⟨.echo (some [0x32]), 0, false⟩] ∧
      ((switch .on false).call (some (.ofSeconds 18446744073709551615)) other).1 =
        .error .clockOverflow ∧
      ∀ helper limit log, ¬ Documented limit log helper (.error .clockOverflow) := by
  refine ⟨_, _, { transport := { script := [⟨.echo (some [0x32]), 0, false⟩] } }, rfl, rfl, ?_, rfl,
    ?_, fun _ _ _ => nofun⟩
  · decide +kernel
  · decide +kernel

end PowerHelper

end ProjectorControl
