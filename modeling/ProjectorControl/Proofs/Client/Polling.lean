import Mathlib.Algebra.Order.Floor.Div
import ProjectorControl.Proofs.Client.Switching
import ProjectorControl.Transport.Scripted

/-!
# Polling within a deadline

A client that waits for a lamp looks at it twice a second.  The looks take time too, and the last
one may have to wait for a projector that is slow to answer.  So the deadline is not when the wait
ends but when the client stops to look again:

    looks at     0.0       0.6       0.8    (each takes 0.1 s)
    answers at   0.1       0.7       0.9
    deadline                         0.8

`Looks` is such a series by its rules: the answer to a look either ends the wait, or the client
sleeps, for half a second or until the deadline, and goes on.  `Call.waitUntil_looks` says that
nothing else happens if no query fails.  What the rules come to, the number of looks among it, is
`Polls`.
-/

namespace ProjectorControl

namespace LoggedExchange

/-- The lamp was on its way, and there was time left to look again. -/
structure Waits (e : LoggedExchange) (deadline : Moment) : Prop where
  moving : ∃ state, e.Reports state ∧ state.isTransitional
  early : e.finished < deadline

/-- The answer ends a wait, and this is what the caller is told. -/
inductive Ends (e : LoggedExchange) (limit : Duration) (deadline : Moment) :
    Except CallFailure PowerState → Prop where
  /-- The lamp has settled.  The answer may come at any time. -/
  | settled {state} : e.Reports state → state.isTransitional = false →
      Ends e limit deadline (.ok state)
  /-- The lamp was still on its way when the time was up. -/
  | late {state} : e.Reports state → state.isTransitional → deadline ≤ e.finished →
      Ends e limit deadline (.error (.fault (Call.unsettled limit)))

end LoggedExchange

/-- A series of looks at the lamp that begins at a moment: what the caller is told in the end, and
when. -/
inductive Looks (limit : Duration) (deadline : Moment) :
    Moment → List LoggedExchange → Except CallFailure PowerState → Moment → Prop where
  /-- There is no other look. -/
  | last {e r} : e.Ends limit deadline r → Looks limit deadline e.moment [e] r e.finished
  /-- The next look follows after a sleep. -/
  | next {e more r ended} : e.Waits deadline →
      Looks limit deadline (min (e.finished + Call.powerPollInterval.nanos) deadline) more r
        ended →
      Looks limit deadline e.moment (e :: more) r ended

/-! ## The loop -/

namespace Call

variable {τ : Type} [Transport τ]

/-- A sleep is cut off at the deadline. -/
theorem now_sleep {deadline : Moment} {c : Client τ} (early : c.now < deadline) :
    (sleep (min powerPollInterval.nanos (deadline - c.now)) c).2.now =
      min (c.now + powerPollInterval.nanos) deadline := by
  change c.now + waitLength _ = _
  have short : powerPollInterval.nanos ≤ longestWait := by decide
  rw [waitLength_eq (Nat.le_trans (Nat.min_le_left _ _) short), ← Nat.add_min_add_left,
    Nat.add_sub_of_le (Nat.le_of_lt early)]

/-- If no query fails, the loop is a series of looks. -/
theorem waitUntil_looks (limit : Duration) (deadline : Moment) (c : Client (Logged τ)) :
    ∃ log, c.Logs log (waitUntil limit deadline c).2 ∧
      ((∀ e ∈ log, ∃ state, e.Reports state) →
        Looks limit deadline c.now log (waitUntil limit deadline c).1
          (waitUntil limit deadline c).2.now) := by
  fun_induction waitUntil limit deadline c with
  | case1 c failure c' looked =>
      obtain ⟨e, fault, -, logs, -, failed⟩ := powerStatus_failed looked
      refine ⟨[e], logs, fun answered => ?_⟩
      obtain ⟨state, reports⟩ := answered e (.head _)
      cases failed.symm.trans reports.told
  | case2 c state c' looked settled =>
      obtain ⟨e, moment, logs, now, reports⟩ := powerStatus_told looked
      refine ⟨[e], logs, fun _ => ?_⟩
      rw [now, ← moment]
      exact .last (.settled reports (by simpa using settled))
  | case3 c state c' looked moving late =>
      obtain ⟨e, moment, logs, now, reports⟩ := powerStatus_told looked
      refine ⟨[e], logs, fun _ => ?_⟩
      rw [now, ← moment]
      exact .last (.late reports (by simpa using moving) (now ▸ late))
  | case4 c state c' looked moving early ih =>
      obtain ⟨e, moment, logs, now, reports⟩ := powerStatus_told looked
      obtain ⟨more, later, looks⟩ := ih
      have slept : c'.Logs more _ := ⟨later.log, later.stablePowerTimeout⟩
      refine ⟨e :: more, logs.trans slept, fun answered => ?_⟩
      have early := Nat.lt_of_not_le early
      have rest := looks fun e member => answered e (.tail _ member)
      rw [now_sleep early] at rest
      rw [← moment]
      exact .next ⟨⟨state, reports, by simpa using moving⟩, now ▸ early⟩ (now ▸ rest)

end Call

/-! ## What the rules come to -/

/-- One look less for each interval. -/
theorem ceilDiv_lt {left later interval : Nat} (time : 0 < left) (positive : 0 < interval)
    (shorter : later ≤ left - interval) : later ⌈/⌉ interval < left ⌈/⌉ interval := by
  have cover := (ceilDiv_le_iff_le_mul positive).mp (Nat.le_refl (left ⌈/⌉ interval))
  generalize left ⌈/⌉ interval = n at cover
  cases n with
  | zero => omega
  | succ n =>
      refine Nat.lt_succ_of_le ((ceilDiv_le_iff_le_mul positive).mpr ?_)
      rw [Nat.mul_succ] at cover
      omega

theorem remaining_le {start finished deadline interval : Nat} (forward : start ≤ finished) :
    deadline - min (finished + interval) deadline ≤ deadline - start - interval := by
  omega

/-- What comes of a wait that begins at a moment, if no query fails. -/
structure Polls (limit : Duration) (begun : Moment) (log : List LoggedExchange)
    (r : Except CallFailure PowerState) (ended : Moment) : Prop where
  /-- The first query is made at once. -/
  first : log.head?.map LoggedExchange.moment = some begun
  /-- The wait is decided by the first answer that does not leave both a lamp on its way and time
  to look again. -/
  decided : ∃ before last, log = before ++ [last] ∧
    (∀ e ∈ before, e.Waits (begun + limit.nanos)) ∧ last.Ends limit (begun + limit.nanos) r
  /-- No query is made after the deadline. -/
  starts : ∀ e ∈ log, e.moment ≤ begun + limit.nanos
  /-- Between two queries there is half a second, unless the deadline is nearer. -/
  sleeps : ∀ before e e' after, log = before ++ e :: e' :: after →
    e'.moment = min (e.finished + Call.powerPollInterval.nanos) (begun + limit.nanos)
  /-- There are not many. -/
  count : log.length ≤ limit.nanos ⌈/⌉ Call.powerPollInterval.nanos + 1
  /-- The wait ends with the last of them. -/
  ends : ∀ before last, log = before ++ [last] →
    ended = last.finished ∧ ended ≤ begun + limit.nanos + last.latency
  /-- It does not fail before the deadline. -/
  timeout : ∀ failure, r = .error failure → failure = .fault (Call.unsettled limit) ∧
    ∃ e ∈ log, ∃ state, e.Reports state ∧ state.isTransitional ∧ begun + limit.nanos ≤ e.finished

namespace Looks

variable {limit : Duration} {deadline begun ended : Moment} {log : List LoggedExchange}
  {r : Except CallFailure PowerState}

theorem first (looks : Looks limit deadline begun log r ended) :
    log.head?.map LoggedExchange.moment = some begun := by
  cases looks with
  | last => rfl
  | next => rfl

theorem decided (looks : Looks limit deadline begun log r ended) :
    ∃ before last, log = before ++ [last] ∧ (∀ e ∈ before, e.Waits deadline) ∧
      last.Ends limit deadline r ∧ ended = last.finished := by
  induction looks with
  | @last e _ ends => exact ⟨[], e, rfl, List.forall_mem_nil _, ends, rfl⟩
  | @next e _ _ _ waits _ ih =>
      obtain ⟨before, last, rfl, waited, ends⟩ := ih
      exact ⟨e :: before, last, rfl, List.forall_mem_cons.mpr ⟨waits, waited⟩, ends⟩

theorem starts (looks : Looks limit deadline begun log r ended) (early : begun ≤ deadline) :
    ∀ e ∈ log, e.moment ≤ deadline := by
  induction looks with
  | last => simpa using early
  | next _ _ ih => exact List.forall_mem_cons.mpr ⟨early, ih (Nat.min_le_right _ _)⟩

theorem sleeps (looks : Looks limit deadline begun log r ended) :
    ∀ before e e' after, log = before ++ e :: e' :: after →
      e'.moment = min (e.finished + Call.powerPollInterval.nanos) deadline := by
  induction looks with
  | last =>
      intro before e e' after split
      have length := congrArg List.length split
      simp only [List.length_append, List.length_cons, List.length_nil] at length
      omega
  | next _ rest ih =>
      intro before e e' after split
      cases before with
      | cons _ before => exact ih before e e' after (List.cons.inj split).2
      | nil =>
          obtain ⟨rfl, rfl⟩ := List.cons.inj split
          simpa using rest.first

/-- Each look but the last two is followed by a whole interval of sleep. -/
theorem count (looks : Looks limit deadline begun log r ended) :
    log.length ≤ (deadline - begun) ⌈/⌉ Call.powerPollInterval.nanos + 1 := by
  induction looks with
  | last => exact Nat.le_add_left _ _
  | @next e _ _ _ waits _ ih =>
      have forward : e.moment ≤ e.finished := Nat.le_add_right _ _
      have time := Nat.sub_pos_of_lt (Nat.lt_of_le_of_lt forward waits.early)
      exact Nat.succ_le_succ
        (Nat.le_trans ih (ceilDiv_lt time (by decide) (remaining_le forward)))

/-- What the rules come to when a deadline is a limit away. -/
theorem polls (looks : Looks limit (begun + limit.nanos) begun log r ended) :
    Polls limit begun log r ended := by
  obtain ⟨before, last, rfl, waits, decides, close⟩ := looks.decided
  have starts := looks.starts (Nat.le_add_right _ _)
  have member : last ∈ before ++ [last] := List.mem_append_right _ (.head _)
  refine ⟨looks.first, ⟨before, last, rfl, waits, decides⟩, starts, looks.sleeps, ?_, ?_, ?_⟩
  · simpa using looks.count
  · intro _ other same
    obtain ⟨-, same⟩ := List.append_inj' same rfl
    cases same
    exact ⟨close, close ▸ Nat.add_le_add_right (starts last member) last.latency⟩
  · intro failure failed
    cases decides with
    | settled => cases failed
    | late reports moving late =>
        cases failed
        exact ⟨rfl, last, member, _, reports, moving, late⟩

end Looks

namespace Call

variable {τ : Type} [Transport τ]

/-- A wait whose deadline the clock can hold, on any transport and however long its queries take,
polls within the deadline if none of them fails. -/
theorem waitForStablePower_polls (given : Option Duration) (c : Client τ)
    (representable : c.now + (given.getD c.stablePowerTimeout).nanos < clockRange)
    (answered : ∀ e ∈ (waitForStablePower given c.logged).2.transport.log,
      ∃ state, e.Reports state) :
    let done := waitForStablePower given c.logged
    waitForStablePower given c = (done.1, done.2.unlogged) ∧
      Polls (given.getD c.stablePowerTimeout) c.now done.2.transport.log done.1 done.2.now := by
  refine ⟨SameLogged.waitForStablePower given c.logged, ?_⟩
  have ran : waitForStablePower given c.logged =
      waitUntil (given.getD c.stablePowerTimeout)
        (c.now + (given.getD c.stablePowerTimeout).nanos) c.logged :=
    if_neg (Nat.not_le_of_lt representable)
  rw [ran] at answered ⊢
  obtain ⟨log, logs, looks⟩ := waitUntil_looks (given.getD c.stablePowerTimeout)
    (c.now + (given.getD c.stablePowerTimeout).nanos) c.logged
  have written : _ = log := logs.log
  rw [written] at answered ⊢
  exact (looks answered).polls

/-- A lamp that cools down for longer than the client waits, as at the head of this module: the
third look is at the deadline, and the client fails when it is answered. -/
theorem waitForStablePower_polls_cooling :
    ∃ c : Client ScriptedTransport,
      c.transport.script = [⟨.echo (some [0x32]), 100000000, false⟩] ∧ c.transport.repeatLast ∧
      let done := waitForStablePower (some (.ofMillis 800)) c.logged
      waitForStablePower (some (.ofMillis 800)) c = (done.1, done.2.unlogged) ∧
      Polls (.ofMillis 800) c.now done.2.transport.log done.1 done.2.now ∧
      done.2.transport.log.map (fun e => (e.moment, e.finished)) =
        [(0, 100000000), (600000000, 700000000), (800000000, 900000000)] ∧
      done.1 = .error (.fault (unsettled (.ofMillis 800))) := by
  have computed : ∃ (c : Client ScriptedTransport) (query : Command),
      c.transport.script = [⟨.echo (some [0x32]), 100000000, false⟩] ∧ c.transport.repeatLast ∧
      Command.ofName StatusField.power.queryName [] = .ok query ∧
      c.now + (Duration.ofMillis 800).nanos < clockRange ∧
      let done := waitForStablePower (some (.ofMillis 800)) c.logged
      (∀ e ∈ done.2.transport.log,
        query.packet = e.packet ∧ e.powerState.toOption = some .cooling) ∧
      done.2.transport.log.map (fun e => (e.moment, e.finished)) =
        [(0, 100000000), (600000000, 700000000), (800000000, 900000000)] ∧
      done.1.toOption = none :=
    ⟨{ transport := ⟨[⟨.echo (some [0x32]), 100000000, false⟩], true, [], none⟩ }, _, rfl, rfl, rfl,
      by decide +kernel⟩
  obtain ⟨c, query, script, repeats, named, representable, told, moments, failed⟩ := computed
  have answered : ∀ e ∈ (waitForStablePower (some (.ofMillis 800)) c.logged).2.transport.log,
      ∃ state, e.Reports state := by
    intro e member
    obtain ⟨same, cooling⟩ := told e member
    cases answer : e.powerState with
    | error fault => rw [answer] at cooling; cases cooling
    | ok state => exact ⟨state, ⟨query, named, same⟩, answer⟩
  obtain ⟨unlogged, polls⟩ := waitForStablePower_polls (some (.ofMillis 800)) c
    (by rw [Option.getD_some]; exact representable) answered
  rw [Option.getD_some] at polls
  refine ⟨c, script, repeats, unlogged, polls, moments, ?_⟩
  cases result : (waitForStablePower (some (.ofMillis 800)) c.logged).1 with
  | ok state => rw [result] at failed; cases failed
  | error failure => rw [(polls.timeout failure result).1]

end Call

end ProjectorControl
