import ProjectorControl.Proofs.Transport.Exchange

/-!
# How a transport ends

A transport ends once.  `StreamTransport.ending?` reads off an event, and what the transport
does at it, whether it is one that ends a transport: a shutdown, or an event at which a call
fails.  The first of them ends the transport, and none behind it changes anything
(`Step.terminal_eq`).

From then on the transport fails fast (`StreamTransport.FailsFast`).  All it does is to fail
calls, and all of them fail alike.  As long as callers wait for their turn and for their answer,
a failed call leaves nothing behind: its connection is dropped (`StreamTransport.Released`).
-/

namespace ProjectorControl

namespace Outcome

/-- What those are told who wait for the end. -/
def result : Outcome → Except Error Unit
  | .clean => .ok ()
  | .failed fault => .error fault

/-- What a caller is told. -/
def refusal : Outcome → Error
  | .clean => .transportClosed
  | .failed fault => fault

theorem waited?_some (outcome : Outcome) :
    Terminal.waited? (some outcome) = some outcome.result := by
  cases outcome <;> rfl

theorem fault_some (outcome : Outcome) : Terminal.fault (some outcome) = outcome.refusal := by
  cases outcome <;> rfl

end Outcome

/-- The fault of an answer. -/
def StreamEffect.fault? : StreamEffect → Option Error
  | .answer (.error fault) => some fault
  | .answer (.ok _) | .send _ | .received _ => none

namespace StreamTransport

/-- The events that happen to a transport, each with what the transport does at it. -/
def trace (t : StreamTransport) : List StreamEvent → List (StreamEvent × List StreamEffect)
  | [] => []
  | event :: later => (event, (t.step event).2) :: (t.step event).1.trace later

/-- How an event would end a transport: it is a shutdown, or a call fails at it. -/
def ending? : StreamEvent × List StreamEffect → Option Outcome
  | (.shutdown outcome, _) => some outcome
  | (_, effects) => (effects.findSome? StreamEffect.fault?).map .failed

/-- What a transport does that has ended: it tells how, refuses calls, and fails the call under
way as soon as it is looked at. -/
structure FailsFast (t : StreamTransport) (outcome : Outcome) : Prop where
  tells : t.terminal.waited? = some outcome.result
  refuses : ∀ packet, t.step (.call packet) = (t, [.answer (.error outcome.refusal)])
  fails : ∀ event : StreamEvent, event.isLook = true → t.pending ≠ none →
    t.step event =
      ({ t with inbox := none, pending := none }, [.answer (.error outcome.refusal)])

/-- Whether an event can happen while callers wait for their turn and for their answer. -/
def Admits (t : StreamTransport) : StreamEvent → Prop
  | .call _ => t.pending = none
  | .abandon => False
  | .taken _ | .sendFailed _ | .arrived _ | .finished _ | .expired | .shutdown _ | .poll => True

/-- All callers wait for their turn and for their answer. -/
def Orderly (t : StreamTransport) : List StreamEvent → Prop
  | [] => True
  | event :: later => t.Admits event ∧ (t.step event).1.Orderly later

/-- A transport that has ended, and on which nobody calls, has dropped its connection. -/
def Released (t : StreamTransport) : Prop :=
  t.terminal ≠ none → t.pending = none → t.inbox = none

variable {t after : StreamTransport} {event : StreamEvent} {effects : List StreamEffect}
  {outcome : Outcome}

/-! ## One event -/

theorem ending?_of_isLook (look : event.isLook = true) :
    ending? (event, effects) = (effects.findSome? StreamEffect.fault?).map .failed := by
  cases event with
  | call | shutdown | abandon => cases look
  | taken | sendFailed | arrived | finished | expired | poll => rfl

theorem fault?_lookEffects (sends : List Bytes) (reads : List Packet) (verdict : Verdict) :
    (sends.map StreamEffect.send ++ lookEffects reads verdict).findSome? StreamEffect.fault? =
      verdict.effects.findSome? StreamEffect.fault? := by
  have sending : (sends.map StreamEffect.send).findSome? StreamEffect.fault? = none := by
    simp [StreamEffect.fault?]
  have reading : (reads.map StreamEffect.received).findSome? StreamEffect.fault? = none := by
    simp [StreamEffect.fault?]
  rw [lookEffects, List.findSome?_append, List.findSome?_append, sending, reading]
  rfl

/-- An event ends a transport unless it has ended before. -/
theorem Step.terminal_eq (step : t.Step event effects after) :
    after.terminal = t.terminal.or (ending? (event, effects)) := by
  -- Once there is an outcome, nothing else counts.
  have kept (ended : t.terminal ≠ none) :
      t.terminal = t.terminal.or (ending? (event, effects)) := by
    obtain ⟨outcome, ended⟩ := Option.ne_none_iff_exists'.mp ended
    rw [ended, Option.some_or]
  cases step with
  | refused ended => exact kept ended
  | failed _ ended => exact kept ended
  | shutAgain ended => exact kept ended
  | busy => exact (Option.or_none ..).symm
  | begun => exact (Option.or_none ..).symm
  | abandoned => exact (Option.or_none ..).symm
  | idle look =>
      rw [ending?_of_isLook look]
      exact (Option.or_none ..).symm
  | shutBusy alive => rw [alive, Option.none_or, ending?]
  | shutIdle alive => rw [alive, Option.none_or, ending?]
  | looked look alive _ _ looked =>
      rw [ending?_of_isLook look, fault?_lookEffects, alive, Option.none_or]
      cases looked with
      | waits => exact alive
      | answers => exact alive
      | fails =>
          simp only [settled, fail, alive]
          rfl

/-- A transport that has ended does nothing but fail calls. -/
theorem Step.effects_of_ended (step : t.Step event effects after)
    (ended : t.terminal = some outcome) :
    ∀ effect ∈ effects, effect = .answer (.error outcome.refusal) := by
  have fault : t.terminal.fault = outcome.refusal := by rw [ended, outcome.fault_some]
  intro effect member
  cases step with
  | busy | begun | idle | shutBusy | shutIdle | shutAgain | abandoned => cases member
  | looked _ alive => cases alive.symm.trans ended
  | refused => rw [List.mem_singleton.mp member, fault]
  | failed => rw [List.mem_singleton.mp member, fault]

theorem Valid.failsFast (valid : t.Valid) (ended : t.terminal = some outcome) :
    t.FailsFast outcome where
  tells := by rw [ended, outcome.waited?_some]
  refuses packet := by
    rw [← outcome.fault_some, ← ended]
    simp only [step, begin, ended]
  fails event look busy := by
    have step := exists_step valid event
    generalize t.step event = stepped at step ⊢
    obtain ⟨after, effects⟩ := stepped
    simp only at step
    rw [← outcome.fault_some, ← ended]
    cases step with
    | refused | busy | begun | shutBusy | shutIdle | shutAgain | abandoned => cases look
    | looked _ alive => cases alive.symm.trans ended
    | idle _ idle => exact absurd idle busy
    | failed => rfl

theorem Step.released (step : t.Step event effects after) (admits : t.Admits event)
    (released : t.Released) : after.Released := by
  intro ended idle
  cases step with
  | refused => exact released ended idle
  | busy => exact released ended idle
  | shutAgain => exact released ended idle
  | begun alive => exact absurd alive ended
  | failed => rfl
  | idle => rw [released ended idle, Option.map_none]
  | shutBusy _ busy => exact absurd idle busy
  | shutIdle => rfl
  | abandoned => exact admits.elim
  | looked _ alive _ _ looked =>
      cases looked with
      | waits => cases idle
      | answers => exact absurd alive ended
      | fails => rfl

/-- A call that fails has ended the transport, or found it ended, and is told how. -/
theorem Step.of_fault (step : t.Step event effects after) (admits : t.Admits event)
    (released : t.Released) {fault : Error} (failed : .answer (.error fault) ∈ effects) :
    (∃ outcome, after.terminal = some outcome ∧ outcome.refusal = fault) ∧
      after.pending = none ∧ after.inbox = none := by
  have told (ended : t.terminal ≠ none) (same : t.terminal.fault = fault) :
      ∃ outcome, t.terminal = some outcome ∧ outcome.refusal = fault := by
    obtain ⟨outcome, ended⟩ := Option.ne_none_iff_exists'.mp ended
    exact ⟨outcome, ended, by rw [← outcome.fault_some, ← ended, same]⟩
  cases step with
  | busy | begun | idle | shutBusy | shutIdle | shutAgain | abandoned => cases failed
  | refused ended =>
      cases List.mem_singleton.mp failed
      exact ⟨told ended rfl, admits, released ended admits⟩
  | failed _ ended =>
      cases List.mem_singleton.mp failed
      exact ⟨told ended rfl, rfl, rfl⟩
  | looked _ alive _ _ looked =>
      cases looked with
      | waits => simp [lookEffects, Verdict.effects] at failed
      | answers => simp [lookEffects, Verdict.effects] at failed
      | fails =>
          simp only [lookEffects, Verdict.effects, List.mem_append, List.mem_map, reduceCtorEq,
            and_false, exists_false, false_or, List.mem_singleton, StreamEffect.answer.injEq,
            Except.error.injEq] at failed
          subst failed
          refine ⟨⟨.failed _, ?_, rfl⟩, rfl, rfl⟩
          simp only [settled, fail, alive]
          rfl

/-! ## All events -/

theorem Valid.run (valid : t.Valid) (events : List StreamEvent) : (t.run events).1.Valid := by
  induction events generalizing t with
  | nil => exact valid
  | cons event later ih => exact ih ((exists_step valid event).valid valid)

/-- A transport ends as the first event says that ends it. -/
theorem terminal_run (valid : t.Valid) (events : List StreamEvent) :
    (t.run events).1.terminal = t.terminal.or ((t.trace events).findSome? ending?) := by
  induction events generalizing t with
  | nil => exact (Option.or_none ..).symm
  | cons event later ih =>
      have step := exists_step valid event
      rw [StreamTransport.run, ih (step.valid valid), step.terminal_eq, trace, List.findSome?_cons,
        Option.or_assoc]
      cases ending? (event, (t.step event).2) <;> rfl

theorem effects_run_of_ended (valid : t.Valid) (ended : t.terminal = some outcome)
    (events : List StreamEvent) :
    ∀ effect ∈ (t.run events).2, effect = .answer (.error outcome.refusal) := by
  induction events generalizing t with
  | nil => nofun
  | cons event later ih =>
      have step := exists_step valid event
      have still : (t.step event).1.terminal = some outcome := by
        rw [step.terminal_eq, ended, Option.some_or]
      intro effect member
      rcases List.mem_append.mp member with now | then_
      · exact step.effects_of_ended ended effect now
      · exact ih (step.valid valid) still effect then_

theorem Released.run (released : t.Released) (valid : t.Valid) {events : List StreamEvent}
    (orderly : t.Orderly events) : (t.run events).1.Released := by
  induction events generalizing t with
  | nil => exact released
  | cons event later ih =>
      have step := exists_step valid event
      exact ih (step.released orderly.1 released) (step.valid valid) orderly.2

/-- A transport ends as the first event says that shuts it down or fails a call, in whatever
order things happen, and whoever waits is told so.  Once it has ended it stays so.  Nothing is
sent, and all calls fail alike, those that come later at once and the one under way as soon as
it is looked at.  If callers wait for their turn and for their answer, every call that fails
leaves a transport that has ended, for the reason that the caller is told, and has dropped its
connection. -/
theorem ends_once {inbox : Inbox} (idle : t.Idle inbox) (events : List StreamEvent) :
    (t.run events).1.terminal = (t.trace events).findSome? ending? ∧
    (t.run events).1.terminal.waited? =
      ((t.trace events).findSome? ending?).map Outcome.result ∧
    (∀ outcome, (t.run events).1.terminal = some outcome → ∀ later,
      let done := (t.run events).1.run later
      done.1.terminal = some outcome ∧ done.1.FailsFast outcome ∧
        ∀ effect ∈ done.2, effect = .answer (.error outcome.refusal)) ∧
    (t.Orderly events → ∀ event, (t.run events).1.Admits event →
      ∀ fault, .answer (.error fault) ∈ ((t.run events).1.step event).2 →
        let after := ((t.run events).1.step event).1
        (∃ outcome, after.terminal = some outcome ∧ outcome.refusal = fault) ∧
          after.pending = none ∧ after.inbox = none) := by
  have valid := idle.valid
  have first := terminal_run valid events
  rw [idle.alive, Option.none_or] at first
  refine ⟨first, ?_, ?_, ?_⟩
  · rw [first]
    cases (t.trace events).findSome? ending? with
    | none => rfl
    | some outcome => exact outcome.waited?_some
  · intro outcome ended later done
    have still : done.1.terminal = some outcome := by
      rw [terminal_run (valid.run events), ended, Option.some_or]
    exact ⟨still, ((valid.run events).run later).failsFast still,
      effects_run_of_ended (valid.run events) ended later⟩
  · intro orderly event admits fault failed
    have released : t.Released := fun ended => absurd idle.alive ended
    exact (exists_step (valid.run events) event).of_fault admits (released.run valid orderly) failed

/-- Half of a query is sent when the transport is shut down, so the query fails, and so does the
next one. -/
theorem ends_once_shutdown :
    let query : Packet :=
      ⟨.advancedCommand, .ofChars 'P' 'W', [], by decide, by decide, by decide⟩
    let t : StreamTransport := ⟨.v4 ⟨127, 0, 0, 1⟩ 20554, .ofSeconds 2, some {}, none, none⟩
    let events : List StreamEvent := [.call query, .taken 3, .shutdown .clean]
    let shut := (t.run events).1
    t.Idle {} ∧ t.Orderly events ∧ shut.Admits .poll ∧ shut.terminal = some .clean ∧
      shut.terminal.waited? = some (.ok ()) ∧ StreamEvent.poll.isLook = true ∧
      shut.pending ≠ none ∧
      shut.step .poll =
        ({ shut with inbox := none, pending := none }, [.answer (.error .transportClosed)]) ∧
      (∀ effect ∈ (shut.run [.poll, .shutdown (.failed .authenticationFailed), .call query]).2,
        effect = .answer (.error .transportClosed)) ∧
      .answer (.error .transportClosed) ∈ (shut.step .poll).2 ∧
      (shut.step .poll).1.inbox = none := by
  intro query t events shut
  have idle : t.Idle {} := ⟨rfl, rfl, rfl⟩
  have orderly : t.Orderly events := ⟨rfl, trivial, trivial, trivial⟩
  have ended : shut.terminal = some .clean := rfl
  have busy : shut.pending ≠ none := nofun
  have told : StreamEffect.answer (.error .transportClosed) ∈ (shut.step .poll).2 :=
    List.mem_singleton_self _
  obtain ⟨-, waited, fast, failing⟩ := ends_once idle events
  obtain ⟨-, failsFast, -⟩ := fast .clean ended []
  obtain ⟨-, -, effects⟩ := fast .clean ended
    [.poll, .shutdown (.failed .authenticationFailed), .call query]
  obtain ⟨-, -, dropped⟩ := failing orderly .poll trivial _ told
  exact ⟨idle, orderly, trivial, ended, waited, rfl, busy, failsFast.fails .poll rfl busy, effects,
    told, dropped⟩

end StreamTransport

end ProjectorControl
