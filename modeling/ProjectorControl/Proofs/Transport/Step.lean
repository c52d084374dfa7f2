import ProjectorControl.Proofs.Transport.Reading

/-!
# Steps of a transport

`StreamTransport.Step` lists what an event can do to a transport over a stream, one rule for
each case.  A call is refused by a transport that has ended, ignored by one that is busy, and
begun by any other.  A shutdown is recorded unless there was an end before.  Every other event
makes the transport look at its call: if it has ended, the call fails with what ended it, and
otherwise `Looked` says what comes of it.

The rules presume that a transport has an inbox as long as it has not ended, and that its call
is sound (`StreamTransport.Valid`).  `StreamTransport.exists_step` says that every event follows
one of them, and `Step.valid` that they keep what they presume.
-/

namespace ProjectorControl

namespace StreamEvent

/-- Whether the call is looked at. -/
def isLook : StreamEvent → Bool
  | .call _ | .shutdown _ | .abandon => false
  | .taken _ | .sendFailed _ | .arrived _ | .finished _ | .expired | .poll => true

/-- What an event does to the inbox. -/
def note : StreamEvent → Inbox → Inbox
  | .arrived bytes, inbox => inbox.feed bytes
  | .finished ending, inbox => inbox.finish ending
  | .call _, inbox | .taken _, inbox | .sendFailed _, inbox | .expired, inbox | .shutdown _, inbox
  | .poll, inbox | .abandon, inbox => inbox

/-- How far an event takes a call before it is looked at. -/
def push : StreamEvent → CallPhase → CallPhase
  | .taken count, .sending unsent =>
    match unsent.drop count with
    | [] => .awaitingBasic
    | rest => .sending rest
  | _, phase => phase

/-- The bytes that go to the projector at an event. -/
def given : StreamEvent → CallPhase → List Bytes
  | .taken count, .sending unsent => [unsent.take count]
  | _, _ => []

theorem unsent_push (event : StreamEvent) (phase : CallPhase) :
    (event.given phase).flatten ++ (event.push phase).unsent = phase.unsent := by
  unfold given push
  split
  next count unsent =>
    have whole : unsent.take count ++ unsent.drop count = unsent := List.take_append_drop ..
    rw [List.flatten_singleton]
    cases rest : unsent.drop count with
    | nil => rwa [rest] at whole
    | cons first later => rwa [rest] at whole
  next => rfl

theorem received_push (event : StreamEvent) (phase : CallPhase) :
    (event.push phase).received = phase.received := by
  unfold push
  split
  next count unsent => cases unsent.drop count <;> rfl
  next => rfl

theorem given_eq_nil_or (event : StreamEvent) (phase : CallPhase) :
    event.given phase = [] ∨ phase.received = [] := by
  unfold given
  split
  next => exact .inr rfl
  next => exact .inl rfl

theorem sound_push {sent : Packet} {phase : CallPhase} (event : StreamEvent)
    (sound : phase.Sound sent) : (event.push phase).Sound sent := by
  unfold push
  split
  next count unsent => cases unsent.drop count <;> trivial
  next => exact sound

end StreamEvent

namespace StreamTransport

/-! ## Valid transports -/

/-- A transport that has not ended has an inbox, and a call is sound. -/
structure Valid (t : StreamTransport) : Prop where
  held : t.terminal = none → ∃ inbox, t.inbox = some inbox
  sound : ∀ call, t.pending = some call → call.phase.Sound call.packet

/-- A transport that has not ended, and on which nobody calls. -/
structure Idle (t : StreamTransport) (inbox : Inbox) : Prop where
  alive : t.terminal = none
  idle : t.pending = none
  held : t.inbox = some inbox

theorem Valid.of_idle {t : StreamTransport} (idle : t.pending = none)
    (held : t.terminal = none → ∃ inbox, t.inbox = some inbox) : t.Valid where
  held := held
  sound _ underway := by cases idle.symm.trans underway

theorem Idle.valid {t : StreamTransport} {inbox : Inbox} (idle : t.Idle inbox) : t.Valid :=
  .of_idle idle.idle fun _ => ⟨inbox, idle.held⟩

/-! ## The rules -/

/-- What comes of an event: what the transport does, and the transport afterwards. -/
inductive Step (t : StreamTransport) :
    StreamEvent → List StreamEffect → StreamTransport → Prop where
  | refused {packet : Packet} :
      t.terminal ≠ none → Step t (.call packet) [.answer (.error t.terminal.fault)] t
  | busy {packet : Packet} :
      t.terminal = none → t.pending ≠ none → Step t (.call packet) [] t
  | begun {packet : Packet} :
      t.terminal = none → t.pending = none →
      Step t (.call packet) [] { t with pending := some ⟨packet, .sending packet.bytes⟩ }
  | looked {event : StreamEvent} {sent : Packet} {phase : CallPhase} {inbox : Inbox}
      {reads : List Packet} {verdict : Verdict} :
      event.isLook = true → t.terminal = none → t.pending = some ⟨sent, phase⟩ →
      t.inbox = some inbox → Looked sent (event.push phase) (event.note inbox) reads verdict →
      Step t event ((event.given phase).map .send ++ lookEffects reads verdict)
        (t.settled sent verdict)
  | failed {event : StreamEvent} {call : PendingCall} :
      event.isLook = true → t.terminal ≠ none → t.pending = some call →
      Step t event [.answer (.error t.terminal.fault)] { t with inbox := none, pending := none }
  | idle {event : StreamEvent} :
      event.isLook = true → t.pending = none →
      Step t event [] { t with inbox := t.inbox.map event.note }
  | shutBusy {outcome : Outcome} :
      t.terminal = none → t.pending ≠ none →
      Step t (.shutdown outcome) [] { t with terminal := some outcome }
  | shutIdle {outcome : Outcome} :
      t.terminal = none → t.pending = none →
      Step t (.shutdown outcome) [] { t with terminal := some outcome, inbox := none }
  | shutAgain {outcome : Outcome} : t.terminal ≠ none → Step t (.shutdown outcome) [] t
  | abandoned : Step t .abandon [] { t with pending := none }

variable {t : StreamTransport}

theorem fail_of_ended (ended : t.terminal ≠ none) (fault : Error) :
    t.fail fault = ({ t with inbox := none, pending := none }, [.answer (.error fault)]) := by
  unfold fail Terminal.resolve
  cases terminal : t.terminal with
  | none => exact absurd terminal ended
  | some outcome => rfl

/-- A call is refused, ignored or begun. -/
theorem step_call (valid : t.Valid) (packet : Packet) :
    t.Step (.call packet) (t.begin packet).2 (t.begin packet).1 := by
  obtain ⟨address, limit, inbox, pending, terminal⟩ := t
  cases terminal with
  | some outcome => exact .refused nofun
  | none =>
      cases pending with
      | some call => exact .busy rfl nofun
      | none =>
          obtain ⟨_, rfl⟩ := valid.held rfl
          exact .begun rfl rfl

theorem step_shutdown (t : StreamTransport) (outcome : Outcome) :
    t.Step (.shutdown outcome) [] (t.shutdown outcome) := by
  obtain ⟨address, limit, inbox, pending, terminal⟩ := t
  cases terminal with
  | some first => exact .shutAgain nofun
  | none =>
      cases pending with
      | some call => exact .shutBusy rfl nofun
      | none => exact .shutIdle rfl rfl

/-- An event that takes a call no further makes the transport look at it. -/
theorem step_poll (event : StreamEvent) (look : event.isLook = true) (valid : t.Valid)
    (steady : ∀ call, t.terminal = none → t.pending = some call →
      event.given call.phase = [] ∧ event.push call.phase = call.phase) :
    let noted := { t with inbox := t.inbox.map event.note }
    t.Step event noted.poll.2 noted.poll.1 := by
  intro noted
  cases pending : t.pending with
  | none =>
      rw [poll_idle (t := noted) pending]
      exact .idle look pending
  | some call =>
      by_cases alive : t.terminal = none
      · obtain ⟨inbox, held⟩ := valid.held alive
        have notedHeld : noted.inbox = some (event.note inbox) := by simp [noted, held]
        obtain ⟨reads, verdict, looked, eq⟩ :=
          poll_looked (t := noted) alive pending notedHeld (valid.sound call pending)
        obtain ⟨given, push⟩ := steady call alive pending
        rw [← push] at looked
        have step := Step.looked look alive pending held looked
        rw [given] at step
        rw [eq]
        cases verdict <;> exact step
      · rw [poll_ended (t := noted) alive pending, fail_of_ended (t := noted) alive]
        exact .failed look alive pending

theorem noted_eq {event : StreamEvent} (silent : ∀ inbox, event.note inbox = inbox) :
    { t with inbox := t.inbox.map event.note } = t := by
  have same : event.note = id := funext silent
  rw [same, Option.map_id_fun]
  rfl

theorem give_sending {packet : Packet} {unsent : Bytes} (alive : t.terminal = none)
    (pending : t.pending = some ⟨packet, .sending unsent⟩) (count : Nat) :
    let phase := (StreamEvent.taken count).push (.sending unsent)
    let pushed := { t with pending := some ⟨packet, phase⟩ }
    t.give count = (pushed.poll.1, .send (unsent.take count) :: pushed.poll.2) := by
  obtain ⟨address, limit, inbox, _, _⟩ := t
  subst alive
  subst pending
  rfl

/-- What the projector takes is given to it, and then the call is looked at. -/
theorem step_taken (valid : t.Valid) (count : Nat) :
    t.Step (.taken count) (t.give count).2 (t.give count).1 := by
  by_cases sending : t.terminal = none ∧ ∃ packet unsent, t.pending = some ⟨packet, .sending unsent⟩
  · obtain ⟨alive, packet, unsent, pending⟩ := sending
    obtain ⟨inbox, held⟩ := valid.held alive
    let event := StreamEvent.taken count
    let pushed := { t with pending := some ⟨packet, event.push (.sending unsent)⟩ }
    obtain ⟨reads, verdict, looked, eq⟩ := poll_looked (t := pushed) alive rfl held
      (event.sound_push (valid.sound _ pending))
    rw [give_sending alive pending, eq]
    have step : t.Step event _ _ := .looked rfl alive pending held looked
    cases verdict <;> exact step
  · have waits : t.give count = t.poll := by
      unfold give
      split
      next packet unsent alive pending => exact absurd ⟨alive, packet, unsent, pending⟩ sending
      next => rfl
    have step := step_poll (.taken count) rfl valid ?_
    · rw [waits]
      rwa [noted_eq fun _ => rfl] at step
    · rintro ⟨packet, phase⟩ alive pending
      cases phase with
      | sending unsent => exact absurd ⟨alive, packet, unsent, pending⟩ sending
      | awaitingBasic => exact ⟨rfl, rfl⟩
      | awaitingAdvanced basic => exact ⟨rfl, rfl⟩

/-- What breaks a call off fails it; if it does not concern the call, nothing happens. -/
theorem step_breakOff {event : StreamEvent} {fault : CallPhase → Option Error}
    (look : event.isLook = true) (silent : ∀ inbox, event.note inbox = inbox)
    (steady : ∀ phase, event.given phase = [] ∧ event.push phase = phase) (valid : t.Valid) :
    t.Step event (t.breakOff fault).2 (t.breakOff fault).1 := by
  unfold breakOff
  split
  next call alive pending =>
    obtain ⟨inbox, held⟩ := valid.held alive
    obtain ⟨given, push⟩ := steady call.phase
    split
    next reason broken =>
      have failed : Looked call.packet (event.push call.phase) (event.note inbox) []
          (.fails reason) := .fails (fun none => absurd rfl none) rfl
      have step := Step.looked look alive pending held failed
      rw [given] at step
      exact step
    next spared =>
      have waits : Looked call.packet (event.push call.phase) (event.note inbox) []
          (.waits call.phase inbox) := by
        rw [push, silent]
        exact .waits (valid.sound call pending) rfl (List.append_nil _).symm
          (fun none => absurd rfl none) rfl rfl
      have step := Step.looked look alive pending held waits
      rw [given] at step
      have same : t.settled call.packet (.waits call.phase inbox) = t := by
        simp only [settled, ← pending, ← held]
      rwa [same] at step
  next =>
    have step := step_poll event look valid fun call _ _ => steady call.phase
    rwa [noted_eq silent] at step

/-- Every event follows one of the rules. -/
theorem exists_step (valid : t.Valid) (event : StreamEvent) :
    t.Step event (t.step event).2 (t.step event).1 := by
  cases event with
  | call packet => exact step_call valid packet
  | taken count => exact step_taken valid count
  | sendFailed reason => exact step_breakOff rfl (fun _ => rfl) (fun _ => ⟨rfl, rfl⟩) valid
  | arrived bytes => exact step_poll _ rfl valid fun _ _ _ => ⟨rfl, rfl⟩
  | finished ending => exact step_poll _ rfl valid fun _ _ _ => ⟨rfl, rfl⟩
  | expired => exact step_breakOff rfl (fun _ => rfl) (fun _ => ⟨rfl, rfl⟩) valid
  | shutdown outcome => exact step_shutdown t outcome
  | poll =>
      have step := step_poll .poll rfl valid fun _ _ _ => ⟨rfl, rfl⟩
      rwa [noted_eq fun _ => rfl] at step
  | abandon => exact .abandoned

/-! ## What the rules keep -/

/-- Every step leaves a valid transport. -/
theorem Step.valid {event : StreamEvent} {effects : List StreamEffect} {after : StreamTransport}
    (step : t.Step event effects after) (valid : t.Valid) : after.Valid := by
  cases step with
  | refused => exact valid
  | busy => exact valid
  | shutAgain => exact valid
  | begun alive =>
      refine ⟨valid.held, ?_⟩
      rintro _ ⟨⟩
      trivial
  | looked _ alive _ held looked =>
      cases looked with
      | waits sound =>
          refine ⟨fun _ => ⟨_, rfl⟩, ?_⟩
          rintro _ ⟨⟩
          exact sound
      | answers => exact .of_idle rfl fun _ => ⟨_, rfl⟩
      | fails =>
          refine .of_idle rfl fun none => ?_
          simp [settled, fail, alive, Terminal.resolve] at none
  | failed _ ended => exact .of_idle rfl fun alive => absurd alive ended
  | idle _ idle =>
      refine ⟨fun alive => ?_, fun call pending => valid.sound call pending⟩
      obtain ⟨inbox, held⟩ := valid.held alive
      exact ⟨event.note inbox, by simp [held]⟩
  | shutBusy => exact ⟨fun alive => absurd alive (Option.some_ne_none _), valid.sound⟩
  | shutIdle => exact ⟨fun alive => absurd alive (Option.some_ne_none _), valid.sound⟩
  | abandoned => exact .of_idle rfl valid.held

end StreamTransport

end ProjectorControl
