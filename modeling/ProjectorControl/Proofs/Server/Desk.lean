import ProjectorControl.Proofs.Server.Seat

/-!
# The desk of a server

Clients have their connections, and the owner of a projector has its desk: what the owner asks is
let through, queued among the requests of all others, handled, and answered.  `Desk` is what a
server holds for that, and `Desk.Move` lists what one event can do to it (`Server.move`).

Each event sends its requests to the end of the one queue (`Server.queueing`), and only the
dispatcher takes any from its front (`Server.handling`).
-/

namespace ProjectorControl

open ConnectionEffect (handed)

/-! ## Answers -/

/-- The answer that an effect gives, and the caller whom it is for. -/
def DispatchEffect.answer? : DispatchEffect → Option (Nat × StatusReply)
  | .answer caller reply => some (caller, reply)
  | .send _ _ | .close _ | .startTimer _ _ | .stopTimer _ => none

namespace Dispatcher

/-- The answers among some effects, in order. -/
def answers (effects : List DispatchEffect) : List (Nat × StatusReply) :=
  effects.filterMap DispatchEffect.answer?

theorem answers_append (earlier later : List DispatchEffect) :
    answers (earlier ++ later) = answers earlier ++ answers later :=
  List.filterMap_append

/-- What a dispatcher answers to an inquiry. -/
def answerTo (d : Dispatcher) : Inquiry → StatusReply
  | .set field value => (d.force field value).1.map fun _ => none
  | .get field => .ok (some (d.state.get field))

theorem answers_powerEffects (d : Dispatcher) (power : PowerState) :
    answers (d.powerEffects power) = [] := by
  cases timer : d.timer <;> cases delay : d.lasting power <;>
    simp [answers, powerEffects, DispatchEffect.answer?, timer, delay]

theorem answers_force (d : Dispatcher) (field : StatusField) (value : String) :
    answers (d.force field value).2.2 = [] := by
  have rule := d.forced field value
  generalize d.force field value = outcome at rule
  obtain ⟨result, after, effects⟩ := outcome
  cases rule with
  | power power => exact answers_powerEffects d power
  | noPower | field | unknown => rfl

/-- An inquiry is answered once. -/
theorem answers_handle_toRequest (d : Dispatcher) (caller : Nat) (inquiry : Inquiry) :
    answers (d.handle (inquiry.toRequest caller)).2 = [(caller, d.answerTo inquiry)] := by
  cases inquiry with
  | get field => rfl
  | set field value =>
      have silent := d.answers_force field value
      rw [Inquiry.toRequest, handle]
      generalize forced : d.force field value = outcome at silent
      obtain ⟨result, after, effects⟩ := outcome
      simp only at silent ⊢
      rw [answers_append, silent, answerTo, forced]
      rfl

/-- Nobody is answered but callers. -/
theorem answers_handle_of_caller?_eq_none {d : Dispatcher} (valid : d.Valid) {request : Request}
    (uncalled : request.caller? = none) : answers (d.handle request).2 = [] := by
  have step := step_handle valid request
  generalize d.handle request = outcome at step
  obtain ⟨after, effects⟩ := outcome
  simp only at step ⊢
  cases step with
  | switch => rw [answers_append, answers_powerEffects]; rfl
  | @serve _ _ result => rcases result with _ | (_ | _) <;> rfl
  | complete => exact answers_powerEffects _ _
  | settled | stale => rfl
  | stop => cases timer : d.timer <;> simp [cancelTimer, answers, DispatchEffect.answer?, timer]
  | forcePower | forceField | refuseForce | tell => cases uncalled

end Dispatcher

namespace Emulation

theorem answers_foldl_apply (e : Emulation) (effects : List DispatchEffect) :
    (effects.foldl apply e).answers = e.answers ++ Dispatcher.answers effects := by
  induction effects generalizing e with
  | nil => exact (List.append_nil _).symm
  | cons effect later ih =>
      rw [List.foldl_cons, ih, ← List.singleton_append, Dispatcher.answers_append,
        ← List.append_assoc]
      cases effect <;> simp [apply, Dispatcher.answers, DispatchEffect.answer?]

theorem answers_step {e : Emulation} {request : Request} {later : List Request}
    (running : e.stopped = false) (queued : e.queue = request :: later) :
    e.step.answers = e.answers ++ Dispatcher.answers (e.dispatcher.handle request).2 := by
  simp only [step, queued, handle, running, Bool.false_eq_true, if_false, answers_foldl_apply]

end Emulation

/-! ## Desks -/

/-- The callers of some requests, in order. -/
def callersOf (requests : List Request) : List Nat := requests.filterMap Request.caller?

/-- What a server holds for its owner. -/
structure Desk where
  /-- What handles the requests. -/
  dispatcher : Dispatcher
  /-- The requests that wait. -/
  queue : List Request
  /-- Whether requests are handled no more. -/
  stopped : Bool
  /-- The answers that were given. -/
  answers : List (Nat × StatusReply)
  /-- Inquiries that were let through and are not queued yet. -/
  admitted : List Request
  /-- Callers who are refused. -/
  refused : List Nat
  /-- The callers so far. -/
  callers : Nat

/-- What an event can do to a desk: what the owner asks, what is queued, and what is handled. -/
inductive Desk.Move (s : Desk) : List Inquiry → List Request → List Request → Desk → Prop where
  /-- Requests of nobody are queued, or none. -/
  | queues {requests : List Request} :
      callersOf requests = [] → Move s [] requests [] { s with queue := s.queue ++ requests }
  /-- An inquiry is let through. -/
  | admits (inquiry : Inquiry) :
      Move s [inquiry] [] []
        { s with
          admitted := s.admitted ++ [inquiry.toRequest s.callers]
          callers := s.callers + 1 }
  /-- An inquiry is refused. -/
  | refuses (inquiry : Inquiry) :
      Move s [inquiry] [] []
        { s with refused := s.refused ++ [s.callers], callers := s.callers + 1 }
  /-- An inquiry is queued. -/
  | submits {caller : Nat} {request : Request} :
      request ∈ s.admitted → request.caller? = some caller → s.stopped = false →
      Move s [] [request] []
        { s with
          queue := s.queue ++ [request]
          admitted := s.admitted.filter fun r => r.caller? ≠ some caller }
  /-- An inquiry comes too late to be queued. -/
  | returns {caller : Nat} {request : Request} :
      request ∈ s.admitted → request.caller? = some caller → s.stopped = true →
      Move s [] [] []
        { s with
          admitted := s.admitted.filter fun r => r.caller? ≠ some caller
          refused := s.refused ++ [caller] }
  /-- The first request is handled. -/
  | handles {request : Request} {later : List Request} :
      s.stopped = false → s.queue = request :: later → request ≠ .stop →
      Move s [] [] [request]
        { s with
          dispatcher := (s.dispatcher.handle request).1
          queue := later
          answers := s.answers ++ Dispatcher.answers (s.dispatcher.handle request).2 }
  /-- The first request is to stop.  The callers behind it are refused. -/
  | stops {later : List Request} :
      s.stopped = false → s.queue = .stop :: later →
      Move s [] [] [.stop]
        { s with
          dispatcher := (s.dispatcher.handle .stop).1
          queue := []
          stopped := true
          answers := s.answers ++ Dispatcher.answers (s.dispatcher.handle .stop).2
          refused := s.refused ++ callersOf later }
  /-- What was queued in vain is forgotten. -/
  | forgets : s.stopped = true →
      Move s [] [] []
        { s with queue := [], refused := s.refused ++ callersOf s.queue.tail }

namespace Server

/-- The desk of a server. -/
def desk (server : Server) : Desk where
  dispatcher := server.emulation.dispatcher
  queue := server.emulation.queue
  stopped := server.emulation.stopped
  answers := server.emulation.answers
  admitted := server.admitted
  refused := server.refused
  callers := server.callers

/-- What the owner asks in an event. -/
def asking : ServerEvent → List Inquiry
  | .inquire inquiry => [inquiry]
  | _ => []

/-- The requests that an event puts into the queue: all that is new at its end. -/
def queueing (server : Server) (event : ServerEvent) : List Request :=
  (server.step event).1.emulation.queue.drop server.emulation.queue.length

/-- The request that is handled in an event.  A dispatcher that runs takes the first one. -/
def handling (server : Server) : ServerEvent → List Request
  | .dispatch => if server.emulation.stopped then [] else server.emulation.queue.take 1
  | _ => []

/-! ## Connections -/

theorem callersOf_packets (id : SessionId) (packets : List Packet) :
    callersOf (packets.map (.packet id)) = [] := by
  induction packets with
  | nil => rfl
  | cons packet later ih => exact ih

theorem desk_applyEffects (server : Server) (id : SessionId) (effects : List ConnectionEffect) :
    (server.applyEffects id effects).1.desk =
      { server.desk with
        queue := server.emulation.queue ++ (handed effects).map (.packet id) } := by
  induction effects generalizing server with
  | nil => simp [applyEffects, handed, desk]
  | cons effect later ih =>
      rw [applyEffects, ih, ← List.singleton_append, ConnectionEffect.handed_append,
        List.map_append, ← List.append_assoc]
      cases effect <;> simp [applyEffect, desk, handed, Emulation.push]

/-- A connection queues packets, and does nothing else at the desk. -/
theorem desk_connectionStep (server : Server) (id : SessionId) (event : ConnectionEvent)
    (room : Option Nat) :
    ∃ packets : List Packet, (server.connectionStep id event room).1.desk =
      { server.desk with queue := server.emulation.queue ++ packets.map (.packet id) } := by
  unfold connectionStep
  split
  next => exact ⟨[], by simp [desk]⟩
  next => exact ⟨_, desk_applyEffects _ id _⟩

/-! ## All events -/

variable {server after : Server}

/-- Where nothing is done at the desk but that requests of nobody are queued. -/
theorem move_of_desk_eq (requests : List Request) (nobody : callersOf requests = [])
    (same : after.desk = { server.desk with queue := server.emulation.queue ++ requests }) :
    server.desk.Move [] (after.emulation.queue.drop server.emulation.queue.length) []
      after.desk := by
  have queue : after.emulation.queue = server.emulation.queue ++ requests :=
    congrArg Desk.queue same
  rw [queue, List.drop_left, same]
  exact .queues nobody

theorem move_of_desk_same (same : after.desk = server.desk) :
    server.desk.Move [] (after.emulation.queue.drop server.emulation.queue.length) []
      after.desk :=
  move_of_desk_eq [] rfl (by rw [same, List.append_nil]; rfl)

theorem move_accept (server : Server) :
    server.desk.Move [] (server.queueing .accept) [] server.accept.1.desk := by
  refine move_of_desk_same ?_
  simp only [step, accept]
  split
  next => rfl
  next => split <;> rfl

theorem move_connectionStep (server : Server) (id : SessionId) (event : ConnectionEvent)
    (room : Option Nat) {before : Server} (same : before.desk = server.desk) :
    before.desk.Move []
      ((server.connectionStep id event room).1.emulation.queue.drop
        before.emulation.queue.length) []
      (server.connectionStep id event room).1.desk := by
  obtain ⟨packets, stepped⟩ := server.desk_connectionStep id event room
  have queue : before.emulation.queue = server.emulation.queue := congrArg Desk.queue same
  refine move_of_desk_eq _ (callersOf_packets id packets) ?_
  rw [stepped, same, queue]

theorem move_deliver (server : Server) (id : SessionId) (room : Option Nat) :
    server.desk.Move [] (server.queueing (.deliver id room)) []
      (server.deliver id room).1.desk := by
  change server.desk.Move [] ((server.deliver id room).1.emulation.queue.drop _) [] _
  unfold deliver
  dsimp only
  split
  next => exact move_of_desk_same rfl
  next message sessions _ => exact move_connectionStep _ id (.told message) room rfl

theorem move_inquire (server : Server) (inquiry : Inquiry) :
    server.desk.Move [inquiry] (server.queueing (.inquire inquiry)) []
      (server.inquire inquiry).desk := by
  have unqueued : server.queueing (.inquire inquiry) = [] := by
    simp only [queueing, step, inquire]
    split <;> exact List.drop_length
  rw [unqueued]
  simp only [inquire]
  split
  next => exact .refuses inquiry
  next => exact .admits inquiry

theorem move_submit (server : Server) (caller : Nat) :
    server.desk.Move [] (server.queueing (.submit caller)) [] (server.submit caller).desk := by
  change server.desk.Move [] ((server.submit caller).emulation.queue.drop _) [] _
  unfold submit
  split
  next => exact move_of_desk_same rfl
  next request found =>
    have asked : request.caller? = some caller := by simpa using List.find?_some found
    have member : request ∈ server.admitted := List.mem_of_find?_eq_some found
    dsimp only
    split
    next stopped =>
      rw [List.drop_length]
      exact .returns member asked stopped
    next running =>
      rw [Emulation.push, List.drop_left]
      exact .submits member asked (Bool.eq_false_iff.mpr running)

/-- A dispatcher that has stopped drops the request at the front. -/
theorem step_of_stopped {e : Emulation} (stopped : e.stopped = true) :
    e.step = { e with queue := e.queue.tail } := by
  obtain ⟨dispatcher, queue, timers, sessions, answers, now, _⟩ := e
  cases stopped
  cases queue <;> rfl

theorem move_dispatch_stopped (stopped : server.emulation.stopped = true) :
    server.desk.Move [] (server.queueing .dispatch) (server.handling .dispatch)
      server.dispatch.desk := by
  have dispatched : server.dispatch.desk =
      { server.desk with
        queue := []
        refused := server.refused ++ callersOf server.emulation.queue.tail } := by
    simp only [dispatch, step_of_stopped stopped, stopped, if_true]
    simp only [desk, stopped, callersOf]
  have queue : server.dispatch.emulation.queue = [] := congrArg Desk.queue dispatched
  simp only [queueing, step, queue, List.drop_nil, handling, stopped, if_true, dispatched]
  exact .forgets stopped

theorem move_dispatch_running (running : server.emulation.stopped = false) {request : Request}
    {later : List Request} (queued : server.emulation.queue = request :: later) :
    server.desk.Move [] (server.queueing .dispatch) (server.handling .dispatch)
      server.dispatch.desk := by
  obtain ⟨sessions, answers, stepped⟩ := Emulation.step_eq running queued
  have answered := Emulation.answers_step running queued
  rw [stepped] at answered
  simp only at answered
  have handling : server.handling .dispatch = [request] := by
    simp [Server.handling, running, queued]
  rw [handling]
  by_cases stop : request = .stop
  · subst stop
    have dispatched : server.dispatch.desk =
        { server.desk with
          dispatcher := (server.emulation.dispatcher.handle .stop).1
          queue := []
          stopped := true
          answers := answers
          refused := server.refused ++ callersOf later } := by
      simp only [dispatch, stepped, decide_true, if_true]
      rfl
    have queue : server.dispatch.emulation.queue = [] := congrArg Desk.queue dispatched
    simp only [queueing, step, queue, List.drop_nil, dispatched, answered]
    exact .stops running queued
  · have dispatched : server.dispatch.desk =
        { server.desk with
          dispatcher := (server.emulation.dispatcher.handle request).1
          queue := later
          answers := answers } := by
      simp only [dispatch, stepped, decide_eq_false stop, Bool.false_eq_true, if_false]
      simp only [desk, running]
    have queue : server.dispatch.emulation.queue = later := congrArg Desk.queue dispatched
    have unqueued : server.queueing .dispatch = [] := by
      simp only [queueing, step, queue, queued]
      exact List.drop_of_length_le (Nat.le_succ _)
    rw [unqueued, dispatched, answered]
    exact .handles running queued stop

theorem move_dispatch (server : Server) :
    server.desk.Move [] (server.queueing .dispatch) (server.handling .dispatch)
      server.dispatch.desk := by
  cases stopped : server.emulation.stopped with
  | true => exact move_dispatch_stopped stopped
  | false =>
      cases queued : server.emulation.queue with
      | cons request later => exact move_dispatch_running stopped queued
      | nil =>
          have idle : server.emulation.step = server.emulation := by
            rw [Emulation.step, queued]
          have same : server.dispatch = server := by
            simp only [dispatch, idle, stopped, Bool.false_eq_true, if_false]
          have unhandled : server.handling .dispatch = [] := by simp [handling, queued]
          rw [unhandled]
          exact move_of_desk_same (congrArg desk same)

/-- Every event is one of the moves. -/
theorem move (server : Server) (event : ServerEvent) :
    server.desk.Move (asking event) (server.queueing event) (server.handling event)
      (server.step event).1.desk := by
  cases event with
  | accept => exact server.move_accept
  | connection id event room =>
      simp only [asking, handling, queueing, step]
      split
      next => exact move_of_desk_same rfl
      next => exact move_connectionStep server id event room rfl
  | deliver id room => exact server.move_deliver id room
  | dispatch => exact server.move_dispatch
  | powerTimer timer =>
      simp only [asking, handling, queueing, step]
      split
      next => exact move_of_desk_eq [.powerTimer timer.generation] rfl rfl
      next => exact move_of_desk_same rfl
  | inquire inquiry => exact server.move_inquire inquiry
  | submit caller => exact server.move_submit caller
  | shutdown =>
      simp only [asking, handling, queueing, step]
      split <;> exact move_of_desk_same rfl
  | cancel =>
      simp only [asking, handling, queueing, step]
      split <;> exact move_of_desk_same rfl
  | stop =>
      simp only [asking, handling, queueing, step]
      split
      next => exact move_of_desk_same rfl
      next => exact move_of_desk_eq [.stop] rfl rfl

end Server

end ProjectorControl
