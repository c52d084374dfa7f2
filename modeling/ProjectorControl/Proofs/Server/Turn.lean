import ProjectorControl.Proofs.Server.Seat

/-!
# Turns of a seat

Whatever happens to a server does one of a few things to each of its seats (`Server.turn`).  Most
events leave a seat alone, and of those that concern one connection every other keeps still.  The
dispatcher takes the packets of all seats from one queue, so it answers each seat in the order in
which it has handed them over.
-/

namespace ProjectorControl

namespace Server

/-! ## What a dispatcher does -/

/-- A dispatcher that runs handles the first request. -/
theorem seat_step {server : Server} {request : Request} {later : List Request}
    (running : server.emulation.stopped = false)
    (queued : server.emulation.queue = request :: later) (id : SessionId) :
    Server.seat { server with emulation := server.emulation.step } id =
      { server.seat id with
        mailbox? := (server.emulation.sessions.mailbox? id).map
          (· ++ Dispatcher.messagesTo id (server.emulation.dispatcher.handle request).2)
        waiting := packetsOf id later
        stopped := request = .stop } := by
  let rest : Emulation := { server.emulation with queue := later }
  have stepped : server.emulation.step = rest.handle request := by
    rw [Emulation.step, queued]
  obtain ⟨sessions, answers, done, told, opened⟩ :=
    Emulation.handle_eq (e := rest) running request
  rw [stepped, done]
  simp only [seat, connection?, told, opened, rest]

/-- A request that is no packet says nothing to a session. -/
theorem seat_step_other {server : Server} (valid : server.emulation.dispatcher.Valid)
    {request : Request} {later : List Request} (running : server.emulation.stopped = false)
    (queued : server.emulation.queue = request :: later)
    (other : ∀ session packet, request ≠ .packet session packet) (id : SessionId) :
    Server.seat { server with emulation := server.emulation.step } id =
      { server.seat id with stopped := request = .stop } := by
  have waiting : packetsOf id server.emulation.queue = packetsOf id later := by
    rw [queued, ← List.singleton_append, packetsOf_append]
    exact (congrArg (· ++ packetsOf id later) (packetsOf_append_other id [] other) :)
  rw [seat_step running queued, Dispatcher.messagesTo_handle_other valid id other]
  simp [seat, waiting]

/-- A dispatcher that has stopped forgets what waits for it. -/
theorem seat_dispatch (server : Server) (id : SessionId) :
    server.dispatch.seat id =
      if server.emulation.step.stopped = true then
        { Server.seat { server with emulation := server.emulation.step } id with waiting := [] }
      else Server.seat { server with emulation := server.emulation.step } id := by
  simp only [dispatch]
  split
  next => rfl
  next => rfl

/-- A packet is answered in the seat that sent it, and moves no other seat. -/
theorem turn_dispatch_packet {server : Server} (valid : server.emulation.dispatcher.Valid)
    {source : SessionId} {packet : Packet} {later : List Request}
    (running : server.emulation.stopped = false)
    (queued : server.emulation.queue = .packet source packet :: later) (id : SessionId) :
    Seat.Turn server.config (server.seat id)
      (ServerLog.notesOf (server.noticed .dispatch) id) (server.dispatch.seat id) := by
  have noticed : server.noticed .dispatch =
      [.answered packet (server.emulation.dispatcher.dispatch packet).1].map (source, ·) := by
    simp only [Server.noticed, running, queued, List.map_cons, List.map_nil]
  have ends : server.emulation.step.stopped = false :=
    congrArg Seat.stopped (seat_step running queued id)
  rw [noticed, ServerLog.notesOf_map, seat_dispatch, ends, if_neg Bool.false_ne_true,
    seat_step running queued, Dispatcher.messagesTo_handle_packet valid]
  have going : decide (Request.packet source packet = .stop) = false := rfl
  rw [going]
  by_cases own : source = id
  · have waiting : (server.seat id).waiting = packet :: packetsOf id later := by
      simp [seat, queued, packetsOf, own]
    rw [if_pos own, if_pos own, ← running]
    exact .answers _ waiting running
  · have same : { server.seat id with
        mailbox? := (server.emulation.sessions.mailbox? id).map (· ++ [])
        waiting := packetsOf id later
        stopped := false } = server.seat id := by
      simp [seat, queued, packetsOf, own, running]
    rw [if_neg own, if_neg own, same]
    exact .still

/-- A request that is no packet moves no seat, unless it stops the dispatcher. -/
theorem turn_dispatch_other {server : Server} (valid : server.emulation.dispatcher.Valid)
    {request : Request} {later : List Request} (running : server.emulation.stopped = false)
    (queued : server.emulation.queue = request :: later)
    (other : ∀ session packet, request ≠ .packet session packet) (id : SessionId) :
    Seat.Turn server.config (server.seat id)
      (ServerLog.notesOf (server.noticed .dispatch) id) (server.dispatch.seat id) := by
  have silent : server.noticed .dispatch = [] := by
    cases request with
    | packet session packet => exact absurd rfl (other session packet)
    | _ => simp only [noticed, running, queued]
  have ends : server.emulation.step.stopped = decide (request = .stop) :=
    congrArg Seat.stopped (seat_step running queued id)
  rw [silent, seat_dispatch, ends, seat_step_other valid running queued other]
  by_cases stop : request = .stop
  · rw [if_pos (decide_eq_true stop), decide_eq_true stop]
    exact .stops
  · have same : { server.seat id with stopped := false } = server.seat id := by
      simp only [seat, running]
    rw [decide_eq_false stop, if_neg Bool.false_ne_true, same]
    exact .still

/-- A dispatcher that has stopped takes no request. -/
theorem turn_dispatch_stopped {server : Server} (stopped : server.emulation.stopped = true)
    (id : SessionId) :
    Seat.Turn server.config (server.seat id)
      (ServerLog.notesOf (server.noticed .dispatch) id) (server.dispatch.seat id) := by
  have still : server.emulation.step.stopped = true ∧
      server.emulation.step.sessions = server.emulation.sessions := by
    cases queued : server.emulation.queue with
    | nil => simp only [Emulation.step, queued, stopped, and_self]
    | cons request later =>
        simp only [Emulation.step, queued, Emulation.handle, stopped, if_true, and_self]
  have silent : server.noticed .dispatch = [] := by simp only [noticed, stopped]
  rw [silent, seat_dispatch, if_pos still.1]
  simp only [seat, still]
  exact .stops

theorem turn_dispatch {server : Server} (valid : server.emulation.dispatcher.Valid)
    (id : SessionId) :
    Seat.Turn server.config (server.seat id)
      (ServerLog.notesOf (server.noticed .dispatch) id) (server.dispatch.seat id) := by
  cases running : server.emulation.stopped with
  | true => exact turn_dispatch_stopped running id
  | false =>
      cases queued : server.emulation.queue with
      | nil =>
          have silent : server.noticed .dispatch = [] := by simp only [noticed, running, queued]
          have same : server.emulation.step = server.emulation := by
            simp only [Emulation.step, queued]
          rw [silent, seat_dispatch, same, running, if_neg Bool.false_ne_true]
          exact .still
      | cons request later =>
          by_cases sent : ∃ source packet, request = .packet source packet
          · obtain ⟨source, packet, rfl⟩ := sent
            exact turn_dispatch_packet valid running queued id
          · exact turn_dispatch_other valid running queued
              (fun source packet same => sent ⟨source, packet, same⟩) id

/-! ## All events -/

/-- A seat keeps still when a request is queued that is no packet. -/
theorem waiting_push (e : Emulation) {request : Request}
    (other : ∀ session packet, request ≠ .packet session packet) (id : SessionId) :
    packetsOf id (e.push request).queue = packetsOf id e.queue :=
  packetsOf_append_other id e.queue other

theorem turn_accept (server : Server) (id : SessionId) :
    Seat.Turn server.config (server.seat id) [] (server.accept.1.seat id) := by
  simp only [accept]
  split
  next => exact .still
  next =>
    split
    next => exact .still
    next =>
      have seated : Server.seat { server with
            emulation := { server.emulation with
              sessions := server.emulation.sessions.openSession.2 }
            served := server.served ++
              [⟨server.emulation.sessions.opened + 1, .ofConfig server.config⟩] } id =
          { server.seat id with
            opened := id ≤ server.emulation.sessions.opened + 1
            connection? := (server.connection? id).or
              (if server.emulation.sessions.opened + 1 = id then some (.ofConfig server.config)
                else none)
            mailbox? := (server.emulation.sessions.mailbox? id).or
              (if server.emulation.sessions.opened + 1 = id then some [] else none) } := by
        simp only [seat, connection?, SessionTable.mailbox?_openSession, List.find?_append,
          Option.map_or]
        by_cases new : server.emulation.sessions.opened + 1 = id <;>
          simp [new, SessionTable.openSession]
      refine Eq.subst (motive := Seat.Turn _ _ _) seated.symm ?_
      by_cases new : server.emulation.sessions.opened + 1 = id
      · have unopened : ¬ (server.seat id).opened :=
          fun early => Nat.not_succ_le_self _ (Nat.le_trans (Nat.le_of_eq new) early)
        have now : (id ≤ server.emulation.sessions.opened + 1) = True :=
          eq_true (Nat.le_of_eq new.symm)
        rw [if_pos new, if_pos new, now]
        exact .opens unopened
      · have same : (id ≤ server.emulation.sessions.opened + 1) =
            (id ≤ server.emulation.sessions.opened) :=
          propext (Nat.le_add_one_iff.trans (or_iff_left fun equal => new equal.symm))
        rw [if_neg new, if_neg new, same, Option.or_none, Option.or_none]
        exact .still

theorem turn_connection {server : Server} {source : SessionId} {event : ConnectionEvent}
    (honest : ∀ message, event ≠ .told message) (room : Option Nat) (id : SessionId) :
    Seat.Turn server.config (server.seat id)
      (ServerLog.notesOf
        (((server.connection? source).elim [] fun c => c.reading event).map (source, ·) ++
          (server.connectionStep source event room).2.filterMap ServerEffect.entry?) id)
      ((server.connectionStep source event room).1.seat id) := by
  obtain ⟨seats, entries⟩ := server.connectionStep_eq source event room
  rw [seats, entries, ← List.map_append, ServerLog.notesOf_map]
  by_cases own : source = id
  · subst own
    rw [if_pos rfl, if_pos rfl]
    exact .happens honest
  · rw [if_neg own, if_neg own]
    exact .still

theorem turn_deliver (server : Server) (source : SessionId) (room : Option Nat)
    (id : SessionId) :
    Seat.Turn server.config (server.seat id)
      (ServerLog.notesOf ((server.deliver source room).2.filterMap ServerEffect.entry?) id)
      ((server.deliver source room).1.seat id) := by
  cases taken : server.emulation.sessions.take? source with
  | none =>
      simp only [deliver, taken]
      exact .still
  | some found =>
      obtain ⟨message, sessions⟩ := found
      obtain ⟨opened, later, front, mailboxes⟩ := SessionTable.mailbox?_of_take? taken
      simp only [deliver, taken]
      obtain ⟨seats, entries⟩ := connectionStep_eq
        { server with emulation := { server.emulation with sessions := sessions } } source
        (.told message) room
      rw [seats, entries, ServerLog.notesOf_map]
      have seated (other : SessionId) :
          Server.seat { server with
            emulation := { server.emulation with sessions := sessions } } other =
          if source = other then { server.seat other with mailbox? := some later }
          else server.seat other := by
        simp only [seat, opened, mailboxes]
        split
        next => rfl
        next => rfl
      by_cases own : source = id
      · subst own
        rw [if_pos rfl, if_pos rfl, seated, if_pos rfl]
        exact .delivers front
      · rw [if_neg own, if_neg own, seated, if_neg own]
        exact .still

theorem caller?_of_packet {request : Request} {caller : Nat}
    (asked : request.caller? = some caller) :
    ∀ session packet, request ≠ .packet session packet := by
  rintro session packet rfl
  cases asked

theorem seat_submit (server : Server) (caller : Nat) (id : SessionId) :
    (server.submit caller).seat id = server.seat id := by
  unfold submit
  split
  next => rfl
  next request found =>
    have asked : request.caller? = some caller := by simpa using List.find?_some found
    have waiting := waiting_push server.emulation (caller?_of_packet asked) id
    simp only [seat, connection?]
    split
    next => rfl
    next => rw [waiting]; rfl

theorem turn {server : Server} (valid : server.emulation.dispatcher.Valid) {event : ServerEvent}
    (honest : ∀ id message room, event ≠ .connection id (.told message) room)
    (id : SessionId) :
    Seat.Turn server.config (server.seat id) ((server.noted event).notesOf id)
      ((server.step event).1.seat id) := by
  cases event with
  | accept =>
      have silent : (server.noted .accept).notesOf id = [] := by
        simp only [noted, noticed, step, accept]
        split
        next => rfl
        next => split <;> rfl
      rw [silent]
      exact server.turn_accept id
  | connection source event room =>
      simp only [noted, noticed, step]
      split
      next early =>
        obtain rfl := early.1
        cases server.connection? source <;> exact .still
      next =>
        have usual : ∀ message, event ≠ .told message :=
          fun message told => honest source message room (by rw [told])
        exact turn_connection usual room id
  | deliver source room => exact server.turn_deliver source room id
  | dispatch =>
      simp only [noted, step, List.filterMap_nil, List.append_nil]
      exact turn_dispatch valid id
  | powerTimer timer =>
      simp only [noted, noticed, step]
      split
      next =>
        have other : ∀ session packet,
            Request.powerTimer timer.generation ≠ .packet session packet :=
          fun _ _ => Request.noConfusion
        have waiting : packetsOf id (server.emulation.fire timer).queue =
            packetsOf id server.emulation.queue := waiting_push _ other id
        simp only [seat, waiting]
        exact .still
      next => exact .still
  | inquire inquiry =>
      simp only [noted, noticed, step, inquire]
      split <;> exact .still
  | submit caller =>
      simp only [noted, noticed, step, seat_submit]
      exact .still
  | shutdown =>
      simp only [noted, noticed, step]
      split <;> exact .still
  | cancel =>
      simp only [noted, noticed, step]
      split <;> exact .still
  | stop =>
      simp only [noted, noticed, step]
      split
      next => exact .still
      next =>
        have other : ∀ session packet, Request.stop ≠ .packet session packet :=
          fun _ _ => Request.noConfusion
        simp only [seat, waiting_push server.emulation other id]
        exact .still

end Server

end ProjectorControl
