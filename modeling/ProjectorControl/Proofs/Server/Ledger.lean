import ProjectorControl.Proofs.Server.Accounts
import ProjectorControl.Proofs.Server.Shown

/-!
# Runs with a ledger

A `Ledger` keeps what has gone through the queue of a server, and what each session was told because
of it.  All of it is read off the server before and after each event: what is new at the end of the
queue was queued, what is new at the end of a mailbox was told.  `Server.Passes` are the runs of a
server with its ledger, with all events in any order.

The books of the desk are kept over every run (`Server.Passes.accounted`), and sessions are told
what comes of the requests that were handled and nothing else (`Server.Passes.told`).
-/

namespace ProjectorControl

open Dispatcher (messagesTo)

/-! ## Ledgers -/

/-- What was asked, queued and handled, what was told, and how often the dispatcher had a turn. -/
structure Ledger where
  /-- What the owner has asked.  The place in the list is the number of the caller. -/
  asked : List Inquiry := []
  /-- The requests that were queued, in order. -/
  queued : List Request := []
  /-- The requests that were handled, in order. -/
  handled : List Request := []
  /-- What each session was told, in order. -/
  told : SessionId → List SessionMessage := fun _ => []
  /-- How many turns the dispatcher had. -/
  turns : Nat := 0

/-- What is new at the end of a mailbox. -/
def Seat.news (before after : Seat) : List SessionMessage :=
  (after.mailbox?.getD []).drop (before.mailbox?.getD []).length

namespace Server

/-- What an event tells a session: all that is new at the end of its mailbox. -/
def telling (server : Server) (event : ServerEvent) (id : SessionId) : List SessionMessage :=
  (server.seat id).news ((server.step event).1.seat id)

end Server

/-- A ledger after another event. -/
def Ledger.record (ledger : Ledger) (server : Server) (event : ServerEvent) : Ledger where
  asked := ledger.asked ++ Server.asking event
  queued := ledger.queued ++ server.queueing event
  handled := ledger.handled ++ server.handling event
  told := fun id => ledger.told id ++ server.telling event id
  turns := ledger.turns + if event = .dispatch then 1 else 0

/-- A ledger after several events. -/
def Ledger.recordAll (ledger : Ledger) (server : Server) : List ServerEvent → Ledger
  | [] => ledger
  | event :: later => (ledger.record server event).recordAll (server.step event).1 later

namespace Server

/-- A run of a server with its ledger.  Messages reach a connection by its mailbox only, and time
may pass between events. -/
inductive Passes (ledger : Ledger) (server : Server) : Ledger → Server → Prop where
  | refl : Passes ledger server ledger server
  | event {ledger' : Ledger} {server' : Server} {event : ServerEvent} :
      Passes ledger server ledger' server' →
      (∀ id message room, event ≠ .connection id (.told message) room) →
      Passes ledger server (ledger'.record server' event) (server'.step event).1
  | wait {ledger' : Ledger} {server' : Server} {moment : Moment} :
      Passes ledger server ledger' server' → server'.emulation.now ≤ moment →
      Passes ledger server ledger'
        { server' with emulation := { server'.emulation with now := moment } }

namespace Passes

variable {ledger ledger' ledger'' : Ledger} {server server' server'' : Server}

theorem trans (first : Passes ledger server ledger' server')
    (second : Passes ledger' server' ledger'' server'') :
    Passes ledger server ledger'' server'' := by
  induction second with
  | refl => exact first
  | event _ honest ih => exact ih.event honest
  | wait _ later ih => exact ih.wait later

theorem run (passes : Passes ledger server ledger' server') {events : List ServerEvent}
    (honest : ∀ event ∈ events, ∀ id message room, event ≠ .connection id (.told message) room) :
    Passes ledger server (ledger'.recordAll server' events) (server'.run events).1 := by
  induction events generalizing ledger' server' with
  | nil => exact passes
  | cons event later ih =>
      exact ih (passes.event (honest event List.mem_cons_self))
        fun event' member => honest event' (List.mem_cons_of_mem _ member)

/-- Whatever a run with a ledger comes to can be reached. -/
theorem reaches (passes : Passes ledger server ledger' server') :
    ∃ log, server.Reaches log server' := by
  induction passes with
  | refl => exact ⟨[], .refl⟩
  | event _ honest ih =>
      obtain ⟨log, reached⟩ := ih
      exact ⟨_, reached.event honest⟩
  | wait _ later ih =>
      obtain ⟨log, reached⟩ := ih
      exact ⟨log, reached.wait later⟩

/-- The books are kept over a run. -/
theorem accounted {d : Dispatcher} (passes : Passes ledger server ledger' server')
    (first : server.desk.Accounted d ledger.asked ledger.queued ledger.handled) :
    server'.desk.Accounted d ledger'.asked ledger'.queued ledger'.handled := by
  induction passes with
  | refl => exact first
  | @event _ server' event _ _ ih => exact ih.move (server'.move event)
  | wait _ _ ih => exact ih

end Passes

/-- A new desk is empty. -/
theorem accounted_start {ν π : Type} [Net.Network ν π] {c : EmulatorConfig} {network : ν}
    {first : Server} (started : start c network = .ok first) :
    first.desk.Accounted first.emulation.dispatcher [] [] [] := by
  obtain ⟨dispatcher, address, -, rfl⟩ := eq_of_start started
  exact ⟨rfl, rfl, rfl, fun _ held => by simp [desk] at held,
    [], [], .runs rfl List.not_mem_nil, .refl _, .refl _⟩

/-! ## What sessions are told -/

/-- What a session was told, if some messages came of the requests that were handled.  One that has
closed was not told all of them. -/
structure Heard (messages told : List SessionMessage) (seat : Seat) : Prop where
  front : told <+: messages
  whole : ∀ mailbox, seat.mailbox? = some mailbox → told = messages
  unopened : ¬ seat.opened → messages = []

/-- A mailbox that is left as it is, or emptied in part, or removed. -/
def Shorter (before after : Seat) : Prop :=
  ∀ mailbox, after.mailbox? = some mailbox →
    ∃ earlier, before.mailbox? = some earlier ∧ mailbox.length ≤ earlier.length

theorem Shorter.of_same {before after : Seat} (same : after.mailbox? = before.mailbox?) :
    Shorter before after :=
  fun mailbox held => ⟨mailbox, same ▸ held, Nat.le_refl _⟩

/-- What a connection does adds nothing to its mailbox. -/
theorem shorter_serve (s : Seat) (now : Moment) (room : Option Nat) (event : ConnectionEvent) :
    Shorter s (s.serve now room event).1 ∧ (s.serve now room event).1.opened = s.opened := by
  unfold Seat.serve
  split
  next => exact ⟨.of_same rfl, rfl⟩
  next =>
    dsimp only [Seat.left]
    split
    next => exact ⟨fun _ => nofun, rfl⟩
    next => exact ⟨.of_same rfl, rfl⟩

namespace Heard

variable {messages told : List SessionMessage} {seat after : Seat}

/-- A session that is told nothing has heard what it had heard. -/
theorem of_silent (heard : Heard messages told seat) (shorter : Shorter seat after)
    (opened : after.opened = seat.opened) : Heard messages (told ++ seat.news after) after := by
  have silent : seat.news after = [] := by
    rw [Seat.news]
    cases held : after.mailbox? with
    | none => exact List.drop_nil
    | some mailbox =>
        obtain ⟨earlier, had, fewer⟩ := shorter mailbox held
        rw [had]
        exact List.drop_of_length_le fewer
  rw [silent, List.append_nil]
  refine ⟨heard.front, fun mailbox held => ?_, fun unopened => heard.unopened (opened ▸ unopened)⟩
  obtain ⟨earlier, had, -⟩ := shorter mailbox held
  exact heard.whole earlier had

/-- A session is told nothing by an event in which none of its packets is answered. -/
theorem turn {c : EmulatorConfig} {notes : List ConnectionNote}
    (heard : Heard messages told seat) (turn : Seat.Turn c seat notes after)
    (unanswered : ∀ packet result, .answered packet result ∉ notes)
    (vacant : ¬ seat.opened → seat.mailbox? = none) :
    Heard messages (told ++ seat.news after) after := by
  cases turn with
  | still => exact heard.of_silent (.of_same rfl) rfl
  | opens unopened =>
      have none := vacant unopened
      have silent := heard.unopened unopened
      have untold : told = [] := List.prefix_nil.mp (silent ▸ heard.front)
      have news : seat.news { seat with
          opened := True
          connection? := seat.connection?.or (some (.ofConfig c))
          mailbox? := seat.mailbox?.or (some []) } = [] := by
        simp [Seat.news, none]
      rw [news, untold, silent]
      exact ⟨List.nil_prefix, fun _ _ => rfl, fun closed => absurd trivial closed⟩
  | happens =>
      obtain ⟨shorter, opened⟩ := shorter_serve seat _ _ _
      exact heard.of_silent shorter opened
  | @delivers now room message later front =>
      obtain ⟨shorter, opened⟩ :=
        shorter_serve { seat with mailbox? := some later } now room (.told message)
      refine heard.of_silent (fun mailbox held => ⟨_, front, ?_⟩) opened
      obtain ⟨earlier, same, fewer⟩ := shorter mailbox held
      cases same
      exact Nat.le_succ_of_le fewer
  | answers result => exact absurd List.mem_cons_self (unanswered _ result)
  | stops => exact heard.of_silent (.of_same rfl) rfl

/-- A session is told what comes of a request, if it is still open. -/
theorem grow (heard : Heard messages told seat) {more : List SessionMessage}
    (same : after.mailbox? = seat.mailbox?.map (· ++ more)) (opened : after.opened = seat.opened)
    (unopened : ¬ seat.opened → more = []) :
    Heard (messages ++ more) (told ++ seat.news after) after := by
  have news : seat.news after = if seat.mailbox? = none then [] else more := by
    rw [Seat.news, same]
    cases seat.mailbox? with
    | none => rfl
    | some mailbox => exact List.drop_left
  rw [news]
  refine ⟨?_, fun mailbox held => ?_, fun closed => ?_⟩
  · split
    next =>
      rw [List.append_nil]
      exact heard.front.trans (List.prefix_append _ _)
    next open_ =>
      obtain ⟨mailbox, held⟩ := Option.ne_none_iff_exists'.mp open_
      exact heard.whole mailbox held ▸ List.prefix_refl _
  · rw [same] at held
    obtain ⟨earlier, had, -⟩ := Option.map_eq_some_iff.mp held
    rw [heard.whole earlier had, if_neg (by rw [had]; exact Option.some_ne_none _)]
  · rw [opened] at closed
    rw [heard.unopened closed, unopened closed]
    rfl

end Heard

variable {server : Server} {id : SessionId}

theorem not_answered_reading (c : Connection) (event : ConnectionEvent) (packet : Packet)
    (result : Except Error (Option (List Packet))) : .answered packet result ∉ c.reading event := by
  cases event with
  | received bytes => simp only [Connection.reading]; split <;> simp
  | _ => exact List.not_mem_nil

/-- Only the dispatcher says that packets were answered. -/
theorem not_answered_noted {event : ServerEvent} (other : event ≠ .dispatch) (packet : Packet)
    (result : Except Error (Option (List Packet))) :
    .answered packet result ∉ (server.noted event).notesOf id := by
  intro member
  obtain ⟨⟨source, note⟩, among, same⟩ := List.mem_filterMap.mp member
  have answered : note = .answered packet result := by
    split at same
    next => exact Option.some.inj same
    next => cases same
  subst answered
  rcases List.mem_append.mp among with noticed | shown
  · cases event with
    | dispatch => exact other rfl
    | connection source event room =>
        obtain ⟨note, read, equal⟩ := List.mem_map.mp noticed
        cases equal
        cases found : server.connection? source with
        | none => rw [found] at read; exact List.not_mem_nil read
        | some c => rw [found] at read; exact not_answered_reading c event packet result read
    | _ => exact List.not_mem_nil noticed
  · obtain ⟨effect, -, entry⟩ := List.mem_filterMap.mp shown
    cases effect <;> cases entry

/-- A session that was not opened yet has sent no packets, so it is told nothing about any. -/
theorem messagesTo_handle_of_unopened {request : Request} {later : List Request}
    (valid : server.emulation.dispatcher.Valid)
    (queued : server.emulation.queue = request :: later) (unasked : (server.seat id).waiting = []) :
    messagesTo id (server.emulation.dispatcher.handle request).2 = [] := by
  by_cases sent : ∃ source packet, request = .packet source packet
  · obtain ⟨source, packet, rfl⟩ := sent
    rw [Dispatcher.messagesTo_handle_packet valid]
    refine if_neg fun own => ?_
    simp [seat, queued, packetsOf, own] at unasked
  · exact Dispatcher.messagesTo_handle_other valid id fun source packet same =>
      sent ⟨source, packet, same⟩

theorem seat_dispatch_of_queue {request : Request} {later : List Request}
    (running : server.emulation.stopped = false)
    (queued : server.emulation.queue = request :: later) (id : SessionId) :
    (server.dispatch.seat id).mailbox? = (server.seat id).mailbox?.map
        (· ++ messagesTo id (server.emulation.dispatcher.handle request).2) ∧
      (server.dispatch.seat id).opened = (server.seat id).opened := by
  rw [seat_dispatch, seat_step running queued]
  split <;> exact ⟨rfl, rfl⟩

/-- A turn in which nothing is handled tells nobody anything. -/
theorem heard_dispatch_of_idle {messages told : List SessionMessage}
    (valid : server.emulation.dispatcher.Valid)
    (idle : server.emulation.stopped = true ∨ server.emulation.queue = [])
    (vacant : ¬ (server.seat id).opened → (server.seat id).mailbox? = none)
    (heard : Heard messages told (server.seat id)) :
    server.handling .dispatch = [] ∧
      Heard messages (told ++ server.telling .dispatch id) (server.dispatch.seat id) := by
  have silent : server.noticed .dispatch = [] := by
    rcases idle with stopped | empty
    · simp only [noticed, stopped]
    · simp only [noticed, empty]
      split <;> simp_all
  refine ⟨?_, heard.turn (turn_dispatch valid id) ?_ vacant⟩
  · rcases idle with stopped | empty
    · simp only [handling, stopped, if_true]
    · simp only [handling, empty, List.take_nil, ite_self]
  · rw [silent]
    exact fun _ _ => List.not_mem_nil

/-- A turn of the dispatcher tells sessions what comes of the request that it handles. -/
theorem heard_dispatch {d : Dispatcher} {handled : List Request} {told : List SessionMessage}
    (valid : server.emulation.dispatcher.Valid)
    (state : server.emulation.dispatcher = d.run handled)
    (vacant : ¬ (server.seat id).opened →
      (server.seat id).mailbox? = none ∧ (server.seat id).waiting = [])
    (heard : Heard (messagesTo id (d.effects handled)) told (server.seat id)) :
    Heard (messagesTo id (d.effects (handled ++ server.handling .dispatch)))
      (told ++ server.telling .dispatch id) (server.dispatch.seat id) := by
  by_cases idle : server.emulation.stopped = true ∨ server.emulation.queue = []
  · obtain ⟨unhandled, kept⟩ :=
      heard_dispatch_of_idle valid idle (fun unopened => (vacant unopened).1) heard
    rw [unhandled, List.append_nil]
    exact kept
  · rw [not_or, Bool.not_eq_true] at idle
    obtain ⟨running, waits⟩ := idle
    obtain ⟨request, later, queued⟩ := List.exists_cons_of_ne_nil waits
    obtain ⟨same, opened⟩ := server.seat_dispatch_of_queue running queued id
    have handling : server.handling .dispatch = [request] := by
      simp [Server.handling, running, queued]
    rw [handling, Dispatcher.effects_concat, Dispatcher.messagesTo_append, ← state]
    exact heard.grow same opened fun unopened =>
      messagesTo_handle_of_unopened valid queued (vacant unopened).2

namespace Passes

variable {ν π : Type} [Net.Network ν π] {c : EmulatorConfig} {network : ν} {first : Server}
  {ledger : Ledger}

/-- The books of a desk from its first day on. -/
theorem accounted_of_start (started : start c network = .ok first)
    (passes : Passes {} first ledger server) :
    server.desk.Accounted first.emulation.dispatcher ledger.asked ledger.queued
      ledger.handled :=
  passes.accounted (accounted_start started)

/-- What sessions are told over a run. -/
theorem told (started : start c network = .ok first) (passes : Passes {} first ledger server)
    (id : SessionId) :
    Heard (messagesTo id (first.emulation.dispatcher.effects ledger.handled)) (ledger.told id)
      (server.seat id) := by
  induction passes with
  | refl => exact ⟨List.nil_prefix, fun _ _ => rfl, fun _ => rfl⟩
  | wait _ _ ih => exact ih
  | @event ledger server event passes honest ih =>
      obtain ⟨log, reached⟩ := passes.reaches
      have kept := reached.kept (kept_start started)
      have vacant : ¬ (server.seat id).opened →
          (server.seat id).mailbox? = none ∧ (server.seat id).waiting = [] := by
        intro unopened
        cases kept.standing id with
        | vacant _ _ none _ waiting => exact ⟨none, waiting⟩
        | taken _ _ opened => exact absurd opened unopened
        | gone opened => exact absurd opened unopened
      by_cases dispatch : event = .dispatch
      · subst dispatch
        exact heard_dispatch kept.valid (passes.accounted_of_start started).state vacant ih
      · have unhandled : server.handling event = [] := by
          cases event with
          | dispatch => exact absurd rfl dispatch
          | _ => rfl
        have noted := turn kept.valid honest id
        simp only [Ledger.record, unhandled, List.append_nil]
        exact ih.turn noted (server.not_answered_noted dispatch) fun unopened =>
          (vacant unopened).1

end Passes

end Server

end ProjectorControl
