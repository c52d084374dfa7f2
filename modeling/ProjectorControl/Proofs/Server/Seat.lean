import ProjectorControl.Projector.Server
import ProjectorControl.Proofs.Projector.Connection
import ProjectorControl.Proofs.Projector.Mailboxes

/-!
# One connection among many

A projector serves any number of connections, and whatever happens to it is an event of the whole
server.  A `Seat` is what the server holds for one number: the connection, its mailbox, and its
packets in the queue of the dispatcher.  `Seat.Turn` lists the few things that an event can do to a
seat, and `Server.turn` says that every event does one of them to every seat.

So what is proved of one seat over its turns holds of all connections at once, however their events
are mixed.
-/

namespace ProjectorControl

open ConnectionEffect (handed)

/-! ## Notes -/

/-- What is noted of a connection. -/
inductive ConnectionNote where
  /-- It has read bytes. -/
  | read (bytes : Bytes)
  /-- The dispatcher has carried out one of its packets. -/
  | answered (packet : Packet) (result : Except Error (Option (List Packet)))
  /-- It has sent bytes. -/
  | wrote (bytes : Bytes)
  /-- It has ended. -/
  | hungUp

namespace ConnectionNote

/-- What a connection has read. -/
def heard (notes : List ConnectionNote) : Bytes :=
  notes.flatMap fun
    | .read bytes => bytes
    | _ => []

/-- The packets of a connection that were carried out, and what came of them. -/
def answers (notes : List ConnectionNote) :
    List (Packet × Except Error (Option (List Packet))) :=
  notes.filterMap fun
    | .answered packet result => some (packet, result)
    | _ => none

/-- What a connection has sent. -/
def written (notes : List ConnectionNote) : Bytes :=
  notes.flatMap fun
    | .wrote bytes => bytes
    | _ => []

variable (earlier later : List ConnectionNote)

@[simp] theorem heard_append : heard (earlier ++ later) = heard earlier ++ heard later :=
  List.flatMap_append

@[simp] theorem answers_append :
    answers (earlier ++ later) = answers earlier ++ answers later :=
  List.filterMap_append

@[simp] theorem written_append :
    written (earlier ++ later) = written earlier ++ written later :=
  List.flatMap_append

end ConnectionNote

/-- What is noted when a connection does something.  Packets are noted when they were carried out,
not when they are handed over. -/
def ConnectionEffect.note? : ConnectionEffect → Option ConnectionNote
  | .write bytes => some (.wrote bytes)
  | .hangUp => some .hungUp
  | .dispatch _ => none

/-- What a connection notes of an event.  Before it has begun, it does not read. -/
def Connection.reading (c : Connection) : ConnectionEvent → List ConnectionNote
  | .received bytes => if c.session.state = .unconnected then [] else [.read bytes]
  | _ => []

/-- The notes of all connections, in order. -/
abbrev ServerLog := List (SessionId × ConnectionNote)

/-- The notes of one connection. -/
def ServerLog.notesOf (log : ServerLog) (id : SessionId) : List ConnectionNote :=
  log.filterMap fun entry => if entry.1 = id then some entry.2 else none

theorem ServerLog.notesOf_append (earlier later : ServerLog) (id : SessionId) :
    ServerLog.notesOf (earlier ++ later) id = earlier.notesOf id ++ later.notesOf id :=
  List.filterMap_append

/-- Notes that were all made of one connection are no other's. -/
theorem ServerLog.notesOf_map (notes : List ConnectionNote) (id other : SessionId) :
    ServerLog.notesOf (notes.map (id, ·)) other = if id = other then notes else [] := by
  rw [notesOf, List.filterMap_map]
  change notes.filterMap (fun note => if id = other then some note else none) = _
  by_cases same : id = other
  · simp [same]
  · simp [same]

/-- What is noted when a server does something. -/
def ServerEffect.entry? : ServerEffect → Option (SessionId × ConnectionNote)
  | .write id bytes => some (id, .wrote bytes)
  | .close id => some (id, .hungUp)
  | .reject => none

namespace Server

/-- The connection under a number, if it is served. -/
def connection? (server : Server) (id : SessionId) : Option Connection :=
  (server.served.find? fun s => s.id = id).map Served.connection

/-- What is noted of an event before anything is done about it. -/
def noticed (server : Server) : ServerEvent → ServerLog
  | .connection id event _ =>
    ((server.connection? id).elim [] fun c => c.reading event).map (id, ·)
  | .dispatch =>
    match server.emulation.stopped, server.emulation.queue with
    | false, .packet id packet :: _ =>
      [(id, .answered packet (server.emulation.dispatcher.dispatch packet).1)]
    | _, _ => []
  | _ => []

/-- What is noted of an event. -/
def noted (server : Server) (event : ServerEvent) : ServerLog :=
  server.noticed event ++ (server.step event).2.filterMap ServerEffect.entry?

end Server

/-! ## Seats -/

/-- What a server holds for one number. -/
structure Seat where
  /-- Whether the number was given to a connection. -/
  opened : Prop
  /-- The connection, as long as it is served. -/
  connection? : Option Connection
  /-- Its mailbox. -/
  mailbox? : Option (List SessionMessage)
  /-- Its packets that wait for the dispatcher. -/
  waiting : List Packet
  /-- Whether the dispatcher has stopped. -/
  stopped : Bool

namespace Seat

/-- What is left once the connection has done something: of one that has ended, its packets. -/
def left (s : Seat) (effects : List ConnectionEffect) : Seat :=
  { s with
    connection? := if .hangUp ∈ effects then none else s.connection?
    mailbox? := if .hangUp ∈ effects then none else s.mailbox?
    waiting := s.waiting ++ handed effects }

theorem left_nil (s : Seat) : s.left [] = s := by
  simp [left, handed]

theorem left_cons (s : Seat) (effect : ConnectionEffect) (later : List ConnectionEffect) :
    (s.left [effect]).left later = s.left (effect :: later) := by
  obtain ⟨opened, connection, mailbox, waiting, stopped⟩ := s
  have handedCons : handed (effect :: later) = handed [effect] ++ handed later :=
    ConnectionEffect.handed_append [effect] later
  simp only [left, handedCons, List.append_assoc, List.mem_cons, List.not_mem_nil, or_false]
  by_cases ends : .hangUp = effect <;> by_cases ended : .hangUp ∈ later <;> simp [ends, ended]

/-- Lets something happen to the connection, if there is one. -/
def serve (s : Seat) (now : Moment) (room : Option Nat) (event : ConnectionEvent) :
    Seat × List ConnectionEffect :=
  match s.connection? with
  | none => (s, [])
  | some c =>
    let (after, effects) := c.step now { room := room, dispatching := !s.stopped } event
    ({ s with connection? := some after }.left effects, effects)

/-- What an event can do to a seat, and what is noted of it. -/
inductive Turn (c : EmulatorConfig) (s : Seat) : List ConnectionNote → Seat → Prop where
  /-- Nothing. -/
  | still : Turn c s [] s
  /-- A connection is given the number. -/
  | opens :
      ¬ s.opened →
      Turn c s []
        { s with
          opened := True
          connection? := s.connection?.or (some (.ofConfig c))
          mailbox? := s.mailbox?.or (some []) }
  /-- Something happens to the connection. -/
  | happens {now : Moment} {room : Option Nat} {event : ConnectionEvent} :
      (∀ message, event ≠ .told message) →
      Turn c s
        ((s.connection?.elim [] fun connection => connection.reading event) ++
          (s.serve now room event).2.filterMap ConnectionEffect.note?)
        (s.serve now room event).1
  /-- The connection takes a message from its mailbox. -/
  | delivers {now : Moment} {room : Option Nat} {message : SessionMessage}
      {later : List SessionMessage} :
      s.mailbox? = some (message :: later) →
      Turn c s
        (({ s with mailbox? := some later }.serve now room (.told message)).2.filterMap
          ConnectionEffect.note?)
        ({ s with mailbox? := some later }.serve now room (.told message)).1
  /-- Its first packet is carried out. -/
  | answers {packet : Packet} {later : List Packet}
      (result : Except Error (Option (List Packet))) :
      s.waiting = packet :: later → s.stopped = false →
      Turn c s [.answered packet result]
        { s with
          waiting := later
          mailbox? := s.mailbox?.map (· ++ SessionMessage.told result) }
  /-- The dispatcher has stopped, and forgets what waits for it. -/
  | stops : Turn c s [] { s with waiting := [], stopped := true }

end Seat

namespace Server

/-- The packets of one session among some requests. -/
def packetsOf (id : SessionId) (requests : List Request) : List Packet :=
  requests.filterMap fun
    | .packet session packet => if session = id then some packet else none
    | _ => none

theorem packetsOf_append (id : SessionId) (earlier later : List Request) :
    packetsOf id (earlier ++ later) = packetsOf id earlier ++ packetsOf id later :=
  List.filterMap_append

theorem packetsOf_append_other (id : SessionId) (requests : List Request) {request : Request}
    (other : ∀ session packet, request ≠ .packet session packet) :
    packetsOf id (requests ++ [request]) = packetsOf id requests := by
  rw [packetsOf_append]
  cases request with
  | packet session packet => exact absurd rfl (other session packet)
  | _ => exact List.append_nil _

/-- The seat with a number. -/
def seat (server : Server) (id : SessionId) : Seat where
  opened := id ≤ server.emulation.sessions.opened
  connection? := server.connection? id
  mailbox? := server.emulation.sessions.mailbox? id
  waiting := packetsOf id server.emulation.queue
  stopped := server.emulation.stopped

/-! ## What connections do -/

/-- An effect of a connection concerns its own seat. -/
theorem seat_applyEffect (server : Server) (id other : SessionId) (effect : ConnectionEffect) :
    (server.applyEffect id effect).1.seat other =
      if id = other then (server.seat other).left [effect] else server.seat other := by
  cases effect with
  | write bytes => simp [applyEffect, Seat.left, handed]
  | dispatch packet =>
      by_cases same : id = other <;>
        simp [applyEffect, Seat.left, handed, seat, Emulation.push, packetsOf, same,
          connection?]
  | hangUp =>
      have served := find?_filter_ne Served.id server.served id other
      simp only [applyEffect, seat, connection?, SessionTable.mailbox?_remove, Seat.left, handed]
      rw [served]
      by_cases same : id = other <;> simp [same, SessionTable.remove]

theorem seat_applyEffects (server : Server) (id other : SessionId)
    (effects : List ConnectionEffect) :
    (server.applyEffects id effects).1.seat other =
      if id = other then (server.seat other).left effects else server.seat other := by
  induction effects generalizing server with
  | nil => rw [applyEffects, Seat.left_nil, ite_self]
  | cons effect later ih =>
      rw [applyEffects, ih, seat_applyEffect]
      split
      next => rw [Seat.left_cons]
      next => rfl

/-- What a connection does is noted of it. -/
theorem entries_applyEffects (server : Server) (id : SessionId)
    (effects : List ConnectionEffect) :
    (server.applyEffects id effects).2.filterMap ServerEffect.entry? =
      (effects.filterMap ConnectionEffect.note?).map (id, ·) := by
  induction effects generalizing server with
  | nil => rfl
  | cons effect later ih =>
      rw [applyEffects, List.filterMap_append, ih]
      cases effect <;> rfl

/-- A connection that is put in the place of another takes its seat. -/
theorem seat_of_update {server : Server} {id : SessionId} {before : Connection}
    (occupied : server.connection? id = some before) (after : Connection) (other : SessionId) :
    Server.seat { server with served := server.served.map fun s =>
        if s.id = id then { s with connection := after } else s } other =
      if id = other then { server.seat id with connection? := some after }
      else server.seat other := by
  have changed := find?_map_update Served.id (fun s => { s with connection := after })
    (fun _ => rfl) server.served id other
  rw [connection?] at occupied
  obtain ⟨served, found, -⟩ := Option.map_eq_some_iff.mp occupied
  simp only [seat, connection?, changed, found]
  split
  next same =>
    rw [same]
    rfl
  next => rfl

/-- What happens to a connection happens at its seat, and is noted of it. -/
theorem connectionStep_eq (server : Server) (id : SessionId) (event : ConnectionEvent)
    (room : Option Nat) :
    (∀ other, (server.connectionStep id event room).1.seat other =
      if id = other then ((server.seat id).serve server.emulation.now room event).1
      else server.seat other) ∧
      (server.connectionStep id event room).2.filterMap ServerEffect.entry? =
        (((server.seat id).serve server.emulation.now room event).2.filterMap
          ConnectionEffect.note?).map (id, ·) := by
  cases found : server.served.find? fun s => s.id = id with
  | none =>
      have vacant : (server.seat id).connection? = none := by
        simp only [seat, connection?, found, Option.map_none]
      simp only [connectionStep, found, Seat.serve, vacant]
      refine ⟨fun other => ?_, rfl⟩
      split
      next same => rw [same]
      next => rfl
  | some served =>
      have occupied : (server.seat id).connection? = some served.connection := by
        simp only [seat, connection?, found, Option.map_some]
      simp only [connectionStep, found, Seat.serve, occupied]
      refine ⟨fun other => ?_, entries_applyEffects _ id _⟩
      rw [seat_applyEffects, seat_of_update occupied]
      split
      next => rfl
      next => rfl

end Server

end ProjectorControl
