import ProjectorControl.Proofs.Server.Standing
import ProjectorControl.Proofs.Server.Turn

/-!
# What clients see

A projector serves many clients at once, and their reads, the answers to their packets, the messages
to them and the expiry of their timers may come in any order; meanwhile its owner sets fields and
shuts it down.  `Server.Reaches` collects all of it, with the notes of every connection.

`Server.shown_of_reaches` says what one client can see of this: a greeting and a refusal, or a
greeting, an acceptance, and what came of its own packets in the order in which it has sent them.
What it was not sent yet waits in its mailbox (`Server.unsent`).
-/

namespace ProjectorControl

open ConnectionNote (heard answers written seen Silent)
open Seen (Settled)
open SessionMessage (told outgoing)

/-! ## What may be seen -/

/-- What a client can see of a projector to which it has to say some request. -/
structure ConnectionNote.Shown (expected : Bytes) (notes : List ConnectionNote) : Prop where
  /-- It is greeted and refused, or let in and sent what came of its packets, and never more than
  that.  The packets were carried out in the order in which they stand in what it has sent behind
  its request. -/
  order : (written notes <+: Handshake.greeting ++ Handshake.refused ∧ answers notes = []) ∨
    ∃ stream, heard notes = expected ++ stream ∧
      (answers notes).map Prod.fst <+: (Framing.frames stream).packets ∧
      written notes <+: Handshake.greeting ++ (Handshake.accepted ++
        outgoing ((answers notes).flatMap fun answer => told answer.2))
  /-- It is sent nothing on a connection that has ended. -/
  silent : notes.Pairwise fun earlier later => earlier = .hungUp → ∀ bytes, later ≠ .wrote bytes

namespace Standing

variable {expected : Bytes} {notes : List ConnectionNote} {seat : Seat}

theorem settled (standing : Standing expected notes seat) :
    Settled expected (seen notes seat.waiting) := by
  cases standing with
  | vacant _ _ _ silent waiting =>
      rw [silent, waiting]
      exact .outside List.nil_prefix rfl rfl
  | taken _ _ _ _ _ _ _ _ stage => exact stage.settled
  | gone _ _ _ settled => exact settled

theorem silent (standing : Standing expected notes seat) : Silent notes := by
  cases standing with
  | vacant _ _ _ silent => exact silent ▸ .nil
  | taken _ _ _ _ _ _ _ going => exact ConnectionNote.silent_of_open going
  | gone _ _ _ _ silent => exact silent

theorem shown (standing : Standing expected notes seat) : ConnectionNote.Shown expected notes where
  order := by
    cases standing.settled with
    | outside written answers => exact .inl ⟨written, answers⟩
    | inside stream heard handed written =>
        exact .inr ⟨stream, heard, (List.prefix_append _ _).trans handed, written⟩
  silent := standing.silent

end Standing

/-! ## All that can happen -/

namespace Server

/-- A server after some events, and the notes of all connections.  Messages reach a connection by
its mailbox only, and time may pass between events. -/
inductive Reaches (start : Server) : ServerLog → Server → Prop where
  | refl : Reaches start [] start
  | event {log : ServerLog} {server : Server} {event : ServerEvent} :
      Reaches start log server →
      (∀ id message room, event ≠ .connection id (.told message) room) →
      Reaches start (log ++ server.noted event) (server.step event).1
  | wait {log : ServerLog} {server : Server} {moment : Moment} :
      Reaches start log server → server.emulation.now ≤ moment →
      Reaches start log { server with emulation := { server.emulation with now := moment } }

/-- The notes of a run. -/
def logOf (server : Server) : List ServerEvent → ServerLog
  | [] => []
  | event :: later => server.noted event ++ (server.step event).1.logOf later

theorem Reaches.run {start server : Server} {log : ServerLog} (reached : start.Reaches log server)
    {events : List ServerEvent}
    (honest : ∀ event ∈ events, ∀ id message room, event ≠ .connection id (.told message) room) :
    start.Reaches (log ++ server.logOf events) (server.run events).1 := by
  induction events generalizing log server with
  | nil => exact (List.append_nil log).symm ▸ reached
  | cons event later ih =>
      have first := reached.event (honest event List.mem_cons_self)
      rw [logOf, ← List.append_assoc]
      exact ih first fun event' member => honest event' (List.mem_cons_of_mem _ member)

/-- What holds of a server at any time. -/
structure Kept (c : EmulatorConfig) (log : ServerLog) (server : Server) : Prop where
  /-- The settings stay the same. -/
  config : server.config = c
  /-- The dispatcher is always able to answer. -/
  valid : server.emulation.dispatcher.Valid
  /-- What holds of each seat. -/
  standing : ∀ id,
    Standing (Handshake.requestWith c.secret) (log.notesOf id) (server.seat id)

theorem applyEffects_frame (server : Server) (id : SessionId) (effects : List ConnectionEffect) :
    (server.applyEffects id effects).1.config = server.config ∧
      (server.applyEffects id effects).1.emulation.dispatcher = server.emulation.dispatcher := by
  induction effects generalizing server with
  | nil => exact ⟨rfl, rfl⟩
  | cons effect later ih =>
      obtain ⟨config, dispatcher⟩ := ih (server.applyEffect id effect).1
      rw [applyEffects]
      cases effect <;> exact ⟨config, dispatcher⟩

theorem connectionStep_frame (server : Server) (id : SessionId) (event : ConnectionEvent)
    (room : Option Nat) :
    (server.connectionStep id event room).1.config = server.config ∧
      (server.connectionStep id event room).1.emulation.dispatcher =
        server.emulation.dispatcher := by
  unfold connectionStep
  split
  next => exact ⟨rfl, rfl⟩
  next => exact applyEffects_frame _ _ _

theorem dispatcher_step (e : Emulation) :
    e.step.dispatcher = e.dispatcher ∨
      ∃ request, e.step.dispatcher = (e.dispatcher.handle request).1 := by
  cases queued : e.queue with
  | nil =>
      rw [Emulation.step, queued]
      exact .inl rfl
  | cons request later =>
      cases stopped : e.stopped with
      | true =>
          refine .inl ?_
          simp only [Emulation.step, queued, Emulation.handle, stopped, if_true]
      | false =>
          obtain ⟨sessions, answers, stepped⟩ := Emulation.step_eq stopped queued
          rw [stepped]
          exact .inr ⟨request, rfl⟩

/-- Only a request changes the dispatcher, and nothing changes the settings. -/
theorem step_frame (server : Server) (event : ServerEvent) :
    (server.step event).1.config = server.config ∧
      ((server.step event).1.emulation.dispatcher = server.emulation.dispatcher ∨
        ∃ request, (server.step event).1.emulation.dispatcher =
          (server.emulation.dispatcher.handle request).1) := by
  cases event with
  | accept =>
      rw [step, accept]
      split
      next => exact ⟨rfl, .inl rfl⟩
      next =>
        split
        next => exact ⟨rfl, .inl rfl⟩
        next => exact ⟨rfl, .inl rfl⟩
  | connection id event room =>
      simp only [step]
      split
      next => exact ⟨rfl, .inl rfl⟩
      next =>
        obtain ⟨config, dispatcher⟩ := server.connectionStep_frame id event room
        exact ⟨config, .inl dispatcher⟩
  | deliver id room =>
      simp only [step, deliver]
      split
      next => exact ⟨rfl, .inl rfl⟩
      next message sessions _ =>
        obtain ⟨config, dispatcher⟩ := connectionStep_frame
          { server with emulation := { server.emulation with sessions := sessions } } id
          (.told message) room
        exact ⟨config, .inl dispatcher⟩
  | dispatch =>
      have stepped := dispatcher_step server.emulation
      simp only [step, dispatch]
      split
      next => exact ⟨rfl, stepped⟩
      next => exact ⟨rfl, stepped⟩
  | powerTimer timer => simp only [step]; split <;> exact ⟨rfl, .inl rfl⟩
  | inquire inquiry => simp only [step, inquire]; split <;> exact ⟨rfl, .inl rfl⟩
  | submit caller =>
      simp only [step, submit]
      split
      next => exact ⟨rfl, .inl rfl⟩
      next => split <;> exact ⟨rfl, .inl rfl⟩
  | shutdown => simp only [step]; split <;> exact ⟨rfl, .inl rfl⟩
  | cancel => simp only [step]; split <;> exact ⟨rfl, .inl rfl⟩
  | stop => simp only [step]; split <;> exact ⟨rfl, .inl rfl⟩

theorem Kept.event {c : EmulatorConfig} {log : ServerLog} {server : Server}
    (kept : server.Kept c log) {event : ServerEvent}
    (honest : ∀ id message room, event ≠ .connection id (.told message) room) :
    (server.step event).1.Kept c (log ++ server.noted event) := by
  obtain ⟨config, dispatcher⟩ := server.step_frame event
  refine ⟨config.trans kept.config, ?_, fun id => ?_⟩
  · rcases dispatcher with same | ⟨request, handled⟩
    · exact same ▸ kept.valid
    · exact handled ▸ (Dispatcher.step_handle kept.valid request).valid kept.valid
  · rw [ServerLog.notesOf_append]
    exact (kept.standing id).turn (by rw [kept.config]) (turn kept.valid honest id)

theorem Reaches.kept {c : EmulatorConfig} {start server : Server} {log : ServerLog}
    (first : start.Kept c []) (reached : start.Reaches log server) : server.Kept c log := by
  induction reached with
  | refl => exact first
  | event _ honest ih => exact ih.event honest
  | wait _ _ ih => exact ⟨ih.config, ih.valid, ih.standing⟩

/-- A server starts with a dispatcher, and with nothing else. -/
theorem eq_of_start {ν π : Type} [Net.Network ν π] {c : EmulatorConfig} {network : ν}
    {server : Server} (started : start c network = .ok server) :
    ∃ dispatcher address, Dispatcher.ofConfig c = .ok dispatcher ∧
      server = { config := c, address := address, emulation := { dispatcher := dispatcher } } := by
  unfold start Emulation.ofConfig at started
  cases read : Dispatcher.ofConfig c with
  | error fault =>
      rw [read] at started
      cases started
  | ok dispatcher =>
      rw [read] at started
      simp only [Except.map, bind, Except.bind] at started
      split at started
      next address _ => exact ⟨dispatcher, address, rfl, (Except.ok.inj started).symm⟩
      next => cases started

theorem kept_start {ν π : Type} [Net.Network ν π] {c : EmulatorConfig} {network : ν}
    {server : Server} (started : start c network = .ok server) : server.Kept c [] := by
  obtain ⟨dispatcher, address, read, rfl⟩ := eq_of_start started
  refine ⟨rfl, Dispatcher.valid_ofConfig read, fun id => ?_⟩
  by_cases numbered : id ≤ 0
  · exact .gone numbered rfl rfl (.outside List.nil_prefix rfl rfl) .nil
  · exact .vacant numbered rfl rfl rfl rfl

/-- However many clients there are, and in whatever order things happen, each client sees on its
connection what came of its own packets, in their order, and nothing else. -/
theorem shown_of_reaches {ν π : Type} [Net.Network ν π] {c : EmulatorConfig} {network : ν}
    {first server : Server} {log : ServerLog} (started : start c network = .ok first)
    (reached : first.Reaches log server) (id : SessionId) :
    ConnectionNote.Shown (Handshake.requestWith c.secret) (log.notesOf id) :=
  ((reached.kept (kept_start started)).standing id).shown

/-- Two clients are served.  The second one asks for what it may not and is refused; the first one
switches the projector on and asks for its state in the same chunk, and is answered in two steps. -/
theorem shown_of_reaches_twoClients :
    let on : Packet := ⟨.basicCommand, .ofChars 'P' 'W', [0x31], by decide, by decide, by decide⟩
    let query : Packet :=
      ⟨.advancedCommand, .ofChars 'P' 'W', [], by decide, by decide, by decide⟩
    let events : List ServerEvent := [.accept, .accept, .connection 1 .start none,
      .connection 2 .start none, .connection 1 (.received Handshake.request) none,
      .connection 2 (.received Handshake.refused) none,
      .connection 1 (.received (on.bytes ++ query.bytes)) none, .dispatch, .deliver 1 none,
      .dispatch, .deliver 1 none]
    ∃ first, start {} ({} : Net.Isolated) = .ok first ∧
      written ((first.logOf events).notesOf 2) = Handshake.greeting ++ Handshake.refused ∧
      written ((first.logOf events).notesOf 1) = Handshake.greeting ++ (Handshake.accepted ++
        (on.acknowledgement.bytes ++ (query.acknowledgement.bytes ++
          (query.answering [0x33] (by decide) (by decide)).bytes))) ∧
      heard ((first.logOf events).notesOf 1) = Handshake.request ++ (on.bytes ++ query.bytes) ∧
      ConnectionNote.Shown (Handshake.requestWith none) ((first.logOf events).notesOf 1) := by
  intro on query events
  have computed : ∃ first, start {} ({} : Net.Isolated) = .ok first ∧
      written ((first.logOf events).notesOf 2) = Handshake.greeting ++ Handshake.refused ∧
      written ((first.logOf events).notesOf 1) = Handshake.greeting ++ (Handshake.accepted ++
        (on.acknowledgement.bytes ++ (query.acknowledgement.bytes ++
          (query.answering [0x33] (by decide) (by decide)).bytes))) ∧
      heard ((first.logOf events).notesOf 1) = Handshake.request ++ (on.bytes ++ query.bytes) :=
    ⟨_, rfl, by decide +kernel⟩
  obtain ⟨first, started, second, answered, sent⟩ := computed
  have honest : ∀ event ∈ events, ∀ id message room,
      event ≠ .connection id (.told message) room := by
    simp [events]
  have reached : first.Reaches (first.logOf events) (first.run events).1 :=
    (Reaches.refl : first.Reaches [] first).run honest
  exact ⟨first, started, second, answered, sent, shown_of_reaches started reached 1⟩

/-- As long as a client is inside, what it was not sent yet of all that came of its packets waits in
its mailbox. -/
theorem unsent {ν π : Type} [Net.Network ν π] {c : EmulatorConfig} {network : ν}
    {first server : Server} {log : ServerLog} (started : start c network = .ok first)
    (reached : first.Reaches log server) {id : SessionId} {connection : Connection}
    (served : server.connection? id = some connection)
    (inside : connection.session.state = .ready) :
    let notes := log.notesOf id
    ∃ mailbox, server.emulation.sessions.mailbox? id = some mailbox ∧
      written notes ++ outgoing mailbox = Handshake.greeting ++ (Handshake.accepted ++
        outgoing ((answers notes).flatMap fun answer => told answer.2)) := by
  cases (reached.kept (kept_start started)).standing id with
  | vacant _ none => exact nomatch served.symm.trans none
  | gone _ none => exact nomatch served.symm.trans none
  | taken _ mailbox _ found said _ _ _ stage =>
      obtain rfl := Option.some.inj (served.symm.trans found)
      refine ⟨mailbox, said, ?_⟩
      cases stage with
      | fresh state => exact nomatch inside.symm.trans state
      | asking state => exact nomatch inside.symm.trans state
      | inside _ _ sent _ _ _ _ _ _ messages wrote =>
          change (answers (log.notesOf id)).flatMap (fun answer => told answer.2) = _ at messages
          change written (log.notesOf id) = _ at wrote
          rw [messages, SessionMessage.outgoing_sends, wrote]
          simp only [List.append_assoc]

end Server

end ProjectorControl
