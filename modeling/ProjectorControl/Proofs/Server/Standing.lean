import ProjectorControl.Proofs.Server.Stage

/-!
# What holds of a seat

An open connection goes on to another stage or ends, whatever happens to it
(`Connection.became_step`, `Connection.became_told`).  So a seat is vacant, or taken by a connection
at some stage, or it was left by one that has ended, of which no more can be seen than what came of
the packets it has left in the queue.  `Standing` says so, and every turn keeps it
(`Standing.turn`).
-/

namespace ProjectorControl

open ConnectionEffect (handed)
open ConnectionNote (heard answers written)
open Seen (Settled)
open SessionAction (said dispatched)
open SessionMessage (told)

/-! ## An event of a connection -/

theorem Session.Step.expected_eq {s after : Session} {call : SessionCall}
    {result : Except Error (List SessionAction)} (step : s.Step call result after) :
    after.expected = s.expected := by
  cases step <;> rfl

namespace Connection

/-- What becomes of an open connection of which something was seen. -/
inductive Became (expected : Bytes) (a : Seen) (mailbox : List SessionMessage) (stopped : Bool)
    (bytes : Bytes) : Connection → List ConnectionEffect → Prop where
  /-- It goes on. -/
  | goes {after : Connection} (effects : List ConnectionEffect) :
      after.ended = false → after.session.expected = expected → .hangUp ∉ effects →
      Stage expected (a.grown bytes (ConnectionEffect.written effects) (handed effects))
        after.session mailbox stopped →
      Became expected a mailbox stopped bytes after effects
  /-- It ends. -/
  | ends {after : Connection} (effects : List ConnectionEffect) :
      .hangUp ∉ effects →
      Settled expected (a.grown bytes (ConnectionEffect.written effects) (handed effects)) →
      Became expected a mailbox stopped bytes after (effects ++ [.hangUp])

variable {expected : Bytes} {a : Seen} {c : Connection} {mailbox : List SessionMessage}
  {stopped : Bool}

theorem became_finish {bytes : Bytes} (settled : Settled expected (a.grown bytes [] []))
    (c : Connection) : Became expected a mailbox stopped bytes c.finish.1 c.finish.2 :=
  .ends [] List.not_mem_nil settled

/-- A connection that does nothing stays at its stage. -/
theorem became_idle (running : c.ended = false) (same : c.session.expected = expected)
    (stage : Stage expected a c.session mailbox stopped) :
    Became expected a mailbox stopped [] c [] :=
  .goes [] running same List.not_mem_nil (a.grown_nil.symm ▸ stage)

/-- The actions of a session are carried out in part, or all of them. -/
theorem became_perform {s : Session} (stage : Stage expected a s mailbox stopped)
    {call : SessionCall} {actions : List SessionAction}
    (step : s.Step call (.ok actions) c.session)
    (asked : call ≠ .beginClose ∧ call ≠ .finishClose) (running : c.ended = false)
    (same : s.expected = expected) (now : Moment) (room : Option Nat) :
    Became expected a mailbox stopped (s.reads call)
      (c.perform now { room := room, dispatching := !stopped } actions).1
      (c.perform now { room := room, dispatching := !stopped } actions).2 := by
  have performed := c.performed now { room := room, dispatching := !stopped } actions
  generalize c.perform now { room := room, dispatching := !stopped } actions = outcome at performed
  obtain ⟨after, effects⟩ := outcome
  simp only at performed ⊢
  have refused : stopped = true → (!stopped) = false := fun stop => by rw [stop]; rfl
  cases performed with
  | through effects going usual writes hands none =>
      refine .goes effects running (step.expected_eq.trans same) usual ?_
      rw [writes, hands]
      exact stage.goes step asked same going fun stop => hands ▸ none (refused stop)
  | ended effects usual writes hands none =>
      exact .ends effects usual
        (stage.settles step same writes hands fun stop => none (refused stop))

theorem became_follow (stage : Stage expected a c.session mailbox stopped) (call : SessionCall)
    (asked : call ≠ .beginClose ∧ call ≠ .finishClose) (running : c.ended = false)
    (same : c.session.expected = expected) (now : Moment) (room : Option Nat) :
    Became expected a mailbox stopped (c.session.reads call)
      (c.follow now { room := room, dispatching := !stopped } (c.session.call call)).1
      (c.follow now { room := room, dispatching := !stopped } (c.session.call call)).2 := by
  obtain ⟨result, after, called, step⟩ := c.session.exists_step call
  rw [called]
  cases result with
  | error fault => exact became_finish (stage.settles_of_fault step) _
  | ok actions =>
      exact became_perform (c := { c with session := after }) stage step asked running same now room

theorem heard_reading (c : Connection) (event : ConnectionEvent) :
    heard (c.reading event) =
      match event with
      | .received bytes => c.session.reads (.receive bytes)
      | _ => [] := by
  cases event with
  | received bytes =>
      simp only [reading, Session.reads]
      split <;> simp [heard]
  | _ => rfl

/-- Whatever happens to an open connection, apart from what it is told. -/
theorem became_step (stage : Stage expected a c.session mailbox stopped)
    (running : c.ended = false) (same : c.session.expected = expected) {event : ConnectionEvent}
    (honest : ∀ message, event ≠ .told message) (now : Moment) (room : Option Nat) :
    Became expected a mailbox stopped (heard (c.reading event))
      (c.step now { room := room, dispatching := !stopped } event).1
      (c.step now { room := room, dispatching := !stopped } event).2 := by
  rw [heard_reading]
  cases event with
  | start =>
      simp only [step, running, Bool.false_eq_true, if_false]
      exact became_follow stage .connect ⟨nofun, nofun⟩ running same now room
  | received bytes =>
      simp only [step, running, Bool.false_eq_true, if_false]
      exact became_follow stage (.receive bytes) ⟨nofun, nofun⟩ running same now room
  | lost =>
      simp only [step, running, Bool.false_eq_true, if_false]
      exact became_finish (a.grown_nil.symm ▸ stage.settled) c
  | cancelled =>
      simp only [step, running, Bool.false_eq_true, if_false]
      exact became_finish (a.grown_nil.symm ▸ stage.settled) c
  | told message => exact absurd rfl (honest message)
  | expired =>
      rw [step, if_neg (by simp [running])]
      cases c.timer with
      | none =>
          exact became_idle running same stage
      | some timer =>
          simp only
          split
          next =>
            have step := c.session.step_expire timer.timer
            exact became_perform
              (c := { c with session := (c.session.expire timer.timer).2, timer := none }) stage
              step ⟨nofun, nofun⟩ running same now room
          next => exact became_idle running same stage

theorem said_writes (packets : List Packet) :
    (said (packets.map fun p => .write p.bytes)).flatten = packets.flatMap Packet.bytes := by
  induction packets with
  | nil => rfl
  | cons packet later ih =>
      rw [List.map_cons, ← List.singleton_append, SessionAction.said_append, List.flatten_append,
        ih, List.flatMap_cons]
      simp [said]

theorem dispatched_writes (packets : List Packet) :
    dispatched (packets.map fun p => .write p.bytes) = [] := by
  induction packets with
  | nil => rfl
  | cons packet later ih => exact ih

theorem became_told {message : SessionMessage} {later : List SessionMessage}
    (stage : Stage expected a c.session (message :: later) stopped) (running : c.ended = false)
    (same : c.session.expected = expected) (now : Moment) (room : Option Nat) :
    Became expected a later stopped []
      (c.step now { room := room, dispatching := !stopped } (.told message)).1
      (c.step now { room := room, dispatching := !stopped } (.told message)).2 := by
  simp only [step, running, Bool.false_eq_true, if_false]
  cases message with
  | close => exact became_finish (a.grown_nil.symm ▸ stage.settled) c
  | send packets =>
      have performed := c.performed now { room := room, dispatching := !stopped }
        (packets.map fun p => .write p.bytes)
      simp only
      generalize c.perform now { room := room, dispatching := !stopped }
        (packets.map fun p => .write p.bytes) = outcome at performed
      obtain ⟨after, effects⟩ := outcome
      simp only at performed ⊢
      cases performed with
      | through effects _ usual writes hands =>
          rw [said_writes] at writes
          rw [dispatched_writes] at hands
          refine .goes effects running same usual ?_
          rw [writes, hands]
          exact stage.goes_send
      | ended effects usual writes hands =>
          rw [said_writes] at writes
          rw [dispatched_writes] at hands
          refine .ends effects usual ?_
          rw [List.prefix_nil.mp hands]
          exact stage.settles_send writes

end Connection

/-! ## Seats -/

namespace ConnectionNote

/-- Nothing is sent behind the end of a connection. -/
def Silent (notes : List ConnectionNote) : Prop :=
  notes.Pairwise fun earlier later => earlier = .hungUp → ∀ bytes, later ≠ .wrote bytes

theorem silent_of_open {notes : List ConnectionNote} (going : .hungUp ∉ notes) : Silent notes := by
  induction notes with
  | nil => exact .nil
  | cons note later ih =>
      rw [List.mem_cons, not_or] at going
      exact .cons (fun _ _ ended => absurd ended.symm going.1) (ih going.2)

theorem silent_concat {notes : List ConnectionNote} (silent : Silent notes) {note : ConnectionNote}
    (quiet : ∀ bytes, note ≠ .wrote bytes) : Silent (notes ++ [note]) := by
  refine List.pairwise_append.mpr ⟨silent, List.pairwise_singleton _ _, ?_⟩
  intro earlier _ later last _
  exact List.mem_singleton.mp last ▸ quiet

/-- What was seen of a connection, by its notes and its packets in the queue. -/
def seen (notes : List ConnectionNote) (waiting : List Packet) : Seen where
  heard := heard notes
  written := written notes
  answers := answers notes
  waiting := waiting

theorem answers_reading (c : Connection) (event : ConnectionEvent) :
    answers (c.reading event) = [] := by
  cases event with
  | received bytes => simp only [Connection.reading]; split <;> rfl
  | _ => rfl

theorem written_reading (c : Connection) (event : ConnectionEvent) :
    written (c.reading event) = [] := by
  cases event with
  | received bytes => simp only [Connection.reading]; split <;> rfl
  | _ => rfl

theorem notes_effects (effects : List ConnectionEffect) :
    heard (effects.filterMap ConnectionEffect.note?) = [] ∧
      answers (effects.filterMap ConnectionEffect.note?) = [] ∧
      written (effects.filterMap ConnectionEffect.note?) = ConnectionEffect.written effects := by
  induction effects with
  | nil => exact ⟨rfl, rfl, rfl⟩
  | cons effect later ih =>
      obtain ⟨heardNone, answersNone, writes⟩ := ih
      cases effect with
      | write bytes => exact ⟨heardNone, answersNone, congrArg (bytes ++ ·) writes⟩
      | dispatch packet => exact ⟨heardNone, answersNone, writes⟩
      | hangUp => exact ⟨heardNone, answersNone, writes⟩

theorem seen_grown (notes : List ConnectionNote) (waiting : List Packet) (c : Connection)
    (event : ConnectionEvent) (effects : List ConnectionEffect) :
    seen (notes ++ (c.reading event ++ effects.filterMap ConnectionEffect.note?))
        (waiting ++ handed effects) =
      (seen notes waiting).grown (heard (c.reading event))
        (ConnectionEffect.written effects) (handed effects) := by
  obtain ⟨heardNone, answersNone, writes⟩ := notes_effects effects
  simp only [seen, Seen.grown, heard_append, written_append, answers_append, heardNone,
    answersNone, writes, answers_reading, written_reading, List.append_nil, List.nil_append]

/-- The end of a connection shows nothing. -/
theorem seen_hungUp (notes : List ConnectionNote) (waiting : List Packet) :
    seen (notes ++ [.hungUp]) waiting = seen notes waiting := by
  simp [seen, heard, written, answers]

theorem seen_answered (notes : List ConnectionNote) (packet : Packet) (later : List Packet)
    (result : Except Error (Option (List Packet))) :
    seen (notes ++ [.answered packet result]) later =
      (seen notes (packet :: later)).answered packet result later := by
  simp [seen, Seen.answered, heard, written, answers]

theorem not_hungUp_reading (c : Connection) (event : ConnectionEvent) :
    .hungUp ∉ c.reading event := by
  cases event with
  | received bytes => simp only [Connection.reading]; split <;> simp
  | _ => exact List.not_mem_nil

theorem not_hungUp_effects {effects : List ConnectionEffect} (going : .hangUp ∉ effects) :
    .hungUp ∉ effects.filterMap ConnectionEffect.note? := by
  intro member
  obtain ⟨effect, among, noted⟩ := List.mem_filterMap.mp member
  cases effect with
  | write => cases noted
  | dispatch => cases noted
  | hangUp => exact going among

end ConnectionNote

open ConnectionNote (seen Silent)

/-- What holds of a seat of which some notes were made. -/
inductive Standing (expected : Bytes) (notes : List ConnectionNote) (seat : Seat) : Prop where
  /-- Nobody has taken it. -/
  | vacant :
      ¬ seat.opened → seat.connection? = none → seat.mailbox? = none → notes = [] →
      seat.waiting = [] → Standing expected notes seat
  /-- A connection has it. -/
  | taken (c : Connection) (mailbox : List SessionMessage) :
      seat.opened → seat.connection? = some c → seat.mailbox? = some mailbox → c.ended = false →
      c.session.expected = expected → .hungUp ∉ notes →
      Stage expected (seen notes seat.waiting) c.session mailbox seat.stopped →
      Standing expected notes seat
  /-- A connection has had it. -/
  | gone :
      seat.opened → seat.connection? = none → seat.mailbox? = none →
      Settled expected (seen notes seat.waiting) → Silent notes → Standing expected notes seat

namespace Standing

variable {expected : Bytes} {notes : List ConnectionNote} {seat : Seat}

/-- What becomes of a connection becomes of its seat. -/
theorem of_became (c : Connection) (event : ConnectionEvent) {after : Connection}
    {mailbox : List SessionMessage} {effects : List ConnectionEffect} (opened : seat.opened)
    (told : seat.mailbox? = some mailbox) (going : .hungUp ∉ notes)
    (became : Connection.Became expected (seen notes seat.waiting) mailbox seat.stopped
      (heard (c.reading event)) after effects) :
    Standing expected
      (notes ++ (c.reading event ++ effects.filterMap ConnectionEffect.note?))
      ({ seat with connection? := some after }.left effects) := by
  have unread := ConnectionNote.not_hungUp_reading c event
  cases became with
  | goes effects running same usual stage =>
      have noted := ConnectionNote.not_hungUp_effects usual
      refine .taken after mailbox opened (if_neg usual) ((if_neg usual).trans told) running same
        ?_ ?_
      · simp only [List.mem_append, going, unread, noted, or_self, not_false_eq_true]
      · exact ConnectionNote.seen_grown notes seat.waiting c event effects ▸ stage
  | ends effects usual settled =>
      have noted := ConnectionNote.not_hungUp_effects usual
      have last : ConnectionEffect.hangUp ∈ effects ++ [.hangUp] := List.mem_concat_self
      have handedOver : handed (effects ++ [.hangUp]) = handed effects := by
        simp [handed]
      have split : notes ++ (c.reading event ++
            (effects ++ [ConnectionEffect.hangUp]).filterMap ConnectionEffect.note?) =
          notes ++ (c.reading event ++ effects.filterMap ConnectionEffect.note?) ++ [.hungUp] := by
        simp [ConnectionEffect.note?]
      rw [split]
      refine .gone opened (if_pos last) (if_pos last) ?_
        (ConnectionNote.silent_concat (ConnectionNote.silent_of_open ?_)
          fun _ => ConnectionNote.noConfusion)
      · rw [ConnectionNote.seen_hungUp]
        simp only [Seat.left, handedOver]
        exact ConnectionNote.seen_grown notes seat.waiting c event effects ▸ settled
      · simp only [List.mem_append, going, unread, noted, or_self, not_false_eq_true]

/-- What happens to the connection at a seat. -/
theorem serve (standing : Standing expected notes seat) {event : ConnectionEvent}
    (honest : ∀ message, event ≠ .told message) (now : Moment) (room : Option Nat) :
    Standing expected
      (notes ++ ((seat.connection?.elim [] fun c => c.reading event) ++
        (seat.serve now room event).2.filterMap ConnectionEffect.note?))
      (seat.serve now room event).1 := by
  cases standing with
  | vacant unopened none untold silent waiting =>
      simp only [Seat.serve, none, silent]
      exact .vacant unopened none untold rfl waiting
  | gone opened none untold settled silent =>
      simp only [Seat.serve, none]
      exact .gone opened none untold (by simpa using settled) (by simpa using silent)
  | taken c mailbox opened found told running same going stage =>
      simp only [Seat.serve, found]
      exact of_became c event opened told going
        (Connection.became_step stage running same honest now room)

/-- A message is taken from the mailbox at a seat. -/
theorem deliver (standing : Standing expected notes seat) {message : SessionMessage}
    {later : List SessionMessage} (front : seat.mailbox? = some (message :: later)) (now : Moment)
    (room : Option Nat) :
    Standing expected
      (notes ++ ({ seat with mailbox? := some later }.serve now room
        (.told message)).2.filterMap ConnectionEffect.note?)
      ({ seat with mailbox? := some later }.serve now room (.told message)).1 := by
  cases standing with
  | vacant _ _ untold => exact nomatch front.symm.trans untold
  | gone _ _ untold => exact nomatch front.symm.trans untold
  | taken c mailbox opened found told running same going stage =>
      obtain rfl := Option.some.inj (told.symm.trans front)
      simp only [Seat.serve, found]
      have emptied : Seat.opened { seat with mailbox? := some later } := opened
      exact of_became c (.told message) emptied rfl going
        (Connection.became_told stage running same now room)

/-- The first packet of a seat that waits is carried out. -/
theorem answered (standing : Standing expected notes seat) {packet : Packet}
    {later : List Packet} (queued : seat.waiting = packet :: later)
    (result : Except Error (Option (List Packet))) :
    Standing expected (notes ++ [.answered packet result])
      { seat with waiting := later, mailbox? := seat.mailbox?.map (· ++ told result) } := by
  have seenAfter : seen (notes ++ [.answered packet result]) later =
      (seen notes seat.waiting).answered packet result later := by
    rw [ConnectionNote.seen_answered, queued]
  cases standing with
  | vacant _ _ _ _ none => exact nomatch queued.symm.trans none
  | gone opened none untold settled silent =>
      refine .gone opened none (by simp [untold]) ?_
        (ConnectionNote.silent_concat silent fun _ => ConnectionNote.noConfusion)
      exact seenAfter ▸ settled.answered queued result
  | taken c mailbox opened found said running same going stage =>
      refine .taken c (mailbox ++ told result) opened found (by simp [said]) running same
        (by simpa using going) ?_
      exact seenAfter ▸ stage.answered queued result

/-- What waits for the dispatcher is forgotten. -/
theorem stops (standing : Standing expected notes seat) :
    Standing expected notes { seat with waiting := [], stopped := true } := by
  cases standing with
  | vacant unopened none untold silent => exact .vacant unopened none untold silent rfl
  | gone opened none untold settled silent => exact .gone opened none untold settled.forgets silent
  | taken c mailbox opened found said running same going stage =>
      exact .taken c mailbox opened found said running same going stage.stops

/-- A turn of a seat keeps what holds of it. -/
theorem turn {config : EmulatorConfig} (standing : Standing expected notes seat)
    (same : expected = Handshake.requestWith config.secret) {more : List ConnectionNote}
    {after : Seat} (turn : Seat.Turn config seat more after) :
    Standing expected (notes ++ more) after := by
  cases turn with
  | still => exact (List.append_nil notes).symm ▸ standing
  | opens unopened =>
      cases standing with
      | taken _ _ opened => exact absurd opened unopened
      | gone opened => exact absurd opened unopened
      | vacant _ none untold silent waiting =>
          subst silent
          refine .taken (.ofConfig config) [] trivial (by simp [none]) (by simp [untold]) rfl
            same.symm List.not_mem_nil (.fresh rfl rfl rfl ?_ rfl)
          simp only [waiting]
          rfl
  | happens honest => exact standing.serve honest _ _
  | delivers front => exact standing.deliver front _ _
  | answers result queued running => exact standing.answered queued result
  | stops => exact (List.append_nil notes).symm ▸ standing.stops

end Standing

end ProjectorControl
