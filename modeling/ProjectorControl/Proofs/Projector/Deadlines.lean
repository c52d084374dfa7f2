import ProjectorControl.Proofs.Projector.Arming
import ProjectorControl.Proofs.Session.Representation

/-!
# The timer of a connection

The place for a timer belongs to the connection, and the state that says which timer it should be
belongs to the session.  `Connection.Watches` says how the two go together: a connection whose
session waits for a request has the handshake timer in it, and one whose session is ready the idle
timer.

The session keeps the two together by what it asks for, and the connection goes on only if it has
carried out all of it (`Connection.Turned`).  Whichever timer expires, the session wants to close,
so no connection goes on without one.  Bytes that leave a session waiting (`Session.Undecided`) ask
for nothing, and so they do not put off when the timer expires.

A `ConnectionRun` records what was carried out over any number of turns, whatever happens in them,
and `ConnectionRun.Timed` is what is known after each: the timer is the one that was armed last, and
the record is what was seen of the connection.
-/

namespace ProjectorControl

open SessionAction (said dispatched serve)
open Framing (frames)

/-! ## Bytes that decide nothing -/

namespace Session

/-- Bytes that leave a session waiting: they decide nothing about its request, and they complete no
packet and are no fault. -/
structure Undecided (s : Session) (bytes : Bytes) : Prop where
  /-- They are a further part of the request, but not its last. -/
  asking : s.state = .authenticating →
    s.request ++ bytes <+: s.expected ∧ s.request ++ bytes ≠ s.expected
  /-- They are a further part of a packet, but not its last. -/
  reading : s.state = .ready →
    (frames (s.decoder.buffer ++ bytes)).packets = [] ∧
      (frames (s.decoder.buffer ++ bytes)).fault = none

/-- Bytes that leave a session waiting ask for nothing. -/
theorem Undecided.receive {s : Session} {bytes : Bytes} (undecided : s.Undecided bytes)
    (resting : s.decoder.Resting) : (s.receive bytes).1 = .ok [] := by
  have step := s.step_receive bytes
  generalize (s.receive bytes).1 = result at step ⊢
  generalize (s.receive bytes).2 = after at step
  cases step with
  | await => rfl
  | accept state whole => exact absurd whole (undecided.asking state).2
  | refuse state wrong => exact absurd (undecided.asking state).1 wrong
  | serve state drained =>
      rw [resting.drain_feed bytes] at drained
      simp only [Prod.mk.injEq, (undecided.reading state).1] at drained
      obtain ⟨⟨rfl, -⟩, -⟩ := drained
      rfl
  | fail state drained =>
      rw [resting.drain_feed bytes] at drained
      simp only [Prod.mk.injEq, (undecided.reading state).2] at drained
      exact nomatch drained.1.2
  | ignore => rfl

end Session

/-! ## The timer and the state -/

namespace Connection

/-- Where a session stands, the timer that runs, and how often its acceptance was sent. -/
inductive Watches : SessionState → Option ArmedTimer → Nat → Prop where
  | handshake (due : Moment) : Watches .authenticating (some ⟨.handshake, due⟩) 0
  | idle (due : Moment) : Watches .ready (some ⟨.idle, due⟩) 1

/-- A timer runs, and it is the one that belongs to the state. -/
theorem Watches.exists_armed {state : SessionState} {timer : Option ArmedTimer} {count : Nat}
    (watches : Watches state timer count) :
    ∃ armed, timer = some armed ∧
      (state = .authenticating ∧ armed.timer = .handshake ∨
        state = .ready ∧ armed.timer = .idle) := by
  cases watches with
  | handshake due => exact ⟨_, rfl, .inl ⟨rfl, rfl⟩⟩
  | idle due => exact ⟨_, rfl, .inr ⟨rfl, rfl⟩⟩

theorem Watches.count_le {state : SessionState} {timer : Option ArmedTimer} {count : Nat}
    (watches : Watches state timer count) : count ≤ 1 := by
  cases watches with
  | handshake due => exact Nat.zero_le 1
  | idle due => exact Nat.le_refl 1

variable {c after : Connection} {now : Moment} {actions : List SessionAction} {count : Nat}

namespace Prepared

/-- Whatever is to be done, the idle timer is armed where it should be. -/
theorem paired (prepared : c.Prepared after actions) : SessionAction.Paired actions := by
  cases prepared with
  | answer step => exact step.paired
  | expire _ step => exact step.paired
  | send packets => exact .map_write packets

/-- Packets that are sent are no acceptance. -/
theorem count_accepted_map_write (packets : List Packet) :
    (said (packets.map fun p => .write p.bytes)).count Handshake.accepted = 0 := by
  refine List.count_eq_zero.mpr fun member => ?_
  obtain ⟨action, member, same⟩ := List.mem_filterMap.mp member
  obtain ⟨packet, -, rfl⟩ := List.mem_map.mp member
  exact packet.bytes_ne_accepted (Option.some.inj same)

/-- Only a connection whose session waits for a request sends its acceptance, and only once. -/
theorem count_accepted (prepared : c.Prepared after actions) :
    (said actions).count Handshake.accepted = 0 ∨
      c.session.state = .authenticating ∧ (said actions).count Handshake.accepted = 1 := by
  cases prepared with
  | answer step => exact step.count_accepted
  | expire _ step => exact step.count_accepted
  | send packets => exact .inl (count_accepted_map_write packets)

/-- The acceptance is sent at most once. -/
theorem count_accepted_le (prepared : c.Prepared after actions)
    (watches : Watches c.session.state c.timer count) :
    count + (said actions).count Handshake.accepted ≤ 1 := by
  have sent := prepared.count_accepted
  generalize c.session.state = state at watches sent
  generalize c.timer = timer at watches
  cases watches with
  | handshake => omega
  | idle =>
      rcases sent with none | ⟨state, -⟩
      · omega
      · cases state

/-- Serving packets leaves the idle timer running. -/
theorem exists_foldl_serve (c : Connection) (now due : Moment) (packets : List Packet) :
    ∃ later, (packets.flatMap serve).foldl (c.rearm now) (some ⟨.idle, due⟩) =
      some ⟨.idle, later⟩ := by
  induction packets generalizing due with
  | nil => exact ⟨due, rfl⟩
  | cons packet later ih =>
      rw [List.flatMap_cons, List.foldl_append]
      exact ih _

/-- Sending packets leaves the timer alone. -/
theorem foldl_map_write (c : Connection) (now : Moment) (timer : Option ArmedTimer)
    (packets : List Packet) :
    (packets.map fun p => .write p.bytes).foldl (c.rearm now) timer = timer := by
  induction packets with
  | nil => rfl
  | cons packet later ih => exact ih

/-- A connection that goes on keeps its timer with its state.  Whichever timer expires, its session
wants to close. -/
theorem watches (prepared : c.Prepared after actions)
    (watches : Watches c.session.state c.timer count) (going : .close ∉ actions) :
    after.timer = c.timer ∧
      Watches after.session.state (actions.foldl (c.rearm now) c.timer)
        (count + (said actions).count Handshake.accepted) := by
  generalize running : c.timer = timer at watches
  cases prepared with
  | answer step which =>
      refine ⟨running, ?_⟩
      cases step with
      | greet state =>
          rw [state] at watches
          cases watches
      | await => exact watches
      | accept state =>
          rw [state] at watches
          cases watches
          exact .idle _
      | refuse => simp at going
      | @serve bytes packets rest state =>
          rw [state] at watches
          cases watches with
          | idle due =>
              obtain ⟨later, foldl⟩ := exists_foldl_serve c now due packets
              rw [foldl, SessionAction.said_serve, state]
              exact .idle later
      | ignore => exact watches
      | _ => simp at which
  | @expire armed actions session armedEq step =>
      obtain ⟨kind, due⟩ := armed
      rw [armedEq] at running
      subst running
      cases step with
      | expireHandshake => simp at going
      | expireIdle => simp at going
      | expireStale early late =>
          generalize c.session.state = state at watches early late
          cases watches with
          | handshake => exact absurd ⟨rfl, rfl⟩ early
          | idle => exact absurd ⟨rfl, rfl⟩ late
  | send packets =>
      rw [foldl_map_write, count_accepted_map_write]
      exact ⟨running, watches⟩

/-- A connection that goes on keeps its session regular. -/
theorem regular (prepared : c.Prepared after actions) {password : Option String}
    (regular : c.session.Regular password) (going : .close ∉ actions) :
    after.session.Regular password := by
  cases prepared with
  | answer step which =>
      refine (step.regular regular (fun bytes _ => ⟨_, rfl⟩) fun finish => ?_).1
      simp [finish] at which
  | expire _ step => exact (step.regular regular nofun nofun).1
  | send => exact regular

end Prepared

end Connection

/-! ## Runs of a connection -/

/-- Something that happens to a connection, and when and in which surroundings. -/
structure ConnectionTurn where
  /-- When it happens. -/
  now : Moment
  /-- What the connection meets with. -/
  surroundings : Surroundings
  /-- What happens. -/
  event : ConnectionEvent

/-- A connection that has had some turns. -/
structure ConnectionRun where
  /-- The connection after them. -/
  connection : Connection
  /-- The actions it has carried out, with the moment of each. -/
  done : List (Moment × SessionAction) := []
  /-- What was seen of it. -/
  effects : List ConnectionEffect := []

namespace Connection

/-- What a connection carries out in a turn. -/
def does (c : Connection) (turn : ConnectionTurn) : List SessionAction :=
  if c.ended then []
  else
    match (c.prepare turn.now turn.event).2 with
    | none => []
    | some actions => turn.surroundings.carriedOut actions

end Connection

/-- The actions that were carried out. -/
def ConnectionRun.actions (r : ConnectionRun) : List SessionAction := r.done.map Prod.snd

/-- The connection has one more turn. -/
def ConnectionRun.extend (r : ConnectionRun) (turn : ConnectionTurn) : ConnectionRun :=
  let stepped := r.connection.step turn.now turn.surroundings turn.event
  { connection := stepped.1
    done := r.done ++ (r.connection.does turn).map fun action => (turn.now, action)
    effects := r.effects ++ stepped.2 }

namespace Connection

/-- A connection has turns, one after another. -/
def run (c : Connection) (turns : List ConnectionTurn) : ConnectionRun :=
  turns.foldl ConnectionRun.extend { connection := c }

/-- The timer a connection is left with by what it has carried out. -/
def timerAfter (c : Connection) (done : List (Moment × SessionAction)) : Option ArmedTimer :=
  done.foldl (fun timer deed => c.rearm deed.1 timer deed.2) none

variable {c : Connection} {turn : ConnectionTurn}

theorem does_of_ended (ended : c.ended = true) : c.does turn = [] := by
  unfold does
  rw [if_pos ended]

theorem step_of_ended (ended : c.ended = true) :
    c.step turn.now turn.surroundings turn.event = (c, []) := by
  unfold step
  rw [if_pos ended]

theorem timerAfter_append (c : Connection) (done : List (Moment × SessionAction)) (now : Moment)
    (actions : List SessionAction) :
    c.timerAfter (done ++ actions.map fun action => (now, action)) =
      actions.foldl (c.rearm now) (c.timerAfter done) := by
  rw [timerAfter, List.foldl_append, List.foldl_map]
  rfl

/-- Whatever a connection carries out in a turn, the idle timer is armed where it should be. -/
theorem paired_does (c : Connection) (turn : ConnectionTurn) :
    SessionAction.Paired (c.does turn) := by
  unfold does
  split
  next => exact .nil
  next =>
    split
    next => exact .nil
    next wanted => exact (prepared wanted).paired.carriedOut _

/-- What a turn does to a connection that has not ended: it carries out all it has to do and goes
on, or only the first of it and ends. -/
inductive Turned (c : Connection) (turn : ConnectionTurn) :
    Connection × List ConnectionEffect → Prop where
  | goesOn {next : Connection} {actions : List SessionAction} :
      c.prepare turn.now turn.event = (next, some actions) → .close ∉ actions →
      c.does turn = actions →
      Turned c turn ({ next with timer := actions.foldl (c.rearm turn.now) next.timer },
        actions.flatMap SessionAction.shown)
  | ends {next after : Connection} {actions : List SessionAction}
      {last : List ConnectionEffect} :
      c.Prepared next actions → c.does turn <+: actions → after.ended = true → Farewell last →
      Turned c turn (after, (c.does turn).flatMap SessionAction.shown ++ last)

theorem turned (going : c.ended = false) (turn : ConnectionTurn) :
    c.Turned turn (c.step turn.now turn.surroundings turn.event) := by
  rw [step_eq going]
  cases wanted : (c.prepare turn.now turn.event).2 with
  | none =>
      have does : c.does turn = [] := by
        simp only [Connection.does, going, wanted, Bool.false_eq_true, if_false]
      have ended : (c.prepare turn.now turn.event).1.finish.1.ended = true := rfl
      have ends := Turned.ends (.send []) (does ▸ List.nil_prefix) ended .plain
      rwa [does] at ends
  | some actions =>
      have does : c.does turn = turn.surroundings.carriedOut actions := by
        simp only [Connection.does, going, wanted, Bool.false_eq_true, if_false]
      have prepared := prepared wanted
      have carries := (c.prepare turn.now turn.event).1.carries turn.now turn.surroundings actions
      dsimp only
      generalize (c.prepare turn.now turn.event).1.perform turn.now turn.surroundings actions =
        result at carries ⊢
      obtain ⟨after, effects⟩ := result
      cases carries with
      | through all =>
          have allows := (turn.surroundings.carriedOut_eq_iff actions).mp all
          rw [prepared.rearm_eq]
          exact .goesOn (Prod.ext rfl wanted) allows.close_notMem (does.trans all)
      | ends _ farewell =>
          rw [← does]
          exact .ends prepared (does ▸ turn.surroundings.carriedOut_prefix actions) rfl farewell

end Connection

namespace ConnectionRun

open Connection (Farewell Watches)

variable {r : ConnectionRun} {config : EmulatorConfig}

theorem actions_extend (r : ConnectionRun) (turn : ConnectionTurn) :
    (r.extend turn).actions = r.actions ++ r.connection.does turn := by
  simp only [extend, actions, List.map_append, List.map_map]
  exact congrArg (_ ++ ·) (List.map_id _)

/-- What is known of a connection that has had some turns.  As long as it goes on, the timer is the
one for its state, and what was seen of it is what it has carried out. -/
inductive Timed (config : EmulatorConfig) (r : ConnectionRun) : Prop where
  | going :
      r.connection.ended = false → r.connection.session.Regular config.secret →
      Watches r.connection.session.state r.connection.timer
        ((said r.actions).count Handshake.accepted) →
      r.connection.rearm = (Connection.ofConfig config).rearm →
      r.connection.timer = (Connection.ofConfig config).timerAfter r.done →
      r.effects = r.actions.flatMap SessionAction.shown → Timed config r
  | ended {last : List ConnectionEffect} :
      r.connection.ended = true → (said r.actions).count Handshake.accepted ≤ 1 → Farewell last →
      r.effects = r.actions.flatMap SessionAction.shown ++ last → Timed config r

/-- A connection that has ended stays as it is. -/
theorem extend_of_ended (ended : r.connection.ended = true) (turn : ConnectionTurn) :
    r.extend turn = r := by
  simp only [extend, Connection.does_of_ended ended, Connection.step_of_ended ended, List.map_nil,
    List.append_nil]

/-- A connection has greeted its client and armed the handshake timer, or it has ended. -/
theorem timed_start (config : EmulatorConfig) (now : Moment) (s : Surroundings) :
    (extend { connection := .ofConfig config } ⟨now, s, .start⟩).Timed config := by
  have greet : (Session.new config.secret).Step .connect
      (.ok [.write Handshake.greeting, .arm .handshake])
      { Session.new config.secret with state := .authenticating } := .greet rfl
  have regular := (greet.regular (Session.regular_new config.secret) nofun nofun).1
  have turned := Connection.turned (c := .ofConfig config) rfl ⟨now, s, .start⟩
  have actions := actions_extend { connection := .ofConfig config } ⟨now, s, .start⟩
  rw [extend] at actions ⊢
  dsimp only at actions turned ⊢
  generalize (Connection.ofConfig config).step now s .start = result at turned actions ⊢
  cases turned with
  | goesOn prepares more does =>
      cases prepares
      rw [does] at actions ⊢
      exact .going rfl regular (.handshake _) rfl rfl rfl
  | @ends next after wanted last prepared does ended farewell =>
      have sent := prepared.count_accepted
      have within := SessionAction.count_said_le does Handshake.accepted
      refine .ended ended ?_ farewell (by rw [actions]; rfl)
      rw [actions]
      exact Nat.le_trans within (by omega)

theorem Timed.extend (timed : r.Timed config) (turn : ConnectionTurn) :
    (r.extend turn).Timed config := by
  cases timed with
  | ended ended once farewell shown =>
      rw [extend_of_ended ended]
      exact .ended ended once farewell shown
  | going going regular watches limits timer shown =>
      have actions := r.actions_extend turn
      have turned := Connection.turned going turn
      rw [ConnectionRun.extend] at actions ⊢
      generalize r.connection.step turn.now turn.surroundings turn.event =
        result at turned actions ⊢
      cases turned with
      | @goesOn next wanted prepares more does =>
          have prepared := Connection.prepared (congrArg Prod.snd prepares)
          rw [prepares] at prepared
          rw [does] at actions ⊢
          obtain ⟨still, watches⟩ := prepared.watches watches more
          refine .going (prepared.ended_eq.trans going) (prepared.regular regular more) ?_
            (prepared.rearm_eq.trans limits) ?_ ?_
          · rw [actions, SessionAction.said_append, List.count_append, still]
            exact watches
          · rw [Connection.timerAfter_append, ← limits, ← timer, still]
          · rw [actions, List.flatMap_append, shown]
      | @ends next after wanted last prepared does ended farewell =>
          have within := SessionAction.count_said_le does Handshake.accepted
          refine .ended ended ?_ farewell ?_
          · rw [actions, SessionAction.said_append, List.count_append]
            exact Nat.le_trans (Nat.add_le_add_left within _) (prepared.count_accepted_le watches)
          · rw [actions, List.flatMap_append, shown, List.append_assoc]

/-- Any further turns keep what is known of a connection. -/
theorem Timed.turns (timed : r.Timed config) (paired : SessionAction.Paired r.actions)
    (turns : List ConnectionTurn) :
    (turns.foldl ConnectionRun.extend r).Timed config ∧
      SessionAction.Paired (turns.foldl ConnectionRun.extend r).actions := by
  induction turns generalizing r with
  | nil => exact ⟨timed, paired⟩
  | cons turn later ih =>
      refine ih (timed.extend turn) ?_
      rw [actions_extend]
      exact paired.append (Connection.paired_does r.connection turn)

/-- What is known of a connection from its first turn on. -/
theorem timed_run (config : EmulatorConfig) (now : Moment) (s : Surroundings)
    (turns : List ConnectionTurn) :
    let r := (Connection.ofConfig config).run (⟨now, s, .start⟩ :: turns)
    r.Timed config ∧ SessionAction.Paired r.actions := by
  intro r
  have paired := (Connection.ofConfig config).paired_does ⟨now, s, .start⟩
  rw [← List.nil_append (Connection.does _ _)] at paired
  refine (timed_start config now s).turns ?_ turns
  rw [actions_extend]
  exact paired

/-- A connection that has ended stays so. -/
theorem foldl_extend_of_ended (ended : r.connection.ended = true) (turns : List ConnectionTurn) :
    turns.foldl ConnectionRun.extend r = r := by
  induction turns with
  | nil => rfl
  | cons turn later ih => rw [List.foldl_cons, extend_of_ended ended, ih]

end ConnectionRun

namespace Connection

/-- Nothing ends a connection in a turn: it is neither lost nor told to end, its session refuses
nothing, and nothing is in the way of what there is to do. -/
def GoesOn (c : Connection) (turn : ConnectionTurn) : Prop :=
  ∃ actions, (c.prepare turn.now turn.event).2 = some actions ∧
    turn.surroundings.Allows actions

/-- Nothing ends a connection in any of its turns. -/
def Unbroken (c : Connection) : List ConnectionTurn → Prop
  | [] => True
  | turn :: later =>
    c.GoesOn turn ∧ (c.step turn.now turn.surroundings turn.event).1.Unbroken later

/-- A connection goes on through its turns exactly if none of them ends it. -/
theorem unbroken_iff {r : ConnectionRun} (going : r.connection.ended = false)
    (turns : List ConnectionTurn) :
    (turns.foldl ConnectionRun.extend r).connection.ended = false ↔
      r.connection.Unbroken turns := by
  induction turns generalizing r with
  | nil => exact iff_of_true going trivial
  | cons turn later ih =>
      have goesOn : (r.extend turn).connection.ended = false ↔ r.connection.GoesOn turn :=
        goesOn_iff going
      cases still : (r.extend turn).connection.ended with
      | false =>
          rw [List.foldl_cons, ih still]
          exact (and_iff_right (goesOn.mp still)).symm
      | true =>
          rw [List.foldl_cons, ConnectionRun.foldl_extend_of_ended still, still]
          refine iff_of_false nofun fun unbroken => ?_
          rw [goesOn.mpr unbroken.1] at still
          cases still

/-- Bytes that leave a session waiting change nothing but what it holds. -/
theorem step_of_undecided {c : Connection} (going : c.ended = false)
    (resting : c.session.decoder.Resting) {bytes : Bytes} (undecided : c.session.Undecided bytes)
    (now : Moment) (s : Surroundings) :
    c.step now s (.received bytes) = ({ c with session := (c.session.receive bytes).2 }, []) := by
  have wanted : (c.prepare now (.received bytes)).2 = some [] := by
    rw [prepare, undecided.receive resting]
    rfl
  rw [step_eq going, wanted]
  rfl

/-- A connection goes on exactly if none of its turns ends it, and as long as it does, the one timer
that belongs to its state runs: the handshake timer while its session waits for a request, and the
idle timer once it is ready.  This is the timer that it has armed last, and bytes that leave its
session waiting change neither the timer nor when it expires.  Whether the connection goes on or has
ended, the idle timer was armed once for its acceptance, of which there is at most one, and once for
each packet that it has handed over, right behind them and never else. -/
theorem timer_of_run (config : EmulatorConfig) (now : Moment) (s : Surroundings)
    (turns : List ConnectionTurn) :
    let first := ofConfig config
    let all : List ConnectionTurn := ⟨now, s, .start⟩ :: turns
    let r := first.run all
    let c := r.connection
    (c.ended = false ↔ first.Unbroken all) ∧
      (c.ended = false →
        (∃ armed, c.timer = some armed ∧
          (c.session.state = .authenticating ∧ armed.timer = .handshake ∨
            c.session.state = .ready ∧ armed.timer = .idle)) ∧
        c.timer = first.timerAfter r.done ∧
        ∀ now s bytes, c.session.Undecided bytes →
          c.step now s (.received bytes) =
            ({ c with session := (c.session.receive bytes).2 }, [])) ∧
      SessionAction.Paired r.actions ∧
      r.actions.count (.arm .idle) =
        (said r.actions).count Handshake.accepted + (dispatched r.actions).length ∧
      (said r.actions).count Handshake.accepted ≤ 1 ∧
      ∃ last, r.effects = r.actions.flatMap SessionAction.shown ++ last ∧
        if c.ended then Farewell last else last = [] := by
  intro first all r c
  obtain ⟨timed, paired⟩ := ConnectionRun.timed_run config now s turns
  refine ⟨unbroken_iff rfl all, ?_⟩
  cases timed with
  | going going regular watches _ timer shown =>
      refine ⟨fun _ => ⟨watches.exists_armed, timer, fun now s bytes undecided => ?_⟩, paired,
        paired.count_arm, watches.count_le, [], ?_⟩
      · exact step_of_undecided going regular.resting undecided now s
      · rw [List.append_nil, if_neg (Bool.eq_false_iff.mp going)]
        exact ⟨shown, rfl⟩
  | @ended last ended once farewell shown =>
      refine ⟨fun going => ?_, paired, paired.count_arm, once, last, shown, ?_⟩
      · exact nomatch ended.symm.trans going
      · rwa [if_pos ended]

/-- A client is let in and begins a packet.  The next part of it does not put off the end. -/
theorem timer_of_run_unfinished :
    let config : EmulatorConfig := {}
    let turns : List ConnectionTurn :=
      [⟨1, {}, .received Handshake.request⟩, ⟨2, {}, .received [0x21, 0x89]⟩]
    let c := ((ofConfig config).run (⟨0, {}, .start⟩ :: turns)).connection
    c.ended = false ∧ c.session.Undecided [0x01] ∧
      (∃ armed, c.timer = some armed ∧
        (c.session.state = .authenticating ∧ armed.timer = .handshake ∨
          c.session.state = .ready ∧ armed.timer = .idle)) ∧
      c.timer = some ⟨.idle, 1 + config.idleTimeout.nanos⟩ ∧
      (c.step 3 {} (.received [0x01])).1.timer = c.timer := by
  intro config turns c
  have going : c.ended = false := by decide +kernel
  have undecided : c.session.Undecided [0x01] :=
    ⟨fun waiting => absurd waiting (by decide +kernel), fun _ => by decide +kernel⟩
  obtain ⟨-, holds, -⟩ := timer_of_run config 0 {} turns
  obtain ⟨armed, -, untouched⟩ := holds going
  refine ⟨going, undecided, armed, by decide +kernel, ?_⟩
  rw [untouched 3 {} [0x01] undecided]

end Connection

end ProjectorControl
