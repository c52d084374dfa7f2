import ProjectorControl.Proofs.Session.Run
import ProjectorControl.Projector.Connection

/-!
# Carrying out actions

A connection carries out the actions of its session up to the first that ends it
(`Surroundings.carriedOut`).  Each action leaves the timer as it is, arms one, or stops it
(`Connection.rearm`), so the timer of a connection that goes on is found by going through what was
carried out (`Connection.carries`).

Whatever happens to a connection, it first takes note of it (`Connection.prepare`), and then either
ends at once or carries out actions (`Connection.step_eq`).  It goes on exactly if nothing is in the
way of any of them (`Connection.goesOn_iff`).
-/

namespace ProjectorControl

open SessionAction (said dispatched)

/-! ## Actions that are carried out -/

/-- What is seen of an action that is carried out. -/
def SessionAction.shown : SessionAction → List ConnectionEffect
  | .write bytes => [.write bytes]
  | .dispatch packet => [.dispatch packet]
  | .arm _ | .cancel | .close => []

namespace Surroundings

/-- The actions that are carried out, up to the first that ends the connection: to close it, to
write what the client does not take, or to hand over a packet when nobody takes it. -/
def carriedOut (s : Surroundings) : List SessionAction → List SessionAction
  | [] => []
  | .write bytes :: later =>
    if s.accepted bytes.length < bytes.length then []
    else .write bytes :: (s.after (s.accepted bytes.length)).carriedOut later
  | .dispatch packet :: later =>
    if s.dispatching then .dispatch packet :: s.carriedOut later else []
  | .arm timer :: later => .arm timer :: s.carriedOut later
  | .cancel :: later => .cancel :: s.carriedOut later
  | .close :: _ => []

theorem carriedOut_prefix (s : Surroundings) (actions : List SessionAction) :
    s.carriedOut actions <+: actions := by
  induction actions generalizing s with
  | nil => exact List.prefix_refl _
  | cons action later ih =>
      cases action with
      | write bytes =>
          rw [carriedOut]
          split
          next => exact List.nil_prefix
          next => exact (List.prefix_cons_inj _).mpr (ih _)
      | dispatch packet =>
          rw [carriedOut]
          split
          next => exact (List.prefix_cons_inj _).mpr (ih _)
          next => exact List.nil_prefix
      | arm timer => exact (List.prefix_cons_inj _).mpr (ih _)
      | cancel => exact (List.prefix_cons_inj _).mpr (ih _)
      | close => exact List.nil_prefix

/-- A client takes all of some bytes, or fewer. -/
theorem accepted_eq_of_not_lt {s : Surroundings} {count : Nat}
    (whole : ¬ s.accepted count < count) : s.accepted count = count := by
  obtain ⟨_ | room, dispatching⟩ := s
  · rfl
  · simp only [accepted] at whole ⊢
    omega

/-- A client that takes some bytes takes fewer, too. -/
theorem accepted_of_le {s : Surroundings} {fewer count : Nat} (whole : s.accepted count = count)
    (within : fewer ≤ count) : s.accepted fewer = fewer := by
  obtain ⟨_ | room, dispatching⟩ := s
  · rfl
  · simp only [accepted] at whole ⊢
    omega

/-- A client takes some bytes and more if it takes the bytes and then the others. -/
theorem accepted_add (s : Surroundings) {first : Nat} (whole : s.accepted first = first)
    (second : Nat) :
    s.accepted (first + second) = first + second ↔ (s.after first).accepted second = second := by
  obtain ⟨_ | room, dispatching⟩ := s
  · exact iff_of_true rfl rfl
  · simp only [accepted, after, Option.map_some] at whole ⊢
    omega

/-- Nothing is in the way of some actions: none is to close, and the client takes all that is
written and the dispatcher all that is handed over. -/
structure Allows (s : Surroundings) (actions : List SessionAction) : Prop where
  /-- The session does not want to close. -/
  close_notMem : .close ∉ actions
  /-- The client takes what is written. -/
  takes : s.accepted (said actions).flatten.length = (said actions).flatten.length
  /-- The dispatcher takes what is handed over. -/
  serves : dispatched actions ≠ [] → s.dispatching = true

theorem allows_nil (s : Surroundings) : s.Allows [] where
  close_notMem := List.not_mem_nil
  takes := accepted_eq_of_not_lt (Nat.not_lt_zero _)
  serves none := absurd rfl none

/-- An action that writes and hands over nothing is in nobody's way. -/
theorem allows_cons_silent {s : Surroundings} {later : List SessionAction}
    (action : SessionAction) (going : action ≠ .close) (silent : said [action] = [])
    (keeps : dispatched [action] = []) : s.Allows (action :: later) ↔ s.Allows later := by
  have saidEq : said (action :: later) = said later := by
    rw [← List.singleton_append, SessionAction.said_append, silent, List.nil_append]
  have dispatchedEq : dispatched (action :: later) = dispatched later := by
    rw [← List.singleton_append, SessionAction.dispatched_append, keeps, List.nil_append]
  constructor
  · rintro ⟨more, takes, serves⟩
    rw [saidEq] at takes
    rw [dispatchedEq] at serves
    exact ⟨fun member => more (List.mem_cons_of_mem _ member), takes, serves⟩
  · rintro ⟨more, takes, serves⟩
    refine ⟨?_, by rwa [saidEq], by rwa [dispatchedEq]⟩
    exact fun member => (List.mem_cons.mp member).elim (going ·.symm) more

theorem allows_cons_write {s : Surroundings} {bytes : Bytes} {later : List SessionAction}
    (whole : s.accepted bytes.length = bytes.length) :
    s.Allows (.write bytes :: later) ↔ (s.after bytes.length).Allows later := by
  have saidEq : said (.write bytes :: later) = bytes :: said later := rfl
  have dispatchedEq : dispatched (.write bytes :: later) = dispatched later := rfl
  constructor
  · rintro ⟨more, takes, serves⟩
    rw [saidEq, List.flatten_cons, List.length_append, accepted_add s whole] at takes
    exact ⟨fun member => more (List.mem_cons_of_mem _ member), takes, serves⟩
  · rintro ⟨more, takes, serves⟩
    refine ⟨by simpa using more, ?_, serves⟩
    rwa [saidEq, List.flatten_cons, List.length_append, accepted_add s whole]

theorem allows_cons_dispatch {s : Surroundings} {packet : Packet} {later : List SessionAction}
    (taking : s.dispatching = true) :
    s.Allows (.dispatch packet :: later) ↔ s.Allows later := by
  constructor
  · rintro ⟨more, takes, -⟩
    exact ⟨fun member => more (List.mem_cons_of_mem _ member), takes, fun _ => taking⟩
  · rintro ⟨more, takes, -⟩
    exact ⟨by simpa using more, takes, fun _ => taking⟩

/-- The actions are carried out to the end exactly if nothing is in their way. -/
theorem carriedOut_eq_iff (s : Surroundings) (actions : List SessionAction) :
    s.carriedOut actions = actions ↔ s.Allows actions := by
  induction actions generalizing s with
  | nil => exact iff_of_true rfl s.allows_nil
  | cons action later ih =>
      cases action with
      | write bytes =>
          rw [carriedOut]
          split
          next broken =>
            refine iff_of_false (List.cons_ne_nil _ _).symm fun allows => ?_
            have within : bytes.length ≤ (said (.write bytes :: later)).flatten.length := by
              simp [said]
            exact Nat.ne_of_lt broken (accepted_of_le allows.takes within)
          next whole =>
            have all : s.accepted bytes.length = bytes.length := accepted_eq_of_not_lt whole
            rw [all, List.cons_inj_right, ih, allows_cons_write all]
      | dispatch packet =>
          rw [carriedOut]
          split
          next taking => rw [List.cons_inj_right, ih, allows_cons_dispatch taking]
          next refusing =>
            refine iff_of_false (List.cons_ne_nil _ _).symm fun allows => ?_
            exact refusing (allows.serves (List.cons_ne_nil _ _))
      | arm timer =>
          rw [carriedOut, List.cons_inj_right, ih]
          exact (allows_cons_silent (.arm timer) (by simp) rfl rfl).symm
      | cancel =>
          rw [carriedOut, List.cons_inj_right, ih]
          exact (allows_cons_silent .cancel (by simp) rfl rfl).symm
      | close =>
          refine iff_of_false (List.cons_ne_nil _ _).symm fun allows => ?_
          exact allows.close_notMem List.mem_cons_self

end Surroundings

/-! ## The timer -/

namespace Connection

/-- The timer once an action was carried out. -/
def rearm (c : Connection) (now : Moment) (timer : Option ArmedTimer) :
    SessionAction → Option ArmedTimer
  | .arm kind => some ⟨kind, now + (c.limitOf kind).nanos⟩
  | .cancel => none
  | .write _ | .dispatch _ | .close => timer

/-- What is seen of a connection at its end: at most a part of what it was about to write. -/
inductive Farewell : List ConnectionEffect → Prop where
  | plain : Farewell [.hangUp]
  | broken (part : Bytes) : Farewell [.write part, .hangUp]

/-- How a connection carries out actions: all of them, and then it goes on with the timer they
leave, or only some, and then it ends. -/
inductive Carries (c : Connection) (now : Moment) (s : Surroundings)
    (actions : List SessionAction) : Connection → List ConnectionEffect → Prop where
  | through :
      s.carriedOut actions = actions →
      Carries c now s actions { c with timer := actions.foldl (c.rearm now) c.timer }
        (actions.flatMap SessionAction.shown)
  | ends {last : List ConnectionEffect} :
      s.carriedOut actions ≠ actions → Farewell last →
      Carries c now s actions c.finish.1
        ((s.carriedOut actions).flatMap SessionAction.shown ++ last)

variable {c after : Connection} {now : Moment} {s : Surroundings} {effects : List ConnectionEffect}

/-- An action that is carried out stands in front of the others. -/
theorem Carries.cons {action : SessionAction} {later : List SessionAction} {rest : Surroundings}
    (carries : { c with timer := c.rearm now c.timer action }.Carries now rest later after effects)
    (front : s.carriedOut (action :: later) = action :: rest.carriedOut later) :
    c.Carries now s (action :: later) after (action.shown ++ effects) := by
  cases carries with
  | through all => exact .through (by rw [front, all])
  | @ends last some farewell =>
      have fewer : s.carriedOut (action :: later) ≠ action :: later := by
        rw [front]
        exact fun same => some (List.cons_inj_right action |>.mp same)
      have shown : action.shown ++ ((rest.carriedOut later).flatMap SessionAction.shown ++ last) =
          (s.carriedOut (action :: later)).flatMap SessionAction.shown ++ last := by
        rw [front, List.flatMap_cons, List.append_assoc]
      rw [shown]
      exact .ends fewer farewell

/-- A connection may end with the first action that it is to carry out. -/
theorem Carries.first {action : SessionAction} {later : List SessionAction}
    {last : List ConnectionEffect} (none : s.carriedOut (action :: later) = [])
    (farewell : Farewell last) : c.Carries now s (action :: later) c.finish.1 last := by
  have shown : last = (s.carriedOut (action :: later)).flatMap SessionAction.shown ++ last := by
    rw [none, List.flatMap_nil, List.nil_append]
  rw [shown]
  exact .ends (by rw [none]; nofun) farewell

theorem carries (c : Connection) (now : Moment) (s : Surroundings)
    (actions : List SessionAction) :
    c.Carries now s actions (c.perform now s actions).1 (c.perform now s actions).2 := by
  induction actions generalizing c s with
  | nil => exact .through rfl
  | cons action later ih =>
      cases action with
      | write bytes =>
          simp only [perform]
          split
          next broken =>
            exact .first (by rw [Surroundings.carriedOut, if_pos broken]) (.broken _)
          next whole =>
            have all : bytes.take (s.accepted bytes.length) = bytes :=
              List.take_of_length_le (Nat.le_of_not_lt whole)
            rw [all]
            exact (ih c _).cons (by rw [Surroundings.carriedOut, if_neg whole])
      | dispatch packet =>
          simp only [perform]
          split
          next taking => exact (ih c s).cons (by rw [Surroundings.carriedOut, if_pos taking])
          next refusing => exact .first (by rw [Surroundings.carriedOut, if_neg refusing]) .plain
      | arm timer => exact (ih _ s).cons rfl
      | cancel => exact (ih _ s).cons rfl
      | close => exact .first rfl .plain

/-! ## Steps -/

/-- A connection that has taken note of an event, and what it has to do then, if it does not end at
once.  A timer that has expired is gone before anything is done. -/
def prepare (c : Connection) (now : Moment) :
    ConnectionEvent → Connection × Option (List SessionAction)
  | .start => ({ c with session := c.session.connect.2 }, c.session.connect.1.toOption)
  | .received bytes =>
    ({ c with session := (c.session.receive bytes).2 }, (c.session.receive bytes).1.toOption)
  | .expired =>
    match c.timer with
    | none => (c, some [])
    | some armed =>
      if armed.due ≤ now then
        ({ c with session := (c.session.expire armed.timer).2, timer := none },
          some (c.session.expire armed.timer).1)
      else (c, some [])
  | .told (.send packets) => (c, some (packets.map fun p => .write p.bytes))
  | .told .close | .lost | .cancelled => (c, none)

theorem follow_eq (c : Connection) (now : Moment) (s : Surroundings)
    (result : Except Error (List SessionAction) × Session) :
    c.follow now s result =
      match result.1.toOption with
      | none => { c with session := result.2 }.finish
      | some actions => { c with session := result.2 }.perform now s actions := by
  obtain ⟨fault | actions, session⟩ := result
  · rfl
  · rfl

/-- A connection takes note of what happens, and then it ends or carries out what it has to do. -/
theorem step_eq {event : ConnectionEvent} (going : c.ended = false) :
    c.step now s event =
      match (c.prepare now event).2 with
      | none => (c.prepare now event).1.finish
      | some actions => (c.prepare now event).1.perform now s actions := by
  unfold step
  rw [if_neg (by simp [going])]
  cases event with
  | start => exact c.follow_eq now s _
  | received bytes => exact c.follow_eq now s _
  | expired =>
      simp only [prepare]
      cases c.timer with
      | none => rfl
      | some armed => dsimp only; split <;> rfl
  | told message => cases message <;> rfl
  | lost => rfl
  | cancelled => rfl

/-! ## What there is to do -/

/-- What a connection has to do: what its session says to a call or to the timer that has expired,
or to send packets, which may be none. -/
inductive Prepared (c : Connection) : Connection → List SessionAction → Prop where
  | answer {call : SessionCall} {actions : List SessionAction} {session : Session} :
      c.session.Step call (.ok actions) session →
      (call = .connect ∨ ∃ bytes, call = .receive bytes) →
      Prepared c { c with session := session } actions
  | expire {armed : ArmedTimer} {actions : List SessionAction} {session : Session} :
      c.timer = some armed → c.session.Step (.expire armed.timer) (.ok actions) session →
      Prepared c { c with session := session, timer := none } actions
  | send (packets : List Packet) : Prepared c c (packets.map fun p => .write p.bytes)

theorem ok_of_toOption {result : Except Error (List SessionAction)}
    {actions : List SessionAction} (wanted : result.toOption = some actions) :
    result = .ok actions := by
  cases result with
  | ok => exact congrArg Except.ok (Option.some.inj wanted)
  | error => cases wanted

theorem prepared {event : ConnectionEvent} {actions : List SessionAction}
    (wanted : (c.prepare now event).2 = some actions) :
    c.Prepared (c.prepare now event).1 actions := by
  cases event with
  | start =>
      have step := c.session.step_connect
      rw [ok_of_toOption wanted] at step
      exact .answer step (.inl rfl)
  | received bytes =>
      have step := c.session.step_receive bytes
      rw [ok_of_toOption wanted] at step
      exact .answer step (.inr ⟨bytes, rfl⟩)
  | expired =>
      cases timer : c.timer with
      | none =>
          simp only [prepare, timer] at wanted ⊢
          cases wanted
          exact .send []
      | some armed =>
          simp only [prepare, timer] at wanted ⊢
          split at wanted
          next due =>
            cases wanted
            rw [if_pos due]
            exact .expire timer (c.session.step_expire armed.timer)
          next early =>
            cases wanted
            rw [if_neg early]
            exact .send []
  | told message =>
      cases message with
      | send packets =>
          cases wanted
          exact .send packets
      | close => cases wanted
  | lost => cases wanted
  | cancelled => cases wanted

theorem Prepared.ended_eq {actions : List SessionAction} (prepared : c.Prepared after actions) :
    after.ended = c.ended := by
  cases prepared with
  | _ => rfl

theorem Prepared.rearm_eq {actions : List SessionAction} (prepared : c.Prepared after actions) :
    after.rearm = c.rearm := by
  cases prepared with
  | _ => rfl

/-- A connection goes on exactly if it does not end at once and nothing is in the way of what it has
to do. -/
theorem goesOn_iff {event : ConnectionEvent} (going : c.ended = false) :
    (c.step now s event).1.ended = false ↔
      ∃ actions, (c.prepare now event).2 = some actions ∧ s.Allows actions := by
  rw [step_eq going]
  cases wanted : (c.prepare now event).2 with
  | none => exact iff_of_false nofun nofun
  | some actions =>
      have still := (prepared wanted).ended_eq.trans going
      have carries := (c.prepare now event).1.carries now s actions
      simp only [Option.some.injEq, exists_eq_left', ← s.carriedOut_eq_iff]
      generalize (c.prepare now event).1.perform now s actions = result at carries ⊢
      obtain ⟨after, effects⟩ := result
      cases carries with
      | through all => exact iff_of_true still all
      | ends some => exact iff_of_false nofun some

end Connection

end ProjectorControl
