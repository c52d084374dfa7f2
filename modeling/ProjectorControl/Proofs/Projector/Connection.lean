import ProjectorControl.Projector.Connection
import ProjectorControl.Proofs.Session.Run

/-!
# What a connection does

A connection carries out the actions of its session one after another, until it is done or until
one of them ends it.  Either way it sends a part of what the session says, from its beginning, and
hands over a part of the packets in the same way (`Connection.performed`); if it goes on, it has
done all of it.
-/

namespace ProjectorControl

namespace ConnectionEffect

/-- What some effects send to the client. -/
def written (effects : List ConnectionEffect) : Bytes :=
  effects.flatMap fun
    | .write bytes => bytes
    | _ => []

/-- The packets that some effects hand over. -/
def handed (effects : List ConnectionEffect) : List Packet :=
  effects.filterMap fun
    | .dispatch packet => some packet
    | _ => none

@[simp] theorem written_append (earlier later : List ConnectionEffect) :
    written (earlier ++ later) = written earlier ++ written later :=
  List.flatMap_append

@[simp] theorem handed_append (earlier later : List ConnectionEffect) :
    handed (earlier ++ later) = handed earlier ++ handed later :=
  List.filterMap_append

end ConnectionEffect

namespace Connection

open ConnectionEffect (written handed)
open SessionAction (said dispatched)

/-- How some actions were carried out.  Nothing is handed over if nobody takes it. -/
inductive Performed (c : Connection) (s : Surroundings) (actions : List SessionAction) :
    Connection → List ConnectionEffect → Prop where
  /-- All of them were, and the connection goes on. -/
  | through {timer : Option ArmedTimer} (effects : List ConnectionEffect) :
      .close ∉ actions → .hangUp ∉ effects → written effects = (said actions).flatten →
      handed effects = dispatched actions → (s.dispatching = false → handed effects = []) →
      Performed c s actions { c with timer := timer } effects
  /-- The connection has ended before, or with the last of them. -/
  | ended {after : Connection} (effects : List ConnectionEffect) :
      .hangUp ∉ effects → written effects <+: (said actions).flatten →
      handed effects <+: dispatched actions → (s.dispatching = false → handed effects = []) →
      Performed c s actions after (effects ++ [.hangUp])

variable {c after : Connection} {s : Surroundings} {later : List SessionAction}
  {effects : List ConnectionEffect}

/-- An action that was carried out stands in front of the others. -/
theorem Performed.cons {action : SessionAction} {timer : Option ArmedTimer}
    {rest : Surroundings} (performed : { c with timer := timer }.Performed rest later after effects)
    (front : List ConnectionEffect) (going : action ≠ .close) (usual : .hangUp ∉ front)
    (sent : written front = (said [action]).flatten) (given : handed front = dispatched [action])
    (taken : s.dispatching = false → handed front = [] ∧ rest.dispatching = false) :
    c.Performed s (action :: later) after (front ++ effects) := by
  have saidCons : (said (action :: later)).flatten = written front ++ (said later).flatten := by
    rw [sent, ← List.flatten_append, ← SessionAction.said_append, List.singleton_append]
  have dispatchedCons : dispatched (action :: later) = handed front ++ dispatched later := by
    rw [given, ← SessionAction.dispatched_append, List.singleton_append]
  cases performed with
  | through effects more goes writes hands none =>
      refine .through _ ?_ ?_ ?_ ?_ fun stopped => ?_
      · exact fun member => (List.mem_cons.mp member).elim (going ·.symm) more
      · exact fun member => (List.mem_append.mp member).elim usual goes
      · rw [saidCons, ConnectionEffect.written_append, writes]
      · rw [dispatchedCons, ConnectionEffect.handed_append, hands]
      · rw [ConnectionEffect.handed_append, (taken stopped).1, none (taken stopped).2]
        rfl
  | ended effects goes writes hands none =>
      rw [← List.append_assoc]
      refine .ended _ ?_ ?_ ?_ fun stopped => ?_
      · exact fun member => (List.mem_append.mp member).elim usual goes
      · rw [saidCons, ConnectionEffect.written_append]
        exact (List.prefix_append_right_inj _).mpr writes
      · rw [dispatchedCons, ConnectionEffect.handed_append]
        exact (List.prefix_append_right_inj _).mpr hands
      · rw [ConnectionEffect.handed_append, (taken stopped).1, none (taken stopped).2]
        rfl

/-- A connection may end in front of any actions. -/
theorem performed_finish (c : Connection) (s : Surroundings) (actions : List SessionAction) :
    c.Performed s actions c.finish.1 c.finish.2 :=
  .ended [] List.not_mem_nil List.nil_prefix List.nil_prefix fun _ => rfl

theorem performed (c : Connection) (now : Moment) (s : Surroundings)
    (actions : List SessionAction) :
    c.Performed s actions (c.perform now s actions).1 (c.perform now s actions).2 := by
  induction actions generalizing c s with
  | nil =>
      exact .through [] List.not_mem_nil List.not_mem_nil rfl rfl fun _ => rfl
  | cons action later ih =>
      cases action with
      | write bytes =>
          simp only [perform]
          split
          next broken =>
            -- The client has taken a part of these bytes, and takes no more.
            refine .ended [.write _] (by simp) ?_ List.nil_prefix fun _ => rfl
            simp only [written, List.flatMap_cons, List.flatMap_nil, List.append_nil]
            exact (List.take_prefix _ bytes).trans (List.prefix_append bytes _)
          next whole =>
            have all : bytes.take (s.accepted bytes.length) = bytes :=
              List.take_of_length_le (Nat.le_of_not_lt whole)
            rw [all]
            exact (ih { c with timer := c.timer } _).cons [.write bytes] nofun
              (by simp) rfl rfl fun stopped => ⟨rfl, stopped⟩
      | dispatch packet =>
          simp only [perform]
          split
          next taking =>
            exact (ih { c with timer := c.timer } s).cons [.dispatch packet] nofun
              (by simp) rfl rfl fun stopped => by simp [taking] at stopped
          next => exact performed_finish c s _
      | arm timer =>
          exact (ih _ s).cons [] nofun List.not_mem_nil rfl rfl
            fun stopped => ⟨rfl, stopped⟩
      | cancel =>
          exact (ih _ s).cons [] nofun List.not_mem_nil rfl rfl
            fun stopped => ⟨rfl, stopped⟩
      | close => exact performed_finish c s _

end Connection

end ProjectorControl
