import ProjectorControl.Proofs.Projector.Carrying

/-!
# Arming the idle timer

A session arms the idle timer right behind its acceptance and right behind each packet that it hands
over, and nowhere else (`SessionAction.Paired`, `Session.Step.paired`).  Nothing that could end a
connection stands between the two, so this stays so if only the first of the actions are carried out
(`SessionAction.Paired.carriedOut`).
-/

namespace ProjectorControl

open SessionAction (said dispatched)

/-- A packet is longer than an acceptance. -/
theorem Packet.bytes_ne_accepted (packet : Packet) : packet.bytes ≠ Handshake.accepted := by
  intro same
  have length : packet.length = 5 := congrArg List.length same
  have long : 6 ≤ packet.length := packet.minLength_le_length
  omega

namespace SessionAction

/-- The first of some actions say nothing more often than all of them. -/
theorem count_said_le {earlier later : List SessionAction} (front : earlier <+: later)
    (bytes : Bytes) : (said earlier).count bytes ≤ (said later).count bytes :=
  (front.sublist.filterMap _).count_le bytes

/-- The idle timer is armed right behind an acceptance and right behind each packet that is handed
over, and nowhere else. -/
inductive Paired : List SessionAction → Prop where
  | nil : Paired []
  | accept {later : List SessionAction} :
      Paired later → Paired (.write Handshake.accepted :: .arm .idle :: later)
  | serve (packet : Packet) {later : List SessionAction} :
      Paired later → Paired (.dispatch packet :: .arm .idle :: later)
  | other {action : SessionAction} {later : List SessionAction} :
      action ≠ .write Handshake.accepted → dispatched [action] = [] → action ≠ .arm .idle →
      Paired later → Paired (action :: later)

namespace Paired

variable {earlier later actions : List SessionAction}

theorem append (first : Paired earlier) (second : Paired later) : Paired (earlier ++ later) := by
  induction first with
  | nil => exact second
  | accept _ ih => exact .accept ih
  | serve packet _ ih => exact .serve packet ih
  | other quiet keeps still _ ih => exact .other quiet keeps still ih

/-- To serve packets is to arm the timer for each. -/
theorem flatMap_serve (packets : List Packet) :
    Paired (packets.flatMap SessionAction.serve) := by
  induction packets with
  | nil => exact .nil
  | cons packet later ih => exact .other nofun rfl nofun (.serve packet ih)

/-- To send packets has nothing to do with the timer. -/
theorem map_write (packets : List Packet) :
    Paired (packets.map fun p => .write p.bytes) := by
  induction packets with
  | nil => exact .nil
  | cons packet later ih =>
      have unlike : SessionAction.write packet.bytes ≠ .write Handshake.accepted := fun same =>
        packet.bytes_ne_accepted (SessionAction.write.inj same)
      exact .other unlike rfl nofun ih

/-- If the actions are carried out only in part, the timer is still armed for what was done. -/
theorem carriedOut (paired : Paired actions) (s : Surroundings) :
    Paired (s.carriedOut actions) := by
  induction paired generalizing s with
  | nil => exact .nil
  | accept _ ih =>
      rw [Surroundings.carriedOut]
      split
      next => exact .nil
      next => exact .accept (ih _)
  | serve packet _ ih =>
      rw [Surroundings.carriedOut]
      split
      next => exact .serve packet (ih s)
      next => exact .nil
  | @other action _ quiet keeps still _ ih =>
      cases action with
      | write bytes =>
          rw [Surroundings.carriedOut]
          split
          next => exact .nil
          next => exact .other quiet keeps still (ih _)
      | dispatch packet => cases keeps
      | arm timer => exact .other quiet keeps still (ih s)
      | cancel => exact .other quiet keeps still (ih s)
      | close => exact .nil

/-- So the idle timer is armed once for each acceptance and once for each packet handed over. -/
theorem count_arm (paired : Paired actions) :
    actions.count (.arm .idle) =
      (said actions).count Handshake.accepted + (dispatched actions).length := by
  induction paired with
  | nil => rfl
  | @accept later _ ih =>
      have first : SessionAction.write Handshake.accepted ≠ .arm .idle := nofun
      have saidEq : said (.write Handshake.accepted :: .arm .idle :: later) =
          Handshake.accepted :: said later := rfl
      have dispatchedEq : dispatched (.write Handshake.accepted :: .arm .idle :: later) =
          dispatched later := rfl
      rw [saidEq, dispatchedEq, List.count_cons_of_ne first, List.count_cons_self,
        List.count_cons_self, ih]
      omega
  | @serve packet later _ ih =>
      have first : SessionAction.dispatch packet ≠ .arm .idle := nofun
      have saidEq : said (.dispatch packet :: .arm .idle :: later) = said later := rfl
      have dispatchedEq : dispatched (.dispatch packet :: .arm .idle :: later) =
          packet :: dispatched later := rfl
      rw [saidEq, dispatchedEq, List.count_cons_of_ne first, List.count_cons_self, ih,
        List.length_cons]
      omega
  | @other action later quiet keeps still _ ih =>
      have silent : (said [action]).count Handshake.accepted = 0 := by
        cases action with
        | write bytes =>
            refine List.count_eq_zero.mpr fun member => quiet ?_
            rw [List.mem_singleton.mp member]
        | _ => rfl
      rw [← List.singleton_append, SessionAction.said_append, SessionAction.dispatched_append,
        List.singleton_append, List.count_cons_of_ne still, List.count_append, silent, keeps, ih,
        Nat.zero_add, List.nil_append]

end Paired

end SessionAction

namespace Session

variable {s after : Session} {call : SessionCall} {actions : List SessionAction}

/-- A session arms the idle timer behind its acceptance and behind each packet. -/
theorem Step.paired (step : s.Step call (.ok actions) after) : SessionAction.Paired actions := by
  cases step with
  | greet => exact .other nofun rfl nofun (.other nofun rfl nofun .nil)
  | await => exact .nil
  | accept => exact .other nofun rfl nofun (.accept .nil)
  | refuse => exact .other nofun rfl nofun (.other nofun rfl nofun (.other nofun rfl nofun .nil))
  | serve => exact .flatMap_serve _
  | ignore => exact .nil
  | expireHandshake => exact .other nofun rfl nofun (.other nofun rfl nofun .nil)
  | expireIdle => exact .other nofun rfl nofun .nil
  | expireStale => exact .nil
  | beginClose => exact .nil
  | beginCloseAgain => exact .nil
  | finishClose => exact .nil

/-- Only a session that waits for a request sends its acceptance, and only once. -/
theorem Step.count_accepted (step : s.Step call (.ok actions) after) :
    (said actions).count Handshake.accepted = 0 ∨
      s.state = .authenticating ∧ (said actions).count Handshake.accepted = 1 := by
  cases step with
  | accept state => exact .inr ⟨state, rfl⟩
  | serve => exact .inl (by rw [SessionAction.said_serve]; rfl)
  | _ => exact .inl rfl

end Session

end ProjectorControl
