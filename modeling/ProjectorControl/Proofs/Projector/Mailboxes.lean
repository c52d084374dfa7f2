import ProjectorControl.Proofs.Projector.Reach
import ProjectorControl.Proofs.Projector.Step

/-!
# Messages to sessions

What a dispatcher has to say to a session goes into the session's mailbox, at the end, and into no
other (`Emulation.mailbox?_foldl_apply`).  It says something only about a packet, and only to the
session that the packet came from (`Dispatcher.messages_handle_packet`,
`Dispatcher.messages_handle_other`).
-/

namespace ProjectorControl

/-! ## Numbered things -/

section

variable {α : Type} (number : α → Nat)

theorem number_of_find? {l : List α} {n : Nat} {a : α}
    (found : l.find? (fun a => number a = n) = some a) : number a = n := by
  simpa using List.find?_some found

/-- What is changed under a number is found changed, and all else as it was. -/
theorem find?_map_update (f : α → α) (keeps : ∀ a, number (f a) = number a) (l : List α)
    (n other : Nat) :
    (l.map fun a => if number a = n then f a else a).find? (fun a => number a = other) =
      if n = other then (l.find? fun a => number a = n).map f
      else l.find? fun a => number a = other := by
  have same : ((fun a => decide (number a = other)) ∘ fun a => if number a = n then f a else a) =
      fun a => decide (number a = other) := by
    funext a
    simp only [Function.comp_apply]
    split
    next => rw [keeps]
    next => rfl
  rw [List.find?_map, same]
  cases found : l.find? fun a => number a = other with
  | none =>
      split
      next equal => rw [equal, found]; rfl
      next => rfl
  | some a =>
      have numbered : number a = other := number_of_find? number found
      split
      next equal =>
        rw [equal, found]
        simp [numbered]
      next unequal =>
        have away : ¬ other = n := fun back => unequal back.symm
        simp [numbered, away]

/-- What is removed under a number is not found, and all else is. -/
theorem find?_filter_ne (l : List α) (n other : Nat) :
    (l.filter fun a => number a ≠ n).find? (fun a => number a = other) =
      if n = other then none else l.find? fun a => number a = other := by
  rw [List.find?_filter]
  split
  next equal => simp [equal]
  next unequal =>
    congr 1
    funext a
    have away : ¬ other = n := fun back => unequal back.symm
    by_cases wanted : number a = other
    · simp [wanted, away]
    · simp [wanted]

end

/-! ## Mailboxes -/

namespace SessionTable

/-- What a session was told and has not done yet, if it is open. -/
def mailbox? (t : SessionTable) (id : SessionId) : Option (List SessionMessage) :=
  (t.entries.find? fun e => e.id = id).map SessionEntry.mailbox

theorem mailbox?_openSession (t : SessionTable) (id : SessionId) :
    t.openSession.2.mailbox? id =
      (t.mailbox? id).or (if t.opened + 1 = id then some [] else none) := by
  simp only [mailbox?, openSession, List.find?_append, Option.map_or]
  by_cases new : t.opened + 1 = id <;> simp [new]

theorem mailbox?_post (t : SessionTable) (id other : SessionId) (message : SessionMessage) :
    (t.post id message).mailbox? other =
      (t.mailbox? other).map (· ++ if id = other then [message] else []) := by
  have found := find?_map_update SessionEntry.id
    (fun e => { e with mailbox := e.mailbox ++ [message] }) (fun _ => rfl) t.entries id other
  rw [mailbox?, post, found, mailbox?]
  split
  next same =>
    rw [← same, Option.map_map, Option.map_map]
    rfl
  next => cases t.entries.find? fun e => e.id = other <;> simp

theorem mailbox?_remove (t : SessionTable) (id other : SessionId) :
    (t.remove id).mailbox? other = if id = other then none else t.mailbox? other := by
  rw [mailbox?, remove, find?_filter_ne SessionEntry.id]
  split
  next => rfl
  next => rfl

/-- A message is taken from the front of a mailbox, and from no other. -/
theorem mailbox?_of_take? {t after : SessionTable} {id : SessionId} {message : SessionMessage}
    (taken : t.take? id = some (message, after)) :
    after.opened = t.opened ∧ ∃ later, t.mailbox? id = some (message :: later) ∧
      ∀ other, after.mailbox? other = if id = other then some later else t.mailbox? other := by
  unfold take? at taken
  split at taken
  next => cases taken
  next => cases taken
  next number first later found =>
    cases taken
    refine ⟨rfl, later, by rw [mailbox?, found]; rfl, fun other => ?_⟩
    have changed := find?_map_update SessionEntry.id (fun e => { e with mailbox := later })
      (fun _ => rfl) t.entries id other
    rw [mailbox?, changed, found]
    split
    next => rfl
    next => rfl

theorem collect_fst (t : SessionTable) (id : SessionId) :
    (t.collect id).1 = (t.mailbox? id).getD [] := by
  unfold collect mailbox?
  split
  next missing => rw [missing]; rfl
  next found => rw [found]; rfl

theorem mailbox?_collect (t : SessionTable) (id : SessionId) :
    (t.collect id).2.mailbox? id = (t.mailbox? id).map fun _ => [] := by
  unfold collect
  split
  next missing => rw [mailbox?, missing]; rfl
  next entry found =>
    have emptied := find?_map_update SessionEntry.id (fun e => { e with mailbox := [] })
      (fun _ => rfl) t.entries id id
    rw [mailbox?, emptied, if_pos rfl, mailbox?, found]
    rfl

end SessionTable

/-! ## Messages -/

/-- What an effect tells a session, and which. -/
def DispatchEffect.message? : DispatchEffect → Option (SessionId × SessionMessage)
  | .send session packets => some (session, .send packets)
  | .close session => some (session, .close)
  | .startTimer _ _ | .stopTimer _ | .answer _ _ => none

/-- What a session is told about the result of a packet. -/
def SessionMessage.told : Except Error (Option (List Packet)) → List SessionMessage
  | .ok (some packets) => [.send packets]
  | .ok none => []
  | .error _ => [.close]

namespace Dispatcher

/-- What sessions are told by some effects, in order. -/
def messages (effects : List DispatchEffect) : List (SessionId × SessionMessage) :=
  effects.filterMap DispatchEffect.message?

/-- What one session is told by some effects, in order. -/
def messagesTo (id : SessionId) (effects : List DispatchEffect) : List SessionMessage :=
  (messages effects).filterMap fun message => if message.1 = id then some message.2 else none

theorem messages_append (earlier later : List DispatchEffect) :
    messages (earlier ++ later) = messages earlier ++ messages later :=
  List.filterMap_append

theorem messagesTo_append (id : SessionId) (earlier later : List DispatchEffect) :
    messagesTo id (earlier ++ later) = messagesTo id earlier ++ messagesTo id later := by
  rw [messagesTo, messages_append, List.filterMap_append]
  rfl

theorem messagesTo_cons (id : SessionId) (effect : DispatchEffect)
    (later : List DispatchEffect) :
    messagesTo id (effect :: later) = messagesTo id [effect] ++ messagesTo id later :=
  messagesTo_append id [effect] later

/-- Timers tell no session anything. -/
theorem messages_powerEffects (d : Dispatcher) (power : PowerState) :
    messages (d.powerEffects power) = [] := by
  cases timer : d.timer <;> cases delay : d.lasting power <;>
    simp [messages, powerEffects, DispatchEffect.message?, timer, delay]

theorem messages_dispatch {d : Dispatcher} (valid : d.Valid) (packet : Packet) :
    messages (d.dispatch packet).2.2 = [] := by
  have rule := dispatched valid packet
  generalize d.dispatch packet = outcome at rule
  obtain ⟨result, after, effects⟩ := outcome
  simp only at rule ⊢
  cases rule with
  | switch => exact messages_powerEffects _ _
  | noCommand | unknown | ignore | acknowledge | status | model => rfl

/-- About a packet, the session is told that it came from. -/
theorem messages_handle_packet {d : Dispatcher} (valid : d.Valid) (session : SessionId)
    (packet : Packet) :
    messages (d.handle (.packet session packet)).2 =
      messages (reply session (d.dispatch packet).1) := by
  rw [handle_packet, messages_append, messages_dispatch valid, List.nil_append]

/-- About anything else, no session is told. -/
theorem messages_handle_other {d : Dispatcher} (valid : d.Valid) {request : Request}
    (other : ∀ session packet, request ≠ .packet session packet) :
    messages (d.handle request).2 = [] := by
  have step := step_handle valid request
  generalize d.handle request = outcome at step
  obtain ⟨after, effects⟩ := outcome
  simp only at step ⊢
  cases step with
  | switch | serve => exact absurd rfl (other _ _)
  | forcePower => rw [messages_append, messages_powerEffects, List.nil_append]; rfl
  | complete => exact messages_powerEffects _ _
  | stop => cases timer : d.timer <;> simp [cancelTimer, messages, DispatchEffect.message?, timer]
  | forceField | refuseForce | tell | settled | stale => rfl

/-- What a session is told about a packet is what the dispatcher replies to it. -/
theorem messagesTo_reply (session id : SessionId)
    (result : Except Error (Option (List Packet))) :
    messagesTo id (reply session result) =
      if session = id then SessionMessage.told result else [] := by
  rcases result with fault | (_ | packets) <;> by_cases same : session = id <;>
    simp [reply, messagesTo, messages, DispatchEffect.message?, SessionMessage.told, same]

theorem messagesTo_handle_packet {d : Dispatcher} (valid : d.Valid) (session id : SessionId)
    (packet : Packet) :
    messagesTo id (d.handle (.packet session packet)).2 =
      if session = id then SessionMessage.told (d.dispatch packet).1 else [] := by
  rw [messagesTo, messages_handle_packet valid]
  exact messagesTo_reply session id _

theorem messagesTo_handle_other {d : Dispatcher} (valid : d.Valid) (id : SessionId)
    {request : Request} (other : ∀ session packet, request ≠ .packet session packet) :
    messagesTo id (d.handle request).2 = [] := by
  rw [messagesTo, messages_handle_other valid other]
  rfl

end Dispatcher

namespace Emulation

open Dispatcher (messagesTo)

/-- A message goes to the end of the mailbox of its session. -/
theorem mailbox?_apply (e : Emulation) (effect : DispatchEffect) (id : SessionId) :
    (e.apply effect).sessions.mailbox? id =
      (e.sessions.mailbox? id).map (· ++ messagesTo id [effect]) := by
  have untold : (e.sessions.mailbox? id).map (· ++ []) = e.sessions.mailbox? id := by
    cases e.sessions.mailbox? id <;> simp
  cases effect with
  | send session packets =>
      rw [apply, SessionTable.mailbox?_post]
      by_cases same : session = id <;>
        simp [messagesTo, Dispatcher.messages, DispatchEffect.message?, same]
  | close session =>
      rw [apply, SessionTable.mailbox?_post]
      by_cases same : session = id <;>
        simp [messagesTo, Dispatcher.messages, DispatchEffect.message?, same]
  | startTimer generation delay => exact untold.symm
  | stopTimer generation => exact untold.symm
  | answer caller reply => exact untold.symm

theorem mailbox?_foldl_apply (e : Emulation) (effects : List DispatchEffect) (id : SessionId) :
    (effects.foldl apply e).sessions.mailbox? id =
      (e.sessions.mailbox? id).map (· ++ messagesTo id effects) := by
  induction effects generalizing e with
  | nil =>
      rw [List.foldl_nil]
      cases e.sessions.mailbox? id <;> simp [messagesTo, Dispatcher.messages]
  | cons effect later ih =>
      rw [List.foldl_cons, ih, mailbox?_apply, Dispatcher.messagesTo_cons id effect later,
        Option.map_map]
      refine congrArg (Option.map · _) (funext fun mailbox => ?_)
      exact List.append_assoc ..

theorem opened_foldl_apply (e : Emulation) (effects : List DispatchEffect) :
    (effects.foldl apply e).sessions.opened = e.sessions.opened := by
  induction effects generalizing e with
  | nil => rfl
  | cons effect later ih =>
      rw [List.foldl_cons, ih]
      cases effect <;> rfl

/-- What handling a request does, but for the answers to callers. -/
theorem handle_eq {e : Emulation} (running : e.stopped = false) (request : Request) :
    ∃ sessions answers,
      e.handle request =
        { e with
          dispatcher := (e.dispatcher.handle request).1
          timers := (e.dispatcher.handle request).2.foldl (retime e.now) e.timers
          sessions := sessions
          answers := answers
          stopped := request = .stop } ∧
      (∀ id, sessions.mailbox? id =
        (e.sessions.mailbox? id).map (· ++ messagesTo id (e.dispatcher.handle request).2)) ∧
      sessions.opened = e.sessions.opened := by
  let begun : Emulation :=
    { e with dispatcher := (e.dispatcher.handle request).1, stopped := request = .stop }
  have handled : e.handle request = (e.dispatcher.handle request).2.foldl apply begun := by
    simp only [handle, running, Bool.false_eq_true, if_false, begun]
  obtain ⟨sessions, answers, same⟩ := begun.foldl_apply_eq (e.dispatcher.handle request).2
  have told := begun.mailbox?_foldl_apply (e.dispatcher.handle request).2
  have opened := begun.opened_foldl_apply (e.dispatcher.handle request).2
  rw [same] at told opened
  exact ⟨sessions, answers, handled.trans same, told, opened⟩

end Emulation

end ProjectorControl
