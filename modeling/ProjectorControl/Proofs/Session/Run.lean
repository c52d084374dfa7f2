import ProjectorControl.Proofs.Session.Step

/-!
# Runs of a session

`Session.run` makes any calls in any order, also after calls that have failed, and keeps what
they have asked for and what was heard of the client's request.

The actions of a run depend on little more than the state it ends in.  `Transcript` lists how
they can have come about, one rule for each kind of step that matters.  By induction on it,
a session says at most a greeting and one verdict (`Transcript.said_mem`), and hands over
packets only behind its acceptance (`Transcript.guarded`).
-/

namespace ProjectorControl

namespace SessionAction

/-- The actions of a call.  A call that fails asks for none. -/
def asked : Except Error (List SessionAction) → List SessionAction
  | .ok actions => actions
  | .error _ => []

/-- What a list of actions sends to the client. -/
def said (actions : List SessionAction) : List Bytes :=
  actions.filterMap fun
    | .write bytes => some bytes
    | _ => none

/-- The packets that a list of actions hands over. -/
def dispatched (actions : List SessionAction) : List Packet :=
  actions.filterMap fun
    | .dispatch packet => some packet
    | _ => none

@[simp] theorem said_append (earlier later : List SessionAction) :
    said (earlier ++ later) = said earlier ++ said later :=
  List.filterMap_append

@[simp] theorem dispatched_append (earlier later : List SessionAction) :
    dispatched (earlier ++ later) = dispatched earlier ++ dispatched later :=
  List.filterMap_append

/-- Serving packets says nothing. -/
theorem said_serve (packets : List Packet) : said (packets.flatMap serve) = [] := by
  induction packets with
  | nil => rfl
  | cons packet later ih => rw [List.flatMap_cons, said_append, ih]; rfl

/-- Serving packets hands over these packets. -/
theorem dispatched_serve (packets : List Packet) :
    dispatched (packets.flatMap serve) = packets := by
  induction packets with
  | nil => rfl
  | cons packet later ih => rw [List.flatMap_cons, dispatched_append, ih]; rfl

/-- No packet is handed over before an acceptance is sent. -/
def Guarded (actions : List SessionAction) : Prop :=
  ∀ earlier packet later, actions = earlier ++ .dispatch packet :: later →
    Handshake.accepted ∈ said earlier

theorem guarded_nil : Guarded [] := by
  intro earlier packet later split
  cases earlier with
  | nil => cases split
  | cons => cases split

/-- Actions may follow that hand over nothing, and any once the acceptance is sent. -/
theorem Guarded.append {told more : List SessionAction} (h : Guarded told)
    (sent : dispatched more = [] ∨ Handshake.accepted ∈ said told) : Guarded (told ++ more) := by
  have sent_of_split (front : List SessionAction) {back : List SessionAction} {packet : Packet}
      (split : more = front ++ .dispatch packet :: back) : Handshake.accepted ∈ said told := by
    rcases sent with none | sent
    · rw [split, dispatched_append] at none
      exact nomatch (List.append_eq_nil_iff.mp none).2
    · exact sent
  intro earlier packet later split
  rcases List.append_eq_append_iff.mp split with ⟨front, rfl, moreEq⟩ | ⟨back, toldEq, moreEq⟩
  · rw [said_append]
    exact List.mem_append_left _ (sent_of_split front moreEq)
  · cases back with
    | nil =>
        rw [List.append_nil] at toldEq
        exact toldEq ▸ sent_of_split [] moreEq.symm
    | cons action back =>
        cases moreEq
        exact h earlier packet back toldEq

end SessionAction

/-! ## Runs -/

/-- What a session takes in of the client's request by a call. -/
def Session.hears (s : Session) : SessionCall → Bytes
  | .receive bytes => if s.state = .authenticating then bytes else []
  | _ => []

/-- A session on which calls are made, one after another, whether they fail or not. -/
structure SessionRun where
  /-- The session after the calls. -/
  session : Session
  /-- The actions they have asked for. -/
  actions : List SessionAction := []
  /-- The bytes received while the request was awaited. -/
  heard : Bytes := []

/-- Makes one more call. -/
def SessionRun.extend (r : SessionRun) (call : SessionCall) : SessionRun where
  session := (r.session.call call).2
  actions := r.actions ++ SessionAction.asked (r.session.call call).1
  heard := r.heard ++ r.session.hears call

namespace Session

/-- Makes calls. -/
def run (s : Session) (calls : List SessionCall) : SessionRun :=
  calls.foldl SessionRun.extend { session := s }

theorem run_concat (s : Session) (calls : List SessionCall) (call : SessionCall) :
    s.run (calls ++ [call]) = (s.run calls).extend call := by
  rw [run, List.foldl_append]
  rfl

theorem foldl_extend (r : SessionRun) (calls : List SessionCall) :
    calls.foldl SessionRun.extend r =
      ⟨(r.session.run calls).session, r.actions ++ (r.session.run calls).actions,
        r.heard ++ (r.session.run calls).heard⟩ := by
  induction calls generalizing r with
  | nil => simp [run]
  | cons call later ih =>
      rw [run, List.foldl_cons, List.foldl_cons, ih, ih (SessionRun.extend _ _)]
      simp only [SessionRun.extend, List.nil_append, List.append_assoc]

theorem run_append (s : Session) (earlier later : List SessionCall) :
    s.run (earlier ++ later) =
      ⟨((s.run earlier).session.run later).session,
        (s.run earlier).actions ++ ((s.run earlier).session.run later).actions,
        (s.run earlier).heard ++ ((s.run earlier).session.run later).heard⟩ := by
  rw [run, List.foldl_append]
  exact foldl_extend (s.run earlier) later

theorem actions_run_cons (s : Session) (call : SessionCall) (later : List SessionCall) :
    (s.run (call :: later)).actions =
      SessionAction.asked (s.call call).1 ++ ((s.call call).2.run later).actions := by
  rw [run, List.foldl_cons, foldl_extend]
  rfl

end Session

/-! ## What sessions say -/

/-- The actions a session has asked for by the time it stands somewhere. -/
inductive Transcript : SessionState → List SessionAction → Prop where
  | start : Transcript .unconnected []
  | greet {actions : List SessionAction} :
      Transcript .unconnected actions →
      Transcript .authenticating (actions ++ [.write Handshake.greeting, .arm .handshake])
  | accept {actions : List SessionAction} :
      Transcript .authenticating actions →
      Transcript .ready (actions ++ [.cancel, .write Handshake.accepted, .arm .idle])
  | refuse {actions : List SessionAction} :
      Transcript .authenticating actions →
      Transcript .rejecting (actions ++ [.cancel, .write Handshake.refused, .close])
  | expireHandshake {actions : List SessionAction} :
      Transcript .authenticating actions →
      Transcript .rejecting (actions ++ [.write Handshake.refused, .close])
  | serve {actions : List SessionAction} (packets : List Packet) :
      Transcript .ready actions →
      Transcript .ready (actions ++ packets.flatMap SessionAction.serve)
  | expireIdle {actions : List SessionAction} :
      Transcript .ready actions → Transcript .ready (actions ++ [.close])
  | beginClose {state : SessionState} {actions : List SessionAction} :
      Transcript state actions → Transcript .closing actions
  | finishClose {state : SessionState} {actions : List SessionAction} :
      Transcript state actions → Transcript .closed actions

namespace Transcript

open SessionAction

theorem eq_of_unconnected {actions : List SessionAction}
    (h : Transcript .unconnected actions) : actions = [] := by
  cases h
  rfl

theorem eq_of_authenticating {actions : List SessionAction}
    (h : Transcript .authenticating actions) :
    actions = [.write Handshake.greeting, .arm .handshake] := by
  cases h with
  | greet h => rw [h.eq_of_unconnected]; rfl

/-- What a session can have said: nothing, the greeting, or the greeting and one verdict. -/
def outcomes : List (List Bytes) :=
  [[], [Handshake.greeting], [Handshake.greeting, Handshake.refused],
    [Handshake.greeting, Handshake.accepted]]

theorem said_mem {state : SessionState} {actions : List SessionAction}
    (h : Transcript state actions) : said actions ∈ outcomes := by
  induction h with
  | start => decide
  | greet h => rw [h.eq_of_unconnected]; decide
  | accept h => rw [h.eq_of_authenticating]; decide
  | refuse h => rw [h.eq_of_authenticating]; decide
  | expireHandshake h => rw [h.eq_of_authenticating]; decide
  | serve packets _ ih => rwa [said_append, said_serve, List.append_nil]
  | expireIdle _ ih => rw [said_append]; simpa [said] using ih
  | beginClose _ ih => exact ih
  | finishClose _ ih => exact ih

theorem accepted_of_ready {state : SessionState} {actions : List SessionAction}
    (h : Transcript state actions) (ready : state = .ready) :
    Handshake.accepted ∈ said actions := by
  induction h with
  | start => cases ready
  | greet => cases ready
  | accept => simp [said]
  | refuse => cases ready
  | expireHandshake => cases ready
  | serve _ _ ih => simp [ih ready]
  | expireIdle _ ih => simp [ih ready]
  | beginClose => cases ready
  | finishClose => cases ready

/-- A session hands over packets only behind its acceptance. -/
theorem guarded {state : SessionState} {actions : List SessionAction}
    (h : Transcript state actions) : Guarded actions := by
  induction h with
  | start => exact guarded_nil
  | greet _ ih => exact ih.append (.inl rfl)
  | accept _ ih => exact ih.append (.inl rfl)
  | refuse _ ih => exact ih.append (.inl rfl)
  | expireHandshake _ ih => exact ih.append (.inl rfl)
  | serve _ h ih => exact ih.append (.inr (h.accepted_of_ready rfl))
  | expireIdle _ ih => exact ih.append (.inl rfl)
  | beginClose _ ih => exact ih
  | finishClose _ ih => exact ih

end Transcript

end ProjectorControl
