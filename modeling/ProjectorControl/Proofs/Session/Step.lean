import ProjectorControl.Projector.Session
import ProjectorControl.Proofs.Framing.Chunks

/-!
# What a session does

A `SessionCall` is one of the five things that can be asked of a session, and `Session.call`
asks it.  `Session.Step` says all that can come of it, one rule for each state that makes a
difference to the call.  Every call follows one of the rules (`Session.exists_step`), so what
is proved of sessions later is proved by cases on the rules.

The loops are taken care of here: a session that is ready hands over exactly the packets that
its decoder drains (`Session.handOver_eq`), and none of them when the decoder fails.
-/

namespace ProjectorControl

/-- What can be asked of a session: to greet the client, to take in its bytes, to take note of
an expired timer, to begin to close and to end. -/
inductive SessionCall where
  | connect
  | receive (bytes : Bytes)
  | expire (timer : SessionTimer)
  | beginClose
  | finishClose
  deriving DecidableEq, Repr

/-- What is done for one packet of the client. -/
def SessionAction.serve (packet : Packet) : List SessionAction :=
  [.cancel, .dispatch packet, .arm .idle]

namespace Session

open Framing (Decoder)

/-- Makes a call. -/
def call (s : Session) : SessionCall → Except Error (List SessionAction) × Session
  | .connect => s.connect
  | .receive bytes => s.receive bytes
  | .expire timer => (.ok (s.expire timer).1, (s.expire timer).2)
  | .beginClose => (.ok [], s.beginClose.2)
  | .finishClose => (.ok [], s.finishClose)

/-! ## Changes of state -/

theorem moveTo_of_mayBecome {s : Session} {target : SessionState}
    (allowed : s.state.mayBecome target = true) :
    s.moveTo target = .ok { s with state := target } := by
  rw [moveTo, if_pos allowed]

theorem moveTo_of_not_mayBecome {s : Session} {target : SessionState}
    (forbidden : s.state.mayBecome target = false) :
    s.moveTo target = .error (.invalidStateTransition s.state.name target.name) := by
  rw [moveTo, if_neg (by simp [forbidden])]

/-- A session can be greeted only from the start. -/
theorem mayBecome_greeting {source : SessionState} (other : source ≠ .unconnected) :
    source.mayBecome .greeting = false := by
  cases source with
  | unconnected => exact absurd rfl other
  | greeting => rfl
  | authenticating => rfl
  | rejecting => rfl
  | ready => rfl
  | running => rfl
  | closing => rfl
  | closed => rfl

/-! ## Serving packets -/

/-- A session that is ready takes a packet and is ready again; at anything else it stops. -/
theorem handOver_of_decode {s : Session} {outcome : Except Error (Option Packet)}
    {rest : Decoder} (ready : s.state = .ready) (taken : s.decoder.decode = (outcome, rest)) :
    s.handOver =
      let after := { s with decoder := rest }
      match outcome with
      | .ok (some packet) =>
        (after.handOver.1.map (SessionAction.serve packet ++ ·), after.handOver.2)
      | .ok none => (.ok [], after)
      | .error fault => (.error fault, after) := by
  obtain ⟨state, expected, request, decoder⟩ := s
  subst ready
  rw [handOver]
  split
  next found =>
    rw [taken] at found
    cases found
    rfl
  next found =>
    rw [taken] at found
    cases found
    rfl
  next found =>
    rw [taken] at found
    cases found
    rfl

/-- A session that is ready hands over all packets its decoder gives out or, when the decoder
fails, none. -/
theorem handOver_eq {s : Session} (ready : s.state = .ready) :
    s.handOver =
      (match s.decoder.drain.1.2 with
        | none => .ok (s.decoder.drain.1.1.flatMap SessionAction.serve)
        | some fault => .error fault,
        { s with decoder := s.decoder.drain.2 }) := by
  -- Both loops call themselves on a shorter buffer, so this is by induction on its length.
  induction length : s.decoder.buffer.length using Nat.strongRecOn generalizing s with
  | ind n ih =>
      rcases taken : s.decoder.decode with ⟨fault | _ | packet, rest⟩
      · rw [handOver_of_decode ready taken, Decoder.drain_of_decode taken]
      · rw [handOver_of_decode ready taken, Decoder.drain_of_decode taken]
        rfl
      · have shorter : rest.buffer.length < n := length ▸ Decoder.length_lt_of_decode taken
        have later := ih rest.buffer.length shorter (s := { s with decoder := rest }) ready rfl
        rw [handOver_of_decode ready taken, Decoder.drain_of_decode taken]
        simp only [later]
        cases rest.drain.1.2 with
        | none => rfl
        | some fault => rfl

/-- A session that is ready answers bytes with the packets they complete, or with a fault. -/
theorem receive_of_ready {s : Session} (ready : s.state = .ready) (bytes : Bytes) :
    s.receive bytes =
      (match (s.decoder.feed bytes).drain.1.2 with
        | none => .ok ((s.decoder.feed bytes).drain.1.1.flatMap SessionAction.serve)
        | some fault => .error fault,
        { s with decoder := (s.decoder.feed bytes).drain.2 }) := by
  have received : s.receive bytes = { s with decoder := s.decoder.feed bytes }.handOver := by
    simp only [receive, ready]
  rw [received]
  exact handOver_eq (s := { s with decoder := s.decoder.feed bytes }) ready

/-! ## The rules of a session -/

/-- What a call does: one rule for each state that makes a difference to it. -/
inductive Step (s : Session) : SessionCall → Except Error (List SessionAction) → Session → Prop
    where
  | greet :
      s.state = .unconnected →
      Step s .connect (.ok [.write Handshake.greeting, .arm .handshake])
        { s with state := .authenticating }
  | greetAgain :
      s.state ≠ .unconnected →
      Step s .connect
        (.error (.invalidStateTransition s.state.name SessionState.greeting.name)) s
  | await {bytes : Bytes} :
      s.state = .authenticating → s.request ++ bytes <+: s.expected →
      s.request ++ bytes ≠ s.expected →
      Step s (.receive bytes) (.ok []) { s with request := s.request ++ bytes }
  | accept {bytes : Bytes} :
      s.state = .authenticating → s.request ++ bytes = s.expected →
      Step s (.receive bytes) (.ok [.cancel, .write Handshake.accepted, .arm .idle])
        { s with state := .ready, request := [] }
  | refuse {bytes : Bytes} :
      s.state = .authenticating → ¬ s.request ++ bytes <+: s.expected →
      Step s (.receive bytes) (.ok [.cancel, .write Handshake.refused, .close])
        { s with state := .rejecting, request := s.request ++ bytes }
  | serve {bytes : Bytes} {packets : List Packet} {rest : Decoder} :
      s.state = .ready → (s.decoder.feed bytes).drain = ((packets, none), rest) →
      Step s (.receive bytes) (.ok (packets.flatMap SessionAction.serve))
        { s with decoder := rest }
  | fail {bytes : Bytes} {packets : List Packet} {fault : Error} {rest : Decoder} :
      s.state = .ready → (s.decoder.feed bytes).drain = ((packets, some fault), rest) →
      Step s (.receive bytes) (.error fault) { s with decoder := rest }
  | ignore {bytes : Bytes} :
      s.state ≠ .authenticating → s.state ≠ .ready → Step s (.receive bytes) (.ok []) s
  | expireHandshake :
      s.state = .authenticating →
      Step s (.expire .handshake) (.ok [.write Handshake.refused, .close])
        { s with state := .rejecting }
  | expireIdle : s.state = .ready → Step s (.expire .idle) (.ok [.close]) s
  | expireStale {timer : SessionTimer} :
      ¬ (timer = .handshake ∧ s.state = .authenticating) →
      ¬ (timer = .idle ∧ s.state = .ready) → Step s (.expire timer) (.ok []) s
  | beginClose :
      s.state.isLive = true → Step s .beginClose (.ok []) { s with state := .closing }
  | beginCloseAgain : s.state.isLive = false → Step s .beginClose (.ok []) s
  | finishClose : Step s .finishClose (.ok []) { s with state := .closed }

theorem step_connect (s : Session) : s.Step .connect s.connect.1 s.connect.2 := by
  by_cases start : s.state = .unconnected
  · have connected : s.connect =
        (.ok [.write Handshake.greeting, .arm .handshake], { s with state := .authenticating }) := by
      obtain ⟨state, expected, request, decoder⟩ := s
      subst start
      rfl
    rw [connected]
    exact .greet start
  · have failed : s.connect =
        (.error (.invalidStateTransition s.state.name SessionState.greeting.name), s) := by
      rw [connect, moveTo_of_not_mayBecome (mayBecome_greeting start)]
    rw [failed]
    exact .greetAgain start

theorem authenticate_of_partial {s : Session} {bytes : Bytes}
    (fits : s.request ++ bytes <+: s.expected) (unequal : s.request ++ bytes ≠ s.expected) :
    s.authenticate bytes = (.ok [], { s with request := s.request ++ bytes }) := by
  have shorter : (s.request ++ bytes).length < s.expected.length :=
    Nat.lt_of_le_of_ne fits.length_le fun same => unequal (fits.eq_of_length same)
  simp only [authenticate, List.isPrefixOf_iff_prefix.mpr fits, Bool.not_true,
    Bool.false_eq_true, if_false, if_pos shorter]

theorem authenticate_of_eq {s : Session} {bytes : Bytes} (waiting : s.state = .authenticating)
    (whole : s.request ++ bytes = s.expected) :
    s.authenticate bytes =
      (.ok [.cancel, .write Handshake.accepted, .arm .idle],
        { s with state := .ready, request := [] }) := by
  have fits : (s.request ++ bytes).isPrefixOf s.expected = true :=
    List.isPrefixOf_iff_prefix.mpr (whole ▸ List.prefix_refl _)
  have toReady : ({ s with request := s.request ++ bytes } : Session).moveTo .ready =
      .ok { s with state := .ready, request := s.request ++ bytes } :=
    moveTo_of_mayBecome (by simp only [waiting]; rfl)
  simp only [authenticate, fits, Bool.not_true, Bool.false_eq_true, if_false,
    if_neg (Nat.not_lt_of_le (Nat.le_of_eq (congrArg List.length whole.symm))), toReady]

theorem authenticate_of_mismatch {s : Session} {bytes : Bytes}
    (waiting : s.state = .authenticating) (wrong : ¬ s.request ++ bytes <+: s.expected) :
    s.authenticate bytes =
      (.ok [.cancel, .write Handshake.refused, .close],
        { s with state := .rejecting, request := s.request ++ bytes }) := by
  have fits : (s.request ++ bytes).isPrefixOf s.expected = false :=
    Bool.eq_false_iff.mpr fun h => wrong (List.isPrefixOf_iff_prefix.mp h)
  have toRejecting : ({ s with request := s.request ++ bytes } : Session).moveTo .rejecting =
      .ok { s with state := .rejecting, request := s.request ++ bytes } :=
    moveTo_of_mayBecome (by simp only [waiting]; rfl)
  simp only [authenticate, fits, Bool.not_false, if_true, toRejecting]

theorem step_receive (s : Session) (bytes : Bytes) :
    s.Step (.receive bytes) (s.receive bytes).1 (s.receive bytes).2 := by
  by_cases waiting : s.state = .authenticating
  · have eq : s.receive bytes = s.authenticate bytes := by simp only [receive, waiting]
    rw [eq]
    by_cases whole : s.request ++ bytes = s.expected
    · rw [authenticate_of_eq waiting whole]
      exact .accept waiting whole
    by_cases fits : s.request ++ bytes <+: s.expected
    · rw [authenticate_of_partial fits whole]
      exact .await waiting fits whole
    · rw [authenticate_of_mismatch waiting fits]
      exact .refuse waiting fits
  by_cases ready : s.state = .ready
  · rw [receive_of_ready ready]
    rcases drained : (s.decoder.feed bytes).drain with ⟨⟨packets, _ | fault⟩, rest⟩
    · exact .serve ready drained
    · exact .fail ready drained
  · have eq : s.receive bytes = (.ok [], s) := by
      unfold receive
      split
      next h => exact absurd h waiting
      next h => exact absurd h ready
      next => rfl
    rw [eq]
    exact .ignore waiting ready

theorem step_expire (s : Session) (timer : SessionTimer) :
    s.Step (.expire timer) (.ok (s.expire timer).1) (s.expire timer).2 := by
  unfold expire
  split
  next waiting => exact .expireHandshake waiting
  next ready => exact .expireIdle ready
  next early late => exact .expireStale (fun h => early h.1 h.2) (fun h => late h.1 h.2)

theorem step_beginClose (s : Session) : s.Step .beginClose (.ok []) s.beginClose.2 := by
  unfold beginClose
  split
  next live => exact .beginClose live
  next dead => exact .beginCloseAgain (Bool.eq_false_iff.mpr dead)

/-- Every call follows one of the rules. -/
theorem step_call (s : Session) (call : SessionCall) :
    s.Step call (s.call call).1 (s.call call).2 := by
  cases call with
  | connect => exact s.step_connect
  | receive bytes => exact s.step_receive bytes
  | expire timer => exact s.step_expire timer
  | beginClose => exact s.step_beginClose
  | finishClose => exact .finishClose

/-- What a call does, with its two parts named. -/
theorem exists_step (s : Session) (call : SessionCall) :
    ∃ result after, s.call call = (result, after) ∧ s.Step call result after :=
  ⟨_, _, rfl, s.step_call call⟩

end Session

end ProjectorControl
