import ProjectorControl.Proofs.Projector.Connection
import ProjectorControl.Proofs.Server.Seat
import ProjectorControl.Proofs.Session.Commands

/-!
# Stages of a connection

A connection is fresh, then it waits to be asked in, and then the client is inside.  `Stage` says
what was seen of it by then (`Seen`): what the client has sent, what it was sent, and which of its
packets were carried out.  Inside, what the client has sent are packets that were carried out,
packets that wait, and an unfinished line; and what came of the packets was either sent or is in
the mailbox.

Whatever a session is asked to do leads to a stage again if all its actions are carried out
(`Stage.goes`), and if only some are, no more was seen than `Settled` allows
(`Stage.settles`).
-/

namespace ProjectorControl

open SessionAction (said dispatched)
open SessionMessage (told)
open Framing (Cuts Decoder frames cuts_frames)

/-! ## What is sent on behalf of the dispatcher -/

/-- What a connection sends when it does what it is told, up to the first message to close. -/
def SessionMessage.outgoing : List SessionMessage → Bytes
  | [] => []
  | .send packets :: later => packets.flatMap Packet.bytes ++ outgoing later
  | .close :: _ => []

open SessionMessage (outgoing)

theorem SessionMessage.outgoing_sends (sent : List (List Packet)) (later : List SessionMessage) :
    outgoing (sent.map .send ++ later) = sent.flatten.flatMap Packet.bytes ++ outgoing later := by
  induction sent with
  | nil => rfl
  | cons packets sent ih =>
      rw [List.map_cons, List.cons_append, outgoing, ih, List.flatten_cons, List.flatMap_append,
        List.append_assoc]

/-- Further messages are sent behind the others. -/
theorem SessionMessage.outgoing_prefix (earlier later : List SessionMessage) :
    outgoing earlier <+: outgoing (earlier ++ later) := by
  induction earlier with
  | nil => exact List.nil_prefix
  | cons message earlier ih =>
      cases message with
      | send packets => exact (List.prefix_append_right_inj _).mpr ih
      | close => exact List.prefix_refl _

/-! ## What was seen -/

/-- What was seen of a connection. -/
structure Seen where
  /-- What it has read. -/
  heard : Bytes
  /-- What it has sent. -/
  written : Bytes
  /-- Its packets that were carried out, and what came of them. -/
  answers : List (Packet × Except Error (Option (List Packet)))
  /-- Its packets that wait for the dispatcher. -/
  waiting : List Packet

namespace Seen

/-- What was seen once the connection has read and sent more, and handed over more packets. -/
def grown (a : Seen) (bytes sent : Bytes) (packets : List Packet) : Seen where
  heard := a.heard ++ bytes
  written := a.written ++ sent
  answers := a.answers
  waiting := a.waiting ++ packets

theorem grown_nil (a : Seen) : a.grown [] [] [] = a := by
  simp only [grown, List.append_nil]

/-- What the session was told about its packets. -/
def messages (a : Seen) : List SessionMessage := a.answers.flatMap fun answer => told answer.2

/-- All packets that were handed over. -/
def handed (a : Seen) : List Packet := a.answers.map Prod.fst ++ a.waiting

/-- What was seen once the first packet that waits was carried out. -/
def answered (a : Seen) (packet : Packet) (result : Except Error (Option (List Packet)))
    (later : List Packet) : Seen :=
  { a with answers := a.answers ++ [(packet, result)], waiting := later }

variable {a : Seen} {packet : Packet} {later : List Packet}

theorem messages_answered (a : Seen) (packet : Packet)
    (result : Except Error (Option (List Packet))) (later : List Packet) :
    (a.answered packet result later).messages = a.messages ++ told result := by
  simp [answered, messages]

/-- A packet that was carried out was handed over before. -/
theorem handed_answered (queued : a.waiting = packet :: later)
    (result : Except Error (Option (List Packet))) :
    (a.answered packet result later).handed = a.handed := by
  simp [answered, handed, queued]

/-- Of a client that asks to be let in with some request, what may be seen. -/
inductive Settled (expected : Bytes) (a : Seen) : Prop where
  /-- A client that was not let in was refused at most. -/
  | outside :
      a.written <+: Handshake.greeting ++ Handshake.refused → a.answers = [] → a.waiting = [] →
      Settled expected a
  /-- A client that was let in was sent what came of its packets. -/
  | inside (stream : Bytes) :
      a.heard = expected ++ stream → a.handed <+: (frames stream).packets →
      a.written <+: Handshake.greeting ++ (Handshake.accepted ++ outgoing a.messages) →
      Settled expected a

namespace Settled

variable {expected : Bytes}

theorem answered (settled : Settled expected a) (queued : a.waiting = packet :: later)
    (result : Except Error (Option (List Packet))) :
    Settled expected (a.answered packet result later) := by
  cases settled with
  | outside _ _ none => exact nomatch queued.symm.trans none
  | inside stream heard handed written =>
      refine .inside stream heard (handed_answered queued result ▸ handed) ?_
      refine List.IsPrefix.trans written ?_
      rw [messages_answered]
      simp only [List.prefix_append_right_inj]
      exact SessionMessage.outgoing_prefix _ _

/-- Packets that wait in vain were handed over all the same. -/
theorem forgets (settled : Settled expected a) : Settled expected { a with waiting := [] } := by
  cases settled with
  | outside written answers => exact .outside written answers rfl
  | inside stream heard handed written =>
      refine .inside stream heard (List.IsPrefix.trans ?_ handed) written
      simp only [Seen.handed, List.append_nil]
      exact List.prefix_append _ _

end Settled

end Seen

/-- What a session reads by a call.  Before it has begun, it does not read. -/
def Session.reads (s : Session) : SessionCall → Bytes
  | .receive bytes => if s.state = .unconnected then [] else bytes
  | _ => []

/-- Where an open connection stands. -/
inductive Stage (expected : Bytes) (a : Seen) (s : Session) (mailbox : List SessionMessage)
    (stopped : Bool) : Prop where
  /-- Nothing has happened. -/
  | fresh :
      s.state = .unconnected → s.request = [] → s.decoder = {} → a = ⟨[], [], [], []⟩ →
      mailbox = [] → Stage expected a s mailbox stopped
  /-- The client was greeted, and what it has sent is a part of its request. -/
  | asking :
      s.state = .authenticating → s.request = a.heard → s.decoder = {} →
      a.written = Handshake.greeting → a.answers = [] → a.waiting = [] → mailbox = [] →
      Stage expected a s mailbox stopped
  /-- The client was let in.  All its packets were handed over, if there is a dispatcher. -/
  | inside (stream : Bytes) (packets : List Packet) (sent : List (List Packet)) :
      s.state = .ready → s.decoder.Resting → a.heard = expected ++ stream →
      Cuts stream ⟨packets, none, s.decoder.buffer⟩ → a.handed <+: packets →
      (stopped = false → a.handed = packets) → a.messages = sent.map .send ++ mailbox →
      a.written = Handshake.greeting ++
        (Handshake.accepted ++ sent.flatten.flatMap Packet.bytes) →
      Stage expected a s mailbox stopped

namespace Stage

open Seen (Settled)

variable {expected : Bytes} {a : Seen} {s : Session} {mailbox : List SessionMessage}
  {stopped : Bool}

theorem settled (stage : Stage expected a s mailbox stopped) : Settled expected a := by
  cases stage with
  | fresh _ _ _ empty =>
      subst empty
      exact .outside List.nil_prefix rfl rfl
  | asking _ _ _ written answers waiting =>
      exact .outside (written ▸ List.prefix_append _ _) answers waiting
  | inside stream packets sent _ _ heard cuts handed _ messages written =>
      refine .inside stream heard (cuts.eq_frames ▸ handed) ?_
      rw [messages, SessionMessage.outgoing_sends, written]
      simp only [List.prefix_append_right_inj]
      exact List.prefix_append _ _

/-! ## Calls -/

theorem reads_of_unconnected (state : s.state = .unconnected) (call : SessionCall) :
    s.reads call = [] := by
  cases call with
  | receive bytes => exact if_pos state
  | _ => rfl

theorem reads_receive {bytes : Bytes} (begun : s.state ≠ .unconnected) :
    s.reads (.receive bytes) = bytes := if_neg begun

/-- A stream goes on with the bytes that the decoder holds. -/
theorem frames_received {stream : Bytes} {packets : List Packet}
    (cuts : Cuts stream ⟨packets, none, s.decoder.buffer⟩) (bytes : Bytes) :
    frames (stream ++ bytes) =
      { frames (s.decoder.buffer ++ bytes) with
        packets := packets ++ (frames (s.decoder.buffer ++ bytes)).packets } :=
  (cuts.append rfl (cuts_frames _)).eq_frames.symm

theorem of_unconnected (stage : Stage expected a s mailbox stopped)
    (state : s.state = .unconnected) :
    s.request = [] ∧ s.decoder = {} ∧ a = ⟨[], [], [], []⟩ ∧ mailbox = [] := by
  cases stage with
  | fresh _ request decoder empty none => exact ⟨request, decoder, empty, none⟩
  | asking authenticating => exact nomatch state.symm.trans authenticating
  | inside _ _ _ ready => exact nomatch state.symm.trans ready

theorem of_authenticating (stage : Stage expected a s mailbox stopped)
    (state : s.state = .authenticating) :
    s.request = a.heard ∧ s.decoder = {} ∧ a.written = Handshake.greeting ∧ a.answers = [] ∧
      a.waiting = [] ∧ mailbox = [] := by
  cases stage with
  | fresh unconnected => exact nomatch state.symm.trans unconnected
  | asking _ request decoder written answers waiting none =>
      exact ⟨request, decoder, written, answers, waiting, none⟩
  | inside _ _ _ ready => exact nomatch state.symm.trans ready

/-- A stage in which a session does not read is the first one. -/
theorem unconnected_of_other (stage : Stage expected a s mailbox stopped)
    (notAuthenticating : s.state ≠ .authenticating) (notReady : s.state ≠ .ready) :
    s.state = .unconnected := by
  cases stage with
  | fresh unconnected => exact unconnected
  | asking authenticating => exact absurd authenticating notAuthenticating
  | inside _ _ _ ready => exact absurd ready notReady

theorem resting_of_ready (stage : Stage expected a s mailbox stopped) (state : s.state = .ready) :
    s.decoder.Resting := by
  cases stage with
  | fresh unconnected => exact nomatch state.symm.trans unconnected
  | asking authenticating => exact nomatch state.symm.trans authenticating
  | inside _ _ _ _ resting => exact resting

/-- Before a client was let in, nothing but a refusal can follow the greeting. -/
theorem settled_of_authenticating (stage : Stage expected a s mailbox stopped)
    (state : s.state = .authenticating) {sent : Bytes} (speaks : sent <+: Handshake.refused)
    (bytes : Bytes) : Settled expected (a.grown bytes sent []) := by
  obtain ⟨-, -, written, answers, waiting, -⟩ := stage.of_authenticating state
  refine .outside ?_ answers ((List.append_nil _).trans waiting)
  simp only [Seen.grown, written]
  exact (List.prefix_append_right_inj _).mpr speaks

/-- What a session that is inside and sends nothing has handed over was in its stream. -/
theorem settled_of_ready (stage : Stage expected a s mailbox stopped) (state : s.state = .ready)
    (bytes : Bytes) {packets : List Packet}
    (hands : packets <+: (frames (s.decoder.buffer ++ bytes)).packets)
    (taken : stopped = true → packets = []) : Settled expected (a.grown bytes [] packets) := by
  cases stage with
  | fresh unconnected => exact nomatch state.symm.trans unconnected
  | asking authenticating => exact nomatch state.symm.trans authenticating
  | inside stream earlier sent _ _ heard cuts handed all messages written =>
      refine .inside (stream ++ bytes) ?_ ?_ ?_
      · simp only [Seen.grown, heard, List.append_assoc]
      · rw [frames_received cuts]
        simp only [Seen.grown, Seen.handed, ← List.append_assoc]
        cases stopped with
        | true =>
            rw [taken rfl, List.append_nil]
            exact handed.trans (List.prefix_append _ _)
        | false => exact all rfl ▸ (List.prefix_append_right_inj _).mpr hands
      · simp only [Seen.grown, List.append_nil, written, List.prefix_append_right_inj]
        change _ <+: outgoing a.messages
        rw [messages, SessionMessage.outgoing_sends]
        exact List.prefix_append _ _

/-- A session that fails has shown nothing new. -/
theorem settles_of_fault (stage : Stage expected a s mailbox stopped) {call : SessionCall}
    {fault : Error} {after : Session} (step : s.Step call (.error fault) after) :
    Settled expected (a.grown (s.reads call) [] []) := by
  cases step with
  | greetAgain => exact a.grown_nil.symm ▸ stage.settled
  | fail state =>
      rw [reads_receive (by simp [state])]
      exact stage.settled_of_ready state _ List.nil_prefix fun _ => rfl

/-- However many of its actions are carried out, a session shows no more than it may. -/
theorem settles (stage : Stage expected a s mailbox stopped) {call : SessionCall}
    {actions : List SessionAction} {after : Session} (step : s.Step call (.ok actions) after)
    (same : s.expected = expected) {sent : Bytes} {packets : List Packet}
    (speaks : sent <+: (said actions).flatten) (hands : packets <+: dispatched actions)
    (taken : stopped = true → packets = []) :
    Settled expected (a.grown (s.reads call) sent packets) := by
  cases step with
  | greet state =>
      obtain ⟨-, -, rfl, -⟩ := stage.of_unconnected state
      exact .outside (speaks.trans (by decide)) rfl (List.prefix_nil.mp hands)
  | await state fits =>
      obtain rfl := List.prefix_nil.mp hands
      exact stage.settled_of_authenticating state (speaks.trans List.nil_prefix) _
  | @accept bytes state whole =>
      obtain ⟨request, -, written, answers, waiting, -⟩ := stage.of_authenticating state
      obtain rfl := List.prefix_nil.mp hands
      rw [reads_receive (by simp [state])]
      refine .inside [] ?_ ?_ ?_
      · rw [List.append_nil, ← same, ← whole, request]
        rfl
      · simp [Seen.grown, Seen.handed, answers, waiting]
      · simp only [Seen.grown, Seen.messages, written, answers]
        exact (List.prefix_append_right_inj _).mpr speaks
  | refuse state =>
      obtain rfl := List.prefix_nil.mp hands
      exact stage.settled_of_authenticating state speaks _
  | @serve bytes found rest state drained =>
      rw [SessionAction.said_serve] at speaks
      rw [SessionAction.dispatched_serve] at hands
      obtain rfl := List.prefix_nil.mp speaks
      rw [(stage.resting_of_ready state).drain_feed bytes] at drained
      simp only [Prod.mk.injEq] at drained
      obtain ⟨⟨rfl, -⟩, -⟩ := drained
      rw [reads_receive (by simp [state])]
      exact stage.settled_of_ready state bytes hands taken
  | ignore notAuthenticating notReady =>
      obtain rfl := List.prefix_nil.mp speaks
      obtain rfl := List.prefix_nil.mp hands
      have state := stage.unconnected_of_other notAuthenticating notReady
      rw [reads_of_unconnected state, a.grown_nil]
      exact stage.settled
  | expireHandshake state =>
      obtain rfl := List.prefix_nil.mp hands
      exact stage.settled_of_authenticating state speaks _
  | expireIdle | expireStale | beginClose | beginCloseAgain | finishClose =>
      obtain rfl := List.prefix_nil.mp speaks
      obtain rfl := List.prefix_nil.mp hands
      exact a.grown_nil.symm ▸ stage.settled

/-- A client whose request is the expected one is inside, and nothing is handed over yet. -/
theorem goes_inside (stage : Stage expected a s mailbox stopped)
    (state : s.state = .authenticating) {bytes : Bytes} (whole : s.request ++ bytes = expected) :
    Stage expected (a.grown bytes Handshake.accepted [])
      { s with state := .ready, request := [] } mailbox stopped := by
  obtain ⟨request, decoder, written, answers, waiting, none⟩ := stage.of_authenticating state
  have handed : (a.grown bytes Handshake.accepted []).handed = [] := by
    simp only [Seen.grown, Seen.handed, answers, waiting, List.map_nil, List.append_nil]
  refine .inside [] [] [] rfl (decoder ▸ Decoder.resting_new) ?_ ?_ ?_ (fun _ => handed) ?_ ?_
  · rw [List.append_nil, ← whole, request]
    rfl
  · exact decoder ▸ .unfinished List.not_mem_nil (by decide)
  · simp only [handed, List.nil_prefix]
  · simp [Seen.grown, Seen.messages, answers, none]
  · simp only [Seen.grown, written]
    rfl

/-- A client that is inside stays there while its bytes can be decoded. -/
theorem goes_on (stage : Stage expected a s mailbox stopped) (state : s.state = .ready)
    {bytes : Bytes} {packets : List Packet} {rest : Decoder}
    (drained : (s.decoder.feed bytes).drain = ((packets, none), rest))
    (taken : stopped = true → packets = []) :
    Stage expected (a.grown bytes [] packets) { s with decoder := rest } mailbox stopped := by
  cases stage with
  | fresh unconnected => exact nomatch state.symm.trans unconnected
  | asking authenticating => exact nomatch state.symm.trans authenticating
  | inside stream earlier sent _ resting heard cuts handed all messages written =>
      rw [resting.drain_feed bytes] at drained
      simp only [Prod.mk.injEq] at drained
      obtain ⟨⟨rfl, sound⟩, rfl⟩ := drained
      have further := cuts_frames (s.decoder.buffer ++ bytes)
      refine .inside (stream ++ bytes) (earlier ++ (frames (s.decoder.buffer ++ bytes)).packets)
        sent state (Decoder.resting_leftBy further sound) ?_ ?_ ?_ ?_ messages ?_
      · simp only [Seen.grown, heard, List.append_assoc]
      · have joined := cuts.append rfl further
        rwa [sound] at joined
      · simp only [Seen.grown, Seen.handed, ← List.append_assoc]
        cases stopped with
        | true =>
            rw [taken rfl, List.append_nil]
            exact handed.trans (List.prefix_append _ _)
        | false => exact all rfl ▸ List.prefix_refl _
      · intro running
        simp only [Seen.grown, Seen.handed, ← List.append_assoc]
        exact congrArg (· ++ _) (all running)
      · exact (List.append_nil _).trans written

/-- A session whose actions are all carried out, and that does not end by it, reaches a stage. -/
theorem goes (stage : Stage expected a s mailbox stopped) {call : SessionCall}
    {actions : List SessionAction} {after : Session} (step : s.Step call (.ok actions) after)
    (asked : call ≠ .beginClose ∧ call ≠ .finishClose) (same : s.expected = expected)
    (going : .close ∉ actions) (taken : stopped = true → dispatched actions = []) :
    Stage expected (a.grown (s.reads call) (said actions).flatten (dispatched actions)) after
      mailbox stopped := by
  cases step with
  | greet state =>
      obtain ⟨request, decoder, rfl, none⟩ := stage.of_unconnected state
      exact .asking rfl request decoder rfl rfl rfl none
  | await state fits =>
      obtain ⟨request, decoder, written, answers, waiting, none⟩ := stage.of_authenticating state
      rw [reads_receive (by simp [state])]
      refine .asking state (congrArg (· ++ _) request) decoder ?_ answers ?_ none
      · exact (List.append_nil _).trans written
      · exact (List.append_nil _).trans waiting
  | accept state whole =>
      rw [reads_receive (by simp [state])]
      exact stage.goes_inside state (whole.trans same)
  | refuse state => exact absurd (by simp) going
  | serve state drained =>
      rw [SessionAction.dispatched_serve] at taken
      rw [SessionAction.said_serve, SessionAction.dispatched_serve,
        reads_receive (by simp [state])]
      exact stage.goes_on state drained taken
  | ignore notAuthenticating notReady =>
      have state := stage.unconnected_of_other notAuthenticating notReady
      rw [reads_of_unconnected state]
      exact a.grown_nil.symm ▸ stage
  | expireHandshake state => exact absurd (by simp) going
  | expireIdle state => exact absurd (by simp) going
  | expireStale => exact a.grown_nil.symm ▸ stage
  | beginClose => exact absurd rfl asked.1
  | beginCloseAgain => exact absurd rfl asked.1
  | finishClose => exact absurd rfl asked.2

/-! ## Messages and answers -/

/-- A message can wait only for a client that was let in. -/
theorem settles_send {packets : List Packet} {later : List SessionMessage}
    (stage : Stage expected a s (.send packets :: later) stopped) {sent : Bytes}
    (speaks : sent <+: packets.flatMap Packet.bytes) : Settled expected (a.grown [] sent []) := by
  cases stage with
  | fresh _ _ _ _ none => cases none
  | asking _ _ _ _ _ _ none => cases none
  | inside stream whole earlier _ _ heard cuts handed _ messages written =>
      refine .inside stream ?_ ?_ ?_
      · exact (List.append_nil _).trans heard
      · rw [← cuts.eq_frames]
        simpa only [Seen.grown, Seen.handed, List.append_nil] using handed
      · change a.written ++ sent <+: Handshake.greeting ++
          (Handshake.accepted ++ outgoing a.messages)
        rw [messages, SessionMessage.outgoing_sends, outgoing, written]
        simp only [List.append_assoc, List.prefix_append_right_inj]
        exact speaks.trans (List.prefix_append _ _)

theorem goes_send {packets : List Packet} {later : List SessionMessage}
    (stage : Stage expected a s (.send packets :: later) stopped) :
    Stage expected (a.grown [] (packets.flatMap Packet.bytes) []) s later stopped := by
  cases stage with
  | fresh _ _ _ _ none => cases none
  | asking _ _ _ _ _ _ none => cases none
  | inside stream whole earlier state resting heard cuts handed all messages written =>
      have same : (a.grown [] (packets.flatMap Packet.bytes) []).handed = a.handed := by
        simp only [Seen.grown, Seen.handed, List.append_nil]
      refine .inside stream whole (earlier ++ [packets]) state resting
        ((List.append_nil _).trans heard) cuts (same ▸ handed) (same ▸ all) ?_ ?_
      · change a.messages = _
        rw [messages, List.map_append, List.append_assoc]
        rfl
      · simp only [Seen.grown, written, List.flatten_append, List.flatMap_append,
          List.append_assoc, List.flatten_cons, List.flatten_nil, List.append_nil]

theorem answered (stage : Stage expected a s mailbox stopped) {packet : Packet}
    {later : List Packet} (queued : a.waiting = packet :: later)
    (result : Except Error (Option (List Packet))) :
    Stage expected (a.answered packet result later) s (mailbox ++ told result) stopped := by
  cases stage with
  | fresh _ _ _ empty => exact nomatch queued.symm.trans (congrArg Seen.waiting empty)
  | asking _ _ _ _ _ none => exact nomatch queued.symm.trans none
  | inside stream whole sent state resting heard cuts handed all messages written =>
      have same := Seen.handed_answered queued result
      refine .inside stream whole sent state resting heard cuts (same ▸ handed) (same ▸ all) ?_
        written
      rw [Seen.messages_answered, messages, List.append_assoc]

theorem stops (stage : Stage expected a s mailbox stopped) :
    Stage expected { a with waiting := [] } s mailbox true := by
  cases stage with
  | fresh state request decoder empty none =>
      exact .fresh state request decoder (by rw [empty]) none
  | asking state request decoder written answers _ none =>
      exact .asking state request decoder written answers rfl none
  | inside stream whole sent state resting heard cuts handed _ messages written =>
      refine .inside stream whole sent state resting heard cuts (List.IsPrefix.trans ?_ handed)
        nofun messages written
      simp only [Seen.handed, List.append_nil]
      exact List.prefix_append _ _

end Stage

end ProjectorControl
