import ProjectorControl.Net.Stream
import ProjectorControl.Transport.Stream.Connection

/-!
# Recording what passes

A peer may do what it likes at any time, and what it does may depend on what it is told.  To say
what a client makes of it, `Recorded` keeps a record beside a peer: all bytes that have come from
it, whether its stream has ended, and what it was told, each time with what had come by then.
A network is recorded by recording the peers it leads to.

`Recorded.Follows` compares the record with an inbox: what was heard is what was taken from the
inbox and what is left in it.  Whatever arrives keeps this (`Recorded.Follows.hear`).

The record changes nothing.  Connecting to a recorded peer and exchanging packets with it comes
to the same as without the record (`StreamConnection.connect_unrecorded`,
`StreamConnection.exchange_unrecorded`).
-/

namespace ProjectorControl

open ProjectorControl.Net

/-- A peer, and what has passed between it and the client. -/
structure Recorded (π : Type) where
  /-- The peer. -/
  peer : π
  /-- The bytes that have come from it, up to the end of its stream. -/
  heard : Bytes := []
  /-- Whether its stream has ended. -/
  ended : Bool := false
  /-- What it was told, each time behind what had been heard. -/
  told : List (Bytes × Bytes) := []

namespace Recorded

variable {π : Type}

/-- Takes down what has come. -/
def hear (r : Recorded π) : Option Arrival → Recorded π
  | none => r
  | some (.bytes first more) =>
    if r.ended then r else { r with heard := r.heard ++ first :: more }
  | some .closed | some (.failed _) => { r with ended := true }

instance [Peer π] : Peer (Recorded π) where
  send bytes now limit r :=
    let (waited, peer) := Peer.send bytes now limit r.peer
    (waited, { r with peer := peer, told := r.told ++ [(r.heard, bytes)] })
  receive now limit r :=
    let (waited, peer) := Peer.receive now limit r.peer
    (waited, { r with peer := peer }.hear waited.result)

end Recorded

/-- A network whose peers are recorded. -/
structure Recording (ν : Type) where
  /-- The network. -/
  network : ν

instance {ν π : Type} [Network ν π] : Network (Recording ν) (Recorded π) where
  dial address now limit r :=
    let (waited, network) := Network.dial address now limit r.network
    (⟨waited.result.map fun dialled => dialled.map fun peer => { peer := peer }, waited.latency⟩,
      ⟨network⟩)
  listen address r :=
    let (result, network) := Network.listen address r.network
    (result, ⟨network⟩)

/-! ## The record and the inbox -/

/-- What an arrival does to an inbox. -/
def Net.Arrival.note : Arrival → Inbox → Inbox
  | .bytes first more, inbox => inbox.feed (first :: more)
  | .closed, inbox => inbox.finish .closed
  | .failed reason, inbox => inbox.finish (.failed reason)

namespace Recorded

variable {π : Type} {taken : Bytes} {inbox : Inbox} {r : Recorded π}

/-- What was heard is what was taken from an inbox and what is left in it. -/
structure Follows (r : Recorded π) (taken : Bytes) (inbox : Inbox) : Prop where
  heard : r.heard = taken ++ inbox.decoder.buffer
  ended : r.ended = inbox.ending.isSome

theorem isSome_ending_finish (inbox : Inbox) (ending : StreamEnd) :
    (inbox.finish ending).ending.isSome = true := by
  cases before : inbox.ending <;> simp [Inbox.finish, before]

/-- Whatever arrives is taken down as it is put into the inbox. -/
theorem Follows.hear (follows : r.Follows taken inbox) (arrival : Arrival) :
    (r.hear (some arrival)).Follows taken (arrival.note inbox) := by
  obtain ⟨heard, ended⟩ := follows
  cases arrival with
  | closed => exact ⟨heard, (isSome_ending_finish inbox _).symm⟩
  | failed reason => exact ⟨heard, (isSome_ending_finish inbox _).symm⟩
  | bytes first more =>
      cases ending : inbox.ending with
      | none =>
          rw [ending] at ended
          simp only [Recorded.hear, ended, Arrival.note, Inbox.feed, ending]
          refine ⟨?_, by simp⟩
          rw [Framing.Decoder.feed, ← List.append_assoc, ← heard]
          rfl
      | some how =>
          rw [ending] at ended
          simp only [Recorded.hear, ended, Arrival.note, Inbox.feed, ending]
          exact ⟨heard, by simp [ended, ending]⟩

@[simp] theorem told_hear (r : Recorded π) (arrival : Option Arrival) :
    (r.hear arrival).told = r.told := by
  unfold Recorded.hear
  split
  next => rfl
  next => split <;> rfl
  next => rfl
  next => rfl

@[simp] theorem peer_hear (r : Recorded π) (arrival : Option Arrival) :
    (r.hear arrival).peer = r.peer := by
  unfold Recorded.hear
  split
  next => rfl
  next => split <;> rfl
  next => rfl
  next => rfl

variable [Peer π]

theorem receive_eq (r : Recorded π) (now : Moment) (limit : Nat) :
    Peer.receive now limit r =
      ((Peer.receive now limit r.peer).1,
        { r with peer := (Peer.receive now limit r.peer).2 }.hear
          (Peer.receive now limit r.peer).1.result) := rfl

end Recorded

/-! ## The record changes nothing -/

namespace Admission

variable {π : Type}

theorem conclude_recorded (step : AdmissionStep) (now : Moment) (r : Recorded π) :
    conclude step now r.peer =
      ⟨(conclude step now r).result, (conclude step now r).finished,
        (conclude step now r).peer.peer⟩ := by
  unfold conclude
  cases step with
  | ended result => rfl
  | going a =>
      cases expired : a.expired with
      | ended result => simp only [expired]
      | going next => simp only [expired]

variable [Peer π]

theorem await_recorded (a : Admission) (r : Recorded π) (deadline : Moment) (waits : Nat)
    (now : Moment) :
    a.await r.peer deadline waits now =
      ((a.await r deadline waits now).1, (a.await r deadline waits now).2.1,
        (a.await r deadline waits now).2.2.peer) := by
  induction waits generalizing a r now with
  | zero => rfl
  | succ waits ih =>
      unfold await
      rw [r.receive_eq]
      generalize Peer.receive now (deadline - now) r.peer = received
      obtain ⟨⟨result, latency⟩, peer⟩ := received
      cases result with
      | none => rfl
      | some arrival =>
          simp only
          cases a.receive arrival with
          | ended result => simp
          | going next =>
              by_cases same : next.stage = a.stage
              · simp only [if_pos same]
                have later := ih next ({ r with peer := peer }.hear (some arrival)) (now + latency)
                rwa [Recorded.peer_hear] at later
              · simp only [if_neg same, Recorded.peer_hear]

theorem ask_recorded (a : Admission) (r : Recorded π) (now : Moment) :
    a.ask r.peer now = ((a.ask r now).1, (a.ask r now).2.1, (a.ask r now).2.2.peer) := by
  unfold ask
  cases a.stage with
  | greeting => rfl
  | reply => rfl
  | request unsent =>
      simp only [Peer.send]
      generalize Peer.send unsent now a.limit.nanos r.peer = sent
      obtain ⟨⟨result, latency⟩, peer⟩ := sent
      match result with
      | none => rfl
      | some (.error reason) => rfl
      | some (.ok ()) => rfl

theorem run_recorded (a : Admission) (r : Recorded π) (now : Moment) :
    a.run r.peer now =
      ⟨(a.run r now).result, (a.run r now).finished, (a.run r now).peer.peer⟩ := by
  unfold run
  dsimp only
  rw [a.await_recorded r]
  generalize a.await r _ _ now = greeted
  obtain ⟨step, now, r⟩ := greeted
  cases step with
  | ended result => exact conclude_recorded (.ended result) now r
  | going asking =>
      simp only
      rw [asking.ask_recorded r]
      generalize asking.ask r now = asked
      obtain ⟨step, now, r⟩ := asked
      cases step with
      | ended result => exact conclude_recorded (.ended result) now r
      | going asked =>
          simp only
          rw [asked.await_recorded r]
          exact conclude_recorded _ _ _

end Admission

namespace StreamConnection

variable {π : Type}

/-- The connection without the record of its peer. -/
def unrecorded (c : StreamConnection (Recorded π)) : StreamConnection π :=
  ⟨c.transport, c.peer.peer⟩

/-- The exchange without the record of its peer. -/
def Running.unrecorded (r : Running (Recorded π)) : Running π :=
  ⟨r.connection.unrecorded, r.now, r.answer⟩

theorem settle_unrecorded (r : Running (Recorded π)) (interruption : Option Interruption)
    (finished : Moment) (event : StreamEvent) :
    (r.settle interruption finished event).unrecorded =
      r.unrecorded.settle interruption finished event := by
  unfold Running.settle
  cases interruption with
  | none => rfl
  | some i =>
      by_cases early : i.moment < finished
      · simp only [if_pos early]
        rfl
      · simp only [if_neg early]
        rfl

variable [Peer π]

theorem wait_unrecorded (r : Running (Recorded π)) (deadline : Moment)
    (interruption : Option Interruption) :
    (r.wait deadline interruption).unrecorded = r.unrecorded.wait deadline interruption := by
  unfold Running.wait
  rw [r.connection.peer.receive_eq]
  simp only [settle_unrecorded]
  simp only [Running.unrecorded, unrecorded, Recorded.peer_hear]

theorem finish_unrecorded (interruption : Option Interruption) (waits : Nat) (deadline : Moment)
    (r : Running (Recorded π)) :
    (Running.finish interruption waits deadline r).unrecorded =
      Running.finish interruption waits deadline r.unrecorded := by
  induction waits generalizing deadline r with
  | zero => rfl
  | succ waits ih =>
      have next := wait_unrecorded r deadline interruption
      unfold Running.finish
      rw [show r.unrecorded.answer = r.answer from rfl]
      cases r.answer with
      | some answer => rfl
      | none =>
          dsimp only
          rw [ih, ← next]
          rfl

theorem send_unrecorded (r : Running (Recorded π)) (packet : Packet)
    (interruption : Option Interruption) :
    (r.send packet interruption).unrecorded = r.unrecorded.send packet interruption := by
  unfold Running.send
  rw [show r.unrecorded.answer = r.answer from rfl]
  cases r.answer with
  | some answer => rfl
  | none => exact settle_unrecorded _ _ _ _

theorem exchange_unrecorded (c : StreamConnection (Recorded π)) (packet : Packet) (now : Moment)
    (interruption : Option Interruption) :
    c.unrecorded.exchange packet now interruption =
      ⟨(c.exchange packet now interruption).answer, (c.exchange packet now interruption).latency,
        (c.exchange packet now interruption).transport.unrecorded⟩ := by
  let start : Running (Recorded π) := { connection := c, now := now }
  have begun : ({ connection := c.unrecorded, now := now } : Running π).apply (.call packet) =
    (start.apply (.call packet)).unrecorded := rfl
  unfold exchange
  dsimp only
  rw [begun, ← send_unrecorded, ← finish_unrecorded]
  rfl

theorem connect_unrecorded {ν : Type} [Network ν π] (address : SocketAddress)
    (password : Option String) (limit : Duration) (now : Moment) (network : ν) :
    (connect address password limit now network).result =
      (connect address password limit now (Recording.mk network)).result.map unrecorded := by
  unfold connect
  simp only [Network.dial]
  generalize Network.dial address now limit.nanos network = dialled
  obtain ⟨⟨result, latency⟩, reached⟩ := dialled
  match result with
  | none => rfl
  | some (.error reason) => rfl
  | some (.ok peer) =>
      have same := Admission.run_recorded { password := password, limit := limit }
        ({ peer := peer } : Recorded π) (now + latency)
      simp only [Option.map_some, Except.map] at same ⊢
      rw [same]
      cases (Admission.run { password := password, limit := limit }
        ({ peer := peer } : Recorded π) (now + latency)).result with
      | failed fault => rfl
      | admitted inbox => rfl

end StreamConnection

end ProjectorControl
