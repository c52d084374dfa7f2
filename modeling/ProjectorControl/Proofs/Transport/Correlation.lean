import Mathlib.Data.List.Forall2
import ProjectorControl.Proofs.Transport.Admission
import ProjectorControl.Proofs.Transport.Step

/-!
# Requests and responses belong together

A client connects to any peer and sends packets one after another.  `Running.Progress` follows
one exchange in the record of the peer: what was heard is what was used up before the exchange,
the packets that the exchange has read, and what is left in the inbox.  Every event keeps this,
so an exchange that succeeds has read its response just behind what was used up before
(`StreamConnection.progress_exchange`).

`StreamConnection.correlated` puts this together for a connection and all exchanges on it.  The
responses are the first packets of what the peer has said behind the handshake, in order, with
none left out and none used twice.
-/

namespace ProjectorControl

open ProjectorControl.Net
open Framing (frames frames_packets)

/-! ## Effects -/

namespace StreamEffect

theorem answer?_map_send (bytes : List Bytes) (later : List StreamEffect) :
    answer? (bytes.map .send ++ later) = answer? later := by
  induction bytes with
  | nil => rfl
  | cons first bytes ih => exact ih

theorem answer?_map_received (packets : List Packet) (later : List StreamEffect) :
    answer? (packets.map .received ++ later) = answer? later := by
  induction packets with
  | nil => rfl
  | cons first packets ih => exact ih

end StreamEffect

namespace StreamConnection

variable {π : Type}

/-! ## One exchange -/

/-- An exchange without an answer, on a transport that has not ended. -/
structure Underway (packet : Packet) (phase : CallPhase) (inbox : Inbox)
    (r : Running (Recorded π)) : Prop where
  unanswered : r.answer = none
  alive : r.connection.transport.terminal = none
  pending : r.connection.transport.pending = some ⟨packet, phase⟩
  held : r.connection.transport.inbox = some inbox
  sound : phase.Sound packet

/-- Where an exchange stands in the record of the peer, behind what was used up before. -/
inductive Progress (used : Bytes) (packet : Packet) (r : Running (Recorded π)) : Prop where
  | underway {phase : CallPhase} {inbox : Inbox} :
      Underway packet phase inbox r →
      r.connection.peer.Follows (used ++ phase.received.flatMap Packet.bytes) inbox →
      Progress used packet r
  | answered {packets : ResponsePackets} {inbox : Inbox} :
      r.answer = some (.ok packets) → packets.Fits packet → r.connection.transport.Idle inbox →
      r.connection.peer.Follows (used ++ packets.toList.flatMap Packet.bytes) inbox →
      Progress used packet r
  | failed {fault : Error} : r.answer = some (.error fault) → Progress used packet r

variable {used : Bytes} {packet : Packet} {phase : CallPhase} {inbox : Inbox}
  {r : Running (Recorded π)}

theorem Underway.valid (underway : Underway packet phase inbox r) :
    r.connection.transport.Valid := by
  refine ⟨fun _ => ⟨inbox, underway.held⟩, fun call pending => ?_⟩
  rw [underway.pending] at pending
  cases pending
  exact underway.sound

/-- What an exchange is does not depend on the peer and the time. -/
theorem Underway.of_peer (underway : Underway packet phase inbox r) (peer : Recorded π)
    (now : Moment) :
    Underway packet phase inbox
      { r with connection := { r.connection with peer := peer }, now := now } :=
  ⟨underway.unanswered, underway.alive, underway.pending, underway.held, underway.sound⟩

theorem apply_of_unanswered {event : StreamEvent} {effects : List StreamEffect}
    {after : StreamTransport} (unanswered : r.answer = none)
    (stepped : r.connection.transport.step event = (after, effects)) :
    r.apply event = { r with
      connection := { r.connection with transport := after },
      answer := StreamEffect.answer? effects } := by
  rw [Running.apply, stepped, unanswered]
  rfl

/-- An event that the record has taken down already takes an exchange on. -/
theorem Underway.apply (underway : Underway packet phase inbox r) (event : StreamEvent)
    (look : event.isLook = true)
    (follows : r.connection.peer.Follows (used ++ phase.received.flatMap Packet.bytes)
      (event.note inbox)) :
    Progress used packet (r.apply event) := by
  have step := StreamTransport.exists_step underway.valid event
  generalize stepped : r.connection.transport.step event = outcome at step
  obtain ⟨after, effects⟩ := outcome
  rw [apply_of_unanswered underway.unanswered stepped]
  simp only at step
  clear stepped
  cases step with
  | refused | busy | begun | shutBusy | shutIdle | shutAgain | abandoned => cases look
  | failed _ ended => exact absurd underway.alive ended
  | idle _ idle => cases idle.symm.trans underway.pending
  | looked _ _ pending held looked =>
      cases pending.symm.trans underway.pending
      cases held.symm.trans underway.held
      rw [StreamTransport.lookEffects, StreamEffect.answer?_map_send,
        StreamEffect.answer?_map_received]
      have front : ∀ {reads : List Packet} {rest : Inbox},
          (event.note inbox).decoder.buffer =
            reads.flatMap Packet.bytes ++ rest.decoder.buffer →
          rest.ending = (event.note inbox).ending →
          r.connection.peer.Follows
            (used ++ ((event.push phase).received ++ reads).flatMap Packet.bytes) rest := by
        intro reads rest buffer ending
        refine ⟨?_, by rw [follows.ended, ending]⟩
        rw [follows.heard, buffer, StreamEvent.received_push]
        simp only [List.flatMap_append, List.append_assoc]
      cases looked with
      | fails => exact .failed rfl
      | waits sound _ received _ buffer ending =>
          exact .underway ⟨rfl, underway.alive, rfl, rfl, sound⟩ (received ▸ front buffer ending)
      | answers fits _ received buffer ending =>
          exact .answered rfl fits ⟨underway.alive, rfl, rfl⟩ (received ▸ front buffer ending)

/-- A shutdown fails an exchange. -/
theorem Underway.shutdown (underway : Underway packet phase inbox r) (outcome : Outcome) :
    Progress used packet ((r.apply (.shutdown outcome)).apply .poll) := by
  let ended : StreamTransport := { r.connection.transport with terminal := some outcome }
  have shut : r.connection.transport.step (.shutdown outcome) = (ended, []) := by
    simp only [StreamTransport.step, StreamTransport.shutdown, underway.alive, underway.pending,
      ended]
  have applied := apply_of_unanswered underway.unanswered shut
  generalize r.apply (.shutdown outcome) = after at applied ⊢
  subst applied
  have failed : ended.step .poll = ended.fail ended.terminal.fault :=
    StreamTransport.poll_ended nofun underway.pending
  have unanswered : StreamEffect.answer? [] = none := rfl
  rw [apply_of_unanswered unanswered failed]
  exact .failed rfl

/-- A wait ends with an event, unless a shutdown falls into it. -/
theorem Underway.settle (underway : Underway packet phase inbox r) (event : StreamEvent)
    (look : event.isLook = true)
    (follows : r.connection.peer.Follows (used ++ phase.received.flatMap Packet.bytes)
      (event.note inbox)) (interruption : Option Interruption) (finished : Moment) :
    Progress used packet (r.settle interruption finished event) := by
  unfold Running.settle
  split
  next => exact (underway.of_peer _ _).apply event look follows
  next i =>
    split
    next => exact (underway.of_peer _ _).shutdown i.outcome
    next => exact (underway.of_peer _ _).apply event look follows

/-- The end of the time limit brings an answer. -/
theorem Progress.expire (progress : Progress used packet r) :
    Progress used packet (r.apply .expired) := by
  cases progress with
  | underway underway follows => exact underway.apply .expired rfl follows
  | failed answered => exact .failed (by rw [Running.apply, answered]; rfl)
  | answered answered fits idle follows =>
      have stays : (r.apply .expired).connection.transport = r.connection.transport := by
        simp only [Running.apply, StreamTransport.step, StreamTransport.breakOff, idle.alive,
          idle.idle, StreamTransport.poll]
      exact .answered (by rw [Running.apply, answered]; rfl) fits (stays ▸ idle) follows

theorem note_arrivalEvent (arrival : Arrival) (inbox : Inbox) :
    (arrivalEvent arrival).note inbox = arrival.note inbox := by
  cases arrival <;> rfl

theorem isLook_arrivalEvent (arrival : Arrival) : (arrivalEvent arrival).isLook = true := by
  cases arrival <;> rfl

section

variable [Peer π]

/-- Waiting takes an exchange on. -/
theorem Underway.wait (underway : Underway packet phase inbox r)
    (follows : r.connection.peer.Follows (used ++ phase.received.flatMap Packet.bytes) inbox)
    (deadline : Moment) (interruption : Option Interruption) :
    Progress used packet (r.wait deadline interruption) := by
  unfold Running.wait
  simp only [Peer.receive]
  generalize Peer.receive r.now (deadline - r.now) r.connection.peer.peer = received
  obtain ⟨⟨result, latency⟩, peer⟩ := received
  have kept : ({ r.connection.peer with peer := peer } : Recorded π).Follows
    (used ++ phase.received.flatMap Packet.bytes) inbox := ⟨follows.heard, follows.ended⟩
  cases result with
  | none => exact (underway.of_peer _ r.now).settle .expired rfl kept _ _
  | some arrival =>
      have noted := kept.hear arrival
      rw [← note_arrivalEvent] at noted
      exact (underway.of_peer _ r.now).settle _ (isLook_arrivalEvent arrival) noted _ _

theorem Progress.finish (progress : Progress used packet r) (interruption : Option Interruption)
    (waits : Nat) (deadline : Moment) :
    Progress used packet (Running.finish interruption waits deadline r) := by
  induction waits generalizing r deadline with
  | zero => exact progress.expire
  | succ waits ih =>
      unfold Running.finish
      split
      next => exact progress
      next unanswered =>
        cases progress with
        | answered answered => cases unanswered.symm.trans answered
        | failed answered => cases unanswered.symm.trans answered
        | underway underway follows => exact ih (underway.wait follows deadline interruption) _

/-- Sending the packet takes an exchange on. -/
theorem Underway.send (underway : Underway packet phase inbox r)
    (follows : r.connection.peer.Follows (used ++ phase.received.flatMap Packet.bytes) inbox)
    (interruption : Option Interruption) :
    Progress used packet (r.send packet interruption) := by
  unfold Running.send
  split
  next answered => cases answered.symm.trans underway.unanswered
  simp only [Peer.send]
  generalize Peer.send packet.bytes r.now _ r.connection.peer.peer = sent
  obtain ⟨⟨result, latency⟩, peer⟩ := sent
  let told : Recorded π := { r.connection.peer with
    peer := peer, told := r.connection.peer.told ++ [(r.connection.peer.heard, packet.bytes)] }
  have kept : told.Follows (used ++ phase.received.flatMap Packet.bytes) inbox :=
    ⟨follows.heard, follows.ended⟩
  match result with
  | none => exact (underway.of_peer told r.now).settle .expired rfl kept _ _
  | some (.error reason) =>
      exact (underway.of_peer told r.now).settle (.sendFailed reason) rfl kept _ _
  | some (.ok ()) =>
      exact (underway.of_peer told r.now).settle (.taken packet.length) rfl kept _ _

/-- An exchange that succeeds has read its response just behind what was used up before. -/
theorem exchange_eq_ok {c : StreamConnection (Recorded π)} {packets : ResponsePackets}
    (idle : c.transport.Idle inbox) (follows : c.peer.Follows used inbox) {now : Moment}
    {interruption : Option Interruption}
    (answered : (c.exchange packet now interruption).answer = .ok packets) :
    packets.Fits packet ∧
      ∃ rest, (c.exchange packet now interruption).transport.transport.Idle rest ∧
        (c.exchange packet now interruption).transport.peer.Follows
          (used ++ packets.toList.flatMap Packet.bytes) rest := by
  let called : StreamTransport :=
    { c.transport with pending := some ⟨packet, .sending packet.bytes⟩ }
  have begun : c.transport.step (.call packet) = (called, []) := by
    obtain ⟨⟨address, limit, _, _, _⟩, peer⟩ := c
    obtain ⟨rfl, rfl, rfl⟩ := idle
    rfl
  let start : Running (Recorded π) := { connection := { c with transport := called }, now := now }
  have applied : ({ connection := c, now := now } : Running (Recorded π)).apply (.call packet) =
      start := by
    rw [Running.apply, begun]
    rfl
  have underway : Underway packet (.sending packet.bytes) inbox start :=
    ⟨rfl, idle.alive, rfl, idle.held, trivial⟩
  have unread : start.connection.peer.Follows
      (used ++ (CallPhase.sending packet.bytes).received.flatMap Packet.bytes) inbox := by
    rw [CallPhase.received, List.flatMap_nil, List.append_nil]
    exact follows
  have progress := (underway.send unread interruption).finish interruption mostWaits
    ((start.send packet interruption).now + c.transport.limit.nanos)
  unfold exchange at answered ⊢
  simp only [applied] at answered ⊢
  generalize start.send packet interruption = sent at progress answered ⊢
  generalize sent.finish interruption mostWaits _ = done at progress answered ⊢
  cases progress with
  | underway underway => rw [underway.unanswered] at answered; cases answered
  | failed failed => rw [failed] at answered; cases answered
  | answered success fits idle follows =>
      rw [success] at answered
      cases answered
      exact ⟨fits, _, idle, follows⟩

/-! ## All exchanges -/

/-- A packet to send, at a moment, and a shutdown that may fall into the exchange. -/
structure PacketCall where
  /-- The packet. -/
  packet : Packet
  /-- When it is sent. -/
  moment : Moment
  /-- A shutdown on its way. -/
  interruption : Option Interruption := none

/-- Sends packets one after another, and gives what came of each. -/
def exchangeAll (c : StreamConnection π) :
    List PacketCall → List (Except Error ResponsePackets) × StreamConnection π
  | [] => ([], c)
  | request :: later =>
    let done := c.exchange request.packet request.moment request.interruption
    let rest := done.transport.exchangeAll later
    (done.answer :: rest.1, rest.2)

/-- Exchanges that succeed have read their responses one behind the other. -/
theorem exchangeAll_eq_ok {c : StreamConnection (Recorded π)} {requests : List PacketCall}
    {answers : List ResponsePackets} (idle : c.transport.Idle inbox)
    (follows : c.peer.Follows used inbox)
    (answered : (c.exchangeAll requests).1 = answers.map .ok) :
    List.Forall₂ (fun request packets => packets.Fits request.packet) requests answers ∧
      ∃ rest, (c.exchangeAll requests).2.peer.Follows
        (used ++ (answers.flatMap ResponsePackets.toList).flatMap Packet.bytes) rest := by
  induction requests generalizing c used inbox answers with
  | nil =>
      cases answers with
      | nil => exact ⟨.nil, inbox, (List.append_nil used).symm ▸ follows⟩
      | cons => cases answered
  | cons request later ih =>
      cases answers with
      | nil => cases answered
      | cons packets answers =>
          obtain ⟨first, others⟩ := List.cons.inj answered
          obtain ⟨fits, rest, idle, follows⟩ := exchange_eq_ok idle follows first
          obtain ⟨fitting, last, unread⟩ := ih idle follows others
          refine ⟨.cons fits fitting, last, ?_⟩
          rw [List.flatMap_cons, List.flatMap_append, ← List.append_assoc]
          exact unread

/-- A connection that was made has used up the handshake, and nothing else. -/
theorem connect_eq_ok {ν : Type} [Network ν π] {address : SocketAddress}
    {password : Option String} {limit : Duration} {now : Moment} {network : Recording ν}
    {c : StreamConnection (Recorded π)}
    (made : (connect address password limit now network).result = .ok c) :
    ∃ inbox, c.transport.Idle inbox ∧ inbox.decoder.scanned = 0 ∧
      Admission.Asked password c.peer ∧ c.peer.Follows Handshake.used inbox := by
  unfold connect at made
  simp only [Network.dial] at made
  generalize Network.dial address now limit.nanos network.network = dialled at made
  obtain ⟨⟨result, latency⟩, reached⟩ := dialled
  match result with
  | none => cases made
  | some (.error reason) => cases made
  | some (.ok peer) =>
      have sound := Admission.soundResult_run password limit peer (now + latency)
      simp only [Option.map_some, Except.map] at made
      generalize ({ password := password, limit := limit } : Admission).run
        ({ peer := peer } : Recorded π) (now + latency) = admitted at made sound
      obtain ⟨result, finished, peer⟩ := admitted
      cases sound with
      | failed => cases made
      | admitted asked follows unscanned =>
          cases made
          exact ⟨_, ⟨rfl, rfl, rfl⟩, unscanned, asked, follows⟩

theorem exchangeAll_unrecorded (c : StreamConnection (Recorded π)) (requests : List PacketCall) :
    c.unrecorded.exchangeAll requests =
      ((c.exchangeAll requests).1, (c.exchangeAll requests).2.unrecorded) := by
  induction requests generalizing c with
  | nil => rfl
  | cons request later ih =>
      simp only [exchangeAll, c.exchange_unrecorded, ih]

/-- The peer has greeted the client before it is told anything, and then it is told the request
once.  A connection is made only if the peer has begun with the greeting and the acceptance, and
the inbox then holds just what has come behind them.  If packets are exchanged on it one after
another, the responses to those that succeed fit them, and together they are the first packets
of whatever the peer says behind the handshake. -/
theorem correlated {ν : Type} [Network ν π] (address : SocketAddress)
    (password : Option String) (limit : Duration) (now : Moment) (network : ν) :
    (∀ (peer : π) (moment : Moment),
      let done := ({ password := password, limit := limit } : Admission).run
        ({ peer := peer } : Recorded π) moment
      done.peer.told = [] ∨ Admission.Asked password done.peer) ∧
    ∀ c, (connect address password limit now network).result = .ok c →
      ∃ recorded : StreamConnection (Recorded π), recorded.unrecorded = c ∧
        (connect address password limit now (Recording.mk network)).result = .ok recorded ∧
        Admission.Asked password recorded.peer ∧
        (∃ rest ending, c.transport.inbox = some ⟨{ buffer := rest }, ending⟩ ∧
          recorded.peer.heard = Handshake.greeting ++ Handshake.accepted ++ rest) ∧
        ∀ (requests : List PacketCall) (answers : List ResponsePackets),
          (c.exchangeAll requests).1 = answers.map .ok →
          List.Forall₂ (fun request packets => packets.Fits request.packet) requests answers ∧
            ∀ more, answers.flatMap ResponsePackets.toList <+:
              (frames
                (((recorded.exchangeAll requests).2.peer.heard ++ more).drop 10)).packets := by
  constructor
  · intro peer moment done
    have sound := Admission.soundResult_run password limit peer moment
    change Admission.SoundResult password done.peer done.result at sound
    generalize done.result = result at sound
    cases sound with
    | admitted asked => exact .inr asked
    | failed told => exact told
  · intro c made
    rw [connect_unrecorded] at made
    cases recordedMade : (connect address password limit now (Recording.mk network)).result with
    | error fault =>
        rw [recordedMade] at made
        cases made
    | ok recorded =>
        rw [recordedMade] at made
        cases made
        obtain ⟨⟨⟨rest, scanned⟩, ending⟩, idle, unscanned, asked, follows⟩ :=
          connect_eq_ok recordedMade
        obtain rfl : scanned = 0 := unscanned
        refine ⟨recorded, rfl, rfl, asked, ⟨rest, ending, idle.held, follows.heard⟩, ?_⟩
        intro requests answers answered
        rw [exchangeAll_unrecorded] at answered
        obtain ⟨fits, last, follows⟩ := exchangeAll_eq_ok idle follows answered
        refine ⟨fits, fun more => ?_⟩
        have behind : ((recorded.exchangeAll requests).2.peer.heard ++ more).drop 10 =
            (answers.flatMap ResponsePackets.toList).flatMap Packet.bytes ++
              (last.decoder.buffer ++ more) := by
          rw [follows.heard, List.append_assoc, List.append_assoc]
          exact List.drop_left' rfl
        rw [behind, frames_packets]
        exact List.prefix_append _ _

end

end StreamConnection

/-! ## A peer that recites -/

/-- A peer that says what is written down, whatever it is told. -/
structure Recital where
  /-- What it still has to say. -/
  arrivals : List Arrival

namespace Recital

instance : Peer Recital where
  send _ _ _ recital := (⟨some (.ok ()), 0⟩, recital)
  receive _ limit recital :=
    match recital.arrivals with
    | [] => (⟨none, limit⟩, recital)
    | arrival :: later => (⟨some arrival, 0⟩, ⟨later⟩)

instance : Network Recital Recital where
  dial _ _ _ recital := (⟨some (.ok recital), 0⟩, recital)
  listen address recital := (.ok address, recital)

end Recital

namespace StreamConnection

theorem correlated_recital :
    let address : SocketAddress := .v4 ⟨127, 0, 0, 1⟩ 20554
    let recital : Recital := ⟨[
      .bytes 0x50 [0x4A, 0x5F], .bytes 0x4F [0x4B],
      .bytes 0x50 [0x4A, 0x41, 0x43, 0x4B, 0x06, 0x89],
      .bytes 0x01 [0x50, 0x57, 0x0A, 0x40, 0x89, 0x01, 0x50, 0x57, 0x31, 0x0A, 0x06], .closed]⟩
    let query : Packet :=
      ⟨.advancedCommand, .ofChars 'P' 'W', [], by decide, by decide, by decide⟩
    let basic : Packet := ⟨.basicResponse, .ofChars 'P' 'W', [], by decide, by decide, by decide⟩
    let advanced : Packet :=
      ⟨.advancedResponse, .ofChars 'P' 'W', [0x31], by decide, by decide, by decide⟩
    ∃ c, (connect address none (.ofSeconds 2) 0 recital).result = .ok c ∧
      (c.exchangeAll [⟨query, 0, none⟩]).1 = [.ok ⟨basic, some advanced⟩] ∧
      ∃ recorded : StreamConnection (Recorded Recital), recorded.unrecorded = c ∧
        [basic, advanced] <+: (frames
          (((recorded.exchangeAll [⟨query, 0, none⟩]).2.peer.heard ++ []).drop 10)).packets := by
  intro address recital query basic advanced
  have done : ∃ c, (connect address none (.ofSeconds 2) 0 recital).result = .ok c ∧
      (c.exchangeAll [⟨query, 0, none⟩]).1 = [.ok ⟨basic, some advanced⟩] := ⟨_, rfl, rfl⟩
  obtain ⟨c, made, answered⟩ := done
  obtain ⟨-, connections⟩ := correlated address none (.ofSeconds 2) 0 recital
  obtain ⟨recorded, same, -, -, -, exchanges⟩ := connections c made
  obtain ⟨-, packets⟩ := exchanges _ [⟨basic, some advanced⟩] answered
  exact ⟨c, made, answered, recorded, same, packets []⟩

end StreamConnection

end ProjectorControl
