import ProjectorControl.Proofs.Transport.Exchange
import ProjectorControl.Transport.Turns

/-!
# A projector that answers

A projector answers every packet that it hears, in order and with what fits.  A `Responder` says
how it answers a packet after those before it, and `Responder.speech` is all that it says to a
stream, cut into packets as every stream is.

`Conversation` keeps what has passed between a transport and a projector, and
`Conversation.Faithful` says that what arrives is what the projector answers to the packets that
it has heard by then.  Reading it in order goes wrong nowhere: packets at the front of packets are
the first of them (`packets_of_prefix`), and of two responses to one packet neither goes on behind
the other (`ResponsePackets.Fits.eq_of_toList`).

Whatever callers do who take turns, and whoever of them leaves, it is a sequence of events for the
transport (`SharedTransport.run_moves`).
-/

namespace ProjectorControl

open Framing (frames frames_packets frames_packets_nil)

/-! ## Projectors that answer -/

/-- How a projector answers a packet, after those that it has heard before. -/
abbrev Responder := List Packet → Packet → ResponsePackets

namespace Responder

/-- Every answer fits its packet. -/
def Fits (respond : Responder) : Prop :=
  ∀ earlier packet, (respond earlier packet).Fits packet

/-- The packets with which it answers packets, one after another. -/
def replies (respond : Responder) (earlier : List Packet) : List Packet → List Packet
  | [] => []
  | packet :: later =>
    (respond earlier packet).toList ++ respond.replies (earlier ++ [packet]) later

/-- All that it says to a stream. -/
def speech (respond : Responder) (stream : Bytes) : Bytes :=
  (respond.replies [] (frames stream).packets).flatMap Packet.bytes

variable {respond : Responder}

theorem replies_concat (earlier packets : List Packet) (packet : Packet) :
    respond.replies earlier (packets ++ [packet]) =
      respond.replies earlier packets ++ (respond (earlier ++ packets) packet).toList := by
  induction packets generalizing earlier with
  | nil => rw [List.nil_append, replies, replies, replies, List.append_nil, List.append_nil,
      List.nil_append]
  | cons first packets ih =>
      rw [List.cons_append, replies, replies, ih, List.append_assoc, List.append_assoc,
        List.singleton_append]

theorem speech_packets (packets : List Packet) :
    respond.speech (packets.flatMap Packet.bytes) =
      (respond.replies [] packets).flatMap Packet.bytes := by
  rw [speech, frames_packets_nil]

/-- A packet that has not come as a whole is not answered. -/
theorem speech_part {part missing : Bytes} {packet : Packet}
    (whole : part ++ missing = packet.bytes) (some : missing ≠ []) (packets : List Packet) :
    respond.speech (packets.flatMap Packet.bytes ++ part) =
      (respond.replies [] packets).flatMap Packet.bytes := by
  have rests := Framing.Decoder.resting_of_part whole some
  have nothing : frames part = ⟨[], none, part⟩ :=
    (Framing.Cuts.unfinished rests.quiet rests.short).eq_frames.symm
  rw [speech, frames_packets, nothing, List.append_nil]

end Responder

/-- Packets at the front of packets. -/
theorem packets_of_prefix {reads packets : List Packet} {unread : Bytes}
    (front : reads.flatMap Packet.bytes ++ unread <+: packets.flatMap Packet.bytes) :
    ∃ others, packets = reads ++ others ∧ unread <+: others.flatMap Packet.bytes := by
  obtain ⟨later, same⟩ := front
  rw [List.append_assoc] at same
  have cut := frames_packets reads (unread ++ later)
  rw [same, frames_packets_nil] at cut
  have split : packets = reads ++ (frames (unread ++ later)).packets :=
    congrArg Framing.Frames.packets cut
  refine ⟨_, split, later, ?_⟩
  rw [split, List.flatMap_append] at same
  exact List.append_cancel_left same

/-- Of two responses to a packet, neither goes on behind the other. -/
theorem ResponsePackets.Fits.eq_of_toList {sent : Packet} {first second : ResponsePackets}
    {others : List Packet} (fits : first.Fits sent) (fits' : second.Fits sent)
    (front : first.toList ++ others = second.toList) : first = second ∧ others = [] := by
  obtain ⟨basic, advanced⟩ := first
  obtain ⟨basic', advanced'⟩ := second
  have same : advanced.isSome = advanced'.isSome := by
    rw [Bool.eq_iff_iff, fits.isSome_advanced, fits'.isSome_advanced]
  cases advanced with
  | none =>
      cases advanced' with
      | none =>
          cases front
          exact ⟨rfl, rfl⟩
      | some => cases same
  | some packet =>
      cases advanced' with
      | none => cases same
      | some packet' =>
          cases front
          exact ⟨rfl, rfl⟩

/-! ## Callers who take turns -/

namespace StreamTransport

theorem run_append (t : StreamTransport) (events later : List StreamEvent) :
    t.run (events ++ later) =
      (((t.run events).1.run later).1, (t.run events).2 ++ ((t.run events).1.run later).2) := by
  induction events generalizing t with
  | nil => rfl
  | cons event events ih =>
      rw [List.cons_append, run, ih, run, List.append_assoc]

theorem run_singleton (t : StreamTransport) (event : StreamEvent) :
    t.run [event] = t.step event := by
  rw [run, run, List.append_nil]

end StreamTransport

namespace SharedTransport

/-- What a caller's doing means to the transport. -/
def moves (s : SharedTransport) : SharedEvent → List StreamEvent
  | .come _ => []
  | .next =>
    match s.turn, s.waiting with
    | none, first :: _ =>
      match first.errand with
      | .exchange packet => [.call packet]
      | .transaction => []
    | _, _ => []
  | .exchange packet =>
    match s.turn, s.transport.pending with
    | some ⟨_, .transaction⟩, none => [.call packet]
    | _, _ => []
  | .leave ticket => if s.turn.any (·.ticket = ticket) then [.abandon] else []
  | .happens (.call _) | .happens .abandon => []
  | .happens event => [event]

/-- All that happens to the transport. -/
def allMoves (s : SharedTransport) : List SharedEvent → List StreamEvent
  | [] => []
  | event :: later => s.moves event ++ (s.step event).1.allMoves later

/-- What the transport does, whoever's turn it is. -/
def streamEffects (effects : List SharedEffect) : List StreamEffect :=
  effects.filterMap fun
    | .does _ effect => some effect
    | .begins _ _ => none

theorem streamEffects_does (turn : Option Turn) (effects : List StreamEffect) :
    streamEffects (effects.map (.does turn)) = effects := by
  induction effects with
  | nil => rfl
  | cons effect later ih => exact congrArg (effect :: ·) ih

theorem act_moves (s : SharedTransport) (event : StreamEvent) :
    ((s.act event).1.transport, streamEffects (s.act event).2) = s.transport.run [event] := by
  rw [StreamTransport.run_singleton]
  exact congrArg (Prod.mk _) (streamEffects_does ..)

theorem step_moves (s : SharedTransport) (event : SharedEvent) :
    ((s.step event).1.transport, streamEffects (s.step event).2) =
      s.transport.run (s.moves event) := by
  have begins (u : SharedTransport) (turn : Turn) (packet : Packet) :
      ((u.begin turn packet).1.transport, streamEffects (u.begin turn packet).2) =
        u.transport.run [.call packet] := act_moves { u with turn := some turn } (.call packet)
  cases event with
  | come errand => rfl
  | next =>
      obtain ⟨transport, turn, waiting, tickets⟩ := s
      cases turn with
      | some turn => rfl
      | none =>
          cases waiting with
          | nil => rfl
          | cons first later =>
              obtain ⟨ticket, errand⟩ := first
              cases errand with
              | exchange packet => exact begins _ _ packet
              | transaction => rfl
  | exchange packet =>
      obtain ⟨⟨address, limit, inbox, pending, terminal⟩, turn, waiting, tickets⟩ := s
      cases turn with
      | none => rfl
      | some turn =>
          obtain ⟨ticket, errand⟩ := turn
          cases errand with
          | exchange packet => rfl
          | transaction =>
              cases pending with
              | some call => rfl
              | none => exact begins _ _ packet
  | leave ticket =>
      dsimp only [SharedTransport.step, moves]
      split <;> rfl
  | happens event =>
      cases event with
      | call | abandon => rfl
      | taken | sendFailed | arrived | finished | expired | shutdown | poll => exact act_moves s _

/-- Whatever callers do, and whoever leaves, it is a sequence of events for the transport. -/
theorem run_moves (s : SharedTransport) (events : List SharedEvent) :
    ((s.run events).1.transport, streamEffects (s.run events).2) =
      s.transport.run (s.allMoves events) := by
  induction events generalizing s with
  | nil => rfl
  | cons event later ih =>
      obtain ⟨moved, done⟩ := Prod.mk.inj (s.step_moves event)
      obtain ⟨moved', done'⟩ := Prod.mk.inj (ih (s.step event).1)
      rw [allMoves, run, StreamTransport.run_append, ← moved, ← moved', ← done, ← done']
      exact congrArg (Prod.mk _) List.filterMap_append

end SharedTransport

/-! ## Conversations -/

/-- The bytes that go to the projector with an effect. -/
def StreamEffect.bytes : StreamEffect → Bytes
  | .send bytes => bytes
  | .received _ | .answer _ => []

/-- The bytes that come from the projector with an event. -/
def StreamEvent.bytes : StreamEvent → Bytes
  | .arrived bytes => bytes
  | .call _ | .taken _ | .sendFailed _ | .finished _ | .expired | .shutdown _ | .poll | .abandon =>
    []

/-- A transport, and what has passed between it and a projector. -/
structure Conversation where
  /-- The transport. -/
  transport : StreamTransport
  /-- What the projector was told. -/
  told : Bytes := []
  /-- What it has said. -/
  said : Bytes := []
  /-- The codes of the calls that were abandoned with their packets sent and no response read. -/
  stale : List Packet.Code := []

namespace Conversation

/-- The code to which a whole response may still come, when a call is abandoned. -/
def left : Option PendingCall → List Packet.Code
  | some ⟨packet, .awaitingBasic⟩ => [packet.code]
  | some ⟨_, .sending _⟩ | some ⟨_, .awaitingAdvanced _⟩ | none => []

/-- The code to which a whole response may still come because of an event. -/
def staleAt (c : Conversation) : StreamEvent → List Packet.Code
  | .abandon => left c.transport.pending
  | .call _ | .taken _ | .sendFailed _ | .arrived _ | .finished _ | .expired | .shutdown _
  | .poll => []

/-- What comes of an event. -/
def step (c : Conversation) (event : StreamEvent) : Conversation where
  transport := (c.transport.step event).1
  told := c.told ++ (c.transport.step event).2.flatMap StreamEffect.bytes
  said := c.said ++ event.bytes
  stale := c.stale ++ c.staleAt event

/-- What comes of events, one after another. -/
def run (c : Conversation) (events : List StreamEvent) : Conversation := events.foldl step c

/-- Something holds at each of the events. -/
def Throughout (c : Conversation) (P : Conversation → StreamEvent → Prop) :
    List StreamEvent → Prop
  | [] => True
  | event :: later => P c event ∧ (c.step event).Throughout P later

/-- The projector says what it answers to the packets that it has heard, and nothing else. -/
def Faithful (respond : Responder) (c : Conversation) : StreamEvent → Prop
  | .arrived bytes => c.said ++ bytes <+: respond.speech c.told
  | _ => True

theorem Throughout.last {P : Conversation → StreamEvent → Prop} {c : Conversation}
    {events : List StreamEvent} {event : StreamEvent} (all : c.Throughout P (events ++ [event])) :
    P (c.run events) event := by
  induction events generalizing c with
  | nil => exact all.1
  | cons first later ih => exact ih all.2

end Conversation

end ProjectorControl
