import ProjectorControl.Proofs.Transport.Step

/-!
# Responses in chunks

A projector answers a packet with a response that fits it, and the bytes of the response arrive
in any chunks.  `StreamTransport.run_exchange` says that the transport then reads just the
packets of the response, answers its caller with them, and is afterwards as it was before, with
nothing left in its inbox.
-/

namespace ProjectorControl

open Framing (Decoder)

namespace StreamTransport

/-- Lets events happen to a transport, one after another, and gives all that it does. -/
def run (t : StreamTransport) : List StreamEvent → StreamTransport × List StreamEffect
  | [] => (t, [])
  | event :: later =>
    (((t.step event).1.run later).1, (t.step event).2 ++ ((t.step event).1.run later).2)

/-! ## One chunk -/

/-- The packets of an answer that a call still awaits. -/
inductive Awaits (answer : ResponsePackets) : CallPhase → List Packet → Prop where
  | basic : Awaits answer .awaitingBasic answer.toList
  | advanced {advanced : Packet} :
      answer.advanced = some advanced → Awaits answer (.awaitingAdvanced answer.basic) [advanced]

/-- What a look at a call comes to when its inbox goes on with the packets it awaits: it has
read some of them and awaits the others, or it has read them all. -/
inductive Onward (t : StreamTransport) (sent : Packet) (answer : ResponsePackets)
    (awaited : List Packet) (later : Bytes) : StreamTransport × List StreamEffect → Prop where
  | waits (reads : List Packet) {others : List Packet} {d : Decoder} {phase : CallPhase} :
      Awaits answer phase others → awaited = reads ++ others → d.Resting →
      d.buffer ++ later = others.flatMap Packet.bytes →
      Onward t sent answer awaited later
        ({ t with inbox := some ⟨d, none⟩, pending := some ⟨sent, phase⟩ }, reads.map .received)
  | answers :
      later = [] →
      Onward t sent answer awaited later
        ({ t with inbox := some {}, pending := none },
          awaited.map .received ++ [.answer (.ok answer)])

/-- A packet that was read before is awaited before. -/
theorem Onward.noting {t : StreamTransport} {sent : Packet} {answer : ResponsePackets}
    {awaited : List Packet} {later : Bytes} {after : StreamTransport × List StreamEffect}
    (onward : Onward t sent answer awaited later after) (packet : Packet) :
    Onward t sent answer (packet :: awaited) later (StreamTransport.noting packet after) := by
  cases onward with
  | waits reads awaits split rests stream =>
      exact .waits (packet :: reads) awaits (congrArg (packet :: ·) split) rests stream
  | answers empty => exact .answers empty

section

variable {t : StreamTransport} {sent advanced : Packet} {answer : ResponsePackets}
  {d : Decoder} {later : Bytes}

theorem onward_takeAdvanced (fits : answer.Fits sent) (some : answer.advanced = some advanced)
    (scanned : d.Scanned) (stream : d.buffer ++ later = advanced.bytes) :
    Onward t sent answer [advanced] later (t.takeAdvanced sent answer.basic ⟨d, none⟩) := by
  have whole : d.buffer ++ later = advanced.bytes ++ [] := by rw [stream, List.append_nil]
  cases Decoder.decoded_of_stream scanned whole with
  | rests decoded rests =>
      simp only [takeAdvanced, Inbox.next_of_none decoded]
      exact .waits [] (.advanced some) rfl rests
        (stream.trans (List.flatMap_singleton ..).symm)
  | packet unread decoded behind =>
      obtain ⟨rfl, rfl⟩ := List.append_eq_nil_iff.mp behind
      have taken : (⟨d, none⟩ : Inbox).next = _ := Inbox.next_of_packet decoded
      simp only [takeAdvanced, taken, fits.advancedFault? some]
      have same : (⟨answer.basic, Option.some advanced⟩ : ResponsePackets) = answer := by
        rw [← some]
      rw [same]
      exact .answers rfl

theorem onward_takeBasic (fits : answer.Fits sent) (scanned : d.Scanned)
    (stream : d.buffer ++ later = answer.toList.flatMap Packet.bytes) :
    Onward t sent answer answer.toList later (t.takeBasic sent ⟨d, none⟩) := by
  cases Decoder.decoded_of_stream (p := answer.basic) scanned stream with
  | rests decoded rests =>
      simp only [takeBasic, Inbox.next_of_none decoded]
      exact .waits [] .basic rfl rests stream
  | packet unread decoded behind =>
      have taken : (⟨d, none⟩ : Inbox).next = _ := Inbox.next_of_packet decoded
      simp only [takeBasic, taken, fits.basicFault?]
      cases some : answer.advanced with
      | none =>
          have operation : sent.kind ≠ .advancedCommand := by simp [← fits.isSome_advanced, some]
          have same : (⟨answer.basic, none⟩ : ResponsePackets) = answer := by rw [← some]
          rw [some] at behind
          obtain ⟨rfl, rfl⟩ := List.append_eq_nil_iff.mp behind
          rw [if_neg operation, same, ResponsePackets.toList, some]
          exact .answers rfl
      | some advanced =>
          have query : sent.kind = .advancedCommand := by simp [← fits.isSome_advanced, some]
          have rest : unread ++ later = advanced.bytes := by
            rw [behind, some]
            exact List.flatMap_singleton ..
          have onward := onward_takeAdvanced (t := t) (d := ⟨unread, 0⟩) fits some
            (by simp [Decoder.Scanned]) rest
          rw [if_pos query, ResponsePackets.toList, some]
          exact onward.noting answer.basic

end

/-! ## All chunks -/

section

variable {t : StreamTransport} {sent : Packet} {answer : ResponsePackets}

/-- Chunks without bytes change nothing. -/
theorem run_arrived_nothing (idle : t.Idle {}) {chunks : List Bytes}
    (empty : chunks.flatten = []) : t.run (chunks.map .arrived) = (t, []) := by
  induction chunks with
  | nil => rfl
  | cons chunk later ih =>
      obtain ⟨rfl, rest⟩ := List.append_eq_nil_iff.mp empty
      have step : t.step (.arrived []) = (t, []) := by
        obtain ⟨address, limit, _, _, _⟩ := t
        obtain ⟨rfl, rfl, rfl⟩ := idle
        rfl
      simp only [List.map_cons, run, step, ih rest, List.append_nil]

theorem poll_awaitingBasic {inbox : Inbox} (alive : t.terminal = none)
    (pending : t.pending = some ⟨sent, .awaitingBasic⟩) (held : t.inbox = some inbox) :
    t.poll = t.takeBasic sent inbox := by
  simp only [poll, pending, alive, held]

theorem poll_awaitingAdvanced {basic : Packet} {inbox : Inbox} (alive : t.terminal = none)
    (pending : t.pending = some ⟨sent, .awaitingAdvanced basic⟩) (held : t.inbox = some inbox) :
    t.poll = t.takeAdvanced sent basic inbox := by
  simp only [poll, pending, alive, held]

/-- A call that awaits packets takes what an inbox that goes on with them holds. -/
theorem onward_poll {phase : CallPhase} {awaited : List Packet} {d : Decoder} {later : Bytes}
    (fits : answer.Fits sent) (awaits : Awaits answer phase awaited) (scanned : d.Scanned)
    (stream : d.buffer ++ later = awaited.flatMap Packet.bytes) (alive : t.terminal = none)
    (pending : t.pending = some ⟨sent, phase⟩) (held : t.inbox = some ⟨d, none⟩) :
    Onward t sent answer awaited later t.poll := by
  cases awaits with
  | basic =>
      rw [poll_awaitingBasic alive pending held]
      exact onward_takeBasic fits scanned stream
  | advanced some =>
      rw [poll_awaitingAdvanced alive pending held]
      exact onward_takeAdvanced fits some scanned (stream.trans (List.flatMap_singleton ..))

/-- The packets that a call awaits are read from the chunks that bring them. -/
theorem run_arrived {phase : CallPhase} {awaited : List Packet} {d : Decoder}
    {chunks : List Bytes} (alive : t.terminal = none) (fits : answer.Fits sent)
    (awaits : Awaits answer phase awaited) (rests : d.Resting)
    (stream : d.buffer ++ chunks.flatten = awaited.flatMap Packet.bytes) :
    run { t with inbox := some ⟨d, none⟩, pending := some ⟨sent, phase⟩ }
        (chunks.map .arrived) =
      ({ t with inbox := some {}, pending := none },
        awaited.map .received ++ [.answer (.ok answer)]) := by
  induction chunks generalizing d phase awaited with
  | nil =>
      rw [List.flatten_nil, List.append_nil] at stream
      cases awaits with
      | basic => exact absurd stream (rests.buffer_ne answer.basic _)
      | @advanced advanced => exact absurd stream (rests.buffer_ne advanced _)
  | cons chunk later ih =>
      let held := d.feed chunk
      have fed : held.buffer ++ later.flatten = awaited.flatMap Packet.bytes := by
        rw [← stream, List.flatten_cons, ← List.append_assoc]
        rfl
      let noted : StreamTransport :=
        { t with inbox := some ⟨held, none⟩, pending := some ⟨sent, phase⟩ }
      have onward :=
        onward_poll (t := noted) fits awaits (rests.scanned_feed chunk) fed alive rfl rfl
      have step : step { t with inbox := some ⟨d, none⟩, pending := some ⟨sent, phase⟩ }
          (.arrived chunk) = noted.poll := rfl
      rw [List.map_cons, run, step]
      generalize noted.poll = after at onward
      cases onward with
      | waits reads awaits split rests stream =>
          rw [ih awaits rests stream, split, List.map_append, List.append_assoc]
      | answers empty =>
          have idle : Idle { noted with inbox := some {}, pending := none } {} := ⟨alive, rfl, rfl⟩
          rw [run_arrived_nothing idle empty, List.append_nil]

/-- What happens to a transport in an exchange: it is called, the projector takes the packet,
and chunks arrive. -/
def exchangeEvents (packet : Packet) (chunks : List Bytes) : List StreamEvent :=
  .call packet :: .taken packet.length :: chunks.map .arrived

/-- A response that fits is read in any chunks, and nothing is left of it. -/
theorem run_exchange (idle : t.Idle {}) (fits : answer.Fits sent) {chunks : List Bytes}
    (written : chunks.flatten = answer.toList.flatMap Packet.bytes) :
    t.run (exchangeEvents sent chunks) =
      (t, .send sent.bytes :: answer.toList.map .received ++ [.answer (.ok answer)]) := by
  let called : StreamTransport := { t with pending := some ⟨sent, .sending sent.bytes⟩ }
  let waiting : StreamTransport :=
    { t with inbox := some {}, pending := some ⟨sent, .awaitingBasic⟩ }
  have begun : t.step (.call sent) = (called, []) := by
    obtain ⟨address, limit, _, _, _⟩ := t
    obtain ⟨rfl, rfl, rfl⟩ := idle
    rfl
  have taken : called.step (.taken sent.length) = (waiting, [.send sent.bytes]) := by
    have nothing : (⟨{}, none⟩ : Inbox).next = (.ok none, ⟨{}, none⟩) := rfl
    have whole : StreamEvent.push (.taken sent.length) (.sending sent.bytes) = .awaitingBasic := by
      simp only [StreamEvent.push, Packet.length, List.drop_length]
    let pushed := { called with pending := some ⟨sent, .awaitingBasic⟩ }
    have polled : pushed.poll = (waiting, []) := by
      rw [poll_awaitingBasic (t := pushed) idle.alive rfl idle.held, takeBasic, nothing]
    rw [step, give_sending (t := called) idle.alive rfl, whole, polled, Packet.length,
      List.take_length]
  have arrived : waiting.run (chunks.map .arrived) = _ :=
    run_arrived idle.alive fits .basic Decoder.resting_new written
  have same : { t with inbox := some {}, pending := none } = t := by
    obtain ⟨address, limit, _, _, _⟩ := t
    obtain ⟨-, rfl, rfl⟩ := idle
    rfl
  rw [exchangeEvents, run, run, begun, taken, arrived, same]
  rfl

end

end StreamTransport

end ProjectorControl
