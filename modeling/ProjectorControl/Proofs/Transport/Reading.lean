import ProjectorControl.Proofs.Framing.Packets
import ProjectorControl.Transport.Stream

/-!
# Reading a response

A call that has sent its packet takes what it can from the inbox: at first the basic response
and then, for a query, the advanced response.  Looking at it has one of three ends.  It waits
on, it is answered, or it fails.

`Looked` says what is known at each of these ends.  The packets that were read stood at the
front of the inbox, in order and with nothing between them.  Together with those that the call
had before they are its answer, and an answer fits the packet that was sent
(`ResponsePackets.Fits`).  `StreamTransport.poll_looked` finds that looking at a call always
comes to such an end.
-/

namespace ProjectorControl

/-! ## Responses that fit -/

/-- The packets in the order in which they came. -/
def ResponsePackets.toList (r : ResponsePackets) : List Packet := r.basic :: r.advanced.toList

/-- The packets are of the kinds that answer a packet, and have its code. -/
structure ResponsePackets.Fits (sent : Packet) (r : ResponsePackets) : Prop where
  basic_kind : r.basic.kind = .basicResponse
  basic_code : r.basic.code = sent.code
  isSome_advanced : r.advanced.isSome = true ↔ sent.kind = .advancedCommand
  advanced_fits : ∀ packet ∈ r.advanced,
    packet.kind = .advancedResponse ∧ packet.code = sent.code

namespace StreamTransport

variable {sent basic advanced : Packet}

theorem basicFault?_eq_none :
    basicFault? sent basic = none ↔ basic.kind = .basicResponse ∧ basic.code = sent.code := by
  unfold basicFault?
  cases kind : basic.kind with
  | basicResponse => simp
  | basicCommand => simp
  | advancedCommand => simp
  | advancedResponse => simp

theorem advancedFault?_eq_none :
    advancedFault? sent advanced = none ↔
      advanced.kind = .advancedResponse ∧ advanced.code = sent.code := by
  unfold advancedFault?
  by_cases kind : advanced.kind = .advancedResponse
  · simp [kind]
  · simp [kind]

theorem fits_operation (fitting : basicFault? sent basic = none)
    (operation : sent.kind ≠ .advancedCommand) : (⟨basic, none⟩ : ResponsePackets).Fits sent := by
  obtain ⟨kind, code⟩ := basicFault?_eq_none.mp fitting
  exact ⟨kind, code, by simp [operation], nofun⟩

theorem fits_query (fitting : basicFault? sent basic = none) (query : sent.kind = .advancedCommand)
    (following : advancedFault? sent advanced = none) :
    (⟨basic, some advanced⟩ : ResponsePackets).Fits sent := by
  obtain ⟨kind, code⟩ := basicFault?_eq_none.mp fitting
  refine ⟨kind, code, by simp [query], ?_⟩
  rintro _ ⟨⟩
  exact advancedFault?_eq_none.mp following

end StreamTransport

theorem ResponsePackets.Fits.basicFault? {sent : Packet} {r : ResponsePackets}
    (fits : r.Fits sent) : StreamTransport.basicFault? sent r.basic = none :=
  StreamTransport.basicFault?_eq_none.mpr ⟨fits.basic_kind, fits.basic_code⟩

theorem ResponsePackets.Fits.advancedFault? {sent advanced : Packet} {r : ResponsePackets}
    (fits : r.Fits sent) (some : r.advanced = some advanced) :
    StreamTransport.advancedFault? sent advanced = none :=
  StreamTransport.advancedFault?_eq_none.mpr (fits.advanced_fits advanced some)

/-! ## Taking packets from an inbox -/

namespace Inbox

variable {inbox rest : Inbox} {packet : Packet}

/-- What comes of an attempt to take a packet: one that is complete is taken even after the
end of the stream, but to wait for one there must not have been an end. -/
inductive Next (inbox : Inbox) : Except Error (Option Packet) × Inbox → Prop where
  | packet {packet : Packet} {after : Framing.Decoder} :
      inbox.decoder.decode = (.ok (some packet), after) →
      Next inbox (.ok (some packet), { inbox with decoder := after })
  | waits {after : Framing.Decoder} :
      inbox.decoder.decode = (.ok none, after) → inbox.ending = none →
      Next inbox (.ok none, { inbox with decoder := after })
  | fault {fault : Error} {rest : Inbox} : Next inbox (.error fault, rest)

theorem next_of_packet {after : Framing.Decoder}
    (decoded : inbox.decoder.decode = (.ok (some packet), after)) :
    inbox.next = (.ok (some packet), { inbox with decoder := after }) := by
  unfold next Framing.Decoder.decodeEnd
  rw [decoded]
  split
  next => rfl
  next => rfl
  next => rfl

theorem next_of_none {d after : Framing.Decoder} (decoded : d.decode = (.ok none, after)) :
    (⟨d, none⟩ : Inbox).next = (.ok none, ⟨after, none⟩) := by
  simp only [next, decoded]

theorem exists_next (inbox : Inbox) : inbox.Next inbox.next := by
  cases decoded : inbox.decoder.decode with
  | mk result after =>
      match result with
      | .ok (some _) =>
          rw [next_of_packet decoded]
          exact .packet decoded
      | .ok none =>
          unfold next Framing.Decoder.decodeEnd
          rw [decoded]
          split
          next ending => exact .waits decoded ending
          next => exact .fault
          next =>
            by_cases empty : after.buffer = []
            · simp only [if_pos empty]
              exact .fault
            · simp only [if_neg empty]
              exact .fault
      | .error _ =>
          unfold next Framing.Decoder.decodeEnd
          rw [decoded]
          split
          next => exact .fault
          next => exact .fault
          next => exact .fault

theorem next_packet (taken : inbox.next = (.ok (some packet), rest)) :
    inbox.decoder.buffer = packet.bytes ++ rest.decoder.buffer ∧ rest.ending = inbox.ending := by
  have outcome := inbox.exists_next
  rw [taken] at outcome
  cases outcome with
  | packet decoded => exact ⟨Framing.Decoder.buffer_of_decode decoded, rfl⟩

theorem next_none (waits : inbox.next = (.ok none, rest)) :
    rest.decoder.buffer = inbox.decoder.buffer ∧ rest.ending = inbox.ending := by
  have outcome := inbox.exists_next
  rw [waits] at outcome
  cases outcome with
  | waits decoded open_ => exact ⟨Framing.Decoder.buffer_of_waiting decoded, rfl⟩

end Inbox

/-! ## Looking at a call -/

namespace CallPhase

/-- The packets of the response that have come. -/
def received : CallPhase → List Packet
  | .sending _ | .awaitingBasic => []
  | .awaitingAdvanced basic => [basic]

/-- The bytes that are still to go. -/
def unsent : CallPhase → Bytes
  | .sending unsent => unsent
  | .awaitingBasic | .awaitingAdvanced _ => []

theorem unsent_of_received {phase : CallPhase} (received : phase.received ≠ []) :
    phase.unsent = [] := by
  cases phase with
  | sending => exact absurd rfl received
  | awaitingBasic => rfl
  | awaitingAdvanced => rfl

/-- The packets that have come fit the packet that was sent, and there are more to come. -/
def Sound (sent : Packet) : CallPhase → Prop
  | .sending _ | .awaitingBasic => True
  | .awaitingAdvanced basic =>
    StreamTransport.basicFault? sent basic = none ∧ sent.kind = .advancedCommand

end CallPhase

/-- What comes of looking at a call. -/
inductive Verdict where
  /-- It waits on. -/
  | waits (phase : CallPhase) (inbox : Inbox)
  /-- It is answered. -/
  | answers (packets : ResponsePackets) (inbox : Inbox)
  /-- It fails. -/
  | fails (fault : Error)

/-- What the caller is told. -/
def Verdict.effects : Verdict → List StreamEffect
  | .waits _ _ => []
  | .answers packets _ => [.answer (.ok packets)]
  | .fails fault => [.answer (.error fault)]

/-- What is known when a call was looked at: the packets it has read, and the verdict. -/
inductive Looked (sent : Packet) (phase : CallPhase) (inbox : Inbox) :
    List Packet → Verdict → Prop where
  | waits {reads : List Packet} {next : CallPhase} {rest : Inbox} :
      next.Sound sent → next.unsent = phase.unsent → next.received = phase.received ++ reads →
      (reads ≠ [] → phase.unsent = []) →
      inbox.decoder.buffer = reads.flatMap Packet.bytes ++ rest.decoder.buffer →
      rest.ending = inbox.ending → Looked sent phase inbox reads (.waits next rest)
  | answers {reads : List Packet} {packets : ResponsePackets} {rest : Inbox} :
      packets.Fits sent → phase.unsent = [] → packets.toList = phase.received ++ reads →
      inbox.decoder.buffer = reads.flatMap Packet.bytes ++ rest.decoder.buffer →
      rest.ending = inbox.ending → Looked sent phase inbox reads (.answers packets rest)
  | fails {reads : List Packet} {fault : Error} {unread : Bytes} :
      (reads ≠ [] → phase.unsent = []) →
      inbox.decoder.buffer = reads.flatMap Packet.bytes ++ unread →
      Looked sent phase inbox reads (.fails fault)

/-- A basic response that was read comes in front of what is read behind it. -/
theorem Looked.cons {sent basic : Packet} {inbox rest : Inbox} {reads : List Packet}
    {verdict : Verdict} (taken : inbox.next = (.ok (some basic), rest))
    (later : Looked sent (.awaitingAdvanced basic) rest reads verdict) :
    Looked sent .awaitingBasic inbox (basic :: reads) verdict := by
  obtain ⟨front, ending⟩ := Inbox.next_packet taken
  have joined : ∀ {unread : Bytes}, rest.decoder.buffer = reads.flatMap Packet.bytes ++ unread →
      inbox.decoder.buffer = (basic :: reads).flatMap Packet.bytes ++ unread := by
    intro unread behind
    rw [front, behind, List.flatMap_cons, List.append_assoc]
  cases later with
  | waits sound whole received _ buffer kept =>
      exact .waits sound whole received (fun _ => rfl) (joined buffer) (kept.trans ending)
  | answers fits whole received buffer kept =>
      exact .answers fits whole received (joined buffer) (kept.trans ending)
  | fails whole buffer => exact .fails (fun _ => rfl) (joined buffer)

namespace StreamTransport

variable {t : StreamTransport} {sent basic : Packet} {inbox : Inbox}

/-- The transport after a call was looked at. -/
def settled (t : StreamTransport) (sent : Packet) : Verdict → StreamTransport
  | .waits phase inbox => { t with inbox := some inbox, pending := some ⟨sent, phase⟩ }
  | .answers _ inbox => { t with inbox := some inbox, pending := none }
  | .fails fault => (t.fail fault).1

/-- What a transport does when it looks at a call. -/
def lookEffects (reads : List Packet) (verdict : Verdict) : List StreamEffect :=
  reads.map .received ++ verdict.effects

theorem takeAdvanced_looked (fitting : basicFault? sent basic = none)
    (query : sent.kind = .advancedCommand) (t : StreamTransport) (inbox : Inbox) :
    ∃ reads verdict, Looked sent (.awaitingAdvanced basic) inbox reads verdict ∧
      t.takeAdvanced sent basic inbox = (t.settled sent verdict, lookEffects reads verdict) := by
  unfold takeAdvanced
  split
  next fault _ _ => exact ⟨[], .fails fault, .fails (fun _ => rfl) rfl, rfl⟩
  next rest waiting =>
    obtain ⟨buffer, ending⟩ := Inbox.next_none waiting
    exact ⟨[], .waits (.awaitingAdvanced basic) rest,
      .waits ⟨fitting, query⟩ rfl rfl (fun _ => rfl) buffer.symm ending, rfl⟩
  next advanced rest taken =>
    obtain ⟨front, ending⟩ := Inbox.next_packet taken
    have buffer : inbox.decoder.buffer =
        [advanced].flatMap Packet.bytes ++ rest.decoder.buffer := by
      rw [List.flatMap_singleton]
      exact front
    cases following : advancedFault? sent advanced with
    | some detail =>
        exact ⟨[advanced], .fails (.protocolViolation detail), .fails (fun _ => rfl) buffer, rfl⟩
    | none =>
        exact ⟨[advanced], .answers ⟨basic, some advanced⟩ rest,
          .answers (fits_query fitting query following) rfl rfl buffer ending, rfl⟩

theorem takeBasic_looked (t : StreamTransport) (sent : Packet) (inbox : Inbox) :
    ∃ reads verdict, Looked sent .awaitingBasic inbox reads verdict ∧
      t.takeBasic sent inbox = (t.settled sent verdict, lookEffects reads verdict) := by
  unfold takeBasic
  split
  next fault _ _ => exact ⟨[], .fails fault, .fails (fun _ => rfl) rfl, rfl⟩
  next rest waiting =>
    obtain ⟨buffer, ending⟩ := Inbox.next_none waiting
    exact ⟨[], .waits .awaitingBasic rest,
      .waits trivial rfl rfl (fun _ => rfl) buffer.symm ending, rfl⟩
  next basic rest taken =>
    obtain ⟨front, ending⟩ := Inbox.next_packet taken
    have buffer : inbox.decoder.buffer =
        [basic].flatMap Packet.bytes ++ rest.decoder.buffer := by
      rw [List.flatMap_singleton]
      exact front
    cases fitting : basicFault? sent basic with
    | some detail =>
        exact ⟨[basic], .fails (.protocolViolation detail), .fails (fun _ => rfl) buffer, rfl⟩
    | none =>
        by_cases query : sent.kind = .advancedCommand
        · obtain ⟨reads, verdict, looked, eq⟩ := takeAdvanced_looked fitting query t rest
          refine ⟨basic :: reads, verdict, looked.cons taken, ?_⟩
          simp only [noting, if_pos query, eq]
          rfl
        · refine ⟨[basic], .answers ⟨basic, none⟩ rest,
            .answers (fits_operation fitting query) rfl rfl buffer ending, ?_⟩
          simp only [noting, if_neg query]
          rfl

/-- A call of a transport that has not ended is looked at. -/
theorem poll_looked {phase : CallPhase} (alive : t.terminal = none)
    (underway : t.pending = some ⟨sent, phase⟩) (held : t.inbox = some inbox)
    (sound : phase.Sound sent) :
    ∃ reads verdict, Looked sent phase inbox reads verdict ∧
      t.poll = (t.settled sent verdict, lookEffects reads verdict) := by
  unfold poll
  simp only [underway, alive, held]
  cases phase with
  | sending unsent =>
      refine ⟨[], .waits (.sending unsent) inbox,
        .waits trivial rfl rfl (fun none => absurd rfl none) rfl rfl, ?_⟩
      simp only [settled, ← underway, ← held]
      rfl
  | awaitingBasic => exact takeBasic_looked t sent inbox
  | awaitingAdvanced basic => exact takeAdvanced_looked sound.1 sound.2 t inbox

/-- The call of a transport that has ended fails with what ended it. -/
theorem poll_ended {call : PendingCall} (ended : t.terminal ≠ none)
    (underway : t.pending = some call) : t.poll = t.fail t.terminal.fault := by
  unfold poll
  simp only [underway]
  cases terminal : t.terminal with
  | none => exact absurd terminal ended
  | some outcome => rfl

theorem poll_idle (idle : t.pending = none) : t.poll = (t, []) := by
  rw [poll, idle]

end StreamTransport

end ProjectorControl
