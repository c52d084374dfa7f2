import ProjectorControl.Proofs.Transport.Conversation

/-!
# Calls that are abandoned

A caller may lose interest in a call before there is an answer.  The transport lives on, and
what the projector says to the packet that was sent still comes.  Whether a later call takes it
for its own answer depends on how far the abandoned call had come:

    nothing sent          nothing comes, and all is well
    a part sent           the next packet becomes the rest of the line
    no response read      a whole response comes; a call with the same code takes it for its own
    basic response read   an advanced response comes, with which no call begins

If no call is abandoned with a part of its packet sent, and none begins with a code to which a
whole response may still come (`Conversation.Careful`), then every call that is answered is
answered with what the projector says to its packet (`SharedTransport.own_answers`), whichever
callers take turns and leave.  Without that it need not be
(`Conversation.exists_foreign_answer`).

An `Account` of a conversation keeps apart what was read, what is owed to abandoned calls, and
what the call under way awaits.  Nothing that is owed can be read, since the first packet of it
fits no call that may begin (`Conversation.Spoilt`).
-/

namespace ProjectorControl

open Framing (frames frames_packets_nil)

namespace Conversation

/-! ## Answers of one's own -/

/-- No call is abandoned with a part of its packet sent, and none begins with a code to which a
whole response may still come. -/
def Careful (c : Conversation) : StreamEvent → Prop
  | .call packet => c.transport.terminal = none → packet.code ∉ c.stale
  | .abandon => ∀ packet unsent, c.transport.pending = some ⟨packet, .sending unsent⟩ →
    unsent = packet.bytes
  | _ => True

/-- A call that is answered at an event is answered with what the projector says to its packet:
that is the last that the projector has heard. -/
def Own (respond : Responder) (c : Conversation) (event : StreamEvent) : Prop :=
  ∀ packets, .answer (.ok packets) ∈ (c.transport.step event).2 →
    ∃ call earlier, c.transport.pending = some call ∧
      frames (c.step event).told = ⟨earlier ++ [call.packet], none, []⟩ ∧
      packets = respond earlier call.packet

/-! ## What is owed -/

/-- No call can use the first of the packets, unless it has one of the codes. -/
def Spoilt (stale : List Packet.Code) : List Packet → Prop
  | [] => True
  | first :: _ => first.kind = .advancedResponse ∨ first.code ∈ stale

theorem Spoilt.append {stale : List Packet.Code} {owed : List Packet} (spoilt : Spoilt stale owed)
    (more : List Packet.Code) : Spoilt (stale ++ more) owed := by
  cases owed with
  | nil => trivial
  | cons first later => exact spoilt.imp_right (List.mem_append_left more)

/-- A call with a fresh code reads a basic response only if nothing is owed. -/
theorem Spoilt.eq_nil {stale : List Packet.Code} {owed awaited reads others : List Packet}
    {basic : Packet} (spoilt : Spoilt stale owed) (kind : basic.kind = .basicResponse)
    (fresh : basic.code ∉ stale) (front : owed ++ awaited = basic :: reads ++ others) :
    owed = [] := by
  cases owed with
  | nil => rfl
  | cons first later =>
      cases (List.cons.inj front).1
      cases spoilt with
      | inl advanced => cases kind.symm.trans advanced
      | inr known => exact absurd known fresh

/-- Where the call stands: `heard` is what the projector has heard, `part` the part of a packet
behind it, `owed` what it says to abandoned calls, and `awaited` what it says to this one. -/
inductive Stand (respond : Responder) (heard : List Packet) (part : Bytes)
    (owed awaited : List Packet) : Option PendingCall → Prop where
  | idle : part = [] → awaited = [] → Stand respond heard part owed awaited none
  | sending {packet : Packet} {phase : CallPhase} :
      phase.unsent ≠ [] → phase.received = [] → part ++ phase.unsent = packet.bytes →
      awaited = [] → Stand respond heard part owed awaited (some ⟨packet, phase⟩)
  | waiting {packet : Packet} {phase : CallPhase} {earlier : List Packet} :
      phase.unsent = [] → part = [] → heard = earlier ++ [packet] →
      phase.received ++ awaited = (respond earlier packet).toList →
      (phase.received ≠ [] → owed = []) →
      Stand respond heard part owed awaited (some ⟨packet, phase⟩)

/-- What is known of a conversation while the transport has not ended: all that the projector says
is what was read, what is owed and what is awaited, and the inbox holds what of this has come. -/
structure Account (respond : Responder) (told said : Bytes) (stale : List Packet.Code)
    (pending : Option PendingCall) (inbox : Inbox) (heard : List Packet) (part read : Bytes)
    (owed awaited : List Packet) : Prop where
  told : told = heard.flatMap Packet.bytes ++ part
  said : inbox.ending = none → said = read ++ inbox.decoder.buffer
  replies : (respond.replies [] heard).flatMap Packet.bytes =
    read ++ (owed ++ awaited).flatMap Packet.bytes
  unread : inbox.decoder.buffer <+: (owed ++ awaited).flatMap Packet.bytes
  spoilt : Spoilt stale owed
  fresh : ∀ call ∈ pending, call.packet.code ∉ stale
  stand : Stand respond heard part owed awaited pending

section

variable {respond : Responder} {told said : Bytes} {stale : List Packet.Code}
  {pending : Option PendingCall} {inbox : Inbox} {heard : List Packet} {part read : Bytes}
  {owed awaited : List Packet} {sent : Packet} {phase : CallPhase}

theorem Account.speech_told
    (account : Account respond told said stale pending inbox heard part read owed awaited) :
    respond.speech told = read ++ (owed ++ awaited).flatMap Packet.bytes := by
  rw [← account.replies, account.told]
  cases account.stand with
  | sending unsent _ whole => exact Responder.speech_part whole unsent heard
  | idle none | waiting _ none => rw [none, List.append_nil, Responder.speech_packets]

/-- A call stays fresh, however far it has come. -/
theorem Account.fresh_call
    (account : Account respond told said stale (some ⟨sent, phase⟩) inbox heard part read owed
      awaited) (next : CallPhase) :
    ∀ call ∈ some (⟨sent, next⟩ : PendingCall), call.packet.code ∉ stale := by
  rintro _ ⟨⟩
  exact account.fresh ⟨sent, phase⟩ rfl

/-- What is read is owed or awaited. -/
theorem Account.front
    (account : Account respond told said stale pending inbox heard part read owed awaited)
    {reads : List Packet} {unread : Bytes}
    (buffer : inbox.decoder.buffer = reads.flatMap Packet.bytes ++ unread) :
    ∃ others, owed ++ awaited = reads ++ others ∧ unread <+: others.flatMap Packet.bytes :=
  packets_of_prefix (buffer ▸ account.unread)

/-- Whatever happens to the inbox, it holds what has come. -/
theorem Account.note
    (account : Account respond told said stale pending inbox heard part read owed awaited)
    {c : Conversation} {event : StreamEvent} (faithful : c.Faithful respond event)
    (same : c.told = told ∧ c.said = said) :
    Account respond told (said ++ event.bytes) stale pending (event.note inbox) heard part read
      owed awaited := by
  have kept (none : event.bytes = []) (stays : event.note inbox = inbox) :
      Account respond told (said ++ event.bytes) stale pending (event.note inbox) heard part read
        owed awaited := by
    rw [none, stays, List.append_nil]
    exact account
  cases event with
  | arrived bytes =>
      cases ending : inbox.ending with
      | none =>
          have fed : inbox.feed bytes =
              { inbox with decoder := inbox.decoder.feed bytes } := by
            rw [Inbox.feed, ending]
          have arrived : said ++ bytes = read ++ (inbox.decoder.buffer ++ bytes) := by
            rw [account.said ending, List.append_assoc]
          have front : said ++ bytes <+: respond.speech told := by
            rw [← same.1, ← same.2]
            exact faithful
          rw [arrived, account.speech_told, List.prefix_append_right_inj] at front
          change Account respond told (said ++ bytes) stale pending (inbox.feed bytes) heard part
            read owed awaited
          rw [fed]
          exact { account with said := fun _ => arrived, unread := front }
      | some ending' =>
          have deaf : inbox.feed bytes = inbox := by
            rw [Inbox.feed, ending]
          change Account respond told (said ++ bytes) stale pending (inbox.feed bytes) heard part
            read owed awaited
          rw [deaf]
          exact { account with said := fun open_ => by cases ending.symm.trans open_ }
  | finished ending =>
      refine { account with said := fun open_ => ?_ }
      change (inbox.ending <|> some ending) = none at open_
      cases last : inbox.ending <;> rw [last] at open_ <;> cases open_
  | call | taken | sendFailed | expired | shutdown | poll | abandon => exact kept rfl rfl

/-- When the projector takes the rest of a packet, a response is awaited. -/
theorem Account.push
    (account : Account respond told said stale (some ⟨sent, phase⟩) inbox heard part read owed
      awaited) (event : StreamEvent) :
    ∃ heard part awaited, Account respond (told ++ (event.given phase).flatten) said stale
      (some ⟨sent, event.push phase⟩) inbox heard part read owed awaited := by
  have split := event.unsent_push phase
  have received := event.received_push phase
  have fresh := account.fresh_call (event.push phase)
  cases account.stand with
  | sending unsent unreceived whole none =>
      subst none
      rw [← split, ← List.append_assoc] at whole
      by_cases gone : (event.push phase).unsent = []
      · rw [gone, List.append_nil] at whole
        have told : told ++ (event.given phase).flatten =
            (heard ++ [sent]).flatMap Packet.bytes ++ [] := by
          rw [account.told, List.append_assoc, whole]
          simp
        refine ⟨heard ++ [sent], [], (respond heard sent).toList, told, account.said, ?_, ?_,
          account.spoilt, fresh, .waiting gone rfl rfl ?_ ?_⟩
        · rw [Responder.replies_concat, List.flatMap_append, account.replies]
          simp
        · refine account.unread.trans ?_
          rw [List.append_nil, List.flatMap_append]
          exact List.prefix_append ..
        · rw [received, unreceived]
          rfl
        · intro some
          exact absurd (received.trans unreceived) some
      · refine ⟨heard, part ++ (event.given phase).flatten, [], ?_, account.said, account.replies,
          account.unread, account.spoilt, fresh, .sending gone (received.trans unreceived) whole
            rfl⟩
        rw [account.told, List.append_assoc]
  | waiting unsent none last response free =>
      rw [unsent, List.append_eq_nil_iff] at split
      rw [← received] at response free
      refine ⟨heard, part, awaited, ?_, account.said, account.replies, account.unread,
        account.spoilt, fresh, .waiting split.2 none last response free⟩
      rw [split.1, List.append_nil]
      exact account.told

/-- A call that has read packets waits on. -/
theorem Account.waits
    (account : Account respond told said stale (some ⟨sent, phase⟩) inbox heard part read owed
      awaited) {reads : List Packet} {next : CallPhase} {rest : Inbox}
    (looked : Looked sent phase inbox reads (.waits next rest)) :
    ∃ read awaited, Account respond told said stale (some ⟨sent, next⟩) rest heard part read owed
      awaited := by
  have fresh := account.fresh_call next
  cases looked with
  | waits sound unsent received whole buffer ending =>
  have said : rest.ending = none →
      said = read ++ reads.flatMap Packet.bytes ++ rest.decoder.buffer := by
    intro open_
    rw [account.said (ending.symm.trans open_), buffer, List.append_assoc]
  obtain ⟨others, split, unread⟩ := account.front buffer
  cases account.stand with
  | sending some unreceived part none =>
      have nothing : reads = [] := Classical.byContradiction fun read => some (whole read)
      subst nothing none
      rw [List.append_nil] at received
      rw [List.nil_append] at split
      rw [List.flatMap_nil, List.append_nil] at said
      refine ⟨read, [], account.told, said, account.replies, split ▸ unread, account.spoilt, fresh,
        .sending (unsent ▸ some) (received.trans unreceived) (unsent ▸ part) rfl⟩
  | waiting all none last response free =>
      cases reads with
      | nil =>
          rw [List.append_nil] at received
          rw [List.nil_append] at split
          rw [List.flatMap_nil, List.append_nil] at said
          rw [← received] at response free
          exact ⟨read, awaited, account.told, said, account.replies, split ▸ unread,
            account.spoilt, fresh, .waiting (unsent.trans all) none last response free⟩
      | cons first later =>
          -- What is owed would be read first, and the call would have failed.
          have unowed : owed = [] := by
            cases phase with
            | awaitingAdvanced basic => exact free nofun
            | sending | awaitingBasic =>
                cases next with
                | sending | awaitingBasic => cases received
                | awaitingAdvanced basic =>
                    cases received
                    obtain ⟨kind, code⟩ := StreamTransport.basicFault?_eq_none.1 sound.1
                    exact account.spoilt.eq_nil kind (code ▸ fresh _ rfl) split
          subst unowed
          rw [List.nil_append] at split
          refine ⟨read ++ (first :: later).flatMap Packet.bytes, others, account.told, said, ?_,
            unread, trivial, fresh, .waiting (unsent.trans all) none last ?_ fun _ => rfl⟩
          · rw [account.replies, List.nil_append, List.nil_append, split, List.flatMap_append,
              List.append_assoc]
          · rw [received, List.append_assoc, ← split]
            exact response

/-- A call that is answered is answered with what the projector says to its packet. -/
theorem Account.answers (fits : respond.Fits)
    (account : Account respond told said stale (some ⟨sent, phase⟩) inbox heard part read owed
      awaited) {reads : List Packet} {packets : ResponsePackets} {rest : Inbox}
    (looked : Looked sent phase inbox reads (.answers packets rest)) :
    (∃ earlier, frames told = ⟨earlier ++ [sent], none, []⟩ ∧ packets = respond earlier sent) ∧
      ∃ read, Account respond told said stale none rest heard [] read [] [] := by
  have fresh : sent.code ∉ stale := account.fresh _ rfl
  cases looked with
  | answers fitting whole received buffer ending =>
  cases account.stand with
  | sending some => exact absurd whole some
  | @waiting _ _ earlier _ none last response free =>
      obtain ⟨others, split, unread⟩ := account.front buffer
      have unowed : owed = [] := by
        by_cases some : phase.received = []
        · rw [some, List.nil_append] at received
          rw [← received] at split
          exact account.spoilt.eq_nil fitting.basic_kind (fitting.basic_code ▸ fresh) split
        · exact free some
      subst unowed last none
      rw [List.nil_append] at split
      have front : packets.toList ++ others = (respond earlier sent).toList := by
        rw [received, List.append_assoc, ← split, response]
      obtain ⟨same, rfl⟩ := fitting.eq_of_toList (fits earlier sent) front
      rw [List.append_nil] at split
      have told := account.told
      rw [List.append_nil] at told
      refine ⟨⟨earlier, told ▸ frames_packets_nil _, same⟩,
        read ++ reads.flatMap Packet.bytes, account.told, fun open_ => ?_, ?_, unread, trivial,
        nofun, .idle rfl rfl⟩
      · rw [account.said (ending.symm.trans open_), buffer, List.append_assoc]
      · rw [account.replies, split]
        simp

/-- What is said to a call that is abandoned is owed. -/
theorem Account.abandon (fits : respond.Fits)
    (account : Account respond told said stale pending inbox heard part read owed awaited)
    (untouched : ∀ packet unsent, pending = some ⟨packet, .sending unsent⟩ →
      unsent = packet.bytes) :
    ∃ part owed, Account respond told said (stale ++ left pending) none inbox heard part read
      owed [] := by
  have spoilt : part = [] ∧ Spoilt (stale ++ left pending) (owed ++ awaited) := by
    cases account.stand with
    | idle whole none =>
        rw [none, List.append_nil]
        exact ⟨whole, account.spoilt.append _⟩
    | @sending packet phase some _ whole none =>
        cases phase with
        | awaitingBasic | awaitingAdvanced => exact absurd rfl some
        | sending unsent =>
            cases untouched packet unsent rfl
            rw [none, List.append_nil]
            exact ⟨List.append_left_eq_self.1 whole, account.spoilt.append _⟩
    | @waiting packet phase earlier all none _ response free =>
        refine ⟨none, ?_⟩
        cases phase with
        | sending unsent =>
            cases untouched packet unsent rfl
            cases all
        -- The response has the code of the call, unless something else is owed before it.
        | awaitingBasic =>
            cases owed with
            | nil =>
                have first : awaited = (respond earlier packet).toList := response
                rw [first]
                refine .inr (List.mem_append_right stale ?_)
                rw [(fits earlier packet).basic_code]
                exact List.mem_singleton_self _
            | cons first later => exact account.spoilt.append _
        -- The basic response was read, so all that is left is an advanced response.
        | awaitingAdvanced basic =>
            have rest : awaited = (respond earlier packet).advanced.toList :=
              (List.cons.inj response).2
            rw [free nofun, rest, List.nil_append]
            cases advanced : (respond earlier packet).advanced with
            | none => trivial
            | some packet' => exact .inl ((fits earlier packet).advanced_fits _ advanced).1
  have same : owed ++ awaited = owed ++ awaited ++ [] := (List.append_nil _).symm
  exact ⟨part, owed ++ awaited, account.told, account.said, same ▸ account.replies,
    same ▸ account.unread, spoilt.2, nofun, .idle spoilt.1 rfl⟩

/-- What events keep. -/
structure Kept (respond : Responder) (c : Conversation) : Prop where
  valid : c.transport.Valid
  account : c.transport.terminal = none → ∃ inbox heard part read owed awaited,
    c.transport.inbox = some inbox ∧
      Account respond c.told c.said c.stale c.transport.pending inbox heard part read owed awaited

theorem staleAt_of_isLook {event : StreamEvent} (look : event.isLook = true) (c : Conversation) :
    c.staleAt event = [] := by
  cases event with
  | call | shutdown | abandon => cases look
  | taken | sendFailed | arrived | finished | expired | poll => rfl

theorem bytes_lookEffects (sends : List Bytes) (reads : List Packet) (verdict : Verdict) :
    (sends.map StreamEffect.send ++ StreamTransport.lookEffects reads verdict).flatMap
      StreamEffect.bytes = sends.flatten := by
  have reading : (reads.map StreamEffect.received).flatMap StreamEffect.bytes = [] := by
    simp [StreamEffect.bytes]
  have sending : (sends.map StreamEffect.send).flatMap StreamEffect.bytes = sends.flatten := by
    rw [List.flatMap_map, List.flatMap_def]
    exact congrArg List.flatten (List.map_id' sends)
  have telling : verdict.effects.flatMap StreamEffect.bytes = [] := by cases verdict <;> rfl
  rw [StreamTransport.lookEffects, List.flatMap_append, List.flatMap_append, sending, reading,
    telling, List.append_nil, List.append_nil]

theorem answer_mem_lookEffects {sends : List Bytes} {reads : List Packet} {verdict : Verdict}
    {packets : ResponsePackets}
    (answered : .answer (.ok packets) ∈
      sends.map StreamEffect.send ++ StreamTransport.lookEffects reads verdict) :
    ∃ rest, verdict = .answers packets rest := by
  have told : .answer (.ok packets) ∈ verdict.effects := by
    simpa [StreamTransport.lookEffects] using answered
  cases verdict with
  | waits => cases told
  | answers packets' rest =>
      cases List.mem_singleton.1 told
      exact ⟨rest, rfl⟩
  | fails => cases List.mem_singleton.1 told

/-- A call under way goes on. -/
theorem Kept.looked (fits : respond.Fits) {c : Conversation} (kept : c.Kept respond)
    {event : StreamEvent} (faithful : c.Faithful respond event) (look : event.isLook = true)
    (alive : c.transport.terminal = none) (pending : c.transport.pending = some ⟨sent, phase⟩)
    (held : c.transport.inbox = some inbox) {reads : List Packet} {verdict : Verdict}
    (looked : Looked sent (event.push phase) (event.note inbox) reads verdict)
    (stepped : c.transport.step event = (c.transport.settled sent verdict,
      (event.given phase).map .send ++ StreamTransport.lookEffects reads verdict))
    (valid : (c.transport.settled sent verdict).Valid) :
    (c.step event).Kept respond ∧ c.Own respond event := by
  have after : c.step event =
      ⟨c.transport.settled sent verdict, c.told ++ (event.given phase).flatten,
        c.said ++ event.bytes, c.stale⟩ := by
    rw [Conversation.step, stepped, bytes_lookEffects, staleAt_of_isLook look, List.append_nil]
  obtain ⟨_, heard, part, read, owed, awaited, held', account⟩ := kept.account alive
  cases held.symm.trans held'
  rw [pending] at account
  obtain ⟨heard, part, awaited, account⟩ := (account.note faithful ⟨rfl, rfl⟩).push event
  unfold Own
  rw [after, stepped]
  cases verdict with
  | waits next rest =>
      obtain ⟨read, awaited, account⟩ := account.waits looked
      refine ⟨⟨valid, fun _ => ⟨rest, _, _, _, _, _, rfl, account⟩⟩, fun packets answered => ?_⟩
      obtain ⟨_, same⟩ := answer_mem_lookEffects answered
      cases same
  | answers packets rest =>
      obtain ⟨⟨earlier, last, own⟩, read, account⟩ := account.answers fits looked
      refine ⟨⟨valid, fun _ => ⟨rest, _, _, _, _, _, rfl, account⟩⟩, fun packets' answered => ?_⟩
      obtain ⟨_, same⟩ := answer_mem_lookEffects answered
      cases same
      exact ⟨⟨sent, phase⟩, earlier, pending, last, own⟩
  | fails fault =>
      refine ⟨⟨valid, fun open_ => ?_⟩, fun packets answered => ?_⟩
      · simp [StreamTransport.settled, StreamTransport.fail, alive, Terminal.resolve] at open_
      · obtain ⟨_, same⟩ := answer_mem_lookEffects answered
        cases same

/-- An event keeps the account, and whoever is answered at it is answered as they should. -/
theorem Kept.step (fits : respond.Fits) {c : Conversation} (kept : c.Kept respond)
    {event : StreamEvent} (faithful : c.Faithful respond event) (careful : c.Careful event) :
    (c.step event).Kept respond ∧ c.Own respond event := by
  have step := StreamTransport.exists_step kept.valid event
  have valid := step.valid kept.valid
  generalize stepped : c.transport.step event = outcome at step valid
  obtain ⟨after, effects⟩ := outcome
  have conv : c.step event = ⟨after, c.told ++ effects.flatMap StreamEffect.bytes,
      c.said ++ event.bytes, c.stale ++ c.staleAt event⟩ := by
    rw [Conversation.step, stepped]
  simp only at step valid
  have own (silent : ∀ packets, .answer (.ok packets) ∉ effects) : c.Own respond event := by
    intro packets answered
    rw [stepped] at answered
    exact absurd answered (silent packets)
  cases step with
  | looked look alive pending held looked =>
      exact kept.looked fits faithful look alive pending held looked stepped valid
  | refused ended | failed _ ended =>
      refine ⟨conv ▸ ⟨valid, fun alive => absurd alive ended⟩, own fun packets answered => ?_⟩
      cases List.mem_singleton.1 answered
  | shutBusy | shutIdle =>
      exact ⟨conv ▸ ⟨valid, fun alive => absurd alive (Option.some_ne_none _)⟩,
        own fun _ => List.not_mem_nil⟩
  | shutAgain ended =>
      exact ⟨conv ▸ ⟨valid, fun alive => absurd alive ended⟩, own fun _ => List.not_mem_nil⟩
  | busy alive =>
      refine ⟨?_, own fun _ => List.not_mem_nil⟩
      simp only [conv, List.flatMap_nil, List.append_nil, StreamEvent.bytes, staleAt]
      exact kept
  | @begun packet alive idle =>
      refine ⟨?_, own fun _ => List.not_mem_nil⟩
      simp only [conv, List.flatMap_nil, List.append_nil, StreamEvent.bytes, staleAt]
      obtain ⟨inbox, heard, part, read, owed, awaited, held, account⟩ := kept.account alive
      refine ⟨valid, fun _ => ⟨inbox, heard, part, read, owed, awaited, held, account.told,
        account.said, account.replies, account.unread, account.spoilt, ?_, ?_⟩⟩
      · rintro _ ⟨⟩
        exact careful alive
      · have stand := account.stand
        rw [idle] at stand
        cases stand with
        | idle whole none =>
            refine .sending (List.cons_ne_nil _ _) rfl ?_ none
            rw [whole]
            rfl
  | idle look idle =>
      refine ⟨?_, own fun _ => List.not_mem_nil⟩
      simp only [conv, List.flatMap_nil, List.append_nil, staleAt_of_isLook look]
      refine ⟨valid, fun alive => ?_⟩
      obtain ⟨inbox, heard, part, read, owed, awaited, held, account⟩ := kept.account alive
      exact ⟨event.note inbox, heard, part, read, owed, awaited, by rw [held]; rfl,
        account.note faithful ⟨rfl, rfl⟩⟩
  | abandoned =>
      refine ⟨?_, own fun _ => List.not_mem_nil⟩
      simp only [conv, List.flatMap_nil, List.append_nil, StreamEvent.bytes, staleAt]
      refine ⟨valid, fun alive => ?_⟩
      obtain ⟨inbox, heard, part, read, owed, awaited, held, account⟩ := kept.account alive
      obtain ⟨part, owed, account⟩ := account.abandon fits careful
      exact ⟨inbox, heard, part, read, owed, [], held, account⟩

end

/-! ## Whole conversations -/

section

variable {respond : Responder} {t : StreamTransport}

theorem kept_new (respond : Responder) (idle : t.Idle {}) : Kept respond { transport := t } where
  valid := idle.valid
  account _ := by
    refine ⟨{}, [], [], [], [], [], idle.held, rfl, fun _ => rfl, rfl, List.prefix_rfl, trivial,
      ?_, ?_⟩
    · rw [idle.idle]
      nofun
    · rw [idle.idle]
      exact .idle rfl rfl

theorem Kept.run (fits : respond.Fits) {c : Conversation} (kept : c.Kept respond)
    {events : List StreamEvent} (faithful : c.Throughout (Faithful respond) events)
    (careful : c.Throughout Careful events) : c.Throughout (Own respond) events := by
  induction events generalizing c with
  | nil => trivial
  | cons event later ih =>
      obtain ⟨kept, own⟩ := kept.step fits faithful.1 careful.1
      exact ⟨own, ih kept faithful.2 careful.2⟩

end

end Conversation

/-! ## A projector whose answers change -/

namespace Responder

/-- A digit for the first packet, and another for all later ones. -/
def digit (earlier : List Packet) : Bytes := if earlier.isEmpty then [0x30] else [0x31]

theorem length_nothing_le : ([] : Bytes).length ≤ Packet.maxPayloadLength := Nat.zero_le _

theorem terminator_notMem_nothing : terminator ∉ ([] : Bytes) := List.not_mem_nil

theorem length_digit_le (earlier : List Packet) :
    (digit earlier).length ≤ Packet.maxPayloadLength := by
  unfold digit
  split <;> decide

theorem terminator_notMem_digit (earlier : List Packet) : terminator ∉ digit earlier := by
  unfold digit
  split <;> decide

/-- A projector that answers its first query otherwise than all others. -/
def changing : Responder := fun earlier packet =>
  { basic := ⟨.basicResponse, packet.code, [], length_nothing_le, packet.terminator_notMem_code,
      terminator_notMem_nothing⟩
    advanced :=
      if packet.kind = .advancedCommand then
        some ⟨.advancedResponse, packet.code, digit earlier, length_digit_le earlier,
          packet.terminator_notMem_code, terminator_notMem_digit earlier⟩
      else none }

theorem fits_changing : changing.Fits := by
  intro earlier packet
  by_cases query : packet.kind = .advancedCommand
  · simp only [changing, if_pos query]
    refine ⟨rfl, rfl, by simp [query], ?_⟩
    rintro _ ⟨⟩
    exact ⟨rfl, rfl⟩
  · simp only [changing, if_neg query]
    refine ⟨rfl, rfl, by simp [query], ?_⟩
    rintro _ ⟨⟩

end Responder

/-! ## Whoever leaves -/

namespace SharedTransport

open Conversation
open Responder (changing fits_changing)

/-- If no call is abandoned with a part of its packet sent, and none begins with a code to which a
whole response may still come, then every call that is answered is answered with what the projector
says to its packet, whichever callers take turns, and whoever leaves. -/
theorem own_answers {respond : Responder} (fits : respond.Fits) {t : StreamTransport}
    (idle : t.Idle {}) {events : List SharedEvent} :
    let s : SharedTransport := { transport := t }
    let c : Conversation := { transport := t }
    c.Throughout (Faithful respond) (s.allMoves events) →
    c.Throughout Careful (s.allMoves events) →
      ((s.run events).1.transport, streamEffects (s.run events).2) = t.run (s.allMoves events) ∧
        c.Throughout (Own respond) (s.allMoves events) := by
  intro s c faithful careful
  exact ⟨s.run_moves events, (kept_new respond idle).run fits faithful careful⟩

/-- One caller leaves before anything is sent, another before their turn, and the third is answered
as they should be. -/
theorem own_answers_afterLeaving :
    let query : Packet :=
      ⟨.advancedCommand, .ofChars 'P' 'W', [], by decide, by decide, by decide⟩
    let t : StreamTransport := ⟨.v4 ⟨127, 0, 0, 1⟩ 20554, .ofSeconds 2, some {}, none, none⟩
    let answer := (changing [] query).toList.flatMap Packet.bytes
    let events : List SharedEvent := [
      .come (.exchange query), .come (.exchange query), .come (.exchange query), .next, .leave 0,
      .leave 1, .next, .happens (.taken 6), .happens (.arrived answer)]
    let before : List StreamEvent := [.call query, .abandon, .call query, .taken 6]
    let s : SharedTransport := { transport := t }
    let c : Conversation := { transport := t }
    t.Idle {} ∧ s.allMoves events = before ++ [.arrived answer] ∧
      c.Throughout (Faithful changing) (s.allMoves events) ∧
      c.Throughout Careful (s.allMoves events) ∧
      .answer (.ok (changing [] query)) ∈ ((c.run before).transport.step (.arrived answer)).2 ∧
      (c.run before).Own changing (.arrived answer) := by
  intro query t answer events before s c
  have idle : t.Idle {} := ⟨rfl, rfl, rfl⟩
  have moves : s.allMoves events = before ++ [.arrived answer] := rfl
  have faithful : c.Throughout (Faithful changing) (s.allMoves events) := by
    refine ⟨trivial, trivial, trivial, trivial, ?_, trivial⟩
    change answer <+: changing.speech ([query].flatMap Packet.bytes)
    rw [Responder.speech_packets]
    exact List.prefix_rfl
  have careful : c.Throughout Careful (s.allMoves events) := by
    refine ⟨fun _ => List.not_mem_nil, ?_, fun _ => List.not_mem_nil, trivial, trivial, trivial⟩
    rintro _ _ ⟨⟩
    rfl
  obtain ⟨-, own⟩ := own_answers fits_changing idle faithful careful
  rw [moves] at own
  have answered : .answer (.ok (changing [] query)) ∈
      ((c.run before).transport.step (.arrived answer)).2 := .tail _ (.tail _ (.head _))
  exact ⟨idle, moves, faithful, careful, answered, own.last⟩

end SharedTransport

namespace Conversation

open Responder (changing fits_changing)

/-- A call that is abandoned with its packet sent leaves its answer to the next call. -/
theorem exists_foreign_answer :
    let query : Packet :=
      ⟨.advancedCommand, .ofChars 'P' 'W', [], by decide, by decide, by decide⟩
    let t : StreamTransport := ⟨.v4 ⟨127, 0, 0, 1⟩ 20554, .ofSeconds 2, some {}, none, none⟩
    let answer := (changing [] query).toList.flatMap Packet.bytes
    let before : List StreamEvent :=
      [.call query, .taken 6, .abandon, .arrived answer, .call query]
    let c := run { transport := t } before
    changing.Fits ∧ t.Idle {} ∧
      Throughout { transport := t } (Faithful changing) (before ++ [.taken 6]) ∧
      c.transport.pending = some ⟨query, .sending query.bytes⟩ ∧
      (c.transport.step (.taken 6)).2.getLast? = some (.answer (.ok (changing [] query))) ∧
      (c.step (.taken 6)).told = query.bytes ++ query.bytes ∧
      changing [query] query ≠ changing [] query ∧ ¬ c.Own changing (.taken 6) := by
  intro query t answer before c
  have faithful : Throughout { transport := t } (Faithful changing) (before ++ [.taken 6]) := by
    refine ⟨trivial, trivial, trivial, ?_, trivial, trivial, trivial⟩
    change answer <+: changing.speech ([query].flatMap Packet.bytes)
    rw [Responder.speech_packets]
    exact List.prefix_rfl
  have pending : c.transport.pending = some ⟨query, .sending query.bytes⟩ := rfl
  have answered : (c.transport.step (.taken 6)).2.getLast? =
      some (.answer (.ok (changing [] query))) := rfl
  have told : (c.step (.taken 6)).told = query.bytes ++ query.bytes := rfl
  have other : changing [query] query ≠ changing [] query := by decide
  refine ⟨fits_changing, ⟨rfl, rfl, rfl⟩, faithful, pending, answered, told, other, fun own => ?_⟩
  obtain ⟨call, earlier, called, last, same⟩ := own _ (List.mem_of_getLast? answered)
  cases pending.symm.trans called
  have heard : frames (c.step (.taken 6)).told = ⟨[query] ++ [query], none, []⟩ := by
    rw [told]
    exact frames_packets_nil [query, query]
  rw [heard] at last
  have before : [query] = earlier :=
    List.append_inj_left' (congrArg Framing.Frames.packets last) rfl
  subst before
  exact other same.symm

end Conversation

end ProjectorControl
