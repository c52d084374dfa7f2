import ProjectorControl.Proofs.Transport.Step
import ProjectorControl.Transport.Turns

/-!
# Exchanges in turns

What a shared transport does belongs to exchanges, one behind the other: an `Exchange` begins,
sends the bytes of its packet in pieces, reads packets, and is answered.  If nobody leaves
during a call, no exchange begins before the one in front of it was answered, nothing is sent
after an exchange that failed, and the exchanges of one transaction have no others between them
(`SharedTransport.exchanges_in_turns`).

Three things are kept to find this.  `InLine` is about tickets: whoever had a turn came earlier
than those who still stand in line, or has a transaction.  `Books` is about the exchanges that
were answered, and `Exchange.Underway` about the one that was not.
-/

namespace ProjectorControl

/-- A turn comes to an end before another begins, unless both are one turn, for a transaction. -/
def Turn.Yields (first second : Turn) : Prop :=
  first = second ∧ first.errand = .transaction ∨ first.ticket < second.ticket

namespace SharedTransport

/-! ## Exchanges -/

/-- An exchange as far as it has come. -/
structure Exchange where
  /-- In whose turn it is made. -/
  turn : Turn
  /-- The packet to send. -/
  packet : Packet
  /-- The pieces that were sent. -/
  sends : List Bytes := []
  /-- The packets that were read. -/
  reads : List Packet := []
  /-- The answer, none as long as the exchange is under way. -/
  answer : Option (Except Error ResponsePackets) := none

namespace Exchange

/-- What a transport does in an exchange. -/
def streamEffects (e : Exchange) : List StreamEffect :=
  e.sends.map StreamEffect.send ++ e.reads.map StreamEffect.received ++
    e.answer.toList.map StreamEffect.answer

/-- What a shared transport does in an exchange. -/
def effects (e : Exchange) : List SharedEffect :=
  .begins e.turn e.packet :: e.streamEffects.map (.does (some e.turn))

/-- The caller got a response. -/
def Succeeded (e : Exchange) : Prop := ∃ packets, e.answer = some (.ok packets)

/-- An exchange sends the packet that the caller came with, or a part of it, and all of it
before it reads anything.  A response is made of just the packets that were read, and fits. -/
structure Lawful (e : Exchange) : Prop where
  errand : ∀ packet, e.turn.errand = .exchange packet → e.packet = packet
  part : e.sends.flatten <+: e.packet.bytes
  whole : e.reads ≠ [] → e.sends.flatten = e.packet.bytes
  response : ∀ packets, e.answer = some (.ok packets) →
    packets.toList = e.reads ∧ packets.Fits e.packet

/-- The first exchange is over before the second begins, and it has succeeded if the second
sends anything. -/
structure Before (first second : Exchange) : Prop where
  turn : first.turn.Yields second.turn
  answered : first.answer ≠ none
  succeeded : second.sends ≠ [] → first.Succeeded

end Exchange

/-- The bytes that go to the projector. -/
def written (effects : List SharedEffect) : Bytes :=
  effects.flatMap fun
    | .does _ (.send bytes) => bytes
    | .does _ (.received _) | .does _ (.answer _) | .begins _ _ => []

/-- Whoever leaves at an event does not leave during a call. -/
def Allows (s : SharedTransport) : SharedEvent → Prop
  | .leave ticket => s.turn.any (·.ticket = ticket) = true → s.transport.pending = none
  | .come _ | .next | .exchange _ | .happens _ => True

instance (s : SharedTransport) : DecidablePred s.Allows
  | .leave ticket =>
    inferInstanceAs (Decidable (s.turn.any (·.ticket = ticket) = true → s.transport.pending = none))
  | .come _ | .next | .exchange _ | .happens _ => .isTrue trivial

/-- Nobody leaves during a call. -/
def Patient (s : SharedTransport) : List SharedEvent → Prop
  | [] => True
  | event :: later => s.Allows event ∧ (s.step event).1.Patient later

instance decidablePatient : ∀ (events : List SharedEvent) (s : SharedTransport),
    Decidable (s.Patient events)
  | [], _ => .isTrue trivial
  | event :: later, s =>
    have := decidablePatient later (s.step event).1
    inferInstanceAs (Decidable (s.Allows event ∧ (s.step event).1.Patient later))

/-! ## What an exchange does -/

namespace Exchange

variable {e : Exchange}

/-- The exchange after more was sent and read in it. -/
def onward (e : Exchange) (given : List Bytes) (reads : List Packet)
    (answer : Option (Except Error ResponsePackets)) : Exchange :=
  { e with sends := e.sends ++ given, reads := e.reads ++ reads, answer := answer }

theorem onward_nil (e : Exchange) : e.onward [] [] e.answer = e := by
  rw [onward, List.append_nil, List.append_nil]

/-- Nothing is sent once something was read, so what an exchange does behind all the rest
belongs behind all the rest. -/
theorem effects_onward {given : List Bytes} {reads : List Packet} (unanswered : e.answer = none)
    (order : given = [] ∨ e.reads = []) (answer : Option (Except Error ResponsePackets)) :
    (e.onward given reads answer).effects =
      e.effects ++ (given.map StreamEffect.send ++ (reads.map StreamEffect.received ++
        answer.toList.map StreamEffect.answer)).map (.does (some e.turn)) := by
  -- One of the two lists is empty, so they can change places.
  have moved (behind : List StreamEffect) :
      given.map .send ++ (e.reads.map .received ++ behind) =
        e.reads.map .received ++ (given.map .send ++ behind) := by
    cases order with
    | inl none => rw [none, List.map_nil, List.nil_append, List.nil_append]
    | inr none => rw [none, List.map_nil, List.nil_append, List.nil_append]
  have onward : (e.onward given reads answer).streamEffects =
      e.streamEffects ++ (given.map StreamEffect.send ++ (reads.map StreamEffect.received ++
        answer.toList.map StreamEffect.answer)) := by
    simp only [streamEffects, Exchange.onward, unanswered, List.map_append, Option.toList_none,
      List.map_nil, List.append_nil, List.append_assoc, moved]
  rw [effects, onward, List.map_append]
  rfl

theorem written_effects (e : Exchange) : written e.effects = e.sends.flatten := by
  have sends (pieces : List Bytes) :
      written ((pieces.map StreamEffect.send).map (.does (some e.turn))) = pieces.flatten := by
    induction pieces with
    | nil => rfl
    | cons bytes later ih => exact congrArg (bytes ++ ·) ih
  have reads (packets : List Packet) :
      written ((packets.map StreamEffect.received).map (.does (some e.turn))) = [] := by
    induction packets with
    | nil => rfl
    | cons packet later ih => exact ih
  have answer :
      written ((e.answer.toList.map StreamEffect.answer).map (.does (some e.turn))) = [] := by
    cases e.answer <;> rfl
  have split : written e.effects =
      written ((e.sends.map StreamEffect.send).map (.does (some e.turn))) ++
        written ((e.reads.map StreamEffect.received).map (.does (some e.turn))) ++
        written ((e.answer.toList.map StreamEffect.answer).map (.does (some e.turn))) := by
    simp only [effects, streamEffects, written, List.map_append, List.flatMap_cons,
      List.flatMap_append, List.nil_append]
  rw [split, sends, reads, answer, List.append_nil, List.append_nil]

theorem written_flatMap (exchanges : List Exchange) :
    written (exchanges.flatMap effects) = exchanges.flatMap (·.sends.flatten) := by
  rw [written, List.flatMap_assoc]
  exact congrArg (exchanges.flatMap ·) (funext written_effects)

theorem Lawful.sends_of_succeeded (lawful : e.Lawful) (succeeded : e.Succeeded) :
    e.sends.flatten = e.packet.bytes := by
  obtain ⟨packets, answered⟩ := succeeded
  obtain ⟨read, -⟩ := lawful.response packets answered
  refine lawful.whole ?_
  rw [← read]
  exact nofun

/-- The bytes of exchanges in turns are those of whole packets, up to the last that sends. -/
theorem sends_prefix {exchanges : List Exchange} (lawful : ∀ e ∈ exchanges, e.Lawful)
    (apart : exchanges.Pairwise Before) :
    exchanges.flatMap (·.sends.flatten) <+: exchanges.flatMap (·.packet.bytes) := by
  induction apart with
  | nil => exact List.prefix_rfl
  | @cons first later before _ ih =>
      have firstLawful := lawful first List.mem_cons_self
      rw [List.flatMap_cons, List.flatMap_cons]
      -- If anything is sent later, the first packet went out as a whole.
      by_cases sends : ∃ e ∈ later, e.sends ≠ []
      · obtain ⟨e, member, sends⟩ := sends
        rw [firstLawful.sends_of_succeeded ((before e member).succeeded sends),
          List.prefix_append_right_inj]
        exact ih fun e member => lawful e (List.mem_cons_of_mem _ member)
      · have nothing : later.flatMap (·.sends.flatten) = [] := by
          rw [List.flatMap_eq_nil_iff]
          intro e member
          have silent : e.sends = [] := Classical.byContradiction fun some =>
            sends ⟨e, member, some⟩
          rw [silent, List.flatten_nil]
        rw [nothing, List.append_nil]
        exact firstLawful.part.trans (List.prefix_append _ _)

/-- The exchanges of one turn have no others between them. -/
theorem turn_eq_of_between {exchanges : List Exchange} (apart : exchanges.Pairwise Before)
    {first middle last : Exchange} (between : [first, middle, last].Sublist exchanges)
    (same : first.turn = last.turn) : middle.turn = first.turn := by
  have ordered := apart.sublist between
  simp only [List.pairwise_cons, List.mem_cons, List.not_mem_nil, or_false, forall_eq_or_imp,
    forall_eq] at ordered
  obtain ⟨⟨ahead, -⟩, behind, -⟩ := ordered
  rcases ahead.turn with ⟨equal, -⟩ | earlier
  · exact equal.symm
  · rcases behind.turn with ⟨equal, -⟩ | later
    · rw [equal, same]
    · rw [← same] at later
      exact absurd later (Nat.lt_asymm earlier)

end Exchange

/-! ## Standing in line -/

/-- Callers stand in line as they came, and those who had a turn came before them, unless it is
a transaction that goes on. -/
structure InLine (line : List Turn) (tickets : Nat) (past : List Turn) : Prop where
  sorted : line.Pairwise (·.ticket < ·.ticket)
  counted : ∀ turn ∈ line, turn.ticket < tickets
  past_counted : ∀ turn ∈ past, turn.ticket < tickets
  yields : ∀ first ∈ past, ∀ second ∈ line, first.Yields second

namespace InLine

variable {line less : List Turn} {tickets : Nat} {past : List Turn} {holder : Turn}

theorem come (inLine : InLine line tickets past) (errand : Errand) :
    InLine (line ++ [⟨tickets, errand⟩]) (tickets + 1) past where
  sorted := by
    rw [List.pairwise_append]
    refine ⟨inLine.sorted, List.pairwise_singleton _ _, fun turn member => ?_⟩
    rw [List.forall_mem_singleton]
    exact inLine.counted turn member
  counted := by
    rw [List.forall_mem_append, List.forall_mem_singleton]
    exact ⟨fun turn member => Nat.lt_succ_of_lt (inLine.counted turn member),
      Nat.lt_succ_self tickets⟩
  past_counted turn member := Nat.lt_succ_of_lt (inLine.past_counted turn member)
  yields first member := by
    rw [List.forall_mem_append, List.forall_mem_singleton]
    exact ⟨inLine.yields first member, .inr (inLine.past_counted first member)⟩

theorem sublist (inLine : InLine line tickets past) (left : less.Sublist line) :
    InLine less tickets past where
  sorted := inLine.sorted.sublist left
  counted turn member := inLine.counted turn (left.subset member)
  past_counted := inLine.past_counted
  yields first member second secondMember :=
    inLine.yields first member second (left.subset secondMember)

/-- Whose turn it was goes, or goes on with a transaction. -/
theorem served (inLine : InLine (holder :: line) tickets past) :
    InLine (((some holder).filter (·.errand = .transaction)).toList ++ line) tickets
      (past ++ [holder]) := by
  have kept : (((some holder).filter (·.errand = .transaction)).toList ++ line).Sublist
      (holder :: line) := by
    rw [Option.filter_some]
    split
    next => exact List.Sublist.refl _
    next => exact List.sublist_cons_self holder line
  have rest := inLine.sublist kept
  refine ⟨rest.sorted, rest.counted, ?_, ?_⟩
  · rw [List.forall_mem_append, List.forall_mem_singleton]
    exact ⟨inLine.past_counted, inLine.counted holder List.mem_cons_self⟩
  · rw [List.forall_mem_append, List.forall_mem_singleton]
    refine ⟨rest.yields, fun second member => ?_⟩
    rcases List.mem_append.mp member with stays | waits
    · rw [Option.mem_toList, Option.filter_eq_some_iff] at stays
      obtain ⟨same, transaction⟩ := stays
      cases same
      exact .inl ⟨rfl, of_decide_eq_true transaction⟩
    · exact .inr (List.rel_of_pairwise_cons inLine.sorted waits)

end InLine

/-! ## The books -/

/-- What is known of the exchanges that were answered: if one has failed, the transport has
ended. -/
structure Books (t : StreamTransport) (done : List Exchange) : Prop where
  valid : t.Valid
  lawful : ∀ e ∈ done, e.Lawful
  answered : ∀ e ∈ done, e.answer ≠ none
  apart : done.Pairwise Exchange.Before
  succeeded : t.terminal = none → ∀ e ∈ done, e.Succeeded

/-- What is known of an exchange under way, behind those that were answered. -/
structure Exchange.Underway (e : Exchange) (s : SharedTransport) (done : List Exchange)
    (phase : CallPhase) : Prop where
  turn : s.turn = some e.turn
  pending : s.transport.pending = some ⟨e.packet, phase⟩
  unanswered : e.answer = none
  sent : e.sends.flatten ++ phase.unsent = e.packet.bytes
  read : e.reads = phase.received
  errand : ∀ packet, e.turn.errand = .exchange packet → e.packet = packet
  succeeded : e.sends ≠ [] → ∀ first ∈ done, first.Succeeded

/-- An exchange is under way in somebody's turn, or nobody has a turn but for a transaction. -/
inductive Stand (s : SharedTransport) (done : List Exchange) : Option Exchange → Prop where
  | free :
      s.transport.pending = none → (∀ turn ∈ s.turn, turn.errand = .transaction) →
      Stand s done none
  | busy {e : Exchange} (phase : CallPhase) : e.Underway s done phase → Stand s done (some e)

/-- All that a shared transport has done belongs to the exchanges that were answered and to the
one under way. -/
structure Kept (s : SharedTransport) (log : List SharedEffect) (done : List Exchange)
    (now : Option Exchange) : Prop where
  books : Books s.transport done
  line : InLine (s.turn.toList ++ s.waiting) s.tickets (done.map (·.turn))
  stand : Stand s done now
  log : log = (done ++ now.toList).flatMap Exchange.effects

variable {s s' : SharedTransport} {log : List SharedEffect} {done : List Exchange}
  {now : Option Exchange} {e : Exchange} {phase : CallPhase} {after : StreamTransport}

theorem Books.of_alive (books : Books s.transport done) (valid : after.Valid)
    (alive : after.terminal = none → s.transport.terminal = none) : Books after done :=
  ⟨valid, books.lawful, books.answered, books.apart, fun none => books.succeeded (alive none)⟩

/-- Where an exchange stands depends on the call and the turn. -/
theorem Stand.of_eq (stand : Stand s done now)
    (pending : s'.transport.pending = s.transport.pending) (turn : s'.turn = s.turn) :
    Stand s' done now := by
  cases stand with
  | free idle transaction => exact .free (pending.trans idle) (turn ▸ transaction)
  | busy phase underway =>
      exact .busy phase { underway with
        turn := turn.trans underway.turn
        pending := pending.trans underway.pending }

theorem Exchange.Underway.sent_onward (underway : e.Underway s done phase) (event : StreamEvent) :
    (e.sends ++ event.given phase).flatten ++ (event.push phase).unsent = e.packet.bytes := by
  rw [List.flatten_append, List.append_assoc, event.unsent_push, underway.sent]

/-- An exchange goes on as it should if it reads nothing before all was sent, and is answered
with what it has read. -/
theorem Exchange.Underway.lawful_onward (underway : e.Underway s done phase) (event : StreamEvent)
    {reads : List Packet} {answer : Option (Except Error ResponsePackets)}
    (whole : reads ≠ [] → (event.push phase).unsent = [])
    (response : ∀ packets, answer = some (.ok packets) →
      packets.toList = phase.received ++ reads ∧ packets.Fits e.packet) :
    (e.onward (event.given phase) reads answer).Lawful := by
  have sent := underway.sent_onward event
  refine ⟨underway.errand, ⟨_, sent⟩, fun some => ?_, fun packets answered => ?_⟩
  · have nothing : (event.push phase).unsent = [] := by
      by_cases before : e.reads = []
      · refine whole fun none => some ?_
        rw [onward, before, none, List.append_nil]
      · rw [underway.read, ← event.received_push] at before
        exact CallPhase.unsent_of_received before
    rwa [nothing, List.append_nil] at sent
  · rw [onward, underway.read]
    exact response packets answered

theorem Exchange.Underway.lawful (underway : e.Underway s done phase) : e.Lawful := by
  have lawful : (e.onward [] [] e.answer).Lawful :=
    underway.lawful_onward .poll (fun none => absurd rfl none)
      fun _ answered => by cases underway.unanswered.symm.trans answered
  rwa [Exchange.onward_nil] at lawful

/-- An exchange comes behind those that were answered. -/
theorem before_of_turn (books : Books s.transport done)
    (line : InLine (s.turn.toList ++ s.waiting) s.tickets (done.map (·.turn)))
    (turn : s.turn = some e.turn) (succeeded : e.sends ≠ [] → ∀ first ∈ done, first.Succeeded) :
    ∀ first ∈ done, first.Before e := by
  intro first member
  refine ⟨?_, books.answered first member, fun sends => succeeded sends first member⟩
  refine line.yields first.turn (List.mem_map_of_mem member) e.turn ?_
  rw [turn]
  exact List.mem_append_left _ (List.mem_singleton_self _)

/-- An exchange that was answered joins the others. -/
theorem Books.append (books : Books s.transport done) (before : ∀ first ∈ done, first.Before e)
    (lawful : e.Lawful) (answered : e.answer ≠ none) (valid : after.Valid)
    (alive : after.terminal = none → s.transport.terminal = none ∧ e.Succeeded) :
    Books after (done ++ [e]) where
  valid := valid
  lawful := by
    rw [List.forall_mem_append, List.forall_mem_singleton]
    exact ⟨books.lawful, lawful⟩
  answered := by
    rw [List.forall_mem_append, List.forall_mem_singleton]
    exact ⟨books.answered, answered⟩
  apart := by
    rw [List.pairwise_append]
    refine ⟨books.apart, List.pairwise_singleton _ _, fun first member => ?_⟩
    rw [List.forall_mem_singleton]
    exact before first member
  succeeded none := by
    obtain ⟨before, succeeded⟩ := alive none
    rw [List.forall_mem_append, List.forall_mem_singleton]
    exact ⟨books.succeeded before, succeeded⟩

/-- With the answer to an exchange, the turn of its caller is over, or goes on. -/
theorem Kept.of_answer (books : Books s.transport done)
    (line : InLine (s.turn.toList ++ s.waiting) s.tickets (done.map (·.turn)))
    (turn : s.turn = some e.turn) (lawful : e.Lawful) (answered : e.answer ≠ none)
    (succeeded : e.sends ≠ [] → ∀ first ∈ done, first.Succeeded) (valid : after.Valid)
    (idle : after.pending = none)
    (alive : after.terminal = none → s.transport.terminal = none ∧ e.Succeeded)
    (told : log = (done ++ [e]).flatMap Exchange.effects) :
    Kept { s with transport := after, turn := s.turn.filter (·.errand = .transaction) } log
      (done ++ [e]) none where
  books := books.append (before_of_turn books line turn succeeded) lawful answered valid alive
  line := by
    rw [turn] at line ⊢
    rw [List.map_append]
    exact line.served
  stand := by
    refine .free idle fun turn member => ?_
    rw [Option.mem_def, Option.filter_eq_some_iff] at member
    exact of_decide_eq_true member.2
  log := by rw [told, Option.toList_none, List.append_nil]

/-- The call under way belongs to the exchange under way. -/
theorem Kept.exists_underway (kept : Kept s log done now) {sent : Packet}
    (pending : s.transport.pending = some ⟨sent, phase⟩) :
    ∃ e, now = some e ∧ e.packet = sent ∧ e.Underway s done phase := by
  cases kept.stand with
  | free idle => cases idle.symm.trans pending
  | busy _ underway =>
      cases underway.pending.symm.trans pending
      exact ⟨_, rfl, rfl, underway⟩

theorem Kept.now_eq_none (kept : Kept s log done now) (idle : s.transport.pending = none) :
    now = none := by
  cases kept.stand with
  | free => rfl
  | busy _ underway => cases idle.symm.trans underway.pending

theorem Kept.log_eq (kept : Kept s log done none) : log = done.flatMap Exchange.effects := by
  rw [kept.log, Option.toList_none, List.append_nil]

/-- Nothing is under way when it is nobody's turn. -/
theorem Kept.idle_of_turn (kept : Kept s log done now) (turn : s.turn = none) :
    s.transport.pending = none := by
  cases kept.stand with
  | free idle => exact idle
  | busy _ underway => cases turn.symm.trans underway.turn

/-! ## One event -/

theorem act_eq {event : StreamEvent} {effects : List StreamEffect}
    (stepped : s.transport.step event = (after, effects)) :
    s.act event =
      ({ s with
          transport := after
          turn := if effects.any StreamEffect.isAnswer then
              s.turn.filter (·.errand = .transaction)
            else s.turn },
        effects.map (.does s.turn)) := by
  rw [act, stepped]

/-- Events at which nothing is done, and the call under way stays as it is. -/
theorem Kept.of_silent (kept : Kept s log done now) {event : StreamEvent}
    (stepped : s.transport.step event = (after, [])) (valid : after.Valid)
    (pending : after.pending = s.transport.pending)
    (alive : after.terminal = none → s.transport.terminal = none) :
    Kept (s.act event).1 (log ++ (s.act event).2) done now := by
  rw [act_eq stepped, List.map_nil, List.append_nil]
  exact ⟨kept.books.of_alive valid alive, kept.line, kept.stand.of_eq pending rfl, kept.log⟩

theorem any_isAnswer_lookEffects (sends : List Bytes) (reads : List Packet) (verdict : Verdict) :
    (sends.map StreamEffect.send ++ StreamTransport.lookEffects reads verdict).any
      StreamEffect.isAnswer = verdict.effects.any StreamEffect.isAnswer := by
  have sending : (sends.map StreamEffect.send).any StreamEffect.isAnswer = false := by
    simp [StreamEffect.isAnswer]
  have reading : (reads.map StreamEffect.received).any StreamEffect.isAnswer = false := by
    simp [StreamEffect.isAnswer]
  rw [StreamTransport.lookEffects, List.any_append, List.any_append, sending, reading,
    Bool.false_or, Bool.false_or]

theorem Kept.log_onward (kept : Kept s log done (some e)) (underway : e.Underway s done phase)
    {given : List Bytes} (order : given = [] ∨ phase.received = []) (reads : List Packet)
    (answer : Option (Except Error ResponsePackets)) :
    log ++ (given.map StreamEffect.send ++ (reads.map StreamEffect.received ++
        answer.toList.map StreamEffect.answer)).map (.does s.turn) =
      (done ++ [e.onward given reads answer]).flatMap Exchange.effects := by
  rw [← underway.read] at order
  rw [kept.log, underway.turn, List.flatMap_append, List.flatMap_append, List.append_assoc,
    List.flatMap_singleton, Exchange.effects_onward underway.unanswered order, Option.toList_some,
    List.flatMap_singleton]

/-- Looking at the call takes the exchange under way onward. -/
theorem Kept.look (kept : Kept s log done now) {event : StreamEvent} {sent : Packet}
    {inbox : Inbox} {reads : List Packet} {verdict : Verdict}
    (alive : s.transport.terminal = none) (pending : s.transport.pending = some ⟨sent, phase⟩)
    (looked : Looked sent (event.push phase) (event.note inbox) reads verdict)
    (stepped : s.transport.step event = (s.transport.settled sent verdict,
      (event.given phase).map .send ++ StreamTransport.lookEffects reads verdict))
    (valid : (s.transport.settled sent verdict).Valid) :
    ∃ done now, Kept (s.act event).1 (log ++ (s.act event).2) done now := by
  obtain ⟨e, rfl, rfl, underway⟩ := kept.exists_underway pending
  have order := event.given_eq_nil_or phase
  have read := event.received_push phase
  have succeeded := kept.books.succeeded alive
  rw [act_eq stepped, any_isAnswer_lookEffects]
  cases looked with
  | @waits next _ _ unsent received =>
      refine ⟨done, some (e.onward (event.given phase) reads none),
        kept.books.of_alive valid fun _ => alive, kept.line, .busy next ?_,
        kept.log_onward underway order reads none⟩
      refine ⟨underway.turn, rfl, rfl, ?_, ?_, underway.errand, fun _ => succeeded⟩
      · rw [unsent]
        exact underway.sent_onward event
      · rw [received, read, ← underway.read]
        rfl
  | @answers packets _ fits unsent received =>
      have lawful : (e.onward (event.given phase) reads (some (.ok packets))).Lawful := by
        refine underway.lawful_onward event (fun _ => unsent) ?_
        rintro _ ⟨⟩
        rw [← read]
        exact ⟨received, fits⟩
      exact ⟨_, none, Kept.of_answer (e := e.onward _ _ (some (.ok packets))) kept.books kept.line
        underway.turn lawful (Option.some_ne_none _) (fun _ => succeeded) valid rfl
        (fun _ => ⟨alive, packets, rfl⟩)
        (kept.log_onward underway order reads (some (.ok packets)))⟩
  | @fails fault _ unsent =>
      have lawful : (e.onward (event.given phase) reads (some (.error fault))).Lawful :=
        underway.lawful_onward event unsent fun _ answered => by cases answered
      have ended : (s.transport.settled e.packet (.fails fault)).terminal ≠ none := by
        simp [StreamTransport.settled, StreamTransport.fail, alive, Terminal.resolve]
      exact ⟨_, none, Kept.of_answer (e := e.onward _ _ (some (.error fault))) kept.books kept.line
        underway.turn lawful (Option.some_ne_none _) (fun _ => succeeded) valid rfl
        (fun none => absurd none ended)
        (kept.log_onward underway order reads (some (.error fault)))⟩

/-- Whatever happens to the transport, what it does belongs to exchanges. -/
theorem Kept.act (kept : Kept s log done now) {event : StreamEvent}
    (own : ∀ packet, event ≠ .call packet) (stays : event ≠ .abandon) :
    ∃ done now, Kept (s.act event).1 (log ++ (s.act event).2) done now := by
  have valid := kept.books.valid
  have step := StreamTransport.exists_step valid event
  have next := step.valid valid
  generalize stepped : s.transport.step event = outcome at step next
  obtain ⟨after, effects⟩ := outcome
  simp only at step next
  cases step with
  | refused => exact absurd rfl (own _)
  | busy => exact absurd rfl (own _)
  | begun => exact absurd rfl (own _)
  | abandoned => exact absurd rfl stays
  | idle => exact ⟨done, now, kept.of_silent stepped next rfl fun alive => alive⟩
  | shutBusy => exact ⟨done, now, kept.of_silent stepped next rfl nofun⟩
  | shutIdle => exact ⟨done, now, kept.of_silent stepped next rfl nofun⟩
  | shutAgain => exact ⟨done, now, kept.of_silent stepped next rfl fun alive => alive⟩
  | looked _ alive pending _ looked => exact kept.look alive pending looked stepped next
  | failed _ ended pending =>
      -- A shutdown came during the call, so nothing more is sent or read in it.
      obtain ⟨e, rfl, -, underway⟩ := kept.exists_underway pending
      let failure : Option (Except Error ResponsePackets) :=
        some (.error s.transport.terminal.fault)
      have lawful : (e.onward [] [] failure).Lawful :=
        underway.lawful_onward .poll (fun none => absurd rfl none) fun _ answered =>
          by cases Option.some.inj answered
      have succeeded : (e.onward [] [] failure).sends ≠ [] →
          ∀ first ∈ done, first.Succeeded := by
        rw [Exchange.onward, List.append_nil]
        exact underway.succeeded
      rw [act_eq stepped]
      exact ⟨_, none, Kept.of_answer (e := e.onward [] [] failure) kept.books kept.line
        underway.turn lawful nofun succeeded next rfl (fun none => absurd none ended)
        (kept.log_onward underway (.inl rfl) [] failure)⟩

/-- An exchange begins when none is under way. -/
theorem Kept.of_begin {holder : Turn} {packet : Packet} (books : Books s.transport done)
    (line : InLine (holder :: s.waiting) s.tickets (done.map (·.turn)))
    (idle : s.transport.pending = none)
    (errand : ∀ asked, holder.errand = .exchange asked → packet = asked)
    (told : log = done.flatMap Exchange.effects) :
    ∃ done now, Kept (s.begin holder packet).1 (log ++ (s.begin holder packet).2) done now := by
  have step := StreamTransport.exists_step books.valid (.call packet)
  have next := step.valid books.valid
  generalize stepped : s.transport.step (.call packet) = outcome at step next
  obtain ⟨after, effects⟩ := outcome
  let held : SharedTransport := { s with turn := some holder }
  have acted := act_eq (s := held) stepped
  simp only at step next
  rw [begin, acted]
  let e : Exchange := { turn := holder, packet := packet }
  cases step with
  | busy _ busy => exact absurd idle busy
  | looked look | failed look | idle look => cases look
  | begun alive =>
      refine ⟨done, some e, books.of_alive next fun _ => alive, line,
        .busy (.sending packet.bytes) ?_, ?_⟩
      · exact ⟨rfl, rfl, rfl, rfl, rfl, errand, fun sends => absurd rfl sends⟩
      · rw [told, List.flatMap_append, Option.toList_some, List.flatMap_singleton]
        rfl
  | refused ended =>
      let failed : Exchange := { e with answer := some (.error s.transport.terminal.fault) }
      have lawful : failed.Lawful :=
        ⟨errand, List.nil_prefix, fun reads => absurd rfl reads, nofun⟩
      refine ⟨_, none, Kept.of_answer (s := held) (e := failed) books line rfl lawful nofun
        (fun sends => absurd rfl sends) next idle (fun none => absurd none ended) ?_⟩
      rw [told, List.flatMap_append, List.flatMap_singleton]
      rfl

theorem Kept.silent (kept : Kept s log done now) :
    ∃ done now, Kept s (log ++ []) done now :=
  ⟨done, now, (List.append_nil log).symm ▸ kept⟩

/-- An event in which nobody leaves during a call adds to what belongs to exchanges. -/
theorem Kept.step (kept : Kept s log done now) {event : SharedEvent} (allows : s.Allows event) :
    ∃ done now, Kept (s.step event).1 (log ++ (s.step event).2) done now := by
  cases event with
  | come errand =>
      have line := kept.line.come errand
      rw [List.append_assoc] at line
      exact Kept.silent ⟨kept.books, line, kept.stand.of_eq rfl rfl, kept.log⟩
  | next =>
      simp only [SharedTransport.step]
      split
      next first later turn waiting =>
        have line := kept.line
        rw [turn, waiting] at line
        have idle := kept.idle_of_turn turn
        obtain rfl := kept.now_eq_none idle
        split
        next packet errand =>
          refine Kept.of_begin (s := { s with waiting := later }) kept.books line idle ?_
            kept.log_eq
          intro asked same
          cases errand.symm.trans same
          rfl
        next errand =>
          have transaction : ∀ turn ∈ some first, turn.errand = .transaction := by
            rintro _ ⟨⟩
            exact errand
          exact Kept.silent ⟨kept.books, line, .free idle transaction, kept.log⟩
      next => exact kept.silent
  | exchange packet =>
      simp only [SharedTransport.step]
      split
      next ticket turn idle =>
        have line := kept.line
        rw [turn] at line
        obtain rfl := kept.now_eq_none idle
        exact Kept.of_begin kept.books line idle nofun kept.log_eq
      next => exact kept.silent
  | leave ticket =>
      simp only [SharedTransport.step]
      split
      next leaves =>
        have idle := allows leaves
        have step := StreamTransport.exists_step kept.books.valid .abandon
        have valid := step.valid kept.books.valid
        have books := kept.books.of_alive valid fun alive => alive
        have line := kept.line.sublist (List.sublist_append_right _ _)
        obtain rfl := kept.now_eq_none idle
        exact Kept.silent ⟨books, line, .free rfl nofun, kept.log⟩
      next =>
        have left : (s.waiting.filter (·.ticket ≠ ticket)).Sublist s.waiting := List.filter_sublist
        exact Kept.silent ⟨kept.books, kept.line.sublist (left.append_left _),
          kept.stand.of_eq rfl rfl, kept.log⟩
  | happens event =>
      cases event with
      | call => exact kept.silent
      | abandon => exact kept.silent
      | taken | sendFailed | arrived | finished | expired | shutdown | poll =>
          exact kept.act nofun nofun

/-! ## All events -/

theorem Kept.run (kept : Kept s log done now) {events : List SharedEvent}
    (patient : s.Patient events) :
    ∃ done now, Kept (s.run events).1 (log ++ (s.run events).2) done now := by
  induction events generalizing s log done now with
  | nil => exact kept.silent
  | cons event later ih =>
      obtain ⟨_, _, kept⟩ := kept.step patient.1
      rw [SharedTransport.run, ← List.append_assoc]
      exact ih kept patient.2

theorem kept_new {t : StreamTransport} {inbox : Inbox} (idle : t.Idle inbox) :
    Kept { transport := t } [] [] none where
  books :=
    ⟨idle.valid, List.forall_mem_nil _, List.forall_mem_nil _, .nil, fun _ => List.forall_mem_nil _⟩
  line := ⟨.nil, List.forall_mem_nil _, List.forall_mem_nil _, List.forall_mem_nil _⟩
  stand := .free idle.idle nofun
  log := rfl

theorem Kept.lawful (kept : Kept s log done now) : ∀ e ∈ done ++ now.toList, e.Lawful := by
  rw [List.forall_mem_append]
  refine ⟨kept.books.lawful, ?_⟩
  cases kept.stand with
  | free => exact List.forall_mem_nil _
  | busy _ underway =>
      rw [Option.toList_some, List.forall_mem_singleton]
      exact underway.lawful

theorem Kept.apart (kept : Kept s log done now) :
    (done ++ now.toList).Pairwise Exchange.Before := by
  rw [List.pairwise_append]
  refine ⟨kept.books.apart, ?_⟩
  cases kept.stand with
  | free => exact ⟨.nil, fun _ _ => List.forall_mem_nil _⟩
  | busy _ underway =>
      refine ⟨List.pairwise_singleton _ _, fun first member => ?_⟩
      rw [Option.toList_some, List.forall_mem_singleton]
      exact before_of_turn kept.books kept.line underway.turn underway.succeeded first member

/-- Callers who share a transport and do not leave during a call make exchanges one behind the
other, whatever happens.  Each sends its whole packet before it reads anything, and a response is
made of just the packets read behind its own packet and before the next one.  A packet is sent
only after a response to the one before, and the exchanges of one transaction have no others
between them.  So the bytes that go to the projector are those of whole packets, one behind the
other, up to the packet that is being sent or with which the transport has ended. -/
theorem exchanges_in_turns {t : StreamTransport} {inbox : Inbox} (idle : t.Idle inbox)
    {events : List SharedEvent} (patient : ({ transport := t } : SharedTransport).Patient events) :
    let done := ({ transport := t } : SharedTransport).run events
    ∃ exchanges : List Exchange,
      done.2 = exchanges.flatMap Exchange.effects ∧
      (∀ e ∈ exchanges, e.Lawful) ∧
      exchanges.Pairwise Exchange.Before ∧
      (∀ first middle last, [first, middle, last].Sublist exchanges → first.turn = last.turn →
        middle.turn = first.turn) ∧
      written done.2 <+: exchanges.flatMap (·.packet.bytes) ∧
      (done.1.transport.terminal = none → done.1.transport.pending = none →
        written done.2 = exchanges.flatMap (·.packet.bytes)) := by
  intro shared
  obtain ⟨done, now, kept⟩ := (kept_new idle).run patient
  rw [List.nil_append] at kept
  have lawful := kept.lawful
  have apart := kept.apart
  have sends : written shared.2 = (done ++ now.toList).flatMap (·.sends.flatten) := by
    rw [kept.log, Exchange.written_flatMap]
  refine ⟨done ++ now.toList, kept.log, lawful, apart,
    fun first middle last => Exchange.turn_eq_of_between apart, ?_, ?_⟩
  · rw [sends]
    exact Exchange.sends_prefix lawful apart
  · intro alive free
    obtain rfl := kept.now_eq_none free
    rw [sends, Option.toList_none, List.append_nil, List.flatMap_def, List.flatMap_def]
    refine congrArg List.flatten (List.map_congr_left fun e member => ?_)
    exact (kept.books.lawful e member).sends_of_succeeded (kept.books.succeeded alive e member)

/-- A transaction of two exchanges, while another caller waits for a turn. -/
theorem exchanges_in_turns_twoCallers :
    let on : Packet := ⟨.basicCommand, .ofChars 'P' 'W', [0x31], by decide, by decide, by decide⟩
    let query : Packet :=
      ⟨.advancedCommand, .ofChars 'P' 'W', [], by decide, by decide, by decide⟩
    let basic : Bytes := [0x06, 0x89, 0x01, 0x50, 0x57, 0x0A]
    let advanced : Bytes := [0x40, 0x89, 0x01, 0x50, 0x57, 0x33, 0x0A]
    let t : StreamTransport := ⟨.v4 ⟨127, 0, 0, 1⟩ 20554, .ofSeconds 2, some {}, none, none⟩
    let events : List SharedEvent := [
      .come .transaction, .next, .come (.exchange query), .exchange on, .happens (.taken 7),
      .next, .happens (.arrived basic), .exchange query, .happens (.taken 2),
      .happens (.taken 4), .happens (.arrived (basic ++ advanced)), .leave 0, .next,
      .happens (.taken 6), .happens (.arrived basic), .happens (.arrived advanced)]
    t.Idle {} ∧ Patient { transport := t } events ∧
      (run { transport := t } events).1.transport.terminal = none ∧
      (run { transport := t } events).1.transport.pending = none ∧
      ∃ exchanges : List Exchange,
        (run { transport := t } events).2 = exchanges.flatMap Exchange.effects ∧
        exchanges.Pairwise Exchange.Before ∧
        exchanges.flatMap (·.packet.bytes) = on.bytes ++ query.bytes ++ query.bytes := by
  intro on query basic advanced t events
  have idle : t.Idle {} := ⟨rfl, rfl, rfl⟩
  have patient : Patient { transport := t } events := by decide +kernel
  have alive : (run { transport := t } events).1.transport.terminal = none := by decide +kernel
  have free : (run { transport := t } events).1.transport.pending = none := by decide +kernel
  have bytes : written (run { transport := t } events).2 =
      on.bytes ++ query.bytes ++ query.bytes := by decide +kernel
  obtain ⟨exchanges, effects, -, apart, -, -, whole⟩ := exchanges_in_turns idle patient
  exact ⟨idle, patient, alive, free, exchanges, effects, apart,
    (whole alive free).symm.trans bytes⟩

end SharedTransport

end ProjectorControl
