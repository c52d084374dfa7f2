import ProjectorControl.Client.Status
import ProjectorControl.Proofs.Projector.Step
import ProjectorControl.Proofs.Transport.Exchange

/-!
# The client and the projector agree

The emulated projector makes its responses and the client reads them by different rules.  They
agree on every packet that is answered, whatever has happened to the projector before.

`Dispatcher.answered` looks at the packets of a response.  They fit the packet that was sent,
every command that the client may recognize it as accepts them, and what they report is what
the projector holds (`Reports`).  This takes one more fact about the command table: a packet
fits one query at most (`CommandDefinition.eq_of_query`).

`Dispatcher.exchange_agrees` adds the way through the decoder and the transport: in whatever
chunks the response arrives, it is read completely, and nothing else is.
-/

namespace ProjectorControl

open Framing (Decoder)

/-! ## Queries of the table -/

/-- Queries differ in their codes. -/
theorem CommandDefinition.eq_of_query {d other : CommandDefinition}
    (listed : d ∈ registry.commands) (otherListed : other ∈ registry.commands)
    (query : d.isAdvanced = true) (otherQuery : other.isAdvanced = true)
    (code : d.code = other.code) : d = other := by
  have table : ∀ d ∈ registry.commands.filter (·.isAdvanced),
      ∀ other ∈ registry.commands.filter (·.isAdvanced), d.code = other.code → d = other := by
    decide +kernel
  exact table d (List.mem_filter.mpr ⟨listed, query⟩) other
    (List.mem_filter.mpr ⟨otherListed, otherQuery⟩) code

theorem StatusField.queryName_injective {field other : StatusField}
    (same : field.queryName = other.queryName) : field = other := by
  have found := field.find?_queryName
  rw [same, other.find?_queryName] at found
  exact (Option.some.inj found).symm

namespace Command

variable {c other : Command}

/-- A packet is recognized as one query at most. -/
theorem definition_eq_of_query (listed : c.definition ∈ registry.commands)
    (otherListed : other.definition ∈ registry.commands) (same : c.packet = other.packet)
    (query : c.isAdvanced = true) : c.definition = other.definition := by
  have otherQuery : other.isAdvanced = true := by rwa [isAdvanced, ← same]
  obtain ⟨-, code⟩ := CommandDefinition.eq_of_matchesPacket c.fits
  obtain ⟨-, otherCode⟩ := CommandDefinition.eq_of_matchesPacket other.fits
  exact CommandDefinition.eq_of_query listed otherListed (c.isAdvanced_eq.symm.trans query)
    (other.isAdvanced_eq.symm.trans otherQuery) (by rw [← code, ← otherCode, same])

/-- The query for a status field, by its name. -/
theorem status_of_name (listed : c.definition ∈ registry.commands) {field : StatusField}
    (named : c.name = field.queryName) :
    c.isAdvanced = true ∧ c.definition.responses? = some field.responses ∧
      c.responseLength? = some 1 := by
  cases CommandDefinition.role_of_mem listed with
  | operation _ _ status => exact absurd named.symm (status field)
  | status field' advanced named' map length =>
      obtain rfl := StatusField.queryName_injective (named.symm.trans named')
      exact ⟨c.isAdvanced_eq.trans advanced, map, length⟩
  | model _ named' _ => exact absurd (named.symm.trans named') field.queryName_ne.1

/-- The query for the model, by its name. -/
theorem model_of_name (listed : c.definition ∈ registry.commands)
    (named : c.name = Call.modelQueryName) :
    c.isAdvanced = true ∧ c.responseLength? = some 14 := by
  cases CommandDefinition.role_of_mem listed with
  | operation _ model _ => exact absurd named model
  | status field _ named' _ _ => exact absurd (named'.symm.trans named) field.queryName_ne.1
  | model advanced _ length => exact ⟨c.isAdvanced_eq.trans advanced, length⟩

end Command

/-! ## Responses -/

/-- What a response to a command reports is what a projector of a model holds. -/
structure Reports (state : ProjectorState) (model : Model) (command : Command)
    (response : Response) : Prop where
  status : ∀ field : StatusField, command.name = field.queryName →
    response.text? = some (state.get field)
  power : command.name = StatusField.power.queryName →
    ∃ power, state.powerState = .ok power ∧ Call.powerOfResponse response = .ok power
  model : command.name = Call.modelQueryName →
    ∃ found, Call.modelOfResponse response = .ok found ∧
      found.statusPayload = model.statusPayload

/-- A client that sent a command accepts an answer to it, and reads what the projector holds. -/
def Understood (state : ProjectorState) (model : Model) (answer : ResponsePackets)
    (command : Command) : Prop :=
  ∃ response, answer.toResponse command = .ok response ∧ Reports state model command response

variable {state : ProjectorState} {model : Model} {command : Command}

theorem understood_operation (listed : command.definition ∈ registry.commands)
    (operation : command.isAdvanced = false) :
    Understood state model ⟨command.packet.acknowledgement, none⟩ command := by
  refine ⟨_, Command.ofPackets_of_basic operation, ?_, ?_, ?_⟩
  · intro field named
    obtain ⟨query, -⟩ := Command.status_of_name listed named
    rw [operation] at query
    cases query
  · intro named
    obtain ⟨query, -⟩ := Command.status_of_name listed named
    rw [operation] at query
    cases query
  · intro named
    obtain ⟨query, -⟩ := Command.model_of_name listed named
    rw [operation] at query
    cases query

theorem understood_status (valid : state.Valid) (listed : command.definition ∈ registry.commands)
    {field : StatusField} {payload : Bytes} (named : command.name = field.queryName)
    (found : field.responses.payloadFor? (state.get field) = some payload)
    (fits : payload.length ≤ Packet.maxPayloadLength) (whole : terminator ∉ payload) :
    Understood state model
      ⟨command.packet.acknowledgement, some (command.packet.answering payload fits whole)⟩
      command := by
  obtain ⟨query, map, length⟩ := Command.status_of_name listed named
  obtain ⟨size, -, known⟩ := field.payloads_sound _ (StatusField.mem_payloads found)
  have sized : ∀ n, command.responseLength? = some n → payload.length = n := by
    intro n fixed
    exact size.trans (Option.some.inj (length.symm.trans fixed))
  let response : Response :=
    ⟨command, command.packet.acknowledgement, some (command.packet.answering payload fits whole)⟩
  have text : response.text? = some (state.get field) := by
    change command.definition.responseText? payload = _
    rw [CommandDefinition.responseText?, map]
    exact known
  refine ⟨response, Command.ofPackets_of_advanced query sized fits whole, ?_, ?_, ?_⟩
  · intro field' named'
    obtain rfl := StatusField.queryName_injective (named.symm.trans named')
    exact text
  · intro named'
    obtain rfl := StatusField.queryName_injective (named.symm.trans named')
    obtain ⟨power, held, read⟩ := valid.exists_power
    refine ⟨power, read, ?_⟩
    simp only [Call.powerOfResponse, text, held, PowerState.ofName_name]
  · intro named'
    exact absurd (named.symm.trans named') field.queryName_ne.1

theorem understood_model (known : model ∈ Model.all)
    (listed : command.definition ∈ registry.commands)
    (named : command.name = Call.modelQueryName)
    (fits : model.statusPayload.length ≤ Packet.maxPayloadLength)
    (whole : terminator ∉ model.statusPayload) :
    Understood state model
      ⟨command.packet.acknowledgement,
        some (command.packet.answering model.statusPayload fits whole)⟩ command := by
  obtain ⟨query, length⟩ := Command.model_of_name listed named
  obtain ⟨size, -⟩ := Model.statusPayload_sound known
  have sized : ∀ n, command.responseLength? = some n → model.statusPayload.length = n := by
    intro n fixed
    exact size.trans (Option.some.inj (length.symm.trans fixed))
  refine ⟨_, Command.ofPackets_of_advanced query sized fits whole, ?_, ?_, ?_⟩
  · intro field named'
    exact absurd (named'.symm.trans named) field.queryName_ne.1
  · intro named'
    exact absurd (named'.symm.trans named) StatusField.power.queryName_ne.1
  · intro _
    -- Several models share a payload, so the client may find another one of the family.
    have exists_found : (Model.ofStatusPayload? model.statusPayload).isSome = true := by
      rw [Model.ofStatusPayload?, Model.firstWithPayload?, List.find?_isSome]
      exact ⟨model, known, decide_eq_true rfl⟩
    obtain ⟨found, first⟩ := Option.isSome_iff_exists.mp exists_found
    have family := first
    rw [Model.ofStatusPayload?, Model.firstWithPayload?] at family
    have same := List.find?_some family
    refine ⟨found, ?_, of_decide_eq_true same⟩
    simp only [Call.modelOfResponse, Response.payload, Packet.answering, first]

namespace Dispatcher

/-- The packets of a response are an answer to the packet, and every command that the packet may
be recognized as understands them. -/
structure AnswerOf (d : Dispatcher) (packet : Packet) (answer : ResponsePackets) : Prop where
  recognized : ∃ definition ∈ registry.commands, definition.matchesPacket packet = true
  fits : answer.Fits packet
  understood : ∀ command : Command, command.packet = packet →
    command.definition ∈ registry.commands → Understood d.state d.model answer command

variable {d : Dispatcher} {packet : Packet} {packets : List Packet}

theorem answerOf_operation {command : Command}
    (known : Command.ofPacket packet (some d.model) = .ok command)
    (operation : command.isAdvanced = false) :
    d.AnswerOf packet ⟨packet.acknowledgement, none⟩ := by
  have recognition := Command.recognition packet (some d.model)
  rw [known] at recognition
  cases recognition with
  | known same listed =>
      subst same
      have kind : command.packet.kind ≠ .advancedCommand := of_decide_eq_false operation
      refine ⟨⟨_, listed, command.fits⟩, ⟨rfl, rfl, by simp [kind], nofun⟩,
        fun other same listed => ?_⟩
      rw [← same]
      exact understood_operation listed (by rwa [Command.isAdvanced, same])

theorem answerOf_query {command : Command} {payload : Bytes}
    (fits : payload.length ≤ Packet.maxPayloadLength) (whole : terminator ∉ payload)
    (known : Command.ofPacket packet (some d.model) = .ok command)
    (query : command.definition ∈ registry.commands → command.isAdvanced = true)
    (understood : ∀ other : Command, other.definition ∈ registry.commands →
      other.name = command.name →
      Understood d.state d.model
        ⟨other.packet.acknowledgement, some (other.packet.answering payload fits whole)⟩ other) :
    d.AnswerOf packet ⟨packet.acknowledgement, some (packet.answering payload fits whole)⟩ := by
  have recognition := Command.recognition packet (some d.model)
  rw [known] at recognition
  cases recognition with
  | known same listed =>
      subst same
      have advanced := query listed
      have kind : command.packet.kind = .advancedCommand := of_decide_eq_true advanced
      refine ⟨⟨_, listed, command.fits⟩, ⟨rfl, rfl, by simp [kind], ?_⟩,
        fun other same otherListed => ?_⟩
      · rintro _ ⟨⟩
        exact ⟨rfl, rfl⟩
      · have definition := Command.definition_eq_of_query listed otherListed same.symm advanced
        rw [← same]
        exact understood other otherListed (congrArg CommandDefinition.name definition.symm)

/-- Whatever a valid dispatcher answers is an answer. -/
theorem answered (valid : d.Valid) (answered : (d.dispatch packet).1 = .ok (some packets)) :
    ∃ answer : ResponsePackets, answer.toList = packets ∧ d.AnswerOf packet answer := by
  have rule := dispatched valid packet
  rw [answered] at rule
  generalize (d.dispatch packet).2.1 = after, (d.dispatch packet).2.2 = effects at rule
  cases rule with
  | switch known switch _ =>
      have recognition := Command.recognition packet (some d.model)
      rw [known] at recognition
      cases recognition with
      | known _ listed =>
          exact ⟨_, rfl, answerOf_operation known (Command.isAdvanced_of_switch listed switch)⟩
  | acknowledge known operation _ => exact ⟨_, rfl, answerOf_operation known operation⟩
  | status fits whole known named found =>
      refine ⟨_, rfl, answerOf_query fits whole known
        (fun listed => (Command.status_of_name listed named).1) fun other listed same => ?_⟩
      exact understood_status valid.state listed (same.trans named) found fits whole
  | model fits whole known named =>
      refine ⟨_, rfl, answerOf_query fits whole known
        (fun listed => (Command.model_of_name listed named).1) fun other listed same => ?_⟩
      exact understood_model valid.model listed (same.trans named) fits whole

/-- No request changes the model. -/
theorem Step.model_eq {after : Dispatcher} {request : Request} {effects : List DispatchEffect}
    (step : d.Step request after effects) : after.model = d.model := by
  cases step with
  | switch | serve | forcePower | forceField | refuseForce | tell | complete | settled | stale
  | stop => rfl

theorem Valid.model_run (valid : d.Valid) (requests : List Request) :
    (d.run requests).model = d.model := by
  induction requests generalizing d with
  | nil => rfl
  | cons request later ih =>
      have step := step_handle valid request
      exact (ih (step.valid valid)).trans step.model_eq

/-- The client and the projector agree on every exchange.  Whatever was asked of the projector
before, if it answers a packet, then the bytes of its response are decoded completely in any
chunks.  The transport accepts them as the answer to the packet and is then as it was before.
And as whatever command a client recognizes the packet, with or without a model, the packets are
a response to it and report what the projector holds. -/
theorem exchange_agrees {config : EmulatorConfig} {d : Dispatcher}
    (accepted : ofConfig config = .ok d) (requests : List Request)
    {packet : Packet} {packets : List Packet}
    (answered : ((d.run requests).dispatch packet).1 = .ok (some packets))
    {chunks : List Bytes} (written : chunks.flatten = packets.flatMap Packet.bytes)
    {t : StreamTransport} (idle : t.Idle {}) :
    ({} : Decoder).readChunks chunks = ⟨packets, none, []⟩ ∧
      ∃ answer : ResponsePackets, answer.toList = packets ∧
        t.run (StreamTransport.exchangeEvents packet chunks) =
          (t, .send packet.bytes :: packets.map .received ++ [.answer (.ok answer)]) ∧
        ∃ model, Model.find config.model = .ok model ∧
          ∀ client : Option Model, ∃ command, Command.ofPacket packet client = .ok command ∧
            Understood (d.run requests).state model answer command := by
  obtain ⟨model, state, found, -, rfl⟩ := ofConfig_eq_ok accepted
  have valid := valid_run accepted requests
  have same := (valid_ofConfig accepted).model_run requests
  obtain ⟨answer, rfl, answers⟩ := Dispatcher.answered valid answered
  refine ⟨Decoder.readChunks_packets written, answer, rfl,
    StreamTransport.run_exchange idle answers.fits written, model, found, ?_⟩
  intro client
  have recognition := Command.recognition packet client
  generalize known : Command.ofPacket packet client = result at recognition
  cases recognition with
  | known whole listed =>
      have understood := answers.understood _ whole listed
      rw [same] at understood
      exact ⟨_, rfl, understood⟩
  | unknown missing =>
      obtain ⟨definition, listed, recognized⟩ := answers.recognized
      rw [missing definition listed] at recognized
      cases recognized

/-- The query for the power state. -/
def powerQuery : Packet :=
  ⟨.advancedCommand, .ofChars 'P' 'W', [], by decide, by decide, by decide⟩

/-- The answer to it while the lamp warms up, in three chunks. -/
def warmingChunks : List Bytes :=
  [[0x06, 0x89], [0x01, 0x50, 0x57, 0x0A, 0x40, 0x89, 0x01, 0x50, 0x57], [0x33, 0x0A]]

theorem exchange_agrees_warming :
    let on : Packet := ⟨.basicCommand, .ofChars 'P' 'W', [0x31], by decide, by decide, by decide⟩
    let t : StreamTransport := ⟨.v4 ⟨127, 0, 0, 1⟩ 20554, .ofSeconds 2, some {}, none, none⟩
    ∃ d packets, ofConfig {} = .ok d ∧
      ((d.run [.packet 1 on]).dispatch powerQuery).1 = .ok (some packets) ∧
      warmingChunks.flatten = packets.flatMap Packet.bytes ∧ t.Idle {} ∧
      ({} : Decoder).readChunks warmingChunks = ⟨packets, none, []⟩ ∧
      (t.run (StreamTransport.exchangeEvents powerQuery warmingChunks)).1 = t := by
  intro on t
  let packets :=
    [powerQuery.acknowledgement, powerQuery.answering [0x33] (by decide) (by decide)]
  have answered : ∃ d, ofConfig {} = .ok d ∧
      ((d.run [.packet 1 on]).dispatch powerQuery).1.toOption = some (some packets) :=
    ⟨_, rfl, by decide +kernel⟩
  obtain ⟨d, accepted, answered⟩ := answered
  have answered : ((d.run [.packet 1 on]).dispatch powerQuery).1 = .ok (some packets) := by
    cases outcome : ((d.run [.packet 1 on]).dispatch powerQuery).1 with
    | ok answer =>
        rw [outcome] at answered
        exact congrArg Except.ok (Option.some.inj answered)
    | error fault =>
        rw [outcome] at answered
        cases answered
  have idle : t.Idle {} := ⟨rfl, rfl, rfl⟩
  have written : warmingChunks.flatten = packets.flatMap Packet.bytes := by decide
  obtain ⟨read, answer, -, run, -⟩ := exchange_agrees accepted _ answered written idle
  exact ⟨d, _, accepted, answered, written, idle, read, congrArg Prod.fst run⟩

end Dispatcher

end ProjectorControl
