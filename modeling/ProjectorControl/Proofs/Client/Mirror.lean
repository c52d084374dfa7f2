import ProjectorControl.Proofs.Client.PowerSafety
import ProjectorControl.Proofs.Command.Answering
import ProjectorControl.Proofs.Transport.Mirror

/-!
# Switching off is switching on in the mirror

The two procedures are written out one by one, and each names its states and its command.  Against
a projector and its mirror image they do the same at the same moments, whatever comes back.

`Call.Mirrors` says this of two calls: if they begin with clients that are images of each other,
they leave such clients, and their results are each other's images.  It holds of an exchange, of one
call after another, and of the loop that waits for the lamp, and so of all that switching is made
of.
-/

namespace ProjectorControl

/-! ## Results -/

namespace PowerGoal

/-- A goal in the mirror. -/
def mirrored : PowerGoal → PowerGoal
  | on => off
  | off => on

/-- A failure in the mirror.  Most failures are their own images; two have another wording, because
it names the goal, the command, or packets. -/
inductive Reworded (goal : PowerGoal) : CallFailure → CallFailure → Prop where
  /-- The wording is the same. -/
  | same {failure} : Reworded goal failure failure
  /-- What came back does not fit what was sent. -/
  | violation {detail detail'} : Reworded goal
      (.fault (.protocolViolation detail)) (.fault (.protocolViolation detail'))
  /-- The lamp has not got where it should. -/
  | unexpected {state : PowerState} : Reworded goal
      (.fault (.unexpectedState s!"projector is {state.name} after {goal.attempt}"))
      (.fault (.unexpectedState
        s!"projector is {state.mirrored.name} after {goal.mirrored.attempt}"))

/-- A result in the mirror, where results that are no failures are related. -/
inductive Reflects (goal : PowerGoal) {α β : Type} (related : α → β → Prop) :
    Except CallFailure α → Except CallFailure β → Prop where
  | ok {a b} : related a b → Reflects goal related (.ok a) (.ok b)
  | error {failure failure'} : goal.Reworded failure failure' →
      Reflects goal related (.error failure) (.error failure')

theorem Reflects.exists_of_ok {goal : PowerGoal} {α β : Type} {related : α → β → Prop}
    {r : Except Error α} {r' : Except Error β} {a : α}
    (same : goal.Reflects related (r.mapError .fault) (r'.mapError .fault)) (told : r = .ok a) :
    ∃ b, r' = .ok b ∧ related a b := by
  subst told
  cases r' with
  | error fault => cases same
  | ok b =>
      cases same with
      | ok same => exact ⟨b, rfl, same⟩

end PowerGoal

/-! ## Calls -/

/-- Clients whose transports are images of each other. -/
structure Client.Image {τ τ' : Type} (image : τ → τ' → Prop) (c : Client τ) (c' : Client τ') :
    Prop where
  transport : image c.transport c'.transport
  stablePowerTimeout : c'.stablePowerTimeout = c.stablePowerTimeout
  now : c'.now = c.now

theorem Client.Image.sleep {τ τ' : Type} [Transport τ] [Transport τ'] {image : τ → τ' → Prop}
    {c : Client τ} {c' : Client τ'} (alike : c.Image image c') (faithful : Reflection image)
    (nanos : Nat) : (Call.sleep nanos c).2.Image image (Call.sleep nanos c').2 := by
  unfold Call.sleep
  dsimp only
  rw [alike.now]
  exact ⟨faithful.advance alike.transport _, alike.stablePowerTimeout, rfl⟩

namespace Call

variable {τ τ' α α' β β' : Type}

/-- Two calls that do the same in the mirror. -/
def Mirrors (goal : PowerGoal) (image : τ → τ' → Prop) (related : α → α' → Prop)
    (call : Call τ α) (call' : Call τ' α') : Prop :=
  ∀ c c', c.Image image c' →
    (call c).2.Image image (call' c').2 ∧ goal.Reflects related (call c).1 (call' c').1

namespace Mirrors

variable {goal : PowerGoal} {image : τ → τ' → Prop} {related : α → α' → Prop}
  {later : β → β' → Prop}

theorem result {a : α} {a' : α'} (same : related a a') :
    Mirrors goal image related (Call.result a) (Call.result a') :=
  fun _ _ alike => ⟨alike, .ok same⟩

theorem ofExcept {r : Except Error α} {r' : Except Error α'}
    (same : goal.Reflects related (r.mapError .fault) (r'.mapError .fault)) :
    Mirrors goal image related (Call.ofExcept r) (Call.ofExcept r') := by
  intro c c' alike
  rw [ofExcept_eq, ofExcept_eq]
  exact ⟨alike, same⟩

theorem of_ok {call : Call τ α} {call' : Call τ' α'} {c left : Client τ} {c' : Client τ'} {a : α}
    (mirrors : Mirrors goal image related call call') (alike : c.Image image c')
    (ran : call c = (.ok a, left)) :
    ∃ a' left', call' c' = (.ok a', left') ∧ related a a' ∧ left.Image image left' := by
  obtain ⟨again, same⟩ := mirrors c c' alike
  rw [ran] at again same
  generalize call' c' = done at again same
  obtain ⟨r, left'⟩ := done
  cases same with
  | ok same => exact ⟨_, left', rfl, same, again⟩

theorem of_error {call : Call τ α} {call' : Call τ' α'} {c left : Client τ} {c' : Client τ'}
    {failure : CallFailure} (mirrors : Mirrors goal image related call call')
    (alike : c.Image image c') (ran : call c = (.error failure, left)) :
    ∃ failure' left', call' c' = (.error failure', left') ∧ goal.Reworded failure failure' ∧
      left.Image image left' := by
  obtain ⟨again, same⟩ := mirrors c c' alike
  rw [ran] at again same
  generalize call' c' = done at again same
  obtain ⟨r, left'⟩ := done
  cases same with
  | error same => exact ⟨_, left', rfl, same, again⟩

theorem andThen {call : Call τ α} {call' : Call τ' α'} {next : α → Call τ β}
    {next' : α' → Call τ' β'} (first : Mirrors goal image related call call')
    (after : ∀ a a', related a a' → Mirrors goal image later (next a) (next' a')) :
    Mirrors goal image later (call.andThen next) (call'.andThen next') := by
  intro c c' alike
  cases ran : call c with
  | mk r left =>
      cases r with
      | ok a =>
          obtain ⟨a', left', ran', same, again⟩ := first.of_ok alike ran
          rw [andThen_of_ok ran, andThen_of_ok ran']
          exact after a a' same left left' again
      | error failure =>
          obtain ⟨failure', left', ran', same, again⟩ := first.of_error alike ran
          rw [andThen_of_error ran, andThen_of_error ran']
          exact ⟨again, .error same⟩

theorem ite {p q : Prop} [Decidable p] [Decidable q] (same : p ↔ q) {yes no : Call τ α}
    {yes' no' : Call τ' α'} (whenYes : Mirrors goal image related yes yes')
    (whenNo : Mirrors goal image related no no') :
    Mirrors goal image related (if p then yes else no) (if q then yes' else no') := by
  by_cases holds : p
  · rw [if_pos holds, if_pos (same.mp holds)]
    exact whenYes
  · rw [if_neg holds, if_neg fun holds' => holds (same.mpr holds')]
    exact whenNo

variable [Transport τ] [Transport τ']

/-- An exchange, with the packet in the mirror. -/
theorem exchange (faithful : Reflection image) {packet : Packet}
    (power : packet.code = Packet.powerCode) :
    Mirrors goal image (fun packets packets' => packets' = packets.mirrored)
      (Call.exchange packet) (Call.exchange packet.mirrored) := by
  rintro c c' ⟨transport, timeout, now⟩
  obtain ⟨left, again, answered⟩ := faithful.exchange transport packet power c.now
  unfold Call.exchange
  dsimp only
  rw [now, answered]
  refine ⟨⟨again, timeout, rfl⟩, ?_⟩
  cases (Transport.exchange packet c.now none c.transport).answer with
  | ok packets => exact .ok rfl
  | error fault => exact .error .same

end Mirrors

end Call

/-! ## Commands and their answers -/

/-- A command about the lamp, and the one that is sent for it in the mirror. -/
structure Command.Image (command command' : Command) : Prop where
  power : command.code = Packet.powerCode
  packet : command'.packet = command.packet.mirrored
  responseLength : command'.responseLength? = command.responseLength?
  name_ne : command.name ≠ Call.modelQueryName ∧ command'.name ≠ Call.modelQueryName

/-- Responses to two commands, the second one in the mirror. -/
structure Response.Image (command command' : Command) (r r' : Response) : Prop where
  command : r.command = command ∧ r'.command = command'
  payload : r'.payload = PowerState.mirroredPayload r.payload

namespace Command.Image

variable {command command' : Command}

theorem code (alike : command.Image command') : command'.code = command.code := by
  rw [Command.code, alike.packet, Packet.code_mirrored]
  rfl

theorem isAdvanced (alike : command.Image command') :
    command'.isAdvanced = command.isAdvanced := by
  rw [Command.isAdvanced, alike.packet, Packet.kind_mirrored]
  rfl

/-- An acknowledgement that is refused is refused in the mirror. -/
theorem basicFault? (alike : command.Image command') (basic : Packet) :
    Response.basicFault? command' basic.mirrored = none ↔
      Response.basicFault? command basic = none := by
  have payload : basic.mirrored.payload = [] ↔ basic.payload = [] := by
    rw [← List.length_eq_zero_iff, Packet.length_payload_mirrored, List.length_eq_zero_iff]
  unfold Response.basicFault?
  rw [Packet.kind_mirrored, Packet.code_mirrored, alike.code]
  split
  next => exact iff_of_false nofun nofun
  next =>
    split
    next => exact iff_of_false nofun nofun
    next =>
      by_cases empty : basic.payload = []
      · rw [if_neg (not_not_intro empty), if_neg (not_not_intro (payload.mpr empty))]
      · rw [if_pos empty, if_pos fun empty' => empty (payload.mp empty')]
        exact iff_of_false nofun nofun

/-- An answer that is refused is refused in the mirror. -/
theorem advancedFault? (alike : command.Image command') (advanced : Option Packet) :
    Response.advancedFault? command' (advanced.map Packet.mirrored) = none ↔
      Response.advancedFault? command advanced = none := by
  unfold Response.advancedFault?
  rw [alike.isAdvanced]
  cases advanced with
  | none => cases command.isAdvanced <;> simp
  | some packet =>
      cases command.isAdvanced with
      | false => simp
      | true =>
          dsimp only [Option.map_some]
          rw [Packet.kind_mirrored, Packet.code_mirrored, alike.code, alike.responseLength,
            Packet.length_payload_mirrored]
          split
          next => exact iff_of_false nofun nofun
          next =>
            split
            next => exact iff_of_false nofun nofun
            next =>
              cases command.responseLength? with
              | none => exact Iff.rfl
              | some expected =>
                  dsimp only
                  split
                  next => exact iff_of_false nofun nofun
                  next => exact Iff.rfl

/-- The packets that make up a response make one up in the mirror. -/
theorem payload_mirrored (alike : command.Image command') {advanced : Option Packet}
    (sound : Response.advancedFault? command advanced = none) (basic : Packet) :
    Response.payload ⟨command', basic.mirrored, advanced.map Packet.mirrored⟩ =
      PowerState.mirroredPayload (Response.payload ⟨command, basic, advanced⟩) := by
  cases advanced with
  | none => rfl
  | some packet =>
      cases query : command.isAdvanced with
      | false => simp [Response.advancedFault?, query] at sound
      | true =>
          obtain ⟨-, code, -⟩ := Response.of_advancedFault? query sound
          exact Packet.payload_mirrored (code.trans alike.power)

theorem toResponse (alike : command.Image command') (goal : PowerGoal)
    (packets : ResponsePackets) :
    goal.Reflects (Response.Image command command')
      ((packets.toResponse command).mapError .fault)
      ((packets.mirrored.toResponse command').mapError .fault) := by
  obtain ⟨basic, advanced⟩ := packets
  have basicAlike := alike.basicFault? basic
  have advancedAlike := alike.advancedFault? advanced
  unfold ResponsePackets.toResponse Response.ofPackets
  dsimp only [ResponsePackets.mirrored]
  cases basicSound : Response.basicFault? command basic with
  | some detail =>
      cases basicSound' : Response.basicFault? command' basic.mirrored with
      | some detail' => exact .error .violation
      | none => simp_all
  | none =>
      rw [basicAlike.mpr basicSound]
      cases advancedSound : Response.advancedFault? command advanced with
      | some detail =>
          cases advancedSound' :
              Response.advancedFault? command' (advanced.map Packet.mirrored) with
          | some detail' => exact .error .violation
          | none => simp_all
      | none =>
          rw [advancedAlike.mpr advancedSound]
          exact .ok ⟨⟨rfl, rfl⟩, alike.payload_mirrored advancedSound basic⟩

end Command.Image

namespace Call.Mirrors

variable {τ τ' : Type} [Transport τ] [Transport τ'] {goal : PowerGoal} {image : τ → τ' → Prop}
  {command command' : Command} {name name' : String}

theorem transact (faithful : Reflection image) (alike : command.Image command') :
    Mirrors goal image (Response.Image command command') (Call.transact command)
      (Call.transact command') := by
  unfold Call.transact
  rw [alike.packet]
  refine andThen (exchange faithful alike.power) fun packets packets' same => ?_
  subst same
  refine andThen (ofExcept (alike.toResponse goal packets)) fun response response' told => ?_
  dsimp only
  rw [if_neg alike.name_ne.1, if_neg alike.name_ne.2]
  exact result told

theorem transactByName (faithful : Reflection image) (alike : command.Image command')
    (named : Command.ofName name [] = .ok command)
    (named' : Command.ofName name' [] = .ok command') :
    Mirrors goal image (Response.Image command command') (Call.transactByName name [])
      (Call.transactByName name' []) := by
  unfold Call.transactByName
  rw [named, named']
  exact transact faithful alike

end Call.Mirrors

/-! ## The query for the power state -/

theorem StatusField.get?_power (payload : Bytes) :
    power.responses.get? payload = (PowerState.ofPayload? payload).map PowerState.name := by
  have entries : power.responses.entries =
      PowerState.all.map fun state => (state.payload, state.name) := by decide +kernel
  unfold ResponseMap.get? PowerState.ofPayload?
  rw [entries, List.find?_map, Option.map_map]
  rfl

namespace Call

/-- The query is its own image. -/
theorem exists_powerQuery :
    ∃ query, Command.ofName StatusField.power.queryName [] = .ok query ∧ query.Image query ∧
      query.definition.responses? = some StatusField.power.responses :=
  ⟨_, rfl, ⟨by decide, by decide, rfl, by decide⟩, by decide +kernel⟩

/-- The command that switches the lamp off is the image of the one that switches it on. -/
theorem exists_switchCommands (goal : PowerGoal) :
    ∃ command command', Command.ofName goal.commandName [] = .ok command ∧
      Command.ofName goal.mirrored.commandName [] = .ok command' ∧ command.Image command' := by
  cases goal
  all_goals exact ⟨_, _, rfl, rfl, ⟨by decide, by decide, rfl, by decide⟩⟩

theorem powerOfResponse_eq {r : Response}
    (answers : r.command.definition.responses? = some StatusField.power.responses) :
    powerOfResponse r =
      match PowerState.ofPayload? r.payload with
      | some state => .ok state
      | none => .error (.unexpectedState s!"unknown power status payload {r.payload.hex}") := by
  unfold powerOfResponse Response.text? CommandDefinition.responseText?
  rw [answers, Option.bind_some, StatusField.get?_power]
  cases PowerState.ofPayload? r.payload with
  | none => rfl
  | some state =>
      dsimp only [Option.map_some]
      rw [PowerState.ofName, PowerState.ofName?_name]

/-- What an answer reports in the mirror. -/
theorem reflects_powerOfResponse (goal : PowerGoal) {query : Command} {r r' : Response}
    (answers : query.definition.responses? = some StatusField.power.responses)
    (alike : Response.Image query query r r') :
    goal.Reflects PowerState.Image ((powerOfResponse r).mapError .fault)
      ((powerOfResponse r').mapError .fault) := by
  obtain ⟨⟨rfl, sent⟩, payload⟩ := alike
  rw [powerOfResponse_eq answers, powerOfResponse_eq (sent ▸ answers), payload,
    PowerState.ofPayload?_mirroredPayload]
  cases found : PowerState.ofPayload? r.payload with
  | some state => exact .ok rfl
  | none =>
      rw [PowerState.mirroredPayload_of_none found]
      exact .error .same

end Call

/-! ## Switching -/

theorem PowerGoal.reflects_verdict (goal : PowerGoal) (last : PowerState) :
    goal.Reflects PowerState.Image ((goal.verdict last).mapError .fault)
      ((goal.mirrored.verdict last.mirrored).mapError .fault) := by
  cases goal <;> cases last
  all_goals first | exact .ok rfl | exact .error .same | exact .error .unexpected

namespace Call.Mirrors

variable {τ τ' : Type} [Transport τ] [Transport τ'] {goal : PowerGoal} {image : τ → τ' → Prop}

theorem powerStatus (faithful : Reflection image) :
    Mirrors goal image PowerState.Image Call.powerStatus Call.powerStatus := by
  obtain ⟨query, named, alike, answers⟩ := exists_powerQuery
  exact andThen (transactByName faithful alike named named) fun _ _ same =>
    ofExcept (reflects_powerOfResponse goal answers same)

theorem waitUntil (faithful : Reflection image) (limit : Duration) (deadline : Moment) :
    Mirrors goal image PowerState.Image (Call.waitUntil limit deadline)
      (Call.waitUntil limit deadline) := by
  intro c c' alike
  have looks : Mirrors goal image PowerState.Image Call.powerStatus Call.powerStatus :=
    powerStatus faithful
  fun_induction Call.waitUntil limit deadline c generalizing c' with
  | case1 c failure left looked =>
      obtain ⟨failure', left', looked', same, again⟩ := looks.of_error alike looked
      rw [waitUntil_eq, looked']
      exact ⟨again, .error same⟩
  | case2 c state left looked settled =>
      obtain ⟨_, left', looked', rfl, again⟩ := looks.of_ok alike looked
      rw [waitUntil_eq, looked']
      dsimp only
      rw [PowerState.isTransitional_mirrored, if_pos settled]
      exact ⟨again, .ok rfl⟩
  | case3 c state left looked moving late =>
      obtain ⟨_, left', looked', rfl, again⟩ := looks.of_ok alike looked
      rw [waitUntil_eq, looked']
      dsimp only
      rw [PowerState.isTransitional_mirrored, if_neg moving, again.now, if_pos late]
      exact ⟨again, .error .same⟩
  | case4 c state left looked moving early ih =>
      obtain ⟨_, left', looked', rfl, again⟩ := looks.of_ok alike looked
      rw [waitUntil_eq _ _ c', looked']
      dsimp only
      rw [PowerState.isTransitional_mirrored, if_neg moving, again.now, if_neg early]
      exact ih _ (again.sleep faithful _)

theorem waitForStablePower (faithful : Reflection image) (limit : Option Duration) :
    Mirrors goal image PowerState.Image (Call.waitForStablePower limit)
      (Call.waitForStablePower limit) := by
  intro c c' alike
  unfold Call.waitForStablePower
  dsimp only
  rw [alike.stablePowerTimeout, alike.now]
  split
  next => exact ⟨alike, .error .same⟩
  next => exact waitUntil faithful _ _ c c' alike

theorem settle (faithful : Reflection image) (final : Bool) (limit : Option Duration)
    (first : PowerState) :
    Mirrors goal image PowerState.Image (goal.settle final limit first)
      (goal.mirrored.settle final limit first.mirrored) := by
  refine ite (or_congr ?_ (and_congr_left' ?_)) (waitForStablePower faithful limit) (result rfl)
  · cases goal <;> exact PowerState.mirrored_inj.symm
  · cases goal <;> exact PowerState.mirrored_inj.symm

theorem act (faithful : Reflection image) (final : Bool) (limit : Option Duration)
    (settled : PowerState) :
    Mirrors goal image PowerState.Image (goal.act final limit settled)
      (goal.mirrored.act final limit settled.mirrored) := by
  obtain ⟨command, command', named, named', alike⟩ := exists_switchCommands goal
  refine ite ?_ (andThen (transactByName faithful alike named named') fun _ _ _ => ?_) (result rfl)
  · cases goal <;> exact PowerState.mirrored_inj.symm
  · exact ite Iff.rfl (waitForStablePower faithful limit) (powerStatus faithful)

/-- Switching in the mirror is switching to the other goal. -/
theorem switch (faithful : Reflection image) (final : Bool) (limit : Option Duration) :
    Mirrors goal image PowerState.Image (goal.switch final limit)
      (goal.mirrored.switch final limit) := by
  refine andThen (powerStatus faithful) ?_
  rintro first _ rfl
  refine andThen (settle faithful final limit first) ?_
  rintro settled _ rfl
  refine andThen (act faithful final limit settled) ?_
  rintro last _ rfl
  exact ofExcept (goal.reflects_verdict last)

theorem call (faithful : Reflection image) (goal : PowerGoal) (final : Bool)
    (limit : Option Duration) :
    Mirrors goal image PowerState.Image (goal.call final limit)
      (goal.mirrored.call final limit) := by
  rw [goal.call_eq, goal.mirrored.call_eq]
  exact switch faithful final limit

end Call.Mirrors

namespace LoggedExchange

variable {e : LoggedExchange}

theorem carries_mirrored {name name' : String} {command command' : Command}
    (named : Command.ofName name [] = .ok command)
    (named' : Command.ofName name' [] = .ok command') (alike : command.Image command') :
    e.mirrored.Carries name' ↔ e.Carries name := by
  constructor
  · rintro ⟨other, found, same⟩
    cases named'.symm.trans found
    refine ⟨command, named, ?_⟩
    rw [← command.packet.mirrored_mirrored, ← alike.packet, same]
    exact e.packet.mirrored_mirrored
  · rintro ⟨other, found, same⟩
    cases named.symm.trans found
    exact ⟨command', named', alike.packet.trans (congrArg Packet.mirrored same)⟩

/-- A query for the power state is one in the mirror. -/
theorem asks_mirrored : e.mirrored.Asks ↔ e.Asks := by
  obtain ⟨query, named, alike, -⟩ := Call.exists_powerQuery
  exact carries_mirrored named named alike

/-- A command to switch is one to switch to the other goal. -/
theorem commands_mirrored (goal : PowerGoal) :
    e.mirrored.Commands goal.mirrored ↔ e.Commands goal := by
  obtain ⟨command, command', named, named', alike⟩ := Call.exists_switchCommands goal
  exact carries_mirrored named named' alike

theorem mirrored_mirrored (e : LoggedExchange) : e.mirrored.mirrored = e := by
  obtain ⟨packet, moment, latency, answer⟩ := e
  unfold mirrored
  dsimp only
  rw [Packet.mirrored_mirrored]
  cases answer with
  | error fault => rfl
  | ok packets =>
      obtain ⟨basic, advanced⟩ := packets
      cases advanced <;> simp [Except.map, ResponsePackets.mirrored]

theorem Reports.mirrored {state : PowerState} (reports : e.Reports state) :
    e.mirrored.Reports state.mirrored := by
  refine ⟨asks_mirrored.mpr reports.asks, ?_⟩
  obtain ⟨query, named, alike, answers⟩ := Call.exists_powerQuery
  have told := reports.told
  unfold powerState response at told ⊢
  rw [named] at told ⊢
  cases answer : e.answer with
  | error fault => rw [answer] at told; cases told
  | ok packets =>
      rw [answer] at told
      rw [show e.mirrored.answer = .ok packets.mirrored from congrArg (Except.map _) answer]
      simp only [Bind.bind, Except.bind] at told ⊢
      cases made : packets.toResponse query with
      | error fault => rw [made] at told; cases told
      | ok r =>
          rw [made] at told
          obtain ⟨r', made', same⟩ := (alike.toResponse .on packets).exists_of_ok made
          obtain ⟨_, told', rfl⟩ :=
            (Call.reflects_powerOfResponse .on answers same).exists_of_ok told
          rw [made']
          exact told'

/-- A report of a state is one of the mirrored state. -/
theorem reports_mirrored {state : PowerState} :
    e.mirrored.Reports state.mirrored ↔ e.Reports state := by
  refine ⟨fun reports => ?_, Reports.mirrored⟩
  rw [← e.mirrored_mirrored, ← state.mirrored_mirrored]
  exact reports.mirrored

end LoggedExchange

/-- A client of the mirrored projector. -/
def Client.mirrored {τ : Type} (c : Client τ) : Client (Mirrored τ) where
  transport := ⟨c.transport⟩
  model := c.model
  stablePowerTimeout := c.stablePowerTimeout
  now := c.now

namespace Call

/-- Switching the lamp off is the mirror image of switching it on, on any transport and from any
moment: what is sent when the mirrored projector is switched on is the image of what is sent when
the projector is switched off, at the same moments, and so is what the caller is told.  The image of
a command to switch off is one to switch on, and that of a report is one of the mirrored state. -/
theorem powerOff_mirrors {τ : Type} [Transport τ] (final : Bool) (limit : Option Duration)
    (c : Client τ) :
    let off := powerOff final limit c.logged
    let on := powerOn final limit c.mirrored.logged
    powerOff final limit c = (off.1, off.2.unlogged) ∧
    powerOn final limit c.mirrored = (on.1, on.2.unlogged) ∧
    on.2.transport.log = off.2.transport.log.map LoggedExchange.mirrored ∧
    (∀ e ∈ off.2.transport.log, (e.mirrored.Commands .on ↔ e.Commands .off) ∧
      ∀ state : PowerState, e.mirrored.Reports state.mirrored ↔ e.Reports state) ∧
    on.2.now = off.2.now ∧
    PowerGoal.off.Reflects PowerState.Image off.1 on.1 := by
  have alike : c.logged.Image
      (Logged.Image fun t (image : Mirrored τ) => image = ⟨t⟩) c.mirrored.logged :=
    ⟨⟨rfl, rfl⟩, rfl, rfl⟩
  obtain ⟨left, same⟩ := Mirrors.call Mirrored.reflection.logged .off final limit _ _ alike
  exact ⟨(switch_sound .off final limit c).1, (switch_sound .on final limit c.mirrored).1,
    left.transport.log,
    fun _ _ => ⟨LoggedExchange.commands_mirrored .off, fun _ => LoggedExchange.reports_mirrored⟩,
    left.now, same⟩

end Call

end ProjectorControl
