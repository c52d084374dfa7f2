import ProjectorControl.Client.Power
import ProjectorControl.Proofs.Transport.Log

/-!
# Clients that keep a log

A client whose transport keeps a log does what it does without one.  `Call.SameLogged` says this
of a call, and it holds of whatever a call is made of: of an exchange, of a step that has nothing
to do with the transport, of one call after another, and of the loop that waits for the lamp.

`Call.transactByName_logged` says what carrying out a command adds to the log: one exchange, of
the command's packet, and its answer decides what the caller is told.
-/

namespace ProjectorControl

variable {τ α β : Type}

/-- A client that begins to keep a log. -/
def Client.logged (c : Client τ) : Client (Logged τ) where
  transport := ⟨c.transport, []⟩
  model := c.model
  stablePowerTimeout := c.stablePowerTimeout
  now := c.now

/-- The client without its log. -/
def Client.unlogged (c : Client (Logged τ)) : Client τ where
  transport := c.transport.transport
  model := c.model
  stablePowerTimeout := c.stablePowerTimeout
  now := c.now

namespace Call

/-- Two calls that differ in the log only. -/
def SameLogged (logged : Call (Logged τ) α) (call : Call τ α) : Prop :=
  ∀ c, call c.unlogged = ((logged c).1, (logged c).2.unlogged)

namespace SameLogged

theorem result (a : α) : SameLogged (Call.result a : Call (Logged τ) α) (Call.result a) :=
  fun _ => rfl

theorem fail (fault : Error) :
    SameLogged (Call.fail fault : Call (Logged τ) α) (Call.fail fault) :=
  fun _ => rfl

theorem ofExcept (r : Except Error α) :
    SameLogged (Call.ofExcept r : Call (Logged τ) α) (Call.ofExcept r) := by
  cases r with
  | ok a => exact result a
  | error fault => exact fail fault

theorem andThen {logged : Call (Logged τ) α} {call : Call τ α}
    {loggedNext : α → Call (Logged τ) β} {next : α → Call τ β} (first : SameLogged logged call)
    (later : ∀ a, SameLogged (loggedNext a) (next a)) :
    SameLogged (logged.andThen loggedNext) (call.andThen next) := by
  intro c
  unfold Call.andThen
  rw [first c]
  generalize logged c = ran
  obtain ⟨r, c'⟩ := ran
  cases r with
  | ok a => exact later a c'
  | error failure => rfl

theorem learn (model : Option Model) :
    SameLogged (Call.learn model : Call (Logged τ) Unit) (Call.learn model) :=
  fun _ => rfl

variable [Transport τ]

theorem sleep (nanos : Nat) :
    SameLogged (Call.sleep nanos : Call (Logged τ) Unit) (Call.sleep nanos) :=
  fun _ => rfl

theorem exchange (packet : Packet) :
    SameLogged (Call.exchange packet : Call (Logged τ) ResponsePackets) (Call.exchange packet) :=
  fun _ => rfl

theorem transact (command : Command) :
    SameLogged (Call.transact command : Call (Logged τ) Response) (Call.transact command) := by
  refine andThen (exchange _) fun packets => andThen (ofExcept _) fun response => ?_
  dsimp only
  split
  · exact andThen (learn _) fun _ => result _
  · exact result _

theorem transactByName (name : String) (payload : Bytes) :
    SameLogged (Call.transactByName name payload : Call (Logged τ) Response)
      (Call.transactByName name payload) :=
  andThen (ofExcept _) fun command => transact command

theorem powerStatus :
    SameLogged (Call.powerStatus : Call (Logged τ) PowerState) Call.powerStatus :=
  andThen (transactByName _ _) fun _ => ofExcept _

end SameLogged

variable [Transport τ]

/-- What comes of one round of the loop that waits for the lamp. -/
theorem waitUntil_eq (limit : Duration) (deadline : Moment) (c : Client τ) :
    Call.waitUntil limit deadline c =
      match Call.powerStatus c with
      | (.error failure, c') => (.error failure, c')
      | (.ok state, c') =>
        if !state.isTransitional then (.ok state, c')
        else if deadline ≤ c'.now then (.error (.fault (unsettled limit)), c')
        else
          Call.waitUntil limit deadline
            (Call.sleep (min powerPollInterval.nanos (deadline - c'.now)) c').2 := by
  rw [waitUntil]
  split
  next looked => rw [looked]
  next looked => rw [looked]

namespace SameLogged

theorem waitUntil (limit : Duration) (deadline : Moment) :
    SameLogged (Call.waitUntil limit deadline : Call (Logged τ) PowerState)
      (Call.waitUntil limit deadline) := by
  intro c
  fun_induction Call.waitUntil limit deadline c with
  | case1 c failure c' looked => rw [waitUntil_eq, powerStatus c, looked]
  | case2 c state c' looked settled =>
      rw [waitUntil_eq, powerStatus c, looked]
      exact if_pos settled
  | case3 c state c' looked moving late =>
      rw [waitUntil_eq, powerStatus c, looked]
      exact (if_neg moving).trans (if_pos late)
  | case4 c state c' looked moving early ih =>
      rw [waitUntil_eq, powerStatus c, looked]
      exact ((if_neg moving).trans (if_neg early)).trans ih

theorem waitForStablePower (limit : Option Duration) :
    SameLogged (Call.waitForStablePower limit : Call (Logged τ) PowerState)
      (Call.waitForStablePower limit) := by
  intro c
  unfold Call.waitForStablePower
  dsimp only [Client.unlogged]
  split
  next => rfl
  next => exact waitUntil _ _ c

end SameLogged

end Call

/-! ## What is logged -/

namespace LoggedExchange

/-- The packet is that of the command of a name. -/
def Carries (e : LoggedExchange) (name : String) : Prop :=
  ∃ command, Command.ofName name [] = .ok command ∧ command.packet = e.packet

/-- What came of the exchange, for a client that has sent the command of a name. -/
def response (e : LoggedExchange) (name : String) : Except Error Response := do
  let command ← Command.ofName name []
  let packets ← e.answer
  packets.toResponse command

end LoggedExchange

/-- The exchanges that a client has logged between two moments. -/
structure Client.Logs (c : Client (Logged τ)) (exchanges : List LoggedExchange)
    (c' : Client (Logged τ)) : Prop where
  log : c'.transport.log = c.transport.log ++ exchanges
  stablePowerTimeout : c'.stablePowerTimeout = c.stablePowerTimeout

namespace Client.Logs

variable {c c' c'' : Client (Logged τ)} {exchanges more : List LoggedExchange}

theorem refl (c : Client (Logged τ)) : c.Logs [] c := ⟨(List.append_nil _).symm, rfl⟩

theorem trans (first : c.Logs exchanges c') (later : c'.Logs more c'') :
    c.Logs (exchanges ++ more) c'' where
  log := by rw [later.log, first.log, List.append_assoc]
  stablePowerTimeout := later.stablePowerTimeout.trans first.stablePowerTimeout

end Client.Logs

namespace Call

variable [Transport τ]

/-- What comes of a command: one exchange, and what its packets say. -/
theorem transact_eq (command : Command) (c : Client τ) :
    ∃ model, transact command c =
      let done := Transport.exchange command.packet c.now none c.transport
      ((done.answer.bind (·.toResponse command)).mapError .fault,
        { c with transport := done.transport, now := c.now + done.latency, model := model }) := by
  change ∃ model, (exchange command.packet).andThen _ c = _
  unfold andThen exchange
  dsimp only
  generalize Transport.exchange command.packet c.now none c.transport = done
  obtain ⟨answer, latency, transport⟩ := done
  cases answer with
  | error fault => exact ⟨c.model, rfl⟩
  | ok packets =>
      dsimp only [Except.mapError, Except.bind]
      cases packets.toResponse command with
      | error fault => exact ⟨c.model, rfl⟩
      | ok response =>
          change ∃ model, (if command.name = modelQueryName then _ else _ : Call τ Response) _ = _
          split
          next => exact ⟨c.model <|> Model.ofStatusPayload? response.payload, rfl⟩
          next => exact ⟨c.model, rfl⟩

/-- Carrying out a command is one exchange, and its answer decides. -/
theorem transactByName_logged {name : String}
    (known : ∃ command, Command.ofName name [] = .ok command) (c : Client (Logged τ)) :
    ∃ e c', e.Carries name ∧ e.moment = c.now ∧ c.Logs [e] c' ∧ c'.now = e.finished ∧
      transactByName name [] c = ((e.response name).mapError .fault, c') := by
  obtain ⟨command, known⟩ := known
  obtain ⟨model, carried⟩ := transact_eq command c
  let done := Transport.exchange command.packet c.now none c.transport.transport
  let e : LoggedExchange := ⟨command.packet, c.now, done.latency, done.answer⟩
  refine ⟨e, { c with
    transport := ⟨done.transport, c.transport.log ++ [e]⟩
    now := c.now + done.latency
    model := model }, ⟨command, known, rfl⟩, rfl, ⟨rfl, rfl⟩, rfl, ?_⟩
  unfold transactByName LoggedExchange.response
  rw [known]
  exact carried

end Call

end ProjectorControl
