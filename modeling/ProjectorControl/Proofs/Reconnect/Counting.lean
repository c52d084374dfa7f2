import ProjectorControl.Proofs.Transport.Lawful

/-!
# Counting connections

How often a connector is called depends on all that has happened to the transport before.  To say
it, `Counted` counts the calls of a connector, and the connections that it makes keep a log.

Neither changes anything (`ReconnectTransport.exchange_plain`).
-/

namespace ProjectorControl

/-- A connector, and how often it was called. -/
structure Counted (κ : Type) where
  /-- The connector. -/
  connector : κ
  /-- The number of calls. -/
  calls : Nat := 0

variable {κ τ : Type}

instance [Connector κ τ] : Connector (Counted κ) (Logged τ) where
  connect now k :=
    let made := Connector.connect now k.connector
    ⟨made.result.map fun inner => ⟨inner, []⟩, made.latency, ⟨made.connector, k.calls + 1⟩⟩

namespace ReconnectTransport

/-- A transport whose connections are counted and logged, without the count and the logs. -/
def plain (t : ReconnectTransport (Counted κ) (Logged τ)) : ReconnectTransport κ τ where
  connector := t.connector.connector
  idleTimeout := t.idleTimeout
  made := t.made.map Logged.transport
  current := t.current
  idleTimer := t.idleTimer
  epoch := t.epoch
  terminal := t.terminal

theorem map_modify {α β : Type} {f : α → α} {g : β → β} {view : α → β}
    (same : ∀ a, view (f a) = g (view a)) (l : List α) (i : Nat) :
    (l.modify i f).map view = (l.map view).modify i g := by
  refine List.ext_getElem? fun j => ?_
  rw [List.getElem?_map, List.getElem?_modify, List.getElem?_modify, List.getElem?_map]
  split <;> cases l[j]? <;> simp [same]

/-- A change that cannot be seen. -/
theorem map_modify_of_same {α β : Type} {f : α → α} {view : α → β}
    (same : ∀ a, view (f a) = view a) (l : List α) (i : Nat) :
    (l.modify i f).map view = l.map view :=
  (map_modify (g := id) same l i).trans (List.modify_id ..)

variable (t : ReconnectTransport (Counted κ) (Logged τ))

theorem plain_modifyAt (i : Nat) {f : Logged τ → Logged τ} {g : τ → τ}
    (same : ∀ inner, (f inner).transport = g inner.transport) :
    (t.modifyAt i f).plain = t.plain.modifyAt i g := by
  unfold modifyAt plain
  rw [map_modify same]

theorem plain_arm (now : Moment) : (t.arm now).plain = t.plain.arm now := by
  obtain ⟨connector, idleTimeout, made, current, idleTimer, epoch, terminal⟩ := t
  cases current <;> rfl

theorem plain_armIfOpen (now : Moment) : (t.armIfOpen now).plain = t.plain.armIfOpen now := by
  obtain ⟨connector, idleTimeout, made, current, idleTimer, epoch, terminal⟩ := t
  cases terminal with
  | none => exact plain_arm _ now
  | some outcome => rfl

theorem plain_currentConnection? :
    t.plain.currentConnection? = t.currentConnection?.map Logged.transport := by
  unfold currentConnection? plain
  cases t.current with
  | none => rfl
  | some i => exact List.getElem?_map ..

theorem plain_expire (epoch : Nat) :
    t.plain.expire epoch = ((t.expire epoch).1, (t.expire epoch).2.plain) := by
  unfold expire
  change (if t.epoch = epoch then _ else _) = _
  split <;> rfl

variable [Transport τ]

theorem plain_isConnected : t.plain.isConnected = t.isConnected := by
  unfold isConnected
  rw [plain_currentConnection?]
  cases t.currentConnection? <;> rfl

theorem plain_takeLive : t.plain.takeLive = (t.takeLive.1, t.takeLive.2.plain) := by
  unfold takeLive
  rw [plain_isConnected]
  split <;> rfl

theorem plain_install (inner : Logged τ) (now : Moment) :
    t.plain.install inner.transport now =
      ((t.install inner now).1, (t.install inner now).2.plain) := by
  obtain ⟨connector, idleTimeout, made, current, idleTimer, epoch, terminal⟩ := t
  cases terminal with
  | none => simp [install, plain]
  | some outcome =>
      simp only [install, plain, List.map_append]
      rfl

theorem plain_closeTaken (taken : Option Nat) (now : Moment) :
    (t.closeTaken taken now).plain = t.plain.closeTaken taken now := by
  cases taken with
  | none => rfl
  | some i => exact t.plain_modifyAt i fun _ => rfl

/-- Lets the connections do what is due before a moment. -/
def elapse {κ : Type} (t : ReconnectTransport κ τ) (moment : Moment) : ReconnectTransport κ τ :=
  { t with made := t.made.map (Transport.advance moment) }

/-- Lets an idle timer expire at its moment. -/
def fire {κ : Type} (t : ReconnectTransport κ τ) (timer : IdleTimer) : ReconnectTransport κ τ :=
  let taken := (t.elapse timer.due).expire timer.epoch
  taken.2.closeTaken taken.1 timer.due

theorem advance_eq {κ : Type} (t : ReconnectTransport κ τ) (moment : Moment) :
    t.advance moment =
      (match t.idleTimer with
        | some timer => if timer.due < moment then t.fire timer else t
        | none => t).elapse moment :=
  rfl

theorem plain_elapse (moment : Moment) : (t.elapse moment).plain = t.plain.elapse moment := by
  unfold elapse plain
  simp only [List.map_map]
  rfl

theorem plain_fire (timer : IdleTimer) : (t.fire timer).plain = t.plain.fire timer := by
  unfold fire
  rw [plain_closeTaken, ← plain_elapse, plain_expire]

theorem plain_advance (moment : Moment) : (t.advance moment).plain = t.plain.advance moment := by
  rw [advance_eq, advance_eq, plain_elapse, show t.plain.idleTimer = t.idleTimer from rfl]
  cases t.idleTimer with
  | none => rfl
  | some timer =>
      dsimp only
      split
      next => rw [plain_fire]
      next => rfl

theorem plain_connection [Connector κ τ] (now : Moment) :
    t.plain.connection now none =
      ((t.connection now none).1, (t.connection now none).2.plain) := by
  unfold connection
  rw [plain_takeLive]
  cases t.takeLive with
  | mk taken t =>
  cases taken with
  | some i => rfl
  | none =>
      let made := Connector.connect now t.connector.connector
      have counted : Connector.connect now t.connector =
          ⟨made.result.map fun inner => (⟨inner, []⟩ : Logged τ), made.latency,
            ⟨made.connector, t.connector.calls + 1⟩⟩ := rfl
      dsimp only [interruptIn]
      rw [counted, show Connector.connect now t.plain.connector = made from rfl]
      cases result : made.result with
      | error fault => rfl
      | ok inner =>
          exact congrArg (fun done => ((done.1, made.latency), done.2))
            (plain_install { t with connector := ⟨made.connector, t.connector.calls + 1⟩ }
              ⟨inner, []⟩ (now + made.latency))

theorem plain_exchangeOn (i : Nat) (packet : Packet) (now : Moment) :
    t.plain.exchangeOn i packet now none =
      { t.exchangeOn i packet now none with
        transport := (t.exchangeOn i packet now none).transport.plain } := by
  unfold exchangeOn
  rw [show t.plain.made[i]? = t.made[i]?.map Logged.transport from List.getElem?_map ..]
  cases t.made[i]? with
  | none => rfl
  | some inner =>
      let done := Transport.exchange packet now none inner
      have kept : (t.modifyAt i fun _ => done.transport).plain =
          t.plain.modifyAt i fun _ => done.transport.transport :=
        t.plain_modifyAt i fun _ => rfl
      simp only [Option.map_some, Option.map_none, interruptIn]
      exact congrArg (Exchanged.mk done.answer done.latency) kept.symm

theorem exchange_of_ended {κ : Type} [Connector κ τ] {t : ReconnectTransport κ τ}
    {outcome : Outcome} (ended : t.terminal = some outcome) (packet : Packet) (now : Moment)
    (interruption : Option Interruption) :
    t.exchange packet now interruption = ⟨.error t.terminal.fault, 0, t⟩ := by
  unfold exchange
  rw [ended]

/-- Counting and logging change nothing. -/
theorem exchange_plain [Connector κ τ] (packet : Packet) (now : Moment) :
    t.plain.exchange packet now none =
      { t.exchange packet now none with
        transport := (t.exchange packet now none).transport.plain } := by
  cases terminal : t.terminal with
  | some outcome =>
      rw [exchange_of_ended (t := t) terminal, exchange_of_ended (t := t.plain) terminal]
      rfl
  | none =>
      have cancelled : (t.plain.advance now).cancelIdle = (t.advance now).cancelIdle.plain := by
        rw [← plain_advance]
        rfl
      unfold exchange
      rw [show t.plain.terminal = none from terminal, terminal, cancelled, plain_connection]
      cases (t.advance now).cancelIdle.connection now none with
      | mk found t =>
      obtain ⟨result, waited⟩ := found
      cases result with
      | error fault => simp only [plain_armIfOpen]
      | ok i => simp only [plain_exchangeOn, plain_armIfOpen]

end ReconnectTransport

end ProjectorControl
