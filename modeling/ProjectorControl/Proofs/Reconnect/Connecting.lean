import ProjectorControl.Proofs.Reconnect.Counting

/-!
# When a transport connects

Between two exchanges a transport rests (`ReconnectTransport.Resting`).  Either it holds the last
connection that was made, and an idle timer runs from the end of the last exchange; or it holds
none, and the last one has ended.  Time passes without changing this, and an exchange leads from
one rest to the next in one of three ways (`ReconnectTransport.Served`): the connection is used
again, a new one is made, or none can be had.
-/

namespace ProjectorControl.ReconnectTransport

variable {κ τ : Type} [Transport τ]

/-! ## At rest -/

/-- The last connection that was made, if there is one, has ended. -/
def LastEnded (made : List τ) : Prop := ∀ inner, made.getLast? = some inner → Ended inner

/-- What a transport is like between exchanges, at a moment, when the last exchange was over at
another. -/
inductive Resting (t : ReconnectTransport κ τ) (last : Option Moment) (now : Moment) : Prop where
  /-- No connection is held. -/
  | unheld : t.current = none → t.idleTimer = none → LastEnded t.made → Resting t last now
  /-- The last connection is held, and the idle timer runs. -/
  | held {earlier inner finished} : t.made = earlier ++ [inner] → t.current = some earlier.length →
      last = some finished → t.idleTimer = some ⟨t.epoch, finished + t.idleTimeout.nanos⟩ →
      now ≤ finished + t.idleTimeout.nanos → Resting t last now

variable {t : ReconnectTransport κ τ} {last : Option Moment} {now : Moment}

theorem lastEnded_concat {earlier : List τ} {inner : τ} (ended : Ended inner) :
    LastEnded (earlier ++ [inner]) := by
  intro inner' same
  rw [List.getLast?_concat] at same
  cases same
  exact ended

theorem LastEnded.advance [LawfulTransport τ] {made : List τ} (ended : LastEnded made)
    (moment : Moment) : LastEnded (made.map (Transport.advance moment)) := by
  intro inner same
  rw [List.getLast?_map, Option.map_eq_some_iff] at same
  obtain ⟨before, same, rfl⟩ := same
  exact LawfulTransport.ended_advance moment before (ended before same)

theorem modify_append_cons {α : Type} (earlier : List α) (a : α) (later : List α) (f : α → α) :
    (earlier ++ a :: later).modify earlier.length f = earlier ++ f a :: later := by
  induction earlier with
  | nil => rfl
  | cons b earlier ih => exact congrArg (b :: ·) ih

/-- An idle timer closes the connection that is held. -/
theorem fire_eq {timer : IdleTimer} {earlier : List τ} {inner : τ}
    (made : t.made = earlier ++ [inner]) (current : t.current = some earlier.length)
    (epoch : timer.epoch = t.epoch) :
    t.fire timer =
      { t with
        made := earlier.map (Transport.advance timer.due) ++
          [Transport.shutdown .clean timer.due (Transport.advance timer.due inner)]
        current := none
        idleTimer := none } := by
  unfold fire expire elapse
  rw [if_pos epoch.symm, current]
  unfold closeTaken modifyAt
  simp only [made, List.map_append]
  rw [← List.length_map (Transport.advance timer.due), List.map_singleton, modify_append_cons]

/-- Passing time keeps a rest. -/
theorem Resting.advance [LawfulTransport τ] (resting : t.Resting last now) (moment : Moment) :
    (t.advance moment).Resting last moment := by
  rw [advance_eq]
  cases resting with
  | unheld current timer ended =>
      rw [timer]
      exact .unheld current timer (ended.advance moment)
  | @held earlier inner finished made current same timer early =>
      rw [timer]
      dsimp only
      split
      next due =>
        rw [fire_eq made current rfl]
        refine .unheld rfl rfl (LastEnded.advance (lastEnded_concat ?_) moment)
        exact LawfulTransport.ended_shutdown ..
      next early =>
        have made' : (t.elapse moment).made =
            earlier.map (Transport.advance moment) ++ [Transport.advance moment inner] := by
          simp only [elapse, made, List.map_append, List.map_singleton]
        refine .held made' ?_ same timer (Nat.le_of_not_lt early)
        rw [List.length_map]
        exact current

/-- A connection that is not used in time is closed. -/
theorem Resting.lastEnded_of_due [LawfulTransport τ] {finished moment : Moment}
    (resting : t.Resting (some finished) now) (due : finished + t.idleTimeout.nanos < moment) :
    LastEnded (t.advance moment).made := by
  rw [advance_eq]
  cases resting with
  | unheld current timer ended =>
      rw [timer]
      exact ended.advance moment
  | held made current same timer =>
      cases same
      rw [timer]
      dsimp only
      rw [if_pos due, fire_eq made current rfl]
      exact LastEnded.advance (lastEnded_concat (LawfulTransport.ended_shutdown ..)) moment

/-! ## One exchange -/

/-- The ways in which an exchange can go that begins at a moment, in a transport at rest. -/
inductive Served [Connector κ τ] (t : ReconnectTransport κ τ) (packet : Packet) (start : Moment) :
    Exchanged (ReconnectTransport κ τ) → Prop where
  /-- The connection that is held is used. -/
  | reused {earlier inner done} (made : t.made = earlier ++ [inner])
      (current : t.current = some earlier.length) (alive : ¬ Ended inner)
      (exchanged : Transport.exchange packet start none inner = done) :
      Served t packet start ⟨done.answer, done.latency,
        { t.cancelIdle with made := earlier ++ [done.transport] }.arm (start + done.latency)⟩
  /-- No connection can be had. -/
  | failed {attempt fault} (ended : LastEnded t.made)
      (tried : Connector.connect start t.connector = attempt)
      (result : attempt.result = .error fault) :
      Served t packet start ⟨.error fault, attempt.latency,
        { t.cancelIdle with
          connector := attempt.connector
          current := none }.arm (start + attempt.latency)⟩
  /-- A new connection is made. -/
  | connected {attempt inner done} (ended : LastEnded t.made)
      (tried : Connector.connect start t.connector = attempt)
      (result : attempt.result = .ok inner)
      (exchanged : Transport.exchange packet (start + attempt.latency) none inner = done) :
      Served t packet start ⟨done.answer, attempt.latency + done.latency,
        { t.cancelIdle with
          connector := attempt.connector
          made := t.made ++ [done.transport]
          current := some t.made.length }.arm (start + (attempt.latency + done.latency))⟩

omit [Transport τ] in
theorem currentConnection?_concat {earlier : List τ} {inner : τ}
    (made : t.made = earlier ++ [inner]) (current : t.current = some earlier.length) :
    t.currentConnection? = some inner := by
  unfold currentConnection?
  rw [current, made]
  exact List.getElem?_concat_length

theorem isConnected_iff :
    t.isConnected = true ↔ ∃ inner, t.currentConnection? = some inner ∧ ¬ Ended inner := by
  unfold isConnected Ended
  cases t.currentConnection? with
  | none => simp
  | some inner => cases terminal : Transport.outcome inner <;> simp [terminal]

/-- A transport at rest takes up the connection that it holds, if it is alive. -/
theorem Resting.takeLive_eq (resting : t.Resting last now) :
    (∃ earlier inner, t.made = earlier ++ [inner] ∧ t.current = some earlier.length ∧
      ¬ Ended inner ∧ t.cancelIdle.takeLive = (some earlier.length, t.cancelIdle)) ∨
    (LastEnded t.made ∧ t.cancelIdle.takeLive = (none, { t.cancelIdle with current := none })) := by
  have same : t.cancelIdle.isConnected = t.isConnected := rfl
  unfold takeLive
  rw [same]
  cases resting with
  | unheld current _ ended =>
      have dead : ¬ t.isConnected = true := by
        rw [isConnected_iff, currentConnection?, current]
        nofun
      exact .inr ⟨ended, if_neg dead⟩
  | @held earlier inner _ made current =>
      have found := currentConnection?_concat made current
      by_cases ended : Ended inner
      · have dead : ¬ t.isConnected = true := by
          rw [isConnected_iff, found]
          rintro ⟨_, same, alive⟩
          cases same
          exact alive ended
        exact .inr ⟨made ▸ lastEnded_concat ended, if_neg dead⟩
      · refine .inl ⟨earlier, inner, made, current, ended, ?_⟩
        rw [if_pos (isConnected_iff.2 ⟨inner, found, ended⟩)]
        exact congrArg (·, _) current

/-- What passing time keeps: whatever survives that connections do what is due, and that one is
taken away and closed. -/
theorem advance_keeps {P : ReconnectTransport κ τ → Prop} (begun : P t)
    (elapses : ∀ u moment, P u → P (u.elapse moment))
    (closes : ∀ (u : ReconnectTransport κ τ) taken moment, P u →
      P ({ u with idleTimer := none, current := none }.closeTaken taken moment))
    (moment : Moment) : P (t.advance moment) := by
  rw [advance_eq]
  refine elapses _ _ ?_
  cases t.idleTimer with
  | none => exact begun
  | some timer =>
      dsimp only
      split
      next =>
        have elapsed := elapses t timer.due begun
        unfold fire expire
        split
        next => exact closes _ _ _ elapsed
        next => exact elapsed
      next => exact begun

theorem terminal_advance (moment : Moment) : (t.advance moment).terminal = t.terminal :=
  advance_keeps (P := fun u => u.terminal = t.terminal) rfl (fun _ _ same => same)
    (fun _ taken _ same => by cases taken <;> exact same) moment

theorem connector_advance (moment : Moment) : (t.advance moment).connector = t.connector :=
  advance_keeps (P := fun u => u.connector = t.connector) rfl (fun _ _ same => same)
    (fun _ taken _ same => by cases taken <;> exact same) moment

section Parts

variable {t' : ReconnectTransport κ τ} {packet : Packet} {interruption : Option Interruption}

theorem exchangeOn_concat {earlier : List τ} {inner : τ} {done : Exchanged τ}
    (made : t.made = earlier ++ [inner])
    (exchanged : Transport.exchange packet now none inner = done) :
    t.exchangeOn earlier.length packet now none =
      ⟨done.answer, done.latency, { t with made := earlier ++ [done.transport] }⟩ := by
  unfold exchangeOn modifyAt
  rw [made, List.getElem?_concat_length]
  simp only [Option.map_none, interruptIn, modify_append_cons, exchanged]

variable [Connector κ τ] {attempt : Connected κ τ}

theorem connection_of_taken {i : Nat} (taken : t.takeLive = (some i, t')) :
    t.connection now interruption = ((.ok i, 0), t') := by
  unfold connection
  rw [taken]

theorem connection_of_error {fault : Error} (taken : t.takeLive = (none, t'))
    (tried : Connector.connect now t'.connector = attempt)
    (result : attempt.result = .error fault) :
    t.connection now none =
      ((.error fault, attempt.latency), { t' with connector := attempt.connector }) := by
  unfold connection
  rw [taken]
  simp only [tried, result, interruptIn]

theorem connection_of_ok {inner : τ} (taken : t.takeLive = (none, t')) (opened : t'.terminal = none)
    (tried : Connector.connect now t'.connector = attempt) (result : attempt.result = .ok inner) :
    t.connection now none =
      ((.ok t'.made.length, attempt.latency),
        { t' with
          connector := attempt.connector
          made := t'.made ++ [inner]
          current := some t'.made.length }) := by
  unfold connection
  rw [taken]
  simp only [tried, result, interruptIn, install, opened]

theorem exchange_of_error {fault : Error} {waited : Nat} (opened : t.terminal = none)
    (found : (t.advance now).cancelIdle.connection now none = ((.error fault, waited), t'))
    (opened' : t'.terminal = none) :
    t.exchange packet now none = ⟨.error fault, waited, t'.arm (now + waited)⟩ := by
  unfold exchange armIfOpen
  rw [opened, found]
  simp only [opened']

theorem exchange_of_ok {i waited : Nat} (opened : t.terminal = none)
    (found : (t.advance now).cancelIdle.connection now none = ((.ok i, waited), t'))
    (opened' : t'.terminal = none) {earlier : List τ} {inner : τ} {done : Exchanged τ}
    (made : t'.made = earlier ++ [inner]) (last : i = earlier.length)
    (exchanged : Transport.exchange packet (now + waited) none inner = done) :
    t.exchange packet now none = ⟨done.answer, waited + done.latency,
      { t' with made := earlier ++ [done.transport] }.arm (now + (waited + done.latency))⟩ := by
  subst last
  unfold exchange armIfOpen
  rw [opened, found]
  simp only [exchangeOn_concat made exchanged, opened']

end Parts

/-- An exchange goes in one of the ways. -/
theorem Resting.served [LawfulTransport τ] [Connector κ τ] (resting : t.Resting last now)
    (opened : t.terminal = none) (packet : Packet) (start : Moment) :
    Served (t.advance start) packet start (t.exchange packet start none) := by
  have still : (t.advance start).terminal = none := (t.terminal_advance start).trans opened
  obtain ⟨earlier, inner, made, current, alive, taken⟩ | ⟨ended, taken⟩ :=
    (resting.advance start).takeLive_eq
  · have found : (t.advance start).cancelIdle.connection start none = _ :=
      connection_of_taken taken
    rw [exchange_of_ok opened found still made rfl rfl]
    simp only [Nat.zero_add]
    exact .reused made current alive rfl
  · cases result : (Connector.connect start (t.advance start).connector).result with
    | error fault =>
      rw [exchange_of_error opened (connection_of_error taken rfl result) still]
      exact .failed ended rfl result
    | ok inner =>
      rw [exchange_of_ok opened (connection_of_ok taken still rfl result) still rfl rfl rfl]
      exact .connected ended rfl result rfl

/-- After an exchange a transport is at rest again, won or lost. -/
theorem Served.resting [Connector κ τ] {packet : Packet} {start : Moment}
    {done : Exchanged (ReconnectTransport κ τ)} (served : t.Served packet start done) :
    let finished := start + done.latency
    done.transport.Resting (some finished) finished := by
  cases served with
  | reused made current =>
      unfold arm
      simp only [cancelIdle, current]
      exact .held rfl rfl rfl rfl (Nat.le_add_right ..)
  | failed ended => exact .unheld rfl rfl ended
  | connected => exact .held rfl rfl rfl rfl (Nat.le_add_right ..)

omit [Transport τ] in
/-- Starting the idle timer changes nothing else. -/
theorem arm_same (t : ReconnectTransport κ τ) (now : Moment) :
    (t.arm now).connector = t.connector ∧ (t.arm now).idleTimeout = t.idleTimeout ∧
      (t.arm now).made = t.made ∧ (t.arm now).terminal = t.terminal := by
  unfold arm cancelIdle
  dsimp only
  split <;> exact ⟨rfl, rfl, rfl, rfl⟩

theorem Served.terminal_eq [Connector κ τ] {packet : Packet} {start : Moment}
    {done : Exchanged (ReconnectTransport κ τ)} (served : t.Served packet start done) :
    done.transport.terminal = t.terminal := by
  cases served <;> exact (arm_same ..).2.2.2

/-! ## Many exchanges -/

section Many

/-- A transport that is not shut down, and on which nobody calls at the moment: it is new, or time
has passed, or an exchange is over.  The first moment is the end of the last exchange. -/
inductive Timed [Connector κ τ] :
    ReconnectTransport (Counted κ) (Logged τ) → Option Moment → Moment → Prop where
  | new (connector : κ) (idleTimeout : Duration) (now : Moment) :
      Timed { connector := ⟨connector, 0⟩, idleTimeout := idleTimeout } none now
  | wait {t : ReconnectTransport (Counted κ) (Logged τ)} {last : Option Moment}
      {now moment : Moment} : Timed t last now → now ≤ moment → Timed (t.advance moment) last moment
  | exchange {t : ReconnectTransport (Counted κ) (Logged τ)} {last : Option Moment} {packet done}
      {now start : Moment} : Timed t last now → now ≤ start →
      t.exchange packet start none = done →
      Timed done.transport (some (start + done.latency)) (start + done.latency)

/-- The packets that were handed to connections. -/
def handed (t : ReconnectTransport (Counted κ) (Logged τ)) : List Packet :=
  (t.made.map Logged.log).flatten.map (·.packet)

variable {t : ReconnectTransport (Counted κ) (Logged τ)} {packet : Packet} {start : Moment}
  {done : Exchanged (ReconnectTransport (Counted κ) (Logged τ))}

theorem handed_concat {earlier : List (Logged τ)} {inner : Logged τ}
    (made : t.made = earlier ++ [(Transport.exchange packet now none inner).transport]) :
    t.handed = ((earlier ++ [inner]).map Logged.log).flatten.map (·.packet) ++ [packet] := by
  have logged : (Transport.exchange packet now none inner).transport.log.map (·.packet) =
      inner.log.map (·.packet) ++ [packet] := List.map_append
  unfold handed
  rw [made]
  simp [logged]

/-- Passing time lets no connection see a packet. -/
theorem logs_advance (moment : Moment) :
    (t.advance moment).made.map Logged.log = t.made.map Logged.log := by
  refine advance_keeps (P := fun u => u.made.map Logged.log = t.made.map Logged.log) rfl
    (fun u moment same => ?_) (fun u taken moment same => ?_) moment
  · rw [← same]
    exact List.map_map ..
  · cases taken with
    | none => exact same
    | some i =>
        have closed (inner : Logged τ) :
            (Transport.shutdown .clean moment inner).log = inner.log := rfl
        exact (map_modify_of_same closed u.made i).trans same

theorem handed_advance (moment : Moment) : (t.advance moment).handed = t.handed := by
  unfold handed
  rw [logs_advance]

theorem made_advance_eq_nil (moment : Moment) : (t.advance moment).made = [] ↔ t.made = [] := by
  rw [← List.map_eq_nil_iff (f := Logged.log), logs_advance, List.map_eq_nil_iff]

variable [Connector κ τ]

theorem Timed.resting [LawfulTransport τ] (timed : Timed t last now) :
    t.terminal = none ∧ t.Resting last now := by
  induction timed with
  | new => exact ⟨rfl, .unheld rfl rfl nofun⟩
  | wait _ _ ih => exact ⟨(terminal_advance _).trans ih.1, ih.2.advance _⟩
  | exchange _ _ exchanged ih =>
      subst exchanged
      have served := ih.2.served ih.1 ‹Packet› ‹Moment›
      exact ⟨served.terminal_eq.trans ((terminal_advance _).trans ih.1), served.resting⟩

theorem Served.calls_eq (served : t.Served packet start done) :
    done.transport.connector.calls = t.connector.calls ∧ ¬ LastEnded t.made ∨
      done.transport.connector.calls = t.connector.calls + 1 ∧ LastEnded t.made := by
  cases served with
  | @reused earlier inner done made _ alive =>
      refine .inl ⟨congrArg Counted.calls (arm_same ..).1, fun ended => ?_⟩
      exact alive (ended inner (made ▸ List.getLast?_concat))
  | failed ended tried =>
      exact .inr ⟨(congrArg Counted.calls (arm_same ..).1).trans (by rw [← tried]; rfl), ended⟩
  | connected ended tried =>
      exact .inr ⟨(congrArg Counted.calls (arm_same ..).1).trans (by rw [← tried]; rfl), ended⟩

omit [Transport τ] in
/-- A connection that was just made has seen no packet. -/
theorem log_eq_nil {k : Counted κ} {inner : Logged τ}
    (result : (Connector.connect start k).result = .ok inner) : inner.log = [] := by
  change Except.map (fun inner => (⟨inner, []⟩ : Logged τ)) _ = _ at result
  cases made : (Connector.connect start k.connector).result with
  | error fault => rw [made] at result; cases result
  | ok plain => rw [made] at result; cases result; rfl

theorem Served.handed_eq (served : t.Served packet start done) :
    done.transport.handed = t.handed ∨ done.transport.handed = t.handed ++ [packet] := by
  cases served with
  | reused made _ _ exchanged =>
      subst exchanged
      rw [handed_concat (arm_same ..).2.2.1, ← made]
      exact .inr rfl
  | failed =>
      left
      unfold handed
      rw [(arm_same ..).2.2.1]
      rfl
  | connected _ tried result exchanged =>
      subst exchanged tried
      right
      rw [handed_concat (arm_same ..).2.2.1]
      simp [handed, log_eq_nil result]

/-- What holds of a transport between exchanges, at a moment, and of an exchange that begins
later. -/
structure OnDemand (t : ReconnectTransport (Counted κ) (Logged τ)) (last : Option Moment)
    (now : Moment) (packet : Packet) (start : Moment)
    (done : Exchanged (ReconnectTransport (Counted κ) (Logged τ))) : Prop where
  /-- Neither time nor the exchange takes notice of the count and the logs. -/
  unnoticed : (∀ moment, t.plain.advance moment = (t.advance moment).plain) ∧
    t.plain.exchange packet start none = { done with transport := done.transport.plain }
  /-- The exchange calls the connector once at most. -/
  once : done.transport.connector.calls = t.connector.calls ∨
    done.transport.connector.calls = t.connector.calls + 1
  /-- It does so if there has been no connection, or the last one has ended, or too much time has
  passed since the last exchange, and not otherwise. -/
  connects : done.transport.connector.calls = t.connector.calls + 1 ↔
    t.made = [] ∨
    (∃ inner, (t.advance start).made.getLast? = some inner ∧ Ended inner) ∨
    ∃ finished, last = some finished ∧ finished + t.idleTimeout.nanos < start
  /-- It hands its packet to one connection at most, once. -/
  hands : done.transport.handed = t.handed ∨ done.transport.handed = t.handed ++ [packet]
  /-- While a connection is held, the idle timer runs, from the end of the last exchange. -/
  armed : ∀ i, t.current = some i → ∃ finished, last = some finished ∧
    t.idleTimer = some ⟨t.epoch, finished + t.idleTimeout.nanos⟩ ∧
    now ≤ finished + t.idleTimeout.nanos
  /-- Otherwise none runs. -/
  unarmed : t.current = none → t.idleTimer = none

/-- When a transport connects, whatever becomes of exchanges, connections and attempts to
connect. -/
theorem onDemand_of_timed [LawfulTransport τ] (timed : Timed t last now) (packet : Packet)
    (start : Moment) : OnDemand t last now packet start (t.exchange packet start none) := by
  obtain ⟨opened, resting⟩ := timed.resting
  have served := resting.served opened packet start
  have counted := served.calls_eq
  rw [connector_advance] at counted
  have handed := served.handed_eq
  rw [handed_advance] at handed
  refine ⟨⟨fun moment => (t.plain_advance moment).symm, t.exchange_plain packet start⟩,
    counted.imp And.left And.left, ⟨fun called => ?_, fun cause => ?_⟩, handed,
    fun i held => ?_, fun free => ?_⟩
  · have ended : LastEnded (t.advance start).made := by
      obtain ⟨uncalled, -⟩ | ⟨-, ended⟩ := counted
      · omega
      · exact ended
    cases held : (t.advance start).made.getLast? with
    | none => exact .inl ((made_advance_eq_nil start).1 (List.getLast?_eq_none_iff.1 held))
    | some inner => exact .inr (.inl ⟨inner, rfl, ended inner held⟩)
  · have ended : LastEnded (t.advance start).made := by
      obtain none | ⟨inner, held, ended⟩ | ⟨finished, rfl, due⟩ := cause
      · rw [(made_advance_eq_nil start).2 none]
        nofun
      · intro inner' held'
        cases held.symm.trans held'
        exact ended
      · exact resting.lastEnded_of_due due
    exact (counted.resolve_left fun uncalled => uncalled.2 ended).1
  · cases resting with
    | unheld current => cases current.symm.trans held
    | held _ _ same timer early => exact ⟨_, same, timer, early⟩
  · cases resting with
    | unheld _ timer => exact timer
    | held _ current => cases current.symm.trans free

end Many

/-- A connection is used after a second, and replaced after three when two were allowed. -/
theorem onDemand_of_timed_twoSeconds :
    let on : Packet := ⟨.basicCommand, .ofChars 'P' 'W', [0x31], by decide, by decide, by decide⟩
    let inner : ScriptedTransport := { script := [⟨.echo none, 0, false⟩], repeatLast := true }
    let scripted : ScriptedConnector ScriptedTransport := ⟨[⟨.ok inner, 5⟩, ⟨.ok inner, 5⟩], 0⟩
    let new : ReconnectTransport (Counted (ScriptedConnector ScriptedTransport))
      (Logged ScriptedTransport) := { connector := ⟨scripted, 0⟩, idleTimeout := .ofSeconds 2 }
    let t := (new.exchange on 0 none).transport
    let early := t.exchange on (1 * nanosPerSecond) none
    let late := t.exchange on (3 * nanosPerSecond) none
    Timed t (some 5) 5 ∧ t.connector.calls = 1 ∧ t.current = some 0 ∧
      t.idleTimer = some ⟨t.epoch, 5 + 2 * nanosPerSecond⟩ ∧
      early.transport.connector.calls = 1 ∧ early.transport.handed = [on, on] ∧
      late.transport.connector.calls = t.connector.calls + 1 := by
  intro on inner scripted new t early late
  have timed : Timed t (some 5) 5 := .exchange (.new scripted (.ofSeconds 2) 0) (Nat.zero_le 0) rfl
  have calls : t.connector.calls = 1 := rfl
  have held : t.current = some 0 := rfl
  obtain ⟨finished, same, armed, -⟩ := (onDemand_of_timed timed on 0).armed 0 held
  cases same
  have due : 5 + t.idleTimeout.nanos < 3 * nanosPerSecond := by decide +kernel
  have demand : OnDemand t (some 5) 5 on (3 * nanosPerSecond) late := onDemand_of_timed timed on _
  have replaced := demand.connects.2 (.inr (.inr ⟨5, rfl, due⟩))
  have kept : early.transport.connector.calls = 1 := by decide +kernel
  have handed : early.transport.handed = [on, on] := by decide +kernel
  exact ⟨timed, calls, held, armed, kept, handed, replaced⟩

end ProjectorControl.ReconnectTransport
