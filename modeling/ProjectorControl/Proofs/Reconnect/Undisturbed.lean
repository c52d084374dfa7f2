import ProjectorControl.Proofs.Reconnect.Connecting
import ProjectorControl.Transport.Reconnect.Shared

/-!
# Steps with nothing in between

`ReconnectTransport` takes an exchange, a shutdown and the passing of time for one thing each.
They are what comes of the steps when nothing else happens between them
(`Resting.exchange_leads`, `shutdown_leads`, `Resting.advance_leads`).
-/

namespace ProjectorControl

variable {κ τ : Type} [Transport τ]

namespace SharedReconnect

/-- Some events lead from one state to another, with effects. -/
def Leads (s : SharedReconnect κ τ) (effects : List ReconnectEffect) (s' : SharedReconnect κ τ) :
    Prop :=
  ∃ events, s.run events = (s', effects)

namespace Leads

variable {s s' s'' : SharedReconnect κ τ} {effects more : List ReconnectEffect}

theorem refl (s : SharedReconnect κ τ) : s.Leads [] s := ⟨[], rfl⟩

/-- An event, and what comes then. -/
theorem step (event : ReconnectEvent κ τ) (stepped : s.step event = (s', effects))
    (later : s'.Leads more s'') : s.Leads (effects ++ more) s'' := by
  obtain ⟨events, ran⟩ := later
  refine ⟨event :: events, ?_⟩
  rw [run, stepped, ran]

/-- An event without an effect. -/
theorem silent (event : ReconnectEvent κ τ) (stepped : s.step event = (s', []))
    (later : s'.Leads more s'') : s.Leads more s'' :=
  step event stepped later

theorem trans (first : s.Leads effects s') (later : s'.Leads more s'') :
    s.Leads (effects ++ more) s'' := by
  obtain ⟨events, ran⟩ := first
  induction events generalizing s effects with
  | nil =>
      cases ran
      exact later
  | cons event events ih =>
      cases ran
      rw [List.append_assoc]
      exact step event rfl (ih rfl)

end Leads

end SharedReconnect

namespace ReconnectTransport

open SharedReconnect

/-- A transport on which nobody calls, with its idle timer asleep. -/
def shared (t : ReconnectTransport κ τ) : SharedReconnect κ τ where
  transport := t
  tasks := t.idleTimer.toList.map fun timer => ⟨timer.epoch, false⟩
  closing := match t.terminal with
    | none => .unasked
    | some _ => .done

variable {t : ReconnectTransport κ τ} {packet : Packet}

/-- A call under way, with no timer. -/
def during (t : ReconnectTransport κ τ) (packet : Packet) (phase : ReconnectPhase τ) :
    SharedReconnect κ τ where
  transport := t
  call := some ⟨packet, phase⟩

omit [Transport τ] in
theorem filter_woken (t : ReconnectTransport κ τ) : t.shared.tasks.filter (·.woken) = [] := by
  unfold shared
  cases t.idleTimer <;> rfl

omit [Transport τ] in
theorem closing_shared (opened : t.terminal = none) : t.shared.closing = .unasked := by
  unfold shared
  rw [opened]

/-! ## Time -/

/-- Each connection in turn changes by itself. -/
theorem leads_map {s : SharedReconnect κ τ} (change : Change τ) (earlier later : List τ)
    (made : s.transport.made = earlier ++ later) :
    s.Leads [] { s with
      transport := { s.transport with made := earlier ++ later.map change.apply } } := by
  induction later generalizing s earlier with
  | nil =>
      rw [List.map_nil, ← made]
      exact .refl s
  | cons inner later ih =>
      have changed : (s.step (.changes earlier.length change)).1.transport.made =
          (earlier ++ [change.apply inner]) ++ later := by
        change s.transport.made.modify _ _ = _
        rw [made, modify_append_cons, List.append_assoc, List.singleton_append]
      have rest := ih _ changed
      rw [List.append_assoc] at rest
      exact .silent (.changes earlier.length change) rfl rest

theorem leads_elapse [LawfulTransport τ] (s : SharedReconnect κ τ) (moment : Moment) :
    s.Leads [] { s with transport := s.transport.elapse moment } :=
  leads_map ⟨Transport.advance moment, LawfulTransport.ended_advance moment⟩ [] _ rfl

/-- The idle timer wakes up, takes the connection away and closes it. -/
theorem leads_fire [LawfulTransport τ] {timer : IdleTimer} {i : Nat} (held : t.current = some i)
    (armed : t.idleTimer = some timer) (epoch : timer.epoch = t.epoch) :
    t.shared.Leads [.closeIdle i] (t.fire timer).shared := by
  let due : SharedReconnect κ τ := { t.shared with transport := t.elapse timer.due }
  have tasks : due.tasks = [⟨timer.epoch, false⟩] := by
    change t.idleTimer.toList.map _ = _
    rw [armed]
    rfl
  have woken : due.step (.wake 0) = ({ due with tasks := [⟨timer.epoch, true⟩] }, []) := by
    change (SharedReconnect.mk _ _ (due.tasks.modify _ _) _ _, _) = _
    rw [tasks]
    rfl
  have taken : (t.elapse timer.due).expire timer.epoch =
      (some i, { t.elapse timer.due with idleTimer := none, current := none }) := by
    rw [← held]
    exact if_pos epoch.symm
  have expired : ({ due with tasks := [⟨timer.epoch, true⟩] } : SharedReconnect κ τ).step
      (.expire 0) = ({ due with
        transport := { t.elapse timer.due with idleTimer := none, current := none }
        tasks := []
        taken := [i] }, []) := by
    change (SharedReconnect.mk ((t.elapse timer.due).expire timer.epoch).2 _ _
      ([] ++ ((t.elapse timer.due).expire timer.epoch).1.toList) _, _) = _
    rw [taken]
    rfl
  have fired : (t.fire timer).shared = { due with
      transport := { t.elapse timer.due with
        idleTimer := none, current := none }.closeTaken (some i) timer.due
      tasks := [] } := by
    unfold fire
    rw [taken]
    rfl
  rw [fired]
  exact (leads_elapse t.shared timer.due).trans (.silent _ woken (.silent _ expired
    (.step (.close 0 timer.due) rfl (.refl _))))

/-- When time passes, the connections change, and the idle timer may close the one in use. -/
theorem Resting.advance_leads [LawfulTransport τ] {last : Option Moment} {now : Moment}
    (resting : t.Resting last now) (moment : Moment) :
    ∃ effects, t.shared.Leads effects (t.advance moment).shared := by
  have elapsed (u : ReconnectTransport κ τ) : u.shared.Leads [] (u.elapse moment).shared :=
    leads_elapse u.shared moment
  rw [advance_eq]
  cases resting with
  | unheld _ timer =>
      rw [timer]
      exact ⟨[], elapsed t⟩
  | held _ current _ timer =>
      rw [timer]
      dsimp only
      split
      next => exact ⟨_, (leads_fire current timer rfl).trans (elapsed _)⟩
      next => exact ⟨[], elapsed t⟩

/-! ## A shutdown -/

/-- A shutdown is its three steps. -/
theorem shutdown_leads (t : ReconnectTransport κ τ) (outcome : Outcome) (now : Moment) :
    t.shared.Leads [] (t.shutdown outcome now).shared := by
  cases terminal : t.terminal with
  | some _ =>
      unfold shutdown
      rw [terminal]
      exact .refl _
  | none =>
      have recorded : t.shared.step (.shutdown outcome) =
          ({ t.shared with transport := t.resolve outcome, closing := .recorded }, []) := by
        dsimp only [SharedReconnect.step, shared]
        rw [terminal]
      have noted : ({ t.shared with transport := t.resolve outcome, closing := .recorded } :
          SharedReconnect κ τ).step .note = ({ t.shared with
            transport := (t.resolve outcome).cancelIdle
            tasks := []
            closing := .noted t.current }, []) := by
        change (SharedReconnect.mk _ _ (t.shared.tasks.filter (·.woken)) _ _, _) = _
        rw [filter_woken]
        rfl
      have closed : (t.shutdown outcome now).shared = { t.shared with
          transport := (t.resolve outcome).cancelIdle.closeTaken t.current now
          tasks := []
          closing := .done } := by
        unfold shutdown stop shared
        rw [terminal]
        cases t.current <;>
          simp [closeTaken, modifyAt, cancelIdle, resolve, terminal, Terminal.resolve]
      rw [closed]
      exact .silent _ recorded (.silent _ noted (.silent (.closeNoted now) rfl (.refl _)))

/-! ## An exchange -/

/-- A call begins, is admitted and cancels the timer. -/
theorem leads_quiet (opened : t.terminal = none) (packet : Packet) (now : Moment) :
    t.shared.Leads [] (t.cancelIdle.during packet .quiet) := by
  have admitted : ({ t.shared with call := some ⟨packet, .begun⟩ } : SharedReconnect κ τ).step
      (.goOn now) = ({ t.shared with call := some ⟨packet, .admitted⟩ }, []) := by
    obtain ⟨connector, idleTimeout, made, current, idleTimer, epoch, terminal⟩ := t
    cases opened
    rfl
  have quiet : ({ t.shared with call := some ⟨packet, .admitted⟩ } : SharedReconnect κ τ).step
      (.goOn now) = (t.cancelIdle.during packet .quiet, []) := by
    change (SharedReconnect.mk _ _ (t.shared.tasks.filter (·.woken)) _ t.shared.closing, _) = _
    rw [filter_woken, closing_shared opened]
    rfl
  exact .silent (.call packet) rfl (.silent _ admitted (.silent _ quiet (.refl _)))

/-- A call that has a result starts the timer and is answered. -/
theorem leads_answer (opened : t.terminal = none) (result : Except Error ResponsePackets)
    (now : Moment) :
    (t.during packet (.resolved result)).Leads [.answer result] (t.arm now).shared := by
  have rearming : (t.during packet (.resolved result)).step (.goOn now) =
      (t.during packet (.rearming result), []) := by
    obtain ⟨connector, idleTimeout, made, current, idleTimer, epoch, terminal⟩ := t
    cases opened
    rfl
  have answered : (t.during packet (.rearming result)).step (.goOn now) =
      ((t.arm now).shared, [.answer result]) := by
    have closing := closing_shared ((arm_same t now).2.2.2.trans opened)
    change (SharedReconnect.mk _ _ _ _ Closing.unasked, _) = _
    rw [← closing]
    rfl
  exact .silent _ rearming (.step _ answered (.refl _))

/-- A call makes its exchange on a connection and is answered. -/
theorem leads_exchange [LawfulTransport τ] (opened : t.terminal = none) {earlier : List τ}
    {inner : τ} (made : t.made = earlier ++ [inner]) (packet : Packet) (now finished : Moment) :
    let done := Transport.exchange packet now none inner
    (t.during packet (.exchanging earlier.length)).Leads [.answer done.answer]
      ({ t with made := earlier ++ [done.transport] }.arm finished).shared := by
  let change : Change τ := ⟨fun inner => (Transport.exchange packet now none inner).transport,
    LawfulTransport.ended_exchange packet now none⟩
  let done := Transport.exchange packet now none inner
  let t' : ReconnectTransport κ τ := { t with made := earlier ++ [done.transport] }
  have changed : (t.during packet (.exchanging earlier.length)).step
      (.changes earlier.length change) = (t'.during packet (.exchanging earlier.length), []) := by
    change (SharedReconnect.mk (t.modifyAt _ _) _ _ _ _, _) = _
    rw [modifyAt, made, modify_append_cons]
    rfl
  exact .silent _ changed (.silent (.exchanged done.answer) rfl
    (leads_answer (t := t') opened done.answer finished))

/-- A call that is quiet takes the connection. -/
theorem step_taken {t' : ReconnectTransport κ τ} {i : Nat} (taken : t.takeLive = (some i, t'))
    (now : Moment) :
    (t.during packet .quiet).step (.goOn now) =
      (t'.during packet (.exchanging i), [.hand i packet]) := by
  simp only [SharedReconnect.step, SharedReconnect.goOn, during, taken]

/-- A call that is quiet connects if there is no connection to take. -/
theorem step_untaken {t' : ReconnectTransport κ τ} (untaken : t.takeLive = (none, t'))
    (now : Moment) :
    (t.during packet .quiet).step (.goOn now) =
      (t'.during packet .connecting, [.connect]) := by
  simp only [SharedReconnect.step, SharedReconnect.goOn, during, untaken]

/-- A new connection is put to use. -/
theorem step_install (opened : t.terminal = none) (inner : τ) (now : Moment) :
    (t.during packet (.connected inner)).step (.goOn now) =
      (({ t with made := t.made ++ [inner], current := some t.made.length } :
        ReconnectTransport κ τ).during packet (.exchanging t.made.length),
        [.hand t.made.length packet]) := by
  obtain ⟨connector, idleTimeout, made, current, idleTimer, epoch, terminal⟩ := t
  cases opened
  rfl

/-- A call gets a connection, makes its exchange on it and is answered. -/
theorem leads_connected [LawfulTransport τ] (opened : t.terminal = none) (connector : κ)
    (inner : τ) (packet : Packet) (now finished : Moment) :
    let done := Transport.exchange packet now none inner
    (t.during packet .connecting).Leads [.hand t.made.length packet, .answer done.answer]
      ({ t with
        connector := connector
        made := t.made ++ [done.transport]
        current := some t.made.length }.arm finished).shared := by
  let u : ReconnectTransport κ τ := { t with connector := connector }
  have connected : (t.during packet .connecting).step (.connected (.ok inner) connector) =
      (u.during packet (.connected inner), []) := rfl
  let v : ReconnectTransport κ τ := { u with
    made := u.made ++ [inner]
    current := some u.made.length }
  have installed : (u.during packet (.connected inner)).step (.goOn now) =
      (v.during packet (.exchanging u.made.length), [.hand u.made.length packet]) :=
    step_install (t := u) opened inner now
  exact .silent _ connected
    (.step _ installed (leads_exchange (t := v) opened rfl packet now finished))

/-- A call gets no connection and is answered. -/
theorem leads_unconnected (opened : t.terminal = none) (connector : κ) (fault : Error)
    (packet : Packet) (now : Moment) :
    (t.during packet .connecting).Leads [.answer (.error fault)]
      ({ t with connector := connector }.arm now).shared := by
  let u : ReconnectTransport κ τ := { t with connector := connector }
  have unconnected : (t.during packet .connecting).step (.connected (.error fault) connector) =
      (u.during packet (.resolved (.error fault)), []) := rfl
  exact .silent _ unconnected (leads_answer (t := u) opened _ now)

/-- A call on a transport that has ended is refused. -/
theorem leads_refusal {outcome : Outcome} (ended : t.terminal = some outcome) (packet : Packet)
    (now : Moment) :
    t.shared.Leads [.answer (.error t.terminal.fault)] t.shared := by
  have refused : ({ t.shared with call := some ⟨packet, .begun⟩ } : SharedReconnect κ τ).step
      (.goOn now) = (t.shared, [.answer (.error t.terminal.fault)]) := by
    obtain ⟨connector, idleTimeout, made, current, idleTimer, epoch, terminal⟩ := t
    cases ended
    rfl
  exact .silent (.call packet) rfl (.step _ refused (.refl _))

/-- The call of an exchange, after the time up to its beginning. -/
theorem Resting.call_leads [LawfulTransport τ] [Connector κ τ] {last : Option Moment}
    {now : Moment} (resting : t.Resting last now) (opened : t.terminal = none) (packet : Packet)
    (start : Moment) :
    let done := t.exchange packet start none
    ∃ effects, (t.advance start).shared.Leads (effects ++ [.answer done.answer])
      done.transport.shared := by
  have still : (t.advance start).terminal = none := (t.terminal_advance start).trans opened
  let u := (t.advance start).cancelIdle
  have quiet : (t.advance start).shared.Leads [] (u.during packet .quiet) :=
    leads_quiet still packet start
  obtain ⟨earlier, inner, made, current, alive, taken⟩ | ⟨ended, taken⟩ :=
    (resting.advance start).takeLive_eq
  · have found : u.connection start none = _ := connection_of_taken taken
    rw [exchange_of_ok opened found still made rfl rfl]
    simp only [Nat.zero_add, Nat.add_zero]
    have taking : (u.during packet .quiet).step (.goOn start) =
        (u.during packet (.exchanging earlier.length), [.hand earlier.length packet]) :=
      step_taken taken start
    exact ⟨[.hand earlier.length packet], quiet.trans (.step _ taking
      (leads_exchange (t := u) still made packet start _))⟩
  · let attempt := Connector.connect start (t.advance start).connector
    let unheld : ReconnectTransport κ τ := { u with current := none }
    have connecting : (u.during packet .quiet).step (.goOn start) =
        (unheld.during packet .connecting, [.connect]) := step_untaken taken start
    cases result : attempt.result with
    | error fault =>
        rw [exchange_of_error opened (connection_of_error taken rfl result) still]
        exact ⟨[.connect], quiet.trans (.step _ connecting
          (leads_unconnected (t := unheld) still _ fault packet (start + attempt.latency)))⟩
    | ok inner =>
        rw [exchange_of_ok opened (connection_of_ok taken still rfl result) still rfl rfl rfl]
        exact ⟨[.connect, .hand u.made.length packet], quiet.trans (.step _ connecting
          (leads_connected (t := unheld) still _ inner packet (start + attempt.latency) _))⟩

/-- An exchange is a call with nothing in between. -/
theorem Resting.exchange_leads [LawfulTransport τ] [Connector κ τ] {last : Option Moment}
    {now : Moment} (resting : t.Resting last now) (packet : Packet) (start : Moment) :
    let done := t.exchange packet start none
    ∃ effects, t.shared.Leads (effects ++ [.answer done.answer]) done.transport.shared := by
  cases opened : t.terminal with
  | some outcome =>
      rw [exchange_of_ended opened]
      exact ⟨[], leads_refusal opened packet start⟩
  | none =>
      obtain ⟨before, waited⟩ := resting.advance_leads start
      obtain ⟨effects, called⟩ := resting.call_leads opened packet start
      refine ⟨before ++ effects, ?_⟩
      rw [List.append_assoc]
      exact waited.trans called

end ReconnectTransport

end ProjectorControl
