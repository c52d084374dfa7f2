import ProjectorControl.Proofs.Reconnect.Connecting
import ProjectorControl.Transport.Reconnect.Shared

/-!
# Steps in any order

The steps of a call, of idle timers and of a shutdown come in any order.  What all of them keep is
`SharedReconnect.Kept`.  A connection that is alive is the current one, or a timer has taken it
away and is about to close it.  From the step in which a call cancels the timer to the one in
which it starts another, all timers are out of date (`SharedReconnect.Stale`), so none takes away
what the call uses.  And once the outcome of a shutdown is recorded no connection is put to use,
so the one that the shutdown closes is the last.
-/

namespace ProjectorControl

variable {κ τ : Type} [Transport τ]

namespace ReconnectTransport

/-! ## Connections that are alive -/

/-- A connection that was made, and has not ended. -/
def Alive (t : ReconnectTransport κ τ) (i : Nat) : Prop :=
  ∃ inner, t.made[i]? = some inner ∧ ¬ Ended inner

variable {t : ReconnectTransport κ τ} {i j : Nat}

theorem Alive.lt (alive : t.Alive i) : i < t.made.length := by
  obtain ⟨inner, found, -⟩ := alive
  exact (List.getElem?_eq_some_iff.1 found).1

theorem alive_of_modifyAt {f : τ → τ} (keeps : ∀ inner, Ended inner → Ended (f inner))
    (alive : (t.modifyAt i f).Alive j) : t.Alive j := by
  obtain ⟨inner, found, alive⟩ := alive
  rw [modifyAt, List.getElem?_modify, Option.map_eq_map, Option.map_eq_some_iff] at found
  obtain ⟨before, found, rfl⟩ := found
  refine ⟨before, found, fun ended => alive ?_⟩
  split
  next => exact keeps before ended
  next => exact ended

theorem not_alive_closeTaken [LawfulTransport τ] (now : Moment) :
    ¬ (t.closeTaken (some i) now).Alive i := by
  rintro ⟨inner, found, alive⟩
  rw [closeTaken, modifyAt, List.getElem?_modify_eq, Option.map_eq_map,
    Option.map_eq_some_iff] at found
  obtain ⟨before, -, rfl⟩ := found
  exact alive (LawfulTransport.ended_shutdown ..)

theorem alive_of_append {made : List τ} {inner : τ} (last : t.made = made ++ [inner])
    (alive : t.Alive i) : ({ t with made := made } : ReconnectTransport κ τ).Alive i ∨
      i = made.length ∧ ¬ Ended inner := by
  obtain ⟨inner', found, alive⟩ := alive
  rw [last, List.getElem?_append] at found
  split at found
  next => exact .inl ⟨inner', found, alive⟩
  next old =>
    rw [List.getElem?_singleton] at found
    split at found
    next =>
      cases found
      exact .inr ⟨by omega, alive⟩
    next => cases found

end ReconnectTransport

namespace SharedReconnect

/-! ## What is kept -/

/-- All timers are out of date. -/
def Stale (t : ReconnectTransport κ τ) (tasks : List TimerTask) : Prop :=
  ∀ task ∈ tasks, task.epoch < t.epoch

/-- What is kept of connections, of those that timers have taken, and of timers. -/
structure Sorted (t : ReconnectTransport κ τ) (taken : List Nat) (tasks : List TimerTask) :
    Prop where
  /-- A connection that is alive is in use, or a timer has it. -/
  held : ∀ i, t.Alive i → t.current = some i ∨ i ∈ taken
  /-- No timer has the connection in use. -/
  untaken : ∀ i, t.current = some i → i ∉ taken
  /-- What is in use was made. -/
  made_of_current : ∀ i, t.current = some i → i < t.made.length
  /-- What timers have was made. -/
  made_of_taken : ∀ i ∈ taken, i < t.made.length
  /-- No timer is ahead of its time. -/
  past : ∀ task ∈ tasks, task.epoch ≤ t.epoch

/-- What is kept while a call is under way. -/
def Fits (t : ReconnectTransport κ τ) (tasks : List TimerTask) : ReconnectPhase τ → Prop
  | .begun | .admitted => True
  | .quiet | .resolved _ | .rearming _ => Stale t tasks
  | .connecting | .connected _ => Stale t tasks ∧ t.current = none
  | .exchanging i => Stale t tasks ∧ t.current = some i

/-- What is kept of a shutdown. -/
def Closes (t : ReconnectTransport κ τ) : Closing → Prop
  | .unasked => t.terminal = none
  | .recorded => t.terminal ≠ none
  | .noted current => t.terminal ≠ none ∧ (t.current = none ∨ t.current = current)
  | .done => t.terminal ≠ none ∧ ∀ i, t.current = some i → ¬ t.Alive i

/-- What is kept. -/
structure Kept (s : SharedReconnect κ τ) : Prop where
  sorted : Sorted s.transport s.taken s.tasks
  call : ∀ call, s.call = some call → Fits s.transport s.tasks call.phase
  closing : Closes s.transport s.closing

variable {s : SharedReconnect κ τ} {t : ReconnectTransport κ τ} {taken : List Nat}
  {tasks : List TimerTask} {phase : ReconnectPhase τ} {closing : Closing}

theorem kept_new (connector : κ) (idleTimeout : Duration) :
    Kept ({ transport := { connector := connector, idleTimeout := idleTimeout } } :
      SharedReconnect κ τ) where
  sorted := ⟨fun _ alive => absurd alive.lt (Nat.not_lt_zero _), nofun, nofun, nofun, nofun⟩
  call _ under := nomatch under
  closing := rfl

omit [Transport τ] in
theorem Stale.fits_of_fits {t' : ReconnectTransport κ τ} {tasks' : List TimerTask}
    (stale : Stale t' tasks') (same : t'.current = t.current) (fits : Fits t tasks phase) :
    Fits t' tasks' phase := by
  cases phase with
  | begun | admitted => trivial
  | quiet | resolved | rearming => exact stale
  | connecting | connected | exchanging => exact ⟨stale, same.trans fits.2⟩

omit [Transport τ] in
theorem Fits.congr {t' : ReconnectTransport κ τ} (fits : Fits t tasks phase)
    (epoch : t'.epoch = t.epoch) (current : t'.current = t.current) : Fits t' tasks phase := by
  have stale (stale : Stale t tasks) : Stale t' tasks :=
    fun task member => epoch ▸ stale task member
  cases phase with
  | begun | admitted => trivial
  | quiet | resolved | rearming => exact stale fits
  | connecting | connected | exchanging => exact ⟨stale fits.1, current.trans fits.2⟩

/-! ## Connections change -/

theorem Sorted.modifyAt (sorted : Sorted t taken tasks) (i : Nat) {f : τ → τ}
    (keeps : ∀ inner, Ended inner → Ended (f inner)) : Sorted (t.modifyAt i f) taken tasks where
  held j alive := sorted.held j (ReconnectTransport.alive_of_modifyAt keeps alive)
  untaken := sorted.untaken
  made_of_current := by
    simpa only [ReconnectTransport.modifyAt, List.length_modify] using sorted.made_of_current
  made_of_taken := by
    simpa only [ReconnectTransport.modifyAt, List.length_modify] using sorted.made_of_taken
  past := sorted.past

/-- A shutdown is not set back when connections end, and none comes into use. -/
theorem Closes.mono {t' : ReconnectTransport κ τ} (closes : Closes t closing)
    (terminal : t'.terminal = t.terminal) (current : t'.current = none ∨ t'.current = t.current)
    (alive : ∀ i, t'.Alive i → t.Alive i) : Closes t' closing := by
  have ended (ended : t.terminal ≠ none) : t'.terminal ≠ none :=
    fun unended => ended (terminal.symm.trans unended)
  cases closing with
  | unasked => exact terminal.trans closes
  | recorded => exact ended closes
  | noted noted => exact ⟨ended closes.1, current.elim .inl fun same => same ▸ closes.2⟩
  | done =>
      refine ⟨ended closes.1, fun i held still => ?_⟩
      obtain none | same := current
      · cases none.symm.trans held
      · exact closes.2 i (same ▸ held) (alive i still)

/-- A connection may change, if its end lasts. -/
theorem Kept.modifyAt (kept : s.Kept) (i : Nat) {f : τ → τ}
    (keeps : ∀ inner, Ended inner → Ended (f inner)) :
    Kept { s with transport := s.transport.modifyAt i f } where
  sorted := kept.sorted.modifyAt i keeps
  call call under := (kept.call call under).congr rfl rfl
  closing := kept.closing.mono rfl (.inr rfl) fun _ => ReconnectTransport.alive_of_modifyAt keeps

/-- A connection is closed. -/
theorem Kept.closeTaken [LawfulTransport τ] (kept : s.Kept) (taken : Option Nat) (now : Moment) :
    Kept { s with transport := s.transport.closeTaken taken now } := by
  cases taken with
  | none => exact kept
  | some i => exact kept.modifyAt i fun _ _ => LawfulTransport.ended_shutdown ..

/-! ## The steps of a call -/

theorem Kept.withCall {packet : Packet} (kept : s.Kept)
    (fits : Fits s.transport s.tasks phase) : Kept { s with call := some ⟨packet, phase⟩ } where
  sorted := kept.sorted
  call call same := by
    cases same
    exact fits
  closing := kept.closing

theorem Kept.withoutCall (kept : s.Kept) : Kept { s with call := none } where
  sorted := kept.sorted
  call _ under := nomatch under
  closing := kept.closing

/-- Whoever cancels the timer makes all timers out of date. -/
theorem Sorted.stale_cancelIdle (sorted : Sorted s.transport s.taken s.tasks) :
    Stale s.cancelIdle.transport s.cancelIdle.tasks :=
  fun task member => Nat.lt_succ_of_le (sorted.past task (List.mem_filter.1 member).1)

theorem Kept.cancelIdle (kept : s.Kept) : s.cancelIdle.Kept where
  sorted := {
    held := kept.sorted.held
    untaken := kept.sorted.untaken
    made_of_current := kept.sorted.made_of_current
    made_of_taken := kept.sorted.made_of_taken
    past := fun task member => Nat.le_of_lt (kept.sorted.stale_cancelIdle task member) }
  call call under :=
    kept.sorted.stale_cancelIdle.fits_of_fits (t := s.transport) rfl (kept.call call under)
  closing := kept.closing.mono rfl (.inr rfl) fun _ => id

/-- A connection that has ended is let go. -/
theorem Sorted.drop (sorted : Sorted t taken tasks) (dead : ∀ i, t.current = some i → ¬ t.Alive i) :
    Sorted { t with current := none } taken tasks where
  held i alive :=
    (sorted.held i alive).imp_left fun current => absurd alive (dead i current)
  untaken := nofun
  made_of_current := nofun
  made_of_taken := sorted.made_of_taken
  past := sorted.past

theorem isConnected_iff_alive {i : Nat} (current : t.current = some i) :
    t.isConnected = true ↔ t.Alive i := by
  rw [ReconnectTransport.isConnected_iff, ReconnectTransport.currentConnection?, current]
  rfl

theorem isConnected_of_none (none : t.current = none) : ¬ t.isConnected = true := by
  rw [ReconnectTransport.isConnected_iff, ReconnectTransport.currentConnection?, none]
  rintro ⟨_, same, _⟩
  cases same

/-- A connection that is not alive is let go. -/
theorem Kept.drop (kept : s.Kept) (stale : Stale s.transport s.tasks)
    (dead : ∀ i, s.transport.current = some i → ¬ s.transport.Alive i) {packet : Packet} :
    Kept { s with
      transport := { s.transport with current := none }
      call := some ⟨packet, .connecting⟩ } where
  sorted := kept.sorted.drop dead
  call call same := by
    cases same
    exact ⟨stale, rfl⟩
  closing := kept.closing.mono rfl (.inl rfl) fun _ => id

/-- As long as there was no shutdown, there is nothing to keep of one. -/
theorem Closes.of_open {t' : ReconnectTransport κ τ} (closes : Closes t closing)
    (opened : t.terminal = none) (opened' : t'.terminal = none) : Closes t' closing := by
  cases closing with
  | unasked => exact opened'
  | recorded => exact absurd opened closes
  | noted | done => exact absurd opened closes.1

omit [Transport τ] in
theorem lt_length_append {made : List τ} {i : Nat} (lt : i < made.length) (inner : τ) :
    i < (made ++ [inner]).length := by
  rw [List.length_append]
  exact Nat.lt_add_right _ lt

/-- A new connection that is closed at once is not put to use. -/
theorem Kept.discard (kept : s.Kept) (stale : Stale s.transport s.tasks)
    (free : s.transport.current = none) {closed : τ} (ended : Ended closed) {packet : Packet}
    {result : Except Error ResponsePackets} :
    Kept { s with
      transport := { s.transport with made := s.transport.made ++ [closed] }
      call := some ⟨packet, .resolved result⟩ } := by
  have older (i : Nat) (alive : ({ s.transport with made := s.transport.made ++ [closed] } :
      ReconnectTransport κ τ).Alive i) : s.transport.Alive i := by
    obtain old | ⟨-, alive⟩ := ReconnectTransport.alive_of_append rfl alive
    · exact old
    · exact absurd ended alive
  refine ⟨⟨fun i alive => kept.sorted.held i (older i alive), kept.sorted.untaken,
    fun i held => ?_, fun i member => ?_, kept.sorted.past⟩, fun call same => ?_, ?_⟩
  · cases free.symm.trans held
  · exact lt_length_append (kept.sorted.made_of_taken i member) closed
  · cases same
    exact stale
  · exact kept.closing.mono rfl (.inr rfl) older

/-- A new connection is put to use. -/
theorem Kept.use (kept : s.Kept) (stale : Stale s.transport s.tasks)
    (free : s.transport.current = none) (opened : s.transport.terminal = none) {inner : τ}
    {packet : Packet} :
    Kept { s with
      transport := { s.transport with
        made := s.transport.made ++ [inner]
        current := some s.transport.made.length }
      call := some ⟨packet, .exchanging s.transport.made.length⟩ } := by
  refine ⟨⟨fun i alive => ?_, fun i held member => ?_, fun i held => ?_, fun i member => ?_,
    kept.sorted.past⟩, fun call same => ?_, kept.closing.of_open opened opened⟩
  · obtain old | ⟨rfl, -⟩ := ReconnectTransport.alive_of_append rfl alive
    · exact (kept.sorted.held i old).imp_left fun held => by cases free.symm.trans held
    · exact .inl rfl
  · cases held
    exact absurd (kept.sorted.made_of_taken _ member) (Nat.lt_irrefl _)
  · cases held
    simp
  · exact lt_length_append (kept.sorted.made_of_taken i member) inner
  · cases same
    exact ⟨stale, rfl⟩

/-- A call starts a timer and is answered. -/
theorem Kept.arm (kept : s.Kept) (now : Moment) : Kept { s.arm now with call := none } := by
  have cancelled := kept.cancelIdle.sorted
  cases current : s.transport.current with
  | none =>
      have unarmed : s.transport.arm now = s.transport.cancelIdle := by
        rw [ReconnectTransport.arm, ReconnectTransport.cancelIdle, current]
      have same : ({ s.arm now with call := none } : SharedReconnect κ τ) =
          { s.cancelIdle with call := none } := by
        rw [SharedReconnect.arm, unarmed]
        exact congrArg (SharedReconnect.mk _ none · s.taken s.closing) (List.append_nil _)
      exact same ▸ kept.cancelIdle.withoutCall
  | some i =>
      have armed : s.transport.arm now = { s.transport.cancelIdle with
          idleTimer := some ⟨s.transport.epoch + 1, now + s.transport.idleTimeout.nanos⟩ } := by
        rw [ReconnectTransport.arm, ReconnectTransport.cancelIdle, current]
      rw [SharedReconnect.arm, armed]
      refine ⟨⟨cancelled.held, cancelled.untaken, cancelled.made_of_current,
        cancelled.made_of_taken, fun task member => ?_⟩, (fun _ under => by cases under),
        kept.closing.mono rfl (.inr rfl) fun _ => id⟩
      rcases List.mem_append.1 member with old | new
      · exact cancelled.past task old
      · cases List.mem_singleton.1 new
        exact Nat.le_refl _

/-- A call goes on. -/
theorem Kept.goOn [LawfulTransport τ] (kept : s.Kept) {call : ReconnectCall τ}
    (under : s.call = some call) (now : Moment) : (s.goOn call now).1.Kept := by
  obtain ⟨packet, phase⟩ := call
  have fits := kept.call _ under
  unfold SharedReconnect.goOn
  cases phase with
  | begun =>
      dsimp only
      split
      next => exact kept.withoutCall
      next => exact kept.withCall trivial
  | admitted => exact kept.cancelIdle.withCall kept.sorted.stale_cancelIdle
  | quiet =>
      dsimp only
      by_cases alive : s.transport.isConnected = true
      · cases current : s.transport.current with
        | none => exact absurd alive (isConnected_of_none current)
        | some i =>
            have looked : s.transport.takeLive = (some i, s.transport) :=
              (if_pos alive).trans (by rw [current])
            rw [looked]
            exact kept.withCall ⟨fits, current⟩
      · have looked : s.transport.takeLive = (none, { s.transport with current := none }) :=
          if_neg alive
        rw [looked]
        exact kept.drop fits fun i current => mt (isConnected_iff_alive current).2 alive
  | connected inner =>
      dsimp only
      cases terminal : s.transport.terminal with
      | some outcome =>
          have installed : s.transport.install inner now = (.error s.transport.terminal.fault,
              { s.transport with
                made := s.transport.made ++ [Transport.shutdown .clean now inner] }) := by
            simp only [ReconnectTransport.install, terminal]
          rw [installed]
          exact kept.discard fits.1 fits.2 (LawfulTransport.ended_shutdown ..)
      | none =>
          have installed : s.transport.install inner now = (.ok s.transport.made.length,
              { s.transport with
                made := s.transport.made ++ [inner]
                current := some s.transport.made.length }) := by
            simp only [ReconnectTransport.install, terminal]
          rw [installed]
          exact kept.use fits.1 fits.2 terminal
  | resolved result =>
      dsimp only
      split
      next => exact kept.withoutCall
      next => exact kept.withCall fits
  | rearming result => exact kept.arm now
  | connecting | exchanging => exact kept

/-! ## Timers -/

omit [Transport τ] in
theorem Stale.of_tasks {tasks' : List TimerTask} (stale : Stale t tasks)
    (old : ∀ task ∈ tasks', ∃ task' ∈ tasks, task'.epoch = task.epoch) : Stale t tasks' := by
  intro task member
  obtain ⟨task', member', same⟩ := old task member
  exact same ▸ stale task' member'

/-- Timers may wake up and be gone, but none is new. -/
theorem Kept.withTasks {tasks' : List TimerTask} (kept : s.Kept)
    (old : ∀ task ∈ tasks', ∃ task' ∈ s.tasks, task'.epoch = task.epoch) :
    Kept { s with tasks := tasks' } where
  sorted := {
    held := kept.sorted.held
    untaken := kept.sorted.untaken
    made_of_current := kept.sorted.made_of_current
    made_of_taken := kept.sorted.made_of_taken
    past := fun task member => by
      obtain ⟨task', member', same⟩ := old task member
      exact same ▸ kept.sorted.past task' member' }
  call call under := by
    have fits := kept.call call under
    revert fits
    cases call.phase with
    | begun | admitted => exact id
    | quiet | resolved | rearming => exact fun stale => stale.of_tasks old
    | connecting | connected | exchanging => exact fun fits => ⟨fits.1.of_tasks old, fits.2⟩
  closing := kept.closing

theorem Kept.wake (kept : s.Kept) (task : Nat) : (s.step (.wake task)).1.Kept := by
  refine kept.withTasks fun task' member => ?_
  have epochs : (s.tasks.modify task fun task => { task with woken := true }).map (·.epoch) =
      s.tasks.map (·.epoch) := by
    refine ReconnectTransport.map_modify_of_same (fun _ => ?_) s.tasks task
    rfl
  exact List.mem_map.1 (epochs ▸ List.mem_map_of_mem member)

/-- A timer that is up to date takes the connection away.  No call is using it. -/
theorem Kept.takeAway (kept : s.Kept) {task : TimerTask} (member : task ∈ s.tasks)
    (current : s.transport.epoch = task.epoch) :
    Kept { s with
      transport := { s.transport with idleTimer := none, current := none }
      taken := s.taken ++ s.transport.current.toList } where
  sorted := {
    held := fun i alive => .inr (List.mem_append.2
      ((kept.sorted.held i alive).symm.imp_right Option.mem_toList.2))
    untaken := nofun
    made_of_current := nofun
    made_of_taken := fun i taken => (List.mem_append.1 taken).elim (kept.sorted.made_of_taken i)
      fun held => kept.sorted.made_of_current i (Option.mem_toList.1 held)
    past := kept.sorted.past }
  call call under := by
    have unstale : ¬ Stale s.transport s.tasks :=
      fun stale => Nat.lt_irrefl _ (current ▸ stale task member)
    have fits := kept.call call under
    revert fits
    cases call.phase with
    | begun | admitted => exact id
    | quiet | resolved | rearming => exact fun stale => absurd stale unstale
    | connecting | connected | exchanging => exact fun fits => absurd fits.1 unstale
  closing := kept.closing.mono rfl (.inl rfl) fun _ => id

theorem Kept.expire (kept : s.Kept) (task : Nat) : (s.step (.expire task)).1.Kept := by
  dsimp only [step]
  split
  next epoch found =>
    have member := List.mem_of_getElem? found
    have old : ∀ task' ∈ s.tasks.eraseIdx task, ∃ task'' ∈ s.tasks, task''.epoch = task'.epoch :=
      fun task' member => ⟨task', List.mem_of_mem_eraseIdx member, rfl⟩
    unfold ReconnectTransport.expire
    split
    next current => exact (kept.takeAway member current).withTasks old
    next =>
      have same : ({ s with tasks := s.tasks.eraseIdx task } : SharedReconnect κ τ).Kept :=
        kept.withTasks old
      exact (List.append_nil s.taken).symm ▸ same
  next => exact kept

/-- A timer closes what it has taken away. -/
theorem Kept.close [LawfulTransport τ] (kept : s.Kept) (position : Nat) (now : Moment) :
    (s.step (.close position now)).1.Kept := by
  dsimp only [step]
  split
  next i found =>
    have closed := kept.closeTaken (some i) now
    refine ⟨⟨fun j alive => ?_, ?_, closed.sorted.made_of_current, ?_, closed.sorted.past⟩,
      closed.call, closed.closing⟩
    · refine (closed.sorted.held j alive).imp_right fun member => ?_
      obtain ⟨k, found'⟩ := List.mem_iff_getElem?.1 member
      refine List.mem_eraseIdx_iff_getElem?.2 ⟨k, ?_, found'⟩
      rintro rfl
      cases found.symm.trans found'
      exact ReconnectTransport.not_alive_closeTaken now alive
    · exact fun j held member => closed.sorted.untaken j held (List.mem_of_mem_eraseIdx member)
    · exact fun j member => closed.sorted.made_of_taken j (List.mem_of_mem_eraseIdx member)
  next => exact kept

/-! ## Whatever happens -/

theorem Kept.withConnector (kept : s.Kept) (connector : κ) :
    Kept { s with transport := { s.transport with connector := connector } } :=
  ⟨⟨kept.sorted.held, kept.sorted.untaken, kept.sorted.made_of_current, kept.sorted.made_of_taken,
    kept.sorted.past⟩, fun call under => (kept.call call under).congr rfl rfl,
    kept.closing.mono rfl (.inr rfl) fun _ => id⟩

/-- The outcome of a shutdown is recorded. -/
theorem Kept.shutdown (kept : s.Kept) (outcome : Outcome) :
    (s.step (.shutdown outcome)).1.Kept := by
  dsimp only [step]
  split
  next opened =>
    refine ⟨⟨kept.sorted.held, kept.sorted.untaken, kept.sorted.made_of_current,
      kept.sorted.made_of_taken, kept.sorted.past⟩,
      fun call under => (kept.call call under).congr rfl rfl, ?_⟩
    intro unended
    have recorded := s.transport.terminal.isSome_resolve outcome
    rw [show s.transport.terminal.resolve outcome = none from unended] at recorded
    cases recorded
  next => exact kept

/-- The connection that a shutdown notes is the last. -/
theorem Kept.note (kept : s.Kept) : (s.step .note).1.Kept := by
  dsimp only [step]
  split
  next recorded =>
    have closes := kept.closing
    rw [recorded] at closes
    exact ⟨kept.cancelIdle.sorted, kept.cancelIdle.call, closes, .inr rfl⟩
  next => exact kept

theorem Kept.closeNoted [LawfulTransport τ] (kept : s.Kept) (now : Moment) :
    (s.step (.closeNoted now)).1.Kept := by
  dsimp only [step]
  split
  next current noted =>
    have closed := kept.closeTaken current now
    have closes := kept.closing
    rw [noted] at closes
    have unheld (i : Nat) (held : s.transport.current = some i) : current = some i := by
      obtain free | same := closes.2
      · cases free.symm.trans held
      · exact same.symm.trans held
    cases current with
    | none => exact ⟨closed.sorted, closed.call, closes.1, fun i held => nomatch unheld i held⟩
    | some j =>
        refine ⟨closed.sorted, closed.call, closes.1, fun i held => ?_⟩
        cases unheld i held
        exact ReconnectTransport.not_alive_closeTaken now
  next => exact kept

/-- Whatever happens keeps it. -/
theorem Kept.step [LawfulTransport τ] (kept : s.Kept) (event : ReconnectEvent κ τ) :
    (s.step event).1.Kept := by
  cases event with
  | call packet =>
      dsimp only [SharedReconnect.step]
      split
      next => exact kept.withCall trivial
      next => exact kept
  | goOn now =>
      dsimp only [SharedReconnect.step]
      split
      next call under => exact kept.goOn under now
      next => exact kept
  | connected result connector =>
      dsimp only [SharedReconnect.step]
      split
      next packet under =>
        have fits := kept.call _ under
        cases result with
        | ok inner => exact (kept.withConnector connector).withCall fits
        | error fault => exact (kept.withConnector connector).withCall fits.1
      next => exact kept
  | exchanged result =>
      dsimp only [SharedReconnect.step]
      split
      next packet i under => exact kept.withCall (kept.call _ under).1
      next => exact kept
  | changes i change => exact kept.modifyAt i change.keeps
  | changesNew change =>
      dsimp only [SharedReconnect.step]
      split
      next packet inner under => exact kept.withCall (kept.call _ under)
      next => exact kept
  | wake task => exact kept.wake task
  | expire task => exact kept.expire task
  | close position now => exact kept.close position now
  | shutdown outcome => exact kept.shutdown outcome
  | note => exact kept.note
  | closeNoted now => exact kept.closeNoted now

theorem Kept.run [LawfulTransport τ] (kept : s.Kept) (events : List (ReconnectEvent κ τ)) :
    (s.run events).1.Kept := by
  induction events generalizing s with
  | nil => exact kept
  | cons event later ih => exact ih (kept.step event)

end SharedReconnect

end ProjectorControl
