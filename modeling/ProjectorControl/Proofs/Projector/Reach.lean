import ProjectorControl.Projector.Emulation

/-!
# What a projector can come to

`Emulation.Reaches` collects all that can happen to a projector: anybody asks anything, requests
are handled one by one, time passes, mailboxes change, and a timer that still runs expires, which
queues its message.  Only expired timers send such messages, and a message that is queued stays
queued even if its timer is stopped afterwards.  The relation keeps the requests that were
handled.

The operations of `Emulation` do nothing else (`Emulation.reaches_drain` to
`Emulation.reaches_ask`), so what holds of all that can be reached holds of whatever they make.
-/

namespace ProjectorControl

namespace Emulation

/-- A projector after some events, and the requests that were handled.  A timer may expire at
any moment, since nothing rests on its being punctual. -/
inductive Reaches (start : Emulation) : List Request → Emulation → Prop where
  | refl : Reaches start [] start
  | push {handled : List Request} {e : Emulation} {request : Request} :
      Reaches start handled e → (∀ generation, request ≠ .powerTimer generation) →
      Reaches start handled (e.push request)
  | handle {handled later : List Request} {e : Emulation} {request : Request} :
      Reaches start handled e → e.stopped = false → e.queue = request :: later →
      Reaches start (handled ++ [request]) e.step
  | drop {handled : List Request} {e : Emulation} :
      Reaches start handled e → e.stopped = true → Reaches start handled { e with queue := [] }
  | expire {handled : List Request} {e : Emulation} {timer : PowerTimer} :
      Reaches start handled e → timer ∈ e.timers → Reaches start handled (e.fire timer)
  | wait {handled : List Request} {e : Emulation} {moment : Moment} :
      Reaches start handled e → e.now ≤ moment → Reaches start handled { e with now := moment }
  | sessions {handled : List Request} {e : Emulation} (table : SessionTable) :
      Reaches start handled e → Reaches start handled { e with sessions := table }

theorem Reaches.trans {start middle e : Emulation} {handled more : List Request}
    (first : start.Reaches handled middle) (second : middle.Reaches more e) :
    start.Reaches (handled ++ more) e := by
  induction second with
  | refl => rwa [List.append_nil]
  | push _ ordinary ih => exact .push ih ordinary
  | handle _ running queued ih =>
      rw [← List.append_assoc]
      exact .handle ih running queued
  | drop _ stopped ih => exact .drop ih stopped
  | expire _ member ih => exact .expire ih member
  | wait _ later ih => exact .wait ih later
  | sessions table _ ih => exact .sessions table ih

/-! ## Handling a request -/

/-- The timers that run after an effect. -/
def retime (now : Moment) (timers : List PowerTimer) : DispatchEffect → List PowerTimer
  | .startTimer generation delay => timers ++ [⟨generation, now + waitLength delay.nanos⟩]
  | .stopTimer generation => timers.filter fun t => t.generation ≠ generation
  | .send _ _ | .close _ | .answer _ _ => timers

/-- Effects change the timers, and beyond that only mailboxes and answers. -/
theorem foldl_apply_eq (e : Emulation) (effects : List DispatchEffect) :
    ∃ sessions answers, effects.foldl apply e =
      { e with
        timers := effects.foldl (retime e.now) e.timers
        sessions := sessions
        answers := answers } := by
  induction effects generalizing e with
  | nil => exact ⟨e.sessions, e.answers, rfl⟩
  | cons effect later ih =>
      obtain ⟨sessions, answers, done⟩ := ih (e.apply effect)
      refine ⟨sessions, answers, ?_⟩
      rw [List.foldl_cons, List.foldl_cons, done]
      cases effect <;> rfl

theorem step_eq {e : Emulation} {request : Request} {later : List Request}
    (running : e.stopped = false) (queued : e.queue = request :: later) :
    ∃ sessions answers, e.step =
      { e with
        dispatcher := (e.dispatcher.handle request).1
        queue := later
        timers := (e.dispatcher.handle request).2.foldl (retime e.now) e.timers
        sessions := sessions
        answers := answers
        stopped := request = .stop } := by
  have handled : e.step = (e.dispatcher.handle request).2.foldl apply
      { e with
        dispatcher := (e.dispatcher.handle request).1
        queue := later
        stopped := request = .stop } := by
    simp only [step, queued, handle, running, Bool.false_eq_true, if_false]
  rw [handled]
  exact foldl_apply_eq _ _

/-- A timer that runs after some effects ran before or was started. -/
theorem mem_foldl_retime {now : Moment} {timers : List PowerTimer}
    {effects : List DispatchEffect} {timer : PowerTimer}
    (member : timer ∈ effects.foldl (retime now) timers) :
    timer ∈ timers ∨ ∃ delay, .startTimer timer.generation delay ∈ effects := by
  induction effects generalizing timers with
  | nil => exact .inl member
  | cons effect later ih =>
      rcases ih member with earlier | ⟨delay, started⟩
      · cases effect with
        | startTimer generation delay =>
            rcases List.mem_append.mp earlier with before | new
            · exact .inl before
            · obtain rfl := List.mem_singleton.mp new
              exact .inr ⟨delay, List.mem_cons_self⟩
        | stopTimer generation => exact .inl (List.mem_filter.mp earlier).1
        | send session packets => exact .inl earlier
        | close session => exact .inl earlier
        | answer caller reply => exact .inl earlier
      · exact .inr ⟨delay, List.mem_cons_of_mem _ started⟩

/-! ## The operations -/

theorem foldl_apply_queue (e : Emulation) (effects : List DispatchEffect)
    (queue : List Request) :
    effects.foldl apply { e with queue := queue } =
      { effects.foldl apply e with queue := queue } := by
  induction effects generalizing e with
  | nil => rfl
  | cons effect later ih =>
      rw [List.foldl_cons, List.foldl_cons, ← ih]
      cases effect <;> rfl

/-- A request is handled without a look at the queue. -/
theorem handle_queue (e : Emulation) (request : Request) (queue : List Request) :
    { e with queue := queue }.handle request = { e.handle request with queue := queue } := by
  unfold handle
  split
  next => rfl
  next =>
    generalize e.dispatcher.handle request = outcome
    obtain ⟨dispatcher, effects⟩ := outcome
    exact foldl_apply_queue { e with dispatcher := dispatcher, stopped := request = .stop }
      effects queue

theorem drain_of_queue_nil {e : Emulation} (empty : e.queue = []) : e.drain = e := by
  rw [drain, empty, List.foldl_nil, ← empty]

theorem drain_of_queue_eq {e : Emulation} {request : Request} {later : List Request}
    (queued : e.queue = request :: later) : e.drain = e.step.drain := by
  have stepped : e.step = { e.handle request with queue := later } := by
    rw [step, queued]
    exact e.handle_queue request later
  rw [drain, queued, List.foldl_cons, handle_queue, stepped]
  rfl

theorem drain_of_stopped {e : Emulation} (stopped : e.stopped = true) :
    e.drain = { e with queue := [] } := by
  have ignores (requests : List Request) :
      requests.foldl handle { e with queue := [] } = { e with queue := [] } := by
    induction requests with
    | nil => rfl
    | cons request later ih =>
        rw [List.foldl_cons, handle, if_pos stopped, ih]
  exact ignores e.queue

theorem reaches_drain (e : Emulation) : ∃ handled, e.Reaches handled e.drain := by
  generalize queued : e.queue = queue
  induction queue generalizing e with
  | nil =>
      rw [drain_of_queue_nil queued]
      exact ⟨[], .refl⟩
  | cons request later ih =>
      cases stopped : e.stopped with
      | true =>
          rw [drain_of_stopped stopped]
          exact ⟨[], .drop .refl stopped⟩
      | false =>
          obtain ⟨sessions, answers, done⟩ := step_eq stopped queued
          obtain ⟨handled, further⟩ := ih e.step (by rw [done])
          rw [drain_of_queue_eq queued]
          exact ⟨_, Reaches.trans (.handle .refl stopped queued) further⟩

theorem reaches_expire (e : Emulation) (timer : PowerTimer) :
    ∃ handled, e.Reaches handled (e.expire timer) := by
  unfold expire
  split
  next member =>
    have waited : e.Reaches [] { e with now := max e.now timer.due } :=
      .wait .refl (Nat.le_max_left _ _)
    obtain ⟨handled, further⟩ := reaches_drain ({ e with now := max e.now timer.due }.fire timer)
    exact ⟨_, Reaches.trans (.expire waited member) further⟩
  next => exact ⟨[], .refl⟩

theorem reaches_runBefore (e : Emulation) (moment : Moment) :
    ∃ handled, e.Reaches handled (e.runBefore moment) := by
  have expires (timers : List PowerTimer) :
      ∀ e : Emulation, ∃ handled, e.Reaches handled (timers.foldl expire e) := by
    induction timers with
    | nil => exact fun e => ⟨[], .refl⟩
    | cons timer later ih =>
        intro e
        obtain ⟨handled, first⟩ := e.reaches_expire timer
        obtain ⟨more, second⟩ := ih (e.expire timer)
        exact ⟨_, first.trans second⟩
  obtain ⟨handled, first⟩ := e.reaches_drain
  obtain ⟨more, second⟩ := expires (e.drain.dueBefore moment) e.drain
  exact ⟨_, first.trans second⟩

theorem reaches_settle (e : Emulation) : ∃ handled, e.Reaches handled e.settle :=
  e.reaches_runBefore (e.now + 1)

theorem now_handle (e : Emulation) (request : Request) : (e.handle request).now = e.now := by
  unfold handle
  split
  next => rfl
  next =>
    generalize e.dispatcher.handle request = outcome
    obtain ⟨dispatcher, effects⟩ := outcome
    obtain ⟨sessions, answers, done⟩ :=
      foldl_apply_eq { e with dispatcher := dispatcher, stopped := request = .stop } effects
    simp only [done]

theorem now_drain (e : Emulation) : e.drain.now = e.now := by
  have keeps (requests : List Request) :
      ∀ e : Emulation, (requests.foldl handle e).now = e.now := by
    induction requests with
    | nil => exact fun e => rfl
    | cons request later ih =>
        intro e
        rw [List.foldl_cons, ih, now_handle]
  exact keeps e.queue _

/-- Only timers that are due before a moment have expired by then. -/
theorem now_runBefore_le (e : Emulation) (moment : Moment) :
    (e.runBefore moment).now ≤ max e.now moment := by
  have bounded (timers : List PowerTimer) (due : ∀ timer ∈ timers, timer.due < moment) :
      ∀ e : Emulation, (timers.foldl expire e).now ≤ max e.now moment := by
    induction timers with
    | nil => exact fun e => Nat.le_max_left _ _
    | cons timer later ih =>
        intro e
        have soon : timer.due < moment := due timer List.mem_cons_self
        have first : (e.expire timer).now ≤ max e.now moment := by
          unfold expire
          split
          · rw [now_drain]
            show max e.now timer.due ≤ max e.now moment
            exact Nat.max_le.mpr
              ⟨Nat.le_max_left _ _, Nat.le_trans (Nat.le_of_lt soon) (Nat.le_max_right _ _)⟩
          · exact Nat.le_max_left _ _
        have rest := ih (fun t member => due t (List.mem_cons_of_mem _ member)) (e.expire timer)
        exact Nat.le_trans rest (Nat.max_le.mpr ⟨first, Nat.le_max_right _ _⟩)
  have due : ∀ timer ∈ e.drain.dueBefore moment, timer.due < moment := by
    intro timer member
    have listed := (List.mergeSort_perm _ _).mem_iff.mp member
    exact decide_eq_true_iff.mp (List.mem_filter.mp listed).2
  have bound := bounded _ due e.drain
  rwa [now_drain] at bound

theorem reaches_advance (e : Emulation) (moment : Moment) :
    ∃ handled, e.Reaches handled (e.advance moment) := by
  obtain ⟨handled, ran⟩ := e.reaches_runBefore moment
  exact ⟨handled, .wait ran (e.now_runBefore_le moment)⟩

theorem reaches_sleep (e : Emulation) (nanos : Nat) :
    ∃ handled, e.Reaches handled (e.sleep nanos) := by
  obtain ⟨handled, settled⟩ := e.reaches_settle
  obtain ⟨more, advanced⟩ := e.settle.reaches_advance (e.now + waitLength nanos)
  exact ⟨_, settled.trans advanced⟩

theorem reaches_ask (e : Emulation) {request : Nat → Request}
    (ordinary : ∀ caller generation, request caller ≠ .powerTimer generation) :
    ∃ handled, e.Reaches handled (e.ask request).2 := by
  have asked : e.Reaches [] (e.push (request e.answers.length)) :=
    .push .refl (ordinary e.answers.length)
  obtain ⟨handled, settled⟩ := (e.push (request e.answers.length)).reaches_settle
  exact ⟨_, asked.trans settled⟩

end Emulation

end ProjectorControl
