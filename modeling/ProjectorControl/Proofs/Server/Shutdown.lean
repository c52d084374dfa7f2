import ProjectorControl.Proofs.Server.Ledger

/-!
# Shutting down in order

The owner of a projector may ask it things and shut it down at the same time, from any number of
places.  That a shutdown has begun, that it has cancelled, and that its request is queued are three
events, and so are the check of an inquiry and the queueing of its request.  So an inquiry may pass
the check, and its request may come to stand behind the one to stop.

Nothing is lost.  What stands in the queue in front of the first request to stop is handled, in
order, and nothing behind it is (`Server.Orderly`).  Of each call that asks something it is known
at any time how far it has come (`Desk.Call`).  Within as many turns of the dispatcher as there are
requests, all in front of the first one to stop are handled (`Server.Passes.isPrefix_takeWhile`),
and a call whose request was queued is answered (`Server.Passes.answered`).
-/

namespace ProjectorControl

open Dispatcher (messagesTo)

namespace Desk

/-! ## What only grows -/

/-- What was said is not taken back, and a dispatcher that has stopped does not go on. -/
structure Grows (s after : Desk) : Prop where
  answers : s.answers <+: after.answers
  refused : s.refused <+: after.refused
  stopped : s.stopped = true → after.stopped = true

variable {s after : Desk}

theorem Grows.refl (s : Desk) : s.Grows s := ⟨List.prefix_refl _, List.prefix_refl _, id⟩

theorem Grows.trans {last : Desk} (first : s.Grows after) (second : after.Grows last) :
    s.Grows last :=
  ⟨first.answers.trans second.answers, first.refused.trans second.refused,
    second.stopped ∘ first.stopped⟩

theorem Move.grows {asked : List Inquiry} {entering leaving : List Request}
    (move : s.Move asked entering leaving after) : s.Grows after := by
  cases move with
  | queues | admits | submits => exact ⟨List.prefix_refl _, List.prefix_refl _, id⟩
  | refuses | returns | forgets => exact ⟨List.prefix_refl _, List.prefix_append _ _, id⟩
  | handles running => exact ⟨List.prefix_append _ _, List.prefix_refl _, id⟩
  | stops => exact ⟨List.prefix_append _ _, List.prefix_append _ _, fun _ => rfl⟩

/-- A caller who was told something has been told it ever since. -/
theorem Grows.mem_repliesTo (grows : s.Grows after) {caller : Nat} {reply : StatusReply}
    (told : reply ∈ s.repliesTo caller) : reply ∈ after.repliesTo caller := by
  rcases List.mem_append.mp told with answered | refused
  · refine List.mem_append_left _ ?_
    obtain ⟨answer, listed, rfl⟩ := List.mem_map.mp answered
    obtain ⟨among, own⟩ := List.mem_filter.mp listed
    exact List.mem_map.mpr
      ⟨answer, List.mem_filter.mpr ⟨grows.answers.subset among, own⟩, rfl⟩
  · refine List.mem_append_right _ ?_
    obtain ⟨some, rfl⟩ := List.mem_replicate.mp refused
    have more := grows.refused.sublist.count_le caller
    exact List.mem_replicate.mpr ⟨fun none => some (Nat.le_zero.mp (none ▸ more)), rfl⟩

end Desk

namespace Server

/-! ## Progress -/

namespace Passes

variable {d : Dispatcher} {ledger ledger' : Ledger} {server server' : Server}

theorem grows (passes : Passes ledger server ledger' server') :
    server.desk.Grows server'.desk := by
  induction passes with
  | refl => exact .refl _
  | @event _ server' event _ _ ih => exact ih.trans (server'.move event).grows
  | wait _ _ ih => exact ih

/-- What is kept in a ledger is not removed. -/
theorem prefixes (passes : Passes ledger server ledger' server') :
    ledger.asked <+: ledger'.asked ∧ ledger.queued <+: ledger'.queued ∧
      ledger.handled <+: ledger'.handled := by
  induction passes with
  | refl => exact ⟨List.prefix_refl _, List.prefix_refl _, List.prefix_refl _⟩
  | event _ _ ih =>
      obtain ⟨asked, queued, handled⟩ := ih
      exact ⟨asked.trans (List.prefix_append _ _), queued.trans (List.prefix_append _ _),
        handled.trans (List.prefix_append _ _)⟩
  | wait _ _ ih => exact ih

/-- As long as a dispatcher runs and has not handled what was queued at first, it handles a request
in each turn. -/
theorem length_handled (first : server.desk.Accounted d ledger.asked ledger.queued ledger.handled)
    (passes : Passes ledger server ledger' server') (running : server'.emulation.stopped = false)
    (behind : ledger'.handled.length < ledger.queued.length) :
    ledger.handled.length + ledger'.turns ≤ ledger'.handled.length + ledger.turns := by
  induction passes with
  | refl => exact Nat.le_refl _
  | wait _ _ ih => exact ih running behind
  | @event ledger' server' event passes honest ih =>
      have ran : server'.emulation.stopped = false := by
        refine Bool.eq_false_iff.mpr fun stopped => ?_
        exact nomatch running.symm.trans ((server'.move event).grows.stopped stopped)
      have more : ledger'.handled.length ≤ (ledger'.record server' event).handled.length :=
        (List.prefix_append _ _).length_le
      have sofar := ih ran (Nat.lt_of_le_of_lt more behind)
      by_cases dispatch : event = .dispatch
      · subst dispatch
        -- Something waits, since not all was handled that was queued at first.
        have waits : server'.emulation.queue ≠ [] := by
          intro empty
          have whole : ledger'.queued = ledger'.handled ++ server'.emulation.queue :=
            ((passes.accounted first).of_running ran).1
          rw [empty, List.append_nil] at whole
          have short := passes.prefixes.2.1.length_le
          exact Nat.not_lt_of_le (whole ▸ short) (Nat.lt_of_le_of_lt more behind)
        obtain ⟨request, later, queued⟩ := List.exists_cons_of_ne_nil waits
        have handling : server'.handling .dispatch = [request] := by
          simp [Server.handling, ran, queued]
        simp only [Ledger.record, handling, List.length_append, List.length_singleton, if_true]
        omega
      · simp only [Ledger.record, if_neg dispatch]
        exact Nat.le_trans sofar (Nat.add_le_add_right more _)

variable {caller : Nat} {inquiry : Inquiry}

/-- A caller who was let through before and is not told anything had a request in the queue. -/
theorem queued_of_silent (valid : d.Valid)
    (first : server.desk.Accounted d ledger.asked ledger.queued ledger.handled)
    (passes : Passes ledger server ledger' server') (known : ledger.asked[caller]? = some inquiry)
    (sent : caller ∉ callersOf server.admitted) (silent : server'.desk.repliesTo caller = []) :
    server.emulation.stopped = false ∧ inquiry.toRequest caller ∈ server.emulation.queue := by
  have untold (reply : StatusReply) : server.desk.repliesTo caller ≠ [reply] := by
    intro told
    have still := passes.grows.mem_repliesTo (told ▸ List.mem_singleton_self reply)
    exact List.not_mem_nil (silent ▸ still)
  cases first.call valid known with
  | admitted held => exact absurd (mem_callersOf_toRequest held) sent
  | waiting running waits => exact ⟨running, waits⟩
  | answered _ _ _ told => exact absurd told (untold _)
  | closed _ told => exact absurd told (untold _)

/-- After as many turns as requests waited, a dispatcher that still runs has handled all that was
queued at first. -/
theorem isPrefix_queued
    (first : server.desk.Accounted d ledger.asked ledger.queued ledger.handled)
    (passes : Passes ledger server ledger' server') (running : server'.emulation.stopped = false)
    (turns : ledger.turns + server.emulation.queue.length ≤ ledger'.turns) :
    ledger.queued <+: ledger'.handled := by
  have ran : server.emulation.stopped = false :=
    Bool.eq_false_iff.mpr fun stopped => nomatch running.symm.trans (passes.grows.stopped stopped)
  have whole : ledger.queued = ledger.handled ++ server.emulation.queue :=
    (first.of_running ran).1
  have handled : ledger.queued.length ≤ ledger'.handled.length := by
    by_contra short
    have most := passes.length_handled first running (Nat.lt_of_not_le short)
    rw [whole, List.length_append] at short
    omega
  have sofar : ledger'.handled <+: ledger'.queued := (passes.accounted first).isPrefix_handled
  exact List.prefix_of_prefix_length_le passes.prefixes.2.1 sofar handled

/-- After as many turns as requests waited, all that was queued in front of the first request to
stop has been handled. -/
theorem isPrefix_takeWhile
    (first : server.desk.Accounted d ledger.asked ledger.queued ledger.handled)
    (passes : Passes ledger server ledger' server')
    (turns : ledger.turns + server.emulation.queue.length ≤ ledger'.turns) :
    ledger.queued.takeWhile (· ≠ .stop) <+: ledger'.handled := by
  cases stopped : server'.emulation.stopped with
  | false =>
      exact (List.takeWhile_prefix _).trans (passes.isPrefix_queued first stopped turns)
  | true =>
      rw [((passes.accounted first).of_stopped stopped).2]
      obtain ⟨more, same⟩ := passes.prefixes.2.1
      rw [← same, List.takeWhile_append]
      split
      next => exact (List.takeWhile_prefix _).trans ((List.prefix_append _ _).trans
        (List.prefix_append _ _))
      next => exact List.prefix_append _ _

/-- A caller whose request was queued is answered once, within as many turns of the dispatcher as
requests were queued. -/
theorem answered (valid : d.Valid)
    (first : server.desk.Accounted d ledger.asked ledger.queued ledger.handled)
    (passes : Passes ledger server ledger' server') (known : ledger.asked[caller]? = some inquiry)
    (sent : caller ∉ callersOf server.admitted)
    (turns : ledger.turns + server.emulation.queue.length ≤ ledger'.turns) :
    ∃ reply, server'.desk.repliesTo caller = [reply] := by
  obtain ⟨asked, queued, -⟩ := passes.prefixes
  have last := passes.accounted first
  have known' : ledger'.asked[caller]? = some inquiry := by
    obtain ⟨more, same⟩ := asked
    rw [← same, List.getElem?_append_left (List.getElem?_eq_some_iff.mp known).1, known]
  have waited (silent : server'.desk.repliesTo caller = []) :
      inquiry.toRequest caller ∈ ledger.queued := by
    obtain ⟨running, waits⟩ := passes.queued_of_silent valid first known sent silent
    exact (first.of_running running).1 ▸ List.mem_append_right _ waits
  cases last.call valid known' with
  | answered _ _ _ told => exact ⟨_, told⟩
  | closed _ told => exact ⟨_, told⟩
  | admitted _ unqueued silent =>
      exact absurd (mem_callersOf_toRequest (queued.subset (waited silent))) unqueued
  | waiting running waits silent =>
      -- All that was queued at first has been handled, so the request cannot wait.
      have twice : inquiry.toRequest caller ∈ ledger'.handled :=
        (passes.isPrefix_queued first running turns).subset (waited silent)
      have once := last.nodup_queued
      rw [(last.of_running running).1, callersOf_append, List.nodup_append] at once
      exact absurd rfl (once.2.2 caller (mem_callersOf_toRequest twice) caller
        (mem_callersOf_toRequest waits))

end Passes

/-! ## Order -/

/-- What a caller is told that is told one thing at most. -/
theorem replyTo?_of_repliesTo {server : Server} {caller : Nat}
    (once : (server.desk.repliesTo caller).length ≤ 1) :
    server.replyTo? caller = (server.desk.repliesTo caller).head? := by
  simp only [replyTo?, Emulation.answerTo?, ← List.head?_filter, List.filter_reverse,
    List.head?_reverse]
  simp only [Desk.repliesTo, desk] at once ⊢
  generalize server.emulation.answers.filter _ = own at once ⊢
  rw [List.length_append, List.length_map, List.length_replicate] at once
  by_cases refused : caller ∈ server.refused
  · have some := List.count_pos_iff.mpr refused
    have none : own = [] := List.eq_nil_of_length_eq_zero (by omega)
    have single : server.refused.count caller = 1 := by omega
    rw [if_pos refused, none, single]
    rfl
  · rw [List.count_eq_zero.mpr refused] at once ⊢
    rw [if_neg refused]
    cases own with
    | nil => rfl
    | cons answer more =>
        obtain rfl : more = [] := List.eq_nil_of_length_eq_zero (by simpa using once)
        rfl

/-- What is true of a server at any time. -/
structure Orderly (d : Dispatcher) (ledger : Ledger) (server : Server) : Prop where
  /-- A dispatcher that runs has handled all that was queued but for what waits, and nothing of that
  was to stop. -/
  running : server.emulation.stopped = false →
    ledger.queued = ledger.handled ++ server.emulation.queue ∧ .stop ∉ ledger.handled
  /-- A dispatcher that has stopped has handled what was queued in front of the first request to
  stop, and that one. -/
  stopped : server.emulation.stopped = true → .stop ∈ ledger.queued ∧
    ledger.handled = ledger.queued.takeWhile (· ≠ .stop) ++ [.stop]
  /-- The projector is in the state that these requests have made. -/
  state : server.emulation.dispatcher = d.run ledger.handled
  /-- Sessions were told what came of these requests, if they were still open. -/
  told : ∀ id, ledger.told id <+: messagesTo id (d.effects ledger.handled) ∧
    ∀ mailbox, server.emulation.sessions.mailbox? id = some mailbox →
      ledger.told id = messagesTo id (d.effects ledger.handled)
  /-- Each caller is told nothing or one thing, which depends on where its request was queued. -/
  calls : ∀ caller inquiry, ledger.asked[caller]? = some inquiry →
    Desk.Call d ledger.queued server.desk caller inquiry
  /-- Nobody else is told anything. -/
  strangers : ∀ caller, ledger.asked.length ≤ caller → server.desk.repliesTo caller = []
  /-- This is what the callers see. -/
  seen : ∀ caller, server.replyTo? caller = (server.desk.repliesTo caller).head?

theorem length_repliesTo_le {d : Dispatcher} {queued : List Request} {s : Desk} {caller : Nat}
    {inquiry : Inquiry} (call : s.Call d queued caller inquiry) :
    (s.repliesTo caller).length ≤ 1 := by
  cases call with
  | admitted _ _ told => rw [told]; exact Nat.zero_le 1
  | waiting _ _ told => rw [told]; exact Nat.zero_le 1
  | answered _ _ _ told => rw [told]; exact Nat.le_refl 1
  | closed _ told => rw [told]; exact Nat.le_refl 1

variable {ν π : Type} [Net.Network ν π] {c : EmulatorConfig} {network : ν} {first server : Server}
  {ledger : Ledger}

theorem valid_start (started : start c network = .ok first) :
    first.emulation.dispatcher.Valid :=
  (kept_start started).valid

/-- In whatever order things happen, everything in the queue is dealt with in order. -/
theorem orderly (started : start c network = .ok first) (passes : Passes {} first ledger server) :
    server.Orderly first.emulation.dispatcher ledger := by
  have accounted := passes.accounted_of_start started
  have valid := valid_start started
  have strangers (caller : Nat) (stranger : ledger.asked.length ≤ caller) :=
    accounted.repliesTo_of_stranger valid stranger
  refine ⟨accounted.of_running, accounted.of_stopped, accounted.state, fun id => ?_,
    fun caller inquiry => accounted.call valid, strangers, fun caller => ?_⟩
  · have heard := passes.told started id
    exact ⟨heard.front, heard.whole⟩
  · refine replyTo?_of_repliesTo ?_
    by_cases asked : ledger.asked.length ≤ caller
    · rw [strangers caller asked]
      exact Nat.zero_le 1
    · exact length_repliesTo_le
        (accounted.call valid (List.getElem?_eq_getElem (Nat.lt_of_not_le asked)))

/-- Whatever a caller was let through with is let through no longer once it is queued. -/
theorem not_admitted_submit (server : Server) (caller : Nat) :
    caller ∉ callersOf (server.submit caller).admitted := by
  intro member
  obtain ⟨request, held, from_⟩ := mem_callersOf.mp member
  unfold submit at held
  split at held
  next none => exact List.find?_eq_none.mp none request held (decide_eq_true from_)
  next =>
    dsimp only at held
    split at held <;> simp [from_] at held

/-- However many callers ask something and however many shut the projector down, with all their
steps and all that clients do in any order: the requests in front of the first one to stop are
handled in order, nothing behind it is, and each caller is told one thing, its answer or that the
projector is shut down.  All in front of the first one to stop are handled within as many turns of
the dispatcher as requests wait, and by then a caller whose request has been queued is told. -/
theorem shutdown_orderly (started : start c network = .ok first)
    (passes : Passes {} first ledger server) :
    server.Orderly first.emulation.dispatcher ledger ∧
    (∀ ledger' after, Passes ledger server ledger' after →
      ledger.turns + server.emulation.queue.length ≤ ledger'.turns →
      ledger.queued.takeWhile (· ≠ .stop) <+: ledger'.handled) ∧
    ∀ caller inquiry, ledger.asked[caller]? = some inquiry →
      let submitted := (server.step (.submit caller)).1
      ∀ ledger' after, Passes (ledger.record server (.submit caller)) submitted ledger' after →
        ledger.turns + submitted.emulation.queue.length ≤ ledger'.turns →
        ∃ reply, after.desk.repliesTo caller = [reply] := by
  refine ⟨orderly started passes, fun ledger' after later turns => ?_,
    fun caller inquiry known => ?_⟩
  · exact later.isPrefix_takeWhile (passes.accounted_of_start started) turns
  intro submitted ledger' after later turns
  have submits : Passes {} first (ledger.record server (.submit caller)) submitted :=
    passes.event fun _ _ _ => ServerEvent.noConfusion
  have known' : (ledger.record server (.submit caller)).asked[caller]? = some inquiry := by
    simp only [Ledger.record, asking, List.append_nil, known]
  exact later.answered (valid_start started) (submits.accounted_of_start started) known'
    (server.not_admitted_submit caller) turns

/-- A caller makes the lamp warm up.  Another one is let through just before the projector is shut
down, twice at once, and its request comes to stand between the two to stop.  A third one comes when
the shutdown has begun. -/
theorem shutdown_orderly_overtaken :
    let begun : List ServerEvent := [.inquire (.set .power "Warming"), .submit 0,
      .inquire (.get .power), .shutdown, .shutdown, .cancel, .stop, .inquire (.get .power)]
    let rest : List ServerEvent := [.cancel, .stop, .dispatch, .dispatch, .dispatch]
    ∃ first, start {} ({} : Net.Isolated) = .ok first ∧
      let server := (first.run begun).1
      let ledger := ({} : Ledger).recordAll first begun
      let submitted := (server.step (.submit 1)).1
      let after := (submitted.run rest).1
      let ledger' := (ledger.record server (.submit 1)).recordAll submitted rest
      after.Orderly first.emulation.dispatcher ledger' ∧
      ledger'.queued = [.setStatus 0 .power "Warming", .stop, .getStatus 1 .power, .stop] ∧
      ledger'.handled = [.setStatus 0 .power "Warming", .stop] ∧
      after.desk.repliesTo 0 = [.ok none] ∧ after.desk.repliesTo 1 = [.error stopped] ∧
      after.desk.repliesTo 2 = [.error stopped] ∧ ∃ reply, after.desk.repliesTo 1 = [reply] := by
  intro begun rest
  have computed : ∃ first, start {} ({} : Net.Isolated) = .ok first ∧
      let server := (first.run begun).1
      let ledger := ({} : Ledger).recordAll first begun
      let submitted := (server.step (.submit 1)).1
      let after := (submitted.run rest).1
      let ledger' := (ledger.record server (.submit 1)).recordAll submitted rest
      ledger'.queued = [.setStatus 0 .power "Warming", .stop, .getStatus 1 .power, .stop] ∧
      ledger'.handled = [.setStatus 0 .power "Warming", .stop] ∧
      after.desk.repliesTo 0 = [.ok none] ∧ after.desk.repliesTo 1 = [.error stopped] ∧
      after.desk.repliesTo 2 = [.error stopped] ∧ ledger.asked[1]? = some (.get .power) ∧
      ledger.turns + submitted.emulation.queue.length ≤ ledger'.turns :=
    ⟨_, rfl, by decide +kernel⟩
  obtain ⟨first, started, queued, handled, owner, overtaken, late, asked, turns⟩ := computed
  have begins : Passes {} first (({} : Ledger).recordAll first begun) (first.run begun).1 :=
    Passes.refl.run (by simp [begun])
  let submitting := (({} : Ledger).recordAll first begun).record (first.run begun).1 (.submit 1)
  let submitted := ((first.run begun).1.step (.submit 1)).1
  have submits : Passes {} first submitting submitted :=
    begins.event fun _ _ _ => ServerEvent.noConfusion
  have goes : Passes submitting submitted (submitting.recordAll submitted rest)
      (submitted.run rest).1 :=
    Passes.refl.run (by simp [rest])
  obtain ⟨-, -, answered⟩ := shutdown_orderly started begins
  exact ⟨first, started, (shutdown_orderly started (submits.trans goes)).1, queued, handled, owner,
    overtaken, late, answered 1 _ asked _ _ goes turns⟩

end Server

end ProjectorControl
