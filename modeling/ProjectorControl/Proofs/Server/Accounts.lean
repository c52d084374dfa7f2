import Mathlib.Data.List.Nodup
import ProjectorControl.Proofs.Server.Desk

/-!
# The books of a desk

What has gone over the desk of a server is kept in three lists: what the owner has asked, what was
queued, and what was handled.  `Desk.Accounted` says how the desk follows from them.  Requests are
handled in the order in which they were queued, up to the first one to stop (`Desk.Order`); the
dispatcher is what handling them makes of it, and the answers are those that came of it.

Of each caller there is one inquiry, and it is in one place: let through, queued, or turned away.
So the callers in these places, put together, are all callers with none repeated, and each move of
the desk takes a caller from one place to the next (`Desk.Accounted.move`).
-/

namespace ProjectorControl

/-! ## Callers of requests -/

section

variable {caller : Nat} {request : Request} {requests earlier later : List Request}

@[simp] theorem callersOf_append (earlier later : List Request) :
    callersOf (earlier ++ later) = callersOf earlier ++ callersOf later :=
  List.filterMap_append

theorem callersOf_singleton (asked : request.caller? = some caller) :
    callersOf [request] = [caller] := by
  simp [callersOf, asked]

@[simp] theorem caller?_toRequest (caller : Nat) (inquiry : Inquiry) :
    (inquiry.toRequest caller).caller? = some caller := by
  cases inquiry <;> rfl

theorem exists_toRequest_of_caller? (asked : request.caller? = some caller) :
    ∃ inquiry : Inquiry, request = inquiry.toRequest caller := by
  cases request with
  | packet | powerTimer | stop => cases asked
  | setStatus _ field value => cases asked; exact ⟨.set field value, rfl⟩
  | getStatus _ field => cases asked; exact ⟨.get field, rfl⟩

theorem mem_callersOf : caller ∈ callersOf requests ↔
    ∃ request ∈ requests, request.caller? = some caller :=
  List.mem_filterMap

theorem mem_callersOf_toRequest {inquiry : Inquiry}
    (member : inquiry.toRequest caller ∈ requests) : caller ∈ callersOf requests :=
  mem_callersOf.mpr ⟨_, member, caller?_toRequest caller inquiry⟩

/-- Requests of nobody are not from a caller. -/
theorem caller?_of_callersOf_eq_nil (nobody : callersOf requests = [])
    (member : request ∈ requests) : request.caller? = none :=
  List.filterMap_eq_nil_iff.mp nobody request member

/-- What stands in front of the first request to stop. -/
theorem takeWhile_ne_stop (first : .stop ∉ earlier) :
    (earlier ++ .stop :: later).takeWhile (· ≠ .stop) = earlier := by
  have going : ∀ request ∈ earlier, decide (request ≠ .stop) = true :=
    fun request member => decide_eq_true fun same => first (same ▸ member)
  rw [List.takeWhile_append_of_pos going, List.takeWhile_cons_of_neg (by simp), List.append_nil]

/-- A caller who is listed once has one request. -/
theorem not_mem_callersOf_of_nodup {inquiry : Inquiry} {before behind : List Request}
    (once : (callersOf (before ++ inquiry.toRequest caller :: behind)).Nodup) :
    caller ∉ callersOf (before ++ behind) := by
  rw [← List.singleton_append, callersOf_append, callersOf_append,
    callersOf_singleton (caller?_toRequest caller inquiry), List.singleton_append,
    List.nodup_middle, List.nodup_cons] at once
  rw [callersOf_append]
  exact once.1

/-- A caller who is listed once is taken out with its request. -/
theorem perm_callersOf_filter (once : (callersOf requests).Nodup) (member : request ∈ requests)
    (asked : request.caller? = some caller) :
    (callersOf requests).Perm
      (caller :: callersOf (requests.filter fun r => r.caller? ≠ some caller)) := by
  have rest : callersOf (requests.filter fun r => r.caller? ≠ some caller) =
      (callersOf requests).erase caller := by
    rw [once.erase_eq_filter, callersOf, callersOf, List.filterMap_filter, List.filter_filterMap]
    refine congrArg (List.filterMap · requests) (funext fun r => ?_)
    cases r.caller? with
    | none => simp
    | some other => by_cases same : other = caller <;> simp [same, Option.filter]
  rw [rest]
  exact List.perm_cons_erase (mem_callersOf.mpr ⟨request, member, asked⟩)

end

/-! ## Runs of a dispatcher -/

namespace Dispatcher

/-- All that comes of some requests, in order. -/
def effects (d : Dispatcher) : List Request → List DispatchEffect
  | [] => []
  | request :: later => (d.handle request).2 ++ (d.handle request).1.effects later

theorem effects_append (d : Dispatcher) (earlier later : List Request) :
    d.effects (earlier ++ later) = d.effects earlier ++ (d.run earlier).effects later := by
  induction earlier generalizing d with
  | nil => rfl
  | cons request earlier ih => rw [List.cons_append, effects, ih, effects, List.append_assoc]; rfl

theorem effects_concat (d : Dispatcher) (earlier : List Request) (request : Request) :
    d.effects (earlier ++ [request]) =
      d.effects earlier ++ ((d.run earlier).handle request).2 := by
  rw [effects_append, effects, effects, List.append_nil]

/-- What a caller is answered when some requests are handled. -/
def repliesTo (d : Dispatcher) (caller : Nat) (requests : List Request) : List StatusReply :=
  ((answers (d.effects requests)).filter fun a => a.1 = caller).map Prod.snd

variable {d : Dispatcher} {caller : Nat}

theorem repliesTo_append (d : Dispatcher) (caller : Nat) (earlier later : List Request) :
    d.repliesTo caller (earlier ++ later) =
      d.repliesTo caller earlier ++ (d.run earlier).repliesTo caller later := by
  simp only [repliesTo, effects_append, answers_append, List.filter_append, List.map_append]

theorem repliesTo_of_other (valid : d.Valid) {request : Request}
    (other : request.caller? ≠ some caller) : d.repliesTo caller [request] = [] := by
  rw [repliesTo, effects, effects, List.append_nil]
  cases asked : request.caller? with
  | none => rw [answers_handle_of_caller?_eq_none valid asked]; rfl
  | some number =>
      obtain ⟨inquiry, rfl⟩ := exists_toRequest_of_caller? asked
      have away : number ≠ caller := fun same => other (by rw [asked, same])
      rw [answers_handle_toRequest]
      simp [away]

theorem repliesTo_toRequest (d : Dispatcher) (caller : Nat) (inquiry : Inquiry) :
    d.repliesTo caller [inquiry.toRequest caller] = [d.answerTo inquiry] := by
  rw [repliesTo, effects, effects, List.append_nil, answers_handle_toRequest]
  simp

/-- A caller who asks nothing is answered nothing. -/
theorem repliesTo_eq_nil (valid : d.Valid) {requests : List Request}
    (silent : caller ∉ callersOf requests) : d.repliesTo caller requests = [] := by
  induction requests generalizing d with
  | nil => rfl
  | cons request later ih =>
      have other : request.caller? ≠ some caller := fun asked =>
        silent (mem_callersOf.mpr ⟨request, List.mem_cons_self, asked⟩)
      have rest : caller ∉ callersOf later := fun member =>
        silent (callersOf_append [request] later ▸ List.mem_append_right _ member)
      rw [← List.singleton_append, repliesTo_append, repliesTo_of_other valid other,
        ih (valid.run [request]) rest, List.append_nil]

/-- A caller who asks once is answered once, by the dispatcher that the requests in front have
made. -/
theorem repliesTo_eq_singleton (valid : d.Valid) {inquiry : Inquiry} {before behind : List Request}
    (once : caller ∉ callersOf (before ++ behind)) :
    d.repliesTo caller (before ++ inquiry.toRequest caller :: behind) =
      [(d.run before).answerTo inquiry] := by
  rw [callersOf_append, List.mem_append, not_or] at once
  have after := (valid.run before).run [inquiry.toRequest caller]
  rw [← List.singleton_append, repliesTo_append, repliesTo_append, repliesTo_eq_nil valid once.1,
    repliesTo_toRequest, repliesTo_eq_nil after once.2, List.append_nil, List.nil_append]

end Dispatcher

/-! ## Accounts -/

namespace Desk

/-- How far a dispatcher has come with what was queued: whether it has stopped, what waits, and what
was queued in vain. -/
inductive Order (queued handled : List Request) : Bool → List Request → List Request → Prop where
  /-- All that was not handled waits. -/
  | runs {queue : List Request} :
      queued = handled ++ queue → .stop ∉ handled → Order queued handled false queue []
  /-- The last request that was handled was the first one to stop. -/
  | ended {before behind queue : List Request} :
      handled = before ++ [.stop] → .stop ∉ before → queued = handled ++ behind →
      callersOf queue = [] → Order queued handled true queue behind

/-- How a desk follows from what was asked, queued and handled, if it began with some dispatcher. -/
structure Accounted (d : Dispatcher) (asked : List Inquiry) (queued handled : List Request)
    (s : Desk) : Prop where
  /-- The dispatcher is what the requests that were handled have made of it. -/
  state : s.dispatcher = d.run handled
  /-- Nothing else was answered. -/
  answers : s.answers = Dispatcher.answers (d.effects handled)
  /-- Each inquiry is a caller's. -/
  callers : s.callers = asked.length
  /-- The requests of callers are what they have asked. -/
  requests : ∀ request, request ∈ s.admitted ∨ request ∈ queued → ∀ caller,
    request.caller? = some caller →
    ∃ inquiry, asked[caller]? = some inquiry ∧ request = inquiry.toRequest caller
  /-- Each caller was let through, queued or turned away.  Those who were turned away or queued in
  vain are refused. -/
  places : ∃ turned lost, Order queued handled s.stopped s.queue lost ∧
    (callersOf s.admitted ++ (callersOf queued ++ turned)).Perm (List.range s.callers) ∧
    s.refused.Perm (turned ++ callersOf lost)

namespace Order

variable {queued handled queue lost requests : List Request} {stopped : Bool}

theorem of_running (order : Order queued handled false queue lost) :
    queued = handled ++ queue ∧ .stop ∉ handled ∧ lost = [] := by
  cases order with
  | runs whole going => exact ⟨whole, going, rfl⟩

theorem isPrefix_handled (order : Order queued handled stopped queue lost) :
    handled <+: queued := by
  cases order with
  | runs whole => exact whole ▸ List.prefix_append _ _
  | ended _ _ whole => exact whole ▸ List.prefix_append _ _

/-- Ahead of a request that was handled, there is none to stop. -/
theorem not_stop_of_handled {request : Request} {before behind : List Request}
    (order : Order queued (before ++ request :: behind) stopped queue lost) :
    .stop ∉ before := by
  generalize whole : before ++ request :: behind = handled at order
  cases order with
  | runs _ going => exact fun member => going (whole ▸ List.mem_append_left _ member)
  | @ended front _ _ last first =>
      have same : before ++ (request :: behind).dropLast = front := by
        rw [← List.dropLast_append_of_ne_nil (List.cons_ne_nil _ _), whole, last,
          List.dropLast_concat]
      exact fun member => first (same ▸ List.mem_append_left _ member)

/-- What was queued and not handled waits, or it was queued in vain. -/
theorem rest_cases {rest : List Request}
    (order : Order (handled ++ rest) handled stopped queue lost) :
    (stopped = false ∧ queue = rest ∧ lost = []) ∨
      (stopped = true ∧ lost = rest ∧
        ∃ before, handled = before ++ [.stop] ∧ .stop ∉ before) := by
  generalize whole : handled ++ rest = queued at order
  cases order with
  | runs same => exact .inl ⟨rfl, (List.append_cancel_left (whole.trans same)).symm, rfl⟩
  | ended last first same =>
      exact .inr ⟨rfl, (List.append_cancel_left (whole.trans same)).symm, _, last, first⟩

theorem mem_queued_of_lost (order : Order queued handled stopped queue lost) {caller : Nat}
    (member : caller ∈ callersOf lost) : caller ∈ callersOf queued := by
  cases order with
  | runs => exact absurd member List.not_mem_nil
  | ended _ _ whole =>
      rw [whole, callersOf_append]
      exact List.mem_append_right _ member

theorem queues (order : Order queued handled stopped queue lost)
    (nobody : callersOf requests = []) :
    ∃ lost', Order (queued ++ requests) handled stopped (queue ++ requests) lost' ∧
      callersOf lost' = callersOf lost := by
  cases order with
  | runs whole going => exact ⟨[], .runs (by rw [whole, List.append_assoc]) going, rfl⟩
  | ended last first whole empty =>
      refine ⟨lost ++ requests, .ended last first (by rw [whole, List.append_assoc]) ?_, ?_⟩
      · rw [callersOf_append, empty, nobody, List.append_nil]
      · rw [callersOf_append, nobody, List.append_nil]

theorem submits (order : Order queued handled false queue lost) (request : Request) :
    Order (queued ++ [request]) handled false (queue ++ [request]) [] := by
  obtain ⟨whole, going, -⟩ := order.of_running
  exact .runs (by rw [whole, List.append_assoc]) going

theorem handles {request : Request} {later : List Request}
    (order : Order queued handled false (request :: later) lost) (going : request ≠ .stop) :
    Order queued (handled ++ [request]) false later [] := by
  obtain ⟨whole, before, -⟩ := order.of_running
  refine .runs (by rw [whole, List.append_assoc]; rfl) fun member => ?_
  exact (List.mem_append.mp member).elim before fun last =>
    going (List.mem_singleton.mp last).symm

theorem stops {later : List Request}
    (order : Order queued handled false (.stop :: later) lost) :
    Order queued (handled ++ [.stop]) true [] later := by
  obtain ⟨whole, going, -⟩ := order.of_running
  exact .ended rfl going (by rw [whole, List.append_assoc]; rfl) rfl

theorem forgets (order : Order queued handled true queue lost) :
    Order queued handled true [] lost ∧ callersOf queue.tail = [] := by
  cases order with
  | ended last first whole empty =>
      refine ⟨.ended last first whole rfl, ?_⟩
      cases queue with
      | nil => rfl
      | cons request later =>
          rw [← List.singleton_append, callersOf_append] at empty
          exact (List.append_eq_nil_iff.mp empty).2

end Order

namespace Accounted

variable {d : Dispatcher} {asked more : List Inquiry}
  {queued handled entering leaving : List Request} {s after : Desk}

theorem nodup_admitted (accounted : Accounted d asked queued handled s) :
    (callersOf s.admitted).Nodup := by
  obtain ⟨turned, lost, -, places, -⟩ := accounted.places
  exact (List.nodup_append.mp (places.nodup_iff.mpr List.nodup_range)).1

/-- An inquiry is noted under the number of its caller. -/
theorem asks (accounted : Accounted d asked queued handled s) (inquiry : Inquiry) :
    ∀ request, request ∈ s.admitted ++ [inquiry.toRequest s.callers] ∨ request ∈ queued →
      ∀ caller, request.caller? = some caller →
        ∃ found, (asked ++ [inquiry])[caller]? = some found ∧
          request = found.toRequest caller := by
  intro request held caller from_
  by_cases known : request ∈ s.admitted ∨ request ∈ queued
  · obtain ⟨found, listed, same⟩ := accounted.requests request known caller from_
    refine ⟨found, ?_, same⟩
    rw [List.getElem?_append_left (List.getElem?_eq_some_iff.mp listed).1, listed]
  · rw [List.mem_append, List.mem_singleton] at held
    have new : request = inquiry.toRequest s.callers := by tauto
    subst new
    rw [caller?_toRequest] at from_
    cases from_
    exact ⟨inquiry, by rw [accounted.callers, List.getElem?_concat_length], rfl⟩

theorem queues (accounted : Accounted d asked queued handled s)
    (nobody : callersOf entering = []) :
    Accounted d asked (queued ++ entering) handled { s with queue := s.queue ++ entering } := by
  obtain ⟨turned, lost, order, places, refused⟩ := accounted.places
  obtain ⟨lost', order', same⟩ := order.queues nobody
  refine ⟨accounted.state, accounted.answers, accounted.callers, fun request held caller own => ?_,
    turned, lost', order', ?_, ?_⟩
  · rw [List.mem_append, ← or_assoc] at held
    rcases held with known | new
    · exact accounted.requests request known caller own
    · exact nomatch (caller?_of_callersOf_eq_nil nobody new).symm.trans own
  · rw [callersOf_append, nobody, List.append_nil]
    exact places
  · rw [same]
    exact refused

theorem admits (accounted : Accounted d asked queued handled s) (inquiry : Inquiry) :
    Accounted d (asked ++ [inquiry]) queued handled
      { s with
        admitted := s.admitted ++ [inquiry.toRequest s.callers]
        callers := s.callers + 1 } := by
  obtain ⟨turned, lost, order, places, refused⟩ := accounted.places
  refine ⟨accounted.state, accounted.answers, by simp [accounted.callers],
    accounted.asks inquiry, turned, lost, order, ?_, refused⟩
  rw [callersOf_append, callersOf_singleton (caller?_toRequest _ _), List.range_succ]
  refine List.Perm.trans ?_ (places.append_right [s.callers])
  rw [List.append_assoc, List.append_assoc]
  exact (List.perm_append_comm).append_left _

theorem refuses (accounted : Accounted d asked queued handled s) (inquiry : Inquiry) :
    Accounted d (asked ++ [inquiry]) queued handled
      { s with refused := s.refused ++ [s.callers], callers := s.callers + 1 } := by
  obtain ⟨turned, lost, order, places, refused⟩ := accounted.places
  refine ⟨accounted.state, accounted.answers, by simp [accounted.callers],
    fun request held => accounted.asks inquiry request (held.imp_left (List.mem_append_left _)),
    turned ++ [s.callers], lost, order, ?_, ?_⟩
  · rw [List.range_succ, ← List.append_assoc, ← List.append_assoc, List.append_assoc _ _ turned]
    exact places.append_right [s.callers]
  · refine (refused.append_right _).trans ?_
    rw [List.append_assoc, List.append_assoc]
    exact (List.perm_append_comm).append_left _

/-- A caller whose request is taken from among those that were let through is put elsewhere. -/
theorem places_of_taken (accounted : Accounted d asked queued handled s) {request : Request}
    {caller : Nat} {turned : List Nat} (member : request ∈ s.admitted)
    (from_ : request.caller? = some caller)
    (places : (callersOf s.admitted ++ (callersOf queued ++ turned)).Perm
      (List.range s.callers)) :
    (callersOf (s.admitted.filter fun r => r.caller? ≠ some caller) ++
      (caller :: (callersOf queued ++ turned))).Perm (List.range s.callers) := by
  refine List.Perm.trans ?_ places
  have taken := perm_callersOf_filter accounted.nodup_admitted member from_
  exact List.perm_middle.trans (taken.symm.append_right _)

theorem submits (accounted : Accounted d asked queued handled s) {request : Request}
    {caller : Nat} (member : request ∈ s.admitted) (from_ : request.caller? = some caller)
    (running : s.stopped = false) :
    Accounted d asked (queued ++ [request]) handled
      { s with
        queue := s.queue ++ [request]
        admitted := s.admitted.filter fun r => r.caller? ≠ some caller } := by
  obtain ⟨turned, lost, order, places, refused⟩ := accounted.places
  rw [running] at order
  obtain ⟨-, -, rfl⟩ := order.of_running
  refine ⟨accounted.state, accounted.answers, accounted.callers, fun other held => ?_,
    turned, [], running.symm ▸ order.submits request, ?_, refused⟩
  · refine accounted.requests other ?_
    rcases held with kept | new
    · exact .inl (List.mem_filter.mp kept).1
    · rcases List.mem_append.mp new with before | last
      · exact .inr before
      · exact .inl (List.mem_singleton.mp last ▸ member)
  · refine List.Perm.trans ?_ (accounted.places_of_taken member from_ places)
    rw [callersOf_append, callersOf_singleton from_, List.append_assoc]
    exact List.Perm.append_left _ List.perm_middle

theorem returns (accounted : Accounted d asked queued handled s) {request : Request}
    {caller : Nat} (member : request ∈ s.admitted) (from_ : request.caller? = some caller) :
    Accounted d asked queued handled
      { s with
        admitted := s.admitted.filter fun r => r.caller? ≠ some caller
        refused := s.refused ++ [caller] } := by
  obtain ⟨turned, lost, order, places, refused⟩ := accounted.places
  refine ⟨accounted.state, accounted.answers, accounted.callers,
    fun other held => accounted.requests other
      (held.imp_left fun kept => (List.mem_filter.mp kept).1),
    caller :: turned, lost, order, ?_, ?_⟩
  · refine List.Perm.trans ?_ (accounted.places_of_taken member from_ places)
    exact List.Perm.append_left _ List.perm_middle
  · exact List.perm_append_comm.trans (refused.cons caller)

theorem handles (accounted : Accounted d asked queued handled s) {request : Request}
    {later : List Request} (running : s.stopped = false) (first : s.queue = request :: later)
    (going : request ≠ .stop) :
    Accounted d asked queued (handled ++ [request])
      { s with
        dispatcher := (s.dispatcher.handle request).1
        queue := later
        answers := s.answers ++ Dispatcher.answers (s.dispatcher.handle request).2 } := by
  obtain ⟨turned, lost, order, places, refused⟩ := accounted.places
  rw [running, first] at order
  obtain ⟨-, -, rfl⟩ := order.of_running
  refine ⟨?_, ?_, accounted.callers, accounted.requests, turned, [],
    running.symm ▸ order.handles going, places, refused⟩
  · rw [Dispatcher.run_concat, ← accounted.state]
  · rw [Dispatcher.effects_concat, Dispatcher.answers_append, ← accounted.answers,
      ← accounted.state]

theorem stops (accounted : Accounted d asked queued handled s) {later : List Request}
    (running : s.stopped = false) (first : s.queue = .stop :: later) :
    Accounted d asked queued (handled ++ [.stop])
      { s with
        dispatcher := (s.dispatcher.handle .stop).1
        queue := []
        stopped := true
        answers := s.answers ++ Dispatcher.answers (s.dispatcher.handle .stop).2
        refused := s.refused ++ callersOf later } := by
  obtain ⟨turned, lost, order, places, refused⟩ := accounted.places
  rw [running, first] at order
  obtain ⟨-, -, rfl⟩ := order.of_running
  refine ⟨?_, ?_, accounted.callers, accounted.requests, turned, later, order.stops, places, ?_⟩
  · rw [Dispatcher.run_concat, ← accounted.state]
  · rw [Dispatcher.effects_concat, Dispatcher.answers_append, ← accounted.answers,
      ← accounted.state]
  · refine List.Perm.append_right _ (refused.trans ?_)
    rw [callersOf, List.filterMap_nil, List.append_nil]

theorem forgets (accounted : Accounted d asked queued handled s) (stopped : s.stopped = true) :
    Accounted d asked queued handled
      { s with queue := [], refused := s.refused ++ callersOf s.queue.tail } := by
  obtain ⟨turned, lost, order, places, refused⟩ := accounted.places
  rw [stopped] at order
  obtain ⟨order', nobody⟩ := order.forgets
  refine ⟨accounted.state, accounted.answers, accounted.callers, accounted.requests, turned, lost,
    stopped.symm ▸ order', places, ?_⟩
  rw [nobody, List.append_nil]
  exact refused

/-- Whatever is done at the desk, the books are kept. -/
theorem move (accounted : Accounted d asked queued handled s)
    (move : s.Move more entering leaving after) :
    Accounted d (asked ++ more) (queued ++ entering) (handled ++ leaving) after := by
  cases move with
  | queues nobody => simpa only [List.append_nil] using accounted.queues nobody
  | admits inquiry => simpa only [List.append_nil] using accounted.admits inquiry
  | refuses inquiry => simpa only [List.append_nil] using accounted.refuses inquiry
  | submits member from_ running =>
      simpa only [List.append_nil] using accounted.submits member from_ running
  | returns member from_ => simpa only [List.append_nil] using accounted.returns member from_
  | handles running first going =>
      simpa only [List.append_nil] using accounted.handles running first going
  | stops running first => simpa only [List.append_nil] using accounted.stops running first
  | forgets stopped => simpa only [List.append_nil] using accounted.forgets stopped

end Accounted

/-! ## Calls -/

/-- All that a caller is told. -/
def repliesTo (s : Desk) (caller : Nat) : List StatusReply :=
  ((s.answers.filter fun a => a.1 = caller).map Prod.snd) ++
    List.replicate (s.refused.count caller) (.error Server.stopped)

/-- How far the call has come with which a caller asks something: what it was told, and why. -/
inductive Call (d : Dispatcher) (queued : List Request) (s : Desk) (caller : Nat)
    (inquiry : Inquiry) : Prop where
  /-- It was let through, and its request is still to be queued. -/
  | admitted :
      inquiry.toRequest caller ∈ s.admitted → caller ∉ callersOf queued →
      s.repliesTo caller = [] → Call d queued s caller inquiry
  /-- Its request waits for a dispatcher that runs. -/
  | waiting :
      s.stopped = false → inquiry.toRequest caller ∈ s.queue → s.repliesTo caller = [] →
      Call d queued s caller inquiry
  /-- Its request was queued ahead of all that stop, and was answered by the dispatcher that the
  requests in front of it have made. -/
  | answered {before behind : List Request} :
      queued = before ++ inquiry.toRequest caller :: behind →
      caller ∉ callersOf (before ++ behind) → .stop ∉ before →
      s.repliesTo caller = [(d.run before).answerTo inquiry] → Call d queued s caller inquiry
  /-- Its request was not queued ahead of all that stop, and it was refused. -/
  | closed :
      inquiry.toRequest caller ∉ queued.takeWhile (· ≠ .stop) →
      s.repliesTo caller = [.error Server.stopped] → Call d queued s caller inquiry

namespace Accounted

variable {d : Dispatcher} {asked : List Inquiry} {queued handled : List Request} {s : Desk}
  {caller : Nat} {inquiry : Inquiry}

theorem repliesTo_eq (accounted : Accounted d asked queued handled s) (caller : Nat) :
    s.repliesTo caller = d.repliesTo caller handled ++
      List.replicate (s.refused.count caller) (.error Server.stopped) := by
  rw [repliesTo, accounted.answers]
  rfl

/-- A request of a caller is the one for what the caller has asked. -/
theorem toRequest_of_caller (accounted : Accounted d asked queued handled s)
    (known : asked[caller]? = some inquiry) {request : Request}
    (held : request ∈ s.admitted ∨ request ∈ queued) (from_ : request.caller? = some caller) :
    request = inquiry.toRequest caller := by
  obtain ⟨found, listed, same⟩ := accounted.requests request held caller from_
  cases known.symm.trans listed
  exact same

/-- As long as the dispatcher runs, all that was queued was handled or waits. -/
theorem of_running (accounted : Accounted d asked queued handled s)
    (running : s.stopped = false) : queued = handled ++ s.queue ∧ .stop ∉ handled := by
  obtain ⟨turned, lost, order, -⟩ := accounted.places
  rw [running] at order
  exact ⟨order.of_running.1, order.of_running.2.1⟩

/-- Once it has stopped, what was handled is all in front of the first request to stop, and that
request. -/
theorem of_stopped (accounted : Accounted d asked queued handled s) (stopped : s.stopped = true) :
    .stop ∈ queued ∧ handled = queued.takeWhile (· ≠ .stop) ++ [.stop] := by
  obtain ⟨turned, lost, order, -⟩ := accounted.places
  rw [stopped] at order
  cases order with
  | ended last first whole =>
      rw [whole, last, List.append_assoc, List.singleton_append, takeWhile_ne_stop first]
      exact ⟨List.mem_append_right _ List.mem_cons_self, rfl⟩

theorem isPrefix_handled (accounted : Accounted d asked queued handled s) : handled <+: queued := by
  obtain ⟨turned, lost, order, -⟩ := accounted.places
  exact order.isPrefix_handled

theorem nodup_queued (accounted : Accounted d asked queued handled s) :
    (callersOf queued).Nodup := by
  obtain ⟨turned, lost, -, places, -⟩ := accounted.places
  obtain ⟨-, rest, -⟩ := List.nodup_append.mp (places.nodup_iff.mpr List.nodup_range)
  exact (List.nodup_append.mp rest).1

theorem mem_callersOf_queued (accounted : Accounted d asked queued handled s)
    (member : caller ∈ callersOf handled) : caller ∈ callersOf queued := by
  obtain ⟨request, taken, from_⟩ := mem_callersOf.mp member
  exact mem_callersOf.mpr ⟨request, accounted.isPrefix_handled.subset taken, from_⟩

theorem repliesTo_of_silent (valid : d.Valid) (accounted : Accounted d asked queued handled s)
    (unhandled : caller ∉ callersOf handled) (unrefused : caller ∉ s.refused) :
    s.repliesTo caller = [] := by
  rw [accounted.repliesTo_eq, Dispatcher.repliesTo_eq_nil valid unhandled,
    List.count_eq_zero.mpr unrefused]
  rfl

/-- Nobody is told anything who has not asked. -/
theorem repliesTo_of_stranger (valid : d.Valid) (accounted : Accounted d asked queued handled s)
    (stranger : asked.length ≤ caller) : s.repliesTo caller = [] := by
  obtain ⟨turned, lost, order, places, refused⟩ := accounted.places
  have away : caller ∉ callersOf s.admitted ++ (callersOf queued ++ turned) := by
    rw [places.mem_iff, List.mem_range, accounted.callers]
    exact Nat.not_lt_of_le stranger
  simp only [List.mem_append, not_or] at away
  refine accounted.repliesTo_of_silent valid (away.2.1 ∘ accounted.mem_callersOf_queued) ?_
  rw [refused.mem_iff, List.mem_append, not_or]
  exact ⟨away.2.2, away.2.1 ∘ order.mem_queued_of_lost⟩

theorem repliesTo_of_refused (valid : d.Valid) (accounted : Accounted d asked queued handled s)
    (unhandled : caller ∉ callersOf handled) (once : s.refused.count caller = 1) :
    s.repliesTo caller = [.error Server.stopped] := by
  rw [accounted.repliesTo_eq, Dispatcher.repliesTo_eq_nil valid unhandled, once]
  rfl

theorem repliesTo_of_handled (valid : d.Valid) {before behind : List Request}
    (accounted : Accounted d asked queued (before ++ inquiry.toRequest caller :: behind) s)
    (once : caller ∉ callersOf (before ++ behind)) (unrefused : caller ∉ s.refused) :
    s.repliesTo caller = [(d.run before).answerTo inquiry] := by
  rw [accounted.repliesTo_eq, Dispatcher.repliesTo_eq_singleton valid once,
    List.count_eq_zero.mpr unrefused]
  rfl

/-- A call whose request was queued has been answered, or waits, or was refused when the dispatcher
stopped. -/
theorem call_of_queued (valid : d.Valid) (accounted : Accounted d asked queued handled s)
    {lost : List Request} (order : Order queued handled s.stopped s.queue lost)
    (once : (callersOf queued).Nodup) (member : inquiry.toRequest caller ∈ queued)
    (refusals : s.refused.count caller = (callersOf lost).count caller) :
    Call d queued s caller inquiry := by
  obtain ⟨rest, rfl⟩ := order.isPrefix_handled
  by_cases taken : inquiry.toRequest caller ∈ handled
  · obtain ⟨before, behind, rfl⟩ := List.append_of_mem taken
    rw [List.append_assoc, List.cons_append] at once
    have alone := not_mem_callersOf_of_nodup once
    simp only [callersOf_append, List.mem_append, not_or] at alone
    have unlost : caller ∉ callersOf lost := by
      obtain ⟨-, -, rfl⟩ | ⟨-, rfl, -⟩ := order.rest_cases
      · exact List.not_mem_nil
      · exact alone.2.2
    have unrefused := List.count_eq_zero.mp (refusals.trans (List.count_eq_zero.mpr unlost))
    have whole : before ++ inquiry.toRequest caller :: behind ++ rest =
        before ++ inquiry.toRequest caller :: (behind ++ rest) := by
      rw [List.append_assoc, List.cons_append]
    refine .answered whole ?_ order.not_stop_of_handled
      (accounted.repliesTo_of_handled valid ?_ unrefused)
    · simpa only [callersOf_append, List.mem_append, not_or] using alone
    · simpa only [callersOf_append, List.mem_append, not_or] using ⟨alone.1, alone.2.1⟩
  · have behind : inquiry.toRequest caller ∈ rest :=
      (List.mem_append.mp member).resolve_left taken
    have later : caller ∈ callersOf rest := mem_callersOf_toRequest behind
    rw [callersOf_append, List.nodup_append] at once
    have unhandled : caller ∉ callersOf handled :=
      fun early => once.2.2 caller early caller later rfl
    obtain ⟨running, same, rfl⟩ | ⟨-, rfl, before, rfl, first⟩ := order.rest_cases
    · exact .waiting running (same ▸ behind)
        (accounted.repliesTo_of_silent valid unhandled (List.count_eq_zero.mp refusals))
    · refine .closed (fun front => taken ?_) (accounted.repliesTo_of_refused valid unhandled ?_)
      · rw [List.append_assoc, List.singleton_append, takeWhile_ne_stop first] at front
        exact List.mem_append_left _ front
      · rw [refusals, List.count_eq_one_of_mem once.2.1 later]

/-- Each call has come to one of these points. -/
theorem call (valid : d.Valid) (accounted : Accounted d asked queued handled s)
    (known : asked[caller]? = some inquiry) : Call d queued s caller inquiry := by
  obtain ⟨turned, lost, order, places, refused⟩ := accounted.places
  have numbered : caller ∈ List.range s.callers := by
    rw [List.mem_range, accounted.callers]
    exact (List.getElem?_eq_some_iff.mp known).1
  obtain ⟨-, rest, apart⟩ := List.nodup_append.mp (places.nodup_iff.mpr List.nodup_range)
  obtain ⟨queuedOnce, turnedOnce, apart'⟩ := List.nodup_append.mp rest
  have refusals : s.refused.count caller = turned.count caller + (callersOf lost).count caller := by
    rw [refused.count_eq, List.count_append]
  rcases List.mem_append.mp (places.mem_iff.mpr numbered) with admitted | later
  · -- It is nowhere else.
    have unqueued : caller ∉ callersOf queued := fun member =>
      apart caller admitted caller (List.mem_append_left _ member) rfl
    have unrefused : caller ∉ s.refused := by
      rw [refused.mem_iff, List.mem_append, not_or]
      exact ⟨fun member => apart caller admitted caller (List.mem_append_right _ member) rfl,
        fun member => unqueued (order.mem_queued_of_lost member)⟩
    obtain ⟨request, held, from_⟩ := mem_callersOf.mp admitted
    obtain rfl := accounted.toRequest_of_caller known (.inl held) from_
    exact .admitted held unqueued
      (accounted.repliesTo_of_silent valid (unqueued ∘ accounted.mem_callersOf_queued) unrefused)
  · rcases List.mem_append.mp later with among | away
    · have unturned : turned.count caller = 0 :=
        List.count_eq_zero.mpr fun member => apart' caller among caller member rfl
      obtain ⟨request, held, from_⟩ := mem_callersOf.mp among
      obtain rfl := accounted.toRequest_of_caller known (.inr held) from_
      exact accounted.call_of_queued valid order queuedOnce held
        (by rw [refusals, unturned, Nat.zero_add])
    · have unqueued : caller ∉ callersOf queued :=
        fun member => apart' caller member caller away rfl
      have unlost : (callersOf lost).count caller = 0 :=
        List.count_eq_zero.mpr (unqueued ∘ order.mem_queued_of_lost)
      have once : turned.count caller = 1 := List.count_eq_one_of_mem turnedOnce away
      refine .closed (fun front => unqueued ?_) ?_
      · exact mem_callersOf_toRequest ((List.takeWhile_prefix _).subset front)
      · exact accounted.repliesTo_of_refused valid (unqueued ∘ accounted.mem_callersOf_queued)
          (by rw [refusals, once, unlost])

end Accounted

end Desk

end ProjectorControl
