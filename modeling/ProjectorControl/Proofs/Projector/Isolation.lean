import ProjectorControl.Proofs.Projector.Faults
import ProjectorControl.Proofs.Projector.Mailboxes

/-!
# Sessions are isolated

All sessions share one dispatcher, and one of them may send whatever it likes.  The packets that are
refused, and those of all commands but the two that switch the lamp, leave no trace in the
dispatcher (`Dispatcher.handle_of_powerless`).  So a run from which any of them are left out is the
same run with their turns left out (`Dispatcher.turns_without`): nobody else can tell whether they
were sent.

What is said about a packet is said to its own session, and once at most
(`Dispatcher.Routed`).  `Dispatcher.isolated_run` says both of a projector with any settings.
-/

namespace ProjectorControl

namespace Dispatcher

/-! ## Turns -/

/-- A request that was handled. -/
structure Turn where
  /-- The request. -/
  request : Request
  /-- What came out of it. -/
  effects : List DispatchEffect
  /-- The dispatcher afterwards. -/
  after : Dispatcher

/-- What becomes of some requests, one after another.  Nothing is handled after a stop. -/
def turns (d : Dispatcher) : List Request → List Turn
  | [] => []
  | request :: later =>
    let (after, effects) := d.handle request
    ⟨request, effects, after⟩ :: if request = .stop then [] else after.turns later

variable {d : Dispatcher}

theorem turns_cons (d : Dispatcher) (request : Request) (later : List Request) :
    d.turns (request :: later) =
      ⟨request, (d.handle request).2, (d.handle request).1⟩ ::
        if request = .stop then [] else (d.handle request).1.turns later := rfl

/-- A turn is a request handled by the dispatcher that the requests before it have made. -/
theorem exists_of_mem_turns {requests : List Request} {turn : Turn}
    (member : turn ∈ d.turns requests) :
    ∃ earlier later, requests = earlier ++ turn.request :: later ∧
      (turn.after, turn.effects) = (d.run earlier).handle turn.request := by
  induction requests generalizing d with
  | nil => exact absurd member List.not_mem_nil
  | cons request later ih =>
      rw [turns_cons, List.mem_cons] at member
      rcases member with rfl | after
      · exact ⟨[], later, rfl, rfl⟩
      · split at after
        next => exact absurd after List.not_mem_nil
        next =>
          obtain ⟨earlier, rest, rfl, made⟩ := ih after
          exact ⟨request :: earlier, rest, rfl, made⟩

/-! ## Packets that leave no trace -/

/-- A list without the elements at some places. -/
def without {α : Type} (dropped : Nat → Bool) : List α → List α
  | [] => []
  | a :: later =>
    let rest := without (fun i => dropped (i + 1)) later
    if dropped 0 then rest else a :: rest

section

variable {α : Type} {dropped : Nat → Bool}

theorem without_cons_of_dropped (drop : dropped 0 = true) (a : α) (later : List α) :
    without dropped (a :: later) = without (fun i => dropped (i + 1)) later := by
  simp only [without, drop, if_true]

theorem without_cons_of_kept (keep : dropped 0 = false) (a : α) (later : List α) :
    without dropped (a :: later) = a :: without (fun i => dropped (i + 1)) later := by
  simp only [without, keep, Bool.false_eq_true, if_false]

end

/-- The request is a packet that is refused, or one for a command that does not switch the lamp. -/
def Powerless (d : Dispatcher) (request : Request) : Prop :=
  ∃ session packet, request = .packet session packet ∧
    ((∃ fault, (d.dispatch packet).1 = .error fault) ∨
      ∃ command, Command.ofPacket packet (some d.model) = .ok command ∧
        command.name ≠ "power.on" ∧ command.name ≠ "power.off")

theorem handle_of_powerless (valid : d.Valid) {request : Request}
    (powerless : d.Powerless request) : (d.handle request).1 = d := by
  obtain ⟨session, packet, rfl, why⟩ := powerless
  rw [handle_packet]
  have rule := dispatched valid packet
  generalize d.dispatch packet = outcome at rule why
  obtain ⟨result, after, effects⟩ := outcome
  simp only at rule why ⊢
  cases rule with
  | @switch command required next known switch =>
      -- The one packet that changes something is of neither kind.
      rcases why with ⟨fault, failed⟩ | ⟨command', known', on, off⟩
      · cases failed
      · obtain rfl := Except.ok.inj (known.symm.trans known')
        generalize command.name = name at switch on off
        cases switch with
        | on => exact absurd rfl on
        | off => exact absurd rfl off
  | noCommand | unknown | ignore | acknowledge | status | model => rfl

/-- Leaving out packets that leave no trace leaves out their turns and changes no other. -/
theorem turns_without (valid : d.Valid) {requests : List Request} {dropped : Nat → Bool}
    (powerless : ∀ i request, requests[i]? = some request → dropped i →
      (d.run (requests.take i)).Powerless request) :
    d.turns (without dropped requests) = without dropped (d.turns requests) := by
  induction requests generalizing d dropped with
  | nil => rfl
  | cons request later ih =>
      have valid' : (d.handle request).1.Valid := (step_handle valid request).valid valid
      have rest : (d.handle request).1.turns (without (fun i => dropped (i + 1)) later) =
          without (fun i => dropped (i + 1)) ((d.handle request).1.turns later) :=
        ih valid' fun i request' found => powerless (i + 1) request' found
      rw [turns_cons]
      cases drop : dropped 0 with
      | true =>
          have traceless := powerless 0 request rfl drop
          have going : request ≠ .stop := by
            obtain ⟨session, packet, rfl, -⟩ := traceless
            exact Request.noConfusion
          rw [without_cons_of_dropped drop, without_cons_of_dropped drop, if_neg going, ← rest,
            handle_of_powerless valid traceless]
      | false =>
          rw [without_cons_of_kept drop, without_cons_of_kept drop, turns_cons]
          split
          next => rfl
          next => rw [rest]

/-! ## Who is told what -/

/-- Who is told what about some requests. -/
structure Routed (d : Dispatcher) (requests : List Request) : Prop where
  /-- The requests have their turns in order, up to the first stop. -/
  order : (d.turns requests).map Turn.request = requests.take (requests.idxOf .stop + 1)
  /-- Only about a packet is a session told something, only its own session, and once at most. -/
  own : ∀ turn ∈ d.turns requests, (messages turn.effects).length ≤ 1 ∧
    ∀ message ∈ messages turn.effects, ∃ packet, turn.request = .packet message.1 packet
  /-- What a session is told goes to the end of its mailbox, and into no other. -/
  delivered : ∀ turn ∈ d.turns requests, ∀ (e : Emulation) (id : SessionId),
    (turn.effects.foldl Emulation.apply e).sessions.mailbox? id =
      (e.sessions.mailbox? id).map (· ++ messagesTo id turn.effects)

theorem request_turns (d : Dispatcher) (requests : List Request) :
    (d.turns requests).map Turn.request = requests.take (requests.idxOf .stop + 1) := by
  induction requests generalizing d with
  | nil => rfl
  | cons request later ih =>
      rw [turns_cons, List.map_cons, List.idxOf_cons]
      by_cases stop : request = .stop
      · subst stop
        simp
      · have other : (request == Request.stop) = false := beq_false_of_ne stop
        rw [if_neg stop, ih, other]
        rfl

theorem own_handle (valid : d.Valid) (request : Request) :
    (messages (d.handle request).2).length ≤ 1 ∧
      ∀ message ∈ messages (d.handle request).2, ∃ packet, request = .packet message.1 packet := by
  by_cases sent : ∃ session packet, request = .packet session packet
  · obtain ⟨session, packet, rfl⟩ := sent
    rw [messages_handle_packet valid]
    generalize (d.dispatch packet).1 = result
    rcases result with fault | (_ | packets) <;>
      simp [reply, messages, DispatchEffect.message?]
  · have other : ∀ session packet, request ≠ .packet session packet :=
      fun session packet same => sent ⟨session, packet, same⟩
    rw [messages_handle_other valid other]
    simp

theorem Valid.routed (valid : d.Valid) (requests : List Request) : d.Routed requests where
  order := d.request_turns requests
  own turn member := by
    obtain ⟨earlier, later, -, made⟩ := exists_of_mem_turns member
    have own := own_handle (valid.run earlier) turn.request
    rwa [← made] at own
  delivered turn _ e id := e.mailbox?_foldl_apply turn.effects id

/-- If some packets are left out that are refused or do not switch the lamp, all other requests have
the turns that they had: they leave the same dispatcher behind, with the same fields and the same
timer, and the same comes out of them.  With these packets or without, sessions are told about their
own packets only, once at most, and in order. -/
theorem isolated_run {c : EmulatorConfig} {d : Dispatcher} (accepted : ofConfig c = .ok d)
    (requests : List Request) (dropped : Nat → Bool)
    (powerless : ∀ i request, requests[i]? = some request → dropped i →
      (d.run (requests.take i)).Powerless request) :
    d.turns (without dropped requests) = without dropped (d.turns requests) ∧
      d.Routed requests ∧ d.Routed (without dropped requests) := by
  have valid : d.Valid := valid_ofConfig accepted
  exact ⟨turns_without valid powerless, valid.routed _, valid.routed _⟩

/-- A projector is switched on and off again.  Meanwhile a second session sends what is no command,
and a query. -/
theorem isolated_run_secondSession :
    let on : Packet := ⟨.basicCommand, .ofChars 'P' 'W', [0x31], by decide, by decide, by decide⟩
    let off : Packet := ⟨.basicCommand, .ofChars 'P' 'W', [0x30], by decide, by decide, by decide⟩
    let noise : Packet :=
      ⟨.basicResponse, .ofChars 'P' 'W', [], by decide, by decide, by decide⟩
    let query : Packet :=
      ⟨.advancedCommand, .ofChars 'P' 'W', [], by decide, by decide, by decide⟩
    let requests : List Request :=
      [.packet 1 on, .packet 2 noise, .packet 2 query, .powerTimer 1, .packet 3 off]
    let rest : List Request := [.packet 1 on, .powerTimer 1, .packet 3 off]
    let second (i : Nat) : Bool := i = 1 ∨ i = 2
    ∃ d, ofConfig {} = .ok d ∧ without second requests = rest ∧
      (d.turns requests).map (fun turn => (turn.after.state.get .power, messages turn.effects)) =
        [("Warming", [(1, .send [on.acknowledgement])]), ("Warming", [(2, .close)]),
          ("Warming", [(2, .send [query.acknowledgement,
            query.answering [0x33] (by decide) (by decide)])]),
          ("On", []), ("Cooling", [(3, .send [off.acknowledgement])])] ∧
      d.turns rest = without second (d.turns requests) ∧ d.Routed requests ∧ d.Routed rest := by
  intro on off noise query requests rest second
  have computed : ∃ d, ofConfig {} = .ok d ∧
      ((Command.ofPacket query (some (d.run (requests.take 2)).model)).toOption.map
        Command.name = some "power_status.query") ∧
      (d.turns requests).map (fun turn => (turn.after.state.get .power, messages turn.effects)) =
        [("Warming", [(1, .send [on.acknowledgement])]), ("Warming", [(2, .close)]),
          ("Warming", [(2, .send [query.acknowledgement,
            query.answering [0x33] (by decide) (by decide)])]),
          ("On", []), ("Cooling", [(3, .send [off.acknowledgement])])] :=
    ⟨_, rfl, by decide +kernel⟩
  obtain ⟨d, accepted, named, told⟩ := computed
  refine ⟨d, accepted, rfl, told, isolated_run accepted requests second ?_⟩
  intro i request at_i drop
  rcases of_decide_eq_true drop with rfl | rfl
  · cases at_i
    exact ⟨2, noise, rfl, .inl ⟨_, congrArg Prod.fst (dispatch_of_packetFault _ (.noCommand rfl))⟩⟩
  · cases at_i
    refine ⟨2, query, rfl, .inr ?_⟩
    cases known : Command.ofPacket query (some (d.run (requests.take 2)).model) with
    | error fault =>
        rw [known] at named
        cases named
    | ok command =>
        rw [known] at named
        refine ⟨command, rfl, ?_⟩
        rw [Option.some.inj named]
        decide +kernel

end Dispatcher

end ProjectorControl
