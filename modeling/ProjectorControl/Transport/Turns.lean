import ProjectorControl.Transport.Stream

/-!
# Taking turns

A transport works on one call at a time, so callers who share one take turns.  Whoever comes
gets in line and waits until it is their turn:

    exchange       in line ──turn──> one call ──answer──> gone
    transaction    in line ──turn──> any number of calls, one after another ──> gone

A caller may leave at any time.  Who leaves during a call abandons it.

Callers come and go, and things happen to the transport, in any order.  Each of these is a
`SharedEvent`, and `SharedTransport.step` says what comes of it.
-/

namespace ProjectorControl

/-- What a caller has come for. -/
inductive Errand where
  /-- One exchange. -/
  | exchange (packet : Packet)
  /-- As many exchanges as the caller wants, with no other caller's between them. -/
  | transaction
  deriving DecidableEq, Repr

/-- A caller's turn. -/
structure Turn where
  /-- The number of callers who had come before. -/
  ticket : Nat
  /-- What the caller has come for. -/
  errand : Errand
  deriving DecidableEq, Repr

/-- A transport that callers share. -/
structure SharedTransport where
  /-- The transport. -/
  transport : StreamTransport
  /-- The turn of the caller whose turn it is. -/
  turn : Option Turn := none
  /-- The turns of those who wait, in the order in which they came. -/
  waiting : List Turn := []
  /-- How many callers have come. -/
  tickets : Nat := 0
  deriving DecidableEq, Repr

/-- What can happen to a transport that callers share. -/
inductive SharedEvent where
  /-- A caller comes. -/
  | come (errand : Errand)
  /-- The caller in front of the line looks whether it is their turn. -/
  | next
  /-- The caller whose transaction it is sends a packet. -/
  | exchange (packet : Packet)
  /-- A caller leaves. -/
  | leave (ticket : Nat)
  /-- Something happens to the transport. -/
  | happens (event : StreamEvent)
  deriving DecidableEq, Repr

/-- What a transport that callers share does. -/
inductive SharedEffect where
  /-- It begins an exchange in a caller's turn. -/
  | begins (turn : Turn) (packet : Packet)
  /-- It does what a transport does, in the turn of whoever's turn it is. -/
  | does (turn : Option Turn) (effect : StreamEffect)

/-- Whether an effect is an answer. -/
def StreamEffect.isAnswer : StreamEffect → Bool
  | .answer _ => true
  | .send _ | .received _ => false

namespace SharedTransport

/-- Lets something happen to the transport.  With an answer, the turn is over, unless it is one
for a transaction. -/
def act (s : SharedTransport) (event : StreamEvent) : SharedTransport × List SharedEffect :=
  let (transport, effects) := s.transport.step event
  let turn := if effects.any StreamEffect.isAnswer then
      s.turn.filter (·.errand = .transaction)
    else s.turn
  ({ s with transport, turn }, effects.map (.does s.turn))

/-- Begins an exchange in a caller's turn. -/
def begin (s : SharedTransport) (turn : Turn) (packet : Packet) :
    SharedTransport × List SharedEffect :=
  let (s, effects) := { s with turn := some turn }.act (.call packet)
  (s, .begins turn packet :: effects)

/-- What comes of an event. -/
def step (s : SharedTransport) : SharedEvent → SharedTransport × List SharedEffect
  | .come errand =>
    ({ s with waiting := s.waiting ++ [⟨s.tickets, errand⟩], tickets := s.tickets + 1 }, [])
  | .next =>
    match s.turn, s.waiting with
    | none, first :: later =>
      match first.errand with
      | .exchange packet => { s with waiting := later }.begin first packet
      | .transaction => ({ s with turn := some first, waiting := later }, [])
    | _, _ => (s, [])
  -- In a transaction, too, an exchange waits until the one before is over.
  | .exchange packet =>
    match s.turn, s.transport.pending with
    | some ⟨ticket, .transaction⟩, none => s.begin ⟨ticket, .transaction⟩ packet
    | _, _ => (s, [])
  | .leave ticket =>
    if s.turn.any (·.ticket = ticket) then
      ({ s with transport := (s.transport.step .abandon).1, turn := none }, [])
    else ({ s with waiting := s.waiting.filter (·.ticket ≠ ticket) }, [])
  -- Only callers call, and abandon their calls.
  | .happens (.call _) | .happens .abandon => (s, [])
  | .happens event => s.act event

/-- Lets events happen, one after another, and gives all that the transport does. -/
def run (s : SharedTransport) : List SharedEvent → SharedTransport × List SharedEffect
  | [] => (s, [])
  | event :: later =>
    (((s.step event).1.run later).1, (s.step event).2 ++ ((s.step event).1.run later).2)

end SharedTransport

end ProjectorControl
