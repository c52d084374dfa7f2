import ProjectorControl.Projector.SessionTable

/-!
# A projector in time

A dispatcher together with the queue of its requests, the timers it has started, and the
mailboxes of its sessions.  Requests are handled in the order in which they were queued.
A timer that expires queues a request.  Timers come last among all that happens at one
moment.
-/

namespace ProjectorControl

/-- A timer that has not expired. -/
structure PowerTimer where
  /-- The change of power that started it. -/
  generation : Nat
  /-- When it expires. -/
  due : Moment
  deriving DecidableEq, Repr

/-- A projector, its queue and its timers. -/
structure Emulation where
  /-- The dispatcher. -/
  dispatcher : Dispatcher
  /-- The requests that wait, first one first. -/
  queue : List Request := []
  /-- The timers that run. -/
  timers : List PowerTimer := []
  /-- The open sessions. -/
  sessions : SessionTable := {}
  /-- The answers to callers, by their numbers. -/
  answers : List (Nat × StatusReply) := []
  /-- The time. -/
  now : Moment := 0
  /-- Whether requests are handled no more. -/
  stopped : Bool := false

namespace Emulation

/-- A projector as the settings say. -/
def ofConfig (c : EmulatorConfig) : Except Error Emulation :=
  (Dispatcher.ofConfig c).map fun d => { dispatcher := d }

/-- Queues a request. -/
def push (e : Emulation) (request : Request) : Emulation :=
  { e with queue := e.queue ++ [request] }

/-- Does what came out of a request. -/
def apply (e : Emulation) : DispatchEffect → Emulation
  | .send session packets => { e with sessions := e.sessions.post session (.send packets) }
  | .close session => { e with sessions := e.sessions.post session .close }
  | .startTimer generation delay =>
    { e with timers := e.timers ++ [⟨generation, e.now + waitLength delay.nanos⟩] }
  | .stopTimer generation =>
    { e with timers := e.timers.filter fun t => t.generation ≠ generation }
  | .answer caller reply => { e with answers := e.answers ++ [(caller, reply)] }

/-- Handles a request now. -/
def handle (e : Emulation) (request : Request) : Emulation :=
  if e.stopped then e
  else
    let (dispatcher, effects) := e.dispatcher.handle request
    effects.foldl apply { e with dispatcher := dispatcher, stopped := request = .stop }

/-- Handles the first request of the queue. -/
def step (e : Emulation) : Emulation :=
  match e.queue with
  | [] => e
  | request :: later => { e with queue := later }.handle request

/-- Handles all requests of the queue. -/
def drain (e : Emulation) : Emulation := e.queue.foldl handle { e with queue := [] }

/-- Lets a timer expire. -/
def fire (e : Emulation) (timer : PowerTimer) : Emulation :=
  { e with timers := e.timers.erase timer }.push (.powerTimer timer.generation)

/-- The timers due before a moment, earliest first. -/
def dueBefore (e : Emulation) (moment : Moment) : List PowerTimer :=
  (e.timers.filter fun t => t.due < moment).mergeSort fun a b => a.due ≤ b.due

/-- Lets a timer expire when it is due, if it still runs, and handles what is queued. -/
def expire (e : Emulation) (timer : PowerTimer) : Emulation :=
  if timer ∈ e.timers then ({ e with now := max e.now timer.due }.fire timer).drain else e

/-- Handles the queue, and all timers due before a moment in their order. -/
def runBefore (e : Emulation) (moment : Moment) : Emulation :=
  let e := e.drain
  (e.dueBefore moment).foldl expire e

/-- Lets time pass up to a moment.  What is due at the moment itself is not handled yet. -/
def advance (e : Emulation) (moment : Moment) : Emulation :=
  { e.runBefore moment with now := max e.now moment }

/-- Handles the queue, and all that is due by now. -/
def settle (e : Emulation) : Emulation := e.runBefore (e.now + 1)

/-- Lets some time pass, after all that is due by now. -/
def sleep (e : Emulation) (nanos : Nat) : Emulation := e.settle.advance (e.now + waitLength nanos)

/-- The last answer to a caller. -/
def answerTo? (e : Emulation) (caller : Nat) : Option StatusReply :=
  (e.answers.reverse.find? fun a => a.1 = caller).map Prod.snd

/-- Asks something and gives the answer, which comes at once unless the projector has
stopped.  Then all happens that is due by now. -/
def ask (e : Emulation) (request : Nat → Request) : Option StatusReply × Emulation :=
  let caller := e.answers.length
  let e := (e.push (request caller)).settle
  (e.answerTo? caller, e)

end Emulation

end ProjectorControl
