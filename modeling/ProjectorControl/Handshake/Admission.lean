import ProjectorControl.Handshake
import ProjectorControl.Transport.Stream.Inbox

/-!
# Being let in

The client's side of the handshake:

    greeting ──PJ_OK──> request ──all sent──> reply ──PJACK──> let in

Each message of the projector is waited for in full.  What comes after the last one is left
in the inbox.
-/

namespace ProjectorControl

/-- Where a handshake stands. -/
inductive AdmissionStage where
  /-- The greeting is awaited. -/
  | greeting
  /-- The request is being sent; some of its bytes are still to go. -/
  | request (unsent : Bytes)
  /-- The reply to the request is awaited. -/
  | reply
  deriving DecidableEq, Repr

/-- A handshake that goes on. -/
structure Admission where
  /-- The password to send. -/
  password : Option String
  /-- How long each message may take. -/
  limit : Duration
  /-- Where the handshake stands. -/
  stage : AdmissionStage := .greeting
  /-- What has arrived. -/
  inbox : Inbox := {}
  deriving DecidableEq, Repr

/-- How a handshake has ended. -/
inductive AdmissionResult where
  /-- The client was let in.  What has arrived since is kept. -/
  | admitted (inbox : Inbox)
  /-- It was not, or something went wrong. -/
  | failed (fault : Error)
  deriving DecidableEq, Repr

/-- A handshake after something has happened. -/
inductive AdmissionStep where
  /-- It goes on. -/
  | going (admission : Admission)
  /-- It has ended. -/
  | ended (result : AdmissionResult)
  deriving DecidableEq, Repr

namespace Admission

/-- The fault of a projector that does not say the whole message that is awaited. -/
def cutShort (awaited : String) : StreamEnd → Error
  | .closed => .handshakeFailed s!"connection closed while waiting for {awaited}"
  | .failed reason => .io reason

/-- What a stream that has ended, or not, means for a message that is not complete. -/
def awaitMore (a : Admission) (awaited : String) : AdmissionStep :=
  match a.inbox.ending with
  | none => .going a
  | some ending => .ended (.failed (cutShort awaited ending))

/-- Judges the greeting. -/
def judgeGreeting (a : Admission) (message : Bytes) : AdmissionStep :=
  if message = Handshake.greeting then
    .going { a with stage := .request (Handshake.requestWith a.password) }
  else .ended (.failed (.handshakeFailed s!"expected PJ_OK greeting, got {message.hex}"))

/-- Judges the reply. -/
def judgeReply (a : Admission) (message : Bytes) : AdmissionStep :=
  if message = Handshake.refused then .ended (.failed .authenticationFailed)
  else if message = Handshake.accepted then .ended (.admitted a.inbox)
  else .ended (.failed (.handshakeFailed s!"expected PJACK, got {message.hex}"))

/-- Uses what has arrived, as far as it is awaited. -/
def progress (a : Admission) : AdmissionStep :=
  match a.stage with
  | .greeting =>
    match a.inbox.take? Handshake.messageLength with
    | some (message, inbox) => { a with inbox := inbox }.judgeGreeting message
    | none => a.awaitMore "greeting"
  | .request _ => .going a
  | .reply =>
    match a.inbox.take? Handshake.messageLength with
    | some (message, inbox) => { a with inbox := inbox }.judgeReply message
    | none => a.awaitMore "auth reply"

/-- Takes note of bytes that have arrived. -/
def arrived (a : Admission) (bytes : Bytes) : AdmissionStep :=
  { a with inbox := a.inbox.feed bytes }.progress

/-- Takes note of the end of the stream. -/
def finished (a : Admission) (ending : StreamEnd) : AdmissionStep :=
  { a with inbox := a.inbox.finish ending }.progress

/-- Takes note that the projector has taken some bytes of the request. -/
def taken (a : Admission) (count : Nat) : AdmissionStep :=
  match a.stage with
  | .request unsent =>
    match unsent.drop count with
    | [] => { a with stage := .reply }.progress
    | rest => .going { a with stage := .request rest }
  | .greeting | .reply => .going a

/-- Takes note that the request could not be sent. -/
def sendFailed (_ : Admission) (reason : String) : AdmissionStep := .ended (.failed (.io reason))

/-- Takes note that the time limit of the present message has passed. -/
def expired (a : Admission) : AdmissionStep :=
  match a.stage with
  | .request _ => .ended (.failed (.timeout "write" a.limit))
  | .greeting | .reply => .ended (.failed (.timeout "handshake read" a.limit))

end Admission

end ProjectorControl
