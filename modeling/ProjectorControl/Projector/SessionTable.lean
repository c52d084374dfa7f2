import ProjectorControl.Projector.Dispatcher

/-!
# The table of sessions

The sessions of an emulated projector, under numbers that are never used twice.  Each has
a mailbox, in which the dispatcher leaves what the session is to send.
-/

namespace ProjectorControl

/-- What the dispatcher tells a session. -/
inductive SessionMessage where
  /-- Send packets to the client. -/
  | send (packets : List Packet)
  /-- Close the connection. -/
  | close
  deriving DecidableEq, Repr

/-- An open session. -/
structure SessionEntry where
  /-- Its number. -/
  id : SessionId
  /-- What it was told and has not done yet. -/
  mailbox : List SessionMessage := []
  deriving DecidableEq, Repr

/-- The open sessions, oldest first, and the number of the last one opened. -/
structure SessionTable where
  /-- The open sessions. -/
  entries : List SessionEntry := []
  /-- How many sessions were ever opened. -/
  opened : Nat := 0
  deriving DecidableEq, Repr

namespace SessionTable

/-- Opens a session under the next number. -/
def openSession (t : SessionTable) : SessionId × SessionTable :=
  let id := t.opened + 1
  (id, { entries := t.entries ++ [{ id := id }], opened := id })

/-- Takes a session out. -/
def remove (t : SessionTable) (id : SessionId) : SessionTable :=
  { t with entries := t.entries.filter fun e => e.id ≠ id }

/-- Leaves a message for a session, if it is open. -/
def post (t : SessionTable) (id : SessionId) (message : SessionMessage) : SessionTable :=
  { t with
    entries := t.entries.map fun e =>
      if e.id = id then { e with mailbox := e.mailbox ++ [message] } else e }

/-- Takes the first message from the mailbox of a session. -/
def take? (t : SessionTable) (id : SessionId) : Option (SessionMessage × SessionTable) :=
  match t.entries.find? fun e => e.id = id with
  | none | some ⟨_, []⟩ => none
  | some ⟨_, message :: later⟩ =>
    some (message,
      { t with
        entries := t.entries.map fun e => if e.id = id then { e with mailbox := later } else e })

/-- Empties the mailbox of a session. -/
def collect (t : SessionTable) (id : SessionId) : List SessionMessage × SessionTable :=
  match t.entries.find? fun e => e.id = id with
  | none => ([], t)
  | some entry =>
    (entry.mailbox,
      { t with entries := t.entries.map fun e => if e.id = id then { e with mailbox := [] } else e })

/-- Empties all mailboxes. -/
def emptied (t : SessionTable) : SessionTable :=
  { t with entries := t.entries.map fun e => { e with mailbox := [] } }

/-- The numbers of the open sessions, oldest first. -/
def ids (t : SessionTable) : List SessionId := t.entries.map SessionEntry.id

/-- How many sessions are open. -/
def size (t : SessionTable) : Nat := t.entries.length

end SessionTable

end ProjectorControl
