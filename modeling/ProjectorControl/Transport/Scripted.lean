import ProjectorControl.Transport.Basic

/-!
# Scripted transports

A transport whose replies are written down beforehand.  It stands for a projector that
behaves in a given way, well or badly, and keeps a record of what it was sent.
-/

namespace ProjectorControl

/-- A reply that was written down. -/
inductive ScriptedReply where
  /-- The exchange fails. -/
  | fail (fault : Error)
  /-- These packets come back, whatever was sent. -/
  | packets (basic : Packet) (advanced : Option Packet)
  /-- The packet is acknowledged, and answered with a payload if there is one. -/
  | echo (payload : Option Bytes)
  deriving DecidableEq, Repr

/-- A reply, when it comes, and what comes after it. -/
structure ScriptEntry where
  /-- The reply. -/
  reply : ScriptedReply
  /-- How long it takes, in nanoseconds. -/
  delay : Nat := 0
  /-- Whether the transport ends after it. -/
  last : Bool := false
  deriving DecidableEq, Repr

/-- A transport that follows a script. -/
structure ScriptedTransport where
  /-- The replies to come, one for each packet. -/
  script : List ScriptEntry
  /-- Whether the last reply is used for ever. -/
  repeatLast : Bool := false
  /-- What was sent, first packet first. -/
  sent : List Packet := []
  /-- How the transport has ended. -/
  terminal : Terminal := none
  deriving DecidableEq, Repr

namespace ScriptedReply

/-- The packets of a reply to a packet. -/
def answer (reply : ScriptedReply) (packet : Packet) : Except Error ResponsePackets :=
  match reply with
  | fail fault => .error fault
  | packets basic advanced => .ok ⟨basic, advanced⟩
  | echo payload => do
    let basic ← Packet.build .basicResponse packet.code []
    match payload with
    | none => .ok ⟨basic, none⟩
    | some bytes =>
      let advanced ← Packet.build .advancedResponse packet.code bytes
      .ok ⟨basic, some advanced⟩

end ScriptedReply

namespace ScriptedTransport

/-- The next reply and the script without it. -/
def next? (t : ScriptedTransport) : Option (ScriptEntry × List ScriptEntry) :=
  match t.script with
  | [] => none
  | [entry] => some (entry, if t.repeatLast then [entry] else [])
  | entry :: later => some (entry, later)

/-- Records that a packet was sent, and replies to it.  A failed reply ends the transport. -/
def exchange (t : ScriptedTransport) (packet : Packet) (now : Moment)
    (interruption : Option Interruption) : Exchanged ScriptedTransport :=
  match t.terminal with
  | some _ => ⟨.error t.terminal.fault, 0, t⟩
  | none =>
    let t := { t with sent := t.sent ++ [packet] }
    let (entry, script) :=
      t.next?.getD (⟨.fail (.connectionClosed "script exhausted"), 0, false⟩, t.script)
    let answer := entry.reply.answer packet
    let latency := waitLength entry.delay
    let interrupted : Terminal := match interruption with
      | some i => if i.moment < now + latency then some i.outcome else none
      | none => none
    let terminal := match answer with
      | .error fault => interrupted.resolve (.failed fault)
      | .ok _ => if entry.last then interrupted.resolve .clean else interrupted
    ⟨answer, latency, { t with script := script, terminal := terminal }⟩

instance : Transport ScriptedTransport where
  exchange packet now interruption t := t.exchange packet now interruption
  shutdown outcome _ t := { t with terminal := t.terminal.resolve outcome }
  advance _ t := t
  outcome t := t.terminal

end ScriptedTransport

/-! ## Scripted connections -/

/-- What comes of an attempt to connect, written down beforehand. -/
structure ScriptedAttempt (τ : Type) where
  /-- The connection, or what goes wrong. -/
  result : Except Error τ
  /-- How long it takes, in nanoseconds. -/
  delay : Nat := 0

/-- A connector that follows a script, and counts. -/
structure ScriptedConnector (τ : Type) where
  /-- The attempts to come. -/
  script : List (ScriptedAttempt τ)
  /-- The number of attempts so far. -/
  attempts : Nat := 0

/-- Takes the next attempt of the script.  When there is none left, connecting fails. -/
def ScriptedConnector.connect {τ : Type} (k : ScriptedConnector τ) :
    Connected (ScriptedConnector τ) τ :=
  let attempts := k.attempts + 1
  match k.script with
  | [] => ⟨.error (.connectionClosed "no connection left"), 0, { k with attempts := attempts }⟩
  | attempt :: later => ⟨attempt.result, waitLength attempt.delay, ⟨later, attempts⟩⟩

instance {τ : Type} : Connector (ScriptedConnector τ) τ where
  connect _ k := k.connect

end ProjectorControl
