import ProjectorControl.Packet.Framing

/-!
# Inboxes

What has come from a peer over a stream and was not used yet, and how the stream has
ended.  During the handshake messages of a fixed length are taken from it, and after that
packets.
-/

namespace ProjectorControl

/-- How a stream has ended. -/
inductive StreamEnd where
  /-- The peer has closed its side. -/
  | closed
  /-- The connection has failed. -/
  | failed (reason : String)
  deriving DecidableEq, Repr

/-- What has arrived and was not used yet. -/
structure Inbox where
  /-- The bytes. -/
  decoder : Framing.Decoder := {}
  /-- How the stream has ended, if it has. -/
  ending : Option StreamEnd := none
  deriving DecidableEq, Repr

namespace Inbox

/-- Takes in bytes.  None come after the end. -/
def feed (inbox : Inbox) (bytes : Bytes) : Inbox :=
  match inbox.ending with
  | none => { inbox with decoder := inbox.decoder.feed bytes }
  | some _ => inbox

/-- Takes note of the end. -/
def finish (inbox : Inbox) (ending : StreamEnd) : Inbox :=
  { inbox with ending := inbox.ending <|> some ending }

/-- Takes a number of bytes, if there are so many. -/
def take? (inbox : Inbox) (count : Nat) : Option (Bytes × Inbox) :=
  let buffer := inbox.decoder.buffer
  if count ≤ buffer.length then
    some (buffer.take count, { inbox with decoder := { buffer := buffer.drop count } })
  else none

/-- Takes the next packet.  There is none if its bytes have not come yet; but after the end
of the stream that is a fault. -/
def next (inbox : Inbox) : Except Error (Option Packet) × Inbox :=
  match inbox.ending with
  | none =>
    let (result, decoder) := inbox.decoder.decode
    (result, { inbox with decoder := decoder })
  | some (.failed reason) =>
    match inbox.decoder.decode with
    | (.ok none, decoder) => (.error (.io reason), { inbox with decoder := decoder })
    | (result, decoder) => (result, { inbox with decoder := decoder })
  | some .closed =>
    match inbox.decoder.decodeEnd with
    | (.ok none, decoder) =>
      (.error (.connectionClosed "projector closed the connection"),
        { inbox with decoder := decoder })
    | (result, decoder) => (result, { inbox with decoder := decoder })

end Inbox

end ProjectorControl
